import RustFerry.ForStd.JsonRoundtrip
import Mathlib.Data.Finset.Sort

/-!
# Derived serialization

What `#[derive(Serialize, Deserialize)]` does with JSON values: structs by field
name, fields left out when they are `None`, unit enums by name, internally and
adjacently tagged enums and flattened members. A struct may also be read from an array of its fields in
order, and a unit variant from a map with one empty entry, as derived code allows.
-/

/-- Members of a JSON object. -/
abbrev Members := List (String × Json)

class Serialize (α : Type) where
  serialize : α → Json

class Deserialize (α : Type) where
  deserialize : Json → Option α

export Serialize (serialize)
export Deserialize (deserialize)

namespace Serde

variable {depth : Nat} {names : List String} {values : List (Option Json)}

/-! ## Fields -/

/-- The members of the fields `names`; a field without a value is left out. -/
def serializeFields : List String → List (Option Json) → Members
  | name :: names, some v :: values => (name, v) :: serializeFields names values
  | _ :: names, none :: values => serializeFields names values
  | _, _ => []

/-- The value of a field, if it is there; a duplicate field is an error. -/
def lookupField (members : Members) (name : String) : Option (Option Json) :=
  match members.filter fun m => m.1 == name with
  | [] => some none
  | [m] => some (some m.2)
  | _ => none

def deserializeFields (names : List String) (denyUnknown : Bool) (members : Members) :
    Option (List (Option Json)) :=
  if denyUnknown && members.any fun m => !names.contains m.1 then none
  else names.mapM (lookupField members)

/-- The field values of a struct. -/
def deserializeStruct (names : List String) (denyUnknown : Bool) :
    Json → Option (List (Option Json))
  | .object members => deserializeFields names denyUnknown members
  | .array items => if items.length = names.length then some (items.map some) else none
  | _ => none

section

variable {α : Type} [Serialize α] [Deserialize α]

/-- A field that has to be there. -/
def requiredField : Option Json → Option α
  | some v => deserialize v
  | none => none

/-- A field that may be missing or null. -/
def optionalField : Option Json → Option (Option α)
  | none => some none
  | some .null => some none
  | some v => (deserialize v).map some

/-- A field with `skip_serializing_if = "Option::is_none"`. -/
def skipNone (a : Option α) : Option Json := a.map serialize

/-- An optional field that is always written. -/
def nullable : Option α → Json
  | none => .null
  | some a => serialize a

end

/-! ## Enumerations -/

/-- A unit enum given by its variants' names. -/
def deserializeEnum {α : Type} (variants : List (String × α)) : Json → Option α
  | .string s => variants.lookup s
  | .object [(s, .null)] => variants.lookup s
  | .object [(s, .object [])] => variants.lookup s
  | _ => none

/-! ## Tags and flattened members -/

/-- The tag of an internally tagged enum and the members of its variant. -/
def takeTag (tag : String) (members : Members) : Option (Json × Members) :=
  match members.filter fun m => m.1 == tag with
  | [m] => some (m.2, members.filter fun m => m.1 != tag)
  | _ => none

/-- The members that are left for a flattened field. -/
def flattened (own : List String) (members : Members) : Members :=
  members.filter fun m => !own.contains m.1

/-- An adjacently tagged variant: its name, and its content unless it has none. -/
def adjacent (tag content name : String) (value : Option Json) : Json :=
  .object (serializeFields [tag, content] [some (.string name), value])

/-- The tag and the content of an adjacently tagged enum. -/
def deserializeAdjacent (tag content : String) (denyUnknown : Bool) (v : Json) :
    Option (Json × Option Json) :=
  match deserializeStruct [tag, content] denyUnknown v with
  | some [some name, value] => some (name, value)
  | _ => none

/-- The content of a variant that has none. -/
def unitContent : Option Json → Option Unit
  | none | some .null => some ()
  | _ => none

end Serde

/-! ## Standard types -/

instance : Serialize Bool := ⟨.bool⟩

instance : Deserialize Bool where
  deserialize
    | .bool b => some b
    | _ => none

instance : Serialize String := ⟨.string⟩

instance : Deserialize String where
  deserialize
    | .string s => some s
    | _ => none

/-- An unsigned integer below `bound`. -/
def deserializeNat (bound : Nat) : Json → Option Nat
  | .number (.unsigned n) => if n < bound then some n else none
  | _ => none

instance : Serialize UInt8 := ⟨fun n => .number (.unsigned n.toNat)⟩
instance : Serialize UInt16 := ⟨fun n => .number (.unsigned n.toNat)⟩
instance : Serialize UInt32 := ⟨fun n => .number (.unsigned n.toNat)⟩
instance : Serialize UInt64 := ⟨fun n => .number (.unsigned n.toNat)⟩

instance : Deserialize UInt8 := ⟨fun v => (deserializeNat (2 ^ 8) v).map UInt8.ofNat⟩
instance : Deserialize UInt16 := ⟨fun v => (deserializeNat (2 ^ 16) v).map UInt16.ofNat⟩
instance : Deserialize UInt32 := ⟨fun v => (deserializeNat (2 ^ 32) v).map UInt32.ofNat⟩
instance : Deserialize UInt64 := ⟨fun v => (deserializeNat (2 ^ 64) v).map UInt64.ofNat⟩

instance {α : Type} [Serialize α] : Serialize (List α) := ⟨fun l => .array (l.map serialize)⟩

instance {α : Type} [Deserialize α] : Deserialize (List α) where
  deserialize
    | .array items => items.mapM deserialize
    | _ => none

/-- An ordered set is written in order and read back whatever the order was. -/
instance {α : Type} [Serialize α] [LinearOrder α] : Serialize (Finset α) :=
  ⟨fun s => serialize (s.sort (· ≤ ·))⟩

instance {α : Type} [Deserialize α] [LinearOrder α] : Deserialize (Finset α) :=
  ⟨fun v => (deserialize v : Option (List α)).map List.toFinset⟩

/-! ## Laws -/

/-- A type that is read back from what it writes, in texts of bounded nesting. -/
class LawfulSerde (α : Type) [Serialize α] [Deserialize α] (depth : outParam Nat) : Prop where
  deserialize_serialize (a : α) : deserialize (serialize a) = some a
  fits_serialize (a : α) : (serialize a).Fits depth
  serialize_ne_null (a : α) : serialize a ≠ .null

export LawfulSerde (deserialize_serialize fits_serialize serialize_ne_null)

attribute [simp] deserialize_serialize

/-- A type whose values are told apart by what they write, in texts of bounded nesting. -/
class FaithfulSerialize (α : Type) [Serialize α] (depth : outParam Nat) : Prop where
  serialize_injective : Function.Injective (serialize : α → Json)
  serialize_fits (a : α) : (serialize a).Fits depth
  ne_null (a : α) : serialize a ≠ .null

instance (priority := low) {α : Type} [Serialize α] [Deserialize α] {depth : Nat}
    [LawfulSerde α depth] : FaithfulSerialize α depth where
  serialize_injective a b h := by
    have hread := deserialize_serialize a
    rw [h, deserialize_serialize b] at hread
    exact (Option.some.inj hread).symm
  serialize_fits := fits_serialize
  ne_null := serialize_ne_null

namespace Serde

section

variable {α : Type} [Serialize α] [Deserialize α]

@[simp] theorem requiredField_serialize [LawfulSerde α depth] (a : α) :
    requiredField (some (serialize a)) = some a := by
  simp [requiredField]

/-- A skipped field is read back. -/
@[simp] theorem optionalField_skipNone [LawfulSerde α depth] (a : Option α) :
    optionalField (skipNone a) = some a := by
  cases a with
  | none => rfl
  | some a =>
    have hne := serialize_ne_null a
    simp only [skipNone, Option.map_some, optionalField, deserialize_serialize]

@[simp] theorem optionalField_nullable [LawfulSerde α depth] (a : Option α) :
    optionalField (some (nullable a)) = some a := by
  cases a with
  | none => rfl
  | some a => exact optionalField_skipNone (some a)

end

/-- The values that a list of fields writes all fit. -/
def FieldsFit (n : Nat) (values : List (Option Json)) : Prop :=
  ∀ value ∈ values, ∀ v ∈ value, v.Fits n

@[simp] theorem FieldsFit.nil (n : Nat) : FieldsFit n [] := by
  simp [FieldsFit]

section

variable {α : Type} [Serialize α]

@[simp] theorem serialize_inj [FaithfulSerialize α depth] {a b : α} :
    serialize a = serialize b ↔ a = b :=
  FaithfulSerialize.serialize_injective.eq_iff

@[simp] theorem skipNone_inj [FaithfulSerialize α depth] {a b : Option α} :
    skipNone a = skipNone b ↔ a = b :=
  (Option.map_injective FaithfulSerialize.serialize_injective).eq_iff

/-- Null fields are told apart. -/
@[simp] theorem nullable_inj [FaithfulSerialize α depth] {a b : Option α} :
    nullable a = nullable b ↔ a = b := by
  cases a with
  | none =>
    cases b with
    | none => simp
    | some b => simp [nullable, (FaithfulSerialize.ne_null b).symm]
  | some a =>
    cases b with
    | none => simp [nullable, FaithfulSerialize.ne_null a]
    | some b => simp [nullable]

@[simp] theorem FieldsFit.serialize_cons [FaithfulSerialize α depth] {n : Nat} (hle : depth ≤ n)
    (a : α) (values : List (Option Json)) :
    FieldsFit n (some (serialize a) :: values) ↔ FieldsFit n values := by
  have h := (FaithfulSerialize.serialize_fits a).mono hle
  simp [FieldsFit, h]

/-- A field that may be skipped. -/
@[simp] theorem FieldsFit.skipNone_cons [FaithfulSerialize α depth] {n : Nat} (hle : depth ≤ n)
    (a : Option α) (values : List (Option Json)) :
    FieldsFit n (skipNone a :: values) ↔ FieldsFit n values := by
  cases a with
  | none => simp [FieldsFit, skipNone]
  | some a => exact FieldsFit.serialize_cons hle a values

/-- A field that may be null. -/
@[simp] theorem FieldsFit.nullable_cons [FaithfulSerialize α depth] {n : Nat} (hle : depth ≤ n)
    (a : Option α) (values : List (Option Json)) :
    FieldsFit n (some (nullable a) :: values) ↔ FieldsFit n values := by
  cases a with
  | none => simp [FieldsFit, nullable, Json.Fits.null]
  | some a => exact FieldsFit.serialize_cons hle a values

end

/-- The members fit. -/
theorem fits_of_mem_serializeFields {n : Nat} (h : FieldsFit n values) :
    ∀ m ∈ serializeFields names values, m.2.Fits n := by
  induction names generalizing values with
  | nil => intro m hm; simp [serializeFields] at hm
  | cons name names ih =>
    cases values with
    | nil => intro m hm; simp [serializeFields] at hm
    | cons value values =>
      have htail : FieldsFit n values := fun v hv => h v (List.mem_cons_of_mem _ hv)
      cases value with
      | none => exact ih htail
      | some v =>
        intro m hm
        rcases List.mem_cons.mp hm with rfl | hm
        · exact h (some v) List.mem_cons_self v rfl
        · exact ih htail m hm

/-- The members are fields. -/
theorem mem_names_of_mem_serializeFields :
    ∀ m ∈ serializeFields names values, m.1 ∈ names := by
  induction names generalizing values with
  | nil => intro m hm; simp [serializeFields] at hm
  | cons name names ih =>
    cases values with
    | nil => intro m hm; simp [serializeFields] at hm
    | cons value values =>
      cases value with
      | none =>
        intro m hm
        exact List.mem_cons_of_mem _ (ih m hm)
      | some v =>
        intro m hm
        rcases List.mem_cons.mp hm with rfl | hm
        · exact List.mem_cons_self
        · exact List.mem_cons_of_mem _ (ih m hm)

/-- There is no other member. -/
private theorem filter_name_eq_nil {names : List String} {members : Members} {name : String}
    (hmem : ∀ m ∈ members, m.1 ∈ names) (hname : name ∉ names) :
    (members.filter fun m => m.1 == name) = [] := by
  rw [List.filter_eq_nil_iff]
  intro m hm heq
  have hm1 : m.1 = name := by simpa using heq
  exact hname (hm1 ▸ hmem m hm)

/-- Equal functions, equal results. -/
private theorem mapM_option_congr {α β : Type} {f g : α → Option β} {l : List α}
    (h : ∀ a ∈ l, f a = g a) : l.mapM f = l.mapM g := by
  induction l with
  | nil => rfl
  | cons a l ih =>
    rw [List.mapM_cons, List.mapM_cons, h a List.mem_cons_self,
      ih fun x hx => h x (List.mem_cons_of_mem _ hx)]

/-- Every field is found. -/
private theorem mapM_lookupField (names : List String) (values : List (Option Json))
    (hnodup : names.Nodup) (hlen : values.length = names.length) :
    names.mapM (lookupField (serializeFields names values)) = some values := by
  induction names generalizing values with
  | nil =>
    rw [List.length_eq_zero_iff.mp hlen]
    rfl
  | cons name names ih =>
    cases values with
    | nil => cases hlen
    | cons value values =>
      obtain ⟨hname, hnodup⟩ := List.nodup_cons.mp hnodup
      have hrest := ih values hnodup (by simpa using hlen)
      have habsent : ((serializeFields names values).filter fun m => m.1 == name) = [] :=
        filter_name_eq_nil mem_names_of_mem_serializeFields hname
      -- the other fields do not see this one
      have hothers : names.mapM
          (lookupField (serializeFields (name :: names) (value :: values))) =
            names.mapM (lookupField (serializeFields names values)) := by
        apply mapM_option_congr
        intro other hother
        have hne : name ≠ other := by rintro rfl; exact hname hother
        cases value with
        | none => rfl
        | some v => simp [serializeFields, lookupField, hne]
      have hhead : lookupField (serializeFields (name :: names) (value :: values)) name =
          some value := by
        cases value with
        | none => simp [serializeFields, lookupField, habsent]
        | some v => simp [serializeFields, lookupField, habsent]
      rw [List.mapM_cons, hhead, hothers, hrest]
      rfl

/-- The fields of a struct are found again, whatever was left out. -/
theorem deserializeFields_serializeFields (hnodup : names.Nodup)
    (hlen : values.length = names.length) (denyUnknown : Bool) :
    deserializeFields names denyUnknown (serializeFields names values) = some values := by
  have hknown : (serializeFields names values).any (fun m => !names.contains m.1) = false := by
    rw [List.any_eq_false]
    intro m hm
    simpa using mem_names_of_mem_serializeFields m hm
  rw [deserializeFields, hknown, Bool.and_false, mapM_lookupField names values hnodup hlen]
  rfl

theorem fits_object_serializeFields {n : Nat} (names : List String) (h : FieldsFit n values) :
    (Json.object (serializeFields names values)).Fits (n + 1) :=
  .object (fits_of_mem_serializeFields h)

theorem deserializeStruct_serializeFields (hnodup : names.Nodup)
    (hlen : values.length = names.length) (denyUnknown : Bool) :
    deserializeStruct names denyUnknown (.object (serializeFields names values)) = some values :=
  deserializeFields_serializeFields hnodup hlen denyUnknown

/-- A struct is lawful when its field values determine it. -/
theorem lawfulSerde_struct {α : Type} [Serialize α] [Deserialize α]
    {fields : α → List (Option Json)} {ofFields : List (Option Json) → Option α} {n : Nat}
    {denyUnknown : Bool}
    (hserialize : ∀ a, serialize a = .object (serializeFields names (fields a)))
    (hdeserialize : ∀ v, deserialize v = (deserializeStruct names denyUnknown v).bind ofFields)
    (hfields : ∀ a, ofFields (fields a) = some a) (hfit : ∀ a, FieldsFit n (fields a))
    (hnodup : names.Nodup := by decide)
    (hlen : ∀ a, (fields a).length = names.length := by intro; rfl) :
    LawfulSerde α (n + 1) where
  deserialize_serialize a := by
    rw [hdeserialize, hserialize, deserializeStruct_serializeFields hnodup (hlen a)]
    exact hfields a
  fits_serialize a := by
    rw [hserialize]
    exact fits_object_serializeFields names (hfit a)
  serialize_ne_null a h := by
    rw [hserialize] at h
    cases h

/-- A struct is read from the fields that another one writes under the same names. -/
theorem deserialize_serialize_struct {P S : Type} [Serialize P] [Deserialize S]
    {fields : P → List (Option Json)} {ofFields : List (Option Json) → Option S}
    {denyUnknown : Bool} (hnodup : names.Nodup) (hlen : ∀ p, (fields p).length = names.length)
    (hserialize : ∀ p, serialize p = .object (serializeFields names (fields p)))
    (hdeserialize : ∀ v, deserialize v = (deserializeStruct names denyUnknown v).bind ofFields)
    (p : P) : (deserialize (serialize p) : Option S) = ofFields (fields p) := by
  rw [hdeserialize, hserialize, deserializeStruct_serializeFields hnodup (hlen p)]
  rfl

/-- A list is read by a type that reads its elements. -/
theorem deserialize_serialize_list {P S : Type} [Serialize P] [Deserialize S] {read : P → S}
    (h : ∀ p, (deserialize (serialize p) : Option S) = some (read p)) (l : List P) :
    (deserialize (serialize l) : Option (List S)) = some (l.map read) := by
  show (l.map serialize).mapM deserialize = some (l.map read)
  induction l with
  | nil => rfl
  | cons p l ih => simp [h, ih]

/-- What another type reads back is told apart. -/
theorem faithfulSerialize_of_read {P S : Type} [Serialize P] [Deserialize S] {read : P → S}
    {into : S → P} (hread : ∀ p, (deserialize (serialize p) : Option S) = some (read p))
    (hinto : ∀ p, into (read p) = p) (hfits : ∀ p : P, (serialize p).Fits depth)
    (hne : ∀ p : P, serialize p ≠ .null) : FaithfulSerialize P depth where
  serialize_injective a b h := by
    have hsame : some (read a) = some (read b) := by
      rw [← hread, ← hread, h]
    rw [← hinto a, ← hinto b, Option.some.inj hsame]
  serialize_fits := hfits
  ne_null := hne

/-- A struct is told apart by its fields. -/
theorem faithfulSerialize_struct {α : Type} [Serialize α] {fields : α → List (Option Json)}
    {n : Nat} (hserialize : ∀ a, serialize a = .object (serializeFields names (fields a)))
    (hfields : ∀ a b, fields a = fields b → a = b) (hfit : ∀ a, FieldsFit n (fields a))
    (hnodup : names.Nodup := by decide)
    (hlen : ∀ a, (fields a).length = names.length := by intro; rfl) :
    FaithfulSerialize α (n + 1) where
  serialize_injective a b h := by
    have hobject := (hserialize a).symm.trans (h.trans (hserialize b))
    have hread := deserializeFields_serializeFields hnodup (hlen a) false
    rw [Json.object.inj hobject, deserializeFields_serializeFields hnodup (hlen b)] at hread
    exact hfields a b (Option.some.inj hread).symm
  serialize_fits a := by
    rw [hserialize]
    exact fits_object_serializeFields names (hfit a)
  ne_null a h := by
    rw [hserialize] at h
    cases h

/-- The tag and what follows it. -/
theorem takeTag_cons {tag : String} {v : Json} {members : Members}
    (h : ∀ m ∈ members, m.1 ≠ tag) : takeTag tag ((tag, v) :: members) = some (v, members) := by
  have hnone : (members.filter fun m => m.1 == tag) = [] := by
    rw [List.filter_eq_nil_iff]
    intro m hm heq
    exact h m hm (by simpa using heq)
  have hall : (members.filter fun m => m.1 != tag) = members := by
    rw [List.filter_eq_self]
    intro m hm
    simpa using h m hm
  simp [takeTag, hnone, hall]

/-- Own fields come first, the flattened members are left over. -/
theorem flattened_append {own : List String} {members rest : Members}
    (hown : ∀ m ∈ members, m.1 ∈ own) (hrest : ∀ m ∈ rest, m.1 ∉ own) :
    flattened own (members ++ rest) = rest := by
  have h1 : flattened own members = [] := by
    rw [flattened, List.filter_eq_nil_iff]
    intro m hm
    simpa using hown m hm
  have h2 : flattened own rest = rest := by
    rw [flattened, List.filter_eq_self]
    intro m hm
    simpa using hrest m hm
  rw [flattened, List.filter_append]
  exact (congrArg₂ _ h1 h2).trans (List.nil_append rest)

/-- Tag and content are read back. -/
theorem deserializeAdjacent_adjacent {tag content : String} (hne : tag ≠ content)
    (denyUnknown : Bool) (name : String) (value : Option Json) :
    deserializeAdjacent tag content denyUnknown (adjacent tag content name value) =
      some (.string name, value) := by
  rw [deserializeAdjacent, adjacent,
    deserializeStruct_serializeFields (by simp [hne]) rfl]

/-- The tagged value fits. -/
theorem fits_adjacent {n : Nat} (tag content name : String) {value : Option Json}
    (h : ∀ v ∈ value, v.Fits n) : (adjacent tag content name value).Fits (n + 1) := by
  apply fits_object_serializeFields
  intro v hv
  rcases List.mem_cons.mp hv with rfl | hv
  · intro j hj
    cases hj
    exact .string name
  · rw [List.mem_singleton.mp hv]
    exact h

/-- Flattened members do not disturb the fields before them. -/
theorem deserializeFields_append (hnodup : names.Nodup) (hlen : values.length = names.length)
    {rest : Members} (hrest : ∀ m ∈ rest, m.1 ∉ names) :
    deserializeFields names false (serializeFields names values ++ rest) = some values := by
  have hlookup : ∀ name ∈ names, lookupField (serializeFields names values ++ rest) name =
      lookupField (serializeFields names values) name := by
    intro name hname
    have hnil : (rest.filter fun m => m.1 == name) = [] := by
      rw [List.filter_eq_nil_iff]
      intro m hm heq
      have hm1 : m.1 = name := by simpa using heq
      exact hrest m hm (hm1 ▸ hname)
    simp [lookupField, hnil]
  rw [deserializeFields, Bool.false_and, mapM_option_congr hlookup,
    mapM_lookupField names values hnodup hlen]
  rfl

end Serde

/-! ## Instances -/

instance : LawfulSerde Bool 0 where
  deserialize_serialize _ := rfl
  fits_serialize b := .bool b
  serialize_ne_null _ h := nomatch h

instance : LawfulSerde String 0 where
  deserialize_serialize _ := rfl
  fits_serialize s := .string s
  serialize_ne_null _ h := nomatch h

instance : LawfulSerde UInt8 0 where
  deserialize_serialize n := by
    simp [serialize, deserialize, deserializeNat, n.toNat_lt]
  fits_serialize n := .number (by have := n.toNat_lt; omega)
  serialize_ne_null _ h := nomatch h

instance : LawfulSerde UInt16 0 where
  deserialize_serialize n := by
    simp [serialize, deserialize, deserializeNat, n.toNat_lt]
  fits_serialize n := .number (by have := n.toNat_lt; omega)
  serialize_ne_null _ h := nomatch h

instance : LawfulSerde UInt32 0 where
  deserialize_serialize n := by
    simp [serialize, deserialize, deserializeNat, n.toNat_lt]
  fits_serialize n := .number (by have := n.toNat_lt; omega)
  serialize_ne_null _ h := nomatch h

instance : LawfulSerde UInt64 0 where
  deserialize_serialize n := by
    simp [serialize, deserialize, deserializeNat, n.toNat_lt]
  fits_serialize n := .number n.toNat_lt
  serialize_ne_null _ h := nomatch h

instance {α : Type} [Serialize α] [Deserialize α] {depth : Nat} [LawfulSerde α depth] :
    LawfulSerde (List α) (depth + 1) where
  deserialize_serialize l := by
    show (l.map serialize).mapM deserialize = some l
    induction l with
    | nil => rfl
    | cons a l ih => simp [ih]
  fits_serialize l := by
    apply Json.Fits.array
    intro v hv
    obtain ⟨a, -, rfl⟩ := List.mem_map.mp hv
    exact fits_serialize a
  serialize_ne_null _ h := nomatch h

instance {α : Type} [Serialize α] [Deserialize α] [LinearOrder α] {depth : Nat}
    [LawfulSerde α depth] : LawfulSerde (Finset α) (depth + 1) where
  deserialize_serialize s := by
    show Option.map List.toFinset (deserialize (serialize (s.sort (· ≤ ·)))) = some s
    rw [deserialize_serialize, Option.map_some, Finset.sort_toFinset]
  fits_serialize s := fits_serialize (s.sort (· ≤ ·))
  serialize_ne_null _ h := nomatch h

instance {α : Type} [Serialize α] {depth : Nat} [FaithfulSerialize α depth] :
    FaithfulSerialize (List α) (depth + 1) where
  serialize_injective a b h :=
    List.map_injective_iff.mpr FaithfulSerialize.serialize_injective (Json.array.inj h)
  serialize_fits l := by
    apply Json.Fits.array
    intro v hv
    obtain ⟨a, -, rfl⟩ := List.mem_map.mp hv
    exact FaithfulSerialize.serialize_fits a
  ne_null _ h := nomatch h
