import RustFerry.ForStd.Serde

/-!
# Strings of a JSON value

A predicate that holds of every string in a JSON value, names of members apart, and how it is
shown of what derived serialization writes.
-/

/-- Every string in the value satisfies the predicate; the names of members may not. -/
inductive Json.Strings (p : String → Prop) : Json → Prop where
  | null : Strings p .null
  | bool (b : Bool) : Strings p (.bool b)
  | number (n : JsonNumber) : Strings p (.number n)
  | string {s : String} : p s → Strings p (.string s)
  | array {items : List Json} : (∀ v ∈ items, Strings p v) → Strings p (.array items)
  | object {members : Members} : (∀ m ∈ members, Strings p m.2) → Strings p (.object members)

namespace Json.Strings

open Serde

variable {values : List (Option Json)}

variable {p : String → Prop}

/-- Every string among the values of some fields satisfies the predicate. -/
def Fields (p : String → Prop) (values : List (Option Json)) : Prop :=
  ∀ v ∈ values, ∀ j, v = some j → Strings p j

theorem Fields.nil : Fields p [] := by simp [Fields]

@[simp] theorem Fields.cons_some {v : Json} :
    Fields p (some v :: values) ↔ Strings p v ∧ Fields p values := by
  simp [Fields]

@[simp] theorem Fields.cons_none :
    Fields p (none :: values) ↔ Fields p values := by
  simp [Fields]

/-- A field of an object. -/
theorem of_mem_fields {names : List String} (hvalues : Fields p values) :
    ∀ m ∈ serializeFields names values, Strings p m.2 := by
  intro m hm
  induction names generalizing values with
  | nil => cases values <;> simp [serializeFields] at hm
  | cons name names ih =>
    cases values with
    | nil => simp [serializeFields] at hm
    | cons v values =>
      cases v with
      | none =>
        rw [Fields.cons_none] at hvalues
        exact ih hvalues hm
      | some j =>
        rw [Fields.cons_some] at hvalues
        rw [serializeFields, List.mem_cons] at hm
        rcases hm with rfl | hm
        · exact hvalues.1
        · exact ih hvalues.2 hm

theorem object_fields {names : List String} (hvalues : Fields p values) :
    Strings p (.object (serializeFields names values)) :=
  .object (of_mem_fields hvalues)

/-! ## Values -/

@[simp] theorem serialize_bool (b : Bool) : Strings p (serialize b) := .bool b

@[simp] theorem serialize_uint16 (n : UInt16) : Strings p (serialize n) := .number _

@[simp] theorem serialize_uint32 (n : UInt32) : Strings p (serialize n) := .number _

@[simp] theorem serialize_uint64 (n : UInt64) : Strings p (serialize n) := .number _

/-- A string as a value. -/
@[simp] theorem serialize_string {s : String} : Strings p (serialize s) ↔ p s := by
  constructor
  · intro h
    cases h with
    | string h => exact h
  · exact .string

section

variable {α : Type} [Serialize α]

/-- A list of such values. -/
theorem serialize_list {l : List α} (hl : ∀ a ∈ l, Strings p (serialize a)) :
    Strings p (serialize l) := by
  apply array
  intro v hv
  obtain ⟨a, ha, rfl⟩ := List.mem_map.mp hv
  exact hl a ha

/-- A set of such values. -/
theorem serialize_finset [LinearOrder α] {s : Finset α} (hs : ∀ a ∈ s, Strings p (serialize a)) :
    Strings p (serialize s) := by
  apply array
  intro v hv
  obtain ⟨a, ha, rfl⟩ := List.mem_map.mp hv
  exact hs a ((Finset.mem_sort _).mp ha)

theorem serialize_nullable {a : Option α} (ha : ∀ x, a = some x → Strings p (serialize x)) :
    Strings p (nullable a) := by
  cases a with
  | none => exact .null
  | some x => exact ha x rfl

/-- An optional field. -/
theorem Fields.cons_skipNone {a : Option α} (ha : ∀ x, a = some x → Strings p (serialize x))
    (hvalues : Fields p values) :
    Fields p (skipNone a :: values) := by
  cases a with
  | none => exact Fields.cons_none.mpr hvalues
  | some x => exact Fields.cons_some.mpr ⟨ha x rfl, hvalues⟩

end

end Json.Strings
