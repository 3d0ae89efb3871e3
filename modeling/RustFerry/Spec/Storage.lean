import RustFerry.Native.Storage
import RustFerry.Spec.RevisionFiles

/-!
# The storage backends agree

The directory of records answers like the map in memory as long as the file names of the keys that
are read, written or removed are not too long. A key may have 512 bytes, but its file name has two
characters for each byte, so from 120 bytes on no value can be stored.
-/

namespace RustFerry.Storage

open Except Serde FileStorage

/-! ## Records -/

instance : LawfulSerde FileRecord 2 :=
  lawfulSerde_struct (fun _ => rfl) (fun _ => rfl)
    (fun a => by simp [FileRecord.fields, FileRecord.ofFields])
    (fun a => by simp [FileRecord.fields])

/-- A record that was written is read back. -/
theorem decodeRecord_recordBytes (key : String) (value : List UInt8) :
    decodeRecord key (recordBytes value) = .ok value := by
  have hfits : (serialize (FileRecord.mk 1 (checksum value) value)).Fits 2 := fits_serialize _
  have hjson : JobStore.jsonOfBytes (recordBytes value) =
      some (serialize (FileRecord.mk 1 (checksum value) value)) := by
    rw [JobStore.jsonOfBytes, recordBytes, Remote.toVec, Text.fromUtf8_utf8, Option.bind_some,
      String.toList_ofList]
    exact Json.parse_print_bare hfits (by decide)
  rw [decodeRecord, hjson, Option.bind_some, deserialize_serialize]
  simp [rejectIf, bind, Except.bind, pure, Except.pure]

/-! ## File names -/

theorem digitChar_injective : ∀ a < 16, ∀ b < 16, Nat.digitChar a = Nat.digitChar b → a = b := by
  decide

theorem hexDigits_injective : Function.Injective hexDigits := by
  intro a b h
  have ha := a.toNat_lt
  have hb := b.toNat_lt
  simp only [hexDigits, List.cons.injEq, and_true] at h
  have hhigh := digitChar_injective (a.toNat / 16) (by omega) (b.toNat / 16) (by omega) h.1
  have hlow := digitChar_injective (a.toNat % 16) (by omega) (b.toNat % 16) (by omega) h.2
  apply UInt8.toNat_inj.mp
  omega

theorem flatMap_hexDigits_injective {a b : List UInt8}
    (h : a.flatMap hexDigits = b.flatMap hexDigits) : a = b := by
  induction a generalizing b with
  | nil =>
    cases b with
    | nil => rfl
    | cons byte b => cases h
  | cons byte a ih =>
    cases b with
    | nil => cases h
    | cons byte' b =>
      rw [List.flatMap_cons, List.flatMap_cons] at h
      obtain ⟨hbyte, hrest⟩ := List.append_inj h rfl
      rw [hexDigits_injective hbyte, ih hrest]

/-- Distinct keys have distinct files. -/
theorem fileName_injective : Function.Injective fileName := by
  intro a b h
  have hchars := String.ofList_injective h
  have hhex := List.append_cancel_right hchars
  exact Text.utf8_injective (flatMap_hexDigits_injective hhex)

theorem utf8Size_digitChar : ∀ n < 16, (Nat.digitChar n).utf8Size = 1 := by
  decide

theorem textSize_hexDigits (byte : UInt8) : Json.textSize (hexDigits byte) = 2 := by
  have hbyte := byte.toNat_lt
  rw [hexDigits, Json.textSize_cons, Json.textSize_cons, Json.textSize_nil,
    utf8Size_digitChar _ (by omega), utf8Size_digitChar _ (by omega)]

theorem textSize_flatMap_hexDigits (bytes : List UInt8) :
    Json.textSize (bytes.flatMap hexDigits) = 2 * bytes.length := by
  induction bytes with
  | nil => rfl
  | cons byte bytes ih =>
    rw [List.flatMap_cons, Json.textSize_append, textSize_hexDigits, ih, List.length_cons]
    omega

theorem utf8ByteSize_fileName (key : String) :
    (fileName key).utf8ByteSize = 2 * key.utf8ByteSize + 16 := by
  have hextension : Json.textSize ('.' :: extension.toList) = 16 := by decide
  rw [fileName, Json.utf8ByteSize_ofList, Json.textSize_append, textSize_flatMap_hexDigits,
    Text.length_utf8, hextension]

theorem utf8ByteSize_temporaryName (uuid : Uuid) : (temporaryName uuid).utf8ByteSize = 41 := by
  have hfront : ".".utf8ByteSize = 1 := by decide
  have hback : ".tmp".utf8ByteSize = 4 := by decide
  rw [temporaryName, String.utf8ByteSize_append, String.utf8ByteSize_append, uuid.size, hfront,
    hback]

variable {key : String}

theorem utf8_ne_nil (h : key ≠ "") : Text.utf8 key ≠ [] := by
  intro hnil
  have hempty : Text.utf8 "" = [] := by decide
  exact h (Text.utf8_injective (hnil.trans hempty.symm))

theorem digitChar_ne_dot : ∀ n < 16, Nat.digitChar n ≠ '.' := by
  decide

/-- A temporary file is not the file of a key. -/
theorem temporaryName_ne_fileName (uuid : Uuid) (h : key ≠ "") :
    temporaryName uuid ≠ fileName key := by
  intro heq
  obtain ⟨byte, bytes, hbytes⟩ := List.exists_cons_of_ne_nil (utf8_ne_nil h)
  have hchars := congrArg String.toList heq
  rw [temporaryName, fileName, hbytes, String.toList_ofList, String.toList_append,
    String.toList_append, List.flatMap_cons] at hchars
  have hhead := congrArg List.head? hchars
  have hbyte := byte.toNat_lt
  apply digitChar_ne_dot (byte.toNat / 16) (by omega)
  simpa [hexDigits] using hhead.symm

theorem hasStoreExtension_fileName (h : key ≠ "") :
    hasStoreExtension (fileName key) = true := by
  obtain ⟨byte, bytes, hbytes⟩ := List.exists_cons_of_ne_nil (utf8_ne_nil h)
  have hdot : '.' ∉ extension.toList := by decide
  rw [hasStoreExtension, fileName, String.toList_ofList, Text.rsplitOnce_append hdot, hbytes]
  simp [hexDigits]

/-! ## Keys -/

/-- A key whose file name is not too long. -/
def Storable (key : String) : Prop := key ≠ "" ∧ key.utf8ByteSize ≤ 119

/-- The file of such a key can be named. -/
theorem Storable.fileName_le (h : Storable key) :
    (fileName key).utf8ByteSize ≤ Directory.maxNameBytes := by
  have hsize := h.2
  rw [utf8ByteSize_fileName, Directory.maxNameBytes]
  omega

theorem validateKey_eq_ok :
    validateKey key = .ok () ↔ key ≠ "" ∧ key.utf8ByteSize ≤ 512 := by
  rw [validateKey, check_bind_eq_ok, rejectIf_eq_ok, rejectIf_eq_ok, beq_eq_false_iff_ne,
    decide_eq_false_iff_not, Nat.not_lt]

/-- An accepted key has its file. -/
theorem pathForKey_of_valid (h : validateKey key = .ok ()) :
    pathForKey key = .ok (fileName key) := by
  rw [pathForKey, h]
  rfl

variable {failure : StorageError}

/-- A refused key has none. -/
theorem pathForKey_of_invalid
    (h : validateKey key = .error failure) : pathForKey key = .error failure := by
  rw [pathForKey, h]
  rfl

/-- A call that the directory can answer: the file name of its key is not too long, or the key is
refused. -/
def Call.keyFits : Call → Prop
  | .getRaw key | .setRaw key _ | .remove key =>
    key.utf8ByteSize ≤ 119 ∨ 512 < key.utf8ByteSize
  | .contains _ | .clear => True

/-- Keys within this length are storable. -/
theorem storable_of_fits (hvalid : validateKey key = .ok ())
    (h : key.utf8ByteSize ≤ 119 ∨ 512 < key.utf8ByteSize) : Storable key := by
  obtain ⟨hne, hsize⟩ := validateKey_eq_ok.mp hvalid
  exact ⟨hne, by omega⟩

/-- Longer ones have too long a name. -/
theorem maxNameBytes_lt_fileName (h : 119 < key.utf8ByteSize) :
    Directory.maxNameBytes < (fileName key).utf8ByteSize := by
  rw [utf8ByteSize_fileName, Directory.maxNameBytes]
  omega

/-! ## Simulation -/

/-- The directory holds the records of the map and nothing else. -/
structure Sim (values : InMemoryStorage.Values) (directory : Directory) : Prop where
  stored : ∀ key, Storable key →
    directory.find (fileName key) = (values.lookup key).map recordBytes
  files : ∀ name bytes, directory.find name = some bytes →
    ∃ key, Storable key ∧ name = fileName key
  keys : ∀ key value, values.lookup key = some value → Storable key

theorem Sim.empty : Sim [] .empty where
  stored _ _ := rfl
  files _ _ h := by cases h
  keys _ _ h := by cases h

variable {directory : Directory}

section

variable {values : InMemoryStorage.Values} {directory : Directory} {key : String}

section

variable (h : Sim values directory)

include h

theorem Sim.congr {values' : InMemoryStorage.Values}
    (hlookup : ∀ key, values'.lookup key = values.lookup key) : Sim values' directory := by
  constructor
  · intro key hkey
    rw [hlookup]
    exact h.stored key hkey
  · exact h.files
  · intro key value hvalue
    rw [hlookup] at hvalue
    exact h.keys key value hvalue

theorem Sim.find_temporaryName (uuid : Uuid) :
    directory.find (temporaryName uuid) = none := by
  cases hfind : directory.find (temporaryName uuid) with
  | none => rfl
  | some bytes =>
    obtain ⟨key, hkey, hname⟩ := h.files _ _ hfind
    exact absurd hname (temporaryName_ne_fileName uuid hkey.1)

/-- What the file of a key leads to. -/
theorem Sim.resolve (hkey : Storable key) :
    directory.resolve (fileName key) = match values.lookup key with
      | some value => .ok (recordBytes value)
      | none => .error .notFound := by
  have hstored := h.stored key hkey
  cases hlookup : values.lookup key with
  | some value =>
    rw [hlookup] at hstored
    exact Directory.resolve_of_find hkey.fileName_le hstored
  | none =>
    rw [hlookup] at hstored
    exact Directory.resolve_of_find_none hkey.fileName_le hstored

theorem Sim.getRaw (root : String) (hfits : key.utf8ByteSize ≤ 119 ∨ 512 < key.utf8ByteSize) :
    FileStorage.getRaw root directory key = InMemoryStorage.getRaw values key := by
  unfold FileStorage.getRaw InMemoryStorage.getRaw
  cases hvalid : validateKey key with
  | error failure =>
    rw [pathForKey_of_invalid hvalid]
    rfl
  | ok =>
    have hresolve := h.resolve (storable_of_fits hvalid hfits)
    rw [pathForKey_of_valid hvalid]
    cases hlookup : values.lookup key with
    | some value =>
      rw [hlookup] at hresolve
      simp [bind, Except.bind, hresolve, decodeRecord_recordBytes, pure, Except.pure]
    | none =>
      rw [hlookup] at hresolve
      simp [bind, Except.bind, hresolve, pure, Except.pure]

/-- A key that is not storable is in neither backend. -/
theorem Sim.contains :
    FileStorage.contains directory key = InMemoryStorage.contains values key := by
  unfold FileStorage.contains InMemoryStorage.contains
  cases hvalid : validateKey key with
  | error failure =>
    rw [pathForKey_of_invalid hvalid]
    rfl
  | ok =>
    rw [pathForKey_of_valid hvalid]
    show Except.ok (directory.isFile (fileName key)) = Except.ok (values.lookup key).isSome
    by_cases hsize : key.utf8ByteSize ≤ 119
    · have hresolve := h.resolve (storable_of_fits hvalid (.inl hsize))
      rw [Directory.isFile, hresolve]
      cases values.lookup key <;> rfl
    · have hlong := maxNameBytes_lt_fileName (Nat.not_le.mp hsize)
      have hnone : values.lookup key = none := by
        cases hlookup : values.lookup key with
        | none => rfl
        | some value => exact absurd (h.keys key value hlookup).2 hsize
      rw [Directory.isFile, Directory.resolve_of_long hlong, hnone]
      rfl

/-- What the directory holds after a record was replaced. -/
theorem Sim.replaceRecord (root : String) (uuid : Uuid) (hkey : Storable key) (bytes : List UInt8) :
    ∃ replaced, FileStorage.replaceRecord root directory (temporaryName uuid) (fileName key)
        bytes = (replaced, .ok ()) ∧
      ∀ name, replaced.find name =
        if name = fileName key then some bytes else directory.find name := by
  have htemporary := h.find_temporaryName uuid
  have hlength : (temporaryName uuid).utf8ByteSize ≤ Directory.maxNameBytes := by
    rw [utf8ByteSize_temporaryName, Directory.maxNameBytes]
    omega
  have hcreate : directory.createNew (temporaryName uuid) =
      .ok (directory.put (temporaryName uuid) []) := by
    rw [Directory.createNew, Directory.resolve_of_find_none hlength htemporary]
  generalize hwritten : (directory.put (temporaryName uuid) []).put (temporaryName uuid) bytes =
    written
  -- the temporary file beside the others, before it is renamed
  have hfound : ∀ name, written.find name =
      if name = temporaryName uuid then some bytes else directory.find name := by
    intro name
    rw [← hwritten, Directory.find_put, Directory.find_put]
    split <;> rfl
  have hresolve : written.resolve (temporaryName uuid) = .ok bytes := by
    apply Directory.resolve_of_find hlength
    rw [hfound, if_pos rfl]
  refine ⟨(written.erase (temporaryName uuid)).put (fileName key) bytes, ?_, ?_⟩
  · unfold FileStorage.replaceRecord
    rw [hcreate]
    simp only [hwritten]
    rw [Directory.rename, hresolve]
    simp only [if_neg (Nat.not_lt.mpr hkey.fileName_le)]
  · intro name
    rw [Directory.find_put, Directory.find_erase, hfound]
    by_cases hname : name = fileName key
    · rw [if_pos hname, if_pos hname]
    · rw [if_neg hname, if_neg hname]
      by_cases htemp : name = temporaryName uuid
      · rw [if_pos htemp, htemp, htemporary]
      · rw [if_neg htemp, if_neg htemp]

/-- A value is stored in both. -/
theorem Sim.insert (hkey : Storable key) {replaced : Directory}
    {value : List UInt8} (hfind : ∀ name, replaced.find name =
      if name = fileName key then some (recordBytes value) else directory.find name) :
    Sim (BTreeMap.insert key value values) replaced := by
  constructor
  · intro other hother
    rw [hfind, BTreeMap.lookup_insert]
    by_cases hsame : other = key
    · rw [if_pos hsame, if_pos (congrArg fileName hsame)]
      rfl
    · rw [if_neg hsame, if_neg fun heq => hsame (fileName_injective heq)]
      exact h.stored other hother
  · intro name bytes hname
    rw [hfind] at hname
    split at hname
    · rename_i heq
      exact ⟨key, hkey, heq⟩
    · exact h.files name bytes hname
  · intro other stored hother
    rw [BTreeMap.lookup_insert] at hother
    split at hother
    · rename_i heq
      rw [heq]
      exact hkey
    · exact h.keys other stored hother

/-- A value is removed from both. -/
theorem Sim.erase :
    Sim (values.filter fun entry => entry.1 != key) (directory.erase (fileName key)) := by
  constructor
  · intro other hother
    rw [Directory.find_erase, BTreeMap.lookup_remove]
    by_cases hsame : other = key
    · rw [if_pos hsame, if_pos (congrArg fileName hsame)]
      rfl
    · rw [if_neg hsame, if_neg fun heq => hsame (fileName_injective heq)]
      exact h.stored other hother
  · intro name bytes hname
    rw [Directory.find_erase] at hname
    split at hname
    · cases hname
    · exact h.files name bytes hname
  · intro other stored hother
    rw [BTreeMap.lookup_remove] at hother
    split at hother
    · cases hother
    · exact h.keys other stored hother

/-- A key is written alike. -/
theorem Sim.setRaw (root : String) (uuid : Uuid)
    (value : List UInt8) (hfits : key.utf8ByteSize ≤ 119 ∨ 512 < key.utf8ByteSize) :
    Sim (InMemoryStorage.setRaw values key value).1
        (FileStorage.setRaw root directory key value uuid).1 ∧
      (FileStorage.setRaw root directory key value uuid).2 =
        (InMemoryStorage.setRaw values key value).2 := by
  unfold InMemoryStorage.setRaw FileStorage.setRaw
  cases hvalid : validateKey key with
  | error failure =>
    rw [pathForKey_of_invalid hvalid]
    exact ⟨h, rfl⟩
  | ok =>
    have hkey := storable_of_fits hvalid hfits
    obtain ⟨replaced, hreplace, hfind⟩ := h.replaceRecord root uuid hkey (recordBytes value)
    rw [pathForKey_of_valid hvalid]
    simp only [hreplace]
    exact ⟨h.insert hkey hfind, trivial⟩

/-- A key is removed alike. -/
theorem Sim.remove (root : String) (hfits : key.utf8ByteSize ≤ 119 ∨ 512 < key.utf8ByteSize) :
    Sim (InMemoryStorage.remove values key).1 (FileStorage.remove root directory key).1 ∧
      (FileStorage.remove root directory key).2 = (InMemoryStorage.remove values key).2 := by
  unfold InMemoryStorage.remove FileStorage.remove
  cases hvalid : validateKey key with
  | error failure =>
    rw [pathForKey_of_invalid hvalid]
    exact ⟨h, rfl⟩
  | ok =>
    have hkey := storable_of_fits hvalid hfits
    have hresolve := h.resolve hkey
    rw [pathForKey_of_valid hvalid]
    simp only [Directory.remove]
    cases hlookup : values.lookup key with
    | some value =>
      rw [hlookup] at hresolve
      simp only [hresolve]
      exact ⟨h.erase, trivial⟩
    | none =>
      rw [hlookup] at hresolve
      simp only [hresolve]
      refine ⟨?_, trivial⟩
      -- nothing was stored, so the map does not change either
      apply h.congr
      intro other
      rw [BTreeMap.lookup_remove]
      split
      · rename_i heq
        rw [heq, hlookup]
      · rfl

end

/-- Removing the records of some distinct names. -/
theorem clearEntries_eq (root : String) {names : List String} (hnodup : names.Nodup)
    (hnames : ∀ name ∈ names, hasStoreExtension name = true ∧
      name.utf8ByteSize ≤ Directory.maxNameBytes ∧ ∃ bytes, directory.find name = some bytes) :
    ∃ cleared, clearEntries root names directory = (cleared, .ok ()) ∧
      ∀ name, cleared.find name = if name ∈ names then none else directory.find name := by
  induction names generalizing directory with
  | nil => exact ⟨directory, rfl, fun name => by simp⟩
  | cons name names ih =>
    obtain ⟨hname, hrest⟩ := List.nodup_cons.mp hnodup
    obtain ⟨hextension, hlength, bytes, hfind⟩ := hnames name List.mem_cons_self
    have hothers : ∀ other ∈ names, hasStoreExtension other = true ∧
        other.utf8ByteSize ≤ Directory.maxNameBytes ∧
        ∃ bytes, (directory.erase name).find other = some bytes := by
      intro other hother
      obtain ⟨hext, hle, found, hfound⟩ := hnames other (List.mem_cons_of_mem _ hother)
      have hne : other ≠ name := by
        rintro rfl
        exact hname hother
      refine ⟨hext, hle, found, ?_⟩
      rw [Directory.find_erase, if_neg hne]
      exact hfound
    obtain ⟨cleared, hcleared, hall⟩ := ih hrest hothers
    refine ⟨cleared, ?_, ?_⟩
    · rw [clearEntries, if_pos hextension, Directory.remove,
        Directory.resolve_of_find hlength hfind]
      exact hcleared
    · intro other
      rw [hall, Directory.find_erase]
      by_cases hsame : other = name
      · simp [hsame]
      · simp [hsame]

theorem Sim.clear (h : Sim values directory) (root : String) :
    ∃ cleared, FileStorage.clear root directory = (cleared, .ok ()) ∧ Sim [] cleared := by
  have hnames : ∀ name ∈ directory.names, hasStoreExtension name = true ∧
      name.utf8ByteSize ≤ Directory.maxNameBytes ∧ ∃ bytes, directory.find name = some bytes := by
    intro name hname
    obtain ⟨bytes, hfind⟩ := (directory.mem_names_iff name).mp hname
    obtain ⟨key, hkey, rfl⟩ := h.files name bytes hfind
    exact ⟨hasStoreExtension_fileName hkey.1, hkey.fileName_le, bytes, hfind⟩
  obtain ⟨cleared, hcleared, hall⟩ := clearEntries_eq root directory.nodup hnames
  -- every file was listed, so none is left
  have hempty : ∀ name, cleared.find name = none := by
    intro name
    rw [hall]
    by_cases hname : name ∈ directory.names
    · exact if_pos hname
    · have hnone : directory.find name = none := by
        cases hfind : directory.find name with
        | none => rfl
        | some bytes => exact absurd ((directory.mem_names_iff name).mpr ⟨bytes, hfind⟩) hname
      rw [hnone, ite_self]
  refine ⟨cleared, hcleared, ?_, ?_, ?_⟩
  · intro key _
    rw [hempty]
    rfl
  · intro name bytes hfind
    rw [hempty] at hfind
    cases hfind
  · intro key value hlookup
    cases hlookup

/-- One call on both backends. -/
theorem call_simulates (h : Sim values directory) (root : String) (uuid : Uuid) {call : Call}
    (hfits : call.keyFits) :
    Sim (InMemoryStorage.call values call).1 (FileStorage.call root directory uuid call).1 ∧
      (FileStorage.call root directory uuid call).2 = (InMemoryStorage.call values call).2 := by
  cases call with
  | getRaw key =>
    refine ⟨h, ?_⟩
    show Answer.value <$> FileStorage.getRaw root directory key = _
    rw [h.getRaw root hfits]
    rfl
  | setRaw key value =>
    obtain ⟨hsim, hresult⟩ := h.setRaw root uuid value hfits
    refine ⟨hsim, ?_⟩
    show (fun _ => Answer.done) <$> (FileStorage.setRaw root directory key value uuid).2 = _
    rw [hresult]
    rfl
  | remove key =>
    obtain ⟨hsim, hresult⟩ := h.remove root hfits
    refine ⟨hsim, ?_⟩
    show (fun _ => Answer.done) <$> (FileStorage.remove root directory key).2 = _
    rw [hresult]
    rfl
  | contains key =>
    refine ⟨h, ?_⟩
    show Answer.found <$> FileStorage.contains directory key = _
    rw [h.contains]
    rfl
  | clear =>
    obtain ⟨cleared, hcleared, hsim⟩ := h.clear root
    simp only [FileStorage.call, hcleared]
    exact ⟨hsim, rfl⟩

end

/-! ## Runs -/

/-- The answers of the map to a sequence of calls. -/
def memoryAnswers (values : InMemoryStorage.Values) : List Call → List (StorageResult Answer)
  | [] => []
  | call :: calls =>
    let (values, answer) := InMemoryStorage.call values call
    answer :: memoryAnswers values calls

/-- The answers of the directory; each call comes with the identifier that it may draw. -/
def fileAnswers (root : String) (directory : Directory) :
    List (Call × Uuid) → List (StorageResult Answer)
  | [] => []
  | (call, uuid) :: calls =>
    let (directory, answer) := FileStorage.call root directory uuid call
    answer :: fileAnswers root directory calls

theorem answers_eq_of_fits (root : String) {values : InMemoryStorage.Values}
    (h : Sim values directory) {calls : List (Call × Uuid)}
    (hfits : ∀ call ∈ calls, call.1.keyFits) :
    fileAnswers root directory calls = memoryAnswers values (calls.map Prod.fst) := by
  induction calls generalizing values directory with
  | nil => rfl
  | cons first calls ih =>
    obtain ⟨call, uuid⟩ := first
    obtain ⟨hsim, hanswer⟩ := call_simulates h root uuid (hfits _ List.mem_cons_self)
    have hrest := ih hsim fun other hother => hfits other (List.mem_cons_of_mem _ hother)
    show (FileStorage.call root directory uuid call).2 :: _ = _ :: _
    rw [hanswer]
    exact congrArg _ hrest

/-! ## Long keys -/

theorem replaceRecord_long (root : String) (directory : Directory) (temporary : String)
    {path : String} (bytes : List UInt8) (h : Directory.maxNameBytes < path.utf8ByteSize) :
    ∃ failure, (FileStorage.replaceRecord root directory temporary path bytes).2 =
      .error failure := by
  unfold FileStorage.replaceRecord
  cases directory.createNew temporary with
  | error => exact ⟨_, rfl⟩
  | ok created =>
    simp only [Directory.rename]
    cases (created.put temporary bytes).resolve temporary with
    | error => exact ⟨_, rfl⟩
    | ok found =>
      simp only [if_pos h]
      exact ⟨_, rfl⟩

/-- The backends disagree on a long key. -/
theorem answer_ne_of_long (root : String) (values : InMemoryStorage.Values)
    (directory : Directory) (uuid : Uuid) {call : Call} (h : ¬ call.keyFits) :
    (FileStorage.call root directory uuid call).2 ≠ (InMemoryStorage.call values call).2 := by
  have hvalid : ∀ key : String, ¬ (key.utf8ByteSize ≤ 119 ∨ 512 < key.utf8ByteSize) →
      validateKey key = .ok () := by
    intro key hkey
    apply validateKey_eq_ok.mpr
    refine ⟨?_, by omega⟩
    rintro rfl
    exact hkey (.inl (by decide))
  -- two digits for each byte, and the suffix
  have hlong : ∀ key : String, ¬ (key.utf8ByteSize ≤ 119 ∨ 512 < key.utf8ByteSize) →
      Directory.maxNameBytes < (fileName key).utf8ByteSize := by
    intro key hkey
    exact maxNameBytes_lt_fileName (by omega)
  cases call with
  | getRaw key =>
    have hpath := pathForKey_of_valid (hvalid key h)
    simp [FileStorage.call, FileStorage.getRaw, hpath, InMemoryStorage.call,
      InMemoryStorage.getRaw, hvalid key h, Directory.resolve_of_long (hlong key h), ioError,
      bind, Except.bind, pure, Except.pure, Functor.map, Except.map]
  | setRaw key value =>
    obtain ⟨failure, hfailure⟩ := replaceRecord_long root directory (temporaryName uuid)
      (recordBytes value) (hlong key h)
    have hsplit : ∃ left, FileStorage.replaceRecord root directory (temporaryName uuid)
        (fileName key) (recordBytes value) = (left, .error failure) := ⟨_, Prod.ext rfl hfailure⟩
    obtain ⟨left, hleft⟩ := hsplit
    simp [FileStorage.call, FileStorage.setRaw, pathForKey_of_valid (hvalid key h), hleft,
      InMemoryStorage.call, InMemoryStorage.setRaw, hvalid key h, Functor.map, Except.map]
  | remove key =>
    simp [FileStorage.call, FileStorage.remove, pathForKey_of_valid (hvalid key h),
      Directory.remove, Directory.resolve_of_long (hlong key h), ioError, InMemoryStorage.call,
      InMemoryStorage.remove, hvalid key h, Functor.map, Except.map]
  | contains key => exact absurd trivial h
  | clear => exact absurd trivial h

theorem fits_of_answers_eq (root : String) {values : InMemoryStorage.Values}
    {calls : List (Call × Uuid)}
    (h : fileAnswers root directory calls = memoryAnswers values (calls.map Prod.fst)) :
    ∀ call ∈ calls, call.1.keyFits := by
  induction calls generalizing values directory with
  | nil => simp
  | cons first calls ih =>
    obtain ⟨call, uuid⟩ := first
    obtain ⟨hanswer, hrest⟩ := List.cons.inj h
    intro other hother
    rcases List.mem_cons.mp hother with rfl | hother
    · by_contra hlong
      exact answer_ne_of_long root values directory uuid hlong hanswer
    · exact ih hrest other hother

/-! ## Failed writes -/

theorem find_discard (directory : Directory) {name other : String} (h : other ≠ name) :
    (FileStorage.discard directory name).find other = directory.find other := by
  unfold FileStorage.discard Directory.remove
  cases directory.resolve name with
  | error => rfl
  | ok =>
    show (directory.erase name).find other = _
    rw [Directory.find_erase, if_neg h]

/-- A failed write leaves every other file as it was. -/
theorem find_replaceRecord_of_error {root : String} {left : Directory}
    {temporary path : String} {bytes : List UInt8}
    (h : FileStorage.replaceRecord root directory temporary path bytes = (left, .error failure))
    {other : String} (hother : other ≠ temporary) : left.find other = directory.find other := by
  unfold FileStorage.replaceRecord at h
  cases hcreate : directory.createNew temporary with
  | error =>
    rw [hcreate] at h
    rw [(Prod.mk.inj h).1]
  | ok created =>
    have hfind : created.find other = directory.find other := by
      unfold Directory.createNew at hcreate
      split at hcreate
      · cases hcreate
      · cases hcreate
        rw [Directory.find_put, if_neg hother]
      · cases hcreate
    rw [hcreate] at h
    simp only at h
    split at h
    · rw [← (Prod.mk.inj h).1, Directory.find_put, if_neg hother]
      exact hfind
    · cases (Prod.mk.inj h).2

/-- A failed `setRaw` leaves every stored value readable. -/
theorem getRaw_of_setRaw_error {root : String} {value : List UInt8} {uuid : Uuid}
    (h : (FileStorage.setRaw root directory key value uuid).2 = .error failure) (other : String) :
    FileStorage.getRaw root (FileStorage.setRaw root directory key value uuid).1 other =
      FileStorage.getRaw root directory other := by
  have hfind : other ≠ "" →
      (FileStorage.setRaw root directory key value uuid).1.find (fileName other) =
        directory.find (fileName other) := by
    intro hne
    have hname := (temporaryName_ne_fileName uuid hne).symm
    unfold FileStorage.setRaw at h ⊢
    split at h
    · rfl
    · simp only at h
      split at h
      · cases h
      · rename_i left _ hreplace
        simp only [hreplace]
        rw [find_discard left hname]
        exact find_replaceRecord_of_error hreplace hname
  unfold FileStorage.getRaw
  cases hvalid : validateKey other with
  | error =>
    rw [pathForKey_of_invalid hvalid]
    rfl
  | ok =>
    rw [pathForKey_of_valid hvalid]
    simp only [bind, Except.bind, Directory.resolve,
      hfind (validateKey_eq_ok.mp hvalid).1]

/-! ## Refinement -/

/-- The directory is used like the map. -/
structure Refines (root : String) (calls : List (Call × Uuid)) : Prop where
  answers : fileAnswers root .empty calls = memoryAnswers [] (calls.map Prod.fst)
  separate : ∀ key other, fileName key = fileName other → key = other
  kept : ∀ directory key value uuid failure,
    (FileStorage.setRaw root directory key value uuid).2 = .error failure →
    ∀ other, FileStorage.getRaw root (FileStorage.setRaw root directory key value uuid).1 other =
      FileStorage.getRaw root directory other

/-- **Refinement**: the directory answers like the map exactly if no key that is read, written or
removed has 120 to 512 bytes. -/
theorem fileStorage_refines_iff (root : String) (calls : List (Call × Uuid)) :
    Refines root calls ↔ ∀ call ∈ calls, call.1.keyFits := by
  constructor
  · intro h
    exact fits_of_answers_eq root h.answers
  · intro hfits
    exact {
      answers := answers_eq_of_fits root .empty hfits
      separate := fun _ _ h => fileName_injective h
      kept := fun _ _ _ _ _ h => getRaw_of_setRaw_error h }

namespace Sample

def uuid : Uuid := ⟨"00000000-0000-4000-8000-000000000000", by decide⟩

/-- A key with 120 bytes. -/
def longKey : String := String.ofList (List.replicate 120 'a')

theorem textSize_replicate (n : Nat) : Json.textSize (List.replicate n 'a') = n := by
  have hsize : Char.utf8Size 'a' = 1 := by decide
  simp [Json.textSize, hsize]

theorem utf8ByteSize_longKey : longKey.utf8ByteSize = 120 :=
  (Json.utf8ByteSize_ofList _).trans (textSize_replicate 120)

/-- A value under a long key is refused by the directory only. -/
theorem long_key_refused : ¬ Refines "/data" [(.setRaw longKey [1], uuid)] := by
  intro h
  have hfits : (Call.setRaw longKey [1]).keyFits :=
    fits_of_answers_eq "/data" h.answers (.setRaw longKey [1], uuid) List.mem_cons_self
  simp only [Call.keyFits, utf8ByteSize_longKey] at hfits
  omega

end Sample

end RustFerry.Storage
