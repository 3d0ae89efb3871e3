import Mathlib.Data.List.Basic
import Mathlib.Data.String.Basic

/-!
# Ordered maps

An ordered map as the list of its entries by increasing key. Inserting an existing
key replaces its value.
-/

namespace BTreeMap

variable {β : Type}

/-- Insert an entry; an entry with the same key is replaced. -/
def insert (key : String) (value : β) : List (String × β) → List (String × β)
  | [] => [(key, value)]
  | (k, v) :: rest =>
    if key = k then (key, value) :: rest
    else if key < k then (key, value) :: (k, v) :: rest
    else (k, v) :: insert key value rest

/-- Collect entries; a later one replaces an earlier one with the same key. -/
def ofList (entries : List (String × β)) : List (String × β) :=
  entries.foldl (fun map entry => insert entry.1 entry.2 map) []

/-- An inserted map has the new entry and otherwise only old ones. -/
theorem mem_of_mem_insert {key : String} {value : β} {map : List (String × β)}
    {entry : String × β} (h : entry ∈ insert key value map) :
    entry = (key, value) ∨ entry ∈ map := by
  induction map with
  | nil => exact Or.inl (List.mem_singleton.mp h)
  | cons e rest ih =>
    obtain ⟨k, v⟩ := e
    simp only [insert] at h
    split_ifs at h
    · rcases List.mem_cons.mp h with h | h
      · exact Or.inl h
      · exact Or.inr (List.mem_cons_of_mem _ h)
    · rcases List.mem_cons.mp h with h | h
      · exact Or.inl h
      · exact Or.inr h
    · rcases List.mem_cons.mp h with h | h
      · exact Or.inr (h ▸ List.mem_cons_self)
      · rcases ih h with h | h
        · exact Or.inl h
        · exact Or.inr (List.mem_cons_of_mem _ h)

/-- The key of an insertion is there, and no key gets lost. -/
theorem exists_mem_insert (key : String) (value : β) (map : List (String × β)) (k : String)
    (h : k = key ∨ ∃ v, (k, v) ∈ map) : ∃ v, (k, v) ∈ insert key value map := by
  induction map with
  | nil =>
    rcases h with rfl | ⟨v, hv⟩
    · exact ⟨value, List.mem_singleton.mpr rfl⟩
    · cases hv
  | cons e rest ih =>
    obtain ⟨k', v'⟩ := e
    simp only [insert]
    split_ifs with heq hlt
    · subst heq
      rcases h with rfl | ⟨v, hv⟩
      · exact ⟨value, List.mem_cons_self⟩
      · rcases List.mem_cons.mp hv with hv | hv
        · obtain ⟨rfl, -⟩ := Prod.mk.inj hv
          exact ⟨value, List.mem_cons_self⟩
        · exact ⟨v, List.mem_cons_of_mem _ hv⟩
    · rcases h with rfl | ⟨v, hv⟩
      · exact ⟨value, List.mem_cons_self⟩
      · exact ⟨v, List.mem_cons_of_mem _ hv⟩
    · rcases h with rfl | ⟨v, hv⟩
      · obtain ⟨v, hv⟩ := ih (Or.inl rfl)
        exact ⟨v, List.mem_cons_of_mem _ hv⟩
      · rcases List.mem_cons.mp hv with hv | hv
        · exact ⟨v, hv ▸ List.mem_cons_self⟩
        · obtain ⟨v, hv⟩ := ih (Or.inr ⟨v, hv⟩)
          exact ⟨v, List.mem_cons_of_mem _ hv⟩

/-- What is inserted is there, and nothing else. -/
private theorem foldl_insert_spec (entries map : List (String × β)) :
    (∀ entry ∈ entries.foldl (fun map entry => insert entry.1 entry.2 map) map,
      entry ∈ entries ∨ entry ∈ map) ∧
    ∀ k, (∃ v, (k, v) ∈ entries) ∨ (∃ v, (k, v) ∈ map) →
      ∃ v, (k, v) ∈ entries.foldl (fun map entry => insert entry.1 entry.2 map) map := by
  induction entries generalizing map with
  | nil => exact ⟨fun _ h => Or.inr h, fun k h => by simpa using h⟩
  | cons e entries ih =>
    obtain ⟨hsub, hkeys⟩ := ih (insert e.1 e.2 map)
    constructor
    · intro entry h
      rcases hsub entry h with h | h
      · exact Or.inl (List.mem_cons_of_mem _ h)
      · rcases mem_of_mem_insert h with h | h
        · exact Or.inl (h ▸ List.mem_cons_self)
        · exact Or.inr h
    · intro k h
      apply hkeys
      rcases h with ⟨v, hv⟩ | hmap
      · rcases List.mem_cons.mp hv with rfl | hv
        · exact Or.inr (exists_mem_insert _ _ map k (Or.inl rfl))
        · exact Or.inl ⟨v, hv⟩
      · exact Or.inr (exists_mem_insert _ _ map k (Or.inr hmap))

/-- A collected map only holds entries of the list. -/
theorem mem_of_mem_ofList {entries : List (String × β)} {entry : String × β}
    (h : entry ∈ ofList entries) : entry ∈ entries := by
  rcases (foldl_insert_spec entries []).1 entry h with h | h
  · exact h
  · cases h

/-- Every key of the list is a key of the collected map. -/
theorem exists_mem_ofList {entries : List (String × β)} {k : String} {v : β}
    (h : (k, v) ∈ entries) : ∃ w, (k, w) ∈ ofList entries :=
  (foldl_insert_spec entries []).2 k (Or.inl ⟨v, h⟩)

/-! ## Lookup -/

/-- An insertion changes one key. -/
theorem lookup_insert (key other : String) (value : β) (map : List (String × β)) :
    (insert key value map).lookup other = if other = key then some value else map.lookup other := by
  induction map with
  | nil =>
    rw [insert, List.lookup_cons]
    by_cases hother : other = key
    · simp [hother]
    · have hne : (other == key) = false := by simpa using hother
      simp [hne, hother]
  | cons e rest ih =>
    obtain ⟨k, v⟩ := e
    rw [insert]
    by_cases hother : other = key
    · rw [if_pos hother, hother]
      split_ifs with heq hlt
      · rw [List.lookup_cons_self]
      · rw [List.lookup_cons_self]
      · have hne : (key == k) = false := by simpa using heq
        rw [List.lookup_cons, hne]
        simpa [hother] using ih
    · have hne : (other == key) = false := by simpa using hother
      rw [if_neg hother] at ih ⊢
      split_ifs with heq hlt
      · rw [List.lookup_cons, List.lookup_cons, ← heq, hne]
      · rw [List.lookup_cons, hne]
      · rw [List.lookup_cons, List.lookup_cons, ih]

/-- A removal changes one key. -/
theorem lookup_remove {α : Type} [DecidableEq α] (key other : α) (map : List (α × β)) :
    (map.filter fun entry => entry.1 != key).lookup other =
      if other = key then none else map.lookup other := by
  induction map with
  | nil => simp
  | cons e rest ih =>
    obtain ⟨k, v⟩ := e
    by_cases hk : k = key
    · rw [List.filter_cons_of_neg (by simp [hk]), ih, List.lookup_cons]
      by_cases hother : other = key
      · simp [hother]
      · have hne : (other == k) = false := by simpa [hk] using hother
        rw [hne]
    · rw [List.filter_cons_of_pos (by simp [hk]), List.lookup_cons, List.lookup_cons, ih]
      by_cases hother : other = key
      · have hne : (other == k) = false := by simpa [hother] using Ne.symm hk
        rw [hne]
      · simp [hother]

/-! ## Order -/

/-- The keys increase. -/
def Sorted (map : List (String × β)) : Prop := map.Pairwise fun a b => a.1 < b.1

/-- An insertion keeps the order. -/
theorem sorted_insert {key : String} {value : β} {map : List (String × β)} (h : Sorted map) :
    Sorted (insert key value map) := by
  induction map with
  | nil => exact List.pairwise_singleton _ _
  | cons e rest ih =>
    obtain ⟨k, v⟩ := e
    obtain ⟨hfirst, hrest⟩ := List.pairwise_cons.mp h
    rw [insert]
    split_ifs with heq hlt
    · subst heq
      exact List.pairwise_cons.mpr ⟨hfirst, hrest⟩
    · refine List.pairwise_cons.mpr ⟨?_, h⟩
      intro b hb
      rcases List.mem_cons.mp hb with rfl | hb
      · exact hlt
      · exact lt_trans hlt (hfirst b hb)
    · refine List.pairwise_cons.mpr ⟨?_, ih hrest⟩
      intro b hb
      rcases mem_of_mem_insert hb with rfl | hb
      · exact lt_of_le_of_ne (not_lt.mp hlt) (Ne.symm heq)
      · exact hfirst b hb

/-- A new key adds one entry. -/
theorem insert_perm {key : String} {value : β} {map : List (String × β)}
    (h : ∀ entry ∈ map, entry.1 ≠ key) : (insert key value map).Perm ((key, value) :: map) := by
  induction map with
  | nil => exact List.Perm.refl _
  | cons e rest ih =>
    obtain ⟨k, v⟩ := e
    rw [insert, if_neg (Ne.symm (h (k, v) List.mem_cons_self))]
    split_ifs with hlt
    · exact List.Perm.refl _
    · have hrest := ih fun entry hentry => h entry (List.mem_cons_of_mem _ hentry)
      exact (hrest.cons _).trans (List.Perm.swap _ _ _)

/-- Sorted maps with the same entries are equal. -/
theorem eq_of_perm {a b : List (String × β)} (ha : Sorted a) (hb : Sorted b) (h : a.Perm b) :
    a = b := by
  apply h.eq_of_pairwise _ ha hb
  intro x y _ _ hxy hyx
  exact absurd hyx (lt_asymm hxy)

end BTreeMap
