import Mathlib.Data.List.Basic
import Mathlib.Data.UInt
import Mathlib.Data.List.Forall2

/-!
# List lemmas

`List.maxByKey` is the selection of an iterator's `max_by_key`: the last of the
elements whose key is maximal. Lookups in association lists without repeated keys are
membership. `List.longestSuffix` is what a window over a list keeps.
-/

namespace List

variable {α : Type}

/-- The later of two candidates wins unless its key is smaller. -/
def maxByKeyStep (key : α → Nat) (best : Option α) (a : α) : Option α :=
  match best with
  | none => some a
  | some b => if key b ≤ key a then some a else some b

/-- The last element with the largest key. -/
def maxByKey (key : α → Nat) (l : List α) : Option α :=
  l.foldl (maxByKeyStep key) none

/-- The fold keeps a maximum. -/
private theorem foldl_maxByKeyStep (key : α → Nat) (l : List α) (b : α) :
    ∃ m, l.foldl (maxByKeyStep key) (some b) = some m ∧ (m = b ∨ m ∈ l) ∧
      key b ≤ key m ∧ ∀ a ∈ l, key a ≤ key m := by
  induction l generalizing b with
  | nil => exact ⟨b, rfl, Or.inl rfl, Nat.le_refl _, by simp⟩
  | cons a l ih =>
    simp only [foldl_cons, maxByKeyStep]
    split
    · rename_i hle
      obtain ⟨m, hm, hmem, hge, hall⟩ := ih a
      refine ⟨m, hm, ?_, by omega, ?_⟩
      · rcases hmem with rfl | hmem <;> simp_all
      · intro x hx
        rcases mem_cons.mp hx with rfl | hx
        · exact hge
        · exact hall x hx
    · rename_i hlt
      obtain ⟨m, hm, hmem, hge, hall⟩ := ih b
      refine ⟨m, hm, ?_, hge, ?_⟩
      · rcases hmem with rfl | hmem <;> simp_all
      · intro x hx
        rcases mem_cons.mp hx with rfl | hx
        · omega
        · exact hall x hx

/-- `maxByKey` finds something in every nonempty list. -/
theorem maxByKey_eq_none_iff (key : α → Nat) (l : List α) :
    l.maxByKey key = none ↔ l = [] := by
  cases l with
  | nil => simp [maxByKey]
  | cons a l =>
    obtain ⟨m, hm, -⟩ := foldl_maxByKeyStep key l a
    simp [maxByKey, maxByKeyStep, hm]

/-- The selected element is one of the list. -/
theorem mem_of_maxByKey {key : α → Nat} {l : List α} {m : α}
    (h : l.maxByKey key = some m) : m ∈ l := by
  cases l with
  | nil => simp [maxByKey] at h
  | cons a l =>
    obtain ⟨m', hm, hmem, -⟩ := foldl_maxByKeyStep key l a
    rw [maxByKey, foldl_cons, maxByKeyStep, hm] at h
    cases h
    exact mem_cons.mpr hmem

/-! ## Association lists -/

/-- Without repeated keys a lookup finds exactly the pairs of the list. -/
theorem lookup_eq_some_iff_mem {β : Type} [BEq α] [LawfulBEq α] {l : List (α × β)} {k : α} {b : β}
    (hnodup : (l.map (·.1)).Nodup) : l.lookup k = some b ↔ (k, b) ∈ l := by
  induction l with
  | nil => simp
  | cons e l ih =>
    obtain ⟨k', b'⟩ := e
    obtain ⟨hfresh, hrest⟩ := nodup_cons.mp hnodup
    rw [lookup_cons, mem_cons]
    by_cases hk : k = k'
    · subst hk
      have hnot : (k, b) ∉ l := by
        intro hmem
        exact hfresh (mem_map.mpr ⟨(k, b), hmem, rfl⟩)
      simp [hnot, eq_comm]
    · have hbeq : (k == k') = false := beq_eq_false_iff_ne.mpr hk
      rw [hbeq]
      simp [ih hrest, hk]

/-- A key that is not there. -/
theorem lookup_eq_none_iff_notMem {β : Type} [BEq α] [LawfulBEq α] {l : List (α × β)} {k : α} :
    l.lookup k = none ↔ k ∉ l.map (·.1) := by
  rw [lookup_eq_none_iff]
  simp only [mem_map, not_exists, not_and]
  constructor
  · intro h x hx heq
    exact absurd heq.symm (by simpa using h x hx)
  · intro h x hx
    simpa using fun heq => h x hx heq.symm

/-! ## Ordered lists -/

/-- Two members of a list are equal or stand in one of the two orders. -/
theorem Pairwise.eq_or_rel {R : α → α → Prop} {l : List α} (h : l.Pairwise R) {a b : α}
    (ha : a ∈ l) (hb : b ∈ l) : a = b ∨ R a b ∨ R b a := by
  induction l with
  | nil => cases ha
  | cons c l ih =>
    obtain ⟨hfirst, hrest⟩ := pairwise_cons.mp h
    rcases mem_cons.mp ha with ha' | ha'
    · rcases mem_cons.mp hb with hb' | hb'
      · exact Or.inl (ha'.trans hb'.symm)
      · exact Or.inr (Or.inl (ha' ▸ hfirst b hb'))
    · rcases mem_cons.mp hb with hb' | hb'
      · exact Or.inr (Or.inr (hb' ▸ hfirst a ha'))
      · exact ih hrest ha' hb'

/-- Every element on the right is related to one on the left. -/
theorem Forall₂.exists_of_mem_right {β : Type} {R : α → β → Prop} {l : List α} {r : List β}
    (h : Forall₂ R l r) {b : β} (hb : b ∈ r) : ∃ a, R a b := by
  induction h with
  | nil => cases hb
  | cons hab _ ih =>
    rcases mem_cons.mp hb with rfl | hb
    · exact ⟨_, hab⟩
    · exact ih hb

/-- The element at the same position on the right. -/
theorem Forall₂.exists_getElem? {β : Type} {R : α → β → Prop} {l : List α} {r : List β}
    (h : Forall₂ R l r) {i : Nat} {a : α} (ha : l[i]? = some a) : ∃ b, r[i]? = some b ∧ R a b := by
  induction h generalizing i with
  | nil => simp at ha
  | cons hab _ ih =>
    cases i with
    | zero =>
      simp only [getElem?_cons_zero, Option.some.injEq] at ha ⊢
      exact ⟨_, rfl, ha ▸ hab⟩
    | succ i => simpa using ih (by simpa using ha)

/-! ## First positions -/

/-- What does not hold at the start and holds at a position starts to hold at one of the steps
    before it. -/
theorem exists_first_step {l : List α} {P : α → Prop} {i : Nat} {a : α} (hi : l[i]? = some a)
    (ha : P a) (h0 : ∀ b, l[0]? = some b → ¬ P b) :
    ∃ k b c, k < i ∧ l[k]? = some b ∧ l[k + 1]? = some c ∧
      (∀ m d, m ≤ k → l[m]? = some d → ¬ P d) ∧ P c := by
  induction i using Nat.strongRecOn generalizing a with
  | _ i ih =>
    by_cases hearlier : ∃ m d, m < i ∧ l[m]? = some d ∧ P d
    · obtain ⟨m, d, hm, hd, hP⟩ := hearlier
      obtain ⟨k, b, c, hk, h⟩ := ih m hm hd hP
      exact ⟨k, b, c, by omega, h⟩
    · cases i with
      | zero => exact absurd ha (h0 a hi)
      | succ k =>
        obtain ⟨hlength, -⟩ := getElem?_eq_some_iff.mp hi
        refine ⟨k, l[k], a, by omega, getElem?_eq_getElem _, hi, ?_, ha⟩
        intro m d hm hd hP
        exact hearlier ⟨m, d, by omega, hd, hP⟩

/-! ## Windows -/

/-- The longest suffix that fits; the empty one, if none does. -/
def longestSuffix (fits : List α → Bool) : List α → List α
  | [] => []
  | a :: l => if fits (a :: l) then a :: l else longestSuffix fits l

variable {fits : List α → Bool} {l : List α}

/-- It is a suffix. -/
theorem longestSuffix_suffix : longestSuffix fits l <:+ l := by
  induction l with
  | nil => exact suffix_rfl
  | cons a l ih =>
    rw [longestSuffix]
    split
    · exact suffix_rfl
    · exact ih.trans (suffix_cons a l)

/-- It fits. -/
theorem fits_longestSuffix (hnil : fits [] = true) : fits (longestSuffix fits l) = true := by
  induction l with
  | nil => exact hnil
  | cons a l ih =>
    rw [longestSuffix]
    split
    · assumption
    · exact ih

/-- Every suffix that fits is a part of the longest. -/
theorem suffix_longestSuffix {kept : List α} (hsuffix : kept <:+ l) (hfits : fits kept = true) :
    kept <:+ longestSuffix fits l := by
  induction l with
  | nil => exact hsuffix
  | cons a l ih =>
    rw [longestSuffix]
    split
    · exact hsuffix
    · rename_i hnot
      obtain rfl | hsuffix := suffix_cons_iff.mp hsuffix
      · exact absurd hfits hnot
      · exact ih hsuffix

/-- A window can be kept up to date: what does not fit now never fits again. -/
theorem longestSuffix_concat (hgrow : ∀ l a, fits (l ++ [a]) = true → fits l = true) (a : α) :
    longestSuffix fits (longestSuffix fits l ++ [a]) = longestSuffix fits (l ++ [a]) := by
  induction l with
  | nil => rfl
  | cons b l ih =>
    by_cases hfits : fits (b :: l) = true
    · rw [longestSuffix, if_pos hfits]
    · have hmore : ¬fits (b :: (l ++ [a])) = true := fun h => hfits (hgrow (b :: l) a h)
      rw [longestSuffix, if_neg hfits, ih, cons_append, longestSuffix, if_neg hmore]

end List
