import RustFerry.ForStd.List
import RustFerry.Native.LogBuffer

/-!
# What a log snapshot retains

However many entries a tool prints, the ring holds a window of them: the longest run of latest
entries within both limits, each message cut at a character boundary at most.
-/

namespace RustFerry.Deployment

open ByteScan

/-! ## Messages -/

theorem boundaryUpTo_le {message : List UInt8} {limit : Nat} :
    boundaryUpTo message limit ≤ limit := by
  induction limit with
  | zero => exact Nat.le_refl 0
  | succ limit ih =>
    rw [boundaryUpTo]
    split
    · exact Nat.le_refl _
    · omega

theorem isCharBoundary_boundaryUpTo {message : List UInt8} {limit : Nat} :
    isCharBoundary message (boundaryUpTo message limit) = true := by
  induction limit with
  | zero => rfl
  | succ limit ih =>
    rw [boundaryUpTo]
    split
    · assumption
    · exact ih

theorem le_boundaryUpTo {message : List UInt8} {limit index : Nat} (hle : index ≤ limit)
    (hindex : isCharBoundary message index = true) : index ≤ boundaryUpTo message limit := by
  induction limit with
  | zero => exact hle
  | succ limit ih =>
    rw [boundaryUpTo]
    split
    · exact hle
    · rename_i hnot
      have hne : index ≠ limit + 1 := fun h => hnot (h ▸ hindex)
      exact ih (by omega)

/-- A shortened message ends at the last boundary within the limit, and nothing else changes. -/
structure Shortened (maxBytes : Nat) (entry short : LogEntry) : Prop where
  timestamp : short.timestamp = entry.timestamp
  target : short.target = entry.target
  kept : short.message <+: entry.message
  boundary : isCharBoundary entry.message short.message.length = true
  limit : short.message.length ≤ maxBytes
  longest : ∀ index ≤ entry.message.length, index ≤ maxBytes →
    isCharBoundary entry.message index = true → index ≤ short.message.length

theorem shortened_shorten (maxBytes : Nat) (entry : LogEntry) :
    Shortened maxBytes entry (entry.shorten maxBytes) := by
  rw [LogEntry.shorten]
  split
  · rename_i hlong
    have hle := @boundaryUpTo_le entry.message maxBytes
    have hlength : (entry.message.take (boundaryUpTo entry.message maxBytes)).length =
        boundaryUpTo entry.message maxBytes := List.length_take_of_le (by omega)
    refine ⟨rfl, rfl, List.take_prefix _ _, ?_, ?_, ?_⟩
    · exact hlength.symm ▸ isCharBoundary_boundaryUpTo
    · exact hlength.le.trans hle
    · intro index _ hindex hboundary
      exact (le_boundaryUpTo hindex hboundary).trans hlength.ge
  · exact ⟨rfl, rfl, List.prefix_rfl, isCharBoundary_length _, by omega, fun _ hle _ _ => hle⟩

namespace BoundedLogBuffer

/-! ## The window -/

/-- Within both limits. -/
def fits (maxEntries maxBytes : Nat) (entries : List LogEntry) : Bool :=
  entries.length ≤ maxEntries && (entries.map entrySize).sum ≤ maxBytes

theorem fits_of_concat {maxEntries maxBytes : Nat} (entries : List LogEntry) (entry : LogEntry)
    (h : fits maxEntries maxBytes (entries ++ [entry]) = true) :
    fits maxEntries maxBytes entries = true := by
  simp only [fits, Bool.and_eq_true, decide_eq_true_eq, List.length_append, List.map_append,
    List.sum_append] at h ⊢
  omega

/-- Popping stops at the longest suffix within the limits, and the counter follows it. -/
theorem evict_eq {maxEntries maxBytes : Nat} (entries : List LogEntry) :
    evict maxEntries maxBytes entries (entries.map entrySize).sum =
      (entries.longestSuffix (fits maxEntries maxBytes),
        ((entries.longestSuffix (fits maxEntries maxBytes)).map entrySize).sum) := by
  induction entries with
  | nil => rfl
  | cons entry entries ih =>
    rw [evict, List.longestSuffix]
    by_cases hfits : fits maxEntries maxBytes (entry :: entries) = true
    · have hwithin := hfits
      simp only [fits, Bool.and_eq_true, decide_eq_true_eq] at hwithin
      rw [if_neg (by omega), if_pos hfits]
    · have hover := hfits
      simp only [fits, Bool.and_eq_true, decide_eq_true_eq] at hover
      rw [if_pos (by omega), if_neg hfits, List.map_cons, List.sum_cons, Nat.add_sub_cancel_left,
        ih]

/-- The ring after some entries. -/
def window (maxEntries maxBytes : Nat) (pushed : List LogEntry) : BoundedLogBuffer where
  entries := (pushed.map (·.shorten maxBytes)).longestSuffix (fits maxEntries maxBytes)
  bytes := (((pushed.map (·.shorten maxBytes)).longestSuffix (fits maxEntries maxBytes)).map
    entrySize).sum
  maxEntries
  maxBytes

theorem push_window (maxEntries maxBytes : Nat) (pushed : List LogEntry) (entry : LogEntry) :
    (window maxEntries maxBytes pushed).push entry =
      window maxEntries maxBytes (pushed ++ [entry]) := by
  simp only [push, window]
  have hsum : ∀ entries : List LogEntry,
      (entries.map entrySize).sum + entrySize (entry.shorten maxBytes) =
        ((entries ++ [entry.shorten maxBytes]).map entrySize).sum := by
    intro entries
    simp
  rw [hsum, evict_eq, List.longestSuffix_concat fits_of_concat, List.map_append]
  rfl

/-- The ring holds the longest run of latest entries within both limits. -/
theorem pushAll_eq (maxEntries maxBytes : Nat) (pushed more : List LogEntry) :
    (window maxEntries maxBytes pushed).pushAll more =
      window maxEntries maxBytes (pushed ++ more) := by
  induction more generalizing pushed with
  | nil => rw [List.append_nil, pushAll, List.foldl_nil]
  | cons entry more ih =>
    rw [pushAll, List.foldl_cons, push_window, ← pushAll, ih, List.append_assoc]
    rfl

/-- After any entries the ring is within both limits, its counter is the size of what it holds,
    and it holds the latest entries, as many as the limits allow, each cut at most at the last
    character boundary within the byte limit. -/
theorem snapshot_window (maxEntries maxBytes : Nat) (buffer : BoundedLogBuffer)
    (hnew : new maxEntries maxBytes = .ok buffer) (pushed : List LogEntry) :
    (buffer.pushAll pushed).bytes = ((buffer.pushAll pushed).entries.map entrySize).sum ∧
      (buffer.pushAll pushed).entries.length ≤ maxEntries ∧
      (buffer.pushAll pushed).bytes ≤ maxBytes ∧
      ∃ short, List.Forall₂ (Shortened maxBytes) pushed short ∧
        (buffer.pushAll pushed).entries <:+ short ∧
        ∀ kept, kept <:+ short → kept.length ≤ maxEntries → (kept.map entrySize).sum ≤ maxBytes →
          kept <:+ (buffer.pushAll pushed).entries := by
  rw [new] at hnew
  split at hnew
  · cases hnew
  · cases hnew
    have hrun : (⟨[], 0, maxEntries, maxBytes⟩ : BoundedLogBuffer).pushAll pushed =
        window maxEntries maxBytes pushed := pushAll_eq maxEntries maxBytes [] pushed
    rw [hrun]
    have hfits := @List.fits_longestSuffix _ (fits maxEntries maxBytes)
      (pushed.map (·.shorten maxBytes)) rfl
    simp only [fits, Bool.and_eq_true, decide_eq_true_eq] at hfits
    refine ⟨rfl, hfits.1, hfits.2, _, ?_, List.longestSuffix_suffix, ?_⟩
    · rw [List.forall₂_map_right_iff, List.forall₂_same]
      exact fun entry _ => shortened_shorten maxBytes entry
    · intro kept hsuffix hlength hbytes
      apply List.suffix_longestSuffix hsuffix
      simp [fits, hlength, hbytes]

/-- Of three entries the oldest is evicted. -/
theorem snapshot_window_of_three :
    let pushed : List LogEntry := [⟨"10:00", "app", [97]⟩, ⟨"10:01", "app", [98]⟩, ⟨"", "", [99]⟩]
    let buffer : BoundedLogBuffer := ⟨[], 0, 2, 128⟩
    (buffer.pushAll pushed).bytes ≤ 128 ∧
      (buffer.pushAll pushed).entries = [⟨"10:01", "app", [98]⟩, ⟨"", "", [99]⟩] :=
  ⟨(snapshot_window 2 128 ⟨[], 0, 2, 128⟩ rfl _).2.2.1, by decide⟩

end BoundedLogBuffer

end RustFerry.Deployment
