import RustFerry.ForStd.Json

/-!
# JSON round trip

What the printer writes, the parser reads back, as long as integers fit 64 bits
and the nesting stays below the parser's limit. The parser's fuel never runs out:
three units for each character are enough.
-/

namespace Json

variable {n : Nat} {v : Json} {rest : List Char} {members : List (String × Json)}

/-- A value whose numbers are 64-bit integers and which opens at most `n` arrays or objects
    at a time. -/
inductive Fits : Nat → Json → Prop where
  | null {n : Nat} : Fits n .null
  | bool {n : Nat} (b : Bool) : Fits n (.bool b)
  | number {n k : Nat} (h : k < 2 ^ 64) : Fits n (.number (.unsigned k))
  | negative {n k : Nat} (hpos : 0 < k) (h : k ≤ 2 ^ 63) : Fits n (.number (.negative k))
  | string {n : Nat} (s : String) : Fits n (.string s)
  | array {n : Nat} {items : List Json} (h : ∀ v ∈ items, Fits n v) : Fits (n + 1) (.array items)
  | object {n : Nat} {members : List (String × Json)} (h : ∀ m ∈ members, Fits n m.2) :
      Fits (n + 1) (.object members)

/-- A higher bound will do. -/
theorem Fits.mono {m : Nat} (h : Fits n v) (hle : n ≤ m) : Fits m v := by
  induction h generalizing m with
  | null => exact .null
  | bool b => exact .bool b
  | number h => exact .number h
  | negative hpos h => exact .negative hpos h
  | string s => exact .string s
  | array _ ih =>
    obtain ⟨m, rfl⟩ : ∃ k, m = k + 1 := ⟨m - 1, by omega⟩
    exact .array fun v hv => ih v hv (by omega)
  | object _ ih =>
    obtain ⟨m, rfl⟩ : ∃ k, m = k + 1 := ⟨m - 1, by omega⟩
    exact .object fun v hv => ih v hv (by omega)

mutual

/-- Whether a value fits. -/
def fitsIn : Nat → Json → Bool
  | _, .null => true
  | _, .bool _ => true
  | _, .number (.unsigned k) => k < 2 ^ 64
  | _, .number (.negative k) => 0 < k && k ≤ 2 ^ 63
  | _, .number (.float _) => false
  | _, .string _ => true
  | 0, .array _ => false
  | n + 1, .array items => itemsFitIn n items
  | 0, .object _ => false
  | n + 1, .object members => membersFitIn n members

def itemsFitIn : Nat → List Json → Bool
  | _, [] => true
  | n, v :: rest => fitsIn n v && itemsFitIn n rest

def membersFitIn : Nat → List (String × Json) → Bool
  | _, [] => true
  | n, (_, v) :: rest => fitsIn n v && membersFitIn n rest

end

mutual

/-- The test is right. -/
theorem Fits.of_fitsIn : ∀ {n : Nat} {v : Json}, fitsIn n v = true → Fits n v
  | _, .null, _ => .null
  | _, .bool b, _ => .bool b
  | _, .number (.unsigned k), h => .number (by simpa [fitsIn] using h)
  | _, .number (.negative k), h => by
    simp only [fitsIn, Bool.and_eq_true, decide_eq_true_eq] at h
    exact .negative h.1 h.2
  | _, .number (.float _), h => by simp [fitsIn] at h
  | _, .string s, _ => .string s
  | 0, .array _, h => by simp [fitsIn] at h
  | n + 1, .array items, h => .array (fits_of_itemsFitIn (by simpa [fitsIn] using h))
  | 0, .object _, h => by simp [fitsIn] at h
  | n + 1, .object members, h => .object (fits_of_membersFitIn (by simpa [fitsIn] using h))

/-- The test on an array. -/
theorem fits_of_itemsFitIn : ∀ {n : Nat} {items : List Json}, itemsFitIn n items = true →
    ∀ v ∈ items, Fits n v
  | _, [], _ => by simp
  | n, v :: rest, h => by
    simp only [itemsFitIn, Bool.and_eq_true] at h
    intro w hw
    cases List.mem_cons.mp hw with
    | inl heq => exact heq ▸ Fits.of_fitsIn h.1
    | inr hrest => exact fits_of_itemsFitIn h.2 w hrest

/-- The test on an object. -/
theorem fits_of_membersFitIn : ∀ {n : Nat} {members : List (String × Json)},
    membersFitIn n members = true → ∀ m ∈ members, Fits n m.2
  | _, [], _ => by simp
  | n, (_, v) :: rest, h => by
    simp only [membersFitIn, Bool.and_eq_true] at h
    intro m hm
    cases List.mem_cons.mp hm with
    | inl heq => exact heq ▸ Fits.of_fitsIn h.1
    | inr hrest => exact fits_of_membersFitIn h.2 m hrest

end

/-! ## Digits -/

private theorem digitChar_spec : ∀ d < 10,
    (digitChar d).isDigit = true ∧ digitValue (digitChar d) = d ∧
      (digitChar d = '0' ↔ d = 0) := by decide

private theorem hexValue_digitChar : ∀ d < 16, hexValue (digitChar d) = some d := by decide

theorem decimal_ne_nil (n : Nat) : decimal n ≠ [] := by
  rw [decimal]
  split <;> simp

/-- A number has only digits. -/
theorem isDigit_of_mem_decimal (n : Nat) : ∀ c ∈ decimal n, c.isDigit = true := by
  induction n using decimal.induct with
  | case1 n hlt =>
    rw [decimal, if_pos hlt]
    intro c hc
    rw [List.mem_singleton.mp hc]
    exact (digitChar_spec n hlt).1
  | case2 n hge ih =>
    rw [decimal, if_neg hge]
    intro c hc
    rcases List.mem_append.mp hc with hc | hc
    · exact ih c hc
    · rw [List.mem_singleton.mp hc]
      exact (digitChar_spec (n % 10) (by omega)).1

/-- The digits have its value. -/
theorem ofDigits_decimal (n : Nat) : ofDigits (decimal n) = n := by
  induction n using decimal.induct with
  | case1 n hlt =>
    rw [decimal, if_pos hlt]
    simp [ofDigits, (digitChar_spec n hlt).2.1]
  | case2 n hge ih =>
    rw [decimal, if_neg hge]
    simp only [ofDigits, List.foldl_append, List.foldl_cons, List.foldl_nil] at ih ⊢
    rw [ih, (digitChar_spec (n % 10) (by omega)).2.1]
    omega

/-- No leading zero. -/
theorem head?_decimal (n : Nat) (hpos : 0 < n) : (decimal n).head? ≠ some '0' := by
  induction n using decimal.induct with
  | case1 n hlt =>
    rw [decimal, if_pos hlt]
    intro h
    have hz := (digitChar_spec n hlt).2.2.mp (Option.some.inj h)
    omega
  | case2 n hge ih =>
    rw [decimal, if_neg hge]
    have hne := decimal_ne_nil (n / 10)
    rw [List.head?_append_of_ne_nil _ hne]
    exact ih (by omega)

/-! ## Numbers -/

/-- What may follow a value without changing how it is read. -/
def Delimited (rest : List Char) : Prop :=
  ∀ c cs, rest = c :: cs → c.isDigit = false ∧ c ≠ '.' ∧ c ≠ 'e' ∧ c ≠ 'E'

/-- What does not continue a number. -/
theorem Delimited.cons {c : Char} (h : c.isDigit = false) (hdot : c ≠ '.') (he : c ≠ 'e')
    (hE : c ≠ 'E') (cs : List Char) : Delimited (c :: cs) := by
  intro c' cs' heq
  obtain ⟨rfl, -⟩ := List.cons.inj heq
  exact ⟨h, hdot, he, hE⟩

theorem Delimited.nil : Delimited [] := by
  intro c cs h
  cases h

/-- The digits are taken off. -/
private theorem spanDigits_append {digits : List Char} (hdigits : ∀ c ∈ digits, c.isDigit = true)
    (hrest : Delimited rest) :
    spanDigits (digits ++ rest) = (digits, rest) := by
  induction digits with
  | nil =>
    cases rest with
    | nil => rfl
    | cons c cs => simp [spanDigits, (hrest c cs rfl).1]
  | cons c digits ih =>
    have hc := hdigits c List.mem_cons_self
    have := ih fun x hx => hdigits x (List.mem_cons_of_mem _ hx)
    simp [spanDigits, hc, this]

/-- There is no fraction. -/
private theorem parseFraction_delimited (h : Delimited rest) :
    parseFraction rest = some ([], rest) := by
  unfold parseFraction
  split
  · exact absurd rfl (h _ _ rfl).2.1
  · rfl

/-- There is no exponent. -/
private theorem parseExponent_delimited (h : Delimited rest) :
    parseExponent rest = some ([], rest) := by
  cases rest with
  | nil => rfl
  | cons c cs =>
    obtain ⟨-, -, he, hE⟩ := h c cs rfl
    simp [parseExponent, he, hE]

/-- A digit is none of the other characters a value can start with. -/
private theorem isDigit_ne {c : Char} (h : c.isDigit = true) {d : Char} (hd : d.isDigit = false) :
    c ≠ d := by
  rintro rfl
  rw [h] at hd
  cases hd

/-- A printed number is read. -/
private theorem parseUnsigned_decimal (negative : Bool) (n : Nat) (h : Delimited rest) :
    parseUnsigned negative (decimal n ++ rest) =
      some (classifyNumber negative (decimal n) [], rest) := by
  have hspan := spanDigits_append (isDigit_of_mem_decimal n) h
  -- either the number is zero or its first digit is not
  have hlead : ¬ ((decimal n).head? = some '0' ∧ (decimal n).length ≠ 1) := by
    intro hparts
    obtain ⟨hz, hlen⟩ := hparts
    by_cases hpos : 0 < n
    · exact head?_decimal n hpos hz
    · obtain rfl : n = 0 := by omega
      exact hlen (by rw [decimal]; rfl)
  obtain ⟨c, cs, hcs⟩ := List.exists_cons_of_ne_nil (decimal_ne_nil n)
  rw [hcs] at hspan hlead ⊢
  rw [parseUnsigned, hspan]
  simp only [if_neg hlead, parseFraction_delimited h]
  simp [parseExponent_delimited h]

/-- A natural number is read back. -/
theorem parseNumber_decimal (hn : n < 2 ^ 64) (h : Delimited rest) :
    parseNumber (decimal n ++ rest) = some (.unsigned n, rest) := by
  have hclass : classifyNumber false (decimal n) [] = .unsigned n := by
    have hof := ofDigits_decimal n
    rw [classifyNumber, if_neg (by simp), if_neg (by simp), hof, if_pos hn]
  have huns := parseUnsigned_decimal false n h
  obtain ⟨c, cs, hcs⟩ := List.exists_cons_of_ne_nil (decimal_ne_nil n)
  have hminus : c ≠ '-' := isDigit_ne (isDigit_of_mem_decimal n c (by simp [hcs])) (by decide)
  rw [← hclass, ← huns, hcs, List.cons_append]
  unfold parseNumber
  split
  · rename_i heq
    exact absurd (List.cons.inj heq).1 hminus
  · rfl

/-- A negative number is read back. -/
theorem parseNumber_negative (hpos : 0 < n) (hn : n ≤ 2 ^ 63) (h : Delimited rest) :
    parseNumber ('-' :: (decimal n ++ rest)) = some (.negative n, rest) := by
  have hclass : classifyNumber true (decimal n) [] = .negative n := by
    have hof := ofDigits_decimal n
    rw [classifyNumber, if_neg (by simp), if_pos rfl, hof, if_pos ⟨hpos, hn⟩]
  rw [← hclass, ← parseUnsigned_decimal true n h, parseNumber]

/-! ## Strings -/

/-- An escaped character is read back. -/
private theorem parseStringBody_escapeChar (fuel : Nat) (c : Char) (cs : List Char) :
    parseStringBody (fuel + 1) (escapeChar c ++ cs) =
      (parseStringBody fuel cs).map fun p => (c :: p.1, p.2) := by
  have hofNat : ∀ k, c.toNat = k → Char.ofNat k = c := by
    rintro k rfl
    exact Char.ofNat_toNat c
  have hescaped : ∀ body, parseEscape body = some (c, cs) →
      parseStringBody (fuel + 1) ('\\' :: body) =
        (parseStringBody fuel cs).map fun p => (c :: p.1, p.2) := by
    intro body hbody
    cases h : parseStringBody fuel cs <;> simp [parseStringBody, hbody, h]
  have hcontrol : ∀ k, c.toNat = k → some (Char.ofNat k, cs) = some (c, cs) :=
    fun k h => by rw [hofNat k h]
  unfold escapeChar
  by_cases hq : c = '"'
  · rw [if_pos hq]
    exact hescaped _ (by rw [hq]; rfl)
  by_cases hb : c = '\\'
  · rw [if_neg hq, if_pos hb]
    exact hescaped _ (by rw [hb]; rfl)
  rw [if_neg hq, if_neg hb]
  by_cases h8 : c.toNat = 8
  · rw [if_pos h8]
    exact hescaped _ (hcontrol _ h8)
  rw [if_neg h8]
  by_cases h9 : c.toNat = 9
  · rw [if_pos h9]
    exact hescaped _ (hcontrol _ h9)
  rw [if_neg h9]
  by_cases ha : c.toNat = 10
  · rw [if_pos ha]
    exact hescaped _ (hcontrol _ ha)
  rw [if_neg ha]
  by_cases hc : c.toNat = 12
  · rw [if_pos hc]
    exact hescaped _ (hcontrol _ hc)
  rw [if_neg hc]
  by_cases hd : c.toNat = 13
  · rw [if_pos hd]
    exact hescaped _ (hcontrol _ hd)
  rw [if_neg hd]
  by_cases h20 : c.toNat < 32
  · -- the remaining control characters are written as four hexadecimal digits
    have h0 : hexValue '0' = some 0 := by decide
    have h1 := hexValue_digitChar (c.toNat / 16) (by omega)
    have h2 := hexValue_digitChar (c.toNat % 16) (by omega)
    have hval : ((0 * 16 + 0) * 16 + c.toNat / 16) * 16 + c.toNat % 16 = c.toNat := by omega
    have hesc : parseUnicodeEscape ('0' :: '0' :: digitChar (c.toNat / 16) ::
        digitChar (c.toNat % 16) :: cs) = some (c, cs) := by
      simp only [parseUnicodeEscape, parseHex, h0, h1, h2, Option.bind_eq_bind, Option.bind_some,
        Option.pure_def, hval]
      rw [if_neg (by omega), if_neg (by omega), Char.ofNat_toNat]
    rw [if_pos h20]
    exact hescaped _ hesc
  · rw [if_neg h20]
    cases h : parseStringBody fuel cs <;> simp [parseStringBody, hq, hb, h20, h]

private theorem escapeChar_ne_nil (c : Char) : escapeChar c ≠ [] := by
  unfold escapeChar
  repeat refine iteInduction (motive := (· ≠ [])) (fun _ => List.cons_ne_nil _ _) fun _ => ?_
  exact List.cons_ne_nil _ _

/-- Escapes do not shorten a text. -/
private theorem length_le_flatMap_escapeChar (text : List Char) :
    text.length ≤ (text.flatMap escapeChar).length := by
  induction text with
  | nil => simp
  | cons c text ih =>
    have := List.length_pos_of_ne_nil (escapeChar_ne_nil c)
    simp only [List.flatMap_cons, List.length_append, List.length_cons]
    omega

/-- An escaped text is read back. -/
private theorem parseStringBody_flatMap (text rest : List Char) (fuel : Nat)
    (hfuel : text.length < fuel) :
    parseStringBody fuel (text.flatMap escapeChar ++ '"' :: rest) = some (text, rest) := by
  induction text generalizing fuel with
  | nil =>
    obtain ⟨fuel, rfl⟩ : ∃ k, fuel = k + 1 := ⟨fuel - 1, by omega⟩
    simp [parseStringBody]
  | cons c text ih =>
    obtain ⟨fuel, rfl⟩ : ∃ k, fuel = k + 1 := ⟨fuel - 1, by omega⟩
    rw [List.flatMap_cons, List.append_assoc, parseStringBody_escapeChar,
      ih fuel (by simp only [List.length_cons] at hfuel; omega)]
    rfl

/-- The text of a string after its opening quote. -/
theorem parseString_print (s : String) (rest : List Char) :
    parseString (s.toList.flatMap escapeChar ++ '"' :: rest) = some (s, rest) := by
  have hlen := length_le_flatMap_escapeChar s.toList
  rw [parseString, parseStringBody_flatMap _ _ _ (by
    simp only [List.length_append, List.length_cons]; omega)]
  simp

/-! ## Values -/

/-- The first character of a text, which is neither whitespace nor a closing bracket. -/
private theorem head_print (h : Fits n v) :
    ∃ c cs, print v = c :: cs ∧ isWhitespace c = false ∧ c ≠ ']' := by
  cases h with
  | null => exact ⟨'n', _, by rw [print], by decide, by decide⟩
  | bool b => cases b <;> exact ⟨_, _, by rw [print], by decide, by decide⟩
  | number h =>
    rename_i k
    obtain ⟨c, cs, hcs⟩ := List.exists_cons_of_ne_nil (decimal_ne_nil k)
    have hc := isDigit_of_mem_decimal k c (by simp [hcs])
    refine ⟨c, cs, by rw [print, printNumber, hcs], ?_, isDigit_ne hc (by decide)⟩
    have hws : ∀ d, d.isDigit = false → c ≠ d := fun d hd => isDigit_ne hc hd
    simp [isWhitespace, hws ' ' (by decide), hws '\n' (by decide), hws '\t' (by decide),
      hws '\r' (by decide)]
  | negative _ _ => exact ⟨'-', _, by rw [print, printNumber], by decide, by decide⟩
  | string s => exact ⟨'"', _, by rw [print, printString], by decide, by decide⟩
  | array _ => exact ⟨'[', _, by rw [print], by decide, by decide⟩
  | object _ => exact ⟨_, _, by rw [print], by decide, by decide⟩

private theorem skipWhitespace_cons {c : Char} (h : isWhitespace c = false) (cs : List Char) :
    skipWhitespace (c :: cs) = c :: cs := by
  simp [skipWhitespace, h]

private theorem length_print_pos (h : Fits n v) : 0 < (print v).length := by
  obtain ⟨c, cs, hcs, -⟩ := head_print h
  simp [hcs]

/-- Reading `v` back, with enough fuel, before any delimiter. -/
private def ReadsBack (depth : Nat) (v : Json) : Prop :=
  ∀ fuel rest, 3 * (print v).length ≤ fuel → Delimited rest →
    parseValue fuel depth (print v ++ rest) = some (v, rest)

/-- An array goes on or ends. -/
private theorem delimited_itemsTail (items : List Json) (rest : List Char) :
    Delimited (printItemsTail items ++ ']' :: rest) := by
  cases items with
  | nil => simpa [printItemsTail] using
      Delimited.cons (c := ']') (by decide) (by decide) (by decide) (by decide) rest
  | cons v items =>
    rw [printItemsTail, List.cons_append]
    exact Delimited.cons (by decide) (by decide) (by decide) (by decide) _

/-- An object goes on or ends. -/
private theorem delimited_membersTail (members : List (String × Json)) (rest : List Char) :
    Delimited (printMembersTail members ++ '\x7d' :: rest) := by
  cases members with
  | nil => simpa [printMembersTail] using
      Delimited.cons (c := '\x7d') (by decide) (by decide) (by decide) (by decide) rest
  | cons m members =>
    obtain ⟨k, v⟩ := m
    rw [printMembersTail, List.cons_append]
    exact Delimited.cons (by decide) (by decide) (by decide) (by decide) _

/-- The other items are read back. -/
private theorem parseItemsTail_print (depth : Nat) (items : List Json) (rest : List Char)
    (hfits : ∀ v ∈ items, 0 < (print v).length) (hitems : ∀ v ∈ items, ReadsBack depth v)
    (fuel : Nat) (hfuel : 3 * (printItemsTail items).length + 1 ≤ fuel) :
    parseItemsTail fuel depth (printItemsTail items ++ ']' :: rest) = some (items, rest) := by
  induction items generalizing fuel with
  | nil =>
    obtain ⟨fuel, rfl⟩ : ∃ k, fuel = k + 1 := ⟨fuel - 1, by omega⟩
    simp [parseItemsTail, printItemsTail, skipWhitespace, isWhitespace]
  | cons v items ih =>
    obtain ⟨fuel, rfl⟩ : ∃ k, fuel = k + 1 := ⟨fuel - 1, by omega⟩
    simp only [printItemsTail, List.length_cons, List.length_append] at hfuel
    have hv := hitems v List.mem_cons_self fuel (printItemsTail items ++ ']' :: rest) (by omega)
      (delimited_itemsTail items rest)
    have hrest := ih (fun w hw => hfits w (List.mem_cons_of_mem _ hw))
      (fun w hw => hitems w (List.mem_cons_of_mem _ hw)) fuel (by omega)
    simp only [printItemsTail, List.cons_append, List.append_assoc]
    rw [parseItemsTail, skipWhitespace_cons (by decide)]
    simp [hv, hrest]

/-- The items are read back. -/
private theorem parseItems_print {depth : Nat} {items : List Json} (hfits : ∀ v ∈ items, Fits n v)
    (hitems : ∀ v ∈ items, ReadsBack depth v) (rest : List Char) (fuel : Nat)
    (hfuel : 3 * (printItems items).length + 1 ≤ fuel) :
    parseItems fuel depth (printItems items ++ ']' :: rest) = some (items, rest) := by
  obtain ⟨fuel, rfl⟩ : ∃ k, fuel = k + 1 := ⟨fuel - 1, by omega⟩
  cases items with
  | nil => simp [parseItems, printItems, skipWhitespace, isWhitespace]
  | cons v items =>
    have hpos := length_print_pos (hfits v List.mem_cons_self)
    simp only [printItems, List.length_append] at hfuel
    have hv := hitems v List.mem_cons_self fuel (printItemsTail items ++ ']' :: rest) (by omega)
      (delimited_itemsTail items rest)
    have htail := parseItemsTail_print depth items rest
      (fun w hw => length_print_pos (hfits w (List.mem_cons_of_mem _ hw)))
      (fun w hw => hitems w (List.mem_cons_of_mem _ hw)) fuel (by omega)
    obtain ⟨c, cs, hcs, hws, hclose⟩ := head_print (hfits v List.mem_cons_self)
    simp only [printItems, List.append_assoc]
    rw [parseItems]
    rw [hcs, List.cons_append] at hv ⊢
    rw [skipWhitespace_cons hws]
    split
    · rename_i heq
      exact absurd (List.cons.inj heq).1 hclose
    · simp [hv, htail]

/-- A member is read back. -/
private theorem parseMember_print {depth : Nat} {k : String} {fuel : Nat} (hv : ReadsBack depth v)
    (hlen : 3 * (print v).length < fuel)
    (htail : parseMembersTail (fuel - 1) depth (printMembersTail members ++ '\x7d' :: rest) = some
      (members, rest)) :
    parseMember fuel depth (k.toList.flatMap escapeChar ++ '"' :: ':' ::
        (print v ++ (printMembersTail members ++ '\x7d' :: rest))) =
      some ((k, v) :: members, rest) := by
  obtain ⟨fuel, rfl⟩ : ∃ j, fuel = j + 1 := ⟨fuel - 1, by omega⟩
  have hval := hv fuel (printMembersTail members ++ '\x7d' :: rest) (by omega)
    (delimited_membersTail members rest)
  rw [Nat.add_sub_cancel] at htail
  rw [parseMember, parseString_print]
  simp only [Option.bind_eq_bind, Option.bind_some]
  rw [skipWhitespace_cons (by decide)]
  simp [hval, htail]

/-- The other members are read back. -/
private theorem parseMembersTail_print (depth : Nat) (members : List (String × Json))
    (rest : List Char) (hmembers : ∀ m ∈ members, ReadsBack depth m.2) (fuel : Nat)
    (hfuel : 3 * (printMembersTail members).length + 1 ≤ fuel) :
    parseMembersTail fuel depth (printMembersTail members ++ '\x7d' :: rest) =
      some (members, rest) := by
  induction members generalizing fuel with
  | nil =>
    obtain ⟨fuel, rfl⟩ : ∃ k, fuel = k + 1 := ⟨fuel - 1, by omega⟩
    simp [parseMembersTail, printMembersTail, skipWhitespace, isWhitespace]
  | cons m members ih =>
    obtain ⟨k, v⟩ := m
    obtain ⟨fuel, rfl⟩ : ∃ k, fuel = k + 1 := ⟨fuel - 1, by omega⟩
    simp only [printMembersTail, printString, List.length_cons, List.length_append] at hfuel
    have htail := ih (fun w hw => hmembers w (List.mem_cons_of_mem _ hw)) (fuel - 1) (by omega)
    have hmember := parseMember_print (k := k) (hmembers _ List.mem_cons_self)
      (show 3 * (print v).length < fuel by omega) htail
    simp only [printMembersTail, printString, List.cons_append, List.append_assoc,
      List.nil_append]
    rw [parseMembersTail, skipWhitespace_cons (by decide)]
    simp [skipWhitespace, isWhitespace, hmember]

/-- The members are read back. -/
private theorem parseMembers_print {depth : Nat} (hmembers : ∀ m ∈ members, ReadsBack depth m.2)
    (rest : List Char) (fuel : Nat) (hfuel : 3 * (printMembers members).length + 1 ≤ fuel) :
    parseMembers fuel depth (printMembers members ++ '\x7d' :: rest) = some (members, rest) := by
  obtain ⟨fuel, rfl⟩ : ∃ k, fuel = k + 1 := ⟨fuel - 1, by omega⟩
  cases members with
  | nil => simp [parseMembers, printMembers, skipWhitespace, isWhitespace]
  | cons m members =>
    obtain ⟨k, v⟩ := m
    simp only [printMembers, printString, List.length_cons, List.length_append] at hfuel
    have htail := parseMembersTail_print depth members rest
      (fun w hw => hmembers w (List.mem_cons_of_mem _ hw)) (fuel - 1) (by omega)
    have hmember := parseMember_print (k := k) (hmembers _ List.mem_cons_self)
      (show 3 * (print v).length < fuel by omega) htail
    simp only [printMembers, printString, List.cons_append, List.append_assoc, List.nil_append]
    rw [parseMembers, skipWhitespace_cons (by decide)]
    simp [hmember]

/-- The parser reads a printed value back, whatever delimiter follows it. -/
theorem parseValue_print (h : Fits n v) {depth : Nat} (hdepth : n < depth) :
    ReadsBack depth v := by
  induction h generalizing depth with
  | null =>
    intro fuel rest hfuel _
    rw [print] at hfuel ⊢
    obtain ⟨fuel, rfl⟩ : ∃ k, fuel = k + 1 := ⟨fuel - 1, by simp at hfuel; omega⟩
    simp [parseValue, skipWhitespace, isWhitespace, parseLiteral]
  | bool b =>
    intro fuel rest hfuel _
    cases b <;>
    · rw [print] at hfuel ⊢
      obtain ⟨fuel, rfl⟩ : ∃ k, fuel = k + 1 := ⟨fuel - 1, by simp at hfuel; omega⟩
      simp [parseValue, skipWhitespace, isWhitespace, parseLiteral]
  | number hk =>
    rename_i k
    intro fuel rest hfuel hrest
    obtain ⟨c, cs, hcs, hws, -⟩ := head_print (Fits.number (n := 0) hk)
    have hnum := parseNumber_decimal hk hrest
    have hdigit := isDigit_of_mem_decimal k
    rw [print, printNumber] at hcs
    rw [hcs] at hdigit hnum
    -- a digit begins no other value
    have hne : ∀ d, d.isDigit = false → c ≠ d :=
      fun d hd => isDigit_ne (hdigit c List.mem_cons_self) hd
    rw [print, printNumber, hcs] at hfuel ⊢
    obtain ⟨fuel, rfl⟩ : ∃ k, fuel = k + 1 := ⟨fuel - 1, by simp at hfuel; omega⟩
    rw [List.cons_append] at hnum ⊢
    rw [parseValue, skipWhitespace_cons hws]
    simp [hne '"' (by decide), hne '[' (by decide), hne '\x7b' (by decide), hne 'n' (by decide),
      hne 't' (by decide), hne 'f' (by decide), hnum]
  | negative hpos hk =>
    intro fuel rest hfuel hrest
    have hnum := parseNumber_negative hpos hk hrest
    rw [print, printNumber] at hfuel ⊢
    obtain ⟨fuel, rfl⟩ : ∃ k, fuel = k + 1 := ⟨fuel - 1, by simp at hfuel; omega⟩
    rw [List.cons_append, parseValue, skipWhitespace_cons (by decide)]
    simp [hnum]
  | string s =>
    intro fuel rest hfuel _
    rw [print, printString] at hfuel ⊢
    obtain ⟨fuel, rfl⟩ : ∃ k, fuel = k + 1 := ⟨fuel - 1, by simp at hfuel; omega⟩
    simp only [List.cons_append, List.append_assoc, List.nil_append]
    rw [parseValue, skipWhitespace_cons (by decide)]
    simp [parseString_print]
  | array hitems ih =>
    rename_i n items
    intro fuel rest hfuel _
    rw [print] at hfuel ⊢
    simp only [List.length_cons, List.length_append] at hfuel
    obtain ⟨fuel, rfl⟩ : ∃ k, fuel = k + 1 := ⟨fuel - 1, by omega⟩
    have hback : ∀ v ∈ items, ReadsBack (depth - 1) v := fun v hv => ih v hv (by omega)
    have hparse := parseItems_print hitems hback rest fuel (by omega)
    simp only [List.cons_append, List.append_assoc, List.nil_append]
    rw [parseValue, skipWhitespace_cons (by decide)]
    simp [hparse, show ¬ depth ≤ 1 by omega]
  | object hmembers ih =>
    rename_i n members
    intro fuel rest hfuel _
    rw [print] at hfuel ⊢
    simp only [List.length_cons, List.length_append] at hfuel
    obtain ⟨fuel, rfl⟩ : ∃ k, fuel = k + 1 := ⟨fuel - 1, by omega⟩
    have hback : ∀ m ∈ members, ReadsBack (depth - 1) m.2 := fun m hm => ih m hm (by omega)
    have hparse := parseMembers_print hback rest fuel (by omega)
    simp only [List.cons_append, List.append_assoc, List.nil_append]
    rw [parseValue, skipWhitespace_cons (by decide)]
    simp [hparse, show ¬ depth ≤ 1 by omega]

/-- **Round trip**: a value within the limits is read back from its text, also
    with a newline after it. -/
theorem parse_print (h : Fits n v) (hn : n < recursionLimit) :
    parse (print v ++ ['\n']) = some v := by
  have hdelim : Delimited ['\n'] :=
    Delimited.cons (by decide) (by decide) (by decide) (by decide) []
  have hread := parseValue_print h hn (3 * (print v ++ ['\n']).length + 3) ['\n']
    (by simp only [List.length_append]; omega) hdelim
  rw [parse, hread]
  simp [skipWhitespace, isWhitespace]

/-- The round trip without a newline. -/
theorem parse_print_bare (h : Fits n v) (hn : n < recursionLimit) :
    parse (print v) = some v := by
  have hread := parseValue_print h hn (3 * (print v).length + 3) [] (by omega) Delimited.nil
  rw [List.append_nil] at hread
  rw [parse, hread]
  simp [skipWhitespace]

/-- Values within the limits are told apart by their texts. -/
theorem print_injective {w : Json} (hv : Fits n v) (hw : Fits n w) (hn : n < recursionLimit)
    (h : print v = print w) : v = w := by
  have hread := parse_print hv hn
  rw [h, parse_print hw hn] at hread
  exact (Option.some.inj hread).symm

/-! ## Sizes -/

/-- UTF-8 length of a text. -/
def textSize (cs : List Char) : Nat := (cs.map Char.utf8Size).sum

@[simp] theorem textSize_nil : textSize [] = 0 := rfl

@[simp] theorem textSize_cons (c : Char) (cs : List Char) :
    textSize (c :: cs) = c.utf8Size + textSize cs := by
  simp [textSize]

@[simp] theorem textSize_append (cs ds : List Char) :
    textSize (cs ++ ds) = textSize cs + textSize ds := by
  simp [textSize]

/-- The size of a string. -/
theorem utf8ByteSize_ofList (cs : List Char) : (String.ofList cs).utf8ByteSize = textSize cs := by
  induction cs with
  | nil => rfl
  | cons c cs ih =>
    rw [String.ofList_cons, String.utf8ByteSize_append, String.utf8ByteSize_singleton, ih,
      textSize_cons]

/-- Bytes of one character inside a string. -/
def charSize (c : Char) : Nat :=
  if c = '"' ∨ c = '\\' ∨ c.toNat = 0x08 ∨ c.toNat = 0x09 ∨ c.toNat = 0x0a ∨ c.toNat = 0x0c ∨
      c.toNat = 0x0d then 2
  else if c.toNat < 0x20 then 6
  else c.utf8Size

def stringSize (s : String) : Nat := 2 + (s.toList.map charSize).sum

/-- Number of decimal digits. -/
def decimalSize (n : Nat) : Nat :=
  if n < 10 then 1 else decimalSize (n / 10) + 1
termination_by n
decreasing_by omega

def numberSize : JsonNumber → Nat
  | .unsigned n => decimalSize n
  | .negative n => 1 + decimalSize n
  | .float lexeme => textSize lexeme

mutual

/-- Bytes of the compact text of a value. -/
def compactSize : Json → Nat
  | .null => 4
  | .bool true => 4
  | .bool false => 5
  | .number n => numberSize n
  | .string s => stringSize s
  | .array items => 2 + itemsSize items
  | .object members => 2 + membersSize members

def itemsSize : List Json → Nat
  | [] => 0
  | v :: rest => compactSize v + itemsTailSize rest

def itemsTailSize : List Json → Nat
  | [] => 0
  | v :: rest => 1 + compactSize v + itemsTailSize rest

def membersSize : List (String × Json) → Nat
  | [] => 0
  | (k, v) :: rest => stringSize k + 1 + compactSize v + membersTailSize rest

def membersTailSize : List (String × Json) → Nat
  | [] => 0
  | (k, v) :: rest => 1 + stringSize k + 1 + compactSize v + membersTailSize rest

end

/-- A member is no larger than all. -/
private theorem compactSize_le_membersTailSize {m : String × Json} (h : m ∈ members) :
    m.2.compactSize ≤ membersTailSize members := by
  induction members with
  | nil => cases h
  | cons m' members ih =>
    obtain ⟨k, v⟩ := m'
    rw [membersTailSize]
    rcases List.mem_cons.mp h with rfl | h
    · show v.compactSize ≤ _
      omega
    · have := ih h
      omega

/-- An object is larger than each of its members. -/
theorem compactSize_lt_object {m : String × Json} (h : m ∈ members) :
    m.2.compactSize < (Json.object members).compactSize := by
  rw [compactSize]
  cases members with
  | nil => cases h
  | cons m' members =>
    obtain ⟨k, v⟩ := m'
    rw [membersSize]
    rcases List.mem_cons.mp h with rfl | h
    · show v.compactSize < _
      omega
    · have := compactSize_le_membersTailSize h
      omega

private theorem utf8Size_digitChar : ∀ d < 16, (digitChar d).utf8Size = 1 := by decide

mutual

/-- A bound of the size of a value that reads only the byte lengths of its strings. -/
def sizeBound : Json → Nat
  | .null => 4
  | .bool _ => 5
  | .number n => numberSize n
  | .string s => 2 + 6 * s.utf8ByteSize
  | .array items => 2 + itemsBound items
  | .object members => 2 + membersBound members

def itemsBound : List Json → Nat
  | [] => 0
  | v :: rest => 1 + sizeBound v + itemsBound rest

def membersBound : List (String × Json) → Nat
  | [] => 0
  | (k, v) :: rest => 4 + 6 * k.utf8ByteSize + sizeBound v + membersBound rest

end

/-- Text without quotes, backslashes and control characters is written as it is. -/
theorem stringSize_of_plain {s : String}
    (h : ∀ c ∈ s.toList, 0x20 ≤ c.toNat ∧ c ≠ '"' ∧ c ≠ '\\') :
    stringSize s = 2 + s.utf8ByteSize := by
  have hchar : ∀ c ∈ s.toList, charSize c = c.utf8Size := by
    intro c hc
    obtain ⟨hlow, hquote, hslash⟩ := h c hc
    rw [charSize, if_neg (by simp only [hquote, hslash, false_or]; omega), if_neg (by omega)]
  have hsum : (s.toList.map charSize).sum = s.utf8ByteSize := by
    rw [List.map_congr_left hchar, ← textSize, ← utf8ByteSize_ofList, String.ofList_toList]
  rw [stringSize, hsum]

/-- An escape has at most six bytes. -/
private theorem stringSize_le (s : String) : stringSize s ≤ 2 + 6 * s.utf8ByteSize := by
  have hchar : ∀ c : Char, charSize c ≤ 6 * c.utf8Size := by
    intro c
    have hpos := c.utf8Size_pos
    rw [charSize]
    split
    · omega
    · split <;> omega
  have hsum : ∀ cs : List Char, (cs.map charSize).sum ≤ 6 * textSize cs := by
    intro cs
    induction cs with
    | nil => simp
    | cons c cs ih =>
      have hc := hchar c
      rw [List.map_cons, List.sum_cons, textSize_cons]
      omega
  have hs := hsum s.toList
  rw [← utf8ByteSize_ofList, String.ofList_toList] at hs
  rw [stringSize]
  omega

mutual

/-- The bound is one. -/
theorem compactSize_le_sizeBound : ∀ v : Json, v.compactSize ≤ v.sizeBound
  | .null => by simp only [compactSize, sizeBound, Nat.le_refl]
  | .bool true => by rw [compactSize, sizeBound]; omega
  | .bool false => by simp only [compactSize, sizeBound, Nat.le_refl]
  | .number n => by simp only [compactSize, sizeBound, Nat.le_refl]
  | .string s => by rw [compactSize, sizeBound]; exact stringSize_le s
  | .array [] => by rw [compactSize, sizeBound, itemsSize]; omega
  | .array (v :: rest) => by
    have hv := compactSize_le_sizeBound v
    have hrest := itemsTailSize_le_itemsBound rest
    rw [compactSize, sizeBound, itemsSize, itemsBound]
    omega
  | .object [] => by rw [compactSize, sizeBound, membersSize]; omega
  | .object ((k, v) :: rest) => by
    have hk := stringSize_le k
    have hv := compactSize_le_sizeBound v
    have hrest := membersTailSize_le_membersBound rest
    rw [compactSize, sizeBound, membersSize, membersBound]
    omega

/-- The bound for items. -/
private theorem itemsTailSize_le_itemsBound : ∀ items : List Json,
    itemsTailSize items ≤ itemsBound items
  | [] => by simp only [itemsTailSize, itemsBound, Nat.le_refl]
  | v :: rest => by
    have hv := compactSize_le_sizeBound v
    have hrest := itemsTailSize_le_itemsBound rest
    rw [itemsTailSize, itemsBound]
    omega

/-- The bound for members. -/
private theorem membersTailSize_le_membersBound : ∀ members : List (String × Json),
    membersTailSize members ≤ membersBound members
  | [] => by simp only [membersTailSize, membersBound, Nat.le_refl]
  | (k, v) :: rest => by
    have hk := stringSize_le k
    have hv := compactSize_le_sizeBound v
    have hrest := membersTailSize_le_membersBound rest
    rw [membersTailSize, membersBound]
    omega

end

/-- A smaller member makes a smaller object. -/
private theorem membersTailSize_le (front : List (String × Json)) {back : List (String × Json)}
    {key : String} {w : Json} {d : Nat} (h : v.compactSize ≤ w.compactSize + d) :
    membersTailSize (front ++ (key, v) :: back) ≤ membersTailSize (front ++ (key, w) :: back) + d := by
  induction front with
  | nil =>
    rw [List.nil_append, List.nil_append, membersTailSize, membersTailSize]
    omega
  | cons m front ih =>
    rw [List.cons_append, List.cons_append, membersTailSize, membersTailSize]
    omega

/-- An object grows by what one of its members grows by. -/
theorem compactSize_object_le (front : List (String × Json)) {back : List (String × Json)}
    {key : String} {w : Json} {d : Nat} (h : v.compactSize ≤ w.compactSize + d) :
    (Json.object (front ++ (key, v) :: back)).compactSize ≤
      (Json.object (front ++ (key, w) :: back)).compactSize + d := by
  rw [compactSize, compactSize]
  cases front with
  | nil =>
    rw [List.nil_append, List.nil_append, membersSize, membersSize]
    omega
  | cons m front =>
    have htail : membersTailSize (front ++ (key, v) :: back) ≤
        membersTailSize (front ++ (key, w) :: back) + d := membersTailSize_le front h
    rw [List.cons_append, List.cons_append, membersSize, membersSize]
    omega

/-- The size of a number. -/
theorem textSize_decimal (n : Nat) : textSize (decimal n) = decimalSize n := by
  induction n using decimal.induct with
  | case1 n hlt =>
    rw [decimal, decimalSize, if_pos hlt, if_pos hlt]
    simp [utf8Size_digitChar n (by omega)]
  | case2 n hge ih =>
    rw [decimal, decimalSize, if_neg hge, if_neg hge]
    simp [ih, utf8Size_digitChar (n % 10) (by omega)]

/-- Counting on adds at most one digit. -/
theorem decimalSize_succ_le (n : Nat) : decimalSize (n + 1) ≤ decimalSize n + 1 := by
  induction n using decimalSize.induct with
  | case1 n hlt =>
    have hone : decimalSize n = 1 := by rw [decimalSize, if_pos hlt]
    have htenth : decimalSize ((n + 1) / 10) = 1 := by rw [decimalSize, if_pos (by omega)]
    rw [decimalSize]
    split <;> omega
  | case2 n hge ih =>
    have hn : decimalSize n = decimalSize (n / 10) + 1 := by rw [decimalSize, if_neg hge]
    rw [hn, decimalSize, if_neg (by omega)]
    by_cases hcarry : (n + 1) / 10 = n / 10
    · rw [hcarry]
      omega
    · have hnext : (n + 1) / 10 = n / 10 + 1 := by omega
      rw [hnext]
      omega

private theorem textSize_escapeChar_control : ∀ n < 0x20,
    textSize (escapeChar (Char.ofNat n)) = charSize (Char.ofNat n) := by decide

/-- The size of an escape. -/
private theorem textSize_escapeChar (c : Char) : textSize (escapeChar c) = charSize c := by
  by_cases hcontrol : c.toNat < 0x20
  · have h := textSize_escapeChar_control c.toNat hcontrol
    rwa [Char.ofNat_toNat] at h
  · by_cases hquote : c = '"'
    · subst hquote; decide
    · by_cases hback : c = '\\'
      · subst hback; decide
      · have hne : ∀ n < 0x20, c.toNat ≠ n := by omega
        simp [escapeChar, charSize, hquote, hback, hcontrol, hne]

/-- The size of a printed string. -/
theorem textSize_printString (s : String) : textSize (printString s) = stringSize s := by
  have hbody : ∀ cs : List Char, textSize (cs.flatMap escapeChar) = (cs.map charSize).sum := by
    intro cs
    induction cs with
    | nil => rfl
    | cons c cs ih => simp [textSize_escapeChar, ih]
  have hquote : Char.utf8Size '"' = 1 := by decide
  simp only [printString, textSize_cons, textSize_append, textSize_nil, hbody, hquote, stringSize]
  omega

/-- The size of a printed number. -/
private theorem textSize_printNumber (n : JsonNumber) :
    textSize (printNumber n) = numberSize n := by
  cases n with
  | unsigned n => exact textSize_decimal n
  | negative n =>
    have : Char.utf8Size '-' = 1 := by decide
    simp [printNumber, numberSize, textSize_decimal, this]
  | float lexeme => rfl

mutual

/-- The size of a compact text, without writing it. -/
theorem textSize_print : ∀ v : Json, textSize (print v) = compactSize v
  | .null => by simp [print, compactSize]; decide
  | .bool true => by simp [print, compactSize]; decide
  | .bool false => by simp [print, compactSize]; decide
  | .number n => by rw [print, compactSize, textSize_printNumber]
  | .string s => by rw [print, compactSize, textSize_printString]
  | .array items => by
    have h1 : Char.utf8Size '[' = 1 := by decide
    have h2 : Char.utf8Size ']' = 1 := by decide
    simp only [print, compactSize, textSize_cons, textSize_append, textSize_nil,
      textSize_printItems items, h1, h2]
    omega
  | .object members => by
    have h1 : Char.utf8Size '\x7b' = 1 := by decide
    have h2 : Char.utf8Size '\x7d' = 1 := by decide
    simp only [print, compactSize, textSize_cons, textSize_append, textSize_nil,
      textSize_printMembers members, h1, h2]
    omega

theorem textSize_printItems : ∀ items : List Json, textSize (printItems items) = itemsSize items
  | [] => by simp [printItems, itemsSize]
  | v :: rest => by
    rw [printItems, itemsSize, textSize_append, textSize_print v, textSize_printItemsTail rest]

theorem textSize_printItemsTail : ∀ items : List Json,
    textSize (printItemsTail items) = itemsTailSize items
  | [] => by simp [printItemsTail, itemsTailSize]
  | v :: rest => by
    have h : Char.utf8Size ',' = 1 := by decide
    rw [printItemsTail, itemsTailSize, textSize_cons, textSize_append, textSize_print v,
      textSize_printItemsTail rest, h]
    omega

theorem textSize_printMembers : ∀ members : List (String × Json),
    textSize (printMembers members) = membersSize members
  | [] => by simp [printMembers, membersSize]
  | (k, v) :: rest => by
    have h : Char.utf8Size ':' = 1 := by decide
    rw [printMembers, membersSize, textSize_append, textSize_cons, textSize_append,
      textSize_printString, textSize_print v, textSize_printMembersTail rest, h]
    omega

theorem textSize_printMembersTail : ∀ members : List (String × Json),
    textSize (printMembersTail members) = membersTailSize members
  | [] => by simp [printMembersTail, membersTailSize]
  | (k, v) :: rest => by
    have h : Char.utf8Size ':' = 1 := by decide
    have h' : Char.utf8Size ',' = 1 := by decide
    rw [printMembersTail, membersTailSize, textSize_cons, textSize_append, textSize_cons,
      textSize_append, textSize_printString, textSize_print v, textSize_printMembersTail rest,
      h, h']
    omega

end

end Json
