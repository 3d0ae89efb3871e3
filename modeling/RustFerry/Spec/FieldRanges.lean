import RustFerry.Native.FieldRanges

/-!
# Diagnostics and their keys

A diagnostic about a field points at the first line that begins with the last component of its path
and an equals sign. When the field is written on a line of its own, this is its own key exactly if
no earlier line looks like it; the counters of the position must not overflow.
-/

namespace RustFerry.Ide

open Config Except

/-! ## Positions -/

def utf16Length (text : List Char) : Nat := (text.map utf16Size).sum

/-- The place after the text. -/
def exactPosition (text : List Char) : Position :=
  ⟨text.count '\n', utf16Length (Text.lastLine text)⟩

/-- The range of a key after the text. -/
def keyRange (text key : List Char) : SourceRange :=
  ⟨exactPosition text, exactPosition (text ++ key)⟩

/-- Bytes of a concatenation. -/
theorem byteLength_append (a b : List Char) : byteLength (a ++ b) = byteLength a + byteLength b := by
  simp [byteLength]

theorem utf16Length_append (a b : List Char) :
    utf16Length (a ++ b) = utf16Length a + utf16Length b := by
  simp [utf16Length]

theorem charsUpTo_append (a b : List Char) : charsUpTo (a ++ b) (byteLength a) = a := by
  induction a with
  | nil =>
    cases b with
    | nil => rfl
    | cons c rest =>
      have hc := Char.utf8Size_pos c
      rw [List.nil_append, charsUpTo]
      simp [byteLength]
      omega
  | cons c a ih =>
    have hsize : byteLength (c :: a) = c.utf8Size + byteLength a := by simp [byteLength]
    rw [List.cons_append, charsUpTo, hsize, if_pos (by omega), Nat.add_sub_cancel_left, ih]

theorem lastLine_concat_newline (text : List Char) : Text.lastLine (text ++ ['\n']) = [] := by
  rw [Text.lastLine_append]
  exact Text.lastLine_append_newline (Text.newline_notMem_lastLine text) []

theorem lastLine_append_of_free {text back : List Char} (h : '\n' ∉ back) :
    Text.lastLine (text ++ back) = Text.lastLine text ++ back := by
  have hfree := Text.newline_notMem_lastLine text
  rw [Text.lastLine_append]
  apply Text.lastLine_of_free
  simp [hfree, h]

/-- The counters stop at the largest number of 32 bits. -/
theorem foldl_advance (text : List Char) :
    text.foldl Position.advance ⟨0, 0⟩ =
      ⟨min (text.count '\n') u32Max, min (utf16Length (Text.lastLine text)) u32Max⟩ := by
  induction text using List.reverseRecOn with
  | nil => rfl
  | append_singleton text c ih =>
    rw [List.foldl_append, ih, List.foldl_cons, List.foldl_nil, Position.advance]
    by_cases hc : c = '\n'
    · rw [if_pos hc, hc, lastLine_concat_newline, List.count_append]
      have hmin : min (min (text.count '\n') u32Max + 1) u32Max =
          min (text.count '\n' + 1) u32Max := by omega
      simp [utf16Length, hmin]
    · have hfree : '\n' ∉ [c] := by simpa using Ne.symm hc
      have hone : utf16Length [c] = utf16Size c := by simp [utf16Length]
      have hmin : min (min (utf16Length (Text.lastLine text)) u32Max + utf16Size c) u32Max =
          min (utf16Length (Text.lastLine text) + utf16Size c) u32Max := by omega
      rw [if_neg hc, lastLine_append_of_free hfree, utf16Length_append, List.count_append,
        List.count_eq_zero_of_not_mem hfree, hone, Nat.add_zero, ← hmin]

/-- A position, as far as 32 bits hold it. -/
theorem positionAt_append (text rest : List Char) :
    positionAt (text ++ rest) (byteLength text) =
      ⟨min (exactPosition text).line u32Max, min (exactPosition text).character u32Max⟩ := by
  rw [positionAt, charsUpTo_append, foldl_advance]
  rfl

/-! ## Lines -/

/-- The line is the beginning of an entry with the key. -/
def beginsEntry (key line : List Char) : Bool :=
  (Text.stripFront key (trimStart line)).any fun rest => (trimStart rest).head? == some '='

theorem append_trimStart (text : List Char) :
    text.takeWhile Text.isWhitespace ++ trimStart text = text :=
  List.takeWhile_append_dropWhile

theorem trimStart_append {blank text : List Char} (h : ∀ c ∈ blank, Text.isWhitespace c = true) :
    trimStart (blank ++ text) = trimStart text := by
  rw [trimStart, List.dropWhile_append_of_pos h]
  rfl

theorem trimStart_of_head {c : Char} {rest : List Char} (h : Text.isWhitespace c = false) :
    trimStart (c :: rest) = c :: rest := by
  rw [trimStart, List.dropWhile_cons_of_neg (by simp [h])]

/-- The first line that begins an entry, after lines that do not. -/
theorem findKey_append {source key line : List Char} {before after : List (List Char)}
    (hbefore : ∀ l ∈ before, beginsEntry key l = false) (hline : beginsEntry key line = true)
    (offset : Nat) :
    findKey source key offset (before ++ line :: after) =
      spanRange source (some
        (offset + byteLength before.flatten + (byteLength line - byteLength (trimStart line)),
          offset + byteLength before.flatten + (byteLength line - byteLength (trimStart line)) +
            byteLength key)) := by
  induction before generalizing offset with
  | nil =>
    rw [beginsEntry] at hline
    rw [List.nil_append, findKey]
    simp only
    rw [if_pos hline]
    rfl
  | cons first before ih =>
    have hfirst := hbefore first List.mem_cons_self
    rw [beginsEntry] at hfirst
    rw [List.cons_append, findKey]
    simp only
    rw [if_neg (by rw [hfirst]; exact Bool.false_ne_true),
      ih (fun l hl => hbefore l (List.mem_cons_of_mem _ hl)), List.flatten_cons, byteLength_append,
      Nat.add_assoc offset]

/-- The range of a key in a line that begins an entry. -/
theorem spanRange_line {front line back key : List Char} (hline : beginsEntry key line = true) :
    ∃ rest, line = line.takeWhile Text.isWhitespace ++ key ++ rest ∧ key ++ rest ≠ [] ∧
      spanRange (front ++ (line ++ back)) (some
          (byteLength front + (byteLength line - byteLength (trimStart line)),
            byteLength front + (byteLength line - byteLength (trimStart line)) +
              byteLength key)) =
        ⟨positionAt (front ++ (line ++ back))
            (byteLength (front ++ line.takeWhile Text.isWhitespace)),
          positionAt (front ++ (line ++ back))
            (byteLength (front ++ line.takeWhile Text.isWhitespace ++ key))⟩ := by
  obtain ⟨rest, hstrip, hrest⟩ := (Option.any_eq_true _ _).mp hline
  have htrimmed := Text.stripFront_eq_some.mp hstrip
  have hsplit := append_trimStart line
  have hsize : byteLength line - byteLength (trimStart line) =
      byteLength (line.takeWhile Text.isWhitespace) := by
    have hsum := congrArg byteLength hsplit
    rw [byteLength_append] at hsum
    omega
  refine ⟨rest, ?_, ?_, ?_⟩
  · rw [List.append_assoc, ← htrimmed, hsplit]
  · intro hnil
    have hempty : rest = [] := (List.append_eq_nil_iff.mp hnil).2
    rw [hempty] at hrest
    cases hrest
  · rw [hsize, spanRange, byteLength_append, byteLength_append, byteLength_append]
    rfl

/-! ## Fields -/

/-- A key of letters, digits and underscores is not empty and has no white space. -/
def isPlainKey (key : List Char) : Bool := !key.isEmpty && key.all fun c => !Text.isWhitespace c

def reportedFields : List String :=
  ["schema_version", "app.name", "platforms", "app.identifier", "app.display_version",
    "android.min_sdk", "android.abis", "android.target_sdk", "ios.min_version",
    "capabilities.network.probe_url", "capabilities.network.probe_timeout_ms",
    "capabilities.notifications.push", "capabilities.deep_links.schemes",
    "extensions.widget.app_group", "permissions.camera.purpose", "permissions.photos.purpose",
    "permissions.microphone.purpose", "permissions.location_when_in_use.purpose",
    "permissions.local_network.purpose"]

def Reports (issues : List ValidationIssue) : Prop :=
  ∀ issue ∈ issues, issue.field ∈ reportedFields

namespace Reports

theorem nil : Reports [] := by
  intro issue h
  cases h

/-- Reports of two checks. -/
theorem append {a b : List ValidationIssue} (ha : Reports a) (hb : Reports b) :
    Reports (a ++ b) := by
  intro issue h
  cases List.mem_append.mp h with
  | inl h => exact ha issue h
  | inr h => exact hb issue h

theorem issueIf {bad : Bool} {field message help : String} (h : field ∈ reportedFields) :
    Reports (issueIf bad field message help) := by
  intro issue hmem
  cases bad with
  | false => cases hmem
  | true =>
    rw [List.mem_singleton.mp hmem]
    exact h

/-- One check for each item. -/
theorem flatMap {α : Type} {items : List α} {f : α → List ValidationIssue}
    (h : ∀ item, Reports (f item)) : Reports (items.flatMap f) := by
  intro issue hmem
  obtain ⟨item, _, hissue⟩ := List.mem_flatMap.mp hmem
  exact h item issue hissue

/-- The checks of the application. -/
theorem app (app : AppConfig) (platforms : List TargetPlatform) :
    Reports (appIssues app platforms) := by
  unfold appIssues
  refine ((((issueIf (by decide)).append (issueIf (by decide))).append
    (issueIf (by decide))).append ?_).append (issueIf (by decide))
  split
  · exact nil
  · intro issue h
    rw [List.mem_singleton.mp h]
    show "app.identifier" ∈ reportedFields
    decide

/-- The checks of Android. -/
theorem android (android : AndroidConfig) : Reports (androidIssues android) := by
  unfold androidIssues targetSdkIssues
  refine (((issueIf (by decide)).append (issueIf (by decide))).append
    (issueIf (by decide))).append ?_
  split
  · split
    · split
      · exact issueIf (by decide)
      · exact issueIf (by decide)
    · exact issueIf (by decide)
  · exact nil

/-- The checks of the network capability. -/
theorem network (urlParse : UrlParser) (network : NetworkCapability) :
    Reports (networkIssues urlParse network) := by
  unfold networkIssues
  refine (((issueIf (by decide)).append (issueIf (by decide))).append
    (issueIf (by decide))).append (flatMap ?_)
  intro probeUrl
  unfold probeUrlIssues
  split
  · exact issueIf (by decide)
  · exact issueIf (by decide)

/-- The checks of permissions. -/
theorem permissions (permissions : PermissionsConfig) : Reports (permissionIssues permissions) :=
  ((((issueIf (by decide)).append (issueIf (by decide))).append (issueIf (by decide))).append
    (issueIf (by decide))).append (issueIf (by decide))

theorem validate (urlParse : UrlParser) (config : FerryConfig) :
    Reports (config.validate urlParse) := by
  unfold FerryConfig.validate
  refine ((((((((((issueIf (by decide)).append (app _ _)).append (android _)).append
    (issueIf (by decide))).append (network _ _)).append (issueIf (by decide))).append
    (flatMap ?_)).append (issueIf (by decide))).append (issueIf (by decide))).append
    (permissions _))
  intro scheme
  exact issueIf (by decide)

end Reports

theorem isPlainKey_of_reported : ∀ field ∈ reportedFields, isPlainKey (fieldKey field) = true :=
  List.all_eq_true.mp (by decide +kernel)

/-- The keys of all issues. -/
theorem isPlainKey_of_validate {urlParse : UrlParser} {config : FerryConfig}
    {issue : ValidationIssue} (h : issue ∈ config.validate urlParse) :
    isPlainKey (fieldKey issue.field) = true :=
  isPlainKey_of_reported _ (Reports.validate urlParse config issue h)

/-! ## The place of a key -/

/-- A key is written as `key = value` on a line of its own, after complete lines. -/
structure WrittenAt (key before indent blank : List Char) : Prop where
  plain : isPlainKey key = true
  complete : Text.lastLine before = []
  indent : ∀ c ∈ indent, Text.isWhitespace c = true ∧ c ≠ '\n'
  blank : ∀ c ∈ blank, Text.isWhitespace c = true ∧ c ≠ '\n'

section

variable {key before indent blank : List Char}

section

variable (h : WrittenAt key before indent blank)

include h

theorem trimStart_key (rest : List Char) :
    trimStart (indent ++ (key ++ (blank ++ '=' :: rest))) = key ++ (blank ++ '=' :: rest) := by
  have hplain := h.plain
  simp only [isPlainKey, Bool.and_eq_true, Bool.not_eq_true', List.all_eq_true] at hplain
  rw [trimStart_append fun c hc => (h.indent c hc).1]
  cases key with
  | nil => cases hplain.1
  | cons c key => exact trimStart_of_head (hplain.2 c List.mem_cons_self)

theorem beginsEntry_own (rest : List Char) :
    beginsEntry key (indent ++ (key ++ (blank ++ '=' :: rest))) = true := by
  rw [beginsEntry, trimStart_key h, Text.stripFront_eq_some.mpr rfl, Option.any_some,
    trimStart_append fun c hc => (h.blank c hc).1, trimStart_of_head (by decide)]
  rfl

theorem takeWhile_own (rest : List Char) :
    (indent ++ (key ++ (blank ++ '=' :: rest))).takeWhile Text.isWhitespace = indent := by
  have hsplit := append_trimStart (indent ++ (key ++ (blank ++ '=' :: rest)))
  rw [trimStart_key h] at hsplit
  exact List.append_cancel_right hsplit

theorem newline_notMem_key :
    '\n' ∉ indent ++ (key ++ blank) := by
  have hplain := h.plain
  simp only [isPlainKey, Bool.and_eq_true, List.all_eq_true] at hplain
  intro hmem
  rw [List.mem_append, List.mem_append] at hmem
  rcases hmem with hmem | hmem | hmem
  · exact (h.indent _ hmem).2 rfl
  · have hspace := hplain.2 _ hmem
    exact absurd hspace (by decide)
  · exact (h.blank _ hmem).2 rfl

/-- The line of the key is the first one of its text. -/
theorem splitInclusive_own (rest : List Char) :
    ∃ value back, Text.splitInclusive (indent ++ (key ++ (blank ++ '=' :: rest))) =
        (indent ++ (key ++ (blank ++ '=' :: value))) :: Text.splitInclusive back ∧
      rest = value ++ back := by
  have hfront := newline_notMem_key h
  cases Text.newline_cases rest with
  | inl hfree =>
    refine ⟨rest, [], ?_, (List.append_nil rest).symm⟩
    apply Text.splitInclusive_of_free
    · simp
    · simp only [List.mem_append, List.mem_cons, not_or] at hfront ⊢
      exact ⟨hfront.1, hfront.2.1, hfront.2.2, by decide, hfree⟩
  | inr hline =>
    obtain ⟨line, back, hline, rfl⟩ := hline
    refine ⟨line ++ ['\n'], back, ?_, by simp⟩
    have hfree : '\n' ∉ indent ++ (key ++ (blank ++ '=' :: line)) := by
      simp only [List.mem_append, List.mem_cons, not_or] at hfront ⊢
      exact ⟨hfront.1, hfront.2.1, hfront.2.2, by decide, hline⟩
    have hsplit := Text.splitInclusive_append_newline hfree back
    simpa using hsplit

/-- Without an earlier line of this form the range is that of the key, in 32 bits. -/
theorem findKey_own (rest : List Char)
    (hfirst : ∀ line ∈ Text.splitInclusive before, beginsEntry key line = false) :
    findKey (before ++ (indent ++ (key ++ (blank ++ '=' :: rest)))) key 0
        (Text.splitInclusive (before ++ (indent ++ (key ++ (blank ++ '=' :: rest))))) =
      ⟨⟨min (before.count '\n') u32Max, min (utf16Length indent) u32Max⟩,
        ⟨min (before.count '\n') u32Max, min (utf16Length (indent ++ key)) u32Max⟩⟩ := by
  obtain ⟨value, back, hlines, hrest⟩ := splitInclusive_own h rest
  have hfree := newline_notMem_key h
  rw [← List.append_assoc, List.mem_append, not_or] at hfree
  have hindent : '\n' ∉ indent := fun hmem => hfree.1 (List.mem_append_left key hmem)
  obtain ⟨_, _, _, hspan⟩ := @spanRange_line before _ back _ (beginsEntry_own h value)
  rw [takeWhile_own h] at hspan
  rw [Text.splitInclusive_append h.complete, hlines,
    findKey_append hfirst (beginsEntry_own h value), Text.flatten_splitInclusive, Nat.zero_add,
    hrest]
  have hsource : before ++ (indent ++ (key ++ (blank ++ '=' :: (value ++ back)))) =
      before ++ ((indent ++ (key ++ (blank ++ '=' :: value))) ++ back) := by simp
  have hstart := positionAt_append (before ++ indent) (key ++ (blank ++ '=' :: (value ++ back)))
  have hstop := positionAt_append (before ++ indent ++ key) (blank ++ '=' :: (value ++ back))
  rw [exactPosition, lastLine_append_of_free hindent, h.complete, List.count_append,
    List.count_eq_zero_of_not_mem hindent, List.append_assoc, hsource] at hstart
  rw [exactPosition, List.append_assoc before, lastLine_append_of_free hfree.1, h.complete,
    List.count_append, List.count_eq_zero_of_not_mem hfree.1, List.append_assoc,
    List.append_assoc indent, hsource] at hstop
  rw [hsource, hspan, hstart, List.append_assoc before, hstop]
  rfl

/-- An earlier line of this form has a smaller number. -/
theorem line_lt_of_beginsEntry (tail : List Char)
    {line : List Char} (hmem : line ∈ Text.splitInclusive before)
    (hline : beginsEntry key line = true) :
    (findKey (before ++ tail) key 0 (Text.splitInclusive (before ++ tail))).start.line <
      before.count '\n' := by
  obtain ⟨first, hfind⟩ := Option.isSome_iff_exists.mp
    (List.find?_isSome.mpr ⟨line, hmem, hline⟩)
  obtain ⟨hfirst, front, others, hlines, hothers⟩ := List.find?_eq_some_iff_append.mp hfind
  have hbefore : front.flatten ++ (first ++ others.flatten) = before := by
    rw [← Text.flatten_splitInclusive before, hlines]
    simp
  obtain ⟨rest, hsplit, hne, hspan⟩ :=
    @spanRange_line front.flatten _ (others.flatten ++ tail) _ hfirst
  rw [Text.splitInclusive_append h.complete, hlines, List.append_assoc, List.cons_append,
    findKey_append (fun l hl => by simpa using hothers l hl) hfirst, Nat.zero_add]
  have hsource : before ++ tail = front.flatten ++ (first ++ (others.flatten ++ tail)) := by
    rw [← hbefore]
    simp
  rw [hsource, hspan]
  generalize hblank : first.takeWhile Text.isWhitespace = blank' at *
  have htext : front.flatten ++ (first ++ (others.flatten ++ tail)) =
      (front.flatten ++ blank') ++ (key ++ rest ++ others.flatten ++ tail) := by
    rw [hsplit]
    simp
  rw [htext, positionAt_append]
  -- the key and what follows it hold the end of the last line
  have hback : '\n' ∈ key ++ rest ++ others.flatten := by
    by_contra hfree
    have hlast := @lastLine_append_of_free (front.flatten ++ blank') _ hfree
    have hwhole : (front.flatten ++ blank') ++ (key ++ rest ++ others.flatten) = before := by
      rw [← hbefore, hsplit]
      simp
    rw [hwhole, h.complete] at hlast
    have hnil := (List.append_eq_nil_iff.mp hlast.symm).2
    exact hne (List.append_eq_nil_iff.mp hnil).1
  have hcount : (front.flatten ++ blank').count '\n' +
      (key ++ rest ++ others.flatten).count '\n' = before.count '\n' := by
    rw [← List.count_append, ← hbefore, hsplit]
    simp
  have hpos := List.count_pos_iff.mpr hback
  show min ((front.flatten ++ blank').count '\n') u32Max < _
  omega

end

end

/-- A diagnostic points at the key of its field, written on a line of its own, exactly when no
    earlier line begins with the key and an equals sign, and the position fits in 32 bits. -/
theorem findFieldRange_eq_iff {urlParse : UrlParser} {config : FerryConfig}
    {issue : ValidationIssue} {before indent blank : List Char} (rest : List Char)
    (hissue : issue ∈ config.validate urlParse) (hcomplete : Text.lastLine before = [])
    (hindent : ∀ c ∈ indent, Text.isWhitespace c = true ∧ c ≠ '\n')
    (hblank : ∀ c ∈ blank, Text.isWhitespace c = true ∧ c ≠ '\n') :
    findFieldRange
          (before ++ (indent ++ (fieldKey issue.field ++ (blank ++ '=' :: rest)))) issue.field =
        keyRange (before ++ indent) (fieldKey issue.field) ↔
      (∀ line ∈ Text.splitInclusive before, beginsEntry (fieldKey issue.field) line = false) ∧
        before.count '\n' ≤ u32Max ∧
        utf16Length (indent ++ fieldKey issue.field) ≤ u32Max := by
  have hwritten : WrittenAt (fieldKey issue.field) before indent blank :=
    ⟨isPlainKey_of_validate hissue, hcomplete, hindent, hblank⟩
  have hfree := newline_notMem_key hwritten
  rw [← List.append_assoc, List.mem_append, not_or] at hfree
  have hnone : '\n' ∉ indent := fun hmem => hfree.1 (List.mem_append_left _ hmem)
  have hrange : keyRange (before ++ indent) (fieldKey issue.field) =
      ⟨⟨before.count '\n', utf16Length indent⟩,
        ⟨before.count '\n', utf16Length (indent ++ fieldKey issue.field)⟩⟩ := by
    rw [keyRange, exactPosition, exactPosition, List.append_assoc, lastLine_append_of_free hnone,
      lastLine_append_of_free hfree.1, hcomplete, List.count_append, List.count_append,
      List.count_eq_zero_of_not_mem hnone, List.count_eq_zero_of_not_mem hfree.1]
    rfl
  rw [findFieldRange, hrange]
  by_cases hfirst : ∀ line ∈ Text.splitInclusive before,
      beginsEntry (fieldKey issue.field) line = false
  · have hsize := utf16Length_append indent (fieldKey issue.field)
    rw [findKey_own hwritten rest hfirst]
    simp only [SourceRange.mk.injEq, Position.mk.injEq]
    constructor
    · intro h
      exact ⟨hfirst, by omega, by omega⟩
    · intro h
      obtain ⟨_, hlines, hcolumns⟩ := h
      exact ⟨⟨by omega, by omega⟩, by omega, by omega⟩
  · constructor
    · intro h
      -- the range of an earlier line has another number
      simp only [not_forall, Bool.not_eq_false] at hfirst
      obtain ⟨line, hmem, hline⟩ := hfirst
      have hless := line_lt_of_beginsEntry hwritten
        (indent ++ (fieldKey issue.field ++ (blank ++ '=' :: rest))) hmem hline
      rw [h] at hless
      exact absurd hless (Nat.lt_irrefl _)
    · intro h
      exact absurd h.1 hfirst

namespace Sample

def header : List Char :=
  "schema_version = 1\n".toList ++ "[app]\n".toList ++ "name = \"A\"\n".toList ++
    "identifier = \"com.example.app\"\n".toList ++ "version = \"0.1.0\"\n".toList ++
    "display_version = \"1\"\n".toList ++ "[permissions.camera]".toList

def cameraPurpose : List Char := "purpose = \"Scan\"".toList

def photos : List Char := "[permissions.photos]\n".toList ++ "enabled = true".toList

/-- The lines of a source before the purpose of the second permission. -/
def before : List Char := (header ++ ['\n']) ++ (cameraPurpose ++ '\n' :: (photos ++ ['\n']))

/-- What the source says. -/
def config : FerryConfig where
  schemaVersion := 1
  app := { name := "A", identifier := "com.example.app", displayVersion := "1" }
  permissions := {
    camera := { purpose := some "Scan" }
    photos := { enabled := true, purpose := some "" }
  }

def issue : ValidationIssue where
  field := "permissions.photos" ++ ".purpose"
  message := "an enabled permission requires a non-empty purpose string"
  help := "Explain why the app needs photo-library access."

def noUrls : UrlParser := fun _ => .error "relative URL without a base"

theorem issue_reported : issue ∈ config.validate noUrls := by
  have hphotos : validatePermission "permissions.photos" config.permissions.photos
      "Explain why the app needs photo-library access." = [issue] := rfl
  have hmem : issue ∈ permissionIssues config.permissions := by
    simp [permissionIssues, hphotos]
  exact List.mem_append_right _ hmem

theorem before_complete : Text.lastLine before = [] := by
  have hbefore : before = (header ++ '\n' :: (cameraPurpose ++ '\n' :: photos)) ++ ['\n'] := by
    simp [before]
  rw [hbefore]
  exact lastLine_concat_newline _

theorem blank_space : ∀ c ∈ [' '], Text.isWhitespace c = true ∧ c ≠ '\n' := by
  intro c hc
  rw [List.mem_singleton.mp hc]
  decide

theorem fieldKey_issue : fieldKey issue.field = "purpose".toList := by decide

/-- The diagnostic about the second purpose does not point at it: the first one comes before. -/
theorem findFieldRange_photos :
    issue ∈ config.validate noUrls ∧
      findFieldRange (before ++ ([] ++ ("purpose".toList ++ ([' '] ++ '=' :: " \"\"\n".toList))))
          issue.field ≠ keyRange (before ++ []) "purpose".toList := by
  have hplain : isPlainKey "purpose".toList = true := by decide
  have hwritten : WrittenAt "purpose".toList before [] [' '] :=
    ⟨hplain, before_complete, by simp, blank_space⟩
  have hfree : '\n' ∉ cameraPurpose := by decide
  have hmem : cameraPurpose ++ ['\n'] ∈ Text.splitInclusive before := by
    rw [before, Text.splitInclusive_append (lastLine_concat_newline header),
      Text.splitInclusive_append_newline hfree]
    simp
  have hline : beginsEntry "purpose".toList (cameraPurpose ++ ['\n']) = true := by decide
  have hless := line_lt_of_beginsEntry hwritten
    ([] ++ ("purpose".toList ++ ([' '] ++ '=' :: " \"\"\n".toList))) hmem hline
  refine ⟨issue_reported, ?_⟩
  intro h
  rw [← fieldKey_issue, ← findFieldRange, fieldKey_issue, h] at hless
  exact absurd hless (by simp [keyRange, exactPosition])

/-- The condition for a purpose that is empty. -/
theorem findFieldRange_photos_iff :
    findFieldRange
          (before ++ ([] ++ (fieldKey issue.field ++ ([' '] ++ '=' :: " \"\"\n".toList))))
          issue.field = keyRange (before ++ []) (fieldKey issue.field) ↔
      (∀ line ∈ Text.splitInclusive before, beginsEntry (fieldKey issue.field) line = false) ∧
        before.count '\n' ≤ u32Max ∧ utf16Length ([] ++ fieldKey issue.field) ≤ u32Max :=
  findFieldRange_eq_iff _ issue_reported before_complete (by simp) blank_space

end Sample

end RustFerry.Ide
