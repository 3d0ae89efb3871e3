import RustFerry.Native.GitEndpoint
import RustFerry.Spec.RevisionFiles
import RustFerry.Spec.WorkflowDispatch

/-!
# Canonical Git endpoints

The canonical URL of an endpoint is written with the name that is left after one `.git` was taken
away. When the name still ends in `.git`, in any case of its letters, the next reader of the URL
takes another one away: the stored endpoint is refused, and its URL names another repository.
-/

namespace RustFerry.Github

open Except Serde

section

variable {c : Char} {text front back : List Char} {endpoint : GithubGitEndpoint}
  {parts : EndpointParts}

/-! ## Characters -/

/-- What canonical URLs are made of. -/
def isUrlCharacter (c : Char) : Bool := isNameCharacter c || c == ':' || c == '/' || c == '@'

theorem toNat_of_isUrlCharacter (h : isUrlCharacter c = true) :
    (45 ≤ c.toNat ∧ c.toNat ≤ 58) ∨ (64 ≤ c.toNat ∧ c.toNat ≤ 90) ∨ c.toNat = 95 ∨
      (97 ≤ c.toNat ∧ c.toNat ≤ 122) := by
  have hval : c.toNat = c.val.toNat := rfl
  simp only [isUrlCharacter, isNameCharacter, Bool.or_eq_true, isAlphanum_iff, beq_iff_eq,
    UInt32.le_iff_toNat_le] at h
  have h65 : (65 : UInt32).toNat = 65 := rfl
  have h90 : (90 : UInt32).toNat = 90 := rfl
  have h97 : (97 : UInt32).toNat = 97 := rfl
  have h122 : (122 : UInt32).toNat = 122 := rfl
  have h48 : (48 : UInt32).toNat = 48 := rfl
  have h57 : (57 : UInt32).toNat = 57 := rfl
  rcases h with (((((h | h) | h) | h) | h) | h) | h
  · omega
  all_goals
    rw [h]
    decide

theorem isUnsafe_of_isUrlCharacter (h : isUrlCharacter c = true) :
    isUnsafe c = false := by
  have hrange := toNat_of_isUrlCharacter h
  have hne : ∀ d : Char, d.toNat < 45 ∨ d.toNat = 63 ∨ d.toNat = 92 → (c == d) = false := by
    intro d hd
    rw [beq_eq_false_iff_ne]
    intro heq
    rw [heq] at hrange
    omega
  have hmark := hne '?' (by decide)
  have hhash := hne '#' (by decide)
  have hpercent := hne '%' (by decide)
  have hback := hne '\\' (by decide)
  simp only [isUnsafe, hmark, hhash, hpercent, hback, Bool.or_false, Bool.or_eq_false_iff,
    decide_eq_false_iff_not, beq_eq_false_iff_ne]
  omega

theorem isWhitespace_of_isUrlCharacter (h : isUrlCharacter c = true) :
    Text.isWhitespace c = false := by
  have hrange := toNat_of_isUrlCharacter h
  simp only [Text.isWhitespace, Bool.or_eq_false_iff, Bool.and_eq_false_iff,
    decide_eq_false_iff_not, beq_eq_false_iff_ne]
  omega

theorem toLower_toLower (c : Char) : c.toLower.toLower = c.toLower := by
  delta Char.toLower
  split
  · rename_i hupper
    split
    · -- a small letter is no capital
      rename_i hagain
      simp only [UInt32.le_iff_toNat_le, UInt32.toNat_add, seval] at hupper hagain
      omega
    · rfl
  · rfl

/-! ## Texts -/

theorem append_of_splitOnce {separator : Char}
    (h : JobStore.splitOnce separator text = some (front, back)) :
    text = front ++ separator :: back ∧ separator ∉ front := by
  have hparts : text.span (· != separator) = (front, separator :: back) := by
    rw [List.span_eq_takeWhile_dropWhile]
    unfold JobStore.splitOnce at h
    rw [List.span_eq_takeWhile_dropWhile] at h
    cases hdrop : text.dropWhile (· != separator) with
    | nil => simp [hdrop] at h
    | cons c rest =>
      have hc : (c != separator) = false := by
        have hhead := List.head?_dropWhile_not (· != separator) text
        rw [hdrop] at hhead
        simpa using hhead
      simp only [hdrop, Option.some.injEq, Prod.mk.injEq] at h
      obtain ⟨hfront, hback⟩ := h
      have hseparator : c = separator := by simpa using hc
      rw [hfront, hback, hseparator]
  rw [List.span_eq_takeWhile_dropWhile, Prod.mk.injEq] at hparts
  obtain ⟨hfront, hback⟩ := hparts
  constructor
  · rw [← hfront, ← hback, List.takeWhile_append_dropWhile]
  · intro hmem
    rw [← hfront] at hmem
    have hfree := List.mem_takeWhile_imp hmem
    simp at hfree

/-- A suffix that lacks a character of the second part is a suffix of the second part. -/
theorem suffix_append_iff {back front text : List Char} {c : Char} (hc : c ∈ text)
    (hback : c ∉ back) : back <:+ front ++ text ↔ back <:+ text := by
  constructor
  · intro h
    cases List.suffix_or_suffix_of_suffix h (List.suffix_append front text) with
    | inl hshort => exact hshort
    | inr hlong => exact absurd (hlong.subset hc) hback
  · intro h
    exact h.trans (List.suffix_append front text)

/-- `text.strip_suffix(back).unwrap_or(text)`. -/
def withoutBack (back text : List Char) : List Char := (JobStore.stripBack back text).getD text

/-- A text without the suffix stays. -/
theorem withoutBack_of_not (h : ¬ back <:+ text) :
    withoutBack back text = text := by
  rw [withoutBack, JobStore.stripBack, if_neg h]
  rfl

theorem isPrefix_withoutBack (back text : List Char) : withoutBack back text <+: text := by
  by_cases h : back <:+ text
  · obtain ⟨stem, rfl⟩ := h
    rw [withoutBack, JobStore.stripBack_append]
    exact List.prefix_append stem back
  · rw [withoutBack_of_not h]

/-- A suffix of the last part. -/
theorem withoutBack_append_iff (h : back <:+ front ++ text ↔ back <:+ text) :
    withoutBack back (front ++ text) = front ++ withoutBack back text := by
  by_cases hback : back <:+ text
  · obtain ⟨stem, rfl⟩ := hback
    rw [withoutBack, withoutBack, JobStore.stripBack_append, ← List.append_assoc, JobStore.stripBack_append]
    rfl
  · rw [withoutBack_of_not hback, withoutBack_of_not (mt h.mp hback)]

/-! ## Canonical URLs -/

/-- The text before the owner in a canonical URL. -/
def GithubGitTransport.host : GithubGitTransport → String
  | .https => "https://github.com/"
  | .ssh => "git@github.com:"

theorem canonical_eq (transport : GithubGitTransport) (owner name : String) :
    GithubGitEndpoint.canonical transport owner name = transport.host ++ owner ++ "/" ++ name := by
  cases transport with
  | https => rfl
  | ssh => rfl

theorem toList_canonical (transport : GithubGitTransport) (owner name : String) :
    (GithubGitEndpoint.canonical transport owner name).toList =
      transport.host.toList ++ (owner.toList ++ '/' :: name.toList) := by
  have hslash : "/".toList = ['/'] := by decide
  rw [canonical_eq, String.toList_append, String.toList_append, String.toList_append, hslash,
    List.append_assoc, List.append_assoc, List.singleton_append]

theorem utf8ByteSize_canonical (transport : GithubGitTransport) (owner name : String) :
    (GithubGitEndpoint.canonical transport owner name).utf8ByteSize ≤
      20 + owner.utf8ByteSize + name.utf8ByteSize := by
  have hslash : "/".utf8ByteSize = 1 := by decide
  have hhost : transport.host.utf8ByteSize ≤ 19 := by
    cases transport with
    | https => decide
    | ssh => decide
  rw [canonical_eq, String.utf8ByteSize_append, String.utf8ByteSize_append,
    String.utf8ByteSize_append, hslash]
  omega

/-- The transport is read back. -/
theorem stripTransport_canonical (transport : GithubGitTransport) (path : List Char) :
    stripTransport (transport.host.toList ++ path) = some (transport, path) := by
  cases transport with
  | https =>
    have hhost : GithubGitTransport.https.host = "https://github.com/" := rfl
    rw [hhost, stripTransport, Text.stripFront_eq_some.mpr rfl]
  | ssh =>
    have hhost : GithubGitTransport.ssh.host = "git@github.com:" := rfl
    have hhttps : "https://github.com/".toList = 'h' :: "ttps://github.com/".toList := by decide
    have hssh : "git@github.com:".toList = 'g' :: "it@github.com:".toList := by decide
    have hother : Text.stripFront "https://github.com/".toList
        ("git@github.com:".toList ++ path) = none := by
      rw [Text.stripFront, hhttps, hssh, List.cons_append, List.isPrefixOf]
      simp
    rw [hhost, stripTransport, hother]
    rw [Text.stripFront_eq_some.mpr rfl]

/-- Characters, sizes and separators of a valid name. -/
structure IsName (maximum : Nat) (value : String) : Prop where
  nonempty : value.toList ≠ []
  size : value.utf8ByteSize ≤ maximum
  characters : ∀ c ∈ value.toList, isNameCharacter c = true

namespace IsName

variable {maximum : Nat} {value : String}

theorem isUrlCharacter (h : IsName maximum value) :
    ∀ c ∈ value.toList, isUrlCharacter c = true := by
  intro c hc
  simp [Github.isUrlCharacter, h.characters c hc]

theorem slash (h : IsName maximum value) : '/' ∉ value.toList := by
  intro hslash
  exact absurd (h.characters '/' hslash) (by decide)

end IsName

theorem Repository.isName_owner (repository : Repository) : IsName 39 repository.owner := by
  have hvalid := repository.validOwner
  simp only [validateOwner, check_bind_eq_ok, validateNonemptyLength_eq_ok,
    validateAsciiAllowlist_eq_ok] at hvalid
  obtain ⟨⟨hne, hsize⟩, hchars, -⟩ := hvalid
  refine ⟨by simpa using hne, hsize, ?_⟩
  intro c hc
  have hallowed := hchars c hc
  simp only [Bool.or_eq_true] at hallowed
  cases hallowed with
  | inl halnum => simp [isNameCharacter, halnum]
  | inr hdash => simp [isNameCharacter, hdash]

theorem Repository.isName_name (repository : Repository) : IsName 100 repository.name := by
  have hvalid := repository.validName
  simp only [validateRepositoryName, check_bind_eq_ok, validateNonemptyLength_eq_ok,
    validateAsciiAllowlist_eq_ok] at hvalid
  obtain ⟨⟨hne, hsize⟩, hchars, -⟩ := hvalid
  exact ⟨by simpa using hne, hsize, hchars⟩

/-- Only the name can end in `.git`. -/
theorem git_suffix_iff (front name : List Char) :
    ".git".toList <:+ front ++ '/' :: name ↔ ".git".toList <:+ name := by
  have hslash : '/' ∉ ".git".toList := by decide
  rw [suffix_append_iff List.mem_cons_self hslash, List.suffix_cons_iff]
  have hne : ".git".toList ≠ '/' :: name := by
    intro heq
    exact hslash (heq ▸ List.mem_cons_self)
  constructor
  · intro h
    exact h.resolve_left hne
  · exact Or.inr

theorem not_slash_suffix {name : List Char} (hne : name ≠ []) (hslash : '/' ∉ name) :
    ¬ ['/'] <:+ front ++ name := by
  intro h
  obtain ⟨stem, hstem⟩ := h
  obtain ⟨init, c, rfl⟩ := (List.eq_nil_or_concat' name).resolve_left hne
  rw [← List.append_assoc] at hstem
  have hlast := (List.append_inj' hstem rfl).2
  exact hslash (List.mem_append_right init (hlast ▸ List.mem_cons_self))

theorem withoutBack_git (front name : List Char) :
    withoutBack ".git".toList (front ++ '/' :: name) =
      front ++ '/' :: withoutBack ".git".toList name := by
  have hsuffix := git_suffix_iff front name
  have hsplit : front ++ '/' :: name = (front ++ ['/']) ++ name := by simp
  rw [hsplit] at hsuffix ⊢
  rw [withoutBack_append_iff hsuffix, List.append_assoc, List.singleton_append]

/-- One trailing `.git` is taken away from a canonical URL. -/
theorem parseParts_canonical (transport : GithubGitTransport) (repository : Repository) :
    parseParts (GithubGitEndpoint.canonical transport repository.owner repository.name) =
      (rejectIf (withoutBack ".git".toList repository.name.toList).isEmpty .invalidRepository >>=
        fun _ => .ok ⟨transport, repository.owner.toList,
          withoutBack ".git".toList repository.name.toList⟩) := by
  have howner := repository.isName_owner
  have hname := repository.isName_name
  generalize hvalue :
    GithubGitEndpoint.canonical transport repository.owner repository.name = value
  have htext := toList_canonical transport repository.owner repository.name
  have hsize := utf8ByteSize_canonical transport repository.owner repository.name
  rw [hvalue] at htext hsize
  have hurl : ∀ c ∈ value.toList, isUrlCharacter c = true := by
    intro c hc
    rw [htext, List.mem_append, List.mem_append, List.mem_cons] at hc
    rcases hc with hc | hc | hc | hc
    · have hhost : transport.host.toList.all isUrlCharacter = true := by
        cases transport with
        | https => decide
        | ssh => decide
      exact List.all_eq_true.mp hhost c hc
    · exact howner.isUrlCharacter c hc
    · rw [hc]
      decide
    · exact hname.isUrlCharacter c hc
  -- each check of the parser, in its order
  have hne : (value == "") = false := by
    rw [beq_eq_false_iff_ne]
    intro hempty
    rw [hempty] at htext
    simp at htext
  have hshort : decide (value.utf8ByteSize > maxEndpointBytes) = false := by
    have ho := howner.size
    have hn := hname.size
    rw [decide_eq_false_iff_not, maxEndpointBytes]
    omega
  have hascii : value.toList.all (·.toNat < 128) = true := by
    rw [List.all_eq_true]
    intro c hc
    have hrange := toNat_of_isUrlCharacter (hurl c hc)
    rw [decide_eq_true_eq]
    omega
  have hunsafe : value.toList.any isUnsafe = false := by
    rw [List.any_eq_false]
    intro c hc
    rw [isUnsafe_of_isUrlCharacter (hurl c hc)]
    exact Bool.false_ne_true
  have htrim : Text.trim value.toList = value.toList := by
    have hblank : ∀ c ∈ ([] : List Char), Text.isWhitespace c = true := by simp
    have htrimmed := Text.trim_append hblank hblank
      (fun c hc => isWhitespace_of_isUrlCharacter (hurl c (List.mem_of_mem_head? hc)))
      (fun c hc => isWhitespace_of_isUrlCharacter (hurl c (List.mem_of_mem_getLast? hc)))
    simpa using htrimmed
  have hend : ¬ ['/'] <:+ repository.owner.toList ++ '/' :: repository.name.toList := by
    have hsplit : repository.owner.toList ++ '/' :: repository.name.toList =
        (repository.owner.toList ++ ['/']) ++ repository.name.toList := by simp
    rw [hsplit]
    exact not_slash_suffix hname.nonempty hname.slash
  -- no trailing slash, and the suffix can only be the name's
  have hkept := withoutBack_of_not hend
  have hdrop := withoutBack_git repository.owner.toList repository.name.toList
  have hsplit := JobStore.splitOnce_append howner.slash (withoutBack ".git".toList repository.name.toList)
  have hfree : (withoutBack ".git".toList repository.name.toList).contains '/' = false := by
    rw [Bool.eq_false_iff, Ne, List.contains_iff_mem]
    intro hmem
    exact hname.slash ((isPrefix_withoutBack _ _).subset hmem)
  have howned : repository.owner.toList.isEmpty = false := by
    rw [Bool.eq_false_iff, Ne, List.isEmpty_iff]
    exact howner.nonempty
  have hnoslash : ['/'].isSuffixOf (repository.owner.toList ++ '/' :: repository.name.toList) =
      false := by
    rw [Bool.eq_false_iff, Ne, List.isSuffixOf_iff_suffix]
    exact hend
  have hstrip : stripTransport value.toList =
      some (transport, repository.owner.toList ++ '/' :: repository.name.toList) := by
    rw [htext, stripTransport_canonical]
  simp only [withoutBack] at hkept hdrop hsplit hfree ⊢
  simp only [parseParts, hne, hshort, hascii, hunsafe, htrim, hstrip, hkept, hnoslash, hdrop, hsplit,
    hfree, howned, ofOption, rejectIf, bne_self_eq_false, Bool.or_false, Bool.false_or,
    Bool.not_true, if_false, Bool.false_eq_true, bind, Except.bind, pure, Except.pure]

/-! ## Reading a canonical URL again -/

/-- A repository keeps owner and name. -/
theorem Repository.new_eq_ok {owner name : String} {repository : Repository} :
    Repository.new owner name = .ok repository ↔
      repository.owner = owner ∧ repository.name = name := by
  constructor
  · intro h
    unfold Repository.new at h
    split at h
    · cases h
    · cases h
    · cases h
      exact ⟨rfl, rfl⟩
  · intro h
    obtain ⟨rfl, rfl⟩ := h
    have howner := repository.validOwner
    have hname := repository.validName
    unfold Repository.new
    split
    · rename_i herror
      rw [howner] at herror
      cases herror
    · rename_i herror
      rw [hname] at herror
      cases herror
    · rfl

/-- What a URL is read as. -/
structure Reads (parts : EndpointParts) (endpoint : GithubGitEndpoint) : Prop where
  transport : parts.transport = endpoint.transport
  owner : toAsciiLower parts.owner = endpoint.repository.owner
  name : toAsciiLower parts.name = endpoint.repository.name
  url : endpoint.canonicalUrl = GithubGitEndpoint.canonical endpoint.transport
    endpoint.repository.owner endpoint.repository.name

/-- An endpoint is read from its parts. -/
theorem parse_eq_ok {value : String} :
    GithubGitEndpoint.parse value = .ok endpoint ↔
      ∃ parts, parseParts value = .ok parts ∧ Reads parts endpoint := by
  simp only [GithubGitEndpoint.parse, bind_eq_ok, mapError_eq_ok, Repository.new_eq_ok]
  constructor
  · intro h
    obtain ⟨parts, hparts, repository, ⟨howner, hname⟩, hendpoint⟩ := h
    cases hendpoint
    exact ⟨parts, hparts, rfl, howner.symm, hname.symm, by rw [howner, hname]⟩
  · intro h
    obtain ⟨parts, hparts, hreads⟩ := h
    refine ⟨parts, hparts, endpoint.repository, ⟨hreads.owner.symm, hreads.name.symm⟩, ?_⟩
    rw [hreads.transport, hreads.owner, hreads.name, ← hreads.url]
    rfl

theorem toAsciiLower_toList (text : List Char) :
    toAsciiLower (toAsciiLower text).toList = toAsciiLower text := by
  simp only [toAsciiLower, String.toList_ofList, List.map_map]
  congr 1
  apply List.map_congr_left
  intro c _
  exact toLower_toLower c

/-- Reading the canonical URL of an endpoint gives the endpoint again, unless its name ends in
    `.git`. -/
theorem parse_canonical_iff (hreads : Reads parts endpoint) :
    GithubGitEndpoint.parse endpoint.canonicalUrl = .ok endpoint ↔
      ¬ ".git".toList <:+ endpoint.repository.name.toList := by
  have hread := parseParts_canonical endpoint.transport endpoint.repository
  rw [← hreads.url] at hread
  constructor
  · intro h hgit
    obtain ⟨again, hagain, hsame⟩ := parse_eq_ok.mp h
    rw [hread, check_bind_eq_ok] at hagain
    have hname : again.name = withoutBack ".git".toList endpoint.repository.name.toList := by
      rw [← Except.ok.inj hagain.2]
    -- the name that is read is shorter by the suffix
    have hlength := congrArg (fun name : String => name.toList.length) hsame.name
    obtain ⟨stem, hstem⟩ := hgit
    rw [hname, ← hstem, withoutBack, JobStore.stripBack_append] at hlength
    simp [toAsciiLower] at hlength
  · intro hgit
    rw [withoutBack_of_not hgit] at hread
    have hne : endpoint.repository.name.toList.isEmpty = false := by
      rw [Bool.eq_false_iff, Ne, List.isEmpty_iff]
      exact endpoint.repository.isName_name.nonempty
    rw [hne] at hread
    refine parse_eq_ok.mpr ⟨_, hread, rfl, ?_, ?_, hreads.url⟩
    · rw [← hreads.owner, toAsciiLower_toList]
    · rw [← hreads.name, toAsciiLower_toList]

theorem deserialize_serialize_eq :
    deserialize (serialize endpoint) = some endpoint ↔
      GithubGitEndpoint.parse endpoint.canonicalUrl = .ok endpoint := by
  simp only [serialize, deserialize]
  cases hparse : GithubGitEndpoint.parse endpoint.canonicalUrl with
  | error e => simp
  | ok again =>
    simp only [Except.ok.injEq]
    constructor
    · intro h
      by_cases hsame : again.canonicalUrl = endpoint.canonicalUrl
      · rw [if_pos hsame] at h
        exact Option.some.inj h
      · rw [if_neg hsame] at h
        cases h
    · intro h
      rw [h, if_pos rfl]

/-! ## The condition on the text -/

/-- What is left of a text without one trailing slash and then one `.git`. -/
def stem (text : List Char) : List Char :=
  withoutBack ".git".toList (withoutBack ['/'] text)

/-- The text names a repository whose name still ends in `.git`, in any case. -/
def LeavesGit (value : String) : Prop := ".git".toList <:+ (stem value.toList).map Char.toLower

/-- The text around owner and name. -/
theorem parseParts_eq_ok {value : String} (h : parseParts value = .ok parts) :
    ∃ front path, value.toList = front ++ path ∧
      withoutBack ".git".toList (withoutBack ['/'] path) = parts.owner ++ '/' :: parts.name := by
  simp only [parseParts, bind_eq_ok, rejectIf_eq_ok, ofOption_eq_ok] at h
  obtain ⟨_, -, ⟨transport, path⟩, hstrip, _, -, ⟨owner, name⟩, hsplit, _, -, hparts⟩ := h
  cases hparts
  have hpath : ∃ front, value.toList = front ++ path := by
    unfold stripTransport at hstrip
    split at hstrip
    · rename_i rest hfront
      obtain ⟨-, rfl⟩ := Prod.mk.inj (Option.some.inj hstrip)
      exact ⟨_, Text.stripFront_eq_some.mp hfront⟩
    · split at hstrip
      · rename_i rest hfront
        obtain ⟨-, rfl⟩ := Prod.mk.inj (Option.some.inj hstrip)
        exact ⟨_, Text.stripFront_eq_some.mp hfront⟩
      · split at hstrip
        · rename_i rest hfront
          obtain ⟨-, rfl⟩ := Prod.mk.inj (Option.some.inj hstrip)
          exact ⟨_, Text.stripFront_eq_some.mp hfront⟩
        · cases hstrip
  obtain ⟨front, hfront⟩ := hpath
  exact ⟨front, path, hfront, (append_of_splitOnce hsplit).1⟩

/-- The name still ends in `.git`. -/
theorem leavesGit_iff {value : String} (h : parseParts value = .ok parts) :
    LeavesGit value ↔ ".git".toList <:+ parts.name.map Char.toLower := by
  obtain ⟨front, path, hvalue, hstem⟩ := parseParts_eq_ok h
  have hslash : '/' ∈ withoutBack ['/'] path := by
    have hmem : '/' ∈ withoutBack ".git".toList (withoutBack ['/'] path) := by
      rw [hstem]
      simp
    exact (isPrefix_withoutBack _ _).subset hmem
  have hslashes : ['/'] <:+ front ++ path ↔ ['/'] <:+ path := by
    constructor
    · intro hsuffix
      cases List.suffix_or_suffix_of_suffix hsuffix (List.suffix_append front path) with
      | inl hpath => exact hpath
      | inr hpath =>
        -- the path is not empty, so that it is the slash
        rw [List.suffix_cons_iff, List.suffix_nil] at hpath
        cases hpath with
        | inl hsame => rw [hsame]
        | inr hempty =>
          have hmem := (isPrefix_withoutBack _ _).subset hslash
          rw [hempty] at hmem
          exact absurd hmem List.not_mem_nil
    · intro hsuffix
      exact hsuffix.trans (List.suffix_append front path)
  have hgit := @suffix_append_iff ".git".toList front _ '/' hslash (by decide)
  have hlower : '/'.toLower = '/' := by decide
  rw [LeavesGit, stem, hvalue, withoutBack_append_iff hslashes, withoutBack_append_iff hgit, hstem,
    List.map_append, List.map_append, List.map_cons, hlower, ← List.append_assoc, git_suffix_iff]

/-! ## Endpoints -/

theorem canonical_inj {left right : GithubGitEndpoint} :
    GithubGitEndpoint.canonical left.transport left.repository.owner left.repository.name =
        GithubGitEndpoint.canonical right.transport right.repository.owner right.repository.name ↔
      left.transport = right.transport ∧ left.repository.owner = right.repository.owner ∧
        left.repository.name = right.repository.name := by
  constructor
  · intro h
    have htext := congrArg String.toList h
    rw [toList_canonical, toList_canonical] at htext
    have hstrip := congrArg stripTransport htext
    rw [stripTransport_canonical, stripTransport_canonical] at hstrip
    obtain ⟨htransport, hpath⟩ := Prod.mk.inj (Option.some.inj hstrip)
    have hsplit := congrArg (JobStore.splitOnce '/') hpath
    rw [JobStore.splitOnce_append left.repository.isName_owner.slash,
      JobStore.splitOnce_append right.repository.isName_owner.slash] at hsplit
    obtain ⟨howner, hname⟩ := Prod.mk.inj (Option.some.inj hsplit)
    exact ⟨htransport, String.toList_inj.mp howner, String.toList_inj.mp hname⟩
  · intro h
    obtain ⟨htransport, howner, hname⟩ := h
    rw [htransport, howner, hname]

theorem toAsciiLower_eq_iff {left right : List Char} :
    toAsciiLower left = toAsciiLower right ↔ Text.eqIgnoreAsciiCase left right = true := by
  rw [toAsciiLower, toAsciiLower, String.ofList_inj, Text.eqIgnoreAsciiCase, beq_iff_eq]

/-- The stored form of an accepted endpoint is read back exactly when the text leaves no `.git`, and
    canonical URLs are equal exactly for the same transport, owner and name. -/
theorem endpoint_survives_iff {value : String} {endpoint : GithubGitEndpoint}
    (h : GithubGitEndpoint.parse value = .ok endpoint) :
    ((GithubGitEndpoint.parse endpoint.canonicalUrl = .ok endpoint ∧
        deserialize (serialize endpoint) = some endpoint) ↔ ¬ LeavesGit value) ∧
      ∀ value' endpoint' parts parts', GithubGitEndpoint.parse value' = .ok endpoint' →
        parseParts value = .ok parts → parseParts value' = .ok parts' →
          (endpoint.canonicalUrl = endpoint'.canonicalUrl ↔
            parts.transport = parts'.transport ∧
              Text.eqIgnoreAsciiCase parts.owner parts'.owner = true ∧
              Text.eqIgnoreAsciiCase parts.name parts'.name = true) := by
  obtain ⟨written, hwritten, hreads⟩ := parse_eq_ok.mp h
  constructor
  · have hname : endpoint.repository.name.toList = written.name.map Char.toLower := by
      rw [← hreads.name, toAsciiLower, String.toList_ofList]
    rw [deserialize_serialize_eq, and_self, parse_canonical_iff hreads, leavesGit_iff hwritten,
      hname]
  · intro value' endpoint' parts parts' h' hparts hparts'
    obtain ⟨written', hwritten', hreads'⟩ := parse_eq_ok.mp h'
    obtain rfl := Except.ok.inj (hwritten.symm.trans hparts)
    obtain rfl := Except.ok.inj (hwritten'.symm.trans hparts')
    rw [hreads.url, hreads'.url, canonical_inj, ← hreads.transport, ← hreads'.transport,
      ← hreads.owner, ← hreads'.owner, ← hreads.name, ← hreads'.name, toAsciiLower_eq_iff,
      toAsciiLower_eq_iff]

end

namespace Sample

theorem validOwner : validateOwner "owner" = .ok () := by decide

theorem validName : validateRepositoryName "repo.git" = .ok () := by decide

/-- What `https://github.com/Owner/Repo.GIT` is read as. -/
def suffixedEndpoint : GithubGitEndpoint where
  repository := ⟨"owner", "repo.git", validOwner, validName⟩
  transport := .https
  canonicalUrl := "https://github.com/owner/repo.git"

theorem parse_suffixed :
    GithubGitEndpoint.parse "https://github.com/Owner/Repo.GIT" = .ok suffixedEndpoint := by
  decide

/-- The stored endpoint is refused, and its URL is read as another repository. -/
theorem suffixedEndpoint_lost :
    GithubGitEndpoint.parse "https://github.com/Owner/Repo.GIT" = .ok suffixedEndpoint ∧
      GithubGitEndpoint.parse suffixedEndpoint.canonicalUrl ≠ .ok suffixedEndpoint ∧
      deserialize (serialize suffixedEndpoint) ≠ some suffixedEndpoint := by
  have hread : GithubGitEndpoint.parse suffixedEndpoint.canonicalUrl ≠ .ok suffixedEndpoint := by
    decide
  exact ⟨parse_suffixed, hread, mt deserialize_serialize_eq.mp hread⟩

theorem endpoint_survives_suffixed :
    (GithubGitEndpoint.parse suffixedEndpoint.canonicalUrl = .ok suffixedEndpoint ∧
        deserialize (serialize suffixedEndpoint) = some suffixedEndpoint) ↔
      ¬ LeavesGit "https://github.com/Owner/Repo.GIT" :=
  (endpoint_survives_iff parse_suffixed).1

end Sample

end RustFerry.Github
