import RustFerry.Native.RunLookup

/-!
# The run that a lookup finds

What a lookup should say about the pages it reads: it returns a run exactly if the listing is
complete and its matching rows are of one run, and only two different runs are ambiguous. The code
compares whole snapshots, and so meets this exactly if the rows of the one run are equal.
-/

namespace RustFerry.Github

open Except Paging

variable {matching : List RunSnapshot}

/-! ## The law -/

/-- There are rows, and all are of one run. -/
def OneRun (matching : List RunSnapshot) : Prop :=
  matching ≠ [] ∧ ∀ a ∈ matching, ∀ b ∈ matching, a.handle.id = b.handle.id

/-- Two of the rows are of different runs. -/
def TwoRuns (matching : List RunSnapshot) : Prop :=
  ∃ a ∈ matching, ∃ b ∈ matching, a.handle.id ≠ b.handle.id

/-- What a lookup should make of the matching rows of a listing. -/
structure Lawful (ending : Ending TransportError) (matching : List RunSnapshot)
    (result : TransportResult RunHandle) : Prop where
  found : (∃ handle, result = .ok handle) ↔ ending = .short ∧ OneRun matching
  handle : ∀ handle, result = .ok handle → ∃ a ∈ matching, a.handle = handle
  ambiguous : result = .error .ambiguousRun ↔ TwoRuns matching
  complete : ending = .cutOff → ∀ handle, result ≠ .ok handle

/-- If the matching rows are of one run, they are equal. -/
def RowsAgree (matching : List RunSnapshot) : Prop :=
  (∀ a ∈ matching, ∀ b ∈ matching, a.handle.id = b.handle.id) →
    ∀ a ∈ matching, ∀ b ∈ matching, a = b

/-! ## The search -/

section

variable {Row : Type} {limits : TransportLimits} {request : Nat → TransportResult (List Row)}
  {select : Row → Option RunSnapshot}

/-- The pages that a search reads. -/
def readListing (limits : TransportLimits) (request : Nat → TransportResult (List Row)) :
    Listing TransportError Row :=
  listing limits.perPage request limits.pages 1

/-- The snapshots that a search compares. -/
def matchingRows (limits : TransportLimits) (request : Nat → TransportResult (List Row))
    (select : Row → Option RunSnapshot) : List RunSnapshot :=
  (readListing limits request).rows.filterMap select

theorem foldlM_considerRow (rows : List Row) (matching : Option RunSnapshot) :
    rows.foldlM (considerRow select) matching =
      (rows.filterMap select).foldlM (keepUnique .ambiguousRun) matching := by
  rw [List.foldlM_filterMap]
  congr 1
  funext kept row
  rw [considerRow]
  cases select row <;> rfl

/-- The result of the search, from its listing. -/
theorem findMatchingRun_eq : findMatchingRun limits request select =
    if ∀ a ∈ matchingRows limits request select, ∀ b ∈ matchingRows limits request select, a = b
    then
      match (readListing limits request).ending with
      | .short => ofOption .runNotFound
          ((matchingRows limits request select).head?.map RunSnapshot.handle)
      | .cutOff => .error (.paginationLimitReached "run")
      | .failed failure => .error failure
    else .error .ambiguousRun := by
  have hrows : matchingRows limits request select =
      (listing limits.perPage request limits.pages 1).rows.filterMap select := rfl
  rw [findMatchingRun, foldPages_eq, foldlM_considerRow, foldlM_keepUnique, ← hrows]
  by_cases hequal : ∀ a ∈ matchingRows limits request select,
      ∀ b ∈ matchingRows limits request select, a = b
  · rw [if_pos hequal, if_pos hequal, readListing]
    cases (listing limits.perPage request limits.pages 1).ending <;> rfl
  · rw [if_neg hequal, if_neg hequal]
    rfl

theorem OneRun.of_equal (hequal : ∀ a ∈ matching, ∀ b ∈ matching, a = b) :
    OneRun matching ↔ matching ≠ [] := by
  constructor
  · exact And.left
  · intro hrows
    refine ⟨hrows, ?_⟩
    intro a ha b hb
    rw [hequal a ha b hb]

/-- Two runs have distinct ids. -/
theorem twoRuns_iff :
    TwoRuns matching ↔ ¬ ∀ a ∈ matching, ∀ b ∈ matching, a.handle.id = b.handle.id := by
  simp [TwoRuns]

theorem oneRun_of_rows {rows : List (UInt64 × RunStatus)} (id : UInt64)
    (hsame : rows ≠ [] ∧ ∀ row ∈ rows, row.1 = id)
    (h : matching.map (fun row => (row.handle.id, row.status)) = rows) : OneRun matching := by
  have hid : ∀ a ∈ matching, a.handle.id = id := by
    intro a ha
    have hmem := List.mem_map_of_mem (f := fun row : RunSnapshot => (row.handle.id, row.status)) ha
    rw [h] at hmem
    exact hsame.2 _ hmem
  constructor
  · intro hempty
    rw [hempty] at h
    exact hsame.1 h.symm
  · intro a ha b hb
    rw [hid a ha, hid b hb]

theorem not_equal_of_rows {rows : List (UInt64 × RunStatus)}
    (hdiffer : ¬ ∀ a ∈ rows, ∀ b ∈ rows, a = b)
    (h : matching.map (fun row => (row.handle.id, row.status)) = rows) :
    ¬ ∀ a ∈ matching, ∀ b ∈ matching, a = b := by
  intro hequal
  apply hdiffer
  intro x hx y hy
  rw [← h] at hx hy
  obtain ⟨a, ha, rfl⟩ := List.mem_map.mp hx
  obtain ⟨b, hb, rfl⟩ := List.mem_map.mp hy
  rw [hequal a ha b hb]

/-- An error for an incomplete or empty listing is lawful. -/
theorem Lawful.of_error {ending : Ending TransportError} {failure : TransportError}
    (hfailure : failure ≠ .ambiguousRun) (hnot : ¬ TwoRuns matching)
    (hnone : ¬ (ending = .short ∧ OneRun matching)) :
    Lawful ending matching (.error failure) := by
  have hok : ∀ handle, (.error failure : TransportResult RunHandle) ≠ .ok handle := by
    intro handle h
    cases h
  constructor
  · exact iff_of_false (fun h => hok _ h.choose_spec) hnone
  · exact fun handle h => (hok handle h).elim
  · exact iff_of_false (fun h => hfailure (Except.error.inj h)) hnot
  · exact fun _ => hok

/-- The run of the first row is lawful for a complete listing of one run. -/
theorem Lawful.of_ok {first : RunSnapshot} {rest : List RunSnapshot}
    (hone : OneRun (first :: rest)) : Lawful .short (first :: rest) (.ok first.handle) := by
  constructor
  · exact iff_of_true ⟨_, rfl⟩ ⟨rfl, hone⟩
  · exact fun handle h => ⟨first, List.mem_cons_self, Except.ok.inj h⟩
  · exact iff_of_false (by simp) (fun h => twoRuns_iff.mp h hone.2)
  · simp

/-- A search meets its law exactly if the rows of one run agree. -/
theorem findMatchingRun_lawful_iff
    (hrequest : ∀ page failure, request page = .error failure → failure ≠ .ambiguousRun) :
    Lawful (readListing limits request).ending (matchingRows limits request select)
        (findMatchingRun limits request select) ↔
      RowsAgree (matchingRows limits request select) := by
  have hresult := @findMatchingRun_eq Row limits request select
  generalize hmatching : matchingRows limits request select = matching at hresult ⊢
  constructor
  · intro hlawful hsame
    by_contra hequal
    rw [if_neg hequal] at hresult
    exact twoRuns_iff.mp (hlawful.ambiguous.mp hresult) hsame
  · intro hagree
    by_cases hequal : ∀ a ∈ matching, ∀ b ∈ matching, a = b
    · rw [if_pos hequal] at hresult
      -- All rows are equal: the ending decides.
      have hone := OneRun.of_equal hequal
      have hnot : ¬ TwoRuns matching := by
        intro htwo
        obtain ⟨a, ha, b, hb, hne⟩ := htwo
        exact hne (congrArg (fun row => row.handle.id) (hequal a ha b hb))
      rw [hresult]
      cases hending : (readListing limits request).ending with
      | short =>
        cases matching with
        | nil => exact .of_error (by simp) hnot (fun h => h.2.1 rfl)
        | cons first rest => exact .of_ok (hone.mpr (by simp))
      | cutOff => exact .of_error (by simp) hnot (by simp)
      | failed failure =>
        obtain ⟨page, hpage⟩ := exists_of_failed hending
        exact .of_error (hrequest page failure hpage) hnot (by simp)
    · rw [if_neg hequal] at hresult
      have htwo : TwoRuns matching := twoRuns_iff.mpr fun hsame => hequal (hagree hsame)
      have hnone : ∀ handle, findMatchingRun limits request select ≠ .ok handle := by
        intro handle hok
        rw [hresult] at hok
        cases hok
      have hnotOne : ¬ OneRun matching := fun hone => twoRuns_iff.mp htwo hone.2
      exact {
        found := ⟨fun h => (hnone _ h.choose_spec).elim, fun h => (hnotOne h.2).elim⟩
        handle := fun handle hok => (hnone handle hok).elim
        ambiguous := ⟨fun _ => htwo, fun _ => hresult⟩
        complete := fun _ => hnone }

end

/-! ## The requests -/

theorem failsWith_parse {P : TransportError → Prop} (operation : String)
    (hP : P (.malformedResponse operation)) :
    (∀ line, FailsWith P (parseRunRow operation line)) ∧
      ∀ line, FailsWith P (parseWorkflowDispatchRunRow operation line) := by
  have hcolumns : ∀ line count, FailsWith P (splitColumns operation line count) :=
    fun _ _ => (failsWith_rejectIf hP).bind fun _ => failsWith_ok _
  have hnumber : ∀ value, FailsWith P (parseNonzeroU64 operation value) :=
    fun _ => (failsWith_ofOption hP _).bind fun _ => (failsWith_rejectIf hP).bind fun _ =>
      failsWith_ok _
  have hname : ∀ value maximum, FailsWith P (parseBase64MetadataName operation value maximum) :=
    fun _ _ => (failsWith_ofOption hP _).bind fun _ => (failsWith_rejectIf hP).bind fun _ =>
      (failsWith_ofOption hP _).bind fun _ => (failsWith_rejectIf hP).bind fun _ => failsWith_ok _
  have hconclusion : ∀ value, FailsWith P (parseConclusion operation value) := by
    intro value
    rw [parseConclusion]
    split
    · exact failsWith_ok _
    · exact (failsWith_ofOption hP _).map some
  have hrow : ∀ line, FailsWith P (parseRunRow operation line) := by
    intro line
    rw [parseRunRow]
    exact (hcolumns _ _).bind fun _ => (hnumber _).bind fun _ => (hnumber _).bind fun _ =>
      (hname _ _).bind fun _ => (hnumber _).bind fun _ => (hnumber _).bind fun _ =>
      (failsWith_mapError (fun _ => hP) _).bind fun _ => (failsWith_ofOption hP _).bind fun _ =>
      (failsWith_ofOption hP _).bind fun _ => (failsWith_mapError (fun _ => hP) _).bind fun _ =>
      (failsWith_ofOption hP _).bind fun _ => (failsWith_ofOption hP _).bind fun _ =>
      (hconclusion _).bind fun _ => (failsWith_rejectIf hP).bind fun _ =>
      failsWith_ok _
  refine ⟨hrow, ?_⟩
  intro line
  exact (hcolumns _ _).bind fun _ => (hname _ _).bind fun _ => (hrow _).bind fun _ => failsWith_ok _

/-- A page fails with the runner or with its own rows. -/
theorem failsWith_page {Row : Type} {P : TransportError → Prop} {operation : String}
    (hexecution : ∀ failure, P (.execution failure)) (hP : P (.malformedResponse operation))
    {parse : List Char → TransportResult Row} (hparse : ∀ line, FailsWith P (parse line))
    (runner : Runner) (request : GhRequest) :
    FailsWith P (runner.execute request >>= fun output =>
      parseUtf8 operation output >>= fun text => (lines text.toList).mapM parse) :=
  (failsWith_mapError hexecution _).bind fun _ => (failsWith_ofOption hP _).bind fun _ =>
    failsWith_mapM hparse

/-- A lookup with a valid path is a search. -/
theorem findRun_eq {runner : Runner} {limits : TransportLimits} {repository : Repository}
    {workflowPath filename : String} {headSha : CommitSha} {branch : BranchName} {event : RunEvent}
    (hpath : validatedWorkflowFilename workflowPath = .ok filename) :
    findRun runner limits repository workflowPath headSha branch event =
      findMatchingRun limits (requestRuns runner limits repository headSha branch event)
        (selectRun workflowPath headSha branch event) := by
  rw [findRun, hpath]
  rfl

/-- Both lookups meet the law exactly if the matching rows of one run agree. -/
theorem lookups_lawful_iff (runner : Runner) (limits : TransportLimits) :
    (∀ (repository : Repository) (workflowPath filename : String) (headSha : CommitSha)
        (branch : BranchName) (event : RunEvent),
      validatedWorkflowFilename workflowPath = .ok filename →
      let request := requestRuns runner limits repository headSha branch event
      let matching := matchingRows limits request (selectRun workflowPath headSha branch event)
      Lawful (readListing limits request).ending matching
          (findRun runner limits repository workflowPath headSha branch event) ↔
        RowsAgree matching) ∧
    ∀ request : WorkflowDispatchRequest,
      let list := requestWorkflowDispatchRuns runner limits request
      let matching := matchingRows limits list (selectWorkflowDispatchRun request)
      Lawful (readListing limits list).ending matching
          (findWorkflowDispatchRun runner limits request) ↔
        RowsAgree matching := by
  have hparse := fun operation => failsWith_parse (P := (· ≠ .ambiguousRun)) operation (by simp)
  constructor
  · intro repository workflowPath filename headSha branch event hpath
    simp only [findRun_eq hpath]
    apply findMatchingRun_lawful_iff
    intro page failure hfailure
    exact failsWith_page (by simp) (by simp) (hparse "run list").1 runner _ failure hfailure
  · intro request
    apply findMatchingRun_lawful_iff
    intro page failure hfailure
    exact failsWith_page (by simp) (by simp) (hparse "workflow dispatch run list").2 runner _
      failure hfailure

/-! ## A run that progresses -/

namespace Progress

def repository : Repository := ⟨"samples", "output", by decide, by decide⟩

def headSha : CommitSha := ⟨"0123456789abcdef0123456789abcdef01234567", by decide⟩

def branch : BranchName := ⟨"j", by decide +kernel⟩

def workflowPath : String := ".github/workflows/b.yml"

/-- One run to a page. -/
def limits : TransportLimits := ⟨5, 1, by decide, by decide⟩

def row (status : String) : List UInt8 :=
  Text.utf8 ("41\t16\tLmdpdGh1Yi93b3JrZmxvd3MvYi55bWw=\t7\t1\t" ++ headSha.value ++
    "\tag==\tpush\t" ++ status ++ "\t\n")

/-- The run moves to the second page and is in progress there. -/
def runner : Runner := fun request =>
  if request.fields.contains ("page", "1") then .ok (row "queued")
  else if request.fields.contains ("page", "2") then .ok (row "in_progress")
  else .ok []

/-- The run stays the same on the second page. -/
def steadyRunner : Runner := fun request =>
  if request.fields.contains ("page", "1") || request.fields.contains ("page", "2") then
    .ok (row "queued")
  else .ok []

end Progress

open Progress in
/-- The filename of the workflow, and the rows of a run that progresses. -/
theorem progress_evaluates :
    validatedWorkflowFilename workflowPath = .ok "b.yml" ∧
      ((readListing limits (requestRuns runner limits repository headSha branch .push)).ending,
        (matchingRows limits (requestRuns runner limits repository headSha branch .push)
          (selectRun workflowPath headSha branch .push)).map
            fun row => (row.handle.id, row.status)) =
        (.short, [(41, .queued), (41, .inProgress)]) := by
  decide +kernel

open Progress in
theorem lookups_lawful_steady :
    Lawful (readListing limits
          (requestRuns steadyRunner limits repository headSha branch .push)).ending
        (matchingRows limits (requestRuns steadyRunner limits repository headSha branch .push)
          (selectRun workflowPath headSha branch .push))
        (findRun steadyRunner limits repository workflowPath headSha branch .push) ↔
      RowsAgree (matchingRows limits
        (requestRuns steadyRunner limits repository headSha branch .push)
        (selectRun workflowPath headSha branch .push)) := by
  have hpath := progress_evaluates.1
  exact (lookups_lawful_iff steadyRunner limits).1 repository workflowPath "b.yml" headSha
    branch .push hpath

open Progress in
/-- The rows of one run are ambiguous, as the run progresses from one page to the next. -/
theorem findRun_progressing :
    findRun runner limits repository workflowPath headSha branch .push = .error .ambiguousRun ∧
      (readListing limits (requestRuns runner limits repository headSha branch .push)).ending =
        .short ∧
      OneRun (matchingRows limits (requestRuns runner limits repository headSha branch .push)
        (selectRun workflowPath headSha branch .push)) ∧
      ¬ Lawful
        (readListing limits (requestRuns runner limits repository headSha branch .push)).ending
        (matchingRows limits (requestRuns runner limits repository headSha branch .push)
          (selectRun workflowPath headSha branch .push))
        (findRun runner limits repository workflowPath headSha branch .push) := by
  obtain ⟨hpath, hlisting⟩ := progress_evaluates
  obtain ⟨hending, hrows⟩ := Prod.mk.inj hlisting
  have hone := oneRun_of_rows 41 (by decide) hrows
  have hdiffer := not_equal_of_rows (by decide) hrows
  have hresult : findRun runner limits repository workflowPath headSha branch .push =
      .error .ambiguousRun := by
    rw [findRun_eq hpath, findMatchingRun_eq, if_neg hdiffer]
  refine ⟨hresult, hending, hone, ?_⟩
  intro hlawful
  exact twoRuns_iff.mp (hlawful.ambiguous.mp hresult) hone.2

end RustFerry.Github
