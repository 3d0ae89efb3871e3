import RustFerry.ForStd.Paging
import RustFerry.Native.WorkflowDispatch

/-!
# Lookup of a workflow run

`find_run` and `find_workflow_dispatch_run` of `crates/rustferry-github/src/transport.rs`: the pages
of the run list, the rows of a page as the query prints them, and the search for the one matching
run. The runner answers a request with the bytes of its output.
-/

namespace RustFerry.Github

open Except Paging

/-! ## Errors and requests -/

/-- `TransportError`, without what only other functions return. -/
inductive TransportError where
  | execution (failure : String)
  | malformedResponse (operation : String)
  | invalidWorkflowPath
  | runNotFound
  | ambiguousRun
  | paginationLimitReached (resource : String)
  deriving DecidableEq

abbrev TransportResult := Except TransportError

/-- A `gh api` request for metadata, without the limits that every request has. -/
structure GhRequest where
  endpoint : String
  fields : List (String × String)
  jq : String

/-- `Runner::execute`. -/
abbrev Runner := GhRequest → Except String (List UInt8)

def Runner.execute (runner : Runner) (request : GhRequest) : TransportResult (List UInt8) :=
  (runner request).mapError .execution

/-- Bounded pagination. -/
structure TransportLimits where
  pages : Nat
  perPage : Nat
  pagesRange : 1 ≤ pages ∧ pages ≤ 100
  perPageRange : 1 ≤ perPage ∧ perPage ≤ 100

/-! ## Runs -/

inductive RunEvent where
  | push
  | workflowDispatch
  deriving DecidableEq

def RunEvent.asStr : RunEvent → String
  | .push => "push"
  | .workflowDispatch => "workflow_dispatch"

def RunEvent.parse : String → Option RunEvent
  | "push" => some .push
  | "workflow_dispatch" => some .workflowDispatch
  | _ => none

inductive RunStatus where
  | requested
  | queued
  | pending
  | waiting
  | inProgress
  | completed
  deriving DecidableEq

def RunStatus.parse : String → Option RunStatus
  | "requested" => some .requested
  | "queued" => some .queued
  | "pending" => some .pending
  | "waiting" => some .waiting
  | "in_progress" => some .inProgress
  | "completed" => some .completed
  | _ => none

def RunStatus.isTerminal (status : RunStatus) : Bool := status == .completed

inductive RunConclusion where
  | success
  | failure
  | cancelled
  | timedOut
  | neutral
  | skipped
  | stale
  | actionRequired
  | startupFailure
  deriving DecidableEq

def RunConclusion.parse : String → Option RunConclusion
  | "success" => some .success
  | "failure" => some .failure
  | "cancelled" => some .cancelled
  | "timed_out" => some .timedOut
  | "neutral" => some .neutral
  | "skipped" => some .skipped
  | "stale" => some .stale
  | "action_required" => some .actionRequired
  | "startup_failure" => some .startupFailure
  | _ => none

/-- Exact identity selected during run lookup. -/
structure RunHandle where
  id : UInt64
  workflowId : UInt64
  workflowPath : String
  headSha : CommitSha
  branch : BranchName
  event : RunEvent
  deriving DecidableEq

/-- One locally identity-checked run observation. -/
structure RunSnapshot where
  handle : RunHandle
  runNumber : UInt64
  runAttempt : UInt64
  status : RunStatus
  conclusion : Option RunConclusion
  deriving DecidableEq

structure WorkflowDispatchRunSnapshot where
  snapshot : RunSnapshot
  runName : String

/-! ## Columns -/

section

variable (operation : String)

def parseUtf8 (output : List UInt8) : TransportResult String :=
  ofOption (.malformedResponse operation) (Text.fromUtf8 output)

/-- `str::lines`: a line ends with a line feed or with a carriage return before it. -/
def lines (text : List Char) : List (List Char) :=
  let parts := Text.split '\n' text
  let ended := parts.dropLast.map fun line =>
    if line.getLast? = some '\r' then line.dropLast else line
  ended ++ parts.getLast?.toList.filter fun line => !line.isEmpty

def splitColumns (line : List Char) (count : Nat) : TransportResult (List (List Char)) := do
  let columns := Text.split '\t' line
  rejectIf (columns.length != count ||
    columns.any fun column => column.contains '\r' || column.contains '\n')
    (.malformedResponse operation)
  return columns

/-- The column at a position. -/
def column (columns : List (List Char)) (index : Nat) : List Char := columns[index]?.getD []

/-- The value is parsed with an optional plus sign, as `str::parse` does. -/
def parseNonzeroU64 (value : List Char) : TransportResult UInt64 := do
  let digits := if value.head? = some '+' then value.tail else value
  let parsed ← ofOption (.malformedResponse operation) (Text.parseDigits (2 ^ 64) digits)
  rejectIf (parsed == 0) (.malformedResponse operation)
  return UInt64.ofNat parsed

end

/-! ## Base64 -/

def base64Value (c : Char) : Option Nat :=
  if 'A' ≤ c ∧ c ≤ 'Z' then some (c.toNat - 65)
  else if 'a' ≤ c ∧ c ≤ 'z' then some (c.toNat - 97 + 26)
  else if '0' ≤ c ∧ c ≤ '9' then some (c.toNat - 48 + 52)
  else if c = '+' then some 62
  else if c = '/' then some 63
  else none

/-- The chunks of four characters; only the last one is padded. -/
def decodeChunks : List Char → Option (List UInt8)
  | [] => some []
  | a :: b :: c :: d :: rest => do
    let first ← base64Value a
    let second ← base64Value b
    let thirdPadding := c == '='
    let fourthPadding := d == '='
    if thirdPadding && !fourthPadding then none
    -- padding ends the text
    else if (thirdPadding || fourthPadding) && !rest.isEmpty then none
    else
      let third ← if thirdPadding then some 0 else base64Value c
      let fourth ← if fourthPadding then some 0 else base64Value d
      -- the bits below the last byte are zero
      if (thirdPadding && second % 16 != 0) ||
          (fourthPadding && !thirdPadding && third % 4 != 0) then none
      else
        let output := [UInt8.ofNat (first * 4 + second / 16)] ++
          (if thirdPadding then [] else [UInt8.ofNat (second % 16 * 16 + third / 4)]) ++
          (if fourthPadding then [] else [UInt8.ofNat (third % 4 * 64 + fourth)])
        let rest ← decodeChunks rest
        return output ++ rest
  | _ => none

def isBase64Character (c : Char) : Bool := c.isAlphanum || c == '+' || c == '/' || c == '='

def decodeBase64 (value : List Char) : Option (List UInt8) :=
  if value.length % 4 ≠ 0 || value.any fun c => !isBase64Character c then none
  else decodeChunks value

def parseBase64MetadataName (operation : String) (value : List Char) (maximum : Nat) :
    TransportResult String := do
  let bytes ← ofOption (.malformedResponse operation) (decodeBase64 value)
  rejectIf (bytes.isEmpty || maximum < bytes.length ||
    bytes.any fun byte => byte.toNat < 32 || byte.toNat == 127) (.malformedResponse operation)
  let name ← ofOption (.malformedResponse operation) (Text.fromUtf8 bytes)
  rejectIf (name.toList.any Text.isControl) (.malformedResponse operation)
  return name

/-! ## Rows -/

/-- The conclusion of a run that has one. -/
def parseConclusion (operation : String) (value : List Char) :
    TransportResult (Option RunConclusion) :=
  if value.isEmpty then .ok none
  else
    (ofOption (.malformedResponse operation) (RunConclusion.parse (String.ofList value))).map some

def parseRunRow (operation : String) (line : List Char) : TransportResult RunSnapshot := do
  let malformed := TransportError.malformedResponse operation
  let columns ← splitColumns operation line 10
  let id ← parseNonzeroU64 operation (column columns 0)
  let workflowId ← parseNonzeroU64 operation (column columns 1)
  let workflowPath ← parseBase64MetadataName operation (column columns 2) 4096
  let runNumber ← parseNonzeroU64 operation (column columns 3)
  let runAttempt ← parseNonzeroU64 operation (column columns 4)
  let headSha ← (CommitSha.new (String.ofList (column columns 5))).mapError fun _ => malformed
  let branchBytes ← ofOption malformed (decodeBase64 (column columns 6))
  let branchText ← ofOption malformed (Text.fromUtf8 branchBytes)
  let branch ← (BranchName.new branchText).mapError fun _ => malformed
  let event ← ofOption malformed (RunEvent.parse (String.ofList (column columns 7)))
  let status ← ofOption malformed (RunStatus.parse (String.ofList (column columns 8)))
  let conclusion ← parseConclusion operation (column columns 9)
  rejectIf (status.isTerminal != conclusion.isSome) malformed
  return {
    handle := { id, workflowId, workflowPath, headSha, branch, event }
    runNumber, runAttempt, status, conclusion }

def parseRunRows (operation : String) (output : List UInt8) :
    TransportResult (List RunSnapshot) := do
  let text ← parseUtf8 operation output
  (lines text.toList).mapM (parseRunRow operation)

/-- A row with the title of the run as its last column. -/
def parseWorkflowDispatchRunRow (operation : String) (line : List Char) :
    TransportResult WorkflowDispatchRunSnapshot := do
  let columns ← splitColumns operation line 11
  let runName ← parseBase64MetadataName operation (column columns 10)
    maxWorkflowDispatchRunNameBytes
  let snapshot ← parseRunRow operation (List.intercalate ['\t'] (columns.take 10))
  return { snapshot, runName }

def parseWorkflowDispatchRunRows (operation : String) (output : List UInt8) :
    TransportResult (List WorkflowDispatchRunSnapshot) := do
  let text ← parseUtf8 operation output
  (lines text.toList).mapM (parseWorkflowDispatchRunRow operation)

/-! ## The search -/

/-- The path itself, or the path at the branch. -/
def workflowRunPathMatches (value expectedPath : String) (branch : BranchName) : Bool :=
  value == expectedPath || value == expectedPath ++ "@" ++ branch.value

def workflowDirectory : String := ".github/workflows/"

def validatedWorkflowFilename (workflowPath : String) : TransportResult String := do
  let filename ← ofOption .invalidWorkflowPath
    (Text.stripFront workflowDirectory.toList workflowPath.toList)
  rejectIf (filename.isEmpty || 128 < filename.length || !filename.head?.any Char.isAlphanum ||
    hasPair '.' '.' filename ||
    !(".yml".toList.isSuffixOf filename || ".yaml".toList.isSuffixOf filename) ||
    !filename.all fun c => c.isAlphanum || c == '.' || c == '_' || c == '-') .invalidWorkflowPath
  return String.ofList filename

def Repository.endpoint (self : Repository) (suffix : String) : String :=
  "/repos/" ++ self.owner ++ "/" ++ self.name ++ suffix

def runListQuery : String :=
  ".workflow_runs[] | [.id,.workflow_id,(.path | @base64),.run_number,.run_attempt,.head_sha," ++
    "(.head_branch | @base64),.event,.status,(.conclusion // \"\")] | @tsv"

def workflowDispatchRunListQuery : String :=
  ".workflow_runs[] | [.id,.workflow_id,(.path | @base64),.run_number,.run_attempt,.head_sha," ++
    "(.head_branch | @base64),.event,.status,(.conclusion // \"\"),(.display_title | @base64)]" ++
    " | @tsv"

/-- The request for one page of the run list. -/
def runListRequest (limits : TransportLimits) (repository : Repository) (headSha : CommitSha)
    (branch : BranchName) (event : RunEvent) (jq : String) (page : Nat) : GhRequest where
  endpoint := repository.endpoint "/actions/runs"
  fields := [("head_sha", headSha.value), ("branch", branch.value), ("event", event.asStr),
    ("exclude_pull_requests", "true"), ("per_page", toString limits.perPage),
    ("page", toString page)]
  jq := jq

/-- A row: nothing for one that does not match, else the snapshot to compare. -/
def considerRow {Row : Type} (select : Row → Option RunSnapshot) (matching : Option RunSnapshot)
    (row : Row) : TransportResult (Option RunSnapshot) :=
  match select row with
  -- the same run twice is no ambiguity, but rows are compared whole
  | some candidate => keepUnique .ambiguousRun matching candidate
  | none => pure matching

/-- The loop of both functions: the pages, and the handle of the run that matched. -/
def findMatchingRun {Row : Type} (limits : TransportLimits)
    (request : Nat → TransportResult (List Row)) (select : Row → Option RunSnapshot) :
    TransportResult RunHandle := do
  let matching ← foldPages limits.perPage (.paginationLimitReached "run") request
    (considerRow select) limits.pages 1 none
  ofOption .runNotFound (matching.map RunSnapshot.handle)

/-- The rows of one page of `find_run`. -/
def requestRuns (runner : Runner) (limits : TransportLimits) (repository : Repository)
    (headSha : CommitSha) (branch : BranchName) (event : RunEvent) (page : Nat) :
    TransportResult (List RunSnapshot) := do
  let output ← runner.execute
    (runListRequest limits repository headSha branch event runListQuery page)
  parseRunRows "run list" output

/-- The candidate of a row, with the path that was asked for. -/
def selectRun (workflowPath : String) (headSha : CommitSha) (branch : BranchName)
    (event : RunEvent) (candidate : RunSnapshot) : Option RunSnapshot :=
  if workflowRunPathMatches candidate.handle.workflowPath workflowPath branch &&
      candidate.handle.headSha == headSha && candidate.handle.branch == branch &&
      candidate.handle.event == event then
    some { candidate with handle := { candidate.handle with workflowPath } }
  else none

/-- Find exactly one workflow run by workflow path, head SHA, branch, and event. -/
def findRun (runner : Runner) (limits : TransportLimits) (repository : Repository)
    (workflowPath : String) (headSha : CommitSha) (branch : BranchName) (event : RunEvent) :
    TransportResult RunHandle := do
  let _ ← validatedWorkflowFilename workflowPath
  findMatchingRun limits (requestRuns runner limits repository headSha branch event)
    (selectRun workflowPath headSha branch event)

/-- The rows of one page of `find_workflow_dispatch_run`. -/
def requestWorkflowDispatchRuns (runner : Runner) (limits : TransportLimits)
    (request : WorkflowDispatchRequest) (page : Nat) :
    TransportResult (List WorkflowDispatchRunSnapshot) := do
  let output ← runner.execute
    (runListRequest limits request.repository request.dispatchRevision request.temporaryRef.branch
      .workflowDispatch workflowDispatchRunListQuery page)
  parseWorkflowDispatchRunRows "workflow dispatch run list" output

/-- The candidate of a row, with the path of the registered workflow. -/
def selectWorkflowDispatchRun (request : WorkflowDispatchRequest)
    (candidate : WorkflowDispatchRunSnapshot) : Option RunSnapshot :=
  let handle := candidate.snapshot.handle
  if workflowRunPathMatches handle.workflowPath request.workflow.path request.temporaryRef.branch &&
      handle.workflowId == request.workflow.id && handle.headSha == request.dispatchRevision &&
      handle.branch == request.temporaryRef.branch && handle.event == .workflowDispatch &&
      candidate.runName == request.runName then
    some { candidate.snapshot with handle := { handle with workflowPath := request.workflow.path } }
  else none

/-- Find exactly one workflow-dispatch run whose public title binds all four inputs. -/
def findWorkflowDispatchRun (runner : Runner) (limits : TransportLimits)
    (request : WorkflowDispatchRequest) : TransportResult RunHandle :=
  findMatchingRun limits (requestWorkflowDispatchRuns runner limits request)
    (selectWorkflowDispatchRun request)

end RustFerry.Github
