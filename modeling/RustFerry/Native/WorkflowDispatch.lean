import RustFerry.Native.GithubProvider

/-!
# Dispatch of a workflow

`rustferry-github/src/transport.rs` and `workflow.rs`: the names that the transport accepts, each
with the proof of its own check, and `WorkflowDispatchRequest::new`, which binds the public
inputs of one dispatch.
-/

namespace RustFerry.Github

open Remote Except Serde

/-! ## Checks -/

/-- `TransportConfigError`, without what only other checks return. -/
inductive TransportConfigError where
  | empty (field : String)
  | tooLong (field : String) (maximum : Nat)
  | invalidCharacter (field : String) (index : Nat)
  | invalidFormat (field : String)
  | refOutsideTemporaryNamespace
  deriving DecidableEq

abbrev TransportConfigResult := Except TransportConfigError

def validateNonemptyLength (field value : String) (maximum : Nat) : TransportConfigResult Unit := do
  rejectIf (value == "") (.empty field)
  rejectIf (value.utf8ByteSize > maximum) (.tooLong field maximum)

/-- The characters before the first that is not allowed are ASCII, so that its offset in bytes
    is its place. -/
def validateAsciiAllowlist (field value : String) (allowed : Char → Bool) :
    TransportConfigResult Unit :=
  rejectIf (!value.toList.all allowed)
    (.invalidCharacter field (value.toList.findIdx fun c => !allowed c))

/-- The two characters stand next to each other. -/
def hasPair (first second : Char) : List Char → Bool
  | a :: b :: rest => (a == first && b == second) || hasPair first second (b :: rest)
  | _ => false

def startsWith (value front : String) : Bool := front.toList.isPrefixOf value.toList

def endsWith (value back : String) : Bool := back.toList.isSuffixOf value.toList

/-- The characters of an operation, a branch without its slashes, and an artifact name. -/
def isNameCharacter (c : Char) : Bool := c.isAlphanum || c == '.' || c == '_' || c == '-'

def validateOwner (value : String) : TransportConfigResult Unit := do
  validateNonemptyLength "repository owner" value 39
  validateAsciiAllowlist "repository owner" value fun c => c.isAlphanum || c == '-'
  rejectIf (!value.toList.head?.any Char.isAlphanum || !value.toList.getLast?.any Char.isAlphanum ||
      hasPair '-' '-' value.toList)
    (.invalidFormat "repository owner")

def validateRepositoryName (value : String) : TransportConfigResult Unit := do
  validateNonemptyLength "repository name" value 100
  validateAsciiAllowlist "repository name" value isNameCharacter
  rejectIf (startsWith value "-" || value == "." || value == ".." || endsWith value "." ||
      hasPair '.' '.' value.toList)
    (.invalidFormat "repository name")

/-- `validate_ref_tail` of `workflow.rs`, which returns the same kinds of errors. -/
def validateRefTail (field tail : String) : TransportConfigResult Unit := do
  validateNonemptyLength field tail 255
  validateAsciiAllowlist field tail fun c => isNameCharacter c || c == '/'
  rejectIf (startsWith tail "/" || endsWith tail "/" || endsWith tail "." || endsWith tail ".lock" ||
      hasPair '.' '.' tail.toList || hasPair '/' '/' tail.toList ||
      (Text.split '/' tail.toList).any List.isEmpty)
    (.invalidFormat field)

def validateWorkflowDispatchOperation (value : String) : TransportConfigResult Unit := do
  validateNonemptyLength "workflow dispatch operation" value 64
  validateAsciiAllowlist "workflow dispatch operation" value isNameCharacter
  rejectIf (startsWith value "." || endsWith value "." || endsWith value ".lock" ||
      hasPair '.' '.' value.toList)
    (.invalidFormat "workflow dispatch operation")

def validateLowerSha256 (field value : String) : TransportConfigResult Unit :=
  rejectIf (!isLowerSha256 value) (.invalidFormat field)

/-! ## Names -/

/-- Explicit GitHub owner and repository name. -/
structure Repository where
  owner : String
  name : String
  validOwner : validateOwner owner = .ok ()
  validName : validateRepositoryName name = .ok ()
  deriving DecidableEq

/-- `repository_url` of `provider.rs`. -/
def repositoryUrl (repository : Repository) : String :=
  "https://github.com/" ++ repository.owner ++ "/" ++ repository.name

/-- `CommitSha::new` accepts the text: 40 lowercase hexadecimal digits. -/
def isCommitSha (value : String) : Bool := value.utf8ByteSize == 40 && isLowerHex value.toList

/-- Exact lowercase 40-character Git commit identifier. -/
structure CommitSha where
  value : String
  valid : isCommitSha value = true
  deriving DecidableEq

def CommitSha.new (value : String) : TransportConfigResult CommitSha :=
  if h : isCommitSha value = true then .ok ⟨value, h⟩ else .error (.invalidFormat "commit sha")

/-- The checks of `BranchName::new`. -/
def validateBranchName (value : String) : TransportConfigResult Unit := do
  validateNonemptyLength "branch" value 244
  validateAsciiAllowlist "branch" value fun c => isNameCharacter c || c == '/'
  rejectIf (startsWith value "-" || startsWith value "/" || startsWith value "refs/" ||
      endsWith value "/" || endsWith value "." || endsWith value ".lock" ||
      hasPair '.' '.' value.toList || hasPair '/' '/' value.toList ||
      hasPair '@' '{' value.toList ||
      (Text.split '/' value.toList).any fun part => part.isEmpty || part == ['.'])
    (.invalidFormat "branch")

/-- Exact Git branch name without the `refs/heads/` prefix. -/
structure BranchName where
  value : String
  valid : validateBranchName value = .ok ()
  deriving DecidableEq

def BranchName.new (value : String) : TransportConfigResult BranchName :=
  match h : validateBranchName value with
  | .ok () => .ok ⟨value, h⟩
  | .error failure => .error failure

/-- `TemporaryBranchNamespace::new` of `workflow.rs` accepts the text. -/
def validateTemporaryBranchNamespace (value : String) : TransportConfigResult Unit := do
  validateNonemptyLength "temporary branch namespace" value 192
  rejectIf (startsWith value "refs/" || startsWith value "pull/")
    (.invalidFormat "temporary branch namespace")
  validateRefTail "temporary branch namespace" value

/-- Branch namespace used only for temporary provider job refs. -/
structure TemporaryBranchNamespace where
  value : String
  valid : validateTemporaryBranchNamespace value = .ok ()

/-- A branch below a temporary namespace; the namespace is the one of the configuration. -/
structure TemporaryGitRef where
  branch : BranchName
  deriving DecidableEq

/-- Rejects the namespace root itself and any branch outside it. -/
def TemporaryGitRef.new (ns : TemporaryBranchNamespace) (branch : BranchName) :
    TransportConfigResult TemporaryGitRef :=
  match Text.stripFront (ns.value ++ "/").toList branch.value.toList with
  | some (_ :: _) => .ok ⟨branch⟩
  | _ => .error .refOutsideTemporaryNamespace

/-- One active workflow registration bound to its exact repository path. -/
structure WorkflowRegistration where
  repository : Repository
  id : UInt64
  path : String

/-! ## The request -/

def workflowDispatchRunNamePrefix : String := "rustferry-v1|"
def maxWorkflowDispatchRunNameBytes : Nat := 240
def maxWorkflowDispatchBodyBytes : Nat := 2 * 1024

def canonicalWorkflowDispatchRunName (operationId requestSha256 : String)
    (sourceRevision dispatchRevision : CommitSha) : TransportConfigResult String := do
  validateWorkflowDispatchOperation operationId
  validateLowerSha256 "request sha256" requestSha256
  let runName := workflowDispatchRunNamePrefix ++ operationId ++ "|" ++ requestSha256 ++ "|" ++
    sourceRevision.value ++ "|" ++ dispatchRevision.value
  rejectIf (runName.utf8ByteSize > maxWorkflowDispatchRunNameBytes)
    (.tooLong "workflow dispatch run name" maxWorkflowDispatchRunNameBytes)
  pure runName

/-- `WorkflowDispatchBody` as JSON. -/
def workflowDispatchBody (gitRef operationId requestSha256 : String)
    (sourceRevision dispatchRevision : CommitSha) : Json :=
  .object [("ref", .string gitRef),
    ("inputs", .object [("operation_id", .string operationId),
      ("request_sha256", .string requestSha256),
      ("source_revision", .string sourceRevision.value),
      ("dispatch_revision", .string dispatchRevision.value)])]

/-- Validated public inputs for one no-secret workflow dispatch. -/
structure WorkflowDispatchRequest where
  repository : Repository
  workflow : WorkflowRegistration
  temporaryRef : TemporaryGitRef
  operationId : String
  requestSha256 : String
  sourceRevision : CommitSha
  dispatchRevision : CommitSha
  runName : String
  bodySha256 : String
  body : List UInt8

/-- The ref ends with the operation. -/
def refNamesOperation (temporaryRef : TemporaryGitRef) (operationId : String) : Bool :=
  match Text.rsplitOnce '/' temporaryRef.branch.value.toList with
  | some (_, suffix) => suffix == operationId.toList
  | none => false

/-- Bind one exact temporary ref and the complete public dispatch input set. -/
def WorkflowDispatchRequest.new (sha256 : List UInt8 → String) (repository : Repository)
    (workflow : WorkflowRegistration) (temporaryRef : TemporaryGitRef)
    (operationId requestSha256 : String) (sourceRevision dispatchRevision : CommitSha) :
    TransportConfigResult WorkflowDispatchRequest := do
  rejectIf (repository != workflow.repository) (.invalidFormat "workflow dispatch repository")
  validateWorkflowDispatchOperation operationId
  rejectIf (!refNamesOperation temporaryRef operationId)
    (.invalidFormat "workflow dispatch operation ref")
  validateLowerSha256 "request sha256" requestSha256
  let runName ← canonicalWorkflowDispatchRunName operationId requestSha256 sourceRevision
    dispatchRevision
  let body := Text.utf8 (String.ofList (workflowDispatchBody temporaryRef.branch.value operationId
    requestSha256 sourceRevision dispatchRevision).print)
  rejectIf (body.length > maxWorkflowDispatchBodyBytes)
    (.tooLong "workflow dispatch body" maxWorkflowDispatchBodyBytes)
  pure {
    repository, workflow, temporaryRef, operationId, requestSha256, sourceRevision,
    dispatchRevision, runName, body
    bodySha256 := sha256 body }

end RustFerry.Github
