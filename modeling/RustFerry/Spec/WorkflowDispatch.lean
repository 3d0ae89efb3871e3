import RustFerry.Native.ProviderRequest
import RustFerry.Spec.RequestBytes

/-!
# Submissions that can be dispatched

The rule of the temporary ref allows operations of 160 bytes, the rule of a dispatch only of 64.
Everything else that the dispatch asks for follows from the submission: the characters, the ref,
and the bounds on the name of the run and on the body.
-/

namespace RustFerry.Github

open Remote Except

section

variable {operationId digest : String} {source dispatch : CommitSha} {value : String}

/-! ## The checks -/

theorem validateNonemptyLength_eq_ok {field : String} {maximum : Nat} :
    validateNonemptyLength field value maximum = .ok () ↔
      value ≠ "" ∧ value.utf8ByteSize ≤ maximum := by
  simp [validateNonemptyLength, check_bind_eq_ok]

/-- The accepted characters. -/
theorem validateAsciiAllowlist_eq_ok {field : String} {allowed : Char → Bool} :
    validateAsciiAllowlist field value allowed = .ok () ↔ ∀ c ∈ value.toList, allowed c = true := by
  simp [validateAsciiAllowlist]

/-- What both rules for an operation ask for, but for its length. -/
structure RefSafe (value : String) : Prop where
  nonempty : value ≠ ""
  characters : ∀ c ∈ value.toList, isNameCharacter c = true
  front : startsWith value "." = false
  back : endsWith value "." = false
  lock : endsWith value ".lock" = false
  dots : hasPair '.' '.' value.toList = false

/-- The operations that pass the second rule. -/
theorem validateWorkflowDispatchOperation_iff :
    validateWorkflowDispatchOperation value = .ok () ↔
      RefSafe value ∧ value.utf8ByteSize ≤ 64 := by
  simp only [validateWorkflowDispatchOperation, check_bind_eq_ok, validateNonemptyLength_eq_ok,
    validateAsciiAllowlist_eq_ok, rejectIf_eq_ok, Bool.or_eq_false_iff, and_assoc]
  constructor
  · intro h
    obtain ⟨hne, hlength, hchars, hfront, hback, hlock, hdots⟩ := h
    exact ⟨⟨hne, hchars, hfront, hback, hlock, hdots⟩, hlength⟩
  · intro h
    obtain ⟨hsafe, hlength⟩ := h
    exact ⟨hsafe.nonempty, hlength, hsafe.characters, hsafe.front, hsafe.back, hsafe.lock,
      hsafe.dots⟩

/-- The extension of a text that ends with it. -/
theorem rsplitOnce_of_endsWith {separator : Char} {ext : List Char} (hext : separator ∉ ext)
    (h : (separator :: ext).isSuffixOf value.toList = true) :
    ∃ front, Text.rsplitOnce separator value.toList = some (front, ext) := by
  obtain ⟨front, hfront⟩ := List.isSuffixOf_iff_suffix.mp h
  exact ⟨front, hfront ▸ Text.rsplitOnce_append hext front⟩

/-- The rule of the temporary ref also forbids the extension `lock` in capital letters and a
    first character that is not alphanumeric. -/
theorem refSafe_of_validateRefSegment :
    validateRefSegment value = true → RefSafe value ∧ value.utf8ByteSize ≤ 160 := by
  intro h
  simp only [validateRefSegment, Bool.not_eq_true', Bool.or_eq_false_iff, beq_eq_false_iff_ne,
    decide_eq_false_iff_not, not_lt, Bool.not_eq_false', List.all_eq_true, gt_iff_lt] at h
  obtain ⟨⟨⟨⟨⟨⟨hne, hlength⟩, hhead⟩, hback⟩, hlock⟩, hdots⟩, hchars⟩ := h
  refine ⟨⟨hne, hchars, ?_, hback, ?_, hdots⟩, hlength⟩
  · -- the first character is not a dot
    cases hvalue : value.toList with
    | nil => rw [hvalue] at hhead; simp at hhead
    | cons c rest =>
      rw [hvalue] at hhead
      have hc : c ≠ '.' := by
        intro heq
        rw [heq] at hhead
        simp at hhead
      simp [startsWith, hvalue, List.isPrefixOf, hc.symm]
  · -- the extension is not `lock`
    by_cases hends : endsWith value ".lock" = true
    · have hlast : '.' ∉ ['l', 'o', 'c', 'k'] := by decide
      obtain ⟨front, hsplit⟩ := rsplitOnce_of_endsWith hlast hends
      rw [hsplit] at hlock
      have hsame : Text.eqIgnoreAsciiCase ['l', 'o', 'c', 'k'] "lock".toList = true := by decide
      cases hsame.symm.trans hlock
    · exact Bool.not_eq_true _ ▸ hends

/-! ## Sizes -/

theorem isAlphanum_iff {c : Char} :
    c.isAlphanum = true ↔
      ((65 ≤ c.val ∧ c.val ≤ 90) ∨ (97 ≤ c.val ∧ c.val ≤ 122)) ∨ (48 ≤ c.val ∧ c.val ≤ 57) := by
  have hdef : c.isAlphanum =
      ((decide (65 ≤ c.val ∧ c.val ≤ 90) || (decide (97 ≤ c.val) && decide (c.val ≤ 122))) ||
        (decide (48 ≤ c.val) && decide (c.val ≤ 57))) := rfl
  simp only [hdef, Bool.or_eq_true, Bool.and_eq_true, decide_eq_true_eq]

theorem plain_of_branchCharacter {c : Char} (h : (isNameCharacter c || c == '/') = true) :
    0x20 ≤ c.toNat ∧ c ≠ '"' ∧ c ≠ '\\' := by
  refine ⟨?_, ?_, ?_⟩
  · -- the least of these characters is the hyphen
    by_contra hlow
    have hval : c.val.toNat < 32 := Nat.lt_of_not_le hlow
    simp only [isNameCharacter, Bool.or_eq_true, isAlphanum_iff, beq_iff_eq,
      UInt32.le_iff_toNat_le] at h
    rcases h with (((((h | h) | h) | h) | h) | h) | h
    · have hfirst : (65 : UInt32).toNat = 65 := rfl
      omega
    · have hfirst : (97 : UInt32).toNat = 97 := rfl
      omega
    · have hfirst : (48 : UInt32).toNat = 48 := rfl
      omega
    all_goals
      rw [h] at hval
      exact absurd hval (by decide)
  · intro heq
    rw [heq] at h
    exact absurd h (by decide)
  · intro heq
    rw [heq] at h
    exact absurd h (by decide)

/-- A lowercase hexadecimal digit is a character of a name. -/
theorem isNameCharacter_of_isLowerHex {value : List Char} (h : isLowerHex value = true) :
    ∀ c ∈ value, isNameCharacter c = true := by
  intro c hc
  have hdigit := List.all_eq_true.mp h c hc
  simp only [Bool.or_eq_true, Bool.and_eq_true, decide_eq_true_eq, Char.le_def] at hdigit
  simp only [isNameCharacter, Bool.or_eq_true, isAlphanum_iff]
  cases hdigit with
  | inl hdigit =>
    simp only [Char.isDigit, Bool.and_eq_true, decide_eq_true_eq] at hdigit
    exact Or.inl (Or.inl (Or.inl (Or.inr hdigit)))
  | inr hletter =>
    have hz : c.val ≤ 122 := UInt32.le_trans hletter.2 (by decide)
    exact Or.inl (Or.inl (Or.inl (Or.inl (Or.inr ⟨hletter.1, hz⟩))))

/-- The size of a name in JSON. -/
theorem stringSize_of_name (h : ∀ c ∈ value.toList, (isNameCharacter c || c == '/') = true) :
    Json.stringSize value = 2 + value.utf8ByteSize :=
  Json.stringSize_of_plain fun c hc => plain_of_branchCharacter (h c hc)

/-- The same for a digest. -/
theorem stringSize_of_isLowerHex (h : isLowerHex value.toList = true) :
    Json.stringSize value = 2 + value.utf8ByteSize :=
  stringSize_of_name fun c hc => by rw [isNameCharacter_of_isLowerHex h c hc, Bool.true_or]

theorem CommitSha.utf8ByteSize_value (commit : CommitSha) : commit.value.utf8ByteSize = 40 := by
  have hvalid := commit.valid
  simp only [isCommitSha, Bool.and_eq_true, beq_iff_eq] at hvalid
  exact hvalid.1

theorem CommitSha.stringSize_value (commit : CommitSha) : Json.stringSize commit.value = 42 := by
  have hvalid := commit.valid
  simp only [isCommitSha, Bool.and_eq_true, beq_iff_eq] at hvalid
  rw [stringSize_of_isLowerHex hvalid.2, hvalid.1]

/-- The length and the characters of a branch. -/
theorem BranchName.bounds (branch : BranchName) :
    branch.value.utf8ByteSize ≤ 244 ∧
      ∀ c ∈ branch.value.toList, (isNameCharacter c || c == '/') = true := by
  have hvalid := branch.valid
  simp only [validateBranchName, check_bind_eq_ok, validateNonemptyLength_eq_ok,
    validateAsciiAllowlist_eq_ok] at hvalid
  exact ⟨hvalid.1.2, hvalid.2.1⟩

/-- The body fits because every one of its texts is short and needs no escape. -/
theorem length_workflowDispatchBody {branch : BranchName} (hoperation : RefSafe operationId)
    (hlength : operationId.utf8ByteSize ≤ 64) (hdigest : isLowerSha256 digest = true) :
    (workflowDispatchBody branch.value operationId digest source dispatch).compactSize ≤
      maxWorkflowDispatchBodyBytes := by
  obtain ⟨hbranch, hcharacters⟩ := branch.bounds
  simp only [isLowerSha256, Bool.and_eq_true, beq_iff_eq] at hdigest
  have hoperationSize : Json.stringSize operationId = 2 + operationId.utf8ByteSize :=
    stringSize_of_name fun c hc => by rw [hoperation.characters c hc, Bool.true_or]
  have hnames : Json.stringSize "ref" = 5 ∧ Json.stringSize "inputs" = 8 ∧
      Json.stringSize "operation_id" = 14 ∧ Json.stringSize "request_sha256" = 16 ∧
      Json.stringSize "source_revision" = 17 ∧ Json.stringSize "dispatch_revision" = 19 := by
    decide +kernel
  rw [workflowDispatchBody]
  simp only [Json.compactSize, Json.membersSize, Json.membersTailSize, hoperationSize,
    stringSize_of_name hcharacters, stringSize_of_isLowerHex hdigest.2, hdigest.1,
    CommitSha.stringSize_value, hnames, maxWorkflowDispatchBodyBytes]
  omega

/-- The name of the run fits an operation of 64 bytes. -/
theorem runName_fits (hlength : operationId.utf8ByteSize ≤ 64)
    (hdigest : isLowerSha256 digest = true) :
    (workflowDispatchRunNamePrefix ++ operationId ++ "|" ++ digest ++ "|" ++ source.value ++ "|" ++
      dispatch.value).utf8ByteSize ≤ maxWorkflowDispatchRunNameBytes := by
  simp only [isLowerSha256, Bool.and_eq_true, beq_iff_eq] at hdigest
  have hfront : workflowDispatchRunNamePrefix.utf8ByteSize = 13 := by decide
  have hbar : "|".utf8ByteSize = 1 := by decide
  simp only [String.utf8ByteSize_append, hfront, hbar, hdigest.1, CommitSha.utf8ByteSize_value,
    maxWorkflowDispatchRunNameBytes]
  omega

/-! ## The dispatch request -/

/-- The ref of a submission ends with its operation. -/
theorem refNamesOperation_of_formTemporaryRef {config : GithubProviderConfig}
    {request : IosDeviceBuildRequest} {temporaryRef : TemporaryGitRef}
    (hsafe : RefSafe request.operationId)
    (h : formTemporaryRef config request = .ok temporaryRef) :
    refNamesOperation temporaryRef request.operationId = true := by
  rw [formTemporaryRef, bind_eq_ok] at h
  obtain ⟨branch, hbranch, href⟩ := h
  have hvalue : branch.value = config.workflow.temporaryBranchNamespace.value ++ "/" ++
      request.operationId := by
    rw [mapError_eq_ok, BranchName.new] at hbranch
    split at hbranch
    · exact Except.ok.inj hbranch ▸ rfl
    · cases hbranch
  have hsame : temporaryRef.branch = branch := by
    rw [mapError_eq_ok, TemporaryGitRef.new] at href
    split at href
    · exact Except.ok.inj href ▸ rfl
    · cases href
  have hslash : '/' ∉ request.operationId.toList := by
    intro hmem
    exact absurd (hsafe.characters _ hmem) (by decide)
  have hlist : branch.value.toList = config.workflow.temporaryBranchNamespace.value.toList ++
      '/' :: request.operationId.toList := by
    rw [hvalue, String.toList_append, String.toList_append, List.append_assoc]
    rfl
  rw [refNamesOperation, hsame, hlist, Text.rsplitOnce_append hslash]
  exact beq_self_eq_true _

/-- With a ref that names the operation, only the rule for operations is left. -/
theorem new_eq_ok_iff {sha256 : List UInt8 → String} {repository : Repository}
    {workflow : WorkflowRegistration} {temporaryRef : TemporaryGitRef}
    (hrepository : workflow.repository = repository)
    (href : refNamesOperation temporaryRef operationId = true)
    (hdigest : isLowerSha256 digest = true) :
    (∃ request, WorkflowDispatchRequest.new sha256 repository workflow temporaryRef operationId
      digest source dispatch = .ok request) ↔
      RefSafe operationId ∧ operationId.utf8ByteSize ≤ 64 := by
  rw [← validateWorkflowDispatchOperation_iff]
  constructor
  · intro h
    obtain ⟨request, hnew⟩ := h
    rw [WorkflowDispatchRequest.new, check_bind_eq_ok, check_bind_eq_ok] at hnew
    exact hnew.2.1
  · intro h
    obtain ⟨hsafe, hlength⟩ := validateWorkflowDispatchOperation_iff.mp h
    have hname : canonicalWorkflowDispatchRunName operationId digest source dispatch =
        .ok (workflowDispatchRunNamePrefix ++ operationId ++ "|" ++ digest ++ "|" ++
          source.value ++ "|" ++ dispatch.value) := by
      simp only [canonicalWorkflowDispatchRunName, check_bind_eq_ok, validateLowerSha256,
        rejectIf_eq_ok, decide_eq_false_iff_not, not_lt, gt_iff_lt]
      exact ⟨h, by rw [hdigest]; rfl, runName_fits hlength hdigest, rfl⟩
    have hbody : rejectIf (decide (maxWorkflowDispatchBodyBytes < (Text.utf8 (String.ofList
        (workflowDispatchBody temporaryRef.branch.value operationId digest source
          dispatch).print)).length))
        (TransportConfigError.tooLong "workflow dispatch body" maxWorkflowDispatchBodyBytes) =
          .ok () := by
      rw [rejectIf_eq_ok, decide_eq_false_iff_not, not_lt, Text.length_utf8, Json.utf8ByteSize_ofList,
        Json.textSize_print]
      exact length_workflowDispatchBody hsafe hlength hdigest
    simp only [WorkflowDispatchRequest.new, hrepository, h, href, hdigest, hname,
      validateLowerSha256, gt_iff_lt, hbody]
    exact ⟨_, by rw [bne_self_eq_false]; rfl⟩

/-- An accepted submission can be dispatched exactly when its operation has at most 64 bytes. -/
theorem submission_dispatchable_iff {tools : SubmissionTools} {config : GithubProviderConfig}
    {durable : Bool} {request : IosDeviceBuildRequest} {prepared : PreparedSubmission}
    {registration : WorkflowRegistration} {digest : String}
    (hsha256 : ∀ bytes, isLowerSha256 (tools.request.inspection.sha256 bytes) = true)
    (h : prepareSubmission tools config durable request = .ok prepared)
    (hdigest : canonicalRequestSha256 tools.request request = .ok digest)
    (hregistration : registration.repository = config.repository) (dispatch : CommitSha) :
    (∃ dispatched, WorkflowDispatchRequest.new tools.request.inspection.sha256 config.repository
      registration prepared.temporaryRef request.operationId digest prepared.sourceRevision
        dispatch = .ok dispatched) ↔
      request.operationId.utf8ByteSize ≤ 64 := by
  rw [prepareSubmission, check_bind_eq_ok, check_bind_eq_ok, bind_eq_ok] at h
  obtain ⟨hvalid, -, temporaryRef, href, hsource⟩ := h
  rw [bind_eq_ok] at hsource
  obtain ⟨source, -, hprepared⟩ := hsource
  have hrefEq : prepared.temporaryRef = temporaryRef := Except.ok.inj hprepared ▸ rfl
  -- the last check of the submission is the one of the ref
  have hsegment : validateRefSegment request.operationId = true := by
    simp only [validateSubmission, validateProviderRequest, check_bind_eq_ok, rejectIf_eq_ok,
      Bool.not_eq_false'] at hvalid
    exact hvalid.1.2.2.2.2
  obtain ⟨hsafe, -⟩ := refSafe_of_validateRefSegment hsegment
  have hlower : isLowerSha256 digest = true := by
    rw [canonicalRequestSha256, bind_eq_ok] at hdigest
    obtain ⟨bytes, -, hbytes⟩ := hdigest
    exact Except.ok.inj hbytes ▸ hsha256 bytes
  have hnames := refNamesOperation_of_formTemporaryRef hsafe href
  rw [hrefEq, new_eq_ok_iff hregistration hnames hlower]
  exact and_iff_right hsafe

end

/-! ## Two submissions -/

namespace SubmissionSample

/-- The digests of the texts that the first sample hashes: of the manifest, of the body of the
    dispatch, and of the request. -/
def sha256 (bytes : List UInt8) : String :=
  if bytes = Remote.Sample.manifestBytes then Remote.Sample.manifest.sha256
  else if bytes.length = 284 then
    "ed73459273bc6c30f5bedb8db51a82484e5c7e451837878178d7796879ef2d17"
  else "1eff22975d8201c1287d2c12786ff3a697571bab21b315e6a9738b1292525029"

def tools : SubmissionTools where
  request := { Remote.Sample.tools with
    inspection := { Remote.Sample.tools.inspection with sha256 := sha256 } }
  targetGraphSha256 := fun _ => ""

theorem isLowerSha256_sha256 (bytes : List UInt8) :
    isLowerSha256 (tools.request.inspection.sha256 bytes) = true := by
  show isLowerSha256 (sha256 bytes) = true
  unfold sha256
  split_ifs
  all_goals exact isLowerSha256_ofList rfl (by decide)

def repository : Repository := ⟨"example", "builds", by decide, by decide⟩

/-- A configuration without signing secrets of its own. -/
def config : GithubProviderConfig where
  repository := repository
  sourceRepository := "https://github.com/example/app"
  workflow := {
    runTrigger := .workflowDispatch
    temporaryBranchNamespace := ⟨"rustferry/jobs", by decide⟩
    secretNames := ⟨"P12", "PASSWORD", [(none, "PROFILE")], none, none⟩ }
  mutationAuthorization := ⟨⟨false, false, true, false⟩, true⟩

def registration : WorkflowRegistration := ⟨repository, 7, ".github/workflows/rustferry.yml"⟩

def sourceRevision : CommitSha := ⟨"0123456789abcdef0123456789abcdef01234567", .refl true⟩

def dispatchRevision : CommitSha := ⟨"89abcdef0123456789abcdef0123456789abcdef", by decide⟩

/-- A request to build a commit of the configured repository. -/
def request : IosDeviceBuildRequest := { Remote.Sample.request with sourceMode := .git }

/-- The same request with an operation of 65 bytes. -/
def longRequest : IosDeviceBuildRequest :=
  { request with
    operationId := "operation-1-of-the-nightly-build-of-example-app-for-every-iphone1" }

theorem sha256_manifestBytes :
    sha256 Remote.Sample.manifestBytes = Remote.Sample.manifest.sha256 := if_pos rfl

theorem validate_request : request.validate tools.request = .ok () :=
  validate_eq_ok.mpr { validate_eq_ok.mp Remote.Sample.validate_request with
    source := Remote.Sample.validateSourceManifest_manifest rfl sha256_manifestBytes
    sourceMode := rfl }

theorem validate_longRequest : longRequest.validate tools.request = .ok () :=
  validate_eq_ok.mpr { validate_eq_ok.mp validate_request with operation := by decide +kernel }

/-- The checks of the provider pass for a valid request whose operation is safe in a ref. -/
theorem prepareSubmission_of_valid {build : IosDeviceBuildRequest}
    (hvalid : build.validate tools.request = .ok ())
    (hsame : { build with operationId := request.operationId } = request)
    (hsegment : validateRefSegment build.operationId = true)
    {temporaryRef : TemporaryGitRef} (href : formTemporaryRef config build = .ok temporaryRef) :
    prepareSubmission tools config true build = .ok ⟨temporaryRef, sourceRevision⟩ := by
  have hsigning : build.signing = request.signing := congrArg (·.signing) hsame
  have hmode : build.sourceMode = .git := congrArg (·.sourceMode) hsame
  have hrepository : build.sourceRepository = some config.sourceRepository :=
    congrArg (·.sourceRepository) hsame
  have hrevision : build.sourceRevision = some sourceRevision.value :=
    congrArg (·.sourceRevision) hsame
  have hartifacts : build.requestedArtifacts = {.xcarchive} :=
    congrArg (·.requestedArtifacts) hsame
  have hunsigned : request.signing.mode = .unsignedCompileOnly := rfl
  have hsource : submissionSourceRevision build = .ok sourceRevision := by
    rw [submissionSourceRevision, hrevision]
    rfl
  simp [prepareSubmission, validateSubmission, validateProviderRequest, validateSourceAndSigning,
    validateExactArtifactRequest, bind_eq_ok, hvalid, hsigning, hunsigned, hmode,
    hrepository, hrevision, hartifacts, hsegment, href, hsource]

def temporaryRef : TemporaryGitRef := ⟨⟨"rustferry/jobs/operation-1", by decide⟩⟩

theorem prepareSubmission_request :
    prepareSubmission tools config true request = .ok ⟨temporaryRef, sourceRevision⟩ :=
  prepareSubmission_of_valid validate_request rfl (by decide) (by decide)

theorem canonicalRequestSha256_request :
    canonicalRequestSha256 tools.request request = .ok (sha256 (toVec request)) := by
  rw [canonicalRequestSha256, canonicalRequestBytes, validate_request]
  rfl

theorem submission_dispatchable_short :
    ∃ dispatched, WorkflowDispatchRequest.new sha256 repository registration temporaryRef
      "operation-1" (sha256 (toVec request)) sourceRevision dispatchRevision = .ok dispatched :=
  (submission_dispatchable_iff isLowerSha256_sha256 prepareSubmission_request
    canonicalRequestSha256_request rfl dispatchRevision).mpr (by decide)

def longRef : TemporaryGitRef :=
  ⟨⟨"rustferry/jobs/operation-1-of-the-nightly-build-of-example-app-for-every-iphone1", by decide⟩⟩

/-- A submission with an operation of 65 bytes is accepted and has no dispatch request. -/
theorem long_submission_not_dispatchable :
    config.workflow.runTrigger = .workflowDispatch ∧
      prepareSubmission tools config true longRequest = .ok ⟨longRef, sourceRevision⟩ ∧
      canonicalRequestSha256 tools.request longRequest = .ok (sha256 (toVec longRequest)) ∧
      WorkflowDispatchRequest.new sha256 config.repository registration longRef
        longRequest.operationId (sha256 (toVec longRequest)) sourceRevision dispatchRevision =
          .error (.tooLong "workflow dispatch operation" 64) := by
  refine ⟨rfl, prepareSubmission_of_valid validate_longRequest rfl (by decide +kernel)
    (by decide +kernel), ?_, ?_⟩
  · rw [canonicalRequestSha256, canonicalRequestBytes, validate_longRequest]
    rfl
  · have hoperation : validateWorkflowDispatchOperation longRequest.operationId =
        .error (.tooLong "workflow dispatch operation" 64) := by decide
    have hrepository : (config.repository != registration.repository) = false := by decide
    rw [WorkflowDispatchRequest.new, hrepository, hoperation]
    rfl

end SubmissionSample

end RustFerry.Github
