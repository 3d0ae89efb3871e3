import RustFerry.Native.SnapshotSession

/-!
# Messages of a snapshot session

What is known of a message that its constructor returned, or that a check accepted.
-/

namespace RustFerry.Snapshot

open Remote

variable {rules : SessionRules}

theorem operationId_of_reconstructRequest {start : SnapshotBuildStart}
    {descriptor : SourceBundleDescriptor} {request : IosDeviceBuildRequest}
    (h : (start.reconstructRequest rules descriptor).toOption = some request) :
    request.operationId = start.parameters.operationId := by
  obtain ⟨-, -, hr⟩ := Except.bind_eq_ok.mp (Except.eq_ok_of_toOption h)
  obtain ⟨-, -, hr⟩ := Except.bind_eq_ok.mp hr
  obtain ⟨-, -, hr⟩ := Except.bind_eq_ok.mp hr
  obtain ⟨-, -, hr⟩ := Except.bind_eq_ok.mp hr
  obtain ⟨-, -, hr⟩ := Except.bind_eq_ok.mp hr
  obtain ⟨-, -, hr⟩ := Except.bind_eq_ok.mp hr
  cases hr
  rfl

theorem accepted_of_new {operationId jobId : String} {now : UInt64}
    {accepted : SnapshotJobAccepted}
    (h : (SnapshotJobAccepted.new operationId jobId now).toOption = some accepted) :
    accepted.operationId = operationId ∧ accepted.jobId = jobId := by
  obtain ⟨-, -, hn⟩ := Except.bind_eq_ok.mp (Except.eq_ok_of_toOption h)
  cases hn
  exact ⟨rfl, rfl⟩

theorem error_of_new {operationId jobId : Option String} {code text : String} {retryable : Bool}
    {cleanup : Option CleanupConfirmation} {error : SnapshotSessionError}
    (h : (SnapshotSessionError.new operationId jobId code text retryable cleanup).toOption =
      some error) :
    error.validate = .ok () ∧ error.protocolVersion = currentProtocolVersion ∧
      error.operationId = operationId ∧ error.jobId = jobId ∧ error.cleanup = cleanup := by
  obtain ⟨⟨⟩, hvalid, hn⟩ := Except.bind_eq_ok.mp (Except.eq_ok_of_toOption h)
  cases hn
  exact ⟨hvalid, rfl, rfl, rfl, rfl⟩

theorem validateFor_of_new {artifact : SnapshotArtifactDescriptor} {path : ProtocolPath}
    {receipt : SnapshotArtifactReceipt}
    (h : SnapshotArtifactReceipt.new rules artifact path = .ok receipt) :
    receipt.validateFor rules artifact = .ok () := by
  unfold SnapshotArtifactReceipt.new at h
  obtain ⟨-, -, h⟩ := Except.bind_eq_ok.mp h
  obtain ⟨⟨⟩, hvalid, h⟩ := Except.bind_eq_ok.mp h
  cases h
  exact hvalid

/-- A receipt that is valid for a descriptor names the same artifact. -/
theorem receipt_eq_of_validateFor {receipt : SnapshotArtifactReceipt}
    {descriptor : SnapshotArtifactDescriptor} (h : receipt.validateFor rules descriptor = .ok ()) :
    receipt.operationId = descriptor.operationId ∧ receipt.jobId = descriptor.jobId ∧
      receipt.artifactId = descriptor.artifact.artifactId ∧
      receipt.size = descriptor.artifact.size ∧ receipt.sha256 = descriptor.artifact.sha256 := by
  unfold SnapshotArtifactReceipt.validateFor at h
  obtain ⟨-, -, h⟩ := Except.bind_eq_ok.mp h
  obtain ⟨-, -, h⟩ := Except.bind_eq_ok.mp h
  obtain ⟨-, -, h⟩ := Except.bind_eq_ok.mp h
  obtain ⟨-, -, h⟩ := Except.bind_eq_ok.mp h
  obtain ⟨-, -, h⟩ := Except.bind_eq_ok.mp h
  obtain ⟨-, -, h⟩ := Except.bind_eq_ok.mp h
  obtain ⟨-, -, h⟩ := Except.bind_eq_ok.mp h
  obtain ⟨-, -, h⟩ := Except.bind_eq_ok.mp h
  obtain ⟨-, -, h⟩ := Except.bind_eq_ok.mp h
  rw [Except.rejectIf_eq_ok] at h
  simp only [Bool.or_eq_false_iff, bne_eq_false_iff_eq] at h
  obtain ⟨⟨⟨⟨⟨-, hoperation⟩, hjob⟩, hartifact⟩, hsize⟩, hsha256⟩ := h
  exact ⟨hoperation, hjob, hartifact, hsize, hsha256⟩

/-- A negotiated version is the current one: there is no older minor version. -/
theorem negotiate_current {version negotiated : ProtocolVersion}
    (h : currentProtocolVersion.negotiate version = .ok negotiated) :
    negotiated = currentProtocolVersion := by
  unfold ProtocolVersion.negotiate at h
  split at h
  · cases h
    have hminor : min currentProtocolVersion.minor version.minor = currentProtocolVersion.minor :=
      if_pos UInt16.zero_le
    rw [hminor]
  · cases h

end RustFerry.Snapshot
