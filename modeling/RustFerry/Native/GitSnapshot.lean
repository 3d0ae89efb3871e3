import RustFerry.Native.RequestCodec

/-!
# Git snapshots

The descriptor of an operation-scoped Git snapshot (`crates/rustferry-remote/src/source.rs`).
The commit that holds it cannot be known when it is written, so it carries the digest of the
request without its source revision.
-/

namespace RustFerry.Remote

open Except Source

/-- Maximum complete payload of one dirty-source snapshot commit. -/
def maxGitSnapshotBytes : UInt64 := 90 * 1024 * 1024

def gitSnapshotDescriptorSchemaVersion : UInt32 := 1

/-- Private custom namespace for operation-scoped source snapshot commits. -/
def gitSnapshotRefPrefix : String := "refs/rustferry/goal3/snapshots"

/-- Strict source and ZIP limits for dirty-source snapshots. -/
def gitSnapshotArchiveLimits : SourceArchiveLimits :=
  { SourceArchiveLimits.default with
    source := { SourceLimits.default with maxTotalSize := maxGitSnapshotBytes }
    maxArchiveSize := maxGitSnapshotBytes }

/-- One segment of a Git ref. -/
def isSafeRefSegment (operationId : String) : Bool :=
  let text := operationId.toList
  operationId != "" && operationId.utf8ByteSize ≤ 128 && text.head? != some '.' &&
    text.getLast? != some '.' &&
    !Text.eqIgnoreAsciiCase (text.drop (text.length - 5)) ".lock".toList &&
    !hasDotSequence text &&
    text.all fun c => c.isAlphanum || c == '-' || c == '_' || c == '.'

/-- Derive the only allowed Git snapshot ref for an operation. -/
def gitSnapshotRef (operationId : String) : SourceResult String := do
  rejectIf (!isSafeRefSegment operationId)
    (.invalidGitSnapshot "operation identifier is not one safe Git-ref segment")
  return gitSnapshotRefPrefix ++ "/" ++ operationId

/-- Strict binding for one operation-scoped dirty-source snapshot. -/
structure GitSnapshotDescriptor where
  schemaVersion : UInt32
  operationId : String
  sourceRepository : String
  snapshotRef : String
  requestTemplateSha256 : String
  bundle : Snapshot.SourceBundleDescriptor

/-- Validate a standalone descriptor against strict Git snapshot bounds. -/
def GitSnapshotDescriptor.validate (tools : RequestTools) (self : GitSnapshotDescriptor)
    (limits : SourceArchiveLimits) : SourceResult Unit := do
  rejectIf (self.schemaVersion != gitSnapshotDescriptorSchemaVersion)
    (.invalidGitSnapshot "unsupported Git snapshot descriptor schema version")
  let expectedRef ← gitSnapshotRef self.operationId
  rejectIf (self.snapshotRef != expectedRef)
    (.invalidGitSnapshot "snapshot ref is not derived from the operation identifier")
  (validateGithubRepository tools self.sourceRepository).mapError
    fun _ => .invalidGitSnapshot "source repository is not canonical"
  rejectIf (!Source.isLowercaseSha256 self.requestTemplateSha256)
    (.invalidGitSnapshot "request template SHA-256 is invalid")
  validateDescriptor tools.source self.bundle limits
  rejectIf (self.bundle.archive.size > maxGitSnapshotBytes ||
      self.bundle.manifest.totalSize > maxGitSnapshotBytes)
    (.limitExceeded .gitSnapshotSize none maxGitSnapshotBytes.toNat
      (max self.bundle.archive.size.toNat self.bundle.manifest.totalSize.toNat))

/-- Construct a descriptor from a pre-publication or final Git snapshot request. -/
def GitSnapshotDescriptor.fromRequest (tools : RequestTools) (request : IosDeviceBuildRequest)
    (bundle : Snapshot.SourceBundleDescriptor) : SourceResult GitSnapshotDescriptor := do
  rejectIf (request.sourceMode != .gitSnapshot)
    (.invalidGitSnapshot "descriptor requires Git snapshot source mode")
  rejectIf (bundle.manifest != request.source)
    (.invalidGitSnapshot "descriptor manifest does not match request source")
  match request.sourceRepository with
  | none => .error (.invalidGitSnapshot "request has no source repository")
  | some sourceRepository => do
    let snapshotRef ← gitSnapshotRef request.operationId
    let requestTemplateSha256 ← (canonicalGitSnapshotRequestTemplateSha256 tools request).mapError
      fun _ => .invalidGitSnapshot "request template is invalid"
    let descriptor : GitSnapshotDescriptor := {
      schemaVersion := gitSnapshotDescriptorSchemaVersion
      operationId := request.operationId
      sourceRepository
      snapshotRef
      requestTemplateSha256
      bundle }
    descriptor.validate tools gitSnapshotArchiveLimits
    return descriptor

/-- Require exact binding to the final published request. -/
def GitSnapshotDescriptor.validateForRequest (tools : RequestTools)
    (self : GitSnapshotDescriptor) (request : IosDeviceBuildRequest)
    (limits : SourceArchiveLimits) : SourceResult Unit := do
  (request.validate tools).mapError fun _ => .invalidGitSnapshot "final request is invalid"
  self.validate tools limits
  rejectIf (request.sourceMode != .gitSnapshot || request.operationId != self.operationId ||
      request.sourceRepository != some self.sourceRepository ||
      request.source != self.bundle.manifest)
    (.invalidGitSnapshot "descriptor does not match the final request")
  let templateSha256 ← (canonicalGitSnapshotRequestTemplateSha256 tools request).mapError
    fun _ => .invalidGitSnapshot "final request template is invalid"
  rejectIf (templateSha256 != self.requestTemplateSha256)
    (.invalidGitSnapshot "request template SHA-256 does not match the descriptor")

end RustFerry.Remote
