import Mathlib.Data.List.Lex
import Mathlib.Data.Prod.Lex
import RustFerry.Native.RequestCodec

/-!
# The digest of a signing target graph

`canonical_signing_target_graph_sha256` of `crates/rustferry-remote/src/signing.rs`. SHA-256 is a
parameter; what is hashed is `canonicalTargetGraph`.
-/

namespace RustFerry.Remote

open Artifact

/-- `rustferry.signing-target-graph.sha256.v1` and a zero byte. -/
def signingTargetGraphSha256Domain : List UInt8 :=
  Text.utf8 "rustferry.signing-target-graph.sha256.v1" ++ [0]

/-- `value.as_bytes()`, whose order is that of the numbers. -/
def byteKey (value : String) : List Nat := (Text.utf8 value).map UInt8.toNat

/-- What the targets are sorted by: name, bundle identifier and kind, each by its bytes. -/
def SigningTarget.sortKey (target : SigningTarget) : List Nat ×ₗ (List Nat ×ₗ List Nat) :=
  toLex (byteKey target.name, toLex (byteKey target.bundleIdentifier.value,
    byteKey (signingTargetKindName target.kind)))

def SigningTarget.sortLe (left right : SigningTarget) : Bool :=
  decide (left.sortKey ≤ right.sortKey)

/-- `update_canonical_length`: the decimal length and a colon. -/
def canonicalLength (length : Nat) : List UInt8 := Text.utf8 (toString length) ++ [58]

/-- `update_canonical_field`. -/
def canonicalField (value : String) : List UInt8 :=
  canonicalLength value.utf8ByteSize ++ Text.utf8 value

def canonicalTarget (target : SigningTarget) : List UInt8 :=
  canonicalField (signingTargetKindName target.kind) ++ canonicalField target.name ++
    canonicalField target.bundleIdentifier.value

/-- The bytes that are hashed. -/
def canonicalTargetGraph (targets : List SigningTarget) : List UInt8 :=
  let targets := targets.mergeSort SigningTarget.sortLe
  signingTargetGraphSha256Domain ++ canonicalLength targets.length ++
    targets.flatMap canonicalTarget

def canonicalSigningTargetGraphSha256 (sha256 : List UInt8 → String)
    (targets : List SigningTarget) : String :=
  sha256 (canonicalTargetGraph targets)

end RustFerry.Remote
