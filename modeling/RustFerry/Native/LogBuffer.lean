import RustFerry.ForStd.ByteScan

/-!
# Retained device logs

`cargo-ferry/src/deployment/logs.rs`: the ring that a log snapshot is collected in, bounded in
entries and in bytes; the oldest entries are evicted first.
-/

namespace RustFerry.Deployment

open ByteScan

/-- The texts of an entry, the message as its UTF-8 bytes. -/
structure LogEntry where
  timestamp : String
  target : String
  message : List UInt8
  deriving DecidableEq

def entrySize (entry : LogEntry) : Nat :=
  entry.timestamp.utf8ByteSize + entry.target.utf8ByteSize + entry.message.length + 32

structure BoundedLogBuffer where
  entries : List LogEntry
  bytes : Nat
  maxEntries : Nat
  maxBytes : Nat

/-- The last character boundary up to an index. -/
def boundaryUpTo (message : List UInt8) : Nat → Nat
  | 0 => 0
  | boundary + 1 =>
    if isCharBoundary message (boundary + 1) then boundary + 1 else boundaryUpTo message boundary

/-- A message over the limit is truncated at a character boundary. -/
def LogEntry.shorten (maxBytes : Nat) (entry : LogEntry) : LogEntry :=
  if maxBytes < entry.message.length then
    { entry with message := entry.message.take (boundaryUpTo entry.message maxBytes) }
  else entry

namespace BoundedLogBuffer

def new (maxEntries maxBytes : Nat) : Except String BoundedLogBuffer :=
  if maxEntries = 0 ∨ maxBytes = 0 then .error "log buffer bounds must be non-zero"
  else .ok ⟨[], 0, maxEntries, maxBytes⟩

/-- The loop of `push`: the front is popped while a limit is exceeded. -/
def evict (maxEntries maxBytes : Nat) : List LogEntry → Nat → List LogEntry × Nat
  | [], bytes => ([], bytes)
  | entry :: entries, bytes =>
    if maxEntries < (entry :: entries).length ∨ maxBytes < bytes then
      evict maxEntries maxBytes entries (bytes - entrySize entry)
    else (entry :: entries, bytes)

def push (self : BoundedLogBuffer) (entry : LogEntry) : BoundedLogBuffer :=
  let entry := entry.shorten self.maxBytes
  let (entries, bytes) :=
    evict self.maxEntries self.maxBytes (self.entries ++ [entry]) (self.bytes + entrySize entry)
  { self with entries, bytes }

/-- The entries of one snapshot, in the order the tool printed them. -/
def pushAll (self : BoundedLogBuffer) (entries : List LogEntry) : BoundedLogBuffer :=
  entries.foldl push self

end BoundedLogBuffer

end RustFerry.Deployment
