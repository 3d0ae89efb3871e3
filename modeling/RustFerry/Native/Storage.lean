import RustFerry.ForStd.Directory
import RustFerry.Native.RevisionStore

/-!
# Key and value storage

The two storage backends of applications (`crates/rustferry/src/storage.rs`): the map in memory and
the directory with one checked record in a file for each key. A call yields the new state and its
result; the calls are serialized by the locks of the backends.
-/

namespace RustFerry.Storage

open Except Serde

/-! ## Errors -/

inductive StorageError where
  | invalid (field reason : String)
  | storageIo (action path : String)
  | corruptStorage (key message : String)

abbrev StorageResult := Except StorageError

def validateKey (key : String) : StorageResult Unit := do
  rejectIf (key == "") (.invalid "storage key" "must not be empty")
  rejectIf (key.utf8ByteSize > 512) (.invalid "storage key" "must not exceed 512 bytes")

/-! ## Calls -/

/-- One call of the backend interface. -/
inductive Call where
  | getRaw (key : String)
  | setRaw (key : String) (value : List UInt8)
  | remove (key : String)
  | contains (key : String)
  | clear

/-- What a successful call returns. -/
inductive Answer where
  | value (value : Option (List UInt8))
  | found (found : Bool)
  | done

/-! ## The map in memory -/

namespace InMemoryStorage

abbrev Values := List (String × List UInt8)

def getRaw (values : Values) (key : String) : StorageResult (Option (List UInt8)) := do
  validateKey key
  return values.lookup key

def setRaw (values : Values) (key : String) (value : List UInt8) : Values × StorageResult Unit :=
  match validateKey key with
  | .error failure => (values, .error failure)
  | .ok () => (BTreeMap.insert key value values, .ok ())

def remove (values : Values) (key : String) : Values × StorageResult Unit :=
  match validateKey key with
  | .error failure => (values, .error failure)
  | .ok () => (values.filter fun entry => entry.1 != key, .ok ())

def contains (values : Values) (key : String) : StorageResult Bool := do
  validateKey key
  return (values.lookup key).isSome

def call (values : Values) : Call → Values × StorageResult Answer
  | .getRaw key => (values, Answer.value <$> getRaw values key)
  | .setRaw key value =>
    let (values, result) := setRaw values key value
    (values, (fun _ => Answer.done) <$> result)
  | .remove key =>
    let (values, result) := remove values key
    (values, (fun _ => Answer.done) <$> result)
  | .contains key => (values, Answer.found <$> contains values key)
  | .clear => ([], .ok .done)

end InMemoryStorage

/-! ## Records -/

structure FileRecord where
  formatVersion : UInt32
  checksum : UInt64
  value : List UInt8

def FileRecord.fieldNames : List String := ["format_version", "checksum", "value"]

def FileRecord.fields (record : FileRecord) : List (Option Json) :=
  [some (serialize record.formatVersion), some (serialize record.checksum),
    some (serialize record.value)]

instance : Serialize FileRecord :=
  ⟨fun record => .object (serializeFields FileRecord.fieldNames record.fields)⟩

def FileRecord.ofFields : List (Option Json) → Option FileRecord
  | [formatVersion, checksum, value] => do
    some ⟨← requiredField formatVersion, ← requiredField checksum, ← requiredField value⟩
  | _ => none

instance : Deserialize FileRecord :=
  ⟨fun v => (deserializeStruct FileRecord.fieldNames false v).bind FileRecord.ofFields⟩

/-- FNV-1a with 64 bits. -/
def checksum (bytes : List UInt8) : UInt64 :=
  bytes.foldl (fun hash byte => (hash ^^^ byte.toUInt64) * 0x100000001b3) 0xcbf29ce484222325

/-! ## The directory of records -/

/-- The text of a random identifier. -/
structure Uuid where
  text : String
  size : text.utf8ByteSize = 36

namespace FileStorage

def hexDigits (byte : UInt8) : List Char :=
  [Nat.digitChar (byte.toNat / 16), Nat.digitChar (byte.toNat % 16)]

def extension : String := "rustferry-store"

/-- The file of a key below the root. -/
def fileName (key : String) : String :=
  String.ofList ((Text.utf8 key).flatMap hexDigits ++ '.' :: extension.toList)

def pathForKey (key : String) : StorageResult String := do
  validateKey key
  return fileName key

def temporaryName (uuid : Uuid) : String := "." ++ uuid.text ++ ".tmp"

/-- `io_error`, with a path below the root. -/
def ioError {α : Type} (action root name : String) : StorageResult α :=
  .error (.storageIo action (root ++ "/" ++ name))

def decodeRecord (key : String) (bytes : List UInt8) : StorageResult (List UInt8) :=
  match (JobStore.jsonOfBytes bytes).bind (deserialize : Json → Option FileRecord) with
  | none => .error (.corruptStorage key "record cannot be decoded")
  | some record => do
    rejectIf (record.formatVersion != 1)
      (.corruptStorage key s!"unsupported record format {record.formatVersion}")
    rejectIf (checksum record.value != record.checksum) (.corruptStorage key "checksum mismatch")
    return record.value

def getRaw (root : String) (directory : Directory) (key : String) :
    StorageResult (Option (List UInt8)) := do
  let path ← pathForKey key
  match directory.resolve path with
  | .ok bytes => some <$> decodeRecord key bytes
  | .error .notFound => .ok none
  | .error _ => ioError "read" root path

/-- The record that is written for a value. -/
def recordBytes (value : List UInt8) : List UInt8 :=
  Remote.toVec (FileRecord.mk 1 (checksum value) value)

/-- Write the record to a temporary file that then replaces the file of the key. -/
def replaceRecord (root : String) (directory : Directory) (temporary path : String)
    (bytes : List UInt8) : Directory × StorageResult Unit :=
  match directory.createNew temporary with
  | .error _ => (directory, ioError "create temporary record" root temporary)
  | .ok directory =>
    let written := directory.put temporary bytes
    match written.rename temporary path with
    | .error _ => (written, ioError "replace record" root path)
    | .ok replaced => (replaced, .ok ())

/-- What is left when a file was removed and the outcome of that does not matter. -/
def discard (directory : Directory) (name : String) : Directory :=
  match directory.remove name with
  | .ok directory => directory
  | .error _ => directory

def setRaw (root : String) (directory : Directory) (key : String) (value : List UInt8)
    (uuid : Uuid) : Directory × StorageResult Unit :=
  match pathForKey key with
  | .error failure => (directory, .error failure)
  | .ok path =>
    let temporary := temporaryName uuid
    match replaceRecord root directory temporary path (recordBytes value) with
    | (directory, .ok ()) => (directory, .ok ())
    | (directory, .error failure) => (discard directory temporary, .error failure)

def remove (root : String) (directory : Directory) (key : String) :
    Directory × StorageResult Unit :=
  match pathForKey key with
  | .error failure => (directory, .error failure)
  | .ok path =>
    match directory.remove path with
    | .ok directory => (directory, .ok ())
    | .error .notFound => (directory, .ok ())
    | .error _ => (directory, ioError "remove" root path)

def contains (directory : Directory) (key : String) : StorageResult Bool := do
  let path ← pathForKey key
  return directory.isFile path

/-- `path.extension() == "rustferry-store"`. -/
def hasStoreExtension (name : String) : Bool :=
  match Text.rsplitOnce '.' name.toList with
  | some (front, back) => !front.isEmpty && back == extension.toList
  | none => false

/-- Remove the records among these directory entries. -/
def clearEntries (root : String) : List String → Directory → Directory × StorageResult Unit
  | [], directory => (directory, .ok ())
  | name :: names, directory =>
    if hasStoreExtension name then
      match directory.remove name with
      | .error _ => (directory, ioError "remove" root name)
      | .ok directory => clearEntries root names directory
    else clearEntries root names directory

def clear (root : String) (directory : Directory) : Directory × StorageResult Unit :=
  clearEntries root directory.names directory

/-- One call; the identifier names the temporary file of `setRaw`. -/
def call (root : String) (directory : Directory) (uuid : Uuid) :
    Call → Directory × StorageResult Answer
  | .getRaw key => (directory, Answer.value <$> getRaw root directory key)
  | .setRaw key value =>
    let (directory, result) := setRaw root directory key value uuid
    (directory, (fun _ => Answer.done) <$> result)
  | .remove key =>
    let (directory, result) := remove root directory key
    (directory, (fun _ => Answer.done) <$> result)
  | .contains key => (directory, Answer.found <$> contains directory key)
  | .clear =>
    let (directory, result) := clear root directory
    (directory, (fun _ => Answer.done) <$> result)

end FileStorage

end RustFerry.Storage
