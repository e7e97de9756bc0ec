import SmbExchange.Bytes.Basic
import SmbExchange.Storage.Path

/-!
# Files and directories

A storage says what stands at each place.  The root and the working directory are always there.
Reading and writing whole files is all that is done with it, and every way in which that can fail
is a cause of its own.
-/

namespace SmbExchange

/-- Why a file cannot be used. -/
inductive StorageFault where
  | missing
  /-- What stands on the way is a file. -/
  | notDirectory
  | isDirectory
  /-- A component or the path is too long. -/
  | nameTooLong
  /-- No path holds a zero character. -/
  | zeroInPath
  | notText
  deriving DecidableEq, Repr

def StorageFault.message : StorageFault → String
  | missing => "No such file or directory (os error 2)"
  | notDirectory => "Not a directory (os error 20)"
  | isDirectory => "Is a directory (os error 21)"
  | nameTooLong => "File name too long (os error 36)"
  | zeroInPath => "file name contained an unexpected NUL byte"
  | notText => "stream did not contain valid UTF-8"

inductive StorageEntry where
  | directory
  | file (content : Bytes)
  deriving DecidableEq, Repr

def StorageEntry.text : StorageEntry → Except StorageFault String
  | .directory => .error .isDirectory
  | .file content =>
    match String.fromUTF8? ⟨content.toArray⟩ with
    | some text => .ok text
    | none => .error .notText

structure Storage where
  /-- What stands at which place; the first entry for a place counts. -/
  entries : List (Place × StorageEntry)
  deriving DecidableEq, Repr

namespace Storage

def ofDirectories (paths : List String) : Storage :=
  ⟨paths.map fun path => (Place.ofPath path, .directory)⟩

def find? (storage : Storage) (place : Place) : Option StorageEntry :=
  if place.names.isEmpty then some .directory else storage.entries.lookup place

def put (storage : Storage) (place : Place) (content : Bytes) : Storage :=
  ⟨(place, .file content) :: storage.entries⟩

/-- Where a component leads from a place, which has to be a directory. -/
def enter (storage : Storage) (place : Place) (component : List Char) :
    Except StorageFault Place :=
  match storage.find? place with
  | some .directory =>
    if Path.longestName < (String.ofList component).utf8ByteSize then .error .nameTooLong
    else .ok (place.follow component)
  | some (.file _) => .error .notDirectory
  | none => .error .missing

/-- The place of a path, and what stands there.  All that the path passes through has to be there. -/
def resolve (storage : Storage) (path : String) :
    Except StorageFault (Place × Option StorageEntry) :=
  if path.toList.contains '\x00' then .error .zeroInPath
  else if path.isEmpty then .error .missing
  else if Path.longestPath < path.utf8ByteSize then .error .nameTooLong
  else
    ((Path.components path).foldlM storage.enter (Place.origin path)).map fun place =>
      (place, storage.find? place)

def has (storage : Storage) (path : String) : Bool :=
  match storage.resolve path with
  | .ok (_, some .directory) => true
  | .ok (_, some (.file _)) => !Path.endsInSlash path
  | _ => false

def openEntry (storage : Storage) (path : String) : Except StorageFault StorageEntry := do
  match ← storage.resolve path with
  | (_, none) => .error .missing
  | (_, some .directory) => .ok .directory
  | (_, some (.file content)) =>
    if Path.endsInSlash path then .error .notDirectory else .ok (.file content)

def text? (storage : Storage) (path : String) : Option String :=
  ((storage.openEntry path).bind StorageEntry.text).toOption

/-- The place of a file that is to be written, and what it holds now. -/
def openToWrite (storage : Storage) (path : String) : Except StorageFault (Place × Bytes) := do
  match ← storage.resolve path with
  | (_, some .directory) => .error .isDirectory
  | (place, some (.file content)) =>
    if Path.endsInSlash path then .error .notDirectory else .ok (place, content)
  | (place, none) => if Path.endsInSlash path then .error .isDirectory else .ok (place, [])

/-- Writes a text over a file, and makes the file if there is none. -/
def write (storage : Storage) (path text : String) : Except StorageFault Storage :=
  (storage.openToWrite path).map fun opened => storage.put opened.1 text.toUTF8.toList

/-- Writes a text behind what a file holds, and makes the file if there is none. -/
def append (storage : Storage) (path text : String) : Except StorageFault Storage :=
  (storage.openToWrite path).map fun opened =>
    storage.put opened.1 (opened.2 ++ text.toUTF8.toList)

end Storage

end SmbExchange
