import Testbench.Text.Utf8

/-!
# A directory of files

Everything that the bench reads or writes by name lies in one directory tree.  A tree is a list of
places with what stands there; a place is named by the components of its path.  Walking a path
demands a folder before each component, so a path through a file and a path through nothing fail in
different ways, and the cause of a failure is part of the answer.  Paths may climb above the current
folder or begin at the top of the file system; the folders that they climb through are taken to be
there.

A file that has a place can still fail to be written: it is not opened, or the device behind it is
full.  No tree tells this beforehand, so such a fault is given along with the write.
-/

namespace Testbench

/-- Why a file could not be read or written. -/
inductive FileError where
  /-- Nothing stands there. -/
  | missing
  /-- A component of the path is a file. -/
  | notFolder
  /-- A folder stands where a file is needed. -/
  | isFolder
  /-- The path, or a component of it, is longer than it may be. -/
  | nameTooLong
  /-- The path holds the character with code zero. -/
  | zeroInPath
  /-- The contents are not text. -/
  | notText
  /-- Anything else that the system reports. -/
  | system (report : String)
  deriving DecidableEq, Repr, Inhabited

/-- The text of a file error. -/
def FileError.message : FileError → String
  | .missing => "No such file or directory (os error 2)"
  | .notFolder => "Not a directory (os error 20)"
  | .isFolder => "Is a directory (os error 21)"
  | .nameTooLong => "File name too long (os error 36)"
  | .zeroInPath => "file name contained an unexpected NUL byte"
  | .notText => "stream did not contain valid UTF-8"
  | .system report => report

/-- What can keep a file from being written although it has a place. -/
inductive WriteFault where
  /-- The file is not opened. -/
  | refused (cause : FileError)
  /-- The file is opened and takes so many bytes, and no more. -/
  | full (room : Nat) (cause : FileError)
  deriving DecidableEq, Repr, Inhabited

/-- Does the fault keep so many bytes from being written? -/
def WriteFault.stops (size : Nat) : WriteFault → Bool
  | .refused _ => true
  | .full room _ => room < size

/-- The components that lead to a place from the current folder, or from the top of the file system.
-/
abbrev Place := List String

/-- What stands at a place. -/
inductive Entry where
  | folder
  | file (contents : Array UInt8)
  deriving DecidableEq, Repr, Inhabited

/-- A tree of files, as the list of its places. -/
structure Directory where
  /-- The places with what stands there. -/
  entries : List (Place × Entry)
  deriving DecidableEq, Repr, Inhabited

namespace Directory

/-- The directory with nothing in it. -/
def empty : Directory := ⟨[]⟩

/-- The top of the file system, where absolute paths begin. -/
def top : Place := ["/"]

/-- Is the place the current folder, a folder above it, or the top?  These are always there. -/
def isBase (place : Place) : Bool := place == top || place.all (· == "..")

/-- What stands at a place. -/
def entry? (d : Directory) (place : Place) : Option Entry :=
  if isBase place then some .folder else d.entries.lookup place

/-- The folder that a place lies in. -/
def above (place : Place) : Place :=
  if place == top then place else if isBase place then place ++ [".."] else place.dropLast

/-- Puts something at a place, in the stead of what stood there. -/
def put (d : Directory) (place : Place) (e : Entry) : Directory :=
  if (d.entries.lookup place).isSome then
    ⟨d.entries.map fun old => if old.1 == place then (place, e) else old⟩
  else ⟨d.entries ++ [(place, e)]⟩

/-- Puts folders at every proper beginning of a place where nothing stands yet. -/
def putParents (d : Directory) (place : Place) : Directory :=
  (List.range place.length).foldl (fun d n =>
    if (d.entry? (place.take n)).isNone then d.put (place.take n) .folder else d) d

/-- The components of a path as written. -/
def components (path : String) : List String := path.splitOn "/"

/-- The greatest length of a component in bytes. -/
def nameLimit : Nat := 255

/-- The greatest length of a path in bytes. -/
def pathLimit : Nat := 4095

/-- One component further from a place, which has to be a folder. -/
def enter (d : Directory) (place : Place) (name : String) : Except FileError Place :=
  match d.entry? place with
  | none => .error .missing
  | some (.file _) => .error .notFolder
  | some .folder =>
      if name = "" ∨ name = "." then .ok place
      else if name = ".." then .ok (above place)
      else if nameLimit < name.utf8ByteSize then .error .nameTooLong
      else .ok (place ++ [name])

/-- The place where a path begins.  The path must not be empty or too long. -/
def origin (path : String) : Except FileError Place :=
  if path.contains (Char.ofNat 0) then .error .zeroInPath
  else if path = "" then .error .missing
  else if pathLimit < path.utf8ByteSize then .error .nameTooLong
  else .ok (if path.startsWith "/" then top else [])

/-- The place that a path names. -/
def locate (d : Directory) (path : String) : Except FileError Place := do
  (components path).foldlM d.enter (← origin path)

/-- The contents of the file that a path names. -/
def read (d : Directory) (path : String) : Except FileError (Array UInt8) := do
  match d.entry? (← d.locate path) with
  | none => .error .missing
  | some .folder => .error .isFolder
  | some (.file contents) => .ok contents

/-- The text of the file that a path names. -/
def readText (d : Directory) (path : String) : Except FileError (List Char) := do
  match Text.Utf8.strict? (← d.read path) with
  | some text => .ok text
  | none => .error .notText

/-- The place of the file that a path names for writing; the file need not exist yet.  The folder in
which it lies has to be there, which entering that folder once more makes sure of.  A path that
cannot name a file, because a slash or a dot ends it, is refused before its last name is looked at.
-/
def target (d : Directory) (path : String) : Except FileError Place := do
  let start ← origin path
  match (components path).reverse.dropWhile (· = "") with
  | [] => .error .isFolder
  | name :: before =>
      let folder ← (before.reverse ++ ["."]).foldlM d.enter start
      if path.endsWith "/" ∨ name = "." ∨ name = ".." then .error .isFolder
      else
        let place ← d.enter folder name
        if d.entry? place = some .folder then .error .isFolder else .ok place

/-- Opens a file for appending: an empty file appears if nothing stood there. -/
def openAppend (d : Directory) (path : String) : Except FileError (Place × Directory) := do
  let place ← d.target path
  .ok (place, if (d.entry? place).isNone then d.put place (.file #[]) else d)

/-- Appends to the file at a place. -/
def append (d : Directory) (place : Place) (contents : Array UInt8) : Directory :=
  match d.entry? place with
  | some (.file old) => d.put place (.file (old ++ contents))
  | _ => d

/-- Writes a file anew.  An opened file is emptied first, so that a write which fails after that
leaves as much of the contents as there was room for. -/
def write (d : Directory) (path : String) (contents : Array UInt8)
    (fault : Option WriteFault := none) : Directory × Except FileError Unit :=
  match d.target path, fault with
  | .error cause, _ => (d, .error cause)
  | .ok place, none => (d.put place (.file contents), .ok ())
  | .ok _, some (.refused cause) => (d, .error cause)
  | .ok place, some (.full room cause) =>
      if room < contents.size then
        (d.put place (.file (contents.extract 0 room)), .error cause)
      else (d.put place (.file contents), .ok ())

/-- The files of a later state that were not there before with the same contents. -/
def changes (before after : Directory) : List (Place × Array UInt8) :=
  after.entries.filterMap fun
    | (place, .file contents) =>
        if before.entries.lookup place = some (.file contents) then none else some (place, contents)
    | (_, .folder) => none

/-- A place as a path. -/
def pathOf (place : Place) : String := String.intercalate "/" place

end Directory

end Testbench
