/-
A disk in memory.

Directories and files are kept by their path from the root.  A path is followed part by
part, and a part that says where one already is, or none at all, leads nowhere else.  As
the last part of a path it does say one thing, that the place before it is a directory.
-/
import PoolRewards.Disk.Basic
import Std.Data.ExtTreeMap
import Std.Data.ExtTreeSet

namespace PoolRewards

open Std (ExtTreeMap ExtTreeSet)

/-- Why a disk in memory refuses. -/
inductive DiskFault where
  | notFound
  | exists
  | notDirectory
  | isDirectory
  | nameTooLong
  | badName
  deriving DecidableEq, Repr

/-- The wording of a refusal. -/
def DiskFault.message : DiskFault → String
  | .notFound => "No such file or directory (os error 2)"
  | .exists => "File exists (os error 17)"
  | .notDirectory => "Not a directory (os error 20)"
  | .isDirectory => "Is a directory (os error 21)"
  | .nameTooLong => "File name too long (os error 36)"
  | .badName => "file name contained an unexpected NUL byte"

/-- A disk in memory. -/
structure MemoryDisk where
  /-- Contents by path. -/
  files : ExtTreeMap String (List UInt8)
  /-- Every directory but the root. -/
  directories : ExtTreeSet String
  /-- Where a path starts that does not start at the root. -/
  home : String
  deriving DecidableEq

namespace MemoryDisk

/-- The longest name of a file or a directory, in bytes. -/
def longestName : Nat := 255

/-- The longest path, in bytes. -/
def longestPath : Nat := 4095

/-- Refuse a path that no place can have. -/
def checkPath (path : String) : Except DiskFault Unit :=
  if path.contains '\x00' then .error .badName
  else if longestPath < path.utf8ByteSize then .error .nameTooLong
  else .ok ()

/-- The parts of a path that lead somewhere. -/
def parts (disk : MemoryDisk) (path : String) : List String :=
  let full := if path.startsWith "/" then path else disk.home ++ "/" ++ path
  (full.splitOn "/").filter fun part => part ≠ "" && part ≠ "."

/-- Whether a path can only lead to a directory. -/
def wantsDirectory (path : String) : Bool := ["", ".", ".."].contains (((path.splitOn "/").getLast?).getD "")

/-- Whether a path ends by saying where one already is. -/
def endsInPlace (path : String) : Bool := ((path.splitOn "/").filter (· ≠ "")).getLast? = some "."

/-- The path of a place, which is given by the names on the way to it, the last one first. -/
def key (trail : List String) : String := "/" ++ "/".intercalate trail.reverse

/-- Whether a place is a directory. -/
def isDirectory (disk : MemoryDisk) (trail : List String) : Bool :=
  trail.isEmpty || disk.directories.contains (key trail)

/-- Whether a place is a file. -/
def isFile (disk : MemoryDisk) (trail : List String) : Bool := disk.files.contains (key trail)

/-- Go one part further, into a directory. -/
def enter (disk : MemoryDisk) (trail : List String) (part : String) : Except DiskFault (List String) :=
  if part = ".." then .ok trail.tail
  else if longestName < part.utf8ByteSize then .error .nameTooLong
  else if disk.isDirectory (part :: trail) then .ok (part :: trail)
  else if disk.isFile (part :: trail) then .error .notDirectory
  else .error .notFound

/-- The place of the file that a path leads to, if there may be one. -/
def locate (disk : MemoryDisk) (path : String) : Except DiskFault (List String) := do
  checkPath path
  let parts := disk.parts path
  match parts.getLast?, wantsDirectory path with
  | some name, false =>
    let trail ← parts.dropLast.foldlM disk.enter []
    if longestName < name.utf8ByteSize then .error .nameTooLong
    else if disk.isDirectory (name :: trail) then .error .isDirectory
    else .ok (name :: trail)
  | _, _ =>
    let _ ← parts.foldlM disk.enter []
    .error .isDirectory

/-- Go one part further, making the directory if there is nothing of its name. -/
def enterOrCreate (disk : MemoryDisk) (trail : List String) (part : String) :
    Except DiskFault (MemoryDisk × List String) :=
  match disk.enter trail part with
  | .ok trail => .ok (disk, trail)
  | .error .notFound =>
    .ok ({ disk with directories := disk.directories.insert (key (part :: trail)) }, part :: trail)
  | .error .notDirectory => .error .exists
  | .error fault => .error fault

/-- Go all parts further, making the directories that are missing. -/
def createAlong (disk : MemoryDisk) (trail : List String) : List String → Except DiskFault Unit × MemoryDisk
  | [] => (.ok (), disk)
  | part :: rest =>
    match disk.enterOrCreate trail part with
    | .ok (disk, trail) => createAlong disk trail rest
    | .error fault => (.error fault, disk)

/-- Make a directory and every directory above it that is missing.  A directory in which a
path ends in place must be there. -/
def createDirectories (disk : MemoryDisk) (path : String) : Except DiskFault Unit × MemoryDisk :=
  match checkPath path with
  | .error fault => (.error fault, disk)
  | .ok () =>
    let parts := disk.parts path
    if endsInPlace path then
      let (result, disk) := disk.createAlong [] parts.dropLast
      (result.bind fun _ => (parts.foldlM disk.enter []).map fun _ => (), disk)
    else disk.createAlong [] parts

/-- A disk with nothing on it but one directory, in which paths start. -/
def new (home : String) : MemoryDisk :=
  let empty : MemoryDisk := ⟨∅, ∅, home⟩
  (empty.createAlong [] (empty.parts home)).2

/-- Make the content of a file the given bytes. -/
def write (disk : MemoryDisk) (path : String) (bytes : List UInt8) : Except DiskFault Unit × MemoryDisk :=
  match disk.locate path with
  | .ok trail => (.ok (), { disk with files := disk.files.insert (key trail) bytes })
  | .error fault => (.error fault, disk)

/-- The content of a file. -/
def read (disk : MemoryDisk) (path : String) : Except DiskFault (List UInt8) := do
  let trail ← disk.locate path
  match disk.files[key trail]? with
  | some bytes => .ok bytes
  | none => .error .notFound

/-- A step on a disk, with its refusal in words. -/
def step {α : Type} (action : MemoryDisk → Except DiskFault α × MemoryDisk) :
    StateM MemoryDisk (Except String α) := do
  let (result, disk) := action (← get)
  set disk
  return result.mapError DiskFault.message

/-- What a disk in memory can do. -/
def client : Disk (StateM MemoryDisk) where
  createDirectories path := step (·.createDirectories path)
  write path bytes := step (·.write path bytes)
  read path := step fun disk => (disk.read path, disk)

end MemoryDisk

end PoolRewards
