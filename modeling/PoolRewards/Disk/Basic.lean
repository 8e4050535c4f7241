/-
A disk: directories, and files that are read and written as a whole.
-/
namespace PoolRewards

/-- What a disk can do.  A refusal is told in the disk's own words. -/
structure Disk (m : Type → Type) where
  /-- Make a directory and every directory above it that is missing. -/
  createDirectories : (path : String) → m (Except String Unit)
  /-- Make the content of a file the given bytes.  Its directory must be there. -/
  write : (path : String) → List UInt8 → m (Except String Unit)
  read : (path : String) → m (Except String (List UInt8))

namespace Disk

/-- The path of a name inside a directory.  A name that starts at the root stays as it is. -/
def join (directory name : String) : String :=
  if name.startsWith "/" || directory.isEmpty then name
  else if directory.endsWith "/" then directory ++ name
  else directory ++ "/" ++ name

end Disk

end PoolRewards
