import PageRoutes.Location

/-!
# The disk

A disk consists of directories and of files with their bytes, both known by the names on the way
from the root.  Locations are followed name by name: every name but the last must be that of a
directory, also where `..` leaves it again.
-/

namespace PageRoutes

/-- The directories and files of a machine.  The root is a directory and is not listed. -/
structure Disk where
  directories : List (List String)
  files : List (List String × ByteArray)
  /-- Where relative locations start. -/
  workingDirectory : List String

namespace Disk

/-! ## Looking -/

/-- Whether the names lead to a directory. -/
def isDirectory (disk : Disk) (names : List String) : Bool :=
  names.isEmpty || disk.directories.contains names

/-- The bytes of the file to which the names lead. -/
def bytes? (disk : Disk) (names : List String) : Option ByteArray :=
  disk.files.lookup names

/-- Follows the pieces of a location; `none` if a piece would have to lie in something that is no
directory. -/
def follow? (disk : Disk) (names : List String) : List String → Option (List String)
  | [] => some names
  | piece :: rest =>
    if disk.isDirectory names then disk.follow? (Location.step names piece) rest else none

/-- The names from which a location starts. -/
def start (disk : Disk) (location : String) : List String :=
  if Location.isAbsolute location then [] else disk.workingDirectory

/-- The names to which a location leads; the last of them need not exist. -/
def resolve? (disk : Disk) (location : String) : Option (List String) :=
  if location = "" then none
  else disk.follow? (disk.start location) (Location.pieces location)

/-- Whether a location is that of a directory. -/
def hasDirectory (disk : Disk) (location : String) : Bool :=
  (disk.resolve? location).any disk.isDirectory

/-- The bytes of the file at a location. -/
def read? (disk : Disk) (location : String) : Option ByteArray :=
  (disk.resolve? location).bind disk.bytes?

/-- Whether there is anything at a location. -/
def hasEntry (disk : Disk) (location : String) : Bool :=
  disk.hasDirectory location || (disk.read? location).isSome

/-- The text of the file at a location, if its bytes are valid UTF-8. -/
def readText? (disk : Disk) (location : String) : Option String :=
  (disk.read? location).bind String.fromUTF8?

/-- The name under which something lies directly in a directory. -/
def nameIn? (directory names : List String) : Option String :=
  if names.dropLast = directory then names.getLast? else none

/-- The names of everything that lies directly in a directory, in the order of their characters. -/
def entries (disk : Disk) (directory : List String) : List String :=
  ((disk.directories ++ disk.files.map (·.1)).filterMap (nameIn? directory)).eraseDups.mergeSort
    fun a b => a ≤ b

/-- The largest number of names that lead to a file or directory. -/
def height (disk : Disk) : Nat :=
  (((disk.directories ++ disk.files.map (·.1)).map List.length).max?).getD 0

/-! ## Changing -/

/-- The disk with the given bytes in the file to which the names lead. -/
def put (disk : Disk) (names : List String) (bytes : ByteArray) : Disk :=
  { disk with files := (names, bytes) :: disk.files.filter (·.1 != names) }

/-- Writes a file in an existing directory; `none` if that cannot be. -/
def write? (disk : Disk) (location : String) (bytes : ByteArray) : Option Disk := do
  let names ← disk.resolve? location
  if disk.isDirectory names then none else some (disk.put names bytes)

/-- The disk with one more directory. -/
def addDirectory (disk : Disk) (names : List String) : Disk :=
  { disk with directories := names :: disk.directories }

/-- Makes every directory on the way along the pieces of a location, up to a file that is in the
way; the disk then, and whether the way is free. -/
def makeAlong (disk : Disk) (names : List String) : List String → Disk × Bool
  | [] => (disk, true)
  | piece :: rest =>
    let next := Location.step names piece
    if disk.isDirectory next then disk.makeAlong next rest
    else if (disk.bytes? next).isSome then (disk, false)
    else (disk.addDirectory next).makeAlong next rest

/-- Makes the directory at a location and all directories around it, up to a file that is in the
way. -/
def makeWay (disk : Disk) (location : String) : Disk × Bool :=
  disk.makeAlong (disk.start location) (Location.pieces location)

/-- The disk with the directory at a location; `none` if a file is in the way. -/
def makeDirectory? (disk : Disk) (location : String) : Option Disk :=
  if (disk.makeWay location).2 then some (disk.makeWay location).1 else none

/-- Copies a file over another, which is emptied first. -/
def copy? (disk : Disk) (source target : String) : Option Disk := do
  let names ← disk.resolve? source
  let _ ← disk.bytes? names
  let emptied ← disk.write? target ByteArray.empty
  let bytes ← emptied.bytes? names
  emptied.write? target bytes

end Disk

end PageRoutes
