/-!
# Locations on the disk

A location is the text that names a file or directory of the machine: `/` stands for the root and
separates names, `.` stays where it is and `..` goes up.  A location keeps its spelling, since
messages show it as it was given; only its components are compared.
-/

namespace PageRoutes.Location

/-- What stands between the slashes of a location, empty pieces included. -/
def pieces (location : String) : List String :=
  (location.toList.splitOn '/').map String.ofList

/-- Whether a location starts at the root of the disk. -/
def isAbsolute (location : String) : Bool :=
  location.toList.head? == some '/'

/-- The components of a location: `/` when it starts at the root, `.` when it starts with one, and
the names.  Repeated slashes, a slash at the end and every other `.` leave no component. -/
def components (location : String) : List String :=
  let names := (pieces location).filter fun piece => piece != "" && piece != "."
  if isAbsolute location then "/" :: names
  else if (pieces location).head? == some "." then "." :: names
  else names

/-- The path from `root` to `location`; `none` when the location does not lie below the root. -/
def relativeTo? (root location : String) : Option String :=
  if (components root).isPrefixOf (components location) then
    some ("/".intercalate ((components location).drop (components root).length))
  else none

/-- One name of a location read from left to right; `..` at the root stays there. -/
def step (names : List String) (piece : String) : List String :=
  if piece = "" ∨ piece = "." then names
  else if piece = ".." then names.dropLast
  else names ++ [piece]

/-- The names on the way from the root to an absolute location, with `.` and `..` resolved by
their spelling alone. -/
def names (location : String) : List String :=
  (pieces location).foldl step []

/-- The absolute location with the given names. -/
def ofNames (names : List String) : String :=
  "/" ++ "/".intercalate names

/-- A location as seen from `base`: the location itself if it is absolute. -/
def join (base location : String) : String :=
  if isAbsolute location then location
  else if base = "" then location
  else if base.toList.getLast? == some '/' then base ++ location
  else base ++ "/" ++ location

/-- The absolute location without `.`, `..` and repeated slashes. -/
def absolute (base location : String) : String :=
  ofNames (names (join base location))

end PageRoutes.Location
