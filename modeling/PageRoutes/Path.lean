import PageRoutes.Text.Replace

/-!
# Paths below the page root

Pages and guards are named by their paths relative to the page root.  A path may be spelled with
slashes or backslashes, with repeated separators and with `.` parts; the normal form has single
slashes between its parts and none of the rest.
-/

namespace PageRoutes.Path

/-- What stands between the separators of a path, without empty parts and `.` parts. -/
def parts (path : String) : List String :=
  (((path.toList.map fun c => if c = '\\' then '/' else c).splitOn '/').map String.ofList).filter
    fun part => part != "" && part != "."

/-- The path with the given parts. -/
def ofParts (parts : List String) : String :=
  "/".intercalate parts

/-- The normal form of a path. -/
def normalize (path : String) : String :=
  ofParts (parts path)

/-- The directory of a file in normal form; `""` for a file directly below the page root. -/
def parent (file : String) : String :=
  ofParts (parts file).dropLast

/-- How the routing module names a source file: from its own directory and without `.ts`. -/
def importSpecifier (file : String) : String :=
  "./" ++ Text.dropEnding ".ts" (normalize file)

end PageRoutes.Path
