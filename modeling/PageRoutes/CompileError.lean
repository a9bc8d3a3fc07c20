/-!
# Errors of a compilation

Every error ends the compilation; nothing is produced from a faulty input.  Each error carries what
its message shows, and the wording is in one place.
-/

namespace PageRoutes

/-- What is wrong with a page path. -/
inductive PathFault where
  /-- The path has no part that names a file. -/
  | empty
  /-- A directory consists of a marker alone. -/
  | markerWithoutName (directory : String)
deriving Repr, DecidableEq

/-- Why a compilation cannot go on. -/
inductive CompileError where
  /-- Two pages need components of one name. -/
  | duplicateIdentifier (identifier first second : String)
  /-- A page path has no segments to be read. -/
  | invalidPagePath (path : String) (fault : PathFault)
  /-- A guard file exports no class. -/
  | missingGuardExport (path : String)
  /-- A guard file exports more than one class. -/
  | ambiguousGuardExport (path : String)
  /-- The class of a guard file has no name or none of the guard methods. -/
  | malformedGuard (path : String)
  /-- A guard file is not a module, for the reason that its reader gives. -/
  | guardSyntax (path message : String)
  /-- Two guard files lie in one directory. -/
  | duplicateGuardDirectory (directory first second : String)
  /-- Two guard files export classes of one name. -/
  | duplicateGuardClass (className first second : String)
  /-- Two directories that differ in their markers have one route. -/
  | conflictingScope (route first second : String)
deriving Repr, DecidableEq

/-- Encloses a text in quotation marks. -/
private def quoted (text : String) : String :=
  "\"" ++ text ++ "\""

/-- The wording of a fault in a page path. -/
def PathFault.message : PathFault → String
  | empty => "the path is empty"
  | markerWithoutName directory =>
    "the directory " ++ quoted directory ++ " has a marker but no name"

/-- The wording of an error. -/
def CompileError.message : CompileError → String
  | duplicateIdentifier identifier first second =>
    "The pages " ++ quoted first ++ " and " ++ quoted second
      ++ " both resolve to the component name " ++ quoted identifier ++ "."
  | invalidPagePath path fault =>
    "The page path " ++ quoted path ++ " is invalid: " ++ fault.message ++ "."
  | missingGuardExport path =>
    "The file " ++ quoted path ++ " does not export a class."
  | ambiguousGuardExport path =>
    "As a best practice, only export one guard per file in " ++ quoted path ++ "."
  | malformedGuard path =>
    "The file " ++ quoted path
      ++ " does not export a route guard class, or it is formatted incorrectly."
  | guardSyntax path message =>
    "Could not parse the guard file " ++ quoted path ++ ": " ++ message
  | duplicateGuardDirectory directory first second =>
    "The directory " ++ quoted directory ++ " declares more than one guard ("
      ++ quoted first ++ " and " ++ quoted second ++ ")."
  | duplicateGuardClass className first second =>
    "The guard class " ++ quoted className ++ " is exported by both " ++ quoted first
      ++ " and " ++ quoted second ++ "; guard class names must be unique."
  | conflictingScope route first second =>
    "The directories " ++ quoted first ++ " and " ++ quoted second
      ++ " resolve to the same route " ++ quoted route
      ++ "; a directory cannot be both a nested scope and a flat path."

end PageRoutes
