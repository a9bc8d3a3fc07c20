import PageRoutes.CompileError
import PageRoutes.Path
import PageRoutes.Script.ExportedClass

/-!
# Guards

A guard is a class that decides whether a route may be entered or left.  It lives in a file of its
own, applies to the directory of that file, and has at least one of three methods, its
capabilities.  The registry holds the guards of all files; no two of them share a directory or a
class name.

How a file yields its exported classes is a parameter of this module, so that its laws do not
depend on the grammar of the language the guards are written in.
-/

namespace PageRoutes

/-- A question that a guard can answer. -/
inductive Capability where
  | canActivate
  | canActivateChild
  | canDeactivate
deriving Repr, DecidableEq

namespace Capability

/-- All capabilities, in the order in which they are written. -/
def all : List Capability :=
  [canActivate, canActivateChild, canDeactivate]

/-- The method that answers the question, which is also the name of the field of a route. -/
def methodName : Capability → String
  | canActivate => "canActivate"
  | canActivateChild => "canActivateChild"
  | canDeactivate => "canDeactivate"

/-- The capability with the given method. -/
def ofMethodName? (method : String) : Option Capability :=
  all.find? (·.methodName == method)

/-- The capabilities of a class with the given members, each once and in written order. -/
def ofMembers (members : List String) : List Capability :=
  all.filter fun c => members.contains c.methodName

end Capability

/-- A guard file: its path below the page root and its text. -/
structure GuardSource where
  path : String
  contents : String
deriving Repr, DecidableEq

/-- A guard as its file describes it. -/
structure Guard where
  /-- The path of the file in normal form. -/
  sourcePath : String
  /-- The directory to which the guard applies; `""` for the page root. -/
  directory : String
  className : String
  capabilities : List Capability
  /-- The place of the file among all guard files. -/
  discoveryIndex : Nat
deriving Repr, DecidableEq

/-- How to read the exported classes of a file off its path and text, or why the text is no
module. -/
abbrev ClassReader := String → String → Except String (List Script.ExportedClass)

namespace Guard

/-- How the routing module imports the guard. -/
def importPath (guard : Guard) : String :=
  Path.importSpecifier guard.sourcePath

/-- The guard that a class declares, if it has a name and a capability. -/
def ofClass? (path : String) (index : Nat) (declared : Script.ExportedClass) : Option Guard :=
  match declared.name, Capability.ofMembers declared.members with
  | some name, capability :: more =>
    some ⟨path, Path.parent path, name, capability :: more, index⟩
  | _, _ => none

/-- The guard of a file, which has to export exactly one class. -/
def describe (classesOf : ClassReader) (source : GuardSource) (index : Nat) :
    Except CompileError Guard :=
  let path := Path.normalize source.path
  match classesOf path source.contents with
  | .error message => .error (.guardSyntax path message)
  | .ok [] => .error (.missingGuardExport path)
  | .ok [declared] =>
    match ofClass? path index declared with
    | some guard => .ok guard
    | none => .error (.malformedGuard path)
  | .ok (_ :: _ :: _) => .error (.ambiguousGuardExport path)

end Guard

/-- The guards of all files, in the order of the files. -/
structure GuardRegistry where
  guards : List Guard
deriving Repr, DecidableEq

namespace GuardRegistry

/-- The registry without guards. -/
def empty : GuardRegistry := ⟨[]⟩

/-- The guard of a directory. -/
def get? (registry : GuardRegistry) (directory : String) : Option Guard :=
  registry.guards.find? (·.directory == directory)

/-- The guard with a class name. -/
def withClass? (registry : GuardRegistry) (className : String) : Option Guard :=
  registry.guards.find? (·.className == className)

/-- Adds a guard whose directory and class name are both new. -/
def insert (registry : GuardRegistry) (guard : Guard) : Except CompileError GuardRegistry :=
  match registry.get? guard.directory, registry.withClass? guard.className with
  | some first, _ =>
    .error (.duplicateGuardDirectory guard.directory first.sourcePath guard.sourcePath)
  | none, some first =>
    .error (.duplicateGuardClass guard.className first.sourcePath guard.sourcePath)
  | none, none => .ok ⟨registry.guards ++ [guard]⟩

/-- Reads all guard files; the first error ends the reading. -/
def load (classesOf : ClassReader) (sources : List GuardSource) :
    Except CompileError GuardRegistry :=
  sources.zipIdx.foldlM (fun registry (source, index) => do
    registry.insert (← Guard.describe classesOf source index)) empty

end GuardRegistry

end PageRoutes
