import PageRoutes.Compilation
import PageRoutes.Disk

/-!
# Writing the generated sources

A compilation is written as the routing module, and for every page a component together with a copy
of the page as its template.  Without a page for the root, its component and a bare outlet are
written all the same.  What is to be done is a list of actions; they are performed one after the
other until one fails, and what was written before stays.
-/

namespace PageRoutes

/-- One change of the disk. -/
inductive OutputAction where
  /-- Write a text, making directories as needed. -/
  | write (location text : String)
  /-- Copy a file into a directory that is there already. -/
  | copy (source target : String)
deriving Repr, DecidableEq

/-- Why the writing ended early. -/
inductive OutputError where
  | write (location : String)
  | copy (source target : String)
deriving Repr, DecidableEq

/-- The wording of an error. -/
def OutputError.message : OutputError → String
  | write location => "Could not write \"" ++ location ++ "\": the file cannot be made"
  | copy source target =>
    "Could not copy \"" ++ source ++ "\" to \"" ++ target ++ "\": the file cannot be copied"

namespace OutputAction

/-- The file that an action leaves behind. -/
def target : OutputAction → String
  | write location _ => location
  | copy _ target => target

/-- The location of the directory around a file. -/
def directoryOf (location : String) : String :=
  "/".intercalate (Location.pieces location).dropLast

/-- Performs an action; the disk at the end, and the failure.  Directories that were made for a file
stay if the file cannot be written. -/
def perform (disk : Disk) : OutputAction → Disk × Option OutputError
  | write location text =>
    match (disk.makeDirectory? (directoryOf location)).bind (·.write? location text.toUTF8) with
    | some disk => (disk, none)
    | none => ((disk.makeWay (directoryOf location)).1, some (.write location))
  | copy source target =>
    match disk.copy? source target with
    | some disk => (disk, none)
    | none => (disk, some (.copy source target))

/-- Performs actions until one fails; the disk at the end, and the failure. -/
def performAll (disk : Disk) : List OutputAction → Disk × Option OutputError
  | [] => (disk, none)
  | action :: rest =>
    match action.perform disk with
    | (disk, none) => performAll disk rest
    | (disk, some error) => (disk, some error)

end OutputAction

namespace Output

/-- The name of the routing module. -/
def moduleFile : String := "app-routing.module.ts"

/-- What the template of a root without a page shows. -/
def rootOutlet : String := "<router-outlet></router-outlet>"

/-- The root index for a site that has no page for its root. -/
def defaultRoot : Page := .ofSegments "index.html" [] 0

/-- The actions for the files of a page. -/
def pageActions (pagesDirectory outDirectory : String) (page : Page) : List OutputAction :=
  [.write (Location.join outDirectory page.componentPath) page.componentSource,
    .copy (Location.join pagesDirectory page.sourcePath)
      (Location.join outDirectory page.templatePath)]

/-- The actions for the files of a root without a page. -/
def rootActions (outDirectory : String) : List OutputAction :=
  [.write (Location.join outDirectory defaultRoot.componentPath) defaultRoot.componentSource,
    .write (Location.join outDirectory defaultRoot.templatePath) rootOutlet]

/-- All actions for a compilation. -/
def actions (compiled : CompiledRoutes) (pagesDirectory outDirectory : String) :
    List OutputAction :=
  .write (Location.join outDirectory moduleFile) compiled.routingModule
    :: (compiled.pages.filter (·.role != .notFound)).flatMap
      (pageActions pagesDirectory outDirectory)
    ++ if compiled.pages.any (·.role == .rootIndex) then [] else rootActions outDirectory

/-- Writes a compilation; the locations of all written files, or why the writing ended early, and
the disk afterwards. -/
def write (compiled : CompiledRoutes) (pagesDirectory outDirectory : String) (disk : Disk) :
    Except OutputError (List String) × Disk :=
  let todo := actions compiled pagesDirectory outDirectory
  match OutputAction.performAll disk todo with
  | (disk, none) => (.ok (todo.map (·.target)), disk)
  | (disk, some error) => (.error error, disk)

end Output

end PageRoutes
