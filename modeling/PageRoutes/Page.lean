import PageRoutes.CompileError
import PageRoutes.Path
import PageRoutes.Segment

/-!
# Pages

A page is an HTML file below the page root.  The directories on the way to it are its segments; the
file name itself is dropped, so every file of a directory would stand for the same page.  Two pages
are special: a file directly below the root is the root index, unless its stem is `not-found`, in
which case it is the page for unknown addresses.
-/

namespace PageRoutes

/-- What a page is for. -/
inductive PageRole where
  /-- An ordinary page with a route of its own. -/
  | route
  /-- The page of the root itself. -/
  | rootIndex
  /-- The page for unknown addresses. -/
  | notFound
deriving Repr, DecidableEq

/-- How the routing module refers to a component. -/
structure ComponentRef where
  identifier : String
  importPath : String
deriving Repr, DecidableEq

/-- A page with everything that its path determines. -/
structure Page where
  /-- The path of the file in normal form. -/
  sourcePath : String
  /-- The directory with its markers; `""` for a page directly below the root. -/
  directory : String
  segments : List Segment
  /-- The class name of the component. -/
  identifier : String
  /-- The element name of the component. -/
  selector : String
  role : PageRole
  /-- The place of the page among all discovered pages. -/
  discoveryIndex : Nat
deriving Repr, DecidableEq

/-- The class name of the component for the root index. -/
def rootIndexIdentifier : String := "RootRouteIndexComponent"

/-- The class name of the component for unknown addresses. -/
def notFoundIdentifier : String := "NotFoundComponent"

/-- The segment that a directory name stands for, or the error of the page path it belongs to. -/
def Segment.classify (raw source : String) : Except CompileError Segment :=
  match Segment.ofRaw? raw with
  | some segment => .ok segment
  | none => .error (.invalidPagePath source (.markerWithoutName raw))

namespace Page

/-- A file name up to its first full stop. -/
def fileStem (file : String) : String :=
  String.ofList (file.toList.takeWhile (· != '.'))

/-- The page for unknown addresses. -/
def ofNotFound (source : String) (index : Nat) : Page where
  sourcePath := source
  directory := ""
  segments := []
  identifier := notFoundIdentifier
  selector := "app-not-found"
  role := .notFound
  discoveryIndex := index

/-- The page in the given directory, which is the root index if the directory is the root. -/
def ofSegments (source : String) (segments : List Segment) (index : Nat) : Page where
  sourcePath := source
  directory := Segment.directory segments
  segments := segments
  identifier := if segments.isEmpty then rootIndexIdentifier else Segment.identifier segments
  selector := if segments.isEmpty then "app-root-route-index" else Segment.selector segments
  role := if segments.isEmpty then .rootIndex else .route
  discoveryIndex := index

/-- Reads a page off the path of its file. -/
def parse (source : String) (index : Nat) : Except CompileError Page := do
  let parts := Path.parts source
  match parts.getLast? with
  | none => .error (.invalidPagePath source .empty)
  | some file =>
    if parts.length = 1 ∧ fileStem file = "not-found" then
      return ofNotFound (Path.normalize source) index
    else
      let segments ← parts.dropLast.mapM (Segment.classify · source)
      return ofSegments (Path.normalize source) segments index

/-! ## Generated files -/

/-- The path of the component generated for the page. -/
def componentPath (page : Page) : String :=
  if page.role = .notFound then "not-found.component.ts"
  else if page.directory = "" then "index.component.ts"
  else page.directory ++ "/index.component.ts"

/-- The path of the template that the component shows. -/
def templatePath (page : Page) : String :=
  Text.replaceAll ".component.ts" ".component.html" page.componentPath

/-- How the routing module imports the component. -/
def importPath (page : Page) : String :=
  Path.importSpecifier page.componentPath

/-- How the routing module refers to the component. -/
def componentRef (page : Page) : ComponentRef where
  identifier := page.identifier
  importPath := page.importPath

/-! ## Distinct component names -/

/-- The first page whose component name an earlier page has, as an error naming both. -/
def duplicateIdentifier? (earlier : List Page) : List Page → Option CompileError
  | [] => none
  | page :: rest =>
    match earlier.find? (·.identifier == page.identifier) with
    | some first =>
      some (.duplicateIdentifier page.identifier first.sourcePath page.sourcePath)
    | none => duplicateIdentifier? (page :: earlier) rest

/-- Refuses pages of which two have one component name. -/
def requireDistinctIdentifiers (pages : List Page) : Except CompileError Unit :=
  match duplicateIdentifier? [] pages with
  | some error => .error error
  | none => .ok ()

end Page

end PageRoutes
