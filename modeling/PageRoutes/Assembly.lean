import PageRoutes.Site

/-!
# Assembling the tree of routes

Below the configuration stand the redirections in the order of their declaration, then one group
with everything that comes from pages, then the route for unknown addresses.  The group begins with
the index of the page root and carries the guard of the page root.  A guard whose directory has no
route is left out, and there is a warning of it.
-/

namespace PageRoutes

/-- What is built for the pages of a site. -/
structure Assembled where
  /-- The tree of routes, whose siblings are not in their final order yet. -/
  tree : RouteTree
  /-- The guards that are left out, in the order of their files. -/
  strayGuards : List Guard

namespace Assembly

/-- The last of the pages for the page root, if there is one. -/
def rootPage? (pages : List Page) : Option Page :=
  pages.reverse.find? (·.role = .rootIndex)

/-- The component of the page root; without a page of its own it is a bare outlet. -/
def rootComponent (pages : List Page) : ComponentRef :=
  match rootPage? pages with
  | some page => page.componentRef
  | none => ⟨rootIndexIdentifier, Path.importSpecifier "index.component.ts"⟩

/-- The route of the page root. -/
def rootIndex (pages : List Page) : RouteTree :=
  .leaf { RouteLabel.plain .rootIndex "" with component := some (rootComponent pages) }

/-- The label of the group of all routes that come from pages. -/
def rootLabel (guards : GuardRegistry) : RouteLabel :=
  { RouteLabel.plain .group "" with
    guard := (guards.get? "").map Guard.attached
    origin := some "" }

/-- The group of all routes that come from pages. -/
def rootGroup (pages : List Page) (site : Site) (guards : GuardRegistry) : RouteTree :=
  .node (rootLabel guards) (rootIndex pages :: site.treesBelow guards [])

/-- The routes of the redirections. -/
def redirections (rules : List RedirectRule) : List RouteTree :=
  rules.zipIdx.map fun (rule, index) => .ofRedirect rule index

/-- The whole tree for the pages of a site. -/
def tree (pages : List Page) (site : Site) (guards : GuardRegistry) (rules : List RedirectRule) :
    RouteTree :=
  .node (RouteLabel.plain .config "")
    (redirections rules ++ [rootGroup pages site guards, .fallback])

/-- The guards whose directories have no route, in the order of the guard files. -/
def strayGuards (site : Site) (guards : GuardRegistry) : List Guard :=
  let origins := site.directories.map Segment.directory
  guards.guards.filter fun guard => guard.directory != "" && !origins.contains guard.directory

/-- Builds the tree of routes. -/
def build (pages : List Page) (guards : GuardRegistry) (rules : List RedirectRule) :
    Except CompileError Assembled := do
  let site ← Site.ofPages pages
  return ⟨tree pages site guards rules, strayGuards site guards⟩

end Assembly

end PageRoutes
