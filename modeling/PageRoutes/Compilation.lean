import PageRoutes.Assembly
import PageRoutes.Emission
import PageRoutes.SiblingOrder

/-!
# Compilation

From the pages, guards and redirections of a site to the sources of its routing.  Pages are read
first, then their component names are compared, then the guards are read, and then the tree is
built, ordered and written; the first error ends the compilation.
-/

namespace PageRoutes

/-- What a compilation starts from. -/
structure CompileInput where
  /-- The paths of the pages in the order of their discovery. -/
  pagePaths : List String
  guardSources : List GuardSource
  /-- The redirections in the order of their declaration. -/
  redirects : List RedirectRule
deriving Repr, DecidableEq

/-- What a compilation yields. -/
structure CompiledRoutes where
  pages : List Page
  guards : List Guard
  /-- The guards that are left out since their directories have no route. -/
  strayGuards : List Guard
  /-- The tree of routes with all siblings in order. -/
  tree : RouteTree
  emission : Emission

namespace CompileInput

/-- Reads all pages; each takes its place in the list as discovery index. -/
def parsePages (paths : List String) : Except CompileError (List Page) :=
  paths.zipIdx.mapM fun (path, index) => Page.parse path index

/-- Compiles the sources of the routing, for a given way to read the classes of a guard file. -/
def compile (classesOf : ClassReader) (input : CompileInput) :
    Except CompileError CompiledRoutes := do
  let pages ← parsePages input.pagePaths
  Page.requireDistinctIdentifiers pages
  let registry ← GuardRegistry.load classesOf input.guardSources
  let built ← Assembly.build pages registry input.redirects
  let tree := built.tree.order
  return ⟨pages, registry.guards, built.strayGuards, tree, Emission.ofTree tree⟩

end CompileInput

/-- The source of the routing module. -/
def CompiledRoutes.routingModule (compiled : CompiledRoutes) : String :=
  compiled.emission.routingModule

end PageRoutes
