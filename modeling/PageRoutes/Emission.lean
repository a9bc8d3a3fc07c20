import PageRoutes.RouteTree
import PageRoutes.Script.Quoted

/-!
# The generated sources

A tree of routes is written as the entries of an array of routes, together with the imports that
the entries need and the guards that have to be provided.  From these follows the routing module;
every page has besides a component of its own.
-/

namespace PageRoutes

/-- What an import brings. -/
inductive ImportKind where
  | component
  | guard
deriving Repr, DecidableEq

/-- A name that the routing module imports. -/
structure ImportEntry where
  identifier : String
  path : String
  kind : ImportKind
deriving Repr, DecidableEq

/-- What a tree of routes contributes to the routing module. -/
structure Emission where
  /-- The entries of the array of routes, each line indented. -/
  configurationText : String
  /-- The components and then the guards. -/
  imports : List ImportEntry
  /-- The class names of the guards. -/
  providers : List String
deriving Repr, DecidableEq

namespace Emission

/-! ## Entries -/

/-- The indentation of an entry below `depth` others. -/
def indent (depth : Nat) : String :=
  String.ofList (List.replicate (2 * (depth + 1)) ' ')

/-- The fields of a route for its guard, one for each capability. -/
def guardFields (guard : AttachedGuard) : List String :=
  (Capability.all.filter guard.capabilities.contains).map fun capability =>
    capability.methodName ++ ": [" ++ guard.className ++ "]"

/-- The fields of a route for its redirection. -/
def redirectFields (redirect : Redirect) : List String :=
  ["redirectTo: " ++ Script.quote redirect.target,
    "pathMatch: " ++ Script.quote redirect.pathMatch.text]

/-- The fields of a route that come before its children and its guard. -/
def leadingFields (label : RouteLabel) : List String :=
  ["path: " ++ Script.quote label.pathSegment]
    ++ label.redirect.elim [] redirectFields
    ++ label.component.elim [] fun component => ["component: " ++ component.identifier]

/-- The fields of a route that come after its children. -/
def trailingFields (label : RouteLabel) : List String :=
  label.guard.elim [] guardFields

/-- Writes a list of fields. -/
def fieldText (fields : List String) : String :=
  ", ".intercalate fields

/-- Writes several entries on lines of their own. -/
def entryText (entries : List String) : String :=
  ",\n".intercalate entries

mutual

/-- Writes a route, with the routes below it between its own fields and those of its guard. -/
def entry (depth : Nat) : RouteTree → String
  | .node label [] =>
    indent depth ++ "\x7b " ++ fieldText (leadingFields label ++ trailingFields label) ++ " \x7d"
  | .node label (child :: more) =>
    indent depth ++ "\x7b " ++ fieldText (leadingFields label ++ ["children: [\n"])
      ++ entryText (entries (depth + 1) (child :: more)) ++ "\n"
      ++ indent depth ++ fieldText ("]" :: trailingFields label) ++ " \x7d"

/-- Writes several routes. -/
def entries (depth : Nat) : List RouteTree → List String
  | [] => []
  | tree :: rest => entry depth tree :: entries depth rest

end

/-! ## Imports -/

/-- A component with the two numbers that decide its place among the imports. -/
structure RankedComponent where
  rank : Nat
  orderKey : Nat
  component : ComponentRef

/-- Pages come first, then the page root, then the page for unknown addresses. -/
def importRank : RouteKind → Nat
  | .rootIndex => 1
  | .fallback => 2
  | _ => 0

/-- Whether a component may be imported before another. -/
def RankedComponent.mayPrecede (a b : RankedComponent) : Bool :=
  a.rank < b.rank || (a.rank == b.rank && a.orderKey ≤ b.orderKey)

/-- The components of a tree, in the order of their imports. -/
def rankedComponents (tree : RouteTree) : List RankedComponent :=
  (tree.labels.filterMap fun label =>
    label.component.map fun component => ⟨importRank label.kind, label.orderKey, component⟩)
    |>.mergeSort RankedComponent.mayPrecede

/-- The components to import; a name is imported only once. -/
def importedComponents (tree : RouteTree) : List ComponentRef :=
  ((rankedComponents tree).map (·.component)).eraseDupsBy fun a b => a.identifier == b.identifier

/-- The guards to import, in the order of their files; a class is imported only once. -/
def importedGuards (tree : RouteTree) : List AttachedGuard :=
  ((tree.labels.filterMap (·.guard)).mergeSort fun a b => a.discoveryIndex ≤ b.discoveryIndex)
    |>.eraseDupsBy fun a b => a.className == b.className

/-- The import of a component. -/
def ofComponent (component : ComponentRef) : ImportEntry :=
  ⟨component.identifier, component.importPath, .component⟩

/-- The import of a guard. -/
def ofGuard (guard : AttachedGuard) : ImportEntry :=
  ⟨guard.className, guard.importPath, .guard⟩

/-- What the routes directly below the given tree contribute to the routing module. -/
def ofTree (config : RouteTree) : Emission where
  configurationText := entryText (entries 0 config.children)
  imports := (importedComponents config).map ofComponent ++ (importedGuards config).map ofGuard
  providers := (importedGuards config).map (·.className)

/-! ## Sources -/

/-- Writes an import of one name. -/
def importText (identifier path : String) : String :=
  "import \x7b\n  " ++ identifier ++ "\n\x7d from '" ++ path ++ "';"

/-- The source of the routing module. -/
def routingModule (emission : Emission) : String :=
  importText "NgModule" "@angular/core" ++ "\n\n"
    ++ importText "RouterModule,\n  Routes" "@angular/router" ++ "\n\n"
    ++ "\n\n".intercalate (emission.imports.map fun e => importText e.identifier e.path) ++ "\n\n"
    ++ "const routes: Routes = [\n" ++ emission.configurationText ++ "\n];\n\n"
    ++ "@NgModule(\x7b\n  imports: [RouterModule.forRoot(routes)],\n  exports: [RouterModule],\n"
    ++ "  providers: [" ++ ", ".intercalate emission.providers ++ "]\n\x7d)\n"
    ++ "export class AppRoutingModule \x7b \x7d\n"

end Emission

/-- The source of the component generated for a page. -/
def Page.componentSource (page : Page) : String :=
  Emission.importText "Component" "@angular/core" ++ "\n\n"
    ++ "@Component(\x7b\n  selector: '" ++ page.selector ++ "',\n"
    ++ "  templateUrl: './index.component.html'\n\x7d)\n"
    ++ "export class " ++ page.identifier ++ " \x7b \x7d\n"

end PageRoutes
