import PageRoutes.Compilation
import PageRoutes.Json.Document

/-!
# A compilation as JSON

A compilation as one document, without the warnings.  What a route does not have is left out; an
empty list of routes below it is left out too.
-/

namespace PageRoutes

open Json (Document Field)

/-- The name of the kind of a segment. -/
def Segment.kindName : Segment → String
  | literal _ => "literal"
  | parameter _ => "parameter"
  | nestedScope _ => "nestedScope"

/-- The name of a role. -/
def PageRole.text : PageRole → String
  | route => "route"
  | rootIndex => "rootIndex"
  | notFound => "notFound"

/-- The name of a kind of route. -/
def RouteKind.text : RouteKind → String
  | config => "config"
  | group => "group"
  | page => "page"
  | rootIndex => "rootIndex"
  | redirect => "redirect"
  | fallback => "fallback"

/-- The name of a kind of import. -/
def ImportKind.text : ImportKind → String
  | component => "component"
  | guard => "guard"

namespace Report

/-- A list of texts. -/
def ofTexts (texts : List String) : Document :=
  .list (texts.map .text)

/-- A segment. -/
def ofSegment (segment : Segment) : Document :=
  .record [.mk "kind" (.text segment.kindName), .mk "name" (.text segment.name)]

/-- A page. -/
def ofPage (page : Page) : Document :=
  .record [
    .mk "sourcePath" (.text page.sourcePath),
    .mk "directory" (.text page.directory),
    .mk "segments" (.list (page.segments.map ofSegment)),
    .mk "identifier" (.text page.identifier),
    .mk "selector" (.text page.selector),
    .mk "role" (.text page.role.text),
    .mk "discoveryIndex" (.number page.discoveryIndex)]

/-- A list of capabilities. -/
def ofCapabilities (capabilities : List Capability) : Document :=
  ofTexts (capabilities.map (·.methodName))

/-- A guard. -/
def ofGuard (guard : Guard) : Document :=
  .record [
    .mk "sourcePath" (.text guard.sourcePath),
    .mk "directory" (.text guard.directory),
    .mk "className" (.text guard.className),
    .mk "capabilities" (ofCapabilities guard.capabilities),
    .mk "discoveryIndex" (.number guard.discoveryIndex)]

/-- A reference to a component. -/
def ofComponent (component : ComponentRef) : Document :=
  .record [
    .mk "identifier" (.text component.identifier),
    .mk "importPath" (.text component.importPath)]

/-- A reference to a guard. -/
def ofAttachedGuard (guard : AttachedGuard) : Document :=
  .record [
    .mk "className" (.text guard.className),
    .mk "importPath" (.text guard.importPath),
    .mk "capabilities" (ofCapabilities guard.capabilities),
    .mk "discoveryIndex" (.number guard.discoveryIndex)]

/-- Where a redirection leads. -/
def ofRedirect (redirect : Redirect) : Document :=
  .record [
    .mk "target" (.text redirect.target),
    .mk "pathMatch" (.text redirect.pathMatch.text)]

/-- A field that is left out when there is nothing to say. -/
def optional {α : Type} (name : String) (document : α → Document) : Option α → List Field
  | some value => [.mk name (document value)]
  | none => []

mutual

/-- A route with the routes below it. -/
def ofTree : RouteTree → Document
  | .node label children =>
    .record (
      [.mk "kind" (.text label.kind.text), .mk "pathSegment" (.text label.pathSegment)]
        ++ optional "component" ofComponent label.component
        ++ (if children.isEmpty then [] else [.mk "children" (.list (ofTrees children))])
        ++ optional "guard" ofAttachedGuard label.guard
        ++ optional "redirect" ofRedirect label.redirect
        ++ optional "origin" .text label.origin)

/-- Several routes. -/
def ofTrees : List RouteTree → List Document
  | [] => []
  | tree :: rest => ofTree tree :: ofTrees rest

end

/-- An import. -/
def ofImport (entry : ImportEntry) : Document :=
  .record [
    .mk "identifier" (.text entry.identifier),
    .mk "path" (.text entry.path),
    .mk "kind" (.text entry.kind.text)]

/-- What a tree contributes to the routing module. -/
def ofEmission (emission : Emission) : Document :=
  .record [
    .mk "configurationText" (.text emission.configurationText),
    .mk "imports" (.list (emission.imports.map ofImport)),
    .mk "providers" (ofTexts emission.providers)]

/-- A compilation. -/
def ofCompiled (compiled : CompiledRoutes) : Document :=
  .record [
    .mk "pages" (.list (compiled.pages.map ofPage)),
    .mk "guards" (.list (compiled.guards.map ofGuard)),
    .mk "tree" (ofTree compiled.tree),
    .mk "emitted" (ofEmission compiled.emission)]

end Report

end PageRoutes
