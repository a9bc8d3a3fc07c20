import PageRoutes.Guard
import PageRoutes.Page

/-!
# Route trees

The result of a compilation is a tree of routes.  A node is a label, which says what the route
itself is, over a list of subtrees; the router tries the subtrees from first to last.
-/

namespace PageRoutes

/-- What a node of the tree is. -/
inductive RouteKind where
  /-- The whole list of routes. -/
  | config
  /-- A route without a component that holds others together. -/
  | group
  /-- The route of a page. -/
  | page
  /-- The route of the page root. -/
  | rootIndex
  /-- A redirection. -/
  | redirect
  /-- The route for unknown addresses. -/
  | fallback
deriving Repr, DecidableEq

/-- A guard as a route refers to it. -/
structure AttachedGuard where
  className : String
  importPath : String
  capabilities : List Capability
  discoveryIndex : Nat
deriving Repr, DecidableEq

/-- How much of an address a redirection has to match. -/
inductive PathMatch where
  | full
  | initial
deriving Repr, DecidableEq

/-- Where a redirection leads. -/
structure Redirect where
  target : String
  pathMatch : PathMatch
deriving Repr, DecidableEq

/-- A redirection as the configuration declares it. -/
structure RedirectRule where
  source : String
  target : String
deriving Repr, DecidableEq

/-- What a route is, apart from the routes below it. -/
structure RouteLabel where
  kind : RouteKind
  pathSegment : String
  component : Option ComponentRef
  guard : Option AttachedGuard
  redirect : Option Redirect
  /-- The directory from which the route comes, with its markers. -/
  origin : Option String
  /-- The place that the route takes among its equals. -/
  orderKey : Nat
deriving Repr, DecidableEq

/-- A route with the routes below it. -/
inductive RouteTree where
  | node (label : RouteLabel) (children : List RouteTree)
deriving Repr, BEq

/-- How the router spells how much of an address has to match. -/
def PathMatch.text : PathMatch → String
  | full => "full"
  | initial => "prefix"

/-- The reference of a route to a guard. -/
def Guard.attached (guard : Guard) : AttachedGuard where
  className := guard.className
  importPath := guard.importPath
  capabilities := guard.capabilities
  discoveryIndex := guard.discoveryIndex

namespace RouteLabel

/-- A label with a kind and a path and nothing else. -/
def plain (kind : RouteKind) (pathSegment : String) : RouteLabel where
  kind := kind
  pathSegment := pathSegment
  component := none
  guard := none
  redirect := none
  origin := none
  orderKey := 0

/-- The parts of the path of a route. -/
def pathParts (label : RouteLabel) : List (List Char) :=
  label.pathSegment.toList.splitOn '/'

/-- Whether some part of the path stands for any value. -/
def isParameterized (label : RouteLabel) : Bool :=
  label.pathParts.any fun part => part.head? == some ':'

/-- The number of fixed parts before the first part that stands for any value. -/
def staticLength (label : RouteLabel) : Nat :=
  ((label.pathParts.filter (!·.isEmpty)).takeWhile fun part => part.head? != some ':').length

end RouteLabel

namespace RouteTree

/-- What the route itself is. -/
def label : RouteTree → RouteLabel
  | node label _ => label

/-- The routes directly below. -/
def children : RouteTree → List RouteTree
  | node _ children => children

/-- A route without routes below it. -/
def leaf (label : RouteLabel) : RouteTree :=
  node label []

mutual

/-- The labels of a tree, every route before the routes below it. -/
def labels : RouteTree → List RouteLabel
  | node label children => label :: labelsOfAll children

/-- The labels of several trees, one tree after the other. -/
def labelsOfAll : List RouteTree → List RouteLabel
  | [] => []
  | tree :: rest => labels tree ++ labelsOfAll rest

end

/-- The route of a redirection.  One from the empty address must match it as a whole. -/
def ofRedirect (rule : RedirectRule) (orderKey : Nat) : RouteTree :=
  leaf { RouteLabel.plain .redirect rule.source with
    redirect := some ⟨rule.target, if rule.source = "" then .full else .initial⟩
    orderKey := orderKey }

/-- The route for unknown addresses. -/
def fallback : RouteTree :=
  leaf { RouteLabel.plain .fallback "**" with
    component := some ⟨notFoundIdentifier, Path.importSpecifier "not-found.component.ts"⟩ }

end RouteTree

end PageRoutes
