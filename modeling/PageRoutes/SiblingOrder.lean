import PageRoutes.RouteTree

/-!
# The order of siblings

The router tries routes from first to last, so redirections come first and the route for unknown
addresses comes last.  Among the others fixed paths come before paths with a parameter, and of
those the ones with the longer fixed beginning come first.  What is left is decided by the order
keys, and between equal keys by the order that was there before.
-/

namespace PageRoutes

/-- The three classes of siblings. -/
inductive SiblingClass where
  | redirect
  | route
  | fallback
deriving Repr, DecidableEq

/-- How much of a path is fixed. -/
inductive Specificity where
  /-- The whole path. -/
  | static
  /-- The given number of parts before the first parameter. -/
  | dynamic (staticLength : Nat)
deriving Repr, DecidableEq

/-- What decides the place of a route among its siblings. -/
structure SortKey where
  siblingClass : SiblingClass
  specificity : Specificity
  orderKey : Nat
deriving Repr, DecidableEq

/-- The place of a class. -/
def SiblingClass.rank : SiblingClass → Nat
  | redirect => 0
  | route => 1
  | fallback => 2

/-- Whether one path has to be tried strictly before another. -/
def Specificity.before : Specificity → Specificity → Bool
  | static, dynamic _ => true
  | dynamic m, dynamic n => n < m
  | _, static => false

/-- Whether a key may stand in front of another. -/
def SortKey.le (a b : SortKey) : Bool :=
  if a.siblingClass ≠ b.siblingClass then a.siblingClass.rank < b.siblingClass.rank
  else if a.specificity ≠ b.specificity then a.specificity.before b.specificity
  else a.orderKey ≤ b.orderKey

/-- The class of a route. -/
def RouteKind.siblingClass : RouteKind → SiblingClass
  | redirect => .redirect
  | fallback => .fallback
  | _ => .route

/-- How much of the path of a route is fixed; only pages and groups are told apart by it. -/
def RouteLabel.specificity (label : RouteLabel) : Specificity :=
  if label.kind.siblingClass = .route ∧ label.isParameterized = true then
    .dynamic label.staticLength
  else .static

/-- What decides the place of a route. -/
def RouteLabel.sortKey (label : RouteLabel) : SortKey where
  siblingClass := label.kind.siblingClass
  specificity := label.specificity
  orderKey := label.orderKey

namespace RouteTree

/-- Whether a route may stand in front of another. -/
def mayPrecede (a b : RouteTree) : Bool :=
  a.label.sortKey.le b.label.sortKey

/-- Sorts siblings and keeps the order of those with equal keys. -/
def sortSiblings (trees : List RouteTree) : List RouteTree :=
  trees.mergeSort mayPrecede

mutual

/-- Puts all siblings of a tree in order, at every depth. -/
def order : RouteTree → RouteTree
  | node label children => node label (sortSiblings (orderAll children))

/-- Puts the siblings below each of several trees in order. -/
def orderAll : List RouteTree → List RouteTree
  | [] => []
  | tree :: rest => order tree :: orderAll rest

end

/-- Ordering several trees is ordering each. -/
theorem orderAll_eq_map (trees : List RouteTree) : orderAll trees = trees.map order := by
  induction trees with
  | nil => rfl
  | cons tree rest ih => rw [orderAll, ih, List.map_cons]

end RouteTree

end PageRoutes
