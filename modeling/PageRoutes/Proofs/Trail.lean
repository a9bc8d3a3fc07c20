import PageRoutes.SiblingOrder

/-!
# Routes at their places in a tree

A trail is a route together with the routes above it.  The trails of a tree list all its routes in
the order in which the router meets them, every route before the routes below it.  The address
pattern of a trail joins the paths of its routes from the outside in.
-/

namespace PageRoutes

/-- A route and the routes above it, from the outside in. -/
structure Trail where
  above : List RouteTree
  route : RouteTree

namespace Trail

/-- The label of the route at the end of the trail. -/
def label (trail : Trail) : RouteLabel :=
  trail.route.label

/-- All routes of the trail, from the outside in. -/
def routes (trail : Trail) : List RouteTree :=
  trail.above ++ [trail.route]

/-- The address pattern that the paths of the routes spell together. -/
def pattern (trail : Trail) : String :=
  "/".intercalate (trail.routes.map (·.label.pathSegment))

/-- The trail as it continues one that leads through the given routes. -/
def below (above : List RouteTree) (trail : Trail) : Trail :=
  ⟨above ++ trail.above, trail.route⟩

theorem below_below (outer inner : List RouteTree) (trail : Trail) :
    (trail.below inner).below outer = trail.below (outer ++ inner) := by
  unfold below
  rw [List.append_assoc]

end Trail

namespace RouteTree

mutual

/-- The trails of a tree in the order in which the router meets their routes. -/
def trails : RouteTree → List Trail
  | node label children =>
    ⟨[], node label children⟩ :: (trailsOfAll children).map (Trail.below [node label children])

/-- The trails of several trees, one tree after the other. -/
def trailsOfAll : List RouteTree → List Trail
  | [] => []
  | tree :: rest => trails tree ++ trailsOfAll rest

end

/-- The trails from the routes directly below a tree to the routes strictly below it. -/
def trailsBelow (tree : RouteTree) : List Trail :=
  trailsOfAll tree.children

/-- The group that holds all routes that come from pages. -/
def rootGroup? (config : RouteTree) : Option RouteTree :=
  config.children.find? fun tree => tree.label.kind == .group

/-! ## Trails and labels -/

theorem trails_eq (tree : RouteTree) :
    tree.trails = ⟨[], tree⟩ :: tree.trailsBelow.map (Trail.below [tree]) := by
  cases tree with
  | node label children => rw [trails, trailsBelow, RouteTree.children]

theorem trailsOfAll_eq_flatMap (trees : List RouteTree) :
    trailsOfAll trees = trees.flatMap trails := by
  induction trees with
  | nil => rfl
  | cons tree rest ih => rw [trailsOfAll, ih, List.flatMap_cons]

mutual

/-- The labels of a tree are those at the ends of its trails. -/
theorem labels_eq_map_trails (tree : RouteTree) : tree.labels = tree.trails.map Trail.label := by
  cases tree with
  | node label children =>
    rw [labels, trails, List.map_cons, List.map_map, labelsOfAll_eq_map_trails]
    rfl

theorem labelsOfAll_eq_map_trails (trees : List RouteTree) :
    labelsOfAll trees = (trailsOfAll trees).map Trail.label := by
  cases trees with
  | nil => rfl
  | cons tree rest =>
    rw [labelsOfAll, trailsOfAll, List.map_append, labels_eq_map_trails,
      labelsOfAll_eq_map_trails]

end

end RouteTree

end PageRoutes
