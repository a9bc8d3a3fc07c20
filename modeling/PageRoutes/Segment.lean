import PageRoutes.Text.Words

/-!
# Segments of a page path

Every directory on the way to a page is a segment.  A leading `_` makes the directory a parameter
of the route and a leading `#` makes it a nested scope, whose pages become children of the route
around it; both markers need a name behind them.  A list of segments yields the path fragment of
its route, the directory as it was spelled, and the names of the generated component.
-/

namespace PageRoutes

/-- A directory on the way to a page. -/
inductive Segment where
  /-- A fixed part of the route. -/
  | literal (name : String)
  /-- A part of the route that stands for any value. -/
  | parameter (name : String)
  /-- A fixed part of the route at which nested routes begin. -/
  | nestedScope (name : String)
deriving Repr, DecidableEq

namespace Segment

/-- The name without its marker. -/
def name : Segment → String
  | literal name | parameter name | nestedScope name => name

/-- What the segment contributes to the path of a route. -/
def fragment : Segment → String
  | parameter name => ":" ++ name
  | literal name | nestedScope name => name

/-- The directory name, marker included. -/
def raw : Segment → String
  | literal name => name
  | parameter name => "_" ++ name
  | nestedScope name => "#" ++ name

/-- Whether the segment stands for any value. -/
def isParameter : Segment → Bool
  | parameter _ => true
  | _ => false

/-- Whether nested routes begin at the segment. -/
def isNestedScope : Segment → Bool
  | nestedScope _ => true
  | _ => false

/-- The segment that a directory name stands for; `none` for a marker without a name. -/
def ofRaw? (raw : String) : Option Segment :=
  match raw.toList with
  | ['#'] | ['_'] => none
  | '#' :: name => some (.nestedScope (String.ofList name))
  | '_' :: name => some (.parameter (String.ofList name))
  | _ => some (.literal raw)

/-! ## Lists of segments -/

/-- The directory that the segments spell, markers included. -/
def directory (segments : List Segment) : String :=
  "/".intercalate (segments.map raw)

/-- The route path that the segments spell. -/
def pattern (segments : List Segment) : String :=
  "/".intercalate (segments.map fragment)

/-- All words of the names of the segments. -/
def words (segments : List Segment) : List (List Char) :=
  segments.flatMap fun s => Text.words s.name

/-- The class name of the component for a page below the segments. -/
def identifier (segments : List Segment) : String :=
  String.ofList ((words segments).flatMap Text.capitalize) ++ "RouteIndexComponent"

/-- The element name of the component for a page below the segments. -/
def selector (segments : List Segment) : String :=
  "app-" ++ "-".intercalate ((words segments).map fun w => String.ofList (Text.lower w))
    ++ "-route-index"

end Segment

end PageRoutes
