/-!
# Exported classes

What a script tells the outside about a class that it exports.
-/

namespace PageRoutes.Script

/-- A class that a script exports. -/
structure ExportedClass where
  /-- The name; `none` for a default export without one. -/
  name : Option String
  /-- The names of the methods and properties, in the order of their declarations. -/
  members : List String
deriving Repr, DecidableEq

end PageRoutes.Script
