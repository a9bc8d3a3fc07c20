import PageRoutes.Script.ExportedClass

/-!
# Outlines

The outline of a script keeps of its statements what a reader has to know who looks for classes:
the classes that are declared, what is exported, and the bodies in which further statements stand.
All other statements leave only the bodies that stand inside them.  An export is an `Item`, which
stands in a module or in the body of a namespace and nowhere else.

`exportedClasses` lists the classes that stand behind `export` or `export default`.  An exported
declaration is not searched any further, whatever it is; the body of a namespace that is not
exported is searched like the module itself.
-/

namespace PageRoutes.Script

/-- How a member of a class is named. -/
inductive MemberKey where
  | name (word : String)
  /-- A name in quotation marks. -/
  | text (value : String)
  | number
  /-- A name behind a number sign, which only the class itself can use. -/
  | hidden
  /-- An expression in brackets. -/
  | computed
deriving Repr, DecidableEq

namespace MemberKey

/-- The name under which the outside finds the member, if it can be read off the script. -/
def publicName? : MemberKey → Option String
  | name word => some word
  | text value => some value
  | _ => none

/-- Whether the key is the one of the constructor of a class. -/
def isConstructor (key : MemberKey) : Bool :=
  key.publicName? == some "constructor"

end MemberKey

/-- What a member of a class is. -/
inductive MemberKind where
  /-- A method, a getter or a setter. -/
  | method
  | property
  | constructor
  /-- A property that is stored behind a getter and a setter. -/
  | accessor
deriving Repr, DecidableEq

/-- A member of a class that has a key. -/
structure Member where
  key : MemberKey
  kind : MemberKind
deriving Repr, DecidableEq

/-- The name of a method or property that the outside can use. -/
def Member.listedName? (member : Member) : Option String :=
  match member.kind with
  | .method | .property => member.key.publicName?
  | .constructor | .accessor => none

mutual

/-- What is kept of a statement. -/
inductive Outline where
  /-- A class that is declared, with its members and what stands inside their bodies. -/
  | declaredClass (name : Option String) (members : List Member) (inner : List Outline)
  /-- The body of a namespace or of a module declaration. -/
  | namespaceBody (items : List Item)
  /-- Any other body, such as a block or a function. -/
  | scope (inner : List Outline)

/-- What is kept of an item of a module or of the body of a namespace. -/
inductive Item where
  /-- A statement without `export` in front. -/
  | statement (outline : Outline)
  /-- A declaration behind `export`. -/
  | exported (declaration : Outline)
  /-- A declaration behind `export default`. -/
  | exportedDefault (declaration : Outline)

end

deriving instance Repr for Outline, Item

/-- The class as the outside sees it, if the declaration is one of a class. -/
def Outline.classEntry? : Outline → Option ExportedClass
  | declaredClass name members _ => some ⟨name, members.filterMap Member.listedName?⟩
  | namespaceBody _ | scope _ => none

/-- The class that an item exports itself. -/
def Item.exportedClass? : Item → Option ExportedClass
  | statement _ => none
  | exported declaration | exportedDefault declaration => declaration.classEntry?

mutual

/-- The exported classes in the outline of a statement. -/
def Outline.exportedClasses : Outline → List ExportedClass
  | .declaredClass _ _ inner | .scope inner => Outline.exportedClassesOf inner
  | .namespaceBody items => Item.exportedClassesOf items

/-- The exported classes in the outlines of several statements, in their order. -/
def Outline.exportedClassesOf : List Outline → List ExportedClass
  | [] => []
  | outline :: rest => outline.exportedClasses ++ Outline.exportedClassesOf rest

/-- The exported classes in an item. -/
def Item.exportedClasses : Item → List ExportedClass
  | .statement outline => outline.exportedClasses
  | .exported declaration | .exportedDefault declaration => declaration.classEntry?.toList

/-- The exported classes in several items, in their order. -/
def Item.exportedClassesOf : List Item → List ExportedClass
  | [] => []
  | item :: rest => item.exportedClasses ++ Item.exportedClassesOf rest

end

end PageRoutes.Script
