import Mathlib.Data.List.Perm.Basic
import PageRoutes.Script.Module

/-!
# Which exports of a module are listed

The classes of a module are looked for in its own items and in the bodies of all namespaces inside
it, however deep these stand in blocks, functions, classes and other namespaces; only what is
exported itself is not searched.  So the list has the module's own exports and the exports of
these namespaces, and it has the module's own alone exactly if no such namespace exports a class.
-/

namespace PageRoutes.Script

/-! ## Bodies inside statements -/

/-- The body of a namespace stands somewhere inside a statement, and behind no export there. -/
inductive Outline.Encloses : Outline → List Item → Prop
  | body (items : List Item) : Encloses (.namespaceBody items) items
  | inNamespace {part : Outline} {items body : List Item} :
      .statement part ∈ items → Encloses part body → Encloses (.namespaceBody items) body
  | inClass {part : Outline} {body : List Item} {name : Option String} {members : List Member}
      {inner : List Outline} :
      part ∈ inner → Encloses part body → Encloses (.declaredClass name members inner) body
  | inScope {part : Outline} {body : List Item} {inner : List Outline} :
      part ∈ inner → Encloses part body → Encloses (.scope inner) body

/-- The body of a namespace stands somewhere inside a module or another such body, and behind no
export there. -/
def Item.Enclose (items body : List Item) : Prop :=
  ∃ part, .statement part ∈ items ∧ part.Encloses body

mutual

/-- The items of all the bodies inside a statement, in the order of the script. -/
def Outline.innerItems : Outline → List Item
  | .declaredClass _ _ inner | .scope inner => Outline.innerItemsOf inner
  | .namespaceBody items => Item.openItemsOf items

/-- The items of all the bodies inside several statements, in the order of the script. -/
def Outline.innerItemsOf : List Outline → List Item
  | [] => []
  | outline :: rest => outline.innerItems ++ Outline.innerItemsOf rest

/-- The items of all the bodies inside an item, in the order of the script; there are none behind
an export. -/
def Item.innerItems : Item → List Item
  | .statement outline => outline.innerItems
  | .exported _ | .exportedDefault _ => []

/-- Items with the ones inside each of them, in the order of the script. -/
def Item.openItemsOf : List Item → List Item
  | [] => []
  | item :: rest => item :: item.innerItems ++ Item.openItemsOf rest

end

variable {item : Item} {items : List Item}

namespace Item

theorem openItemsOf_eq (items : List Item) :
    openItemsOf items = items.flatMap fun item => item :: item.innerItems := by
  induction items with
  | nil => rfl
  | cons item rest ih => rw [openItemsOf, ih, List.flatMap_cons]

/-- Items keep their order when the ones inside them are put in between. -/
theorem sublist_openItemsOf (items : List Item) : items.Sublist (openItemsOf items) := by
  induction items with
  | nil => exact List.Sublist.refl []
  | cons item rest ih =>
    rw [openItemsOf, List.cons_append]
    exact (List.sublist_append_of_sublist_right ih).cons_cons item

theorem openItemsOf_perm (items : List Item) :
    (openItemsOf items).Perm (items ++ items.flatMap innerItems) := by
  have hperm := List.flatMap_append_perm items (fun item => [item]) innerItems
  rw [List.flatMap_singleton'] at hperm
  rw [openItemsOf_eq]
  exact hperm.symm

end Item

mutual

/-- What stands inside a statement stands in one of the bodies inside it. -/
theorem Outline.exists_body_of_mem_innerItems : ∀ outline : Outline, item ∈ outline.innerItems →
    ∃ body, outline.Encloses body ∧ item ∈ body
  | .declaredClass _ _ inner, h => by
    obtain ⟨part, hpart, body, hbody, hitem⟩ := Outline.exists_body_of_mem_innerItemsOf inner h
    exact ⟨body, .inClass hpart hbody, hitem⟩
  | .scope inner, h => by
    obtain ⟨part, hpart, body, hbody, hitem⟩ := Outline.exists_body_of_mem_innerItemsOf inner h
    exact ⟨body, .inScope hpart hbody, hitem⟩
  | .namespaceBody items, h => by
    rcases Item.exists_body_of_mem_openItemsOf items h with hown | ⟨part, hpart, body, hbody, hitem⟩
    · exact ⟨items, .body items, hown⟩
    · exact ⟨body, .inNamespace hpart hbody, hitem⟩

theorem Outline.exists_body_of_mem_innerItemsOf : ∀ outlines : List Outline,
    item ∈ Outline.innerItemsOf outlines →
      ∃ part ∈ outlines, ∃ body, part.Encloses body ∧ item ∈ body
  | [], h => absurd h List.not_mem_nil
  | outline :: rest, h => by
    rcases List.mem_append.1 h with hfirst | hrest
    · exact ⟨outline, List.mem_cons_self, Outline.exists_body_of_mem_innerItems outline hfirst⟩
    · obtain ⟨part, hpart, hbody⟩ := Outline.exists_body_of_mem_innerItemsOf rest hrest
      exact ⟨part, List.mem_cons_of_mem _ hpart, hbody⟩

theorem Item.exists_body_of_mem_innerItems : ∀ outer : Item, item ∈ outer.innerItems →
    ∃ part, outer = .statement part ∧ ∃ body, part.Encloses body ∧ item ∈ body
  | .statement part, h => ⟨part, rfl, Outline.exists_body_of_mem_innerItems part h⟩

theorem Item.exists_body_of_mem_openItemsOf : ∀ items : List Item, item ∈ Item.openItemsOf items →
    item ∈ items ∨ ∃ part, .statement part ∈ items ∧ ∃ body, part.Encloses body ∧ item ∈ body
  | [], h => absurd h List.not_mem_nil
  | first :: rest, h => by
    rcases List.mem_append.1 h with hfirst | hrest
    · rcases List.mem_cons.1 hfirst with rfl | hinner
      · exact Or.inl List.mem_cons_self
      · obtain ⟨part, rfl, hbody⟩ := Item.exists_body_of_mem_innerItems first hinner
        exact Or.inr ⟨part, List.mem_cons_self, hbody⟩
    · rcases Item.exists_body_of_mem_openItemsOf rest hrest with hmem | ⟨part, hpart, hbody⟩
      · exact Or.inl (List.mem_cons_of_mem _ hmem)
      · exact Or.inr ⟨part, List.mem_cons_of_mem _ hpart, hbody⟩

end

theorem Outline.mem_innerItemsOf_of_mem {part : Outline} {outlines : List Outline}
    (hpart : part ∈ outlines) (h : item ∈ part.innerItems) :
    item ∈ Outline.innerItemsOf outlines := by
  induction hpart with
  | head => exact List.mem_append_left _ h
  | tail _ _ ih => exact List.mem_append_right _ ih

theorem Item.mem_openItemsOf_of_mem {part : Outline} (hpart : .statement part ∈ items)
    (h : item ∈ part.innerItems) : item ∈ Item.openItemsOf items := by
  rw [Item.openItemsOf_eq, List.mem_flatMap]
  exact ⟨.statement part, hpart, List.mem_cons_of_mem _ h⟩

theorem Outline.mem_innerItems_of_encloses {outline : Outline} {body : List Item}
    (h : outline.Encloses body) (hitem : item ∈ body) : item ∈ outline.innerItems := by
  induction h with
  | body items => exact (Item.sublist_openItemsOf items).subset hitem
  | inNamespace hpart _ ih => exact Item.mem_openItemsOf_of_mem hpart (ih hitem)
  | inClass hpart _ ih => exact Outline.mem_innerItemsOf_of_mem hpart (ih hitem)
  | inScope hpart _ ih => exact Outline.mem_innerItemsOf_of_mem hpart (ih hitem)

/-- What stands inside the items of a body stands in one of the bodies that it encloses. -/
theorem Item.exists_mem_innerItems_iff :
    (∃ outer ∈ items, item ∈ outer.innerItems) ↔
      ∃ body, Item.Enclose items body ∧ item ∈ body := by
  constructor
  · rintro ⟨outer, houter, hinner⟩
    obtain ⟨part, rfl, body, hbody, hitem⟩ := Item.exists_body_of_mem_innerItems outer hinner
    exact ⟨body, ⟨part, houter, hbody⟩, hitem⟩
  · rintro ⟨body, ⟨part, hpart, hbody⟩, hitem⟩
    exact ⟨.statement part, hpart, Outline.mem_innerItems_of_encloses hbody hitem⟩

/-! ## The list of classes -/

mutual

/-- The search meets the items inside a statement one by one, in their order. -/
theorem Outline.exportedClasses_eq : ∀ outline : Outline,
    outline.exportedClasses = outline.innerItems.filterMap Item.exportedClass?
  | .declaredClass _ _ inner | .scope inner => Outline.exportedClassesOf_eq inner
  | .namespaceBody items => Item.exportedClassesOf_eq items

theorem Outline.exportedClassesOf_eq : ∀ outlines : List Outline,
    Outline.exportedClassesOf outlines =
      (Outline.innerItemsOf outlines).filterMap Item.exportedClass?
  | [] => rfl
  | outline :: rest => by
    rw [Outline.exportedClassesOf, Outline.innerItemsOf, List.filterMap_append,
      Outline.exportedClasses_eq outline, Outline.exportedClassesOf_eq rest]

/-- An item is met in front of what stands inside it; an export has nothing inside. -/
theorem Item.exportedClasses_eq : ∀ item : Item,
    item.exportedClasses = (item :: item.innerItems).filterMap Item.exportedClass?
  | .statement outline => Outline.exportedClasses_eq outline
  | .exported declaration | .exportedDefault declaration => by
    rw [Item.exportedClasses, Item.innerItems, List.filterMap_cons, List.filterMap_nil,
      Item.exportedClass?]
    cases declaration.classEntry? <;> rfl

/-- The list has one entry for each class behind an export that stands behind no other, in the order
of the script. -/
theorem Item.exportedClassesOf_eq : ∀ items : List Item,
    Item.exportedClassesOf items = (Item.openItemsOf items).filterMap Item.exportedClass?
  | [] => rfl
  | item :: rest => by
    rw [Item.exportedClassesOf, Item.openItemsOf, List.filterMap_append,
      Item.exportedClasses_eq item, Item.exportedClassesOf_eq rest]

end

/-- The classes that a body exports itself. -/
def Item.ownClasses (items : List Item) : List ExportedClass :=
  items.filterMap Item.exportedClass?

/-- Behind `export` or `export default` an item declares a class that has the name of the entry and
whose methods and properties have its names, in their order. -/
def Item.Exports (item : Item) (entry : ExportedClass) : Prop :=
  ∃ members inner, entry.members = members.filterMap Member.listedName? ∧
    (item = .exported (.declaredClass entry.name members inner) ∨
      item = .exportedDefault (.declaredClass entry.name members inner))

theorem Item.exportedClass?_eq_some_iff {entry : ExportedClass} :
    item.exportedClass? = some entry ↔ item.Exports entry := by
  obtain ⟨name, names⟩ := entry
  cases item with
  | statement outline => simp [Item.exportedClass?, Item.Exports]
  | exported declaration | exportedDefault declaration =>
    cases declaration <;>
      simp [Item.exportedClass?, Item.Exports, Outline.classEntry?, eq_comm, and_comm]

/-- A class is listed exactly if an item of the body itself or of one inside it exports it. -/
theorem Item.mem_exportedClassesOf_iff {entry : ExportedClass} :
    entry ∈ Item.exportedClassesOf items ↔ ∃ item, item.Exports entry ∧
      (item ∈ items ∨ ∃ body, Item.Enclose items body ∧ item ∈ body) := by
  have hopen : ∀ item, item ∈ Item.openItemsOf items ↔
      item ∈ items ∨ ∃ body, Item.Enclose items body ∧ item ∈ body := by
    intro item
    rw [(Item.openItemsOf_perm items).mem_iff, List.mem_append, List.mem_flatMap,
      Item.exists_mem_innerItems_iff]
  simp only [Item.exportedClassesOf_eq, List.mem_filterMap, Item.exportedClass?_eq_some_iff, hopen,
    and_comm]

/-- Only the own exports of a body are listed exactly if no body inside it exports a class. -/
theorem Item.exportedClassesOf_eq_ownClasses_iff :
    Item.exportedClassesOf items = Item.ownClasses items ↔
      ∀ body, Item.Enclose items body → Item.ownClasses body = [] := by
  have hperm := (Item.openItemsOf_perm items).filterMap Item.exportedClass?
  rw [List.filterMap_append] at hperm
  have hsublist := (Item.sublist_openItemsOf items).filterMap Item.exportedClass?
  have hinner : (items.flatMap Item.innerItems).filterMap Item.exportedClass? = [] ↔
      ∀ body, Item.Enclose items body → Item.ownClasses body = [] := by
    simp only [Item.ownClasses, List.filterMap_eq_nil_iff, List.mem_flatMap,
      Item.exists_mem_innerItems_iff]
    exact ⟨fun h body hbody item hitem => h item ⟨body, hbody, hitem⟩,
      fun h item ⟨body, hbody, hitem⟩ => h body hbody item hitem⟩
  rw [Item.exportedClassesOf_eq, Item.ownClasses, ← hinner]
  constructor
  · intro heq
    have hlength := hperm.length_eq
    rw [heq, List.length_append] at hlength
    exact List.length_eq_zero_iff.1 (by omega)
  · intro hnil
    rw [hnil, List.append_nil] at hperm
    exact (hsublist.eq_of_length hperm.length_eq.symm).symm

/-! ## Modules -/

namespace Module

/-- What is listed as exported by a module with certain items. -/
structure ListsExports (items : List Item) (classes : List ExportedClass) : Prop where
  /-- There is one entry for each class behind an export that stands behind no other, in the order
  of the script. -/
  eq_open : classes = Item.ownClasses (Item.openItemsOf items)
  /-- An entry is exported by an item of the module or of a body that the module encloses. -/
  mem_iff : ∀ entry, entry ∈ classes ↔ ∃ item, item.Exports entry ∧
    (item ∈ items ∨ ∃ body, Item.Enclose items body ∧ item ∈ body)
  /-- The exports of the module itself are all listed, in their order. -/
  own_sublist : (Item.ownClasses items).Sublist classes
  /-- Nothing else is listed exactly if no body that the module encloses exports a class. -/
  eq_own_iff : classes = Item.ownClasses items ↔
    ∀ body, Item.Enclose items body → Item.ownClasses body = []

/-- The classes of the items of a module are listed by the rules. -/
theorem listsExports_exportedClassesOf (items : List Item) :
    ListsExports items (Item.exportedClassesOf items) where
  eq_open := Item.exportedClassesOf_eq items
  mem_iff _ := Item.mem_exportedClassesOf_iff
  own_sublist := by
    rw [Item.exportedClassesOf_eq]
    exact (Item.sublist_openItemsOf items).filterMap _
  eq_own_iff := Item.exportedClassesOf_eq_ownClasses_iff

/-- However the items of modules are read, for every text that is a module its exported classes are
listed, and with them those of the namespaces inside it. -/
theorem listsExports_of_outline {itemsOf : ItemReader} {path text : String} {items : List Item}
    (h : itemsOf path text = .ok items) :
    ∃ classes, exportedClasses itemsOf path text = .ok classes ∧ ListsExports items classes := by
  refine ⟨Item.exportedClassesOf items, ?_, listsExports_exportedClassesOf items⟩
  rw [exportedClasses, h, Except.map]

/-- A namespace inside a function, behind an exported class. -/
theorem listsExports_of_outline_namespace :
    let text := "export class A {} function f() { namespace N { export class B {} } }"
    ∃ items classes, outline "a.guard.ts" text = .ok items ∧
      exportedClasses outline "a.guard.ts" text = .ok classes ∧ ListsExports items classes := by
  intro text
  have hmodule : (outline "a.guard.ts" text).isOk = true := by decide +kernel
  cases h : outline "a.guard.ts" text with
  | error message =>
    rw [h] at hmodule
    cases hmodule
  | ok items =>
    obtain ⟨classes, hclasses, hlists⟩ := listsExports_of_outline h
    exact ⟨items, classes, rfl, hclasses, hlists⟩

/-- A class is listed for a module that exports none. -/
theorem exportedClasses_ne_own :
    let text := "namespace N { export class X { canActivate() {} } }"
    (outline "a.guard.ts" text).map Item.ownClasses = .ok [] ∧
      exportedClasses outline "a.guard.ts" text = .ok [⟨some "X", ["canActivate"]⟩] := by
  decide +kernel

end Module

end PageRoutes.Script
