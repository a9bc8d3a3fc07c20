import PageRoutes.Guard
import PageRoutes.Script.Grammar.ModuleItem

/-!
# Modules

A module is a script with imports and exports.  `outline` reads one and keeps its outline, item by
item; `exportedClasses` lists the classes that are exported by the items.  The classes do not depend
on how the items are read, so the reader of the items is a parameter.
-/

namespace PageRoutes.Script

namespace Grammar

/-- The rule that a phrase names, in terms of the rules that it calls. -/
def ruleOf (grammar : Grammar) : (phrase : Phrase) → Reading phrase.Meaning
  | .type => grammar.type
  | .plainType => grammar.plainType
  | .prefixedType => grammar.prefixedType
  | .binder => grammar.binder
  | .parameters => grammar.parameters
  | .assignment => grammar.assignment
  | .unary => grammar.unary
  | .operation left level => grammar.operation left level
  | .memberExpression bare => grammar.memberExpression bare
  | .decorators => grammar.decorators
  | .classBody nameOptional decorators => grammar.classBody nameOptional decorators
  | .statement declares => grammar.statement declares
  | .block => grammar.block
  | .namespaceBody => grammar.namespaceBody

/-- The rules, which may call each other at most `depth` levels deep. -/
def toDepth (budget depth : Nat) (phrase : Phrase) : Reading phrase.Meaning :=
  match depth with
  | 0 => Reading.fault
  | depth + 1 => ruleOf ⟨budget, toDepth budget depth⟩ phrase

/-- The rules for scripts of the given length.  A rule that calls another one without moving the
cursor stands in front of it in an order of less than sixteen, so the depth suffices. -/
def forLength (length : Nat) : Grammar :=
  ⟨length + 4, toDepth (length + 4) (16 * (length + 4))⟩

end Grammar

namespace Module

/-- The text of a module without a mark of its encoding and without a first line that says how to
run it. -/
def body (text : String) : List Char :=
  let characters := text.toList
  let unmarked := if characters.head? == some '\ufeff' then characters.tail else characters
  match unmarked with
  | '#' :: '!' :: rest => rest.dropWhile (!isLineEnd ·)
  | _ => unmarked

/-- How to read the items of a module off the path and the text of its file, or why the text is no
module. -/
abbrev ItemReader := String → String → Except String (List Item)

/-- The classes that a module exports, in their order. -/
def exportedClasses (itemsOf : ItemReader) : ClassReader :=
  fun path text => (itemsOf path text).map Item.exportedClassesOf

/-- What is said of a text that is no module. -/
def faultMessage : String := "it is not a TypeScript module"

/-- The outline of a module, item by item; the path does not matter. -/
def outline : ItemReader := fun _ text =>
  let characters := body text
  match (Grammar.forLength characters.length).moduleItems {} (Cursor.start characters) with
  | .ok items _ => .ok items
  | .error _ _ => .error faultMessage

end Module

/-- Reads the exported classes of a file off its outline. -/
def classReader : ClassReader :=
  Module.exportedClasses Module.outline

end PageRoutes.Script
