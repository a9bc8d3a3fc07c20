import PageRoutes.Emission
import Mathlib.Data.List.Basic

/-!
# Reading entries back

The entries of the array of routes say of every route its path, its redirection, the name of its
component, and the class name and the capabilities of its guard.  A reader recovers all of this
from the text, whatever the paths and targets are, as long as names consist of name characters.
So trees with the same text have the same shape and say the same.
-/

namespace PageRoutes

/-! ## What entries say -/

/-- What the entry of a route says of it. -/
structure ShownRoute where
  pathSegment : String
  redirect : Option Redirect
  /-- The name of the component. -/
  component : Option String
  /-- The class name of the guard and its capabilities, each once and in written order. -/
  guard : Option (String × List Capability)
deriving Repr, DecidableEq

/-- What the entry of a route says of it and of the routes below it. -/
inductive ShownTree where
  | node (route : ShownRoute) (children : List ShownTree)
deriving Repr

/-- What the entry of a route with the given label says of it. -/
def RouteLabel.shown (label : RouteLabel) : ShownRoute where
  pathSegment := label.pathSegment
  redirect := label.redirect
  component := label.component.map (·.identifier)
  guard := label.guard.map fun guard =>
    (guard.className, Capability.all.filter guard.capabilities.contains)

mutual

/-- What the entry of a tree says. -/
def RouteTree.shown : RouteTree → ShownTree
  | .node label children => .node label.shown (shownAll children)

/-- What the entries of several trees say. -/
def RouteTree.shownAll : List RouteTree → List ShownTree
  | [] => []
  | tree :: rest => shown tree :: shownAll rest

end

/-- A character of which the names of components and guards may consist. -/
def isNameChar (c : Char) : Bool :=
  c.isAlphanum || c == '_' || c == '$'

/-- A route whose component and guard have names of name characters, and whose guard answers at
least one question. -/
structure RouteLabel.HasPlainNames (label : RouteLabel) : Prop where
  component : ∀ component, label.component = some component →
    ∀ c ∈ component.identifier.toList, isNameChar c = true
  guard : ∀ guard, label.guard = some guard →
    (∀ c ∈ guard.className.toList, isNameChar c = true) ∧ guard.capabilities ≠ []

instance (label : RouteLabel) : Decidable label.HasPlainNames :=
  decidable_of_iff
    ((∀ component ∈ label.component, component.identifier.toList.all isNameChar = true) ∧
      ∀ guard ∈ label.guard,
        guard.className.toList.all isNameChar = true ∧ guard.capabilities ≠ [])
    ⟨fun h => ⟨fun component hcomponent => List.all_eq_true.1 (h.1 component hcomponent),
        fun guard hguard => (h.2 guard hguard).imp_left List.all_eq_true.1⟩,
      fun h => ⟨fun component hcomponent => List.all_eq_true.2 (h.component component hcomponent),
        fun guard hguard => (h.guard guard hguard).imp_left List.all_eq_true.2⟩⟩

/-! ## The reader -/

/-- A reader takes what it reads from the front of a text and leaves the rest. -/
abbrev EntryReader := StateT (List Char) Option

namespace EntryReader

/-- Reads a text that is known beforehand. -/
def mark (text : String) : EntryReader Unit := fun cs =>
  (text.toList.isPrefixOf? cs).map fun rest => ((), rest)

/-- Reads blanks, if there are any. -/
def blanks : EntryReader Unit := fun cs =>
  some ((), cs.dropWhile (· == ' '))

/-- Reads a literal; nothing but a quote or a backslash may stand behind a backslash. -/
def literal : EntryReader String := fun cs =>
  (Script.unquote? cs).bind fun (text, rest) =>
    if (Script.quote (String.ofList text)).toList ++ rest = cs then some (String.ofList text, rest)
    else none

/-- Reads a name. -/
def name : EntryReader String := fun cs =>
  some (String.ofList (cs.takeWhile isNameChar), cs.dropWhile isNameChar)

/-- Reads a comma and the key of a field. -/
def key : EntryReader String
  | ',' :: ' ' :: cs =>
    match cs.dropWhile (· != ':') with
    | ':' :: ' ' :: rest => some (String.ofList (cs.takeWhile (· != ':')), rest)
    | _ => none
  | _ => none

/-- Reads the field with the given key, if that is the next one. -/
def field {α : Type} (wanted : String) (value : EntryReader α) : EntryReader (Option α) := fun cs =>
  match key cs with
  | some (found, rest) =>
    if found = wanted then (value rest).map fun (v, left) => (some v, left) else some (none, cs)
  | none => some (none, cs)

/-- Reads how much of an address a redirection has to match. -/
def pathMatch : EntryReader PathMatch := do
  let text ← literal
  if text = PathMatch.full.text then return .full
  else if text = PathMatch.initial.text then return .initial
  else failure

/-- Reads a redirection from its target on. -/
def redirect : EntryReader Redirect := do
  let target ← literal
  mark ", pathMatch: "
  let amount ← pathMatch
  return ⟨target, amount⟩

/-- Reads the class name of a guard. -/
def className : EntryReader String := do
  mark "["
  let found ← name
  mark "]"
  return found

/-- Reads the fields of a guard for the given capabilities. -/
def guards : List Capability → EntryReader (List (String × Capability))
  | [] => return []
  | capability :: others => do
    let found ← field capability.methodName className
    let rest ← guards others
    return (found.map fun className => (className, capability)).toList ++ rest

/-- The guard that some fields describe. -/
def guardOf : List (String × Capability) → Option (String × List Capability)
  | [] => none
  | (className, capability) :: more => some (className, capability :: more.map (·.2))

/-- Reads the routes below a route. -/
def block (routes : EntryReader (List ShownTree)) : EntryReader (List ShownTree) := do
  mark "[\n"
  let trees ← routes
  mark "\n"
  blanks
  mark "]"
  return trees

/-- Reads one entry, given how to read those of the routes below. -/
def entry (routes : EntryReader (List ShownTree)) : EntryReader ShownTree := do
  blanks
  mark "\x7b path: "
  let path ← literal
  let target ← field "redirectTo" redirect
  let component ← field "component" name
  let children ← field "children" (block routes)
  let fields ← guards Capability.all
  mark " \x7d"
  return .node ⟨path, target, component, guardOf fields⟩ (children.getD [])

/-- Reads the entries that follow a comma at the end of a line, if there is one. -/
def following (routes : EntryReader (List ShownTree)) : EntryReader (List ShownTree) := fun cs =>
  match mark ",\n" cs with
  | some (_, rest) => routes rest
  | none => some ([], cs)

/-- Reads one or more entries from a text that is no longer than the given bound. -/
def entries : Nat → EntryReader (List ShownTree)
  | 0 => failure
  | bound + 1 => do
    let first ← entry (entries bound)
    let rest ← following (entries bound)
    return first :: rest

end EntryReader

/-- What the entries say that a text consists of. -/
def readEntries? (text : String) : Option (List ShownTree) :=
  if text = "" then some []
  else match EntryReader.entries text.toList.length text.toList with
    | some (trees, []) => some trees
    | _ => none

/-! ## Reading what was written -/

namespace EntryReader

variable {α β : Type} {cs rest : List Char}

/-- A computation in two steps goes on with what its first step leaves. -/
theorem bind_eq {x : EntryReader α} {f : α → EntryReader β} {a : α} (h : x cs = some (a, rest)) :
    (x >>= f) cs = f a rest := by
  show (x cs).bind (fun p => f p.1 p.2) = f a rest
  rw [h, Option.bind_some]

theorem mark_append (text : String) (rest : List Char) :
    mark text (text.toList ++ rest) = some ((), rest) := by
  rw [mark, List.isPrefixOf?_eq_some_iff_append_eq.2 rfl, Option.map_some]

theorem blanks_indent (depth : Nat) {c : Char} (hrest : rest.head? = some c) (hc : c ≠ ' ') :
    blanks ((Emission.indent depth).toList ++ rest) = some ((), rest) := by
  have hall : ∀ b ∈ List.replicate (2 * (depth + 1)) ' ', (b == ' ') = true := by
    intro b hb
    rw [List.eq_of_mem_replicate hb, beq_self_eq_true]
  obtain ⟨cs, rfl⟩ := List.head?_eq_some_iff.1 hrest
  rw [blanks, Emission.indent, String.toList_ofList, List.dropWhile_append_of_pos hall,
    List.dropWhile_cons_of_neg (by simpa using hc)]

theorem literal_quote (text : String) (rest : List Char) :
    literal ((Script.quote text).toList ++ rest) = some (text, rest) := by
  rw [literal, Script.unquote?_quote, Option.bind_some]
  simp only [String.ofList_toList, if_true]

/-! ### Fields -/

/-- A text that goes on with one of the given fields or with none, and not with a name. -/
structure GoesOn (keys : List String) (cs : List Char) : Prop where
  mem_keys : ∀ found rest, key cs = some (found, rest) → found ∈ keys
  ends_name : ∀ c ∈ cs.head?, isNameChar c = false

/-- The text of a field with a comma in front, if there is the field. -/
def part (wanted : String) (write : α → List Char) : Option α → List Char
  | none => []
  | some v => ", ".toList ++ wanted.toList ++ ": ".toList ++ write v

theorem key_part {wanted : String} (hcolon : ':' ∉ wanted.toList) (write : α → List Char) (v : α)
    (rest : List Char) :
    key (part wanted write (some v) ++ rest) = some (wanted, write v ++ rest) := by
  have hall : ∀ c ∈ wanted.toList, (c != ':') = true := by
    intro c hc
    rw [bne_iff_ne]
    rintro rfl
    exact hcolon hc
  have hshape : part wanted write (some v) ++ rest =
      ',' :: ' ' :: (wanted.toList ++ ':' :: ' ' :: (write v ++ rest)) := by
    simp [part]
  rw [hshape, key, List.dropWhile_append_of_pos hall, List.dropWhile_cons_of_neg (by decide),
    List.takeWhile_append_of_pos hall, List.takeWhile_cons_of_neg (by decide), List.append_nil,
    String.ofList_toList]
  rfl

theorem GoesOn.part {keys : List String} (h : GoesOn keys rest) (wanted : String)
    (hcolon : ':' ∉ wanted.toList) (write : α → List Char) (x : Option α) :
    GoesOn (wanted :: keys) (part wanted write x ++ rest) := by
  cases x with
  | none =>
    refine ⟨fun found left hkey => ?_, h.ends_name⟩
    exact List.mem_cons_of_mem _ (h.mem_keys found left hkey)
  | some v =>
    refine ⟨fun found left hkey => ?_, fun c hc => ?_⟩
    · rw [key_part hcolon, Option.some.injEq, Prod.mk.injEq] at hkey
      exact hkey.1 ▸ List.mem_cons_self
    · have hcomma : c = ',' := by simpa [EntryReader.part, eq_comm] using hc
      rw [hcomma]
      decide

/-- A field that may be missing is read as it was written. -/
theorem field_part {keys : List String} (h : GoesOn keys rest) {wanted : String}
    (hcolon : ':' ∉ wanted.toList) (hnew : wanted ∉ keys) {value : EntryReader β}
    {write : α → List Char} {shown : α → β} {x : Option α}
    (hvalue : ∀ v, x = some v → value (write v ++ rest) = some (shown v, rest)) :
    field wanted value (part wanted write x ++ rest) = some (x.map shown, rest) := by
  cases x with
  | none =>
    show field wanted value rest = some (none, rest)
    rw [field]
    cases hkey : key rest with
    | none => rfl
    | some found =>
      have hother : found.1 ≠ wanted := fun heq => hnew (heq ▸ h.mem_keys _ _ hkey)
      simp only [if_neg hother]
  | some v =>
    rw [field, key_part hcolon]
    simp only [if_true, hvalue v rfl, Option.map_some]

/-! ### Values of fields -/

theorem name_append {text : String} (htext : ∀ c ∈ text.toList, isNameChar c = true)
    (hrest : ∀ c ∈ rest.head?, isNameChar c = false) :
    name (text.toList ++ rest) = some (text, rest) := by
  rw [name, List.takeWhile_append_of_pos htext, List.dropWhile_append_of_pos htext]
  cases rest with
  | nil => rw [List.takeWhile_nil, List.dropWhile_nil, List.append_nil, String.ofList_toList]
  | cons c rest =>
    have hc : ¬isNameChar c = true := by simpa using hrest c rfl
    rw [List.takeWhile_cons_of_neg hc, List.dropWhile_cons_of_neg hc, List.append_nil,
      String.ofList_toList]

theorem pathMatch_quote (amount : PathMatch) (rest : List Char) :
    pathMatch ((Script.quote amount.text).toList ++ rest) = some (amount, rest) := by
  rw [pathMatch, bind_eq (literal_quote _ _)]
  cases amount <;> rfl

/-- The text of a redirection from its target on. -/
def redirectChars (redirect : Redirect) : List Char :=
  (Script.quote redirect.target).toList ++
    (", pathMatch: ".toList ++ (Script.quote redirect.pathMatch.text).toList)

theorem redirect_append (r : Redirect) (rest : List Char) :
    redirect (redirectChars r ++ rest) = some (r, rest) := by
  rw [redirectChars, List.append_assoc, List.append_assoc, redirect, bind_eq (literal_quote _ _),
    bind_eq (mark_append _ _), bind_eq (pathMatch_quote _ _)]
  rfl

/-- The text of the class name of a guard. -/
def classChars (text : String) : List Char :=
  "[".toList ++ (text.toList ++ "]".toList)

theorem className_append {text : String} (htext : ∀ c ∈ text.toList, isNameChar c = true)
    (rest : List Char) : className (classChars text ++ rest) = some (text, rest) := by
  have hend : ∀ c ∈ ("]".toList ++ rest).head?, isNameChar c = false := by
    intro c hc
    obtain rfl : ']' = c := Option.some.inj hc
    decide
  rw [classChars, List.append_assoc, List.append_assoc, className, bind_eq (mark_append _ _),
    bind_eq (name_append htext hend), bind_eq (mark_append _ _)]
  rfl

/-! ### Guards -/

/-- The class name of a guard that answers a question. -/
def answering (guard : Option AttachedGuard) (capability : Capability) : Option String :=
  guard.bind fun guard =>
    if guard.capabilities.contains capability then some guard.className else none

/-- The text of the field of a guard for a capability. -/
def guardChars (guard : Option AttachedGuard) (capability : Capability) : List Char :=
  part capability.methodName classChars (answering guard capability)

/-- The fields of a guard are read as they were written. -/
theorem guards_append {guard : Option AttachedGuard}
    (hnames : ∀ g, guard = some g → ∀ c ∈ g.className.toList, isNameChar c = true)
    (hrest : GoesOn [] rest) {capabilities : List Capability} (hnodup : capabilities.Nodup) :
    guards capabilities (capabilities.flatMap (guardChars guard) ++ rest) =
        some (capabilities.flatMap fun c => ((answering guard c).map fun n => (n, c)).toList,
          rest) ∧
      GoesOn (capabilities.map Capability.methodName)
        (capabilities.flatMap (guardChars guard) ++ rest) := by
  induction capabilities with
  | nil => exact ⟨rfl, hrest⟩
  | cons capability others ih =>
    obtain ⟨hnew, hothers⟩ := List.nodup_cons.1 hnodup
    obtain ⟨hread, hgoes⟩ := ih hothers
    have hcolon : ':' ∉ capability.methodName.toList := by
      cases capability <;> decide
    have hinjective : ∀ a b : Capability, a.methodName = b.methodName → a = b := by
      intro a b
      cases a <;> cases b <;> decide
    have hkey : capability.methodName ∉ others.map Capability.methodName := by
      intro hmem
      obtain ⟨other, hother, heq⟩ := List.mem_map.1 hmem
      exact hnew (hinjective _ _ heq ▸ hother)
    have hclass : ∀ v, answering guard capability = some v →
        className (classChars v ++ (others.flatMap (guardChars guard) ++ rest)) =
          some (id v, others.flatMap (guardChars guard) ++ rest) := by
      intro v hv
      obtain ⟨g, hg, hv⟩ := Option.bind_eq_some_iff.1 hv
      have hv' : v = g.className := by
        split at hv
        · exact (Option.some.inj hv).symm
        · cases hv
      exact className_append (hv' ▸ hnames g hg) _
    rw [List.flatMap_cons, List.append_assoc, guardChars]
    refine ⟨?_, hgoes.part _ hcolon _ _⟩
    rw [guards, bind_eq (field_part hgoes hcolon hkey hclass), bind_eq hread, Option.map_id]
    rfl

/-- What the fields of a guard describe. -/
theorem guardOf_answering {guard : Option AttachedGuard}
    (hsome : ∀ g, guard = some g → g.capabilities ≠ []) :
    guardOf (Capability.all.flatMap fun c => ((answering guard c).map fun n => (n, c)).toList) =
      guard.map fun g => (g.className, Capability.all.filter g.capabilities.contains) := by
  cases guard with
  | none => rfl
  | some g =>
    have hfields : (Capability.all.flatMap fun c =>
        ((answering (some g) c).map fun n => (n, c)).toList) =
          (Capability.all.filter g.capabilities.contains).map fun c => (g.className, c) := by
      generalize Capability.all = capabilities
      induction capabilities with
      | nil => rfl
      | cons c others ih =>
        rw [List.flatMap_cons, ih, answering, Option.bind_some]
        by_cases hc : g.capabilities.contains c = true
        · rw [if_pos hc, List.filter_cons_of_pos hc]
          rfl
        · rw [if_neg hc, List.filter_cons_of_neg hc]
          rfl
    obtain ⟨c, hc⟩ := List.exists_mem_of_ne_nil _ (hsome g rfl)
    have hmem : c ∈ Capability.all.filter g.capabilities.contains := by
      refine List.mem_filter.2 ⟨by cases c <;> decide, by simpa using hc⟩
    obtain ⟨first, others, hfilter⟩ := List.exists_cons_of_ne_nil (List.ne_nil_of_mem hmem)
    rw [hfields, Option.map_some, hfilter, List.map_cons, guardOf, List.map_map]
    exact congrArg (fun cs => some (g.className, first :: cs)) (List.map_id others)

end EntryReader

/-! ### Entries -/

namespace Emission

open EntryReader

/-- A list of fields is its first field and then every other one behind a comma. -/
theorem toList_fieldText (first : String) (others : List String) :
    (fieldText (first :: others)).toList =
      first.toList ++ others.flatMap fun f => ", ".toList ++ f.toList := by
  induction others generalizing first with
  | nil => simp [fieldText]
  | cons second others ih =>
    have hsecond := ih second
    rw [fieldText] at hsecond ⊢
    rw [String.intercalate_cons_cons, String.toList_append, String.toList_append, hsecond,
      List.flatMap_cons]
    simp only [List.append_assoc]

/-- Siblings, if there are any. -/
def someTrees : List RouteTree → Option (List RouteTree)
  | [] => none
  | trees => some trees

/-- The text of the routes below a route. -/
def blockChars (depth : Nat) (trees : List RouteTree) : List Char :=
  "[\n".toList ++ ((entryText (entries (depth + 1) trees)).toList ++
    ("\n".toList ++ ((indent depth).toList ++ "]".toList)))

/-- The fields of a guard, each behind a comma. -/
theorem flatMap_trailingFields (label : RouteLabel) :
    ((trailingFields label).flatMap fun f => ", ".toList ++ f.toList) =
      Capability.all.flatMap (guardChars label.guard) := by
  cases hguard : label.guard with
  | none => rw [trailingFields, hguard]; rfl
  | some g =>
    rw [trailingFields, hguard, Option.elim_some, guardFields, List.flatMap_map]
    generalize Capability.all = capabilities
    induction capabilities with
    | nil => rfl
    | cons c others ih =>
      rw [List.flatMap_cons, ← ih, guardChars, answering, Option.bind_some]
      by_cases hc : g.capabilities.contains c = true
      · rw [if_pos hc, List.filter_cons_of_pos hc, List.flatMap_cons]
        congr 1
        simp [part, classChars]
      · rw [if_neg hc, List.filter_cons_of_neg hc]
        rfl

/-- The fields in front of the routes below, each behind a comma but the path. -/
theorem leadingFields_eq (label : RouteLabel) :
    ∃ others, leadingFields label = ("path: " ++ Script.quote label.pathSegment) :: others ∧
      (others.flatMap fun f => ", ".toList ++ f.toList) =
        part "redirectTo" redirectChars label.redirect ++
          part "component" String.toList (label.component.map (·.identifier)) := by
  refine ⟨_, rfl, ?_⟩
  cases label.redirect <;> cases label.component <;>
    simp [redirectFields, part, redirectChars]

/-- An entry with leaves and branches told apart by one field only. -/
theorem toList_entry (depth : Nat) (label : RouteLabel) (children : List RouteTree) :
    (entry depth (.node label children)).toList =
      (indent depth).toList ++ ("\x7b path: ".toList ++ ((Script.quote label.pathSegment).toList ++
        (part "redirectTo" redirectChars label.redirect ++
          (part "component" String.toList (label.component.map (·.identifier)) ++
            (part "children" (blockChars depth) (someTrees children) ++
              (Capability.all.flatMap (guardChars label.guard) ++ " \x7d".toList)))))) := by
  obtain ⟨others, hleading, hothers⟩ := leadingFields_eq label
  cases children with
  | nil =>
    rw [entry, hleading, List.cons_append]
    simp only [String.toList_append, toList_fieldText, List.flatMap_append, hothers,
      flatMap_trailingFields, List.append_assoc]
    simp [someTrees, part]
  | cons child more =>
    rw [entry, hleading, List.cons_append]
    simp only [String.toList_append, toList_fieldText, List.flatMap_append, hothers,
      flatMap_trailingFields, List.append_assoc]
    simp [someTrees, part, blockChars]

theorem toList_entryText_cons (depth : Nat) (tree : RouteTree) (more : List RouteTree) :
    (entryText (entries depth (tree :: more))).toList =
      (entry depth tree).toList ++ (someTrees more).elim [] fun more =>
        ",\n".toList ++ (entryText (entries depth more)).toList := by
  cases more with
  | nil => simp [entries, entryText, someTrees]
  | cons second more => simp [entries, entryText, someTrees, String.intercalate_cons_cons]

variable {depth : Nat} {label : RouteLabel} {trees : List RouteTree} {rest : List Char}

/-- An entry is read as it was written, if the entries of the routes below are. -/
theorem read_entry {routes : EntryReader (List ShownTree)} (hnames : label.HasPlainNames)
    (hroutes : ∀ more, someTrees trees = some more → ∀ left, mark ",\n" left = none →
      routes ((entryText (entries (depth + 1) more)).toList ++ left) =
        some (RouteTree.shownAll more, left)) :
    EntryReader.entry routes ((entry depth (.node label trees)).toList ++ rest) =
      some (RouteTree.shown (.node label trees), rest) := by
  -- from the end to the front: what each field leaves goes on with one of the later fields
  have hend : GoesOn [] (" \x7d".toList ++ rest) := by
    refine ⟨fun found left hkey => ?_, fun c hc => ?_⟩
    · cases hkey
    · obtain rfl : ' ' = c := Option.some.inj hc
      decide
  have hnodup : Capability.all.Nodup := by decide
  obtain ⟨hguards, hgoes⟩ := guards_append (fun g hg => (hnames.guard g hg).1) hend hnodup
  have hblock : ∀ more, someTrees trees = some more →
      block routes (blockChars depth more ++
        (Capability.all.flatMap (guardChars label.guard) ++ (" \x7d".toList ++ rest))) =
          some (RouteTree.shownAll more,
            Capability.all.flatMap (guardChars label.guard) ++ (" \x7d".toList ++ rest)) := by
    intro more hmore
    rw [blockChars, block]
    simp only [List.append_assoc]
    rw [bind_eq (mark_append _ _), bind_eq (hroutes more hmore _ rfl), bind_eq (mark_append _ _),
      bind_eq (blanks_indent depth (c := ']') rfl (by decide)), bind_eq (mark_append _ _)]
    rfl
  have hchildren := hgoes.part "children" (by decide) (blockChars depth) (someTrees trees)
  have hcomponent := hchildren.part "component" (by decide) String.toList
    (label.component.map (·.identifier))
  have hname : ∀ v, label.component.map (·.identifier) = some v → ∀ c ∈ v.toList,
      isNameChar c = true := by
    intro v hv
    obtain ⟨component, hlabel, rfl⟩ := Option.map_eq_some_iff.1 hv
    exact hnames.component component hlabel
  rw [toList_entry]
  simp only [List.append_assoc]
  rw [EntryReader.entry, bind_eq (blanks_indent depth (c := '\x7b') rfl (by decide)),
    bind_eq (mark_append _ _), bind_eq (literal_quote _ _),
    bind_eq (field_part hcomponent (by decide) (by decide) fun r _ => redirect_append r _),
    bind_eq (field_part hchildren (by decide) (by decide) fun v hv =>
      name_append (hname v hv) hchildren.ends_name),
    bind_eq (field_part hgoes (by decide) (by decide) hblock), bind_eq hguards,
    bind_eq (mark_append _ _), Option.map_id', Option.map_id',
    guardOf_answering fun g hg => (hnames.guard g hg).2]
  have hshown : ((someTrees trees).map RouteTree.shownAll).getD [] = RouteTree.shownAll trees := by
    cases trees <;> rfl
  rw [hshown]
  rfl

/-- The routes below a route take up a part of its entry. -/
theorem length_entryText_lt (depth : Nat) (label : RouteLabel) {more : List RouteTree}
    (hmore : someTrees trees = some more) :
    (entryText (entries (depth + 1) more)).toList.length <
      (entry depth (.node label trees)).toList.length := by
  rw [toList_entry, hmore]
  simp only [part, blockChars, List.length_append]
  have hmark : 0 < "[\n".toList.length := by decide
  omega

theorem length_entry_pos (depth : Nat) (tree : RouteTree) :
    0 < (entry depth tree).toList.length := by
  obtain ⟨label, children⟩ := tree
  rw [toList_entry, List.length_append, List.length_append]
  have hmark : 0 < "\x7b path: ".toList.length := by decide
  omega

/-- A text of entries is read as it was written. -/
theorem read_entries {bound : Nat} (hne : trees ≠ [])
    (hbound : (entryText (entries depth trees)).toList.length ≤ bound)
    (hnames : ∀ label ∈ RouteTree.labelsOfAll trees, label.HasPlainNames)
    (hrest : mark ",\n" rest = none) :
    EntryReader.entries bound ((entryText (entries depth trees)).toList ++ rest) =
      some (RouteTree.shownAll trees, rest) := by
  induction bound generalizing depth trees rest with
  | zero =>
    obtain ⟨tree, more, rfl⟩ := List.exists_cons_of_ne_nil hne
    rw [toList_entryText_cons, List.length_append] at hbound
    have hpos := length_entry_pos depth tree
    omega
  | succ bound ih =>
    obtain ⟨⟨label, children⟩, more, rfl⟩ := List.exists_cons_of_ne_nil hne
    rw [toList_entryText_cons, List.length_append] at hbound
    rw [RouteTree.labelsOfAll, RouteTree.labels, List.cons_append, List.forall_mem_cons,
      List.forall_mem_append] at hnames
    obtain ⟨hlabel, hchildren, hmore⟩ := hnames
    -- what hangs below the first route is shorter than its entry
    have hfirst : ∀ left, EntryReader.entry (EntryReader.entries bound)
        ((entry depth (.node label children)).toList ++ left) =
          some (RouteTree.shown (.node label children), left) := by
      intro left
      refine read_entry hlabel fun below hbelow left hleft => ?_
      have hlt := length_entryText_lt depth label hbelow
      cases children with
      | nil => cases hbelow
      | cons child others =>
        obtain rfl : child :: others = below := Option.some.inj hbelow
        exact ih (List.cons_ne_nil _ _) (by omega) hchildren hleft
    rw [toList_entryText_cons, List.append_assoc, EntryReader.entries, bind_eq (hfirst _)]
    cases more with
    | nil =>
      have hnone : following (EntryReader.entries bound) rest = some ([], rest) := by
        rw [following, hrest]
      exact bind_eq hnone
    | cons second others =>
      have hpos := length_entry_pos depth (.node label children)
      simp only [someTrees, Option.elim_some, List.length_append, List.append_assoc] at hbound ⊢
      have hshorter : (entryText (entries depth (second :: others))).toList.length ≤ bound := by
        omega
      have hothers := ih (List.cons_ne_nil second others) hshorter hmore hrest
      have hsome : following (EntryReader.entries bound)
          (",\n".toList ++ ((entryText (entries depth (second :: others))).toList ++ rest)) =
            some (RouteTree.shownAll (second :: others), rest) := by
        rw [following, mark_append]
        exact hothers
      exact bind_eq hsome

/-- The text of a configuration is read back to what it says of every route. -/
theorem readEntries?_configurationText {config : RouteTree}
    (hnames : ∀ label ∈ RouteTree.labelsOfAll config.children, label.HasPlainNames) :
    readEntries? (ofTree config).configurationText = some (RouteTree.shownAll config.children) := by
  show readEntries? (entryText (entries 0 config.children)) = _
  by_cases hnil : config.children = []
  · rw [hnil]
    rfl
  · obtain ⟨tree, more, htrees⟩ := List.exists_cons_of_ne_nil hnil
    have hpos : 0 < (entryText (entries 0 config.children)).toList.length := by
      rw [htrees, toList_entryText_cons, List.length_append]
      have hfirst := length_entry_pos 0 tree
      omega
    have htext : entryText (entries 0 config.children) ≠ "" := by
      intro hempty
      rw [hempty] at hpos
      exact absurd hpos (by decide)
    have hread : EntryReader.entries _ ((entryText (entries 0 config.children)).toList ++ []) = _ :=
      read_entries hnil (Nat.le_refl _) hnames rfl
    rw [List.append_nil] at hread
    rw [readEntries?, if_neg htext, hread]

/-- Trees whose entries have the same text say the same of every route, and a reader recovers it
from the text. -/
theorem shownAll_eq_of_configurationText_eq {config config' : RouteTree}
    (hnames : ∀ label ∈ RouteTree.labelsOfAll config.children, label.HasPlainNames)
    (hnames' : ∀ label ∈ RouteTree.labelsOfAll config'.children, label.HasPlainNames) :
    readEntries? (ofTree config).configurationText = some (RouteTree.shownAll config.children) ∧
      ((ofTree config).configurationText = (ofTree config').configurationText →
        RouteTree.shownAll config.children = RouteTree.shownAll config'.children) := by
  have hread := readEntries?_configurationText hnames
  refine ⟨hread, fun htext => ?_⟩
  rw [htext, readEntries?_configurationText hnames'] at hread
  exact (Option.some.inj hread).symm

/-- A path that imitates the component of another route, with a route below it whose target ends in
a backslash and whose guard answers two questions. -/
theorem shownAll_eq_of_configurationText_eq_imitation :
    let guard : AttachedGuard :=
      ⟨"Guard_1", "./index.guard", [.canDeactivate, .canActivate], 0⟩
    let inner : RouteTree := .leaf { RouteLabel.plain .page "x" with
      redirect := some ⟨"y\\", .initial⟩, guard := some guard }
    let imitation : RouteTree := .node (RouteLabel.plain .config "")
      [.node (RouteLabel.plain .group "a', component: A") [inner]]
    let imitated : RouteTree := .node (RouteLabel.plain .config "")
      [.node { RouteLabel.plain .page "a" with component := some ⟨"A", "./a"⟩ } [inner]]
    (∀ label ∈ RouteTree.labelsOfAll imitation.children, label.HasPlainNames) ∧
      (∀ label ∈ RouteTree.labelsOfAll imitated.children, label.HasPlainNames) ∧
      readEntries? (ofTree imitation).configurationText =
        some (RouteTree.shownAll imitation.children) ∧
      (ofTree imitation).configurationText ≠ (ofTree imitated).configurationText := by
  intro guard inner imitation imitated
  have hnames : ∀ label ∈ RouteTree.labelsOfAll imitation.children, label.HasPlainNames := by
    decide
  have hnames' : ∀ label ∈ RouteTree.labelsOfAll imitated.children, label.HasPlainNames := by
    decide
  obtain ⟨hread, hsame⟩ := shownAll_eq_of_configurationText_eq hnames hnames'
  refine ⟨hnames, hnames', hread, fun htext => ?_⟩
  injection (List.cons.inj (hsame htext)).1 with hroute
  exact absurd (congrArg ShownRoute.pathSegment hroute) (by decide)

end Emission

end PageRoutes
