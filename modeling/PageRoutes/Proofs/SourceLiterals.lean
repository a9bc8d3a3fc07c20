import PageRoutes.Proofs.EntryText
import PageRoutes.Proofs.ImportedNames
import PageRoutes.Proofs.NameWords

/-!
# Literals of the generated sources

Where the routing module writes a route, the literals of its path and of its redirection stand for
just these texts, whatever characters are in them.  The path of an import and the element name of a
component stand between quotes as they are.  They have no backslash, so such a literal stands for
its text exactly if there is no quote in the text either; otherwise it ends at that quote.
-/

namespace PageRoutes

namespace Script

/-- Behind `front`, the text goes on with `written`. -/
def HasText (text front written : String) : Prop :=
  ∃ more, text = front ++ (written ++ more)

/-- Behind `front`, the text goes on with a literal that stands for `value`, and then with
`next`. -/
def HasLiteral (text front value next : String) : Prop :=
  ∃ rest more, text.toList = front.toList ++ rest ∧
    unquote? rest = some (value.toList, next.toList ++ more)

variable {text front written others value next : String}

theorem HasText.left (h : HasText text front (written ++ others)) : HasText text front written := by
  obtain ⟨more, rfl⟩ := h
  exact ⟨others ++ more, by simp only [String.append_assoc]⟩

theorem HasText.right (h : HasText text front (written ++ others)) :
    HasText text (front ++ written) others := by
  obtain ⟨more, rfl⟩ := h
  exact ⟨more, by simp only [String.append_assoc]⟩

theorem HasText.toList_eq (h : HasText text front written) :
    ∃ more, text.toList = front.toList ++ (written.toList ++ more) := by
  obtain ⟨more, rfl⟩ := h
  exact ⟨more.toList, by rw [String.toList_append, String.toList_append]⟩

/-- A quoted text is a literal for it. -/
theorem hasLiteral_of_quote
    (h : ∃ more, text.toList = front.toList ++ ((quote value).toList ++ more)) :
    HasLiteral text front value "" := by
  obtain ⟨more, htext⟩ := h
  exact ⟨_, more, htext, unquote?_quote value more⟩

theorem flatMap_escape_eq_self {chars : List Char} (hback : '\\' ∉ chars) (hquote : '\'' ∉ chars) :
    chars.flatMap escape = chars := by
  induction chars with
  | nil => rfl
  | cons c chars ih =>
    simp only [List.mem_cons, not_or] at hback hquote
    have hplain : ¬(c = '\\' ∨ c = '\'') := not_or.2 ⟨Ne.symm hback.1, Ne.symm hquote.1⟩
    rw [List.flatMap_cons, ih hback.2 hquote.2, escape, if_neg hplain, List.singleton_append]

/-- A literal ends at its first quote, if there is no backslash in front. -/
theorem unquote?_bare {chars : List Char} (hback : '\\' ∉ chars) (hquote : '\'' ∉ chars)
    (rest : List Char) : unquote? ('\'' :: (chars ++ '\'' :: rest)) = some (chars, rest) := by
  have hread := unquoteFrom?_escape chars rest
  rwa [flatMap_escape_eq_self hback hquote] at hread

/-- A text between quotes is a literal for it exactly if there is no quote in it. -/
theorem hasLiteral_bare_iff (hback : '\\' ∉ value.toList)
    (h : HasText text front ("'" ++ (value ++ ("'" ++ next)))) :
    HasLiteral text front value next ↔ '\'' ∉ value.toList := by
  obtain ⟨more, htext⟩ := h.toList_eq
  have h : text.toList =
      front.toList ++ '\'' :: (value.toList ++ '\'' :: (next.toList ++ more)) := by
    simpa using htext
  constructor
  · rintro ⟨rest, left, hrest, hread⟩ hquote
    obtain ⟨short, others, hvalue, hfirst⟩ := List.eq_append_cons_of_mem hquote
    rw [hvalue, List.mem_append, not_or] at hback
    -- what is read ends at the first quote
    rw [h, List.append_cancel_left_eq] at hrest
    rw [← hrest, hvalue, List.append_assoc, List.cons_append, unquote?_bare hback.1 hfirst,
      Option.some.injEq, Prod.mk.injEq] at hread
    have hlength := congrArg List.length hread.1
    rw [List.length_append, List.length_cons] at hlength
    omega
  · intro hquote
    exact ⟨_, _, h, unquote?_bare hback hquote _⟩

end Script

open Script

/-! ## Imports -/

namespace Path

/-- An import path has no backslash, however the path of the file is spelled. -/
theorem backslash_not_mem_importSpecifier (file : String) :
    '\\' ∉ (importSpecifier file).toList := by
  have hnormal : '\\' ∉ (normalize file).toList := by
    rw [normalize, ofParts, String.toList_intercalate, mem_intercalate_iff (by decide)]
    rintro ⟨chars, hchars, hmem⟩
    obtain ⟨part, hpart, rfl⟩ := List.mem_map.1 hchars
    exact (isPart_of_mem_parts hpart).backslash_not_mem hmem
  rw [importSpecifier, String.toList_append, List.mem_append, not_or]
  refine ⟨by decide, fun hmem => hnormal ?_⟩
  unfold Text.dropEnding at hmem
  split at hmem
  · rw [String.toList_ofList] at hmem
    exact List.mem_of_mem_take hmem
  · exact hmem

end Path

namespace Emission

/-- All imports of the routing module: what each of them brings and from where. -/
def moduleImports (emission : Emission) : List (String × String) :=
  ("NgModule", "@angular/core") :: ("RouterModule,\n  Routes", "@angular/router") ::
    emission.imports.map fun entry => (entry.identifier, entry.path)

/-- The routing module up to the path of an import that brings `names` and stands behind the
`earlier` ones. -/
def importFront (earlier : List (String × String)) (names : String) : String :=
  String.join (earlier.map fun entry => importText entry.1 entry.2 ++ "\n\n") ++
    ("import \x7b\n  " ++ names ++ "\n\x7d from ")

variable {emission : Emission} {earlier later : List (String × String)} {names path : String}

/-- The routing module begins with its imports. -/
theorem exists_routingModule_eq (emission : Emission) :
    ∃ more, emission.routingModule =
      "\n\n".intercalate (emission.moduleImports.map fun entry => importText entry.1 entry.2) ++
        more := by
  have hentries : (emission.moduleImports.map fun entry => importText entry.1 entry.2) =
      importText "NgModule" "@angular/core"
        :: importText "RouterModule,\n  Routes" "@angular/router"
        :: emission.imports.map fun e => importText e.identifier e.path := by
    simp [moduleImports]
  rw [hentries, routingModule]
  cases himports : emission.imports with
  | nil =>
    rw [List.map_nil, String.intercalate_cons_cons, String.intercalate_singleton]
    simp only [String.append_assoc]
    exact ⟨_, rfl⟩
  | cons entry others =>
    rw [List.map_cons, String.intercalate_cons_cons, String.intercalate_cons_cons]
    simp only [String.append_assoc]
    exact ⟨_, rfl⟩

/-- The literal behind an import stands for the path exactly if the path has no quote. -/
theorem hasLiteral_import_iff (hback : '\\' ∉ path.toList)
    (h : emission.moduleImports = earlier ++ (names, path) :: later) :
    HasLiteral emission.routingModule (importFront earlier names) path ";" ↔
      '\'' ∉ path.toList := by
  obtain ⟨rest, hrest⟩ := exists_routingModule_eq emission
  rw [h, List.map_append, List.map_cons] at hrest
  obtain ⟨more, hmore⟩ := exists_intercalate_eq "\n\n"
    (earlier.map fun entry => importText entry.1 entry.2) (importText names path)
    (later.map fun entry => importText entry.1 entry.2)
  have hopen : "\n\x7d from '" = "\n\x7d from " ++ "'" := rfl
  have hclose : "';" = "'" ++ ";" := rfl
  refine hasLiteral_bare_iff hback ⟨more ++ rest, ?_⟩
  rw [hrest, hmore, importFront, List.map_map, importText, hopen, hclose]
  simp only [String.append_assoc]
  rfl

/-! ## Routes -/

mutual

/-- The text in front of every route that an entry writes, for the text in front of the entry. -/
def routeFronts (depth : Nat) (front : String) : RouteTree → List (String × RouteLabel)
  | .node label children =>
    (front ++ indent depth, label) :: routeFrontsOfAll (depth + 1)
      (front ++ indent depth ++ "\x7b " ++ fieldText (leadingFields label ++ ["children: [\n"]))
      children

/-- The text in front of every route that several entries write. -/
def routeFrontsOfAll (depth : Nat) (front : String) : List RouteTree → List (String × RouteLabel)
  | [] => []
  | tree :: rest =>
    routeFronts depth front tree ++ routeFrontsOfAll depth (front ++ entry depth tree ++ ",\n") rest

end

/-- The literals of a route whose entry stands behind `front` stand for its path, its target and
for how much of an address it has to match. -/
structure ShowsLiterals (text front : String) (label : RouteLabel) : Prop where
  pathSegment : HasLiteral text (front ++ "\x7b path: ") label.pathSegment ""
  target : ∀ redirect, label.redirect = some redirect →
    HasLiteral text
      (front ++ "\x7b path: " ++ quote label.pathSegment ++ ", redirectTo: ") redirect.target ""
  pathMatch : ∀ redirect, label.redirect = some redirect →
    HasLiteral text
      (front ++ "\x7b path: " ++ quote label.pathSegment ++ ", redirectTo: " ++
        quote redirect.target ++ ", pathMatch: ") redirect.pathMatch.text ""

mutual

/-- Every route of a tree has its place in the text. -/
theorem map_snd_routeFronts (depth : Nat) (front : String) (tree : RouteTree) :
    (routeFronts depth front tree).map (·.2) = tree.labels := by
  cases tree with
  | node label children =>
    rw [routeFronts, List.map_cons, map_snd_routeFrontsOfAll, RouteTree.labels]

theorem map_snd_routeFrontsOfAll (depth : Nat) (front : String) (trees : List RouteTree) :
    (routeFrontsOfAll depth front trees).map (·.2) = RouteTree.labelsOfAll trees := by
  cases trees with
  | nil => rfl
  | cons tree rest =>
    rw [routeFrontsOfAll, List.map_append, map_snd_routeFronts, map_snd_routeFrontsOfAll,
      RouteTree.labelsOfAll]

end

variable {text front : String} {depth : Nat}

/-- The literals in an entry are read as they were written, whatever the entry holds besides. -/
theorem showsLiterals_of_entry {label : RouteLabel} {children : List RouteTree}
    (h : HasText text front (entry depth (.node label children))) :
    ShowsLiterals text (front ++ indent depth) label := by
  obtain ⟨more, htext⟩ := h.toList_eq
  rw [toList_entry] at htext
  simp only [List.append_assoc] at htext
  have hkey : ", ".toList ++ "redirectTo".toList ++ ": ".toList = ", redirectTo: ".toList := by
    decide
  have hredirect : ∀ redirect, label.redirect = some redirect →
      ∃ rest, text.toList = (front ++ indent depth ++ "\x7b path: " ++ quote label.pathSegment ++
        ", redirectTo: ").toList ++ ((quote redirect.target).toList ++
          (", pathMatch: ".toList ++ ((quote redirect.pathMatch.text).toList ++ rest))) := by
    intro redirect hlabel
    rw [hlabel, EntryReader.part, hkey, EntryReader.redirectChars] at htext
    simp only [String.toList_append, List.append_assoc] at htext ⊢
    exact ⟨_, htext⟩
  refine ⟨hasLiteral_of_quote ?_, fun redirect hlabel => hasLiteral_of_quote ?_,
    fun redirect hlabel => hasLiteral_of_quote ?_⟩
  · simp only [String.toList_append, List.append_assoc]
    exact ⟨_, htext⟩
  · obtain ⟨rest, hrest⟩ := hredirect redirect hlabel
    exact ⟨_, hrest⟩
  · obtain ⟨rest, hrest⟩ := hredirect redirect hlabel
    simp only [String.toList_append, List.append_assoc] at hrest ⊢
    exact ⟨_, hrest⟩

mutual

/-- Every route of a tree shows its literals where the tree is written. -/
theorem showsLiterals_of_mem_routeFronts (tree : RouteTree) {depth : Nat} {front : String}
    (h : HasText text front (entry depth tree)) :
    ∀ place ∈ routeFronts depth front tree, ShowsLiterals text place.1 place.2 := by
  cases tree with
  | node label children =>
    rw [routeFronts, List.forall_mem_cons]
    refine ⟨showsLiterals_of_entry h, ?_⟩
    cases children with
    | nil => exact fun place hplace => absurd hplace List.not_mem_nil
    | cons child others =>
      rw [entry] at h
      have hbelow := h.left.left.left.left.right
      simp only [← String.append_assoc] at hbelow
      exact showsLiterals_of_mem_routeFrontsOfAll (child :: others) hbelow

theorem showsLiterals_of_mem_routeFrontsOfAll (trees : List RouteTree) {depth : Nat}
    {front : String} (h : HasText text front (entryText (entries depth trees))) :
    ∀ place ∈ routeFrontsOfAll depth front trees, ShowsLiterals text place.1 place.2 := by
  cases trees with
  | nil => exact fun place hplace => absurd hplace List.not_mem_nil
  | cons tree rest =>
    rw [routeFrontsOfAll, List.forall_mem_append]
    cases rest with
    | nil =>
      rw [entries, entries, entryText, String.intercalate_singleton] at h
      exact ⟨showsLiterals_of_mem_routeFronts tree h, fun place hplace =>
        absurd hplace List.not_mem_nil⟩
    | cons second others =>
      rw [entries, entries, entryText, String.intercalate_cons_cons] at h
      have hrest := h.right
      rw [← String.append_assoc] at hrest
      exact ⟨showsLiterals_of_mem_routeFronts tree h.left.left,
        showsLiterals_of_mem_routeFrontsOfAll (second :: others) hrest⟩

end

/-- The routing module up to the first of its routes. -/
def configurationFront (emission : Emission) : String :=
  importText "NgModule" "@angular/core" ++ "\n\n"
    ++ importText "RouterModule,\n  Routes" "@angular/router" ++ "\n\n"
    ++ "\n\n".intercalate (emission.imports.map fun e => importText e.identifier e.path) ++ "\n\n"
    ++ "const routes: Routes = [\n"

theorem hasText_configurationText (emission : Emission) :
    HasText emission.routingModule emission.configurationFront emission.configurationText := by
  rw [HasText, routingModule, configurationFront]
  simp only [String.append_assoc]
  exact ⟨_, rfl⟩

end Emission

/-! ## Components -/

namespace Page

/-- The source of a component up to its element name. -/
def selectorFront : String :=
  Emission.importText "Component" "@angular/core" ++ "\n\n" ++ "@Component(\x7b\n  selector: "

/-- A quote or a backslash stands in the element name of a component exactly if it stands in the
name of a directory on the way to the page. -/
theorem IsParsed.mem_selector_iff {page : Page} (h : page.IsParsed) {c : Char}
    (hc : c = '\'' ∨ c = '\\') :
    c ∈ page.selector.toList ↔ ∃ s ∈ page.segments, c ∈ s.name.toList := by
  have hfixed : c ∉ "app-root-route-index".toList ∧ c ∉ "app-not-found".toList := by
    rcases hc with rfl | rfl <;> decide
  have hsegments : ∀ segments : List Segment,
      c ∈ (Segment.selector segments).toList ↔ ∃ s ∈ segments, c ∈ s.name.toList := by
    intro segments
    rcases hc with rfl | rfl <;>
      exact Segment.mem_selector_iff (by decide +kernel) (by decide) (by decide) (by decide)
        (by decide) (by decide)
  obtain ⟨source, hparse⟩ := h
  rcases parse_eq_ok hparse with hpage | ⟨segments, hpage, -, -⟩
  · rw [hpage]
    refine iff_of_false hfixed.2 ?_
    rintro ⟨s, hs, -⟩
    exact List.not_mem_nil hs
  · rw [hpage, ofSegments]
    cases segments with
    | nil =>
      refine iff_of_false hfixed.1 ?_
      rintro ⟨s, hs, -⟩
      exact List.not_mem_nil hs
    | cons first others => exact hsegments (first :: others)

/-- The element name of a component has no backslash, as no directory has one in its name. -/
theorem IsParsed.backslash_not_mem_selector {page : Page} (h : page.IsParsed) :
    '\\' ∉ page.selector.toList := by
  rw [h.mem_selector_iff (Or.inr rfl)]
  rintro ⟨s, hs, hmem⟩
  refine (h.isRead s hs).isPart_raw.backslash_not_mem ?_
  cases s <;> simp only [Segment.raw, Segment.name, String.toList_append, List.mem_append] at hmem ⊢
  · exact hmem
  · exact Or.inr hmem
  · exact Or.inr hmem

/-- The literal behind the element name stands for the name exactly if no directory on the way to
the page has a quote. -/
theorem IsParsed.hasLiteral_selector_iff {page : Page} (h : page.IsParsed) :
    HasLiteral page.componentSource selectorFront page.selector "," ↔
      ∀ s ∈ page.segments, '\'' ∉ s.name.toList := by
  have hopen : "@Component(\x7b\n  selector: '" = "@Component(\x7b\n  selector: " ++ "'" := rfl
  have hclose : "',\n" = "'" ++ ("," ++ "\n") := rfl
  have htext : HasText page.componentSource selectorFront
      ("'" ++ (page.selector ++ ("'" ++ ","))) := by
    rw [HasText, componentSource, selectorFront, hopen, hclose]
    simp only [String.append_assoc]
    exact ⟨_, rfl⟩
  rw [hasLiteral_bare_iff h.backslash_not_mem_selector htext, h.mem_selector_iff (Or.inl rfl)]
  simp only [not_exists, not_and]

end Page

/-! ## Whole compilations -/

namespace CompiledRoutes

/-- The text in front of every route of the routing module. -/
def routeFronts (compiled : CompiledRoutes) : List (String × RouteLabel) :=
  Emission.routeFrontsOfAll 0 compiled.emission.configurationFront compiled.tree.children

/-- What the literals of the generated sources stand for. -/
structure ReadsLiterals (compiled : CompiledRoutes) : Prop where
  /-- The path of an import is read off its literal exactly if it has no quote. -/
  imports : ∀ earlier names path later,
    compiled.emission.moduleImports = earlier ++ (names, path) :: later →
      (HasLiteral compiled.routingModule (Emission.importFront earlier names) path ";" ↔
        '\'' ∉ path.toList)
  /-- Every route of the tree has its place in the routing module. -/
  places : compiled.routeFronts.map (·.2) = RouteTree.labelsOfAll compiled.tree.children
  /-- The path and the redirection of a route are read off their literals. -/
  routes : ∀ place ∈ compiled.routeFronts,
    Emission.ShowsLiterals compiled.routingModule place.1 place.2
  /-- An element name is read off its literal exactly if no directory of the page has a quote. -/
  selectors : ∀ page ∈ compiled.pages,
    (HasLiteral page.componentSource Page.selectorFront page.selector "," ↔
      ∀ s ∈ page.segments, '\'' ∉ s.name.toList)

/-- No import of an accepted compilation has a backslash in its path. -/
theorem Accepted.backslash_not_mem_path {classesOf : ClassReader} {input : CompileInput}
    {compiled : CompiledRoutes} {registry : GuardRegistry} {site : Site}
    (h : compiled.Accepted classesOf input registry site) :
    ∀ entry ∈ compiled.emission.moduleImports, '\\' ∉ entry.2.toList := by
  have hnames := h.listsNames_ofTree (List.Perm.refl _)
  rw [← h.emission_eq] at hnames
  rw [Emission.moduleImports, List.forall_mem_cons, List.forall_mem_cons, List.forall_mem_map,
    hnames.imports, List.forall_mem_append, List.forall_mem_map, List.forall_mem_map,
    Page.shownComponents, List.forall_mem_append, List.forall_mem_append, List.forall_mem_map]
  refine ⟨by decide, by decide, ⟨?_, ?_, by decide⟩, ?_⟩
  · exact fun page _ => Path.backslash_not_mem_importSpecifier _
  · split
    · exact fun component hmem => absurd hmem List.not_mem_nil
    · decide
  · exact fun guard _ => Path.backslash_not_mem_importSpecifier _

end CompiledRoutes

namespace CompileInput

/-- In every compilation that ends well, the literals of the routes stand for the texts of the
routes, and those of imports and components for theirs where no quote is in the way. -/
theorem readsLiterals_of_compile {classesOf : ClassReader} {input : CompileInput}
    {compiled : CompiledRoutes} (h : input.compile classesOf = .ok compiled) :
    compiled.ReadsLiterals := by
  obtain ⟨registry, site, haccepted⟩ := compile_eq_ok_iff.1 h
  have hentries : compiled.emission.configurationText =
      Emission.entryText (Emission.entries 0 compiled.tree.children) := by
    rw [haccepted.emission_eq]
    rfl
  have htext := Emission.hasText_configurationText compiled.emission
  rw [hentries] at htext
  constructor
  · intro earlier names path later himports
    refine Emission.hasLiteral_import_iff ?_ himports
    refine haccepted.backslash_not_mem_path (names, path) ?_
    rw [himports]
    exact List.mem_append_right _ List.mem_cons_self
  · exact Emission.map_snd_routeFrontsOfAll _ _ _
  · exact Emission.showsLiterals_of_mem_routeFrontsOfAll _ htext
  · exact fun page hpage => (haccepted.isParsed hpage).hasLiteral_selector_iff

/-- A directory with a quote in its name is the second part of an import path. -/
theorem exists_moduleImports_eq_quoted :
    ∃ compiled, compile Script.classReader ⟨["it's/index.html"], [], [⟨"o'ld", "it's"⟩]⟩ =
        .ok compiled ∧
      compiled.emission.moduleImports =
        [("NgModule", "@angular/core"), ("RouterModule,\n  Routes", "@angular/router")] ++
          ("It'sRouteIndexComponent", "./it's/index.component") ::
            [("RootRouteIndexComponent", "./index.component"),
              ("NotFoundComponent", "./not-found.component")] := by
  let pages : List Page := [⟨"it's/index.html", "it's", [.literal "it's"],
    "It'sRouteIndexComponent", "app-it's-route-index", .route, 0⟩]
  have hparse : parsePages ["it's/index.html"] = .ok pages := by decide +kernel
  have himports : (Assembly.build pages ⟨[]⟩ [⟨"o'ld", "it's"⟩]).map (fun built =>
      (Emission.ofTree built.tree.order).moduleImports) =
        .ok ([("NgModule", "@angular/core"), ("RouterModule,\n  Routes", "@angular/router")] ++
          ("It'sRouteIndexComponent", "./it's/index.component") ::
            [("RootRouteIndexComponent", "./index.component"),
              ("NotFoundComponent", "./not-found.component")]) := by
    cbv
  obtain ⟨_, _, hlist, h⟩ := exists_compile_eq_ok_of_map Script.classReader ⟨_, [], _⟩
    (fun tree => (Emission.ofTree tree).moduleImports) hparse (by decide +kernel) rfl himports
  exact ⟨_, h, hlist⟩

/-- The literal for the directory with a quote is not read back, those of the redirection are. -/
theorem readsLiterals_of_compile_quoted :
    ∃ compiled, compile Script.classReader ⟨["it's/index.html"], [], [⟨"o'ld", "it's"⟩]⟩ =
        .ok compiled ∧
      compiled.ReadsLiterals := by
  obtain ⟨compiled, h, -⟩ := exists_moduleImports_eq_quoted
  exact ⟨compiled, h, readsLiterals_of_compile h⟩

/-- A directory with a quote in its name is accepted, and its import breaks off at the quote. -/
theorem not_hasLiteral_import_quoted :
    ∃ compiled, compile Script.classReader ⟨["it's/index.html"], [], [⟨"o'ld", "it's"⟩]⟩ =
        .ok compiled ∧
      ("It'sRouteIndexComponent", "./it's/index.component") ∈ compiled.emission.moduleImports ∧
      ¬HasLiteral compiled.routingModule
        (Emission.importFront
          [("NgModule", "@angular/core"), ("RouterModule,\n  Routes", "@angular/router")]
          "It'sRouteIndexComponent") "./it's/index.component" ";" := by
  obtain ⟨compiled, h, himports⟩ := exists_moduleImports_eq_quoted
  refine ⟨compiled, h, ?_, ?_⟩
  · rw [himports]
    decide
  · rw [CompiledRoutes.routingModule, Emission.hasLiteral_import_iff (by decide) himports]
    decide

end CompileInput

end PageRoutes
