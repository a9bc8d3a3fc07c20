import PageRoutes.Compilation
import PageRoutes.Proofs.PageTree

/-!
# Accepted inputs

What is known of every compilation that ends well: its pages were read off the paths at their
places, no two of them share a component name, their directories make a site, and the tree is the
ordered tree of that site.
-/

namespace PageRoutes

/-! ## Reading pages -/

/-- Pages of which no two have one place. -/
def Page.OnePerPlace (pages : List Page) : Prop :=
  ∀ p ∈ pages, ∀ q ∈ pages, p.place = q.place → p = q

namespace CompileInput

/-- Every page is read off the path at its place. -/
theorem parsePages_eq_ok_iff {paths : List String} {pages : List Page} :
    parsePages paths = .ok pages ↔
      List.Forall₂ (fun entry page => Page.parse entry.1 entry.2 = .ok page) paths.zipIdx pages :=
  mapM_eq_ok_iff

/-- Every page is read off one of the paths. -/
theorem exists_path_of_parsePages {paths : List String} {pages : List Page}
    (h : parsePages paths = .ok pages) {page : Page} (hpage : page ∈ pages) :
    ∃ path ∈ paths, Page.parse path page.discoveryIndex = .ok page := by
  obtain ⟨n, hn, rfl⟩ := List.getElem_of_mem hpage
  have hall := parsePages_eq_ok_iff.1 h
  have hentry : n < paths.zipIdx.length := by rw [hall.length_eq]; exact hn
  have hparse : Page.parse _ _ = .ok pages[n] := hall.get hentry hn
  rw [← Page.discoveryIndex_of_parse hparse] at hparse
  refine ⟨_, ?_, hparse⟩
  exact List.fst_mem_of_mem_zipIdx (List.get_mem _ ⟨n, hentry⟩)

theorem isParsed_of_parsePages {paths : List String} {pages : List Page}
    (h : parsePages paths = .ok pages) {page : Page} (hpage : page ∈ pages) : page.IsParsed := by
  obtain ⟨path, -, hparse⟩ := exists_path_of_parsePages h hpage
  exact ⟨path, hparse⟩

/-- The pages count through the paths from the first to the last. -/
theorem discoveryIndexes_of_parsePages {paths : List String} {pages : List Page}
    (h : parsePages paths = .ok pages) :
    pages.map (·.discoveryIndex) = List.range paths.length := by
  have hall := (parsePages_eq_ok_iff.1 h).imp fun _ _ => Page.discoveryIndex_of_parse
  rw [List.range_eq_range', ← List.zipIdx_map_snd 0 paths]
  exact map_eq_map_of_forall₂ hall

/-- No two pages have one place. -/
theorem onePerPlace_of_parsePages {paths : List String} {pages : List Page}
    (h : parsePages paths = .ok pages) : Page.OnePerPlace pages := by
  have hnodup : (pages.map (·.discoveryIndex)).Nodup := by
    rw [discoveryIndexes_of_parsePages h]
    exact List.nodup_range
  intro p hp q hq heq
  exact List.inj_on_of_nodup_map hnodup hp hq (Nat.succ.inj heq)

end CompileInput

/-! ## Distinct component names -/

namespace Page

/-- The search for a repeated name finds nothing exactly when no name is repeated. -/
theorem duplicateIdentifier?_eq_none_iff {earlier pages : List Page} :
    duplicateIdentifier? earlier pages = none ↔
      (∀ page ∈ pages, ∀ first ∈ earlier, first.identifier ≠ page.identifier) ∧
        (pages.map (·.identifier)).Nodup := by
  induction pages generalizing earlier with
  | nil => simp [duplicateIdentifier?]
  | cons page rest ih =>
    rw [duplicateIdentifier?, List.map_cons, List.nodup_cons, List.forall_mem_cons]
    cases hfind : earlier.find? (·.identifier == page.identifier) with
    | some first =>
      have hsame : first.identifier = page.identifier := by simpa using List.find?_some hfind
      have hmem := List.mem_of_find?_eq_some hfind
      exact iff_of_false (by simp) fun h => h.1.1 first hmem hsame
    | none =>
      -- from here on the page itself is one of the earlier ones
      have hnew : ∀ first ∈ earlier, first.identifier ≠ page.identifier := by
        intro first hfirst
        simpa using List.find?_eq_none.1 hfind first hfirst
      simp only [ih, List.forall_mem_cons]
      constructor
      · rintro ⟨hfree, hnodup⟩
        refine ⟨⟨hnew, fun p hp => (hfree p hp).2⟩, fun hmem => ?_, hnodup⟩
        obtain ⟨p, hp, heq⟩ := List.mem_map.1 hmem
        exact (hfree p hp).1 heq.symm
      · rintro ⟨⟨-, hfree⟩, hnot, hnodup⟩
        refine ⟨fun p hp => ⟨fun heq => hnot ?_, hfree p hp⟩, hnodup⟩
        exact List.mem_map.2 ⟨p, hp, heq.symm⟩

theorem requireDistinctIdentifiers_eq_ok_iff {pages : List Page} :
    requireDistinctIdentifiers pages = .ok () ↔ (pages.map (·.identifier)).Nodup := by
  have hnone := @duplicateIdentifier?_eq_none_iff [] pages
  simp only [List.not_mem_nil, false_implies, implies_true, true_and] at hnone
  rw [← hnone, requireDistinctIdentifiers]
  cases duplicateIdentifier? [] pages <;> simp

end Page

/-- The site of pages that were read, of which no two with routes lie in one directory. -/
structure Site.IsSiteOf (site : Site) (pages : List Page) : Prop where
  filled : Site.ofPages pages = .ok site
  parsed : ∀ page ∈ pages, page.IsParsed
  onePerDirectory : Page.OnePerDirectory pages

/-! ## Whole compilations -/

/-- What a compilation that ends well has gone through. -/
structure CompiledRoutes.Accepted (classesOf : ClassReader) (input : CompileInput)
    (compiled : CompiledRoutes) (registry : GuardRegistry) (site : Site) : Prop where
  parsed : CompileInput.parsePages input.pagePaths = .ok compiled.pages
  distinct : (compiled.pages.map (·.identifier)).Nodup
  loaded : GuardRegistry.load classesOf input.guardSources = .ok registry
  filled : Site.ofPages compiled.pages = .ok site
  guards_eq : compiled.guards = registry.guards
  stray_eq : compiled.strayGuards = Assembly.strayGuards site registry
  tree_eq : compiled.tree = (Assembly.tree compiled.pages site registry input.redirects).order
  emission_eq : compiled.emission = Emission.ofTree compiled.tree

namespace CompileInput

/-- A compilation ends well exactly when each of its stages does. -/
theorem compile_eq_ok_iff {classesOf : ClassReader} {input : CompileInput}
    {compiled : CompiledRoutes} :
    input.compile classesOf = .ok compiled ↔
      ∃ registry site, compiled.Accepted classesOf input registry site := by
  simp only [compile, bind_eq_ok_iff, Assembly.build_eq_ok_iff]
  constructor
  · rintro ⟨pages, hpages, ⟨⟩, hdistinct, registry, hload, _, ⟨site, hsite, rfl⟩, hcompiled⟩
    cases hcompiled
    exact ⟨registry, site, hpages, Page.requireDistinctIdentifiers_eq_ok_iff.1 hdistinct, hload,
      hsite, rfl, rfl, rfl, rfl⟩
  · rintro ⟨registry, site, h⟩
    refine ⟨_, h.parsed, (), Page.requireDistinctIdentifiers_eq_ok_iff.2 h.distinct, registry,
      h.loaded, _, ⟨site, h.filled, rfl⟩, ?_⟩
    rw [← h.tree_eq, ← h.guards_eq, ← h.stray_eq, ← h.emission_eq]
    rfl

/-- What a compilation yields whose stages end well. -/
theorem exists_compile_eq_ok (classesOf : ClassReader) (input : CompileInput) {pages : List Page}
    {registry : GuardRegistry} (hpages : parsePages input.pagePaths = .ok pages)
    (hdistinct : Page.requireDistinctIdentifiers pages = .ok ())
    (hload : GuardRegistry.load classesOf input.guardSources = .ok registry)
    (hbuild : (Assembly.build pages registry input.redirects).isOk = true) :
    ∃ built, Assembly.build pages registry input.redirects = .ok built ∧
      input.compile classesOf = .ok ⟨pages, registry.guards, built.strayGuards, built.tree.order,
        Emission.ofTree built.tree.order⟩ := by
  obtain ⟨built, hbuilt⟩ := exists_eq_ok_of_isOk hbuild
  refine ⟨built, hbuilt, ?_⟩
  simp only [compile, bind_eq_ok_iff]
  exact ⟨pages, hpages, (), hdistinct, registry, hload, built, hbuilt, rfl⟩

/-- What a compilation yields of whose ordered tree something is known. -/
theorem exists_compile_eq_ok_of_map (classesOf : ClassReader) (input : CompileInput)
    {pages : List Page} {registry : GuardRegistry} {α : Type} (f : RouteTree → α) {a : α}
    (hpages : parsePages input.pagePaths = .ok pages)
    (hdistinct : Page.requireDistinctIdentifiers pages = .ok ())
    (hload : GuardRegistry.load classesOf input.guardSources = .ok registry)
    (hbuild : (Assembly.build pages registry input.redirects).map
      (fun built => f built.tree.order) = .ok a) :
    ∃ tree stray, f tree = a ∧ input.compile classesOf =
      .ok ⟨pages, registry.guards, stray, tree, Emission.ofTree tree⟩ := by
  obtain ⟨built, hbuilt, hf⟩ := map_eq_ok_iff.1 hbuild
  refine ⟨built.tree.order, built.strayGuards, hf, ?_⟩
  simp only [compile, bind_eq_ok_iff]
  exact ⟨pages, hpages, (), hdistinct, registry, hload, built, hbuilt, rfl⟩

end CompileInput

namespace CompiledRoutes.Accepted

variable {classesOf : ClassReader} {input : CompileInput} {compiled : CompiledRoutes}
  {registry : GuardRegistry} {site : Site}

theorem isParsed (h : compiled.Accepted classesOf input registry site) {page : Page}
    (hpage : page ∈ compiled.pages) : page.IsParsed :=
  CompileInput.isParsed_of_parsePages h.parsed hpage

/-- Pages that share a component name are one page. -/
theorem eq_of_identifier_eq (h : compiled.Accepted classesOf input registry site) {p q : Page}
    (hp : p ∈ compiled.pages) (hq : q ∈ compiled.pages) (heq : p.identifier = q.identifier) :
    p = q :=
  List.inj_on_of_nodup_map h.distinct hp hq heq

/-- No two pages with routes lie in one directory, since their components would have one name. -/
theorem onePerDirectory (h : compiled.Accepted classesOf input registry site) :
    Page.OnePerDirectory compiled.pages := by
  intro p hp q hq hprole hqrole heq
  refine h.eq_of_identifier_eq hp hq ?_
  rw [((h.isParsed hp).of_route hprole).2.2, ((h.isParsed hq).of_route hqrole).2.2, heq]

theorem isSiteOf (h : compiled.Accepted classesOf input registry site) :
    site.IsSiteOf compiled.pages :=
  ⟨h.filled, fun _ => h.isParsed, h.onePerDirectory⟩

/-- Below the configuration stands the group of page routes, in order. -/
theorem rootGroup?_eq (h : compiled.Accepted classesOf input registry site) :
    compiled.tree.rootGroup? =
      some (Assembly.pageGroup compiled.pages site registry (site.bySortKey registry)) := by
  rw [h.tree_eq, Assembly.rootGroup?_order_tree]

end CompiledRoutes.Accepted

end PageRoutes
