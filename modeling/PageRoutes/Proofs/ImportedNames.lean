import PageRoutes.Proofs.ImportLists
import PageRoutes.Script.Module

/-!
# Which names the routing module binds

The imports can be read off the pages and the guards: the routes of pages in the order of their
discovery, the page root, unknown addresses, and the guards that sit on routes in the order of their
files.  How the routes are nested and ordered leaves no trace.  Among the components no name comes
twice, and neither among the guards; but a guard may be called like a component, and then the
routing module binds one name twice.
-/

namespace PageRoutes

/-- The names that the routing module binds. -/
def Emission.importedNames (emission : Emission) : List String :=
  emission.imports.map (·.identifier)

/-- The components of the routes of pages in the order of their discovery, then that of the page
root unless a page takes its name, then that of unknown addresses. -/
def Page.shownComponents (pages : List Page) : List ComponentRef :=
  (pages.filter (·.role = .route)).map Page.componentRef ++
    ((if Page.TakesRootName pages then []
      else [⟨"RootRouteIndexComponent", "./index.component"⟩]) ++
    [⟨"NotFoundComponent", "./not-found.component"⟩])

namespace CompiledRoutes

/-- The guards that sit on some route, in the order of their files. -/
def attachedGuards (compiled : CompiledRoutes) : List Guard :=
  compiled.guards.filter fun guard =>
    compiled.tree.labels.any fun label => label.guard == some guard.attached

/-- The names that a routing module imports and provides for a compilation. -/
structure ListsNames (compiled : CompiledRoutes) (emission : Emission) : Prop where
  imports : emission.imports =
    (Page.shownComponents compiled.pages).map (fun component =>
        ⟨component.identifier, component.importPath, .component⟩) ++
      compiled.attachedGuards.map fun guard => ⟨guard.className, guard.importPath, .guard⟩
  providers : emission.providers = compiled.attachedGuards.map (·.className)
  /-- Pages stand in the order of their discovery, each once. -/
  pages_inOrder : compiled.pages.Pairwise fun p q => p.discoveryIndex < q.discoveryIndex
  /-- Guards stand in the order of their files, each once. -/
  guards_inOrder : compiled.guards.Pairwise fun a b => a.discoveryIndex < b.discoveryIndex

end CompiledRoutes

namespace RouteTree.IsGuardedBy

variable {config : RouteTree} {guards : GuardRegistry} {origins : List String} {guard : Guard}

/-- A guard sits on some route exactly if its directory has a route. -/
theorem exists_guard_iff (h : config.IsGuardedBy guards origins)
    (hapart : guards.guards.Pairwise Guard.Apart) (hguard : guard ∈ guards.guards) :
    (∃ label ∈ config.labels, label.guard = some guard.attached) ↔ guard.directory ∈ origins := by
  rw [h.mem_origins_iff]
  refine exists_congr fun label => and_congr_right fun hlabel => ?_
  rw [← h.hasClass_iff hapart hlabel hguard]
  constructor
  · intro hattached
    exact ⟨_, hattached, rfl⟩
  · rintro ⟨attached, hattached, hclass⟩
    obtain ⟨other, hother, rfl, -⟩ := (h.guard_eq_some_iff hapart hlabel).1 hattached
    obtain rfl := GuardRegistry.eq_of_className_eq hapart hother hguard hclass
    exact hattached

end RouteTree.IsGuardedBy

namespace CompiledRoutes.Accepted

variable {classesOf : ClassReader} {input : CompileInput} {compiled : CompiledRoutes}
  {registry : GuardRegistry} {site : Site} {tree : RouteTree}

/-! ## The shape of the tree does not matter -/

/-- The components of the same routes in another tree come in the same order. -/
theorem rankedComponents_eq_of_perm (h : compiled.Accepted classesOf input registry site)
    (hperm : tree.labels.Perm compiled.tree.labels) :
    Emission.rankedComponents tree = Emission.rankedComponents compiled.tree := by
  rw [h.rankedComponents_eq]
  apply mergeSort_eq_of_perm Emission.mayPrecede_trans Emission.mayPrecede_total
    (Emission.pairwise_rankedPages h.pairwise_place)
  rw [← h.rankedComponents_eq]
  exact (hperm.filterMap _).trans (List.mergeSort_perm _ _).symm

theorem importedComponents_eq_of_perm (h : compiled.Accepted classesOf input registry site)
    (hperm : tree.labels.Perm compiled.tree.labels) :
    Emission.importedComponents tree = Emission.importedComponents compiled.tree := by
  rw [Emission.importedComponents, Emission.importedComponents, h.rankedComponents_eq_of_perm hperm]

theorem importedGuards_eq_of_perm (h : compiled.Accepted classesOf input registry site)
    (hperm : tree.labels.Perm compiled.tree.labels) :
    Emission.importedGuards tree = Emission.importedGuards compiled.tree := by
  have hindex := GuardRegistry.pairwise_discoveryIndex_of_load h.loaded
  rw [h.importedGuards_eq, (h.isGuardedBy.of_perm hperm).importedGuards_eq h.pairwise_apart hindex]

/-! ## The lists -/

theorem importedComponents_eq_shownComponents
    (h : compiled.Accepted classesOf input registry site) :
    Emission.importedComponents compiled.tree = Page.shownComponents compiled.pages := by
  have hroot : Assembly.rootIndexComponent =
      ⟨"RootRouteIndexComponent", "./index.component"⟩ := by
    decide
  have hfallback : Assembly.fallbackComponent =
      ⟨"NotFoundComponent", "./not-found.component"⟩ := by
    decide
  rw [h.importedComponents_eq, hroot, hfallback, Page.shownComponents]

/-- The imported guards are those that sit on routes. -/
theorem importedGuards_eq_attachedGuards (h : compiled.Accepted classesOf input registry site) :
    Emission.importedGuards compiled.tree = compiled.attachedGuards.map Guard.attached := by
  rw [h.importedGuards_eq, attachedGuards, h.guards_eq]
  congr 1
  apply List.filter_congr
  intro guard hguard
  rw [Bool.eq_iff_iff, List.contains_iff_mem, List.any_eq_true,
    ← h.isGuardedBy.exists_guard_iff h.pairwise_apart hguard]
  simp only [beq_iff_eq]

theorem listsNames_ofTree (h : compiled.Accepted classesOf input registry site)
    (hperm : tree.labels.Perm compiled.tree.labels) :
    compiled.ListsNames (Emission.ofTree tree) where
  imports := by
    rw [Emission.ofTree, h.importedComponents_eq_of_perm hperm, h.importedGuards_eq_of_perm hperm,
      h.importedComponents_eq_shownComponents, h.importedGuards_eq_attachedGuards, List.map_map]
    rfl
  providers := by
    show (Emission.importedGuards tree).map (·.className) = _
    rw [h.importedGuards_eq_of_perm hperm, h.importedGuards_eq_attachedGuards, List.map_map]
    rfl
  pages_inOrder := h.pairwise_place.imp Nat.lt_of_succ_lt_succ
  guards_inOrder := by
    rw [h.guards_eq]
    exact GuardRegistry.pairwise_discoveryIndex_of_load h.loaded

/-! ## Repeated names -/

/-- The names of the components are those of the page root, of unknown addresses and of the pages
with routes. -/
theorem mem_shownComponents_names_iff {name : String} :
    name ∈ (Page.shownComponents compiled.pages).map (·.identifier) ↔
      name = "RootRouteIndexComponent" ∨ name = "NotFoundComponent" ∨
        ∃ page ∈ compiled.pages, page.role = .route ∧ page.identifier = name := by
  have hpages : name ∈ ((compiled.pages.filter (·.role = .route)).map Page.componentRef).map
      (·.identifier) ↔ ∃ page ∈ compiled.pages, page.role = .route ∧ page.identifier = name := by
    simp [Page.componentRef, and_assoc]
  rw [Page.shownComponents, List.map_append, List.mem_append, hpages, List.map_append,
    List.mem_append]
  by_cases htakes : Page.TakesRootName compiled.pages
  · -- the name of the page root is among those of the pages
    rw [if_pos htakes, List.map_nil, List.map_singleton, List.mem_singleton]
    constructor
    · rintro (hpage | hnil | hfallback)
      · exact Or.inr (Or.inr hpage)
      · exact absurd hnil List.not_mem_nil
      · exact Or.inr (Or.inl hfallback)
    · rintro (rfl | hfallback | hpage)
      · exact Or.inl htakes
      · exact Or.inr (Or.inr hfallback)
      · exact Or.inl hpage
  · rw [if_neg htakes, List.map_singleton, List.mem_singleton, List.map_singleton,
      List.mem_singleton]
    exact or_comm.trans or_assoc

/-- No two components are imported under one name. -/
theorem nodup_shownComponents_names (h : compiled.Accepted classesOf input registry site) :
    ((Page.shownComponents compiled.pages).map (·.identifier)).Nodup := by
  rw [← h.importedComponents_eq_shownComponents]
  exact nodup_map_eraseDupsBy _ _

theorem nodup_attachedGuards_classNames (h : compiled.Accepted classesOf input registry site) :
    (compiled.attachedGuards.map (·.className)).Nodup := by
  rw [attachedGuards, h.guards_eq]
  exact (GuardRegistry.nodup_classNames h.pairwise_apart).sublist (List.filter_sublist.map _)

end CompiledRoutes.Accepted

namespace CompileInput

/-- In every compilation that ends well the routing module imports the components of the pages, of
the page root and of unknown addresses and the guards that sit on routes, in this order.  So does
one for any other tree of the same routes. -/
theorem listsNames_of_compile {classesOf : ClassReader} {input : CompileInput}
    {compiled : CompiledRoutes} (h : input.compile classesOf = .ok compiled) :
    parsePages input.pagePaths = .ok compiled.pages ∧
      GuardRegistry.load classesOf input.guardSources = .ok ⟨compiled.guards⟩ ∧
      compiled.ListsNames compiled.emission ∧
      ∀ tree : RouteTree, tree.labels.Perm compiled.tree.labels →
        compiled.ListsNames (Emission.ofTree tree) := by
  obtain ⟨registry, site, haccepted⟩ := compile_eq_ok_iff.1 h
  refine ⟨haccepted.parsed, ?_, ?_, fun tree hperm => haccepted.listsNames_ofTree hperm⟩
  · rw [haccepted.guards_eq]
    exact haccepted.loaded
  · rw [haccepted.emission_eq]
    exact haccepted.listsNames_ofTree (List.Perm.refl _)

/-- The page with a parameter is imported first although its route stands behind the other, and of
two guards one has no route. -/
theorem listsNames_of_compile_parameter :
    ∃ compiled, compile Script.classReader
        ⟨["users/_id/index.html", "docs/#guides/index.html"],
          [⟨"lost/index.guard.ts", "export class Lost \x7b canActivate() \x7b\x7d \x7d"⟩,
            ⟨"docs/index.guard.ts", "export class Docs \x7b canActivate() \x7b\x7d \x7d"⟩],
          []⟩ = .ok compiled ∧
      Page.shownComponents compiled.pages =
        [⟨"UsersIdRouteIndexComponent", "./users/_id/index.component"⟩,
          ⟨"DocsGuidesRouteIndexComponent", "./docs/#guides/index.component"⟩,
          ⟨"RootRouteIndexComponent", "./index.component"⟩,
          ⟨"NotFoundComponent", "./not-found.component"⟩] ∧
      compiled.ListsNames compiled.emission := by
  let pages : List Page := [
    ⟨"users/_id/index.html", "users/_id", [.literal "users", .parameter "id"],
      "UsersIdRouteIndexComponent", "app-users-id-route-index", .route, 0⟩,
    ⟨"docs/#guides/index.html", "docs/#guides", [.literal "docs", .nestedScope "guides"],
      "DocsGuidesRouteIndexComponent", "app-docs-guides-route-index", .route, 1⟩]
  let registry : GuardRegistry := ⟨[⟨"lost/index.guard.ts", "lost", "Lost", [.canActivate], 0⟩,
    ⟨"docs/index.guard.ts", "docs", "Docs", [.canActivate], 1⟩]⟩
  have hparse : parsePages ["users/_id/index.html", "docs/#guides/index.html"] = .ok pages := by
    decide +kernel
  have hload : GuardRegistry.load Script.classReader
      [⟨"lost/index.guard.ts", "export class Lost \x7b canActivate() \x7b\x7d \x7d"⟩,
        ⟨"docs/index.guard.ts", "export class Docs \x7b canActivate() \x7b\x7d \x7d"⟩] =
      .ok registry := by
    decide +kernel
  have hshown : Page.shownComponents pages =
      [⟨"UsersIdRouteIndexComponent", "./users/_id/index.component"⟩,
        ⟨"DocsGuidesRouteIndexComponent", "./docs/#guides/index.component"⟩,
        ⟨"RootRouteIndexComponent", "./index.component"⟩,
        ⟨"NotFoundComponent", "./not-found.component"⟩] := by
    decide +kernel
  obtain ⟨built, -, h⟩ := exists_compile_eq_ok Script.classReader ⟨_, _, []⟩ hparse
    (by decide +kernel) hload (by decide +kernel)
  exact ⟨_, h, hshown, (listsNames_of_compile h).2.2.1⟩

/-- The routing module binds a name twice exactly if a guard on some route is called like the
component of a page, of the page root or of unknown addresses. -/
theorem nodup_importedNames_iff {classesOf : ClassReader} {input : CompileInput}
    {compiled : CompiledRoutes} (h : input.compile classesOf = .ok compiled) :
    compiled.emission.importedNames.Nodup ↔
      ∀ guard ∈ compiled.attachedGuards,
        guard.className ≠ "RootRouteIndexComponent" ∧ guard.className ≠ "NotFoundComponent" ∧
          ∀ page ∈ compiled.pages, page.role = .route → page.identifier ≠ guard.className := by
  obtain ⟨registry, site, haccepted⟩ := compile_eq_ok_iff.1 h
  have hnames : compiled.emission.importedNames =
      (Page.shownComponents compiled.pages).map (·.identifier) ++
        compiled.attachedGuards.map (·.className) := by
    rw [Emission.importedNames, haccepted.emission_eq,
      (haccepted.listsNames_ofTree (List.Perm.refl _)).imports, List.map_append, List.map_map,
      List.map_map]
    rfl
  rw [hnames, List.nodup_append', and_iff_right haccepted.nodup_shownComponents_names,
    and_iff_right haccepted.nodup_attachedGuards_classNames, List.disjoint_comm]
  constructor
  · intro hdisjoint guard hguard
    have hnot := mt CompiledRoutes.Accepted.mem_shownComponents_names_iff.2
      (hdisjoint (List.mem_map_of_mem hguard))
    simp only [not_or, not_exists, not_and] at hnot
    exact hnot
  · rintro hfree name hclass hcomponent
    obtain ⟨guard, hguard, rfl⟩ := List.mem_map.1 hclass
    obtain ⟨hroot, hfallback, hpages⟩ := hfree guard hguard
    rcases CompiledRoutes.Accepted.mem_shownComponents_names_iff.1 hcomponent with
      heq | heq | ⟨page, hpage, hrole, heq⟩
    · exact hroot heq
    · exact hfallback heq
    · exact hpages page hpage hrole heq

/-- A guard of the page root may be called like the component of a page. -/
theorem exists_importedNames_eq_repeated :
    ∃ compiled, compile Script.classReader
        ⟨["about/index.html"], [⟨"index.guard.ts",
          "export class AboutRouteIndexComponent \x7b canActivate() \x7b\x7d \x7d"⟩], []⟩ =
        .ok compiled ∧
      compiled.emission.importedNames = ["AboutRouteIndexComponent", "RootRouteIndexComponent",
        "NotFoundComponent", "AboutRouteIndexComponent"] := by
  let pages : List Page := [⟨"about/index.html", "about", [.literal "about"],
    "AboutRouteIndexComponent", "app-about-route-index", .route, 0⟩]
  let registry : GuardRegistry :=
    ⟨[⟨"index.guard.ts", "", "AboutRouteIndexComponent", [.canActivate], 0⟩]⟩
  have hparse : parsePages ["about/index.html"] = .ok pages := by decide +kernel
  have hload : GuardRegistry.load Script.classReader
      [⟨"index.guard.ts",
        "export class AboutRouteIndexComponent \x7b canActivate() \x7b\x7d \x7d"⟩] =
      .ok registry := by
    decide +kernel
  have hnames : (Assembly.build pages registry []).map (fun built =>
      (Emission.ofTree built.tree.order).importedNames) =
        .ok ["AboutRouteIndexComponent", "RootRouteIndexComponent", "NotFoundComponent",
          "AboutRouteIndexComponent"] := by
    cbv
  obtain ⟨_, _, hlist, h⟩ := exists_compile_eq_ok_of_map Script.classReader ⟨_, _, []⟩
    (fun tree => (Emission.ofTree tree).importedNames) hparse (by decide +kernel) hload hnames
  exact ⟨_, h, hlist⟩

/-- The guard called like a component is found, as the name comes twice. -/
theorem nodup_importedNames_iff_repeated :
    ∃ compiled, compile Script.classReader
        ⟨["about/index.html"], [⟨"index.guard.ts",
          "export class AboutRouteIndexComponent \x7b canActivate() \x7b\x7d \x7d"⟩], []⟩ =
        .ok compiled ∧
      ¬compiled.emission.importedNames.Nodup ∧
      ¬∀ guard ∈ compiled.attachedGuards,
        guard.className ≠ "RootRouteIndexComponent" ∧ guard.className ≠ "NotFoundComponent" ∧
          ∀ page ∈ compiled.pages, page.role = .route → page.identifier ≠ guard.className := by
  obtain ⟨compiled, h, hlist⟩ := exists_importedNames_eq_repeated
  have htwice : ¬compiled.emission.importedNames.Nodup := by
    rw [hlist]
    decide
  exact ⟨compiled, h, htwice, mt (nodup_importedNames_iff h).2 htwice⟩

/-- Such a guard is accepted, and the routing module binds its name to two files. -/
theorem importedNames_not_nodup :
    ∃ compiled, compile Script.classReader
        ⟨["about/index.html"], [⟨"index.guard.ts",
          "export class AboutRouteIndexComponent \x7b canActivate() \x7b\x7d \x7d"⟩], []⟩ =
        .ok compiled ∧
      ¬compiled.emission.importedNames.Nodup := by
  obtain ⟨compiled, h, hlist⟩ := exists_importedNames_eq_repeated
  refine ⟨compiled, h, ?_⟩
  rw [hlist]
  decide

end CompileInput

end PageRoutes
