import Mathlib.Data.List.Permutation
import PageRoutes.Proofs.Accepted
import PageRoutes.Proofs.KeyedLists

/-!
# Which components are imported

A component is imported if it comes first among the components of its name, in the order of the
imports.  Different pages have components of different names, and no page shares its name with the
route for unknown addresses.  A page may share it with the index of the page root, though, as long
as the page root has no page of its own; then the page is imported and the index is not.
-/

namespace PageRoutes

open Placement

namespace Emission

variable {config : RouteTree} {label other : RouteLabel} {component : ComponentRef}

/-! ## The first of each name -/

theorem mem_rankedComponents_iff {entry : RankedComponent} :
    entry ∈ rankedComponents config ↔ ∃ label ∈ config.labels,
      label.component = some entry.component ∧ entry.rank = importRank label.kind ∧
        entry.orderKey = label.orderKey := by
  rw [rankedComponents, List.mem_mergeSort, List.mem_filterMap]
  refine exists_congr fun label => and_congr_right fun _ => ?_
  rw [Option.map_eq_some_iff]
  constructor
  · rintro ⟨component, hcomponent, rfl⟩
    exact ⟨hcomponent, rfl, rfl⟩
  · rintro ⟨hcomponent, hrank, hkey⟩
    refine ⟨entry.component, hcomponent, ?_⟩
    rw [← hrank, ← hkey]

theorem mayPrecede_trans (a b c : RankedComponent) (hab : a.mayPrecede b = true)
    (hbc : b.mayPrecede c = true) : a.mayPrecede c = true := by
  simp only [RankedComponent.mayPrecede, Bool.or_eq_true, Bool.and_eq_true, decide_eq_true_eq,
    beq_iff_eq] at hab hbc ⊢
  omega

theorem mayPrecede_total (a b : RankedComponent) : (a.mayPrecede b || b.mayPrecede a) = true := by
  simp only [RankedComponent.mayPrecede, Bool.or_eq_true, Bool.and_eq_true, decide_eq_true_eq,
    beq_iff_eq]
  omega

theorem pairwise_rankedComponents (config : RouteTree) :
    (rankedComponents config).Pairwise fun a b => a.rank ≤ b.rank := by
  refine (List.pairwise_mergeSort mayPrecede_trans mayPrecede_total _).imp fun {a b} hab => ?_
  simp only [RankedComponent.mayPrecede, Bool.or_eq_true, Bool.and_eq_true, decide_eq_true_eq,
    beq_iff_eq] at hab
  omega

/-- A component is imported exactly when it is the first of its name. -/
theorem mem_importedComponents_iff :
    component ∈ importedComponents config ↔
      ∃ entry, (rankedComponents config).find?
          (·.component.identifier == component.identifier) = some entry ∧
        entry.component = component := by
  rw [importedComponents, mem_eraseDupsBy_iff ComponentRef.identifier, List.find?_map,
    Option.map_eq_some_iff]
  rfl

/-- The first component of a name has the lowest rank of all of that name. -/
theorem rank_le_of_find? {entry first : RankedComponent} {name : String}
    (hfirst : (rankedComponents config).find? (·.component.identifier == name) = some first)
    (hentry : entry ∈ rankedComponents config) (hname : entry.component.identifier = name) :
    first.rank ≤ entry.rank := by
  obtain ⟨-, front, back, hsplit, hfront⟩ := List.find?_eq_some_iff_append.1 hfirst
  have hsorted := pairwise_rankedComponents config
  rw [hsplit] at hentry hsorted
  rcases List.mem_append.1 hentry with hmem | hmem
  · simpa [hname] using hfront entry hmem
  · rcases List.mem_cons.1 hmem with rfl | hback
    · exact Nat.le_refl _
    · exact List.rel_of_pairwise_cons (List.pairwise_append.1 hsorted).2.1 hback

/-- A component is imported if every other one of its name ranks behind it. -/
theorem mem_importedComponents (hlabel : label ∈ config.labels)
    (hcomponent : label.component = some component)
    (hothers : ∀ other ∈ config.labels, ∀ c, other.component = some c →
      c.identifier = component.identifier →
        c = component ∨ importRank label.kind < importRank other.kind) :
    component ∈ importedComponents config := by
  have hentry : ⟨importRank label.kind, label.orderKey, component⟩ ∈ rankedComponents config :=
    mem_rankedComponents_iff.2 ⟨label, hlabel, hcomponent, rfl, rfl⟩
  rw [mem_importedComponents_iff]
  cases hfind : (rankedComponents config).find?
      (·.component.identifier == component.identifier) with
  | none =>
    have hnot := List.find?_eq_none.1 hfind _ hentry
    exact absurd (beq_self_eq_true _) hnot
  | some first =>
    refine ⟨first, rfl, ?_⟩
    have hrank := rank_le_of_find? hfind hentry rfl
    have hname : first.component.identifier = component.identifier := by
      simpa using List.find?_some hfind
    obtain ⟨other, hother, hc, hother_rank, -⟩ :=
      mem_rankedComponents_iff.1 (List.mem_of_find?_eq_some hfind)
    refine (hothers other hother _ hc hname).resolve_right fun hlt => ?_
    rw [hother_rank] at hrank
    exact absurd hlt (Nat.not_lt.2 hrank)

/-- A component is not imported if another one of its name ranks before it everywhere. -/
theorem not_mem_importedComponents {c : ComponentRef} (hother : other ∈ config.labels)
    (hc : other.component = some c) (hname : c.identifier = component.identifier)
    (hlabels : ∀ label ∈ config.labels, label.component = some component →
      importRank other.kind < importRank label.kind) :
    component ∉ importedComponents config := by
  rw [mem_importedComponents_iff]
  rintro ⟨first, hfind, hfirst⟩
  have hentry : ⟨importRank other.kind, other.orderKey, c⟩ ∈ rankedComponents config :=
    mem_rankedComponents_iff.2 ⟨other, hother, hc, rfl, rfl⟩
  have hrank : first.rank ≤ importRank other.kind := rank_le_of_find? hfind hentry hname
  obtain ⟨label, hlabel, hcomponent, hlabel_rank, -⟩ :=
    mem_rankedComponents_iff.1 (List.mem_of_find?_eq_some hfind)
  rw [hfirst] at hcomponent
  have hlt := hlabels label hlabel hcomponent
  rw [hlabel_rank] at hrank
  omega

/-- The imports of components are those of the imported components. -/
theorem ofComponent_mem_imports_iff :
    ofComponent component ∈ (ofTree config).imports ↔ component ∈ importedComponents config := by
  have hguards : ofComponent component ∉ (importedGuards config).map ofGuard := by
    intro hmem
    obtain ⟨guard, -, heq⟩ := List.mem_map.1 hmem
    exact absurd (congrArg ImportEntry.kind heq) (by simp [ofGuard, ofComponent])
  have hinjective : Function.Injective ofComponent := by
    rintro ⟨identifier, path⟩ ⟨identifier', path'⟩ heq
    simpa [ofComponent] using heq
  rw [ofTree, List.mem_append, or_iff_left hguards, List.mem_map_of_injective hinjective]

end Emission

/-! ## The components of a page tree -/

namespace Assembly

variable {pages : List Page} {site : Site} {guards : GuardRegistry} {rules : List RedirectRule}
  {label : RouteLabel} {component : ComponentRef} {page : Page}

/-- The component of the page root. -/
def rootIndexComponent : ComponentRef :=
  ⟨rootIndexIdentifier, Path.importSpecifier "index.component.ts"⟩

/-- The component of the route for unknown addresses. -/
def fallbackComponent : ComponentRef :=
  ⟨notFoundIdentifier, Path.importSpecifier "not-found.component.ts"⟩

/-- The index of the page root always shows the same component, with a page or without. -/
theorem rootComponent_eq (hpages : ∀ page ∈ pages, page.IsParsed) :
    rootComponent pages = rootIndexComponent := by
  unfold rootComponent
  cases hroot : rootPage? pages with
  | none => rfl
  | some page =>
    have hmem : page ∈ pages := List.mem_reverse.1 (List.mem_of_find?_eq_some hroot)
    have hrole : page.role = .rootIndex := by simpa using List.find?_some hroot
    exact (hpages page hmem).of_rootIndex hrole

/-- Three kinds of routes have components: the index of the page root, the route for unknown
addresses and the routes of pages. -/
inductive HasComponent (pages : List Page) : RouteKind → ComponentRef → Prop where
  | rootIndex : HasComponent pages .rootIndex rootIndexComponent
  | fallback : HasComponent pages .fallback fallbackComponent
  | page {page : Page} (hpage : page ∈ pages) (hrole : page.role = .route) :
      HasComponent pages .page page.componentRef

theorem hasComponent_of_mem_labels (h : Site.ofPages pages = .ok site)
    (hpages : ∀ page ∈ pages, page.IsParsed)
    (hlabel : label ∈ (tree pages site guards rules).labels)
    (hcomponent : label.component = some component) :
    HasComponent pages label.kind component := by
  rcases (mem_labels_tree_iff (Site.isClosed_of_ofPages h)).1 hlabel with
    rfl | ⟨route, hroute, rfl⟩ | rfl | rfl | ⟨d, -, rfl⟩ | rfl
  · cases hcomponent
  · obtain ⟨⟨rule, index⟩, -, rfl⟩ := List.mem_map.1 hroute
    cases hcomponent
  · cases hcomponent
  · obtain rfl : rootComponent pages = component := Option.some.inj hcomponent
    rw [rootComponent_eq hpages]
    exact HasComponent.rootIndex
  · obtain ⟨page, hpage, rfl⟩ := Option.map_eq_some_iff.1 hcomponent
    obtain ⟨hmem, hrole, -, -⟩ := Site.of_pageAt?_eq_some h hpage
    have hkind : (site.label guards d).kind = .page := by
      unfold Site.label
      simp [hpage]
    rw [hkind]
    exact HasComponent.page hmem hrole
  · obtain rfl : fallbackComponent = component := Option.some.inj hcomponent
    exact HasComponent.fallback

/-- The component of every page with a route is in the tree. -/
theorem exists_label_of_page (h : Site.ofPages pages = .ok site)
    (hpages : ∀ page ∈ pages, page.IsParsed)
    (honly : Page.OnePerDirectory pages) (hpage : page ∈ pages) (hrole : page.role = .route) :
    ∃ label ∈ (tree pages site guards rules).labels, label.kind = .page ∧
      label.component = some page.componentRef := by
  have hne := ((hpages page hpage).of_route hrole).1
  refine ⟨site.label guards page.segments, ?_, Site.label_of_page guards h honly hpage hrole hne⟩
  refine (mem_labels_tree_iff (Site.isClosed_of_ofPages h)).2 ?_
  have hmem := Site.segments_mem_directories hpages h hpage hrole
  exact Or.inr (Or.inr (Or.inr (Or.inr (Or.inl ⟨_, hmem, rfl⟩))))

end Assembly

/-! ## Which names are shared -/

namespace Page.IsParsed

variable {page : Page}

/-- No page with a route is called like the component for unknown addresses. -/
theorem identifier_ne_notFound (h : page.IsParsed) (hrole : page.role = .route) :
    page.identifier ≠ notFoundIdentifier := by
  rw [(h.of_route hrole).2.2, Segment.identifier, notFoundIdentifier]
  intro heq
  have hlength := congrArg String.length heq
  rw [String.length_append] at hlength
  -- the ending alone is longer than the other name
  have hending : "RouteIndexComponent".length = 19 := by decide
  have hwhole : "NotFoundComponent".length = 17 := by decide
  omega

/-- No page with a route has its component where the page root has its. -/
theorem importPath_ne_root (h : page.IsParsed) (hrole : page.role = .route) :
    page.importPath ≠ Path.importSpecifier "index.component.ts" := by
  have hroot : Path.importSpecifier "index.component.ts" = "./index.component" := by decide
  rw [h.importPath hrole, hroot]
  intro heq
  have hlength := congrArg String.length heq
  simp only [String.length_append] at hlength
  have hfile : "/index.component".length = 16 := by decide
  have hdot : "./".length = 2 := by decide
  have hwhole : "./index.component".length = 17 := by decide
  omega

end Page.IsParsed

/-- Whether some page with a route is called like the index of the page root. -/
def Page.TakesRootName (pages : List Page) : Prop :=
  ∃ page ∈ pages, page.role = .route ∧ page.identifier = rootIndexIdentifier

namespace Assembly.HasComponent

variable {pages : List Page} {kind kind' : RouteKind} {c c' : ComponentRef}

/-- The component file of the page root belongs to its index alone. -/
theorem kind_eq_rootIndex (h : HasComponent pages kind c) (hpages : ∀ page ∈ pages, page.IsParsed)
    (hroot : c = rootIndexComponent) : kind = .rootIndex := by
  cases h with
  | rootIndex => rfl
  | fallback => exact absurd hroot (by decide)
  | page hpage hrole =>
    have hpath := congrArg ComponentRef.importPath hroot
    exact absurd hpath ((hpages _ hpage).importPath_ne_root hrole)

/-- Of two components of one name the second is the first or ranks behind it, unless the first is
that of the page root and a page takes its name. -/
theorem eq_or_importRank_lt (h : HasComponent pages kind c) (h' : HasComponent pages kind' c')
    (hpages : ∀ page ∈ pages, page.IsParsed)
    (hidentifier : ∀ p ∈ pages, ∀ q ∈ pages, p.identifier = q.identifier → p = q)
    (hname : c'.identifier = c.identifier)
    (hnot : ¬(kind = .rootIndex ∧ Page.TakesRootName pages)) :
    c' = c ∨ Emission.importRank kind < Emission.importRank kind' := by
  cases h with
  | rootIndex =>
    cases h' with
    | rootIndex => exact Or.inl rfl
    | fallback => exact absurd hname (by decide)
    | page hpage hrole => exact absurd ⟨rfl, _, hpage, hrole, hname⟩ hnot
  | fallback =>
    cases h' with
    | rootIndex => exact absurd hname (by decide)
    | fallback => exact Or.inl rfl
    | page hpage hrole => exact absurd hname ((hpages _ hpage).identifier_ne_notFound hrole)
  | page hpage hrole =>
    cases h' with
    | rootIndex => exact Or.inr (by decide)
    | fallback => exact Or.inr (by decide)
    | page hpage' hrole' => exact Or.inl (hidentifier _ hpage' _ hpage hname ▸ rfl)

end Assembly.HasComponent

namespace CompiledRoutes.Accepted

variable {classesOf : ClassReader} {input : CompileInput} {compiled : CompiledRoutes}
  {registry : GuardRegistry} {site : Site} {label : RouteLabel} {component : ComponentRef}

theorem hasComponent (h : compiled.Accepted classesOf input registry site)
    (hlabel : label ∈ compiled.tree.labels) (hcomponent : label.component = some component) :
    Assembly.HasComponent compiled.pages label.kind component := by
  rw [h.tree_eq, (RouteTree.labels_order_perm _).mem_iff] at hlabel
  exact Assembly.hasComponent_of_mem_labels h.filled (fun _ => h.isParsed) hlabel hcomponent

/-- A page that takes the name of the page root has its component imported in place of that of the
page root. -/
theorem rootIndexComponent_not_mem (h : compiled.Accepted classesOf input registry site)
    (htakes : Page.TakesRootName compiled.pages) :
    Assembly.rootIndexComponent ∉ Emission.importedComponents compiled.tree := by
  obtain ⟨page, hpage, hrole, hname⟩ := htakes
  have hpages : ∀ page ∈ compiled.pages, page.IsParsed := fun _ => h.isParsed
  obtain ⟨other, hother, hkind, hc⟩ := Assembly.exists_label_of_page h.filled hpages
    h.onePerDirectory hpage hrole
  rw [← (RouteTree.labels_order_perm _).mem_iff, ← h.tree_eq] at hother
  -- the page ranks before every index of the page root
  refine Emission.not_mem_importedComponents hother hc hname fun index hindex hroot => ?_
  rw [hkind, (h.hasComponent hindex hroot).kind_eq_rootIndex hpages rfl]
  decide

/-- Every other component is imported. -/
theorem mem_importedComponents (h : compiled.Accepted classesOf input registry site)
    (hlabel : label ∈ compiled.tree.labels) (hcomponent : label.component = some component)
    (hnot : ¬(label.kind = .rootIndex ∧ Page.TakesRootName compiled.pages)) :
    component ∈ Emission.importedComponents compiled.tree := by
  refine Emission.mem_importedComponents hlabel hcomponent fun other hother c hc hname => ?_
  exact (h.hasComponent hlabel hcomponent).eq_or_importRank_lt (h.hasComponent hother hc)
    (fun _ => h.isParsed) (fun p hp q hq => h.eq_of_identifier_eq hp hq) hname hnot

end CompiledRoutes.Accepted

namespace CompileInput

/-- In every compilation that ends well the component of a route is imported from its own file,
with one exception: the index of the page root is not, if a page takes its name. -/
theorem component_mem_imports_iff {classesOf : ClassReader} {input : CompileInput}
    {compiled : CompiledRoutes} {label : RouteLabel} {component : ComponentRef}
    (h : input.compile classesOf = .ok compiled) (hlabel : label ∈ compiled.tree.labels)
    (hcomponent : label.component = some component) :
    ⟨component.identifier, component.importPath, .component⟩ ∈ compiled.emission.imports ↔
      ¬(label.kind = .rootIndex ∧ Page.TakesRootName compiled.pages) := by
  obtain ⟨registry, site, haccepted⟩ := compile_eq_ok_iff.1 h
  rw [haccepted.emission_eq, ← Emission.ofComponent, Emission.ofComponent_mem_imports_iff]
  constructor
  · rintro himported ⟨hkind, htakes⟩
    have hown := haccepted.hasComponent hlabel hcomponent
    rw [hkind] at hown
    cases hown
    exact haccepted.rootIndexComponent_not_mem htakes himported
  · exact haccepted.mem_importedComponents hlabel hcomponent

/-- The component of a page that has nothing in common with the page root. -/
theorem component_mem_imports_iff_about :
    ∃ compiled label, compile (fun _ _ => .error "") ⟨["about/index.html"], [], []⟩ = .ok compiled ∧
      label ∈ compiled.tree.labels ∧
      label.component = some ⟨"AboutRouteIndexComponent", "./about/index.component"⟩ ∧
      (⟨"AboutRouteIndexComponent", "./about/index.component", .component⟩ ∈
          compiled.emission.imports ↔
        ¬(label.kind = .rootIndex ∧ Page.TakesRootName compiled.pages)) := by
  let pages : List Page := [⟨"about/index.html", "about", [.literal "about"],
    "AboutRouteIndexComponent", "app-about-route-index", .route, 0⟩]
  have hparse : parsePages ["about/index.html"] = .ok pages := by decide +kernel
  obtain ⟨built, (hbuilt : Assembly.build pages ⟨[]⟩ [] = .ok built), h⟩ :=
    exists_compile_eq_ok (fun _ _ => .error "") ⟨["about/index.html"], [], []⟩ hparse
      (by decide +kernel) rfl (by decide +kernel)
  have hfound : (Assembly.build pages ⟨[]⟩ []).map (fun built => built.tree.order.labels.any
      (·.component = some ⟨"AboutRouteIndexComponent", "./about/index.component"⟩)) =
        .ok true := by
    cbv
  rw [hbuilt] at hfound
  obtain ⟨label, hlabel, hcomponent⟩ := List.any_eq_true.1 (Except.ok.inj hfound)
  exact ⟨_, label, h, hlabel, of_decide_eq_true hcomponent,
    component_mem_imports_iff h hlabel (of_decide_eq_true hcomponent)⟩

/-- A page in a directory called `root` takes the name of the page root, so the routing module shows
the component of that page at the page root. -/
theorem root_component_not_mem_imports :
    ∃ compiled label, compile (fun _ _ => .error "") ⟨["root/index.html"], [], []⟩ = .ok compiled ∧
      label ∈ compiled.tree.labels ∧
      label.component = some ⟨"RootRouteIndexComponent", "./index.component"⟩ ∧
      ⟨"RootRouteIndexComponent", "./index.component", .component⟩ ∉ compiled.emission.imports := by
  let pages : List Page := [⟨"root/index.html", "root", [.literal "root"],
    "RootRouteIndexComponent", "app-root-route-index", .route, 0⟩]
  have hparse : parsePages ["root/index.html"] = .ok pages := by decide +kernel
  obtain ⟨built, (hbuilt : Assembly.build pages ⟨[]⟩ [] = .ok built), h⟩ :=
    exists_compile_eq_ok (fun _ _ => .error "") ⟨["root/index.html"], [], []⟩ hparse
      (by decide +kernel) rfl (by decide +kernel)
  have hfound : (Assembly.build pages ⟨[]⟩ []).map (fun built => built.tree.order.labels.any
      (·.component = some ⟨"RootRouteIndexComponent", "./index.component"⟩)) = .ok true := by
    cbv
  have himports : (Assembly.build pages ⟨[]⟩ []).map (fun built => decide
      (⟨"RootRouteIndexComponent", "./index.component"⟩ ∈
        Emission.importedComponents built.tree.order)) = .ok false := by
    cbv
  rw [hbuilt] at hfound himports
  obtain ⟨label, hlabel, hcomponent⟩ := List.any_eq_true.1 (Except.ok.inj hfound)
  refine ⟨_, label, h, hlabel, of_decide_eq_true hcomponent, fun hmem => ?_⟩
  exact of_decide_eq_false (Except.ok.inj himports) (Emission.ofComponent_mem_imports_iff.1 hmem)

end CompileInput

end PageRoutes
