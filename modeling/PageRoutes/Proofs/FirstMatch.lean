import Mathlib.Data.List.Permutation
import PageRoutes.Proofs.Specificity
import PageRoutes.Proofs.StrictOrder

/-!
# Which route an address finds

The router tries routes in the order of their trails and takes the first one with a component whose
pattern matches.  Siblings with a fixed path come before those with a parameter, but a matching
route may hang below an earlier sibling with a fixed path, where another part of it is a parameter.
The address of a page without parameters finds the page exactly when there is no such route.
-/

namespace PageRoutes

open Placement

/-! ## Matching -/

namespace Trail

/-- Whether an element of a pattern matches a segment of an address. -/
def elementMatches (element segment : List Char) : Bool :=
  element.head? == some ':' || element == segment

/-- The elements of the pattern of a trail. -/
def elements (trail : Trail) : List (List Char) :=
  trail.pattern.toList.splitOn '/'

/-- Whether the whole pattern matches the whole address. -/
def matchesAddress (trail : Trail) (address : List (List Char)) : Bool :=
  trail.elements.isEqv address elementMatches

/-- Whether a trail goes on through an earlier sibling with a fixed path at the place where another
trail parts from it. -/
def Shadows (rival own : Trail) : Prop :=
  ∃ common m n rest rest', rival.routes = common ++ m :: rest ∧ own.routes = common ++ n :: rest' ∧
    m.label.isParameterized = false ∧ m.label.orderKey < n.label.orderKey

end Trail

/-- The first route with a component whose pattern matches the address. -/
def RouteTree.firstMatch? (group : RouteTree) (address : List (List Char)) : Option Trail :=
  group.trailsBelow.find? fun trail =>
    trail.label.component.isSome && trail.matchesAddress address

/-- The address of a page without parameters, segment by segment. -/
def Page.address (page : Page) : List (List Char) :=
  page.segments.map (·.name.toList)

namespace Site

variable {pages : List Page} {site : Site} {guards : GuardRegistry} {arr : Arrangement}
  {d e m n : List Segment}

/-! ## Siblings -/

/-- Only a sibling with a fixed path and a place no later may precede one with a fixed path. -/
theorem sortKey_label_le_iff (hn : (site.label guards n).isParameterized = false) :
    (site.label guards m).sortKey.le (site.label guards n).sortKey = true ↔
      (site.label guards m).isParameterized = false ∧ site.orderKey m ≤ site.orderKey n := by
  have hclass : ∀ d, (site.label guards d).sortKey.siblingClass = .route :=
    fun _ => siblingClass_label
  have hspecn : (site.label guards n).sortKey.specificity = .static :=
    if_neg fun h => by simp [hn] at h
  rw [SortKey.le_iff, hclass, hclass, hspecn]
  cases hm : (site.label guards m).isParameterized with
  | false =>
    have hspecm : (site.label guards m).sortKey.specificity = .static :=
      if_neg fun h => by simp [hm] at h
    rw [hspecm]
    simp [Specificity.before, RouteLabel.sortKey, label]
  | true =>
    have hspecm : (site.label guards m).sortKey.specificity =
        .dynamic (site.label guards m).staticLength := if_pos ⟨siblingClass_label, hm⟩
    rw [hspecm]
    simp [Specificity.before]

/-- A directory without parameters has a fixed path. -/
theorem isParameterized_label_eq_false (hd : d ≠ []) (hread : ∀ s ∈ d, s.IsRead)
    (hstatic : ∀ s ∈ d, s.isParameter = false ∧ s.name.toList.head? ≠ some ':') :
    (site.label guards d).isParameterized = false := by
  have hdrop : ∀ s ∈ d.drop (parent d).length, s ∈ d := fun _ => List.mem_of_mem_drop
  rw [RouteLabel.isParameterized_eq_any rfl (drop_parent_ne_nil hd)
    fun s hs => hread s (hdrop s hs), List.any_eq_false]
  intro s hs
  obtain ⟨hparameter, hname⟩ := hstatic s (hdrop s hs)
  rw [Segment.looksParameterized_eq_isParameter hname, hparameter]
  exact Bool.false_ne_true

/-! ## Overtaking -/

/-- Whether one directory comes before another because it hangs below an earlier sibling with a
fixed path at the place where their lineages part. -/
def Overtakes (site : Site) (guards : GuardRegistry) (d e : List Segment) : Prop :=
  ∃ m ∈ lineage d, ∃ n ∈ lineage e, parent m = parent n ∧
    (site.label guards m).isParameterized = false ∧ site.orderKey m < site.orderKey n

/-- Of directories of one depth, one comes before another without parameters exactly if it
overtakes it. -/
theorem precedes_iff_overtakes (h : ofPages pages = .ok site)
    (hplaces : Page.OnePerPlace pages) (hd : d ∈ site.directories)
    (he : e ∈ site.directories)
    (hstatic : ∀ n ∈ lineage e, (site.label guards n).isParameterized = false)
    (hlength : d.length = e.length) :
    Precedes (InOrder site guards) d e ↔ site.Overtakes guards d e := by
  have hclosed := isClosed_of_ofPages h
  constructor
  · rintro (habove | ⟨m, hm, n, hn, hne, hparent, hle⟩)
    · have hlt := length_parent_lt (hclosed.ne_nil e he)
      have hle := (isPrefix_of_mem_lineage habove).length_le
      omega
    · obtain ⟨hfixed, hkey⟩ := (sortKey_label_le_iff (hstatic n hn)).1 hle
      have hkeys := orderKey_ne_of_siblings h hplaces (hclosed.mem_of_mem_lineage hd hm)
        (hclosed.mem_of_mem_lineage he hn) hne hparent
      exact ⟨m, hm, n, hn, hparent, hfixed, by omega⟩
  · rintro ⟨m, hm, n, hn, hparent, hfixed, hkey⟩
    refine Or.inr ⟨m, hm, n, hn, ?_, hparent, ?_⟩
    · rintro rfl
      omega
    · exact (sortKey_label_le_iff (hstatic n hn)).2 ⟨hfixed, by omega⟩

/-- A directory that is overtaken does not come first. -/
theorem not_precedes_of_overtakes (hne : d ≠ []) (hlength : d.length = e.length)
    (hover : site.Overtakes guards d e) : ¬Precedes (InOrder site guards) e d := by
  obtain ⟨m, hm, n, hn, hparent, hfixed, hkey⟩ := hover
  rintro (habove | ⟨n', hn', m', hm', hne', hparent', hle⟩)
  · have hlt := length_parent_lt hne
    have hle := (isPrefix_of_mem_lineage habove).length_le
    omega
  · have hmn : m ≠ n := by
      rintro rfl
      omega
    -- the lineages part only once, so both comparisons are about the same two siblings
    obtain ⟨rfl, rfl⟩ := parting_unique hm hn hmn hparent hm' hn' hne'.symm hparent'.symm
    have hkey' := ((sortKey_label_le_iff hfixed).1 hle).2
    omega

/-! ## Shadowing trails -/

/-- The nodes on the way to the root determine a directory. -/
theorem eq_of_map_branch_lineage_eq (hd : ∀ s ∈ d, s.IsRead) (he : ∀ s ∈ e, s.IsRead)
    (heq : (lineage d).reverse.map (site.branch guards arr) =
      (lineage e).reverse.map (site.branch guards arr)) : d = e := by
  -- the origins of the nodes can be read back
  have hback : ∀ d : List Segment, (∀ s ∈ d, s.IsRead) →
      ((lineage d).reverse.map (site.branch guards arr)).map
        (fun route => route.label.origin.bind Segment.readDirectory?) =
          (lineage d).reverse.map some := by
    intro d hd
    rw [List.map_map]
    refine List.map_congr_left fun c hc => ?_
    have hc' := isPrefix_of_mem_lineage (List.mem_reverse.1 hc)
    exact Segment.readDirectory?_directory fun s hs => hd s (hc'.subset hs)
  have hsome := hback d hd
  rw [heq, hback e he] at hsome
  refine lineage_injective (List.reverse_inj.1 ?_)
  exact List.map_injective_iff.2 (fun _ _ h => Option.some.inj h) hsome.symm

/-- The trails of different directories are different. -/
theorem trailOf_injective (hd : ∀ s ∈ d, s.IsRead) (he : ∀ s ∈ e, s.IsRead)
    (heq : site.trailOf guards arr d = site.trailOf guards arr e) : d = e := by
  have horigin := congrArg (·.label.origin) heq
  exact Segment.directory_injective hd he (Option.some.inj horigin)

/-- One trail shadows another exactly if its directory overtakes that of the other. -/
theorem shadows_trailOf_iff (hd : ∀ s ∈ d, s.IsRead) (he : ∀ s ∈ e, s.IsRead) (hdne : d ≠ [])
    (hene : e ≠ []) :
    (site.trailOf guards arr d).Shadows (site.trailOf guards arr e) ↔
      site.Overtakes guards d e := by
  constructor
  · rintro ⟨common, _, _, rest, rest', hrival, hown, hfixed, hkey⟩
    obtain ⟨m, hm, rfl, hcommon⟩ := exists_of_routes_trailOf_eq_append hdne hrival
    obtain ⟨n, hn, rfl, hcommon'⟩ := exists_of_routes_trailOf_eq_append hene hown
    have hreadm : ∀ s ∈ parent m, s.IsRead := fun s hs =>
      hd s ((isPrefix_of_mem_lineage hm).subset ((parent_isPrefix_self m).subset hs))
    have hreadn : ∀ s ∈ parent n, s.IsRead := fun s hs =>
      he s ((isPrefix_of_mem_lineage hn).subset ((parent_isPrefix_self n).subset hs))
    have hparent := eq_of_map_branch_lineage_eq hreadm hreadn (hcommon.symm.trans hcommon')
    exact ⟨m, hm, n, hn, hparent, hfixed, hkey⟩
  · rintro ⟨m, hm, n, hn, hparent, hfixed, hkey⟩
    obtain ⟨rest, hrival⟩ := exists_routes_trailOf_eq_append guards arr hdne hm
    obtain ⟨rest', hown⟩ := exists_routes_trailOf_eq_append guards arr hene hn
    rw [hparent] at hrival
    exact ⟨_, site.branch guards arr m, site.branch guards arr n, rest, rest', hrival, hown, hfixed,
      hkey⟩

/-! ## Matching trails -/

theorem elements_trailOf (hd : ∀ s ∈ d, s.IsRead) (hne : d ≠ []) :
    (site.trailOf guards arr d).elements = d.map (·.fragment.toList) := by
  rw [Trail.elements, pattern_trailOf hne, Segment.splitOn_pattern hd hne]

/-- Whether the route of a directory has a component and matches an address. -/
def answers (site : Site) (guards : GuardRegistry) (address : List (List Char))
    (d : List Segment) : Bool :=
  let trail := site.trailOf guards (site.bySortKey guards) d
  trail.label.component.isSome && trail.matchesAddress address

/-- A directory that answers is as deep as the address. -/
theorem length_eq_of_answers {address : List (List Char)} (hd : ∀ s ∈ d, s.IsRead) (hne : d ≠ [])
    (h : site.answers guards address d = true) : d.length = address.length := by
  have hmatches := (Bool.and_eq_true_iff.1 h).2
  rw [Trail.matchesAddress, elements_trailOf hd hne] at hmatches
  simpa using length_eq_of_isEqv hmatches

/-- The directory of a page without parameters answers to the address of the page. -/
theorem answers_self {page : Page} (h : ofPages pages = .ok site)
    (hpages : ∀ page ∈ pages, page.IsParsed) (hpage : page ∈ pages) (hrole : page.role = .route)
    (hstatic : ∀ s ∈ page.segments, s.isParameter = false) :
    site.answers guards page.address page.segments = true := by
  have hne := ((hpages page hpage).of_route hrole).1
  refine Bool.and_eq_true_iff.2 ⟨?_, ?_⟩
  · rw [label_trailOf, label, Option.isSome_map, Option.isSome_iff_ne_none]
    exact pageAt?_segments_ne_none h hpage hrole hne
  · have haddress : page.address = page.segments.map (·.fragment.toList) :=
      List.map_congr_left fun s hs => by rw [Segment.fragment_of_not_parameter (hstatic s hs)]
    rw [Trail.matchesAddress, elements_trailOf (hpages page hpage).isRead hne, haddress]
    exact isEqv_self (fun x => by simp [Trail.elementMatches]) _

/-- The directory of a page without parameters answers first exactly when no directory that answers
overtakes it. -/
theorem find?_answers_iff {page : Page} (h : ofPages pages = .ok site)
    (hpages : ∀ page ∈ pages, page.IsParsed) (hplaces : Page.OnePerPlace pages)
    (hpage : page ∈ pages) (hrole : page.role = .route)
    (hstatic : ∀ s ∈ page.segments, s.isParameter = false ∧ s.name.toList.head? ≠ some ':') :
    (site.descendants (site.bySortKey guards) []).find? (site.answers guards page.address) =
        some page.segments ↔
      ∀ d ∈ site.directories, site.answers guards page.address d = true →
        ¬site.Overtakes guards d page.segments := by
  have hclosed := isClosed_of_ofPages h
  have hmem := segments_mem_directories hpages h hpage hrole
  have hread := (hpages page hpage).isRead
  have hfixed : ∀ n ∈ lineage page.segments, (site.label guards n).isParameterized = false := by
    intro n hn
    have hsub := (isPrefix_of_mem_lineage hn).subset
    exact isParameterized_label_eq_false (ne_nil_of_mem_lineage hn)
      (fun s hs => hread s (hsub hs)) fun s hs => hstatic s (hsub hs)
  have hlength : ∀ d ∈ site.directories, site.answers guards page.address d = true →
      d.length = page.segments.length := by
    intro d hd hanswers
    rw [length_eq_of_answers (isRead_of_mem_directories hpages h hd) (hclosed.ne_nil d hd) hanswers,
      Page.address, List.length_map]
  -- what answers is as deep as the page, so it comes first only by overtaking it
  have hprecedes : ∀ d ∈ site.directories, site.answers guards page.address d = true →
      (Precedes (InOrder site guards) d page.segments ↔
        site.Overtakes guards d page.segments) := fun d hd hanswers =>
    precedes_iff_overtakes h hplaces hd hmem hfixed (hlength d hd hanswers)
  rw [find?_eq_some_iff_of_pairwise (hclosed.pairwise_descendants pairwise_inOrder [])
    (hclosed.mem_descendants_nil.2 hmem)
    (answers_self h hpages hpage hrole fun s hs => (hstatic s hs).1)]
  · refine forall_congr' fun d => ?_
    rw [hclosed.mem_descendants_nil]
    refine forall_congr' fun hd => forall_congr' fun hanswers => ?_
    rw [hprecedes d hd hanswers]
  · intro d hd hanswers hfirst
    have hd' := hclosed.mem_descendants_nil.1 hd
    exact not_precedes_of_overtakes (hclosed.ne_nil d hd') (hlength d hd' hanswers)
      ((hprecedes d hd' hanswers).1 hfirst)

end Site

namespace Assembly

variable {pages : List Page} {site : Site} {guards : GuardRegistry} {arr : Site.Arrangement}
  {page : Page}

/-- The route of the page root matches the address of no other page. -/
theorem not_matchesAddress_rootIndex (pages : List Page) (hread : ∀ s ∈ page.segments, s.IsRead)
    (hstatic : ∀ s ∈ page.segments, s.isParameter = false) :
    (⟨[], rootIndex pages⟩ : Trail).matchesAddress page.address = false := by
  have helements : (⟨[], rootIndex pages⟩ : Trail).elements = [[]] := by
    show ("/".intercalate [""]).toList.splitOn '/' = [[]]
    decide
  rw [Trail.matchesAddress, helements, Page.address]
  cases hsegments : page.segments with
  | nil => rfl
  | cons s rest =>
    have hs : s ∈ page.segments := hsegments ▸ List.mem_cons_self
    have hname : s.name ≠ "" := by
      rw [← Segment.fragment_of_not_parameter (hstatic s hs)]
      exact (hread s hs).fragment.1
    simp [List.isEqv_cons_cons, Trail.elementMatches, hname]

/-- The first match is the trail of the first directory that answers. -/
theorem firstMatch?_pageGroup (h : site.IsClosed) {address : List (List Char)}
    (hindex : (⟨[], rootIndex pages⟩ : Trail).matchesAddress address = false) :
    (pageGroup pages site guards (site.bySortKey guards)).firstMatch? address =
      ((site.descendants (site.bySortKey guards) []).find? (site.answers guards address)).map
        (site.trailOf guards (site.bySortKey guards)) := by
  rw [RouteTree.firstMatch?, trailsBelow_pageGroup h,
    List.find?_cons_of_neg (by simp [hindex]), List.find?_map]
  rfl

/-- The address of a page without parameters finds the page first exactly when no matching route
shadows it. -/
theorem firstMatch?_pageGroup_iff (h : Site.ofPages pages = .ok site)
    (hpages : ∀ page ∈ pages, page.IsParsed) (hplaces : Page.OnePerPlace pages)
    (hpage : page ∈ pages) (hrole : page.role = .route)
    (hstatic : ∀ s ∈ page.segments, s.isParameter = false ∧ s.name.toList.head? ≠ some ':') :
    let group := pageGroup pages site guards (site.bySortKey guards)
    let own := site.trailOf guards (site.bySortKey guards) page.segments
    group.firstMatch? page.address = some own ↔
      ∀ rival ∈ group.trailsBelow, rival.label.component.isSome = true →
        rival.matchesAddress page.address = true → ¬rival.Shadows own := by
  intro group own
  have hclosed := Site.isClosed_of_ofPages h
  have hmem := Site.segments_mem_directories hpages h hpage hrole
  have hread : ∀ d ∈ site.directories, ∀ s ∈ d, s.IsRead :=
    fun d => Site.isRead_of_mem_directories hpages h
  have hindex := not_matchesAddress_rootIndex pages (hread _ hmem) fun s hs => (hstatic s hs).1
  have hshadows : ∀ d ∈ site.directories,
      ((site.trailOf guards (site.bySortKey guards) d).Shadows own ↔
        site.Overtakes guards d page.segments) := fun d hd =>
    Site.shadows_trailOf_iff (hread d hd) (hread _ hmem) (hclosed.ne_nil d hd)
      (hclosed.ne_nil _ hmem)
  -- the index of the page root never matches, so only directories can come first
  have hsame : group.firstMatch? page.address = some own ↔
      (site.descendants (site.bySortKey guards) []).find? (site.answers guards page.address) =
        some page.segments := by
    rw [firstMatch?_pageGroup hclosed hindex, Option.map_eq_some_iff]
    constructor
    · rintro ⟨d, hd, htrail⟩
      have hd' := hclosed.mem_descendants_nil.1 (List.mem_of_find?_eq_some hd)
      rw [hd, Site.trailOf_injective (hread d hd') (hread _ hmem) htrail]
    · exact fun hd => ⟨_, hd, rfl⟩
  rw [hsame, Site.find?_answers_iff h hpages hplaces hpage hrole hstatic]
  constructor
  · intro hnone rival hrival hcomponent hmatches
    rcases exists_trailOf_eq hclosed hrival with rfl | ⟨d, hd, rfl⟩
    · rw [hindex] at hmatches
      cases hmatches
    · rw [hshadows d hd]
      exact hnone d hd (Bool.and_eq_true_iff.2 ⟨hcomponent, hmatches⟩)
  · intro hnone d hd hanswers
    rw [← hshadows d hd]
    obtain ⟨hcomponent, hmatches⟩ := Bool.and_eq_true_iff.1 hanswers
    exact hnone _ (trailOf_mem_trailsBelow hclosed hd) hcomponent hmatches

end Assembly

namespace CompileInput

/-- In every compilation that ends well the address of a page without parameters finds the route of
the page first, unless a matching route with a component shadows it; then it never does. -/
theorem firstMatch?_eq_own_iff {classesOf : ClassReader} {input : CompileInput}
    {compiled : CompiledRoutes} {page : Page} (h : input.compile classesOf = .ok compiled)
    (hpage : page ∈ compiled.pages) (hrole : page.role = .route)
    (hstatic : ∀ s ∈ page.segments, s.isParameter = false ∧ s.name.toList.head? ≠ some ':') :
    ∃ group own, compiled.tree.rootGroup? = some group ∧ own ∈ group.trailsBelow ∧
      own.label.origin = some page.directory ∧ own.label.component = some page.componentRef ∧
      (group.firstMatch? page.address = some own ↔
        ∀ rival ∈ group.trailsBelow, rival.label.component.isSome = true →
          rival.matchesAddress page.address = true → ¬rival.Shadows own) := by
  obtain ⟨registry, site, haccepted⟩ := compile_eq_ok_iff.1 h
  have hpages : ∀ page ∈ compiled.pages, page.IsParsed := fun _ => haccepted.isParsed
  have hclosed := Site.isClosed_of_ofPages haccepted.filled
  have hmem := Site.segments_mem_directories hpages haccepted.filled hpage hrole
  have hlabel := Site.label_of_page registry haccepted.filled haccepted.onePerDirectory hpage hrole
    (hclosed.ne_nil _ hmem)
  refine ⟨_, site.trailOf registry (site.bySortKey registry) page.segments,
    haccepted.rootGroup?_eq, Assembly.trailOf_mem_trailsBelow hclosed hmem, ?_, hlabel.2, ?_⟩
  · rw [((hpages page hpage).of_route hrole).2.1]
    rfl
  · exact Assembly.firstMatch?_pageGroup_iff haccepted.filled hpages
      (onePerPlace_of_parsePages haccepted.parsed) hpage hrole hstatic

/-- A page beside one with a parameter. -/
theorem firstMatch?_eq_own_iff_beside_parameter :
    ∃ compiled page, compile (fun _ _ => .error "")
        ⟨["docs/_id/index.html", "docs/api/index.html"], [], []⟩ = .ok compiled ∧
      page ∈ compiled.pages ∧ page.directory = "docs/api" ∧
      ∃ group own, compiled.tree.rootGroup? = some group ∧ own ∈ group.trailsBelow ∧
        own.label.origin = some page.directory ∧ own.label.component = some page.componentRef ∧
        (group.firstMatch? page.address = some own ↔
          ∀ rival ∈ group.trailsBelow, rival.label.component.isSome = true →
            rival.matchesAddress page.address = true → ¬rival.Shadows own) := by
  let pages := [Page.ofSegments "docs/_id/index.html" [.literal "docs", .parameter "id"] 0,
    Page.ofSegments "docs/api/index.html" [.literal "docs", .literal "api"] 1]
  have hparse : parsePages ["docs/_id/index.html", "docs/api/index.html"] = .ok pages := by
    decide +kernel
  obtain ⟨built, -, h⟩ := exists_compile_eq_ok (fun _ _ => .error "")
    ⟨["docs/_id/index.html", "docs/api/index.html"], [], []⟩ hparse (by decide +kernel) rfl
    (by decide +kernel)
  refine ⟨_, pages[1], h, List.mem_cons_of_mem _ List.mem_cons_self, by decide, ?_⟩
  exact firstMatch?_eq_own_iff h (List.mem_cons_of_mem _ List.mem_cons_self) (by decide)
    (by decide)

/-- A page of a scope whose path has a parameter is tried before a page beside the scope that was
discovered later, although the second one has no parameter. -/
theorem firstMatch?_ne_own_beside_scope :
    ∃ compiled page, compile (fun _ _ => .error "")
        ⟨["#a/_x/index.html", "a/b/index.html"], [], []⟩ = .ok compiled ∧
      page ∈ compiled.pages ∧ page.role = .route ∧
      (∀ s ∈ page.segments, s.isParameter = false) ∧
      (∀ p ∈ compiled.pages, ∀ s ∈ p.segments, s.name.toList.head? ≠ some ':') ∧
      ∃ group found, compiled.tree.rootGroup? = some group ∧
        group.firstMatch? page.address = some found ∧
        found.label.origin = some "#a/_x" ∧ page.directory = "a/b" := by
  let pages : List Page := [⟨"#a/_x/index.html", "#a/_x", [.nestedScope "a", .parameter "x"],
      "AXRouteIndexComponent", "app-a-x-route-index", .route, 0⟩,
    ⟨"a/b/index.html", "a/b", [.literal "a", .literal "b"], "ABRouteIndexComponent",
      "app-a-b-route-index", .route, 1⟩]
  let site : Site := ⟨[⟨[.nestedScope "a", .parameter "x"], some pages[0], 1⟩,
      ⟨[.nestedScope "a"], none, 1⟩, ⟨[.literal "a", .literal "b"], some pages[1], 2⟩],
    [[.nestedScope "a", .parameter "x"], [.nestedScope "a"], [.literal "a", .literal "b"]]⟩
  have hparse : parsePages ["#a/_x/index.html", "a/b/index.html"] = .ok pages := by
    decide +kernel
  have hsite : Site.ofPages pages = .ok site := by with_unfolding_all rfl
  let tree := (Assembly.tree pages site ⟨[]⟩ []).order
  have h : compile (fun _ _ => .error "") ⟨["#a/_x/index.html", "a/b/index.html"], [], []⟩ =
      .ok ⟨pages, [], [], tree, Emission.ofTree tree⟩ :=
    compile_eq_ok_iff.2 ⟨⟨[]⟩, site, hparse, by decide, rfl, hsite, rfl, rfl, rfl, rfl⟩
  have hfound : (tree.rootGroup?.bind (·.firstMatch? pages[1].address)).map (·.label.origin) =
      some (some "#a/_x") := by
    cbv
  obtain ⟨found, hfind, horigin⟩ := Option.map_eq_some_iff.1 hfound
  obtain ⟨group, hgroup, hfirst⟩ := Option.bind_eq_some_iff.1 hfind
  have hnames : ∀ p ∈ pages, ∀ s ∈ p.segments, s.name.toList.head? ≠ some ':' := by decide
  exact ⟨_, pages[1], h, List.mem_cons_of_mem _ List.mem_cons_self, by decide, by decide, hnames,
    group, found, hgroup, hfirst, horigin, by decide⟩

end CompileInput

end PageRoutes
