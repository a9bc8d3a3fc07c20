import PageRoutes.Proofs.Accepted

/-!
# Places of directories

The place of a route among its siblings does not tell when its directory was first met.  A directory
with a page takes the place of this page, even if the page is found after pages further inside.  A
directory without a page takes the least place of the pages inside it: each of them leads through
the directory on its way to the root, and the routes below a directory are those of the directories
that have it in their lineage.
-/

namespace PageRoutes

open Placement

/-- The pages whose routes are in a tree, at its top or below. -/
def RouteTree.pagesIn (tree : RouteTree) (pages : List Page) : List Page :=
  pages.filter fun page =>
    page.role = .route && tree.labels.any fun label => label.origin == some page.directory

theorem RouteTree.mem_pagesIn_iff {tree : RouteTree} {pages : List Page} {page : Page} :
    page ∈ tree.pagesIn pages ↔ page ∈ pages ∧ page.role = .route ∧
      ∃ label ∈ tree.labels, label.origin = some page.directory := by
  simp [pagesIn]

namespace Site

variable {pages : List Page} {site : Site} {guards : GuardRegistry} {arr : Arrangement}
  {d p : List Segment}

/-- The directories at and below a directory are those that have it in their lineage. -/
theorem IsClosed.mem_cons_descendants_iff (h : site.IsClosed) (hd : d ∈ site.directories)
    (hp : p ≠ []) : d ∈ p :: site.descendants arr p ↔ p ∈ lineage d := by
  have hne := h.ne_nil d hd
  constructor
  · intro hmem
    rcases List.mem_cons.1 hmem with rfl | hbelow
    · exact self_mem_lineage hp
    · rw [mem_lineage_iff hne]
      exact Or.inr ((h.of_mem_descendants hbelow).2.resolve_left hp)
  · intro hmem
    -- the induction follows the walk from the directory to the root
    induction d using lineage.induct with
    | case1 => exact absurd rfl hne
    | case2 d hne ih =>
      rcases (mem_lineage_iff hne).1 hmem with rfl | habove
      · exact List.mem_cons_self
      have hnil : parent d ≠ [] := by
        intro hnil
        rw [hnil, lineage_nil] at habove
        exact List.not_mem_nil habove
      have hparent := h.parent_mem d hd hnil
      have hchild : d ∈ site.childrenOf (parent d) := h.mem_childrenOf.2 ⟨hd, rfl⟩
      rcases List.mem_cons.1 (ih hparent hnil habove) with hsame | hbelow
      · rw [hsame] at hchild
        exact List.mem_cons_of_mem _ (mem_descendants_iff.2 ⟨d, hchild, Or.inl rfl⟩)
      · exact List.mem_cons_of_mem _ (mem_descendants_of_childrenOf hbelow hchild)

/-- The labels of the tree of a directory are those of the directories at and below it. -/
theorem IsClosed.labels_branch (h : site.IsClosed) :
    (site.branch guards arr d).labels = (d :: site.descendants arr d).map (site.label guards) := by
  have hbelow : (RouteTree.trailsOfAll (site.branchesBelow guards arr d)).map
        (Trail.below ((lineage d).reverse.map (site.branch guards arr))) =
      (site.descendants arr d).map (site.trailOf guards arr) :=
    h.map_below_trails d
  -- a trail has the same label wherever it begins
  have hlabels := congrArg (List.map Trail.label) hbelow
  rw [List.map_map, List.map_map] at hlabels
  rw [RouteTree.labels_eq_map_trails, RouteTree.trails_eq, List.map_cons, List.map_map,
    RouteTree.trailsBelow, children_branch, List.map_cons]
  exact congrArg (List.cons _) hlabels

section OfPages

variable (hsite : site.IsSiteOf pages)
include hsite

/-- The route of a page is that of the directory with its segments. -/
theorem IsSiteOf.origin_label_eq_iff (hd : d ∈ site.directories) {page : Page}
    (hpage : page ∈ pages) (hrole : page.role = .route) :
    (site.label guards d).origin = some page.directory ↔ d = page.segments := by
  rw [((hsite.parsed page hpage).of_route hrole).2.1, origin_label, Option.some.injEq]
  constructor
  · exact Segment.directory_injective (isRead_of_mem_directories hsite.parsed hsite.filled hd)
      (hsite.parsed page hpage).isRead
  · exact congrArg _

/-- The pages in the tree of a directory are those that lead to the directory. -/
theorem IsSiteOf.mem_pagesIn_branch_iff (hd : d ∈ site.directories) {page : Page} :
    page ∈ (site.branch guards arr d).pagesIn pages ↔
      page ∈ pages ∧ page.role = .route ∧ d ∈ lineage page.segments := by
  have hclosed := isClosed_of_ofPages hsite.filled
  rw [RouteTree.mem_pagesIn_iff]
  refine and_congr_right fun hpage => and_congr_right fun hrole => ?_
  have hown := segments_mem_directories hsite.parsed hsite.filled hpage hrole
  have hinside : page.segments ∈ d :: site.descendants arr d ↔ d ∈ lineage page.segments :=
    hclosed.mem_cons_descendants_iff hown (hclosed.ne_nil d hd)
  rw [hclosed.labels_branch, ← hinside]
  have hmem : ∀ e ∈ d :: site.descendants arr d, e ∈ site.directories := by
    intro e he
    rcases List.mem_cons.1 he with rfl | hbelow
    · exact hd
    · exact (hclosed.of_mem_descendants hbelow).1
  constructor
  · rintro ⟨label, hlabel, horigin⟩
    obtain ⟨e, he, rfl⟩ := List.mem_map.1 hlabel
    rwa [← (hsite.origin_label_eq_iff (hmem e he) hpage hrole).1 horigin]
  · intro hbelow
    refine ⟨_, List.mem_map_of_mem hbelow, ?_⟩
    exact (hsite.origin_label_eq_iff hown hpage hrole).2 rfl

/-- A directory with a page takes the place of the page. -/
theorem IsSiteOf.orderKey_of_page {page : Page} (hpage : page ∈ pages)
    (hrole : page.role = .route) : site.orderKey page.segments = page.place := by
  have hne := ((hsite.parsed page hpage).of_route hrole).1
  obtain ⟨own, hown⟩ :=
    Option.ne_none_iff_exists'.1 (pageAt?_segments_ne_none hsite.filled hpage hrole hne)
  obtain ⟨hmem, hownRole, hsegments, hkey⟩ := of_pageAt?_eq_some hsite.filled hown
  rw [hkey, hsite.onePerDirectory own hmem page hpage hownRole hrole hsegments]

/-- A directory without a page takes the least place of the pages in its tree. -/
theorem IsSiteOf.min?_pagesIn_branch (hd : d ∈ site.directories)
    (hnone : ∀ page ∈ pages, page.role = .route → page.segments ≠ d) :
    (((site.branch guards arr d).pagesIn pages).map Page.place).min? = some (site.orderKey d) := by
  have hat : site.pageAt? d = none := by
    cases hown : site.pageAt? d with
    | none => rfl
    | some page =>
      obtain ⟨hpage, hrole, hsegments, -⟩ := of_pageAt?_eq_some hsite.filled hown
      exact absurd hsegments (hnone page hpage hrole)
  obtain ⟨⟨page, hpage, hrole, hup, hkey⟩, hleast⟩ := of_pageAt?_eq_none hsite.filled hd hat
  rw [List.min?_eq_some_iff]
  constructor
  · rw [← hkey]
    exact List.mem_map_of_mem ((hsite.mem_pagesIn_branch_iff hd).2 ⟨hpage, hrole, hup⟩)
  · intro place hplace
    obtain ⟨other, hother, rfl⟩ := List.mem_map.1 hplace
    obtain ⟨hmem, hotherRole, hotherUp⟩ := (hsite.mem_pagesIn_branch_iff hd).1 hother
    exact (hleast other hmem hotherRole hotherUp).2

end OfPages

end Site

/-! ## The places of all routes -/

/-- A group of page routes in which every route but that of the page root has the place of its
directory, which counts from one. -/
structure RouteTree.HasPlaces (group : RouteTree) (pages : List Page) : Prop where
  /-- The route of a directory with a page has the place of the page. -/
  of_page : ∀ page ∈ pages, page.role = .route → ∀ trail ∈ group.trailsBelow,
    trail.label.origin = some page.directory →
      trail.label.kind = .page ∧ trail.label.orderKey = page.discoveryIndex + 1
  /-- Any other route has the least place of the pages in its tree. -/
  of_no_page : ∀ trail ∈ group.trailsBelow, trail.label.kind ≠ .rootIndex →
    (∀ page ∈ pages, page.role = .route → trail.label.origin ≠ some page.directory) →
      trail.label.kind = .group ∧
        ((trail.route.pagesIn pages).map (·.discoveryIndex + 1)).min? = some trail.label.orderKey

namespace Assembly

variable {pages : List Page} {site : Site} {guards : GuardRegistry} {arr : Site.Arrangement}

/-- The routes of a site have the places of their directories, in whatever order siblings are. -/
theorem hasPlaces_pageGroup (hsite : site.IsSiteOf pages) :
    (pageGroup pages site guards arr).HasPlaces pages := by
  have hclosed := Site.isClosed_of_ofPages hsite.filled
  constructor
  · intro page hpage hrole trail htrail horigin
    rcases exists_trailOf_eq hclosed htrail with rfl | ⟨d, hd, rfl⟩
    · cases horigin
    · obtain rfl := (hsite.origin_label_eq_iff hd hpage hrole).1 horigin
      have hne := ((hsite.parsed page hpage).of_route hrole).1
      refine ⟨?_, hsite.orderKey_of_page hpage hrole⟩
      exact (Site.label_of_page guards hsite.filled hsite.onePerDirectory hpage hrole hne).1
  · intro trail htrail hkind hnone
    rcases exists_trailOf_eq hclosed htrail with rfl | ⟨d, hd, rfl⟩
    · exact absurd rfl hkind
    · have hempty : ∀ page ∈ pages, page.role = .route → page.segments ≠ d :=
        fun page hpage hrole hsame => hnone page hpage hrole
          ((hsite.origin_label_eq_iff hd hpage hrole).2 hsame.symm)
      refine ⟨(Site.label_of_no_page guards hsite.filled hempty).1, ?_⟩
      exact hsite.min?_pagesIn_branch hd hempty

end Assembly

namespace CompileInput

/-- In every compilation that ends well the routes have the places of their directories, both as
they are built and in their final order. -/
theorem hasPlaces_of_compile {classesOf : ClassReader} {input : CompileInput}
    {compiled : CompiledRoutes} (h : input.compile classesOf = .ok compiled) :
    parsePages input.pagePaths = .ok compiled.pages ∧
      ∃ built group ordered,
        Assembly.build compiled.pages ⟨compiled.guards⟩ input.redirects = .ok built ∧
        built.tree.rootGroup? = some group ∧ group.HasPlaces compiled.pages ∧
        compiled.tree.rootGroup? = some ordered ∧ ordered.HasPlaces compiled.pages := by
  obtain ⟨registry, site, haccepted⟩ := compile_eq_ok_iff.1 h
  have hbuild : Assembly.build compiled.pages ⟨compiled.guards⟩ input.redirects =
      .ok ⟨Assembly.tree compiled.pages site registry input.redirects,
        Assembly.strayGuards site registry⟩ := by
    rw [haccepted.guards_eq]
    exact Assembly.build_eq_ok_iff.2 ⟨site, haccepted.filled, rfl⟩
  exact ⟨haccepted.parsed, _, _, _, hbuild, Assembly.rootGroup?_tree,
    Assembly.hasPlaces_pageGroup haccepted.isSiteOf, haccepted.rootGroup?_eq,
    Assembly.hasPlaces_pageGroup haccepted.isSiteOf⟩

/-- The page of the outer directory is found after the page of the inner one, and the scope between
them has no page. -/
theorem hasPlaces_of_compile_scope :
    ∃ compiled, compile (fun _ _ => .error "") ⟨["a/#b/#c/index.html", "a/index.html"], [], []⟩ =
        .ok compiled ∧
      ∃ built group ordered,
        Assembly.build compiled.pages ⟨compiled.guards⟩ [] = .ok built ∧
        (built.tree.labels.filterMap fun label => label.origin.map (·, label.orderKey)) =
          [("", 0), ("a", 2), ("a/#b", 1), ("a/#b/#c", 1)] ∧
        built.tree.rootGroup? = some group ∧ group.HasPlaces compiled.pages ∧
        compiled.tree.rootGroup? = some ordered ∧ ordered.HasPlaces compiled.pages := by
  let pages : List Page :=
    [.ofSegments "a/#b/#c/index.html" [.literal "a", .nestedScope "b", .nestedScope "c"] 0,
      .ofSegments "a/index.html" [.literal "a"] 1]
  have hparse : parsePages ["a/#b/#c/index.html", "a/index.html"] = .ok pages := by
    decide +kernel
  have hkeys : (Assembly.build pages .empty []).map (fun built =>
      built.tree.labels.filterMap fun label => label.origin.map (·, label.orderKey)) =
        .ok [("", 0), ("a", 2), ("a/#b", 1), ("a/#b/#c", 1)] := by
    decide +kernel
  obtain ⟨built, hbuilt, hlabels⟩ := map_eq_ok_iff.1 hkeys
  obtain ⟨_, -, h⟩ := exists_compile_eq_ok (fun _ _ => .error "") ⟨_, [], []⟩ hparse
    (by decide +kernel) rfl (by rw [hbuilt]; rfl)
  obtain ⟨-, built', group, ordered, hbuilt', hplaces⟩ := hasPlaces_of_compile h
  obtain rfl : built = built' := Except.ok.inj (hbuilt.symm.trans hbuilt')
  exact ⟨_, h, built, group, ordered, hbuilt', hlabels, hplaces⟩

end CompileInput

end PageRoutes
