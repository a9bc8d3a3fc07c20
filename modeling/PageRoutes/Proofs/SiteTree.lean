import PageRoutes.Proofs.SiteVisits
import PageRoutes.Proofs.Trail

/-!
# The trees of a site

A directory needs a node if it is that of a page or lies on the way from one to the root, and the
site lists each of them once.  The trees below a directory unfold the directories that hang below
it, in some arrangement of siblings.  Building arranges siblings by their order keys and ordering
by their sort keys; everything else about the trees is the same for every arrangement.
-/

namespace PageRoutes

open Placement

/-- Pages of which no two with routes lie in one directory. -/
def Page.OnePerDirectory (pages : List Page) : Prop :=
  ∀ p ∈ pages, ∀ q ∈ pages, p.role = .route → q.role = .route → p.segments = q.segments → p = q

namespace Site

variable {pages : List Page} {site : Site} {guards : GuardRegistry} {d e p : List Segment}

/-! ## Directories -/

/-- The directories that need a node: those of the pages with routes, and with a directory also
the one below which it hangs. -/
inductive NeededBy (pages : List Page) : List Segment → Prop where
  | own {page : Page} (hpage : page ∈ pages) (hrole : page.role = .route) :
      NeededBy pages page.segments
  | parent {d : List Segment} (hd : NeededBy pages d) (hne : parent d ≠ []) :
      NeededBy pages (parent d)

/-- The directories that pages need are those to which the pages lead. -/
theorem neededBy_iff (hpages : ∀ page ∈ pages, page.IsParsed) :
    NeededBy pages d ↔ ∃ page ∈ pages, page.role = .route ∧ d ∈ lineage page.segments := by
  constructor
  · intro hd
    induction hd with
    | own hpage hrole =>
      exact ⟨_, hpage, hrole, self_mem_lineage ((hpages _ hpage).of_route hrole).1⟩
    | parent _ hne ih =>
      obtain ⟨page, hpage, hrole, hup⟩ := ih
      exact ⟨page, hpage, hrole, parent_mem_lineage hup hne⟩
  · rintro ⟨page, hpage, hrole, hup⟩
    exact of_mem_lineage (fun _ => NeededBy.parent) (NeededBy.own hpage hrole) hup

/-- The segments of a needed directory were read. -/
theorem NeededBy.isRead (hpages : ∀ page ∈ pages, page.IsParsed)
    (hd : NeededBy pages d) : ∀ s ∈ d, s.IsRead := by
  obtain ⟨page, hpage, -, hup⟩ := (neededBy_iff hpages).1 hd
  exact fun s hs => (hpages page hpage).isRead s ((isPrefix_of_mem_lineage hup).subset hs)

/-- The directories of a site are those that its pages need. -/
theorem mem_directories_iff_neededBy (hpages : ∀ page ∈ pages, page.IsParsed)
    (h : ofPages pages = .ok site) : d ∈ site.directories ↔ NeededBy pages d := by
  rw [mem_directories_iff h, neededBy_iff hpages]

/-- What holds of the segments of all pages holds of the segments of all directories. -/
theorem forall_mem_of_mem_directories {p : Segment → Prop} (h : ofPages pages = .ok site)
    (hp : ∀ page ∈ pages, ∀ s ∈ page.segments, p s) (hd : d ∈ site.directories) :
    ∀ s ∈ d, p s := by
  obtain ⟨page, hpage, -, hup⟩ := (mem_directories_iff h).1 hd
  exact fun s hs => hp page hpage s ((isPrefix_of_mem_lineage hup).subset hs)

theorem isRead_of_mem_directories (hpages : ∀ page ∈ pages, page.IsParsed)
    (h : ofPages pages = .ok site) (hd : d ∈ site.directories) : ∀ s ∈ d, s.IsRead :=
  forall_mem_of_mem_directories h (fun page hpage => (hpages page hpage).isRead) hd

theorem segments_mem_directories {page : Page} (hpages : ∀ page ∈ pages, page.IsParsed)
    (h : ofPages pages = .ok site) (hpage : page ∈ pages) (hrole : page.role = .route) :
    page.segments ∈ site.directories :=
  (mem_directories_iff_neededBy hpages h).2 (NeededBy.own hpage hrole)

/-- A site that lists, each once, its directories and all that lie on their ways to the root. -/
structure IsClosed (site : Site) : Prop where
  nodup : site.directories.Nodup
  ne_nil : ∀ d ∈ site.directories, d ≠ []
  parent_mem : ∀ d ∈ site.directories, parent d ≠ [] → parent d ∈ site.directories

/-- The site of any list of pages is closed. -/
theorem isClosed_of_ofPages (h : ofPages pages = .ok site) :
    site.IsClosed where
  nodup := (filled_of_ofPages h).nodup
  ne_nil d hd := by
    obtain ⟨page, -, -, hup⟩ := (mem_directories_iff h).1 hd
    exact ne_nil_of_mem_lineage hup
  parent_mem d hd hp := by
    obtain ⟨page, hpage, hrole, hup⟩ := (mem_directories_iff h).1 hd
    exact (mem_directories_iff h).2 ⟨page, hpage, hrole, parent_mem_lineage hup hp⟩

/-- With a directory the site has all that lie on its way to the root. -/
theorem IsClosed.mem_of_mem_lineage (h : site.IsClosed) (hd : d ∈ site.directories)
    (he : e ∈ lineage d) : e ∈ site.directories :=
  of_mem_lineage h.parent_mem hd he

theorem IsClosed.mem_childrenOf (h : site.IsClosed) :
    d ∈ site.childrenOf p ↔ d ∈ site.directories ∧ parent d = p := by
  rw [childrenOf, List.mem_mergeSort, List.mem_filter, Bool.and_eq_true, Bool.not_eq_true',
    List.isEmpty_eq_false_iff, beq_iff_eq]
  constructor
  · rintro ⟨hd, -, hp⟩
    exact ⟨hd, hp⟩
  · rintro ⟨hd, hp⟩
    exact ⟨hd, h.ne_nil d hd, hp⟩

theorem IsClosed.nodup_childrenOf (h : site.IsClosed) : (site.childrenOf p).Nodup := by
  rw [childrenOf, (List.mergeSort_perm _ _).nodup_iff]
  exact h.nodup.filter _

/-- What holds of a directory as soon as it holds of all that hang below it holds of every
directory. -/
theorem below_induction (site : Site) {motive : List Segment → Prop}
    (step : ∀ p, (∀ d ∈ site.childrenOf p, motive d) → motive p) (p : List Segment) : motive p := by
  induction h : site.depth - p.length using Nat.strongRecOn generalizing p with
  | ind n ih =>
    refine step p fun d hd => ih _ ?_ d rfl
    have hlen := lengths_of_mem_childrenOf hd
    omega

/-! ## Labels -/

theorem origin_label : (site.label guards d).origin = some (Segment.directory d) := rfl

theorem kind_label_ne_rootIndex : (site.label guards d).kind ≠ .rootIndex := by
  unfold label
  dsimp only
  split <;> decide

theorem siblingClass_label : (site.label guards d).kind.siblingClass = .route := by
  unfold label
  dsimp only
  split <;> rfl

/-- A directory with a page shows the component of the page. -/
theorem label_of_page (guards : GuardRegistry) (h : ofPages pages = .ok site)
    (honly : Page.OnePerDirectory pages)
    {page : Page} (hpage : page ∈ pages) (hrole : page.role = .route)
    (hne : page.segments ≠ []) :
    (site.label guards page.segments).kind = .page ∧
      (site.label guards page.segments).component = some page.componentRef := by
  obtain ⟨own, hown⟩ := Option.ne_none_iff_exists'.1 (pageAt?_segments_ne_none h hpage hrole hne)
  obtain ⟨hmem, hrole', hsegments, -⟩ := of_pageAt?_eq_some h hown
  obtain rfl := honly own hmem page hpage hrole' hrole hsegments
  unfold label
  simp [hown]

/-- A directory without a page only holds others together. -/
theorem label_of_no_page (guards : GuardRegistry) (h : ofPages pages = .ok site)
    (hnone : ∀ page ∈ pages, page.role = .route → page.segments ≠ d) :
    (site.label guards d).kind = .group ∧ (site.label guards d).component = none := by
  have hat : site.pageAt? d = none := by
    cases hown : site.pageAt? d with
    | none => rfl
    | some page =>
      obtain ⟨hpage, hrole, hsegments, -⟩ := of_pageAt?_eq_some h hown
      exact absurd hsegments (hnone page hpage hrole)
  unfold label
  simp [hat]

/-- Below a directory without a page there are other directories. -/
theorem childrenOf_ne_nil (h : ofPages pages = .ok site) (hd : d ∈ site.directories)
    (hnone : ∀ page ∈ pages, page.role = .route → page.segments ≠ d) :
    site.childrenOf d ≠ [] := by
  obtain ⟨page, hpage, hrole, hup⟩ := (mem_directories_iff h).1 hd
  obtain ⟨c, hc, hparent⟩ :=
    exists_parent_eq_of_mem_lineage hup (Ne.symm (hnone page hpage hrole))
  -- the page that leads here comes from below
  have hcmem := (mem_directories_iff h).2 ⟨page, hpage, hrole, hc⟩
  exact List.ne_nil_of_mem ((isClosed_of_ofPages h).mem_childrenOf.2 ⟨hcmem, hparent⟩)

/-! ## Arrangements of siblings -/

/-- A way to put siblings in order. -/
structure Arrangement where
  arrange : List (List Segment) → List (List Segment)
  perm : ∀ ds, (arrange ds).Perm ds

/-- Siblings as they were found. -/
def asFound : Arrangement :=
  ⟨id, fun _ => List.Perm.refl _⟩

/-- Siblings in the order of their sort keys. -/
def bySortKey (site : Site) (guards : GuardRegistry) : Arrangement :=
  ⟨fun ds => ds.mergeSort fun a b => (site.label guards a).sortKey.le (site.label guards b).sortKey,
    fun ds => List.mergeSort_perm ds _⟩

/-- The trees that hang below a directory, with siblings in the given arrangement. -/
def branchesBelow (site : Site) (guards : GuardRegistry) (arr : Arrangement)
    (p : List Segment) : List RouteTree :=
  (arr.arrange (site.childrenOf p)).attach.map fun ⟨d, _⟩ =>
    .node (site.label guards d) (branchesBelow site guards arr d)
termination_by site.depth - p.length
decreasing_by
  have := lengths_of_mem_childrenOf ((arr.perm _).mem_iff.1 ‹_›)
  omega

/-- The tree of one directory. -/
def branch (site : Site) (guards : GuardRegistry) (arr : Arrangement) (d : List Segment) :
    RouteTree :=
  .node (site.label guards d) (site.branchesBelow guards arr d)

variable {arr : Arrangement}

theorem branchesBelow_eq (p : List Segment) :
    site.branchesBelow guards arr p =
      (arr.arrange (site.childrenOf p)).map (site.branch guards arr) := by
  rw [branchesBelow]
  simp only [List.map_subtype, List.unattach_attach]
  rfl

@[simp] theorem children_branch :
    (site.branch guards arr d).children = site.branchesBelow guards arr d := rfl

/-- Building leaves siblings as they were found. -/
theorem treesBelow_eq_branchesBelow (p : List Segment) :
    site.treesBelow guards p = site.branchesBelow guards asFound p := by
  induction p using below_induction site with
  | step p ih =>
    rw [treesBelow_eq, branchesBelow_eq]
    refine List.map_congr_left fun d hd => ?_
    rw [branch, ih d hd]

/-- Ordering puts siblings in the order of their sort keys, at every depth. -/
theorem sortSiblings_treesBelow (p : List Segment) :
    RouteTree.sortSiblings (RouteTree.orderAll (site.treesBelow guards p)) =
      site.branchesBelow guards (bySortKey site guards) p := by
  induction p using below_induction site with
  | step p ih =>
    -- below each sibling the order is there by induction, what is left is to sort the siblings
    have hchildren : RouteTree.orderAll (site.treesBelow guards p) =
        (site.childrenOf p).map (site.branch guards (bySortKey site guards)) := by
      rw [RouteTree.orderAll_eq_map, treesBelow_eq, List.map_map]
      refine List.map_congr_left fun d hd => ?_
      rw [Function.comp_apply, RouteTree.order, ih d hd, branch]
    rw [hchildren, branchesBelow_eq]
    exact (List.map_mergeSort (f := site.branch guards (bySortKey site guards))
      (s := RouteTree.mayPrecede) fun _ _ _ _ => rfl).symm

end Site

end PageRoutes
