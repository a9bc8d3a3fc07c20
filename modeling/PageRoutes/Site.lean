import PageRoutes.Placement
import PageRoutes.RouteTree

/-!
# The directories of a site and their tree

The directories that need a node are those of the pages with a route of their own, closed under
going to the parent.  They are collected page by page: every page leads from its own directory
outwards, and each directory on the way is entered once.  A directory takes its place among its
siblings from its own page; one without a page takes the place of the first page that leads to it.
No two directories may have one route pattern, since one of them would be a nested scope where the
other is a flat path.
-/

namespace PageRoutes

/-- The place that a page takes in the order of discovery. -/
def Page.place (page : Page) : Nat :=
  page.discoveryIndex + 1

/-- What is known of a directory that needs a node. -/
structure SiteEntry where
  directory : List Segment
  /-- The page of the directory; of several pages in one directory it is the last. -/
  page : Option Page
  /-- The place of the directory among its siblings. -/
  orderKey : Nat

namespace SiteEntry

/-- The entry of a directory to which a page leads for the first time. -/
def first (directory : List Segment) (page : Page) : SiteEntry :=
  ⟨directory, none, page.place⟩

/-- The entry after one more page leads to its directory.  The page of the directory itself decides
its place; until it comes, the place is the least of the places of all pages that lead there. -/
def meet (entry : SiteEntry) (page : Page) : SiteEntry :=
  if page.segments = entry.directory then
    { entry with page := some page, orderKey := page.place }
  else if entry.page.isNone then { entry with orderKey := min entry.orderKey page.place }
  else entry

/-- Enters that a page leads to a directory. -/
def enter (page : Page) (directory : List Segment) : List SiteEntry → List SiteEntry
  | [] => [(first directory page).meet page]
  | entry :: rest =>
    if entry.directory = directory then entry.meet page :: rest
    else entry :: enter page directory rest

end SiteEntry

/-- The directories of a site. -/
structure Site where
  /-- The directories that need a node, in the order of their first visits. -/
  entries : List SiteEntry
  /-- For each route pattern the first directory that has it. -/
  owners : List (List Segment)

namespace Site

/-- The site before any page is read. -/
def empty : Site := ⟨[], []⟩

/-- Leads a page to a directory, unless another directory owns its route pattern. -/
def visit (page : Page) (site : Site) (directory : List Segment) : Except CompileError Site :=
  match site.owners.find? fun d => Segment.pattern d == Segment.pattern directory with
  | some owner =>
    if owner = directory then
      .ok { site with entries := SiteEntry.enter page directory site.entries }
    else
      .error (.conflictingScope (Segment.pattern directory) (Segment.directory owner)
        (Segment.directory directory))
  | none => .ok ⟨SiteEntry.enter page directory site.entries, site.owners ++ [directory]⟩

/-- Leads a page from its own directory outwards to the root. -/
def walk (site : Site) (page : Page) : Except CompileError Site :=
  (Placement.lineage page.segments).foldlM (visit page) site

/-- The site of a list of pages; only pages with routes of their own count. -/
def ofPages (pages : List Page) : Except CompileError Site :=
  (pages.filter (·.role = .route)).foldlM walk empty

/-! ## The tree of directories -/

/-- The directories that need a node, in the order of their first visits. -/
def directories (site : Site) : List (List Segment) :=
  site.entries.map (·.directory)

/-- What is known of a directory. -/
def entryAt? (site : Site) (directory : List Segment) : Option SiteEntry :=
  site.entries.find? (·.directory == directory)

/-- The page of a directory. -/
def pageAt? (site : Site) (directory : List Segment) : Option Page :=
  (site.entryAt? directory).bind (·.page)

/-- The place of a directory among its siblings. -/
def orderKey (site : Site) (directory : List Segment) : Nat :=
  (site.entryAt? directory).elim 0 (·.orderKey)

/-- The label of the node of a directory. -/
def label (site : Site) (guards : GuardRegistry) (directory : List Segment) : RouteLabel where
  kind := if (site.pageAt? directory).isSome then .page else .group
  pathSegment := Placement.path directory
  component := (site.pageAt? directory).map Page.componentRef
  guard := (guards.get? (Segment.directory directory)).map Guard.attached
  redirect := none
  origin := some (Segment.directory directory)
  orderKey := site.orderKey directory

/-- The directories that hang below a directory, by their places. -/
def childrenOf (site : Site) (parent : List Segment) : List (List Segment) :=
  (site.directories.filter fun d => !d.isEmpty && Placement.parent d == parent).mergeSort
    fun a b => site.orderKey a ≤ site.orderKey b

/-- The number of segments of the deepest directory. -/
def depth (site : Site) : Nat :=
  ((site.directories.map List.length).max?).getD 0

/-- A directory that needs a node is no deeper than the deepest. -/
theorem length_le_depth {site : Site} {directory : List Segment}
    (mem : directory ∈ site.directories) : directory.length ≤ site.depth := by
  have mem' : directory.length ∈ site.directories.map List.length := List.mem_map_of_mem mem
  unfold depth
  cases h : (site.directories.map List.length).max? with
  | none => simp [List.max?_eq_none_iff.1 h] at mem'
  | some m => exact (List.max?_eq_some_iff.1 h).2 _ mem'

/-- What hangs below a directory is longer than it and no deeper than the deepest. -/
theorem lengths_of_mem_childrenOf {site : Site} {parent directory : List Segment}
    (mem : directory ∈ site.childrenOf parent) :
    parent.length < directory.length ∧ directory.length ≤ site.depth := by
  have filtered := (List.mergeSort_perm _ _).mem_iff.1 mem
  simp only [List.mem_filter, Bool.and_eq_true, Bool.not_eq_true', List.isEmpty_eq_false_iff,
    beq_iff_eq] at filtered
  obtain ⟨listed, ne, rfl⟩ := filtered
  exact ⟨Placement.length_parent_lt ne, length_le_depth listed⟩

/-- The trees that hang below a directory. -/
def treesBelow (site : Site) (guards : GuardRegistry) (parent : List Segment) : List RouteTree :=
  (site.childrenOf parent).attach.map fun ⟨directory, _⟩ =>
    .node (site.label guards directory) (treesBelow site guards directory)
termination_by site.depth - parent.length
decreasing_by
  have := lengths_of_mem_childrenOf ‹_›
  omega

/-- The trees below a directory, without the bookkeeping that makes the recursion end. -/
theorem treesBelow_eq (site : Site) (guards : GuardRegistry) (parent : List Segment) :
    site.treesBelow guards parent = (site.childrenOf parent).map fun directory =>
      .node (site.label guards directory) (site.treesBelow guards directory) := by
  rw [treesBelow]
  simp

end Site

end PageRoutes
