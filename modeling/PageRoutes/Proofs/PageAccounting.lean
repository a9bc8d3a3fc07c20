import PageRoutes.Proofs.Accepted
import PageRoutes.Proofs.KeyedLists

/-!
# Every page has its route

The routes below the group of page routes, apart from the one for the page root, are those of the
directories that the pages need.  Every such directory has one route, which hangs directly below
the route of its parent and has as many routes above it as the walk to the root has steps left.
The route shows the component of the page in the directory; without such a page it only holds other
routes together.
-/

namespace PageRoutes

open Placement

/-- The route of a directory at its place below the group of page routes. -/
structure Trail.IsRouteOf (trail : Trail) (group : RouteTree) (pages : List Page)
    (d : List Segment) : Prop where
  origin : trail.label.origin = some (Segment.directory d)
  /-- Going from the directory to its parent again and again ends, after as many steps as there are
  routes on the trail. -/
  ends : parent^[trail.routes.length] d = [] ∧ trail.routes.length ≤ d.length
  below_group : parent d = [] → trail.above = [] ∧ trail.route ∈ group.children
  below_parent : parent d ≠ [] → ∃ outer up,
    trail.above = outer ++ [up] ∧ ⟨outer, up⟩ ∈ group.trailsBelow ∧
      up.label.origin = some (Segment.directory (parent d)) ∧ trail.route ∈ up.children
  of_page : ∀ page ∈ pages, page.role = .route → page.segments = d →
    trail.label.kind = .page ∧ trail.label.component = some page.componentRef
  of_no_page : (∀ page ∈ pages, page.role = .route → page.segments ≠ d) →
    trail.label.kind = .group ∧ trail.label.component = none ∧ trail.route.children ≠ []

/-- A group of routes with one route for each directory that the pages need, one for the page root
and nothing else. -/
structure RouteTree.AccountsFor (group : RouteTree) (pages : List Page) : Prop where
  rootIndex : ∃ index, group.trailsBelow.filter (·.label.kind = .rootIndex) = [⟨[], index⟩]
  route : ∀ d, Site.NeededBy pages d → ∃ trail,
    group.trailsBelow.filter (·.label.origin = some (Segment.directory d)) = [trail] ∧
      trail.IsRouteOf group pages d
  needed : ∀ trail ∈ group.trailsBelow, trail.label.kind ≠ .rootIndex →
    ∃ d, Site.NeededBy pages d ∧ trail.label.origin = some (Segment.directory d)
  directory_injective : ∀ d e, Site.NeededBy pages d → Site.NeededBy pages e →
    Segment.directory d = Segment.directory e → d = e

/-! ## The group accounts for the pages -/

namespace Assembly

variable {pages : List Page} {site : Site} {guards : GuardRegistry} {arr : Site.Arrangement}
  {d : List Segment}

/-- Every directory of the site has its route at its place. -/
theorem isRouteOf_trailOf (h : Site.ofPages pages = .ok site)
    (hne : ∀ page ∈ pages, page.role = .route → page.segments ≠ [])
    (honly : Page.OnePerDirectory pages)
    (hd : d ∈ site.directories) :
    (site.trailOf guards arr d).IsRouteOf (pageGroup pages site guards arr) pages d := by
  have hclosed := Site.isClosed_of_ofPages h
  have hbranch := Site.branch_mem_branchesBelow guards arr hclosed hd
  refine ⟨rfl, ?_, fun hnil => ?_, fun hp => ?_, ?_, fun hnone => ?_⟩
  · rw [Site.length_routes_trailOf site guards arr (hclosed.ne_nil d hd)]
    exact ⟨iterate_parent_length_lineage d, length_lineage_le d⟩
  · rw [hnil] at hbranch
    refine ⟨?_, List.mem_cons_of_mem _ hbranch⟩
    rw [Site.trailOf, hnil, lineage_nil]
    rfl
  · have hparent := hclosed.parent_mem d hd hp
    exact ⟨_, _, Site.above_trailOf hp, trailOf_mem_trailsBelow hclosed hparent, rfl, hbranch⟩
  · rintro page hpage hrole rfl
    exact Site.label_of_page guards h honly hpage hrole (hne page hpage hrole)
  · obtain ⟨hkind, hcomponent⟩ := Site.label_of_no_page guards h hnone
    refine ⟨hkind, hcomponent, ?_⟩
    have hchildren := Site.childrenOf_ne_nil h hd hnone
    rw [Site.trailOf, Site.children_branch, Site.branchesBelow_eq]
    intro hnil
    have hperm := arr.perm (site.childrenOf d)
    rw [List.map_eq_nil_iff.1 hnil, List.nil_perm] at hperm
    exact hchildren hperm

/-- The group of page routes accounts for its pages, in whatever order siblings are. -/
theorem accountsFor_pageGroup (h : Site.ofPages pages = .ok site)
    (hpages : ∀ page ∈ pages, page.IsParsed)
    (honly : Page.OnePerDirectory pages) :
    (pageGroup pages site guards arr).AccountsFor pages := by
  have hclosed := Site.isClosed_of_ofPages h
  have hinj : ∀ d e, Site.NeededBy pages d → Site.NeededBy pages e →
      Segment.directory d = Segment.directory e → d = e :=
    fun d e hd he => Segment.directory_injective (hd.isRead hpages) (he.isRead hpages)
  have hneeded : ∀ {d}, d ∈ site.directories ↔ Site.NeededBy pages d :=
    Site.mem_directories_iff_neededBy hpages h
  refine ⟨⟨rootIndex pages, ?_⟩, fun d hd => ⟨site.trailOf guards arr d, ?_, ?_⟩, ?_, hinj⟩
  · -- every route but the first is that of a directory
    rw [trailsBelow_pageGroup hclosed, List.filter_cons_of_pos (by rfl), List.filter_map,
      List.filter_eq_nil_iff.2]
    · rfl
    · exact fun d _ htrue => Site.kind_label_ne_rootIndex (of_decide_eq_true htrue)
  · have hroot : ¬decide ((⟨[], rootIndex pages⟩ : Trail).label.origin =
        some (Segment.directory d)) = true := by
      rw [decide_eq_true_eq]
      rintro ⟨⟩
    -- the directories are listed once and spelled differently
    have hfilter : (site.descendants arr []).filter
        (fun e => (site.trailOf guards arr e).label.origin = some (Segment.directory d)) = [d] := by
      refine filter_eq_singleton_of_nodup (hclosed.nodup_descendants [])
        (hclosed.mem_descendants_nil.2 (hneeded.2 hd)) fun e he => ?_
      have he' := hneeded.1 (hclosed.mem_descendants_nil.1 he)
      rw [decide_eq_true_eq, Site.label_trailOf, Site.origin_label, Option.some.injEq]
      exact ⟨hinj e d he' hd, fun heq => heq ▸ rfl⟩
    rw [trailsBelow_pageGroup hclosed, List.filter_cons, if_neg hroot, List.filter_map]
    exact congrArg (List.map _) hfilter
  · refine isRouteOf_trailOf h (fun page hpage hrole => ?_) honly (hneeded.2 hd)
    exact ((hpages page hpage).of_route hrole).1
  · intro trail htrail hkind
    rcases exists_trailOf_eq hclosed htrail with rfl | ⟨d, hd, rfl⟩
    · exact absurd rfl hkind
    · exact ⟨d, hneeded.1 hd, rfl⟩

end Assembly

/-- In every compilation that ends well the group of page routes accounts for all pages. -/
theorem CompileInput.accountsFor_of_compile {classesOf : ClassReader} {input : CompileInput}
    {compiled : CompiledRoutes} (h : input.compile classesOf = .ok compiled) :
    CompileInput.parsePages input.pagePaths = .ok compiled.pages ∧
      ∃ group, compiled.tree.rootGroup? = some group ∧ group.AccountsFor compiled.pages := by
  obtain ⟨registry, site, haccepted⟩ := CompileInput.compile_eq_ok_iff.1 h
  refine ⟨haccepted.parsed, _, haccepted.rootGroup?_eq, ?_⟩
  exact Assembly.accountsFor_pageGroup haccepted.filled (fun _ => haccepted.isParsed)
    haccepted.onePerDirectory

/-- A scope with a page of its own, a page with a parameter below it and a page above it. -/
theorem CompileInput.accountsFor_of_compile_scope :
    ∃ compiled, CompileInput.compile (fun _ _ => .error "")
        ⟨["docs/#guides/_id/index.html", "docs/#guides/index.html", "docs/index.html"], [], []⟩ =
          .ok compiled ∧
      ∃ group, compiled.tree.rootGroup? = some group ∧ group.AccountsFor compiled.pages := by
  obtain ⟨compiled, h⟩ := exists_eq_ok_of_isOk
    (x := CompileInput.compile (fun _ _ => .error "")
      ⟨["docs/#guides/_id/index.html", "docs/#guides/index.html", "docs/index.html"], [], []⟩)
    (by decide +kernel)
  exact ⟨compiled, h, (CompileInput.accountsFor_of_compile h).2⟩

end PageRoutes
