import PageRoutes.Assembly
import PageRoutes.Proofs.SiblingSort
import PageRoutes.Proofs.SiteTrail

/-!
# The group of page routes

The tree of a site has one group below the configuration, with all routes that come from pages.  It
begins with the index of the page root and goes on with the trees of the site.  Ordering the tree
keeps the group and its first child and arranges the trees of the site by their sort keys.
-/

namespace PageRoutes

namespace RouteTree

/-- The only group below a configuration is the one that is found. -/
theorem rootGroup?_eq_some {config group : RouteTree} (hmem : group ∈ config.children)
    (hkind : group.label.kind = .group)
    (honly : ∀ child ∈ config.children, child.label.kind = .group → child = group) :
    config.rootGroup? = some group := by
  unfold rootGroup?
  cases hfind : config.children.find? fun child => child.label.kind == .group with
  | none =>
    have hnot := List.find?_eq_none.1 hfind group hmem
    exact absurd hkind (by simpa using hnot)
  | some found =>
    have hfound : found.label.kind = .group := by simpa using List.find?_some hfind
    rw [honly found (List.mem_of_find?_eq_some hfind) hfound]

end RouteTree

namespace Assembly

variable {pages : List Page} {site : Site} {guards : GuardRegistry} {rules : List RedirectRule}
  {arr : Site.Arrangement} {d : List Segment}

/-- The group of all routes that come from pages, with siblings in the given arrangement. -/
def pageGroup (pages : List Page) (site : Site) (guards : GuardRegistry)
    (arr : Site.Arrangement) : RouteTree :=
  .node (rootLabel guards) (rootIndex pages :: site.branchesBelow guards arr [])

/-- Building ends well exactly when the directories of the site have routes of their own. -/
theorem build_eq_ok_iff {built : Assembled} :
    build pages guards rules = .ok built ↔ ∃ site, Site.ofPages pages = .ok site ∧
      built = ⟨tree pages site guards rules, strayGuards site guards⟩ := by
  rw [build, bind_eq_ok_iff]
  refine exists_congr fun site => and_congr_right fun _ => ?_
  exact ⟨fun h => (Except.ok.inj h).symm, fun h => h ▸ rfl⟩

/-! ## The group as it is built -/

theorem rootGroup_eq_pageGroup :
    rootGroup pages site guards = pageGroup pages site guards Site.asFound := by
  rw [rootGroup, pageGroup, Site.treesBelow_eq_branchesBelow]

/-- Nothing else below the configuration is a group. -/
theorem eq_rootGroup_of_kind {child : RouteTree}
    (hchild : child ∈ (tree pages site guards rules).children)
    (hkind : child.label.kind = .group) : child = rootGroup pages site guards := by
  rcases List.mem_append.1 hchild with hredirect | hrest
  · obtain ⟨⟨rule, index⟩, -, rfl⟩ := List.mem_map.1 hredirect
    exact absurd hkind (by simp [RouteTree.ofRedirect, RouteTree.leaf, RouteTree.label,
      RouteLabel.plain])
  · rcases List.mem_cons.1 hrest with hgroup | hlast
    · exact hgroup
    · rw [List.mem_singleton.1 hlast] at hkind
      exact absurd hkind (by decide)

theorem rootGroup_mem_children :
    rootGroup pages site guards ∈ (tree pages site guards rules).children :=
  List.mem_append_right _ List.mem_cons_self

theorem rootGroup?_tree :
    (tree pages site guards rules).rootGroup? =
      some (pageGroup pages site guards Site.asFound) := by
  rw [← rootGroup_eq_pageGroup]
  exact RouteTree.rootGroup?_eq_some rootGroup_mem_children rfl fun _ => eq_rootGroup_of_kind

/-! ## The ordered group -/

/-- The index of the page root may precede whatever else the group holds. -/
theorem rootIndex_mayPrecede {other : RouteTree}
    (hother : other.label = site.label guards d) :
    (rootIndex pages).mayPrecede other = true := by
  rw [RouteTree.mayPrecede, SortKey.le_iff, hother]
  refine Or.inr ⟨Site.siblingClass_label.symm, ?_⟩
  -- the path of the index is empty, so it is fixed, and its place is the first of all
  have hindex : (rootIndex pages).label.sortKey.specificity = .static := by
    have hplain : (rootIndex pages).label.isParameterized = false := by
      show (RouteLabel.plain .rootIndex "").isParameterized = false
      decide
    rw [RouteLabel.sortKey, RouteLabel.specificity, if_neg]
    simp [hplain]
  rw [hindex]
  cases (site.label guards d).sortKey.specificity with
  | static => exact Or.inr ⟨rfl, Nat.zero_le _⟩
  | dynamic n => exact Or.inl rfl

theorem order_rootGroup :
    (rootGroup pages site guards).order =
      pageGroup pages site guards (site.bySortKey guards) := by
  rw [rootGroup, RouteTree.order, RouteTree.orderAll, rootIndex, RouteTree.order_leaf, ← rootIndex,
    RouteTree.sortSiblings_cons, Site.sortSiblings_treesBelow, pageGroup]
  intro other hother
  rw [RouteTree.orderAll_eq_map, Site.treesBelow_eq, List.map_map] at hother
  obtain ⟨d, -, rfl⟩ := List.mem_map.1 hother
  exact rootIndex_mayPrecede (RouteTree.label_order _)

theorem rootGroup?_order_tree :
    (tree pages site guards rules).order.rootGroup? =
      some (pageGroup pages site guards (site.bySortKey guards)) := by
  rw [← order_rootGroup]
  refine RouteTree.rootGroup?_eq_some ?_ (by rw [RouteTree.label_order]; rfl) ?_
  · exact RouteTree.mem_children_order.2 ⟨_, rootGroup_mem_children, rfl⟩
  · intro child hchild hkind
    obtain ⟨c, hc, rfl⟩ := RouteTree.mem_children_order.1 hchild
    rw [RouteTree.label_order] at hkind
    rw [eq_rootGroup_of_kind hc hkind]

/-! ## The trails of the group -/

/-- Below the group come the index of the page root and then the directories of the site. -/
theorem trailsBelow_pageGroup (h : site.IsClosed) :
    (pageGroup pages site guards arr).trailsBelow =
      ⟨[], rootIndex pages⟩ :: (site.descendants arr []).map (site.trailOf guards arr) := by
  rw [RouteTree.trailsBelow, pageGroup, RouteTree.children, RouteTree.trailsOfAll,
    h.trails_branchesBelow_nil]
  rfl

theorem trailOf_mem_trailsBelow (h : site.IsClosed) (hd : d ∈ site.directories) :
    site.trailOf guards arr d ∈ (pageGroup pages site guards arr).trailsBelow := by
  rw [trailsBelow_pageGroup h]
  exact List.mem_cons_of_mem _ (List.mem_map_of_mem (h.mem_descendants_nil.2 hd))

/-- Below the group every route but that of the page root is that of a directory. -/
theorem exists_trailOf_eq (h : site.IsClosed) {trail : Trail}
    (htrail : trail ∈ (pageGroup pages site guards arr).trailsBelow) :
    trail = ⟨[], rootIndex pages⟩ ∨
      ∃ d ∈ site.directories, trail = site.trailOf guards arr d := by
  rw [trailsBelow_pageGroup h] at htrail
  rcases List.mem_cons.1 htrail with hroot | hrest
  · exact Or.inl hroot
  · obtain ⟨d, hd, rfl⟩ := List.mem_map.1 hrest
    exact Or.inr ⟨d, h.mem_descendants_nil.1 hd, rfl⟩

/-! ## The labels of the tree -/

/-- The labels of a page tree, from the configuration to the route for unknown addresses. -/
theorem labels_tree (h : site.IsClosed) :
    (tree pages site guards rules).labels =
      RouteLabel.plain .config "" :: ((redirections rules).map RouteTree.label ++
        (rootLabel guards :: (rootIndex pages).label ::
          ((site.descendants Site.asFound []).map (site.label guards) ++
            [RouteTree.fallback.label]))) := by
  have hgroup : (rootGroup pages site guards).labels =
      rootLabel guards :: (rootIndex pages).label ::
        (site.descendants Site.asFound []).map (site.label guards) := by
    rw [RouteTree.labels_eq_map_trails, RouteTree.trails_eq, rootGroup_eq_pageGroup,
      trailsBelow_pageGroup h, List.map_cons, List.map_map, List.map_cons, List.map_map]
    rfl
  -- redirections have nothing below them
  have hredirect : (redirections rules).flatMap RouteTree.labels =
      (redirections rules).map RouteTree.label := by
    rw [List.map_eq_flatMap, redirections, List.flatMap_map, List.flatMap_map]
    rfl
  rw [tree, RouteTree.labels, RouteTree.labelsOfAll_eq_flatMap, List.flatMap_append,
    List.flatMap_cons, List.flatMap_singleton, hgroup, hredirect]
  rfl

/-- What is collected from the routes of a page tree, if nothing comes from the configuration and
from redirections. -/
theorem filterMap_labels_tree_perm {α : Type} (h : site.IsClosed) {f : RouteLabel → Option α}
    (hconfig : f (RouteLabel.plain .config "") = none)
    (hredirect : ∀ rule index, f (RouteTree.ofRedirect rule index).label = none) :
    ((tree pages site guards rules).labels.filterMap f).Perm
      ((f (rootLabel guards)).toList ++ ((f (rootIndex pages).label).toList ++
        (site.directories.filterMap (fun d => f (site.label guards d)) ++
          (f RouteTree.fallback.label).toList))) := by
  have hnone : ((redirections rules).map RouteTree.label).filterMap f = [] := by
    rw [redirections, List.map_map, List.filterMap_map]
    exact List.filterMap_eq_nil_iff.2 fun entry _ => hredirect entry.1 entry.2
  have hcons : ∀ (label : RouteLabel) (rest : List RouteLabel),
      (label :: rest).filterMap f = (f label).toList ++ rest.filterMap f := by
    intro label rest
    cases hlabel : f label with
    | none => rw [List.filterMap_cons_none hlabel]; rfl
    | some a => rw [List.filterMap_cons_some hlabel]; rfl
  rw [labels_tree h, List.filterMap_cons_none hconfig, List.filterMap_append, hnone,
    List.nil_append, hcons, hcons, List.filterMap_append, List.filterMap_map, hcons,
    List.filterMap_nil, List.append_nil]
  exact ((((h.descendants_nil_perm).filterMap _).append_right _).append_left _).append_left _

/-- The routes that a page tree consists of: those of the configuration and its redirections, the
group, the index of the page root, the directories of the site and the route for unknown
addresses. -/
theorem mem_labels_tree_iff (h : site.IsClosed) {label : RouteLabel} :
    label ∈ (tree pages site guards rules).labels ↔
      label = RouteLabel.plain .config "" ∨
      (∃ route ∈ redirections rules, label = route.label) ∨
      label = rootLabel guards ∨ label = (rootIndex pages).label ∨
      (∃ d ∈ site.directories, label = site.label guards d) ∨
      label = RouteTree.fallback.label := by
  have hdirectory : label ∈ (site.descendants Site.asFound []).map (site.label guards) ↔
      ∃ d ∈ site.directories, label = site.label guards d := by
    simp only [List.mem_map, h.mem_descendants_nil, eq_comm]
  have hredirect : label ∈ (redirections rules).map RouteTree.label ↔
      ∃ route ∈ redirections rules, label = route.label := by
    simp only [List.mem_map, eq_comm]
  rw [labels_tree h, List.mem_cons, List.mem_append, hredirect, List.mem_cons, List.mem_cons,
    List.mem_append, hdirectory, List.mem_singleton]

end Assembly

end PageRoutes
