import PageRoutes.Proofs.KeyedLists
import PageRoutes.Proofs.Lists
import PageRoutes.Proofs.SiblingSort

/-!
# Ordering sorts stably

Ordering a tree sorts every list of siblings by their keys, once the trees below them are ordered,
and leaves siblings of one key in the order in which they were found.  Only one tree answers to that
description.  So a tree that was ordered before is not changed any more, and two trees are ordered
alike exactly if their siblings of one key agree, wherever siblings of other keys stand.
-/

namespace PageRoutes

namespace SortKey

/-- Keys that may stand in front of each other are the same. -/
theorem le_antisymm {a b : SortKey} (hab : a.le b = true) (hba : b.le a = true) : a = b := by
  by_cases hclass : a.siblingClass = b.siblingClass
  · by_cases hspec : a.specificity = b.specificity
    · have hle : a.orderKey ≤ b.orderKey := by simpa [le, hclass, hspec] using hab
      have hge : b.orderKey ≤ a.orderKey := by simpa [le, hclass, hspec] using hba
      cases a
      cases b
      exact SortKey.mk.injEq .. ▸ ⟨hclass, hspec, Nat.le_antisymm hle hge⟩
    · have hbefore : a.specificity.before b.specificity = true := by
        simpa [le, hclass, hspec] using hab
      have hafter : b.specificity.before a.specificity = true := by
        simpa [le, hclass, Ne.symm hspec] using hba
      exact absurd (Specificity.before_trans hbefore hafter) (Specificity.before_irrefl _)
  · have hlt : a.siblingClass.rank < b.siblingClass.rank := by simpa [le, hclass] using hab
    have hgt : b.siblingClass.rank < a.siblingClass.rank := by
      simpa [le, Ne.symm hclass] using hba
    omega

end SortKey

namespace RouteTree

/-! ## The sorting of a tree -/

/-- The siblings that have a key, in their order. -/
def withKey (key : SortKey) (trees : List RouteTree) : List RouteTree :=
  trees.filter (·.label.sortKey = key)

/-- The second tree is a stable sorting of the first.  The lists of siblings have the same trees,
each sorted itself; no route stands behind one with a greater key, and those of one key stand in the
order in which they were found. -/
inductive SortsTo : RouteTree → RouteTree → Prop where
  | node {label : RouteLabel} {found each sorted : List RouteTree}
    (below : List.Forall₂ SortsTo found each) (perm : sorted.Perm each)
    (increasing : sorted.Pairwise fun a b => a.label.sortKey.le b.label.sortKey = true)
    (stable : ∀ key, withKey key sorted = withKey key each) :
    SortsTo (.node label found) (.node label sorted)

theorem withKey_sortSiblings (key : SortKey) (trees : List RouteTree) :
    withKey key (sortSiblings trees) = withKey key trees :=
  filter_mergeSort (fun tree : RouteTree => tree.label.sortKey) SortKey.le
    (fun _ _ _ => SortKey.le_trans)
    (fun a b => (Bool.or_eq_true _ _).mpr (SortKey.le_total a b)) trees key

theorem pairwise_sortSiblings (trees : List RouteTree) :
    (sortSiblings trees).Pairwise fun a b => a.label.sortKey.le b.label.sortKey = true :=
  List.pairwise_mergeSort mayPrecede_trans mayPrecede_total trees

/-- Siblings that are sorted and agree on each key with others are the sorting of those. -/
theorem eq_sortSiblings {sorted trees : List RouteTree}
    (hsorted : sorted.Pairwise fun a b => a.label.sortKey.le b.label.sortKey = true)
    (h : ∀ key, withKey key sorted = withKey key trees) : sorted = sortSiblings trees :=
  eq_of_filter_eq (fun tree : RouteTree => tree.label.sortKey) SortKey.le
    (fun _ _ => SortKey.le_antisymm) hsorted (pairwise_sortSiblings trees)
    fun key => (h key).trans (withKey_sortSiblings key trees).symm

theorem withKey_map_order (key : SortKey) (trees : List RouteTree) :
    withKey key (trees.map order) = (withKey key trees).map order := by
  rw [withKey, withKey, List.filter_map]
  simp only [Function.comp_def, label_order]

/-- A tree has one stable sorting, and ordering finds it. -/
theorem sortsTo_iff {tree sorted : RouteTree} : tree.SortsTo sorted ↔ sorted = tree.order := by
  induction tree using below_induction generalizing sorted with
  | step label found ih =>
    rw [order, orderAll_eq_map]
    constructor
    · rintro ⟨hbelow, hperm, hincreasing, hstable⟩
      rename_i each sorted
      have heach : each = found.map order := by
        rw [← List.forall₂_eq_eq_eq, List.forall₂_map_right_iff]
        exact (forall₂_imp_of_mem (fun c hc _ => (ih c hc).1) hbelow).flip
      rw [eq_sortSiblings hincreasing hstable, heach]
    · rintro rfl
      refine @SortsTo.node label found (found.map order) _ ?_ (List.mergeSort_perm _ _)
        (pairwise_sortSiblings _) fun key => withKey_sortSiblings key _
      rw [List.forall₂_map_right_iff, List.forall₂_same]
      exact fun child hchild => (ih child hchild).2 rfl

/-! ## Trees that are ordered alike -/

/-- Trees whose siblings of one key are the same and stand in one order, at every depth.  Siblings
of different keys may stand in any order. -/
inductive AlikeByKey : RouteTree → RouteTree → Prop where
  | node {label : RouteLabel} {cs ds : List RouteTree}
    (each : ∀ key, List.Forall₂ AlikeByKey (withKey key cs) (withKey key ds)) :
    AlikeByKey (.node label cs) (.node label ds)

/-- Trees that differ in the order of siblings.  Siblings are exchanged only where all of them have
different keys. -/
inductive Exchanged : RouteTree → RouteTree → Prop where
  | node {label : RouteLabel} {cs ds es : List RouteTree} (perm : cs.Perm ds)
    (distinct : cs = ds ∨ (cs.map (·.label.sortKey)).Nodup)
    (each : List.Forall₂ Exchanged ds es) : Exchanged (.node label cs) (.node label es)

/-- Two lists of siblings are sorted alike exactly if they agree on each key. -/
theorem sortSiblings_eq_sortSiblings_iff {cs ds : List RouteTree} :
    sortSiblings cs = sortSiblings ds ↔ ∀ key, withKey key cs = withKey key ds := by
  constructor
  · intro h key
    rw [← withKey_sortSiblings key cs, h, withKey_sortSiblings]
  · intro h
    refine eq_sortSiblings (pairwise_sortSiblings cs) fun key => ?_
    rw [withKey_sortSiblings, h]

/-- Two trees are ordered alike exactly if they agree on each key, at every depth. -/
theorem order_eq_order_iff {tree other : RouteTree} :
    tree.order = other.order ↔ tree.AlikeByKey other := by
  induction tree using below_induction generalizing other with
  | step label cs ih =>
    obtain ⟨label', ds⟩ := other
    have heach : ∀ key, withKey key (cs.map order) = withKey key (ds.map order) ↔
        List.Forall₂ AlikeByKey (withKey key cs) (withKey key ds) := by
      intro key
      have hmem : ∀ c ∈ withKey key cs, ∀ d, c.order = d.order ↔ c.AlikeByKey d :=
        fun c hc d => ih c (List.mem_filter.1 hc).1
      rw [withKey_map_order, withKey_map_order, ← List.forall₂_eq_eq_eq, List.forall₂_map_left_iff,
        List.forall₂_map_right_iff]
      exact ⟨forall₂_imp_of_mem fun c hc d => (hmem c hc d).1,
        forall₂_imp_of_mem fun c hc d => (hmem c hc d).2⟩
    rw [order, order, orderAll_eq_map, orderAll_eq_map, RouteTree.node.injEq,
      sortSiblings_eq_sortSiblings_iff]
    simp only [heach]
    constructor
    · rintro ⟨rfl, h⟩
      exact .node h
    · rintro ⟨h⟩
      exact ⟨rfl, h⟩

/-- A tree that was ordered before stays as it is. -/
theorem order_order (tree : RouteTree) : tree.order.order = tree.order := by
  induction tree using below_induction with
  | step label cs ih =>
    have hbelow : (sortSiblings (cs.map order)).map order = sortSiblings (cs.map order) := by
      refine (List.map_congr_left fun child hchild => ?_).trans (List.map_id _)
      rw [sortSiblings, (List.mergeSort_perm _ _).mem_iff, List.mem_map] at hchild
      obtain ⟨c, hc, rfl⟩ := hchild
      exact ih c hc
    rw [order, orderAll_eq_map, order, orderAll_eq_map, hbelow, sortSiblings_eq_sortSiblings_iff.2]
    exact fun key => withKey_sortSiblings key _

/-- Siblings of which no two have one key agree with any arrangement of them. -/
theorem withKey_eq_of_perm {cs ds : List RouteTree} (hperm : cs.Perm ds)
    (hdistinct : (cs.map (·.label.sortKey)).Nodup) (key : SortKey) :
    withKey key cs = withKey key ds := by
  -- there is at most one sibling with the key
  have honly : ∀ trees : List RouteTree, (trees.map (·.label.sortKey)).Nodup →
      (withKey key trees).Pairwise fun _ _ => False := by
    intro trees hnodup
    refine ((List.pairwise_map.1 hnodup).filter _).imp_of_mem fun ha hb hne => hne ?_
    rw [of_decide_eq_true (List.mem_filter.1 ha).2, of_decide_eq_true (List.mem_filter.1 hb).2]
  exact List.Perm.eq_of_pairwise (fun _ _ _ _ hfalse => hfalse.elim) (honly cs hdistinct)
    (honly ds ((hperm.map _).nodup_iff.1 hdistinct)) (hperm.filter _)

theorem AlikeByKey.label_eq {tree other : RouteTree} (h : tree.AlikeByKey other) :
    tree.label = other.label := by
  cases h
  rfl

/-- Exchanging siblings of different keys does not change the order of a tree. -/
theorem Exchanged.alikeByKey {tree other : RouteTree} (h : tree.Exchanged other) :
    tree.AlikeByKey other := by
  induction tree using below_induction generalizing other with
  | step label cs ih =>
    cases h with
    | @node _ _ ds es hperm hdistinct heach =>
      have hkeys : ∀ key, withKey key cs = withKey key ds := by
        intro key
        rcases hdistinct with rfl | hnodup
        · rfl
        · exact withKey_eq_of_perm hperm hnodup key
      have halike : List.Forall₂ AlikeByKey ds es :=
        forall₂_imp_of_mem (fun d hd _ => ih d (hperm.mem_iff.2 hd)) heach
      refine .node fun key => ?_
      rw [hkeys]
      exact List.rel_filter (fun _ _ h => by simp only [h.label_eq]) halike

/-- Ordering a tree is the stable sorting of all its siblings.  It changes nothing when it is
repeated, and it does not depend on the order of siblings that have different keys. -/
theorem order_isStableSorting (tree : RouteTree) :
    (∀ sorted, tree.SortsTo sorted ↔ sorted = tree.order) ∧
      tree.order.order = tree.order ∧
      ∀ other, tree.Exchanged other → other.order = tree.order :=
  ⟨fun _ => sortsTo_iff, order_order tree,
    fun _ h => (order_eq_order_iff.2 h.alikeByKey).symm⟩

/-- A fixed path and one with a parameter, exchanged at two depths. -/
theorem order_isStableSorting_nested :
    let team := leaf (.plain .page "team")
    let anySection := leaf (.plain .page ":section")
    let anyPage := leaf (.plain .page ":id")
    let found := node (.plain .group "") [anyPage, node (.plain .page "about") [anySection, team]]
    let other := node (.plain .group "") [node (.plain .page "about") [team, anySection], anyPage]
    found.Exchanged other ∧ other.order = found.order := by
  intro team anySection anyPage found other
  have hleaf : ∀ label, (leaf label).Exchanged (leaf label) := fun label =>
    .node (List.Perm.refl _) (Or.inl rfl) .nil
  have habout : (node (.plain .page "about") [anySection, team]).Exchanged
      (node (.plain .page "about") [team, anySection]) :=
    .node (List.Perm.swap _ _ _) (Or.inr (by decide)) (.cons (hleaf _) (.cons (hleaf _) .nil))
  have hfound : found.Exchanged other :=
    .node (List.Perm.swap _ _ _) (Or.inr (by decide)) (.cons habout (.cons (hleaf _) .nil))
  exact ⟨hfound, (order_isStableSorting found).2.2 other hfound⟩

end RouteTree

end PageRoutes
