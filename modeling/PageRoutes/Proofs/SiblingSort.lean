import PageRoutes.SiblingOrder

/-!
# Sorting siblings

Sort keys are compared class by class, then by how much of the path is fixed, then by place.  The
comparison is total and transitive, so sorting is stable and its result increases from each
sibling to the next.
-/

namespace PageRoutes

namespace SiblingClass

theorem rank_injective {a b : SiblingClass} (h : a.rank = b.rank) : a = b := by
  cases a <;> cases b <;> first | rfl | exact absurd h (by decide)

end SiblingClass

namespace Specificity

theorem before_irrefl (a : Specificity) : ¬a.before a = true := by
  cases a <;> simp [before]

theorem before_trans {a b c : Specificity} (hab : a.before b = true) (hbc : b.before c = true) :
    a.before c = true := by
  cases a <;> cases b <;> cases c <;> simp [before] at hab hbc ⊢
  omega

/-- Of two different specificities one comes before the other. -/
theorem before_or_before {a b : Specificity} (hne : a ≠ b) :
    a.before b = true ∨ b.before a = true := by
  cases a with
  | static =>
    cases b with
    | static => exact absurd rfl hne
    | dynamic n => exact Or.inl rfl
  | dynamic m =>
    cases b with
    | static => exact Or.inr rfl
    | dynamic n =>
      have hmn : m ≠ n := fun heq => hne (heq ▸ rfl)
      simp only [before, decide_eq_true_eq]
      omega

end Specificity

namespace SortKey

/-- The comparison of two keys, part by part. -/
theorem le_iff {a b : SortKey} :
    a.le b = true ↔
      a.siblingClass.rank < b.siblingClass.rank ∨
        (a.siblingClass = b.siblingClass ∧
          (a.specificity.before b.specificity = true ∨
            (a.specificity = b.specificity ∧ a.orderKey ≤ b.orderKey))) := by
  unfold le
  by_cases hclass : a.siblingClass = b.siblingClass
  · by_cases hspec : a.specificity = b.specificity
    · have hirrefl := Specificity.before_irrefl b.specificity
      simp [hclass, hspec, hirrefl]
    · simp [hclass, hspec]
  · simp [hclass]

theorem le_total (a b : SortKey) : a.le b = true ∨ b.le a = true := by
  rw [le_iff, le_iff]
  by_cases hclass : a.siblingClass = b.siblingClass
  · by_cases hspec : a.specificity = b.specificity
    · rcases Nat.le_total a.orderKey b.orderKey with hkey | hkey
      · exact Or.inl (Or.inr ⟨hclass, Or.inr ⟨hspec, hkey⟩⟩)
      · exact Or.inr (Or.inr ⟨hclass.symm, Or.inr ⟨hspec.symm, hkey⟩⟩)
    · rcases Specificity.before_or_before hspec with hbefore | hbefore
      · exact Or.inl (Or.inr ⟨hclass, Or.inl hbefore⟩)
      · exact Or.inr (Or.inr ⟨hclass.symm, Or.inl hbefore⟩)
  · have hrank : a.siblingClass.rank ≠ b.siblingClass.rank :=
      fun heq => hclass (SiblingClass.rank_injective heq)
    rcases Nat.lt_or_gt_of_ne hrank with hlt | hlt
    · exact Or.inl (Or.inl hlt)
    · exact Or.inr (Or.inl hlt)

theorem le_trans {a b c : SortKey} (hab : a.le b = true) (hbc : b.le c = true) :
    a.le c = true := by
  rw [le_iff] at hab hbc ⊢
  rcases hab with hab | ⟨hclass, hab⟩
  · rcases hbc with hbc | ⟨hclass', -⟩
    · exact Or.inl (by omega)
    · exact Or.inl (hclass' ▸ hab)
  · rcases hbc with hbc | ⟨hclass', hbc⟩
    · exact Or.inl (hclass ▸ hbc)
    · refine Or.inr ⟨hclass.trans hclass', ?_⟩
      rcases hab with hab | ⟨hspec, hab⟩
      · rcases hbc with hbc | ⟨hspec', -⟩
        · exact Or.inl (Specificity.before_trans hab hbc)
        · exact Or.inl (hspec' ▸ hab)
      · rcases hbc with hbc | ⟨hspec', hbc⟩
        · exact Or.inl (hspec ▸ hbc)
        · exact Or.inr ⟨hspec.trans hspec', Nat.le_trans hab hbc⟩

end SortKey

namespace RouteTree

theorem mayPrecede_total (a b : RouteTree) : (a.mayPrecede b || b.mayPrecede a) = true :=
  (Bool.or_eq_true _ _).mpr (SortKey.le_total _ _)

theorem mayPrecede_trans (a b c : RouteTree) (hab : a.mayPrecede b = true)
    (hbc : b.mayPrecede c = true) : a.mayPrecede c = true :=
  SortKey.le_trans hab hbc

/-- A first sibling that may precede all the others stays the first. -/
theorem sortSiblings_cons {tree : RouteTree} {rest : List RouteTree}
    (hfirst : ∀ other ∈ rest, tree.mayPrecede other = true) :
    sortSiblings (tree :: rest) = tree :: sortSiblings rest := by
  obtain ⟨front, back, hall, hrest, hfront⟩ :=
    List.mergeSort_cons mayPrecede_trans mayPrecede_total tree rest
  -- nothing that the first sibling may precede comes in front of it
  have hnil : front = [] := by
    refine List.eq_nil_iff_forall_not_mem.2 fun other hother => ?_
    have hmem : other ∈ rest := by
      rw [← (List.mergeSort_perm rest mayPrecede).mem_iff, hrest]
      exact List.mem_append_left _ hother
    simpa [hfirst other hmem] using hfront other hother
  rw [sortSiblings, sortSiblings, hall, hrest, hnil]
  rfl

/-! ## Ordered trees -/

/-- What holds of a tree as soon as it holds of the trees directly below it holds of every tree. -/
theorem below_induction {motive : RouteTree → Prop}
    (step : ∀ label children, (∀ child ∈ children, motive child) → motive (.node label children)) :
    ∀ tree, motive tree
  | .node label children => step label children fun child _ => below_induction step child

@[simp] theorem label_order (tree : RouteTree) : tree.order.label = tree.label := by
  cases tree
  rfl

theorem children_order (tree : RouteTree) :
    tree.order.children = sortSiblings (orderAll tree.children) := by
  cases tree
  rfl

/-- Ordering keeps every child, ordered itself. -/
theorem mem_children_order {tree child : RouteTree} :
    child ∈ tree.order.children ↔ ∃ c ∈ tree.children, c.order = child := by
  rw [children_order, sortSiblings, (List.mergeSort_perm _ _).mem_iff, orderAll_eq_map,
    List.mem_map]

@[simp] theorem order_leaf (label : RouteLabel) : (leaf label).order = leaf label := by
  rw [leaf, order, orderAll, sortSiblings, List.mergeSort_nil]

theorem labelsOfAll_eq_flatMap (trees : List RouteTree) :
    labelsOfAll trees = trees.flatMap labels := by
  induction trees with
  | nil => rfl
  | cons tree rest ih => rw [labelsOfAll, ih, List.flatMap_cons]

mutual

/-- Ordering keeps every label. -/
theorem labels_order_perm (tree : RouteTree) : tree.order.labels.Perm tree.labels := by
  cases tree with
  | node label children =>
    rw [order, labels, labels]
    refine List.Perm.cons _ (List.Perm.trans ?_ (labelsOfAll_orderAll_perm children))
    rw [labelsOfAll_eq_flatMap, labelsOfAll_eq_flatMap]
    exact (List.mergeSort_perm _ _).flatMap_right _

theorem labelsOfAll_orderAll_perm (trees : List RouteTree) :
    (labelsOfAll (orderAll trees)).Perm (labelsOfAll trees) := by
  cases trees with
  | nil => exact List.Perm.refl _
  | cons tree rest =>
    rw [orderAll, labelsOfAll, labelsOfAll]
    exact (labels_order_perm tree).append (labelsOfAll_orderAll_perm rest)

end

end RouteTree

end PageRoutes
