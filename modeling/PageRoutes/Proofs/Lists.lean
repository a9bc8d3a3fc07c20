import Mathlib.Data.List.Forall2
import Mathlib.Data.List.Perm.Basic

/-!
# Lists

Lists whose members correspond one by one, lists whose members come in some order, and lists and
texts that are joined with a separator between them.
-/

namespace PageRoutes

/-! ## Side by side -/

/-- What the members of a list have in common with their partners comes in the same order. -/
theorem map_eq_map_of_forall₂ {α β γ : Type} {f : α → γ} {g : β → γ} {xs : List α} {ys : List β}
    (h : List.Forall₂ (fun x y => g y = f x) xs ys) : ys.map g = xs.map f := by
  rw [← List.forall₂_eq_eq_eq, List.forall₂_map_left_iff, List.forall₂_map_right_iff]
  exact h.flip

/-- A relation that holds where another one does for the members of a list. -/
theorem forall₂_imp_of_mem {α β : Type} {R S : α → β → Prop} {xs : List α} {ys : List β}
    (h : ∀ x ∈ xs, ∀ y, R x y → S x y) (hall : List.Forall₂ R xs ys) : List.Forall₂ S xs ys := by
  induction hall with
  | nil => exact .nil
  | cons hxy _ ih =>
    rw [List.forall_mem_cons] at h
    exact .cons (h.1 _ hxy) (ih h.2)

/-- Lists of which one matches the other are of one length. -/
theorem length_eq_of_isEqv {α : Type} {r : α → α → Bool} {xs ys : List α}
    (h : xs.isEqv ys r = true) : xs.length = ys.length := by
  induction xs generalizing ys with
  | nil =>
    cases ys with
    | nil => rfl
    | cons y ys => cases h
  | cons x xs ih =>
    cases ys with
    | nil => cases h
    | cons y ys =>
      rw [List.isEqv_cons_cons, Bool.and_eq_true] at h
      rw [List.length_cons, List.length_cons, ih h.2]

theorem isEqv_self {α : Type} {r : α → α → Bool} (hr : ∀ x, r x x = true) (xs : List α) :
    xs.isEqv xs r = true := by
  induction xs with
  | nil => rfl
  | cons x xs ih => rw [List.isEqv_cons_cons, hr, ih, Bool.and_self]

/-! ## The order of members -/

/-- In a list whose members come in some order a member is the first with a property exactly when
no other with the property comes before it. -/
theorem find?_eq_some_iff_of_pairwise {α : Type} {R : α → α → Prop} {xs : List α} {x : α}
    {p : α → Bool} (hxs : xs.Pairwise R) (hx : x ∈ xs) (hpx : p x = true)
    (hasymm : ∀ y ∈ xs, p y = true → R y x → ¬R x y) :
    xs.find? p = some x ↔ ∀ y ∈ xs, p y = true → ¬R y x := by
  rw [List.find?_eq_some_iff_append]
  constructor
  · rintro ⟨-, front, back, rfl, hfront⟩ y hy hpy hyx
    rcases List.mem_append.1 hy with hmem | hmem
    · simpa [hpy] using hfront y hmem
    · rcases List.mem_cons.1 hmem with rfl | hback
      · exact hasymm y hy hpy hyx hyx
      · have hafter := (List.pairwise_append.1 hxs).2.1
        exact hasymm y hy hpy hyx (List.rel_of_pairwise_cons hafter hback)
  · intro hnone
    obtain ⟨front, back, rfl⟩ := List.append_of_mem hx
    refine ⟨hpx, front, back, rfl, fun y hy => ?_⟩
    have hyx := (List.pairwise_append.1 hxs).2.2 y hy x List.mem_cons_self
    rw [Bool.not_eq_true', ← Bool.not_eq_true]
    exact fun hpy => hnone y (List.mem_append_left _ hy) hpy hyx

/-- What is taken from some members of a list, if places do not matter for it, is only listed in
another order when the members are. -/
theorem map_filter_perm {β γ : Type} {g : β → β} {select : β → Bool} {take : β → γ} {bs cs : List β}
    (hperm : (bs.map g).Perm (cs.map g)) (hselect : ∀ b, select (g b) = select b)
    (htake : ∀ b, take (g b) = take b) :
    ((bs.filter select).map take).Perm ((cs.filter select).map take) := by
  have hplain : ∀ xs : List β, (xs.filter select).map take =
      ((xs.map g).filter select).map take := by
    intro xs
    rw [List.filter_map, List.map_map]
    simp only [Function.comp_def, hselect, htake]
  rw [hplain bs, hplain cs]
  exact (hperm.filter _).map take

/-! ## Joining and splitting -/

/-- What stands between separators comes from the list and is no separator. -/
theorem mem_of_mem_splitOn {α : Type} [BEq α] [LawfulBEq α] {sep x : α} {part xs : List α}
    (hpart : part ∈ xs.splitOn sep) (hx : x ∈ part) : x ∈ xs ∧ x ≠ sep := by
  induction xs generalizing part with
  | nil =>
    rw [List.splitOn_nil, List.mem_singleton] at hpart
    subst hpart
    exact absurd hx List.not_mem_nil
  | cons y ys ih =>
    rw [List.splitOn_cons_eq_if_modifyHead] at hpart
    split at hpart
    · rcases List.mem_cons.1 hpart with rfl | hrest
      · exact absurd hx List.not_mem_nil
      · exact (ih hrest hx).imp_left (List.mem_cons_of_mem _)
    · rename_i hy
      obtain ⟨first, rest, hsplit⟩ := List.exists_cons_of_ne_nil (List.splitOn_ne_nil sep ys)
      rw [hsplit] at hpart ih
      rw [List.modifyHead_cons, List.mem_cons] at hpart
      rcases hpart with rfl | hrest
      · rcases List.mem_cons.1 hx with rfl | hfirst
        · exact ⟨List.mem_cons_self, by simpa using hy⟩
        · exact (ih List.mem_cons_self hfirst).imp_left (List.mem_cons_of_mem _)
      · exact (ih (List.mem_cons_of_mem _ hrest) hx).imp_left (List.mem_cons_of_mem _)

/-- Changing all elements of a joined list is changing them in its members. -/
theorem map_intercalate {α β : Type} (f : α → β) (sep : List α) (xss : List (List α)) :
    (sep.intercalate xss).map f = (sep.map f).intercalate (xss.map (List.map f)) := by
  induction xss with
  | nil => rfl
  | cons xs rest ih =>
    cases rest with
    | nil => simp only [List.map_cons, List.map_nil, List.intercalate_singleton]
    | cons ys rest =>
      rw [List.intercalate_cons_cons, List.map_append, List.map_append, ih, List.map_cons,
        List.map_cons, List.map_cons, List.intercalate_cons_cons]

/-- A joined list has what its members have, but for the separator. -/
theorem mem_intercalate_iff {α : Type} {sep : List α} {xss : List (List α)} {x : α}
    (hx : x ∉ sep) : x ∈ sep.intercalate xss ↔ ∃ xs ∈ xss, x ∈ xs := by
  induction xss with
  | nil => simp
  | cons xs rest ih =>
    cases rest with
    | nil => simp
    | cons ys rest =>
      rw [List.intercalate_cons_cons, List.mem_append, List.mem_append, ih, or_iff_left hx,
        List.exists_mem_cons_iff (l := ys :: rest)]

/-- A joined list of texts up to one of them. -/
theorem exists_intercalate_eq (sep : String) (before : List String) (text : String)
    (after : List String) :
    ∃ more, sep.intercalate (before ++ text :: after) =
      String.join (before.map (· ++ sep)) ++ (text ++ more) := by
  induction before with
  | nil =>
    cases after with
    | nil => exact ⟨"", by simp⟩
    | cons next after =>
      rw [List.nil_append, String.intercalate_cons_cons]
      exact ⟨sep ++ sep.intercalate (next :: after), by simp [String.append_assoc]⟩
  | cons first before ih =>
    obtain ⟨more, hmore⟩ := ih
    refine ⟨more, ?_⟩
    obtain ⟨second, others, hcons⟩ := List.exists_cons_of_ne_nil
      (List.append_ne_nil_of_right_ne_nil before (List.cons_ne_nil text after))
    rw [hcons] at hmore
    rw [List.cons_append, hcons, String.intercalate_cons_cons, hmore]
    simp [String.append_assoc]

/-- Lists joined with a separator that none of them has can be told apart again. -/
theorem intercalate_inj {α : Type} [BEq α] [LawfulBEq α] {sep : α} {xss yss : List (List α)}
    (hxss : ∀ xs ∈ xss, xs ≠ [] ∧ sep ∉ xs) (hyss : ∀ ys ∈ yss, ys ≠ [] ∧ sep ∉ ys) :
    [sep].intercalate xss = [sep].intercalate yss ↔ xss = yss := by
  refine ⟨fun heq => ?_, fun heq => by rw [heq]⟩
  have hne : ∀ zss : List (List α), (∀ zs ∈ zss, zs ≠ [] ∧ sep ∉ zs) → zss ≠ [] →
      [sep].intercalate zss ≠ [] := by
    intro zss hzss hnonempty hnil
    have hsplit := List.splitOn_intercalate sep (fun zs hzs => (hzss zs hzs).2) hnonempty
    rw [hnil, List.splitOn_nil] at hsplit
    exact (hzss [] (hsplit ▸ List.mem_singleton_self _)).1 rfl
  by_cases hx : xss = []
  · by_contra hdistinct
    rw [hx] at heq hdistinct
    exact hne yss hyss (Ne.symm hdistinct) heq.symm
  · have hy : yss ≠ [] := by
      rintro rfl
      exact hne xss hxss hx heq
    rw [← List.splitOn_intercalate sep (fun xs hxs => (hxss xs hxs).2) hx, heq,
      List.splitOn_intercalate sep (fun ys hys => (hyss ys hys).2) hy]

end PageRoutes
