import Mathlib.Data.List.Nodup
import Mathlib.Data.List.Pairwise

/-!
# Lists by keys

Sorting a list by keys keeps the members of one key in their order, and that determines the result.
In a list in which no two members share a key, sorting by a comparison that tells all members apart
has one result, removing repeated keys changes nothing, and there is one member for each key.
-/

namespace PageRoutes

section Sorting

variable {α : Type} {le : α → α → Bool} {xs ys : List α}

/-- A list that increases strictly comes out of the sorting of any arrangement of it. -/
theorem mergeSort_eq_of_perm (htrans : ∀ a b c, le a b = true → le b c = true → le a c = true)
    (htotal : ∀ a b, (le a b || le b a) = true)
    (h : ys.Pairwise fun a b => le a b = true ∧ ¬le b a = true) (hperm : xs.Perm ys) :
    xs.mergeSort le = ys := by
  have hall := (List.mergeSort_perm xs le).trans hperm
  -- of two different members one comes strictly before the other
  have hantisymm : ∀ a ∈ ys, ∀ b ∈ ys, le a b = true → le b a = true → a = b := by
    intro a ha b hb
    apply List.Pairwise.forall_of_forall_of_flip
      (R := fun a b => le a b = true → le b a = true → a = b) _ _ _ ha hb
    · exact fun _ _ _ _ => rfl
    · exact h.imp fun hlt _ hba => absurd hba hlt.2
    · exact h.imp fun hlt hba _ => absurd hba hlt.2
  apply List.Perm.eq_of_pairwise _ (List.pairwise_mergeSort htrans htotal xs)
    (h.imp fun hlt => hlt.1) hall
  exact fun a b ha hb => hantisymm a (hall.mem_iff.1 ha) b hb

/-- Sorting by keys of a linear order turns any arrangement of a list with increasing keys into that
list. -/
theorem mergeSort_le_eq_of_perm {κ : Type} [LE κ] [LT κ] [DecidableLE κ] [Std.IsLinearOrder κ]
    [Std.LawfulOrderLT κ] (key : α → κ) (h : ys.Pairwise fun a b => key a < key b)
    (hperm : xs.Perm ys) : (xs.mergeSort fun a b => key a ≤ key b) = ys := by
  apply mergeSort_eq_of_perm _ _ _ hperm
  · intro a b c hab hbc
    exact decide_eq_true (Std.le_trans (of_decide_eq_true hab) (of_decide_eq_true hbc))
  · intro a b
    simpa using Std.le_total
  · refine h.imp fun hlt => ?_
    obtain ⟨hle, hnot⟩ := Std.lt_iff_le_and_not_ge.1 hlt
    exact ⟨decide_eq_true hle, fun hge => hnot (of_decide_eq_true hge)⟩

end Sorting

section ByKey

variable {α κ : Type} [DecidableEq κ] (key : α → κ) (le : κ → κ → Bool) {xs ys : List α}

/-- Sorting by keys keeps the members of one key in their order. -/
theorem filter_mergeSort (htrans : ∀ a b c, le a b = true → le b c = true → le a c = true)
    (htotal : ∀ a b, (le a b || le b a) = true) (xs : List α) (k : κ) :
    (xs.mergeSort fun a b => le (key a) (key b)).filter (key · = k) = xs.filter (key · = k) := by
  have hsorted : (xs.filter (key · = k)).Pairwise fun a b => le (key a) (key b) = true := by
    refine List.pairwise_of_forall_mem_list fun a ha b hb => ?_
    have hka := of_decide_eq_true (List.mem_filter.1 ha).2
    have hkb := of_decide_eq_true (List.mem_filter.1 hb).2
    rw [hka, hkb]
    simpa using htotal k k
  -- a stable sorting has every sorted part of the list as a part
  have hpart := (List.sublist_mergeSort (fun a b c => htrans (key a) (key b) (key c))
    (fun a b => htotal (key a) (key b)) hsorted List.filter_sublist).filter (key · = k)
  rw [List.filter_filter] at hpart
  simp only [Bool.and_self] at hpart
  refine (hpart.eq_of_length ?_).symm
  exact ((List.mergeSort_perm xs _).filter _).length_eq.symm

/-- Sorted lists that agree on the members of each key are the same. -/
theorem eq_of_filter_eq (hantisymm : ∀ a b, le a b = true → le b a = true → a = b)
    (hxs : xs.Pairwise fun a b => le (key a) (key b) = true)
    (hys : ys.Pairwise fun a b => le (key a) (key b) = true)
    (h : ∀ k, xs.filter (key · = k) = ys.filter (key · = k)) : xs = ys := by
  induction xs generalizing ys with
  | nil =>
    refine (List.eq_nil_iff_forall_not_mem.2 fun y hy => ?_).symm
    have hmem : y ∈ ys.filter (key · = key y) := List.mem_filter.2 ⟨hy, decide_eq_true rfl⟩
    rw [← h] at hmem
    exact absurd hmem List.not_mem_nil
  | cons x xs ih =>
    have hmem : ∀ z, z ∈ x :: xs ↔ z ∈ ys := by
      intro z
      have hz := congrArg (z ∈ ·) (h (key z))
      simpa using hz
    cases ys with
    | nil => exact absurd ((hmem x).1 List.mem_cons_self) List.not_mem_nil
    | cons y ys =>
      rw [List.pairwise_cons] at hxs hys
      -- each of the two first members may stand in front of the other
      have hkey : key x = key y := by
        rcases List.mem_cons.1 ((hmem x).1 List.mem_cons_self) with rfl | hx
        · rfl
        · rcases List.mem_cons.1 ((hmem y).2 List.mem_cons_self) with rfl | hy
          · rfl
          · exact hantisymm _ _ (hxs.1 y hy) (hys.1 x hx)
      have hfirst := h (key x)
      rw [List.filter_cons_of_pos (by simp), List.filter_cons_of_pos (by simp [hkey]),
        List.cons.injEq] at hfirst
      obtain ⟨rfl, -⟩ := hfirst
      refine congrArg _ (ih hxs.2 hys.2 fun k => ?_)
      have hk := h k
      rw [List.filter_cons, List.filter_cons] at hk
      split at hk
      · exact (List.cons.inj hk).2
      · exact hk

end ByKey

section Keys

variable {α β : Type} {xs ys : List α}

/-- Without repeated keys nothing is left out of a list; of what follows, the members with new keys
remain. -/
theorem eraseDupsBy_append [DecidableEq β] {f : α → β} (h : (xs.map f).Nodup) (ys : List α) :
    (xs ++ ys).eraseDupsBy (fun a b => f a == f b) =
      xs ++ (ys.filter fun y => f y ∉ xs.map f).eraseDupsBy (fun a b => f a == f b) := by
  induction xs generalizing ys with
  | nil => simp
  | cons x xs ih =>
    obtain ⟨hnew, hrest⟩ := List.nodup_cons.1 h
    have hxs : xs.filter (fun y => (f y == f x) = false) = xs := by
      refine List.filter_eq_self.2 fun y hy => ?_
      have hne : f y ≠ f x := fun heq => hnew (List.mem_map.2 ⟨y, hy, heq⟩)
      simpa using hne
    have hys : (ys.filter fun y => (f y == f x) = false).filter (fun y => f y ∉ xs.map f) =
        ys.filter fun y => f y ∉ (x :: xs).map f := by
      rw [List.filter_filter]
      apply List.filter_congr
      intro y _
      rw [List.map_cons, Bool.eq_iff_iff]
      simp only [Bool.and_eq_true, decide_eq_true_eq, beq_eq_false_iff_ne, List.mem_cons, not_or]
      exact and_comm
    rw [List.cons_append, List.eraseDupsBy_cons, List.filter_append, hxs, ih hrest, hys,
      List.cons_append]

theorem eraseDupsBy_eq_self [DecidableEq β] {f : α → β} (h : (xs.map f).Nodup) :
    xs.eraseDupsBy (fun a b => f a == f b) = xs := by
  have hall := eraseDupsBy_append h []
  rwa [List.filter_nil, List.eraseDupsBy_nil, List.append_nil] at hall

/-- Of the members with one key a list without doubles keeps the first. -/
theorem mem_eraseDupsBy_iff [BEq β] [LawfulBEq β] (f : α → β) {x : α} :
    x ∈ xs.eraseDupsBy (fun a b => f a == f b) ↔ xs.find? (f · == f x) = some x := by
  induction h : xs.length using Nat.strongRecOn generalizing xs with
  | ind n ih =>
    cases xs with
    | nil => simp
    | cons y ys =>
      rw [List.eraseDupsBy_cons, List.mem_cons]
      have hshorter : (ys.filter fun z => (f z == f y) = false).length < n :=
        h ▸ Nat.lt_succ_of_le (List.length_filter_le _ ys)
      rw [ih _ hshorter rfl, List.find?_filter]
      by_cases hkey : f y = f x
      · -- the first member has the key, so no later one counts
        rw [List.find?_cons_of_pos (by simpa using hkey), Option.some.injEq, or_iff_left]
        · exact eq_comm
        · intro hfind
          have hboth := List.find?_some hfind
          simp [hkey] at hboth
      · have hother : ¬(f y == f x) = true := by simpa using hkey
        have hne : x ≠ y := by
          rintro rfl
          exact hkey rfl
        rw [List.find?_cons_of_neg (p := (f · == f x)) hother, or_iff_right hne]
        -- leaving out members with another key changes nothing
        have hsame : (fun z => decide (decide ((f z == f y) = false) = true ∧
            (f z == f x) = true)) = (f · == f x) := by
          funext z
          by_cases hz : f z = f x
          · simp [hz, Ne.symm hkey]
          · simp [hz]
        rw [hsame]

/-- No key occurs twice once repeated keys are removed. -/
theorem nodup_map_eraseDupsBy [BEq β] [LawfulBEq β] (f : α → β) (xs : List α) :
    ((xs.eraseDupsBy fun a b => f a == f b).map f).Nodup := by
  induction h : xs.length using Nat.strongRecOn generalizing xs with
  | ind n ih =>
    cases xs with
    | nil => exact List.nodup_nil
    | cons y ys =>
      have hshorter : (ys.filter fun z => (f z == f y) = false).length < n :=
        h ▸ Nat.lt_succ_of_le (List.length_filter_le _ ys)
      rw [List.eraseDupsBy_cons, List.map_cons, List.nodup_cons]
      refine ⟨fun hmem => ?_, ih _ hshorter _ rfl⟩
      obtain ⟨z, hz, heq⟩ := List.mem_map.1 hmem
      -- what is kept behind `y` has other keys
      have hkept := List.mem_of_find?_eq_some ((mem_eraseDupsBy_iff f).1 hz)
      have hother := (List.mem_filter.1 hkept).2
      simp [heq] at hother

/-- If no key occurs twice, there is one member with a given key. -/
theorem filter_eq_singleton_of_nodup_keys [DecidableEq β] {f : α → Option β}
    (h : (xs.filterMap f).Nodup) {x : α} (hx : x ∈ xs) {b : β} (hb : f x = some b) :
    xs.filter (fun y => f y = some b) = [x] := by
  have hlength : (xs.filter (fun y => f y = some b)).length = 1 := by
    rw [← List.countP_eq_length_filter,
      ← List.count_eq_one_of_mem h (List.mem_filterMap.2 ⟨x, hx, hb⟩), List.count_filterMap]
    exact List.countP_congr fun y _ => by rw [decide_eq_true_eq, beq_iff_eq]
  obtain ⟨y, hy⟩ := List.length_eq_one_iff.1 hlength
  have hmem : x ∈ xs.filter (fun y => f y = some b) := List.mem_filter.2 ⟨hx, by simpa using hb⟩
  rw [hy, List.mem_singleton] at hmem
  rw [hy, hmem]

/-- A list without repetitions holds a member of it once. -/
theorem filter_eq_singleton_of_nodup [DecidableEq α] {x : α} {p : α → Bool} (hxs : xs.Nodup)
    (hx : x ∈ xs) (hp : ∀ y ∈ xs, p y = true ↔ y = x) : xs.filter p = [x] := by
  rw [← List.filterMap_some (l := xs)] at hxs
  -- every member is its own key
  rw [← filter_eq_singleton_of_nodup_keys hxs hx rfl]
  refine List.filter_congr fun y hy => Bool.eq_iff_iff.2 ?_
  rw [hp y hy, decide_eq_true_eq, Option.some.injEq]

end Keys

end PageRoutes
