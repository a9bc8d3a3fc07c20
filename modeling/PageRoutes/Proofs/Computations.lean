import Mathlib.Data.List.Forall2
import Mathlib.Data.List.Perm.Basic

/-!
# Computations that may fail

A computation in steps ends well exactly when all its steps do, and fails at the first one that does
not.  Reading a list member by member is such a computation: it fails at the first member that
cannot be read.  If the members take nothing but their places from the order of the list, another
order of the list yields the same members at other places.
-/

namespace PageRoutes

/-! ## Steps -/

/-- A computation in two steps ends well exactly when both steps do. -/
theorem bind_eq_ok_iff {ε α β : Type} {x : Except ε α} {f : α → Except ε β} {b : β} :
    (x >>= f) = .ok b ↔ ∃ a, x = .ok a ∧ f a = .ok b := by
  cases x with
  | error e => simp [bind, Except.bind]
  | ok a => simp [bind, Except.bind]

/-- A computation in two steps fails at one of them. -/
theorem bind_eq_error_iff {ε α β : Type} {x : Except ε α} {f : α → Except ε β} {e : ε} :
    (x >>= f) = .error e ↔ x = .error e ∨ ∃ a, x = .ok a ∧ f a = .error e := by
  cases x with
  | error e' => simp [bind, Except.bind]
  | ok a => simp [bind, Except.bind]

/-- Computations that begin in the same way fail in the same way, or both fail later. -/
theorem bind_eq_error_of_same {ε α β γ : Type} {x : Except ε α} {f : α → Except ε β}
    {g : α → Except ε γ} {e e' : ε} (h : (x >>= f) = .error e) (h' : (x >>= g) = .error e') :
    e = e' ∨ ∃ a, x = .ok a ∧ f a = .error e ∧ g a = .error e' := by
  cases x with
  | error cause => exact Or.inl ((Except.error.inj h).symm.trans (Except.error.inj h'))
  | ok a => exact Or.inr ⟨a, rfl, h, h'⟩

theorem exists_eq_ok_of_isOk {ε α : Type} {x : Except ε α} (h : x.isOk = true) :
    ∃ a, x = .ok a := by
  cases x with
  | error e => cases h
  | ok a => exact ⟨a, rfl⟩

theorem map_eq_ok_iff {ε α β : Type} {x : Except ε α} {f : α → β} {b : β} :
    x.map f = .ok b ↔ ∃ a, x = .ok a ∧ f a = b := by
  cases x with
  | error e => simp [Except.map]
  | ok a => simp [Except.map]

theorem map_eq_error_iff {ε α β : Type} {x : Except ε α} {f : α → β} {e : ε} :
    x.map f = .error e ↔ x = .error e := by
  cases x <;> simp [Except.map]

/-- A failure that is put in other words is a failure all the same. -/
theorem mapError_eq_ok_iff {ε ε' α : Type} {x : Except ε α} {f : ε → ε'} {a : α} :
    x.mapError f = .ok a ↔ x = .ok a := by
  cases x <;> simp [Except.mapError]

/-! ## Reading lists -/

/-- Reading a list ends well exactly when reading each member does. -/
theorem mapM_eq_ok_iff {ε α β : Type} {f : α → Except ε β} {xs : List α} {ys : List β} :
    xs.mapM f = .ok ys ↔ List.Forall₂ (fun x y => f x = .ok y) xs ys := by
  induction xs generalizing ys with
  | nil =>
    rw [List.mapM_nil, List.forall₂_nil_left_iff]
    exact ⟨fun h => (Except.ok.inj h).symm, fun h => h ▸ rfl⟩
  | cons x xs ih =>
    rw [List.mapM_cons, List.forall₂_cons_left_iff, bind_eq_ok_iff]
    refine exists_congr fun y => ?_
    rw [bind_eq_ok_iff, ← exists_and_left]
    refine exists_congr fun zs => ?_
    rw [ih]
    refine and_congr_right fun _ => and_congr_right fun _ => ?_
    exact ⟨fun h => (Except.ok.inj h).symm, fun h => h ▸ rfl⟩

/-- What is read from a list is what is read from its members. -/
theorem mem_iff_of_mapM {ε α β : Type} {f : α → Except ε β} {xs : List α} {ys : List β}
    (h : xs.mapM f = .ok ys) {y : β} : y ∈ ys ↔ ∃ x ∈ xs, f x = .ok y := by
  have hall := mapM_eq_ok_iff.1 h
  clear h
  induction hall with
  | nil => simp
  | cons hfirst _ ih =>
    rw [List.mem_cons, List.exists_mem_cons_iff, hfirst, Except.ok.injEq]
    exact or_congr eq_comm ih

/-- If a list is read, each of its members is. -/
theorem exists_eq_ok_of_mapM {ε α β : Type} {f : α → Except ε β} {xs : List α} {ys : List β}
    (h : xs.mapM f = .ok ys) {x : α} (hx : x ∈ xs) : ∃ y, f x = .ok y := by
  have hall := mapM_eq_ok_iff.1 h
  clear h
  induction hall with
  | nil => exact absurd hx List.not_mem_nil
  | cons hfirst _ ih =>
    rcases List.mem_cons.1 hx with rfl | hrest
    · exact ⟨_, hfirst⟩
    · exact ih hrest

/-- Reading a list depends only on how its members are read. -/
theorem mapM_congr {ε α β : Type} {f g : α → Except ε β} {xs : List α}
    (h : ∀ x ∈ xs, f x = g x) : xs.mapM f = xs.mapM g := by
  induction xs with
  | nil => rfl
  | cons x xs ih =>
    rw [List.forall_mem_cons] at h
    rw [List.mapM_cons, List.mapM_cons, h.1, ih h.2]

/-- Reading a list fails at the first member that cannot be read. -/
theorem mapM_eq_error_iff {ε α β : Type} {f : α → Except ε β} {xs : List α} {e : ε} :
    xs.mapM f = .error e ↔
      ∃ front x back, xs = front ++ x :: back ∧ (∀ y ∈ front, ∃ z, f y = .ok z) ∧
        f x = .error e := by
  induction xs with
  | nil => simp [pure, Except.pure]
  | cons x xs ih =>
    have hrest : ∀ y, (xs.mapM f >>= fun ys => (pure (y :: ys) : Except ε (List β))) = .error e ↔
        xs.mapM f = .error e := by
      intro y
      rw [bind_eq_error_iff, or_iff_left]
      rintro ⟨ys, -, hpure⟩
      cases hpure
    rw [List.mapM_cons, bind_eq_error_iff]
    simp only [hrest, ih]
    constructor
    · rintro (hx | ⟨y, hy, front, z, back, rfl, hfront, hz⟩)
      · exact ⟨[], x, xs, rfl, fun _ hy => absurd hy List.not_mem_nil, hx⟩
      · exact ⟨x :: front, z, back, rfl, List.forall_mem_cons.2 ⟨⟨y, hy⟩, hfront⟩, hz⟩
    · rintro ⟨front, z, back, heq, hfront, hz⟩
      rcases List.cons_eq_append_iff.1 heq with ⟨rfl, hcons⟩ | ⟨front, rfl, rfl⟩
      · obtain ⟨rfl, -⟩ := List.cons.inj hcons
        exact Or.inl hz
      · obtain ⟨⟨y, hy⟩, hfront⟩ := List.forall_mem_cons.1 hfront
        exact Or.inr ⟨y, hy, front, z, back, rfl, hfront, hz⟩

/-- Reading a list fails at one of its members. -/
theorem exists_eq_error_of_mapM {ε α β : Type} {f : α → Except ε β} {xs : List α} {e : ε}
    (h : xs.mapM f = .error e) : ∃ x ∈ xs, f x = .error e := by
  obtain ⟨front, x, back, rfl, -, hx⟩ := mapM_eq_error_iff.1 h
  exact ⟨x, List.mem_append_right _ List.mem_cons_self, hx⟩

/-! ## Members and their places -/

section Places

variable {ε α β γ : Type} {f : α → Nat → Except ε β} {g : β → γ} {h : α → Except ε γ}

/-- Members that differ in their places only are read one by one. -/
theorem map_mapM_zipIdx (hf : ∀ a i, (f a i).map g = h a) (xs : List α) :
    (xs.zipIdx.mapM fun entry => f entry.1 entry.2).map (List.map g) = xs.mapM h := by
  have hall : ∀ start,
      ((xs.zipIdx start).mapM fun entry => f entry.1 entry.2).map (List.map g) = xs.mapM h := by
    intro start
    induction xs generalizing start with
    | nil => rfl
    | cons x rest ih =>
      rw [List.zipIdx_cons, List.mapM_cons, List.mapM_cons, ← ih (start + 1), ← hf x start]
      dsimp only
      cases f x start with
      | error e => rfl
      | ok y => cases (rest.zipIdx (start + 1)).mapM fun entry => f entry.1 entry.2 <;> rfl
  exact hall 0

/-- Reading a list in another order yields the same members at other places. -/
theorem exists_perm_of_mapM_zipIdx (hf : ∀ a i, (f a i).map g = h a) {xs ys : List α}
    {bs : List β} (hperm : xs.Perm ys)
    (hread : (xs.zipIdx.mapM fun entry => f entry.1 entry.2) = .ok bs) :
    ∃ cs, (ys.zipIdx.mapM fun entry => f entry.1 entry.2) = .ok cs ∧
      (bs.map g).Perm (cs.map g) := by
  have hplain : xs.mapM h = .ok (bs.map g) := by
    rw [← map_mapM_zipIdx hf, hread]
    rfl
  obtain ⟨found, hfound, hsame⟩ := List.perm_comp_forall₂ hperm.symm (mapM_eq_ok_iff.1 hplain)
  rw [← mapM_eq_ok_iff, ← map_mapM_zipIdx hf] at hfound
  obtain ⟨cs, hcs, rfl⟩ := map_eq_ok_iff.1 hfound
  exact ⟨cs, hcs, hsame.symm⟩

end Places

end PageRoutes
