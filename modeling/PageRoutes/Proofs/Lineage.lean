import PageRoutes.Placement
import Mathlib.Data.List.Nodup
import Mathlib.Logic.Function.Iterate

/-!
# Lineages of directories

The lineage of a directory is the walk from it to the root.  A parent is always a prefix, so the
walk ends, no directory occurs in it twice, and two directories of one walk never share a parent.
The route pattern of a directory is spelled by the paths along its lineage, whatever mixture of
nested scopes and flat tails the walk passes through.
-/

namespace PageRoutes.Placement

/-! ## Parents -/

/-- The innermost scope of a directory is a prefix of it. -/
theorem innermostScope_isPrefix_self (d : List Segment) : innermostScope d <+: d := by
  have hrest : d.reverse.dropWhile (!·.isNestedScope) <:+ d.reverse :=
    List.dropWhile_suffix _
  have hfront := List.reverse_prefix.2 hrest
  rwa [List.reverse_reverse] at hfront

/-- The parent of a directory is a prefix of it. -/
theorem parent_isPrefix_self (d : List Segment) : parent d <+: d := by
  unfold parent
  split
  · exact List.dropLast_prefix d
  · exact innermostScope_isPrefix_self d

/-- A directory is its parent followed by the segments of its path. -/
theorem parent_append_drop (d : List Segment) :
    parent d ++ d.drop (parent d).length = d :=
  List.prefix_iff_eq_append.1 (parent_isPrefix_self d)

/-- The path of a directory other than the root has at least one segment. -/
theorem drop_parent_ne_nil {d : List Segment} (hd : d ≠ []) :
    d.drop (parent d).length ≠ [] := by
  have hlt := length_parent_lt hd
  intro hnil
  have hle := List.drop_eq_nil_iff.1 hnil
  omega

/-! ## The members of a lineage -/

@[simp] theorem lineage_nil : lineage [] = [] := by
  rw [lineage, if_pos rfl]

/-- The lineage of a directory other than the root begins with the directory itself. -/
theorem lineage_eq_cons {d : List Segment} (hd : d ≠ []) :
    lineage d = d :: lineage (parent d) := by
  rw [lineage, if_neg hd]

theorem self_mem_lineage {d : List Segment} (hd : d ≠ []) : d ∈ lineage d := by
  rw [lineage_eq_cons hd]
  exact List.mem_cons_self

/-- Going to the parent once for every member of the lineage ends at the root. -/
theorem iterate_parent_length_lineage (d : List Segment) :
    parent^[(lineage d).length] d = [] := by
  induction d using lineage.induct with
  | case1 => rw [lineage_nil, List.length_nil, Function.iterate_zero, id]
  | case2 d hd ih =>
    rw [lineage_eq_cons hd, List.length_cons, Function.iterate_succ_apply]
    exact ih

/-- A lineage has at most as many members as the directory has segments. -/
theorem length_lineage_le (d : List Segment) : (lineage d).length ≤ d.length := by
  induction d using lineage.induct with
  | case1 => simp
  | case2 d hd ih =>
    have hlt := length_parent_lt hd
    rw [lineage_eq_cons hd, List.length_cons]
    omega

/-- What stands in a lineage besides the directory itself stands in the lineage of its parent. -/
theorem mem_lineage_iff {d e : List Segment} (hd : d ≠ []) :
    e ∈ lineage d ↔ e = d ∨ e ∈ lineage (parent d) := by
  rw [lineage_eq_cons hd, List.mem_cons]

/-- The root is left out of every lineage. -/
theorem ne_nil_of_mem_lineage {d e : List Segment} (he : e ∈ lineage d) : e ≠ [] := by
  induction d using lineage.induct with
  | case1 => simp at he
  | case2 d hd ih =>
    rcases (mem_lineage_iff hd).1 he with rfl | hmem
    · exact hd
    · exact ih hmem

/-- What passes from each directory to its parent passes from a directory to its whole lineage. -/
theorem of_mem_lineage {motive : List Segment → Prop} {d e : List Segment}
    (step : ∀ c, motive c → parent c ≠ [] → motive (parent c)) (hd : motive d)
    (he : e ∈ lineage d) : motive e := by
  induction d using lineage.induct with
  | case1 => simp at he
  | case2 d hne ih =>
    rcases (mem_lineage_iff hne).1 he with rfl | habove
    · exact hd
    · refine ih (step d hd fun hnil => ?_) habove
      rw [hnil, lineage_nil] at habove
      exact List.not_mem_nil habove

/-- The lineage of a member is the rest of the lineage from there on. -/
theorem lineage_suffix_of_mem {d e : List Segment} (he : e ∈ lineage d) :
    lineage e <:+ lineage d := by
  induction d using lineage.induct with
  | case1 => simp at he
  | case2 d hd ih =>
    rcases (mem_lineage_iff hd).1 he with rfl | hmem
    · exact List.suffix_rfl
    · rw [lineage_eq_cons hd]
      exact (ih hmem).trans (List.suffix_cons _ _)

/-- What follows a member in a lineage is the lineage of its parent. -/
theorem eq_lineage_parent_of_append {d e : List Segment} {front rest : List (List Segment)}
    (h : lineage d = front ++ e :: rest) : rest = lineage (parent e) := by
  induction d using lineage.induct generalizing front with
  | case1 =>
    rw [lineage_nil] at h
    exact absurd h.symm (by simp)
  | case2 d hd ih =>
    rw [lineage_eq_cons hd] at h
    cases front with
    | nil =>
      obtain ⟨rfl, hrest⟩ := List.cons.inj h
      exact hrest.symm
    | cons x front => exact ih (List.cons.inj h).2

/-- A lineage can be cut at each of its members. -/
theorem exists_lineage_eq_append {d e : List Segment} (he : e ∈ lineage d) :
    ∃ front, lineage d = front ++ e :: lineage (parent e) := by
  obtain ⟨front, rest, h⟩ := List.append_of_mem he
  exact ⟨front, eq_lineage_parent_of_append h ▸ h⟩

/-- Different directories have different lineages. -/
theorem lineage_injective {d e : List Segment} (h : lineage d = lineage e) : d = e := by
  by_cases hd : d = []
  · by_cases he : e = []
    · rw [hd, he]
    · rw [hd, lineage_nil, lineage_eq_cons he] at h
      exact absurd h (by simp)
  · by_cases he : e = []
    · rw [he, lineage_nil, lineage_eq_cons hd] at h
      exact absurd h (by simp)
    · rw [lineage_eq_cons hd, lineage_eq_cons he] at h
      exact (List.cons.inj h).1

theorem mem_lineage_trans {d e f : List Segment} (hf : f ∈ lineage e) (he : e ∈ lineage d) :
    f ∈ lineage d :=
  (lineage_suffix_of_mem he).subset hf

/-- A lineage is closed under going to the parent, until the root is reached. -/
theorem parent_mem_lineage {d e : List Segment} (he : e ∈ lineage d) (hp : parent e ≠ []) :
    parent e ∈ lineage d := by
  refine mem_lineage_trans ?_ he
  rw [mem_lineage_iff (ne_nil_of_mem_lineage he)]
  exact Or.inr (self_mem_lineage hp)

/-- Below every member of a lineage but the directory itself another member hangs. -/
theorem exists_parent_eq_of_mem_lineage {d e : List Segment} (he : e ∈ lineage d) (hne : e ≠ d) :
    ∃ c ∈ lineage d, parent c = e := by
  induction d using lineage.induct with
  | case1 => simp at he
  | case2 d hd ih =>
    have habove := ((mem_lineage_iff hd).1 he).resolve_left hne
    by_cases heq : e = parent d
    · exact ⟨d, self_mem_lineage hd, heq.symm⟩
    · obtain ⟨c, hc, hparent⟩ := ih habove heq
      exact ⟨c, (mem_lineage_iff hd).2 (Or.inr hc), hparent⟩

/-- Every member of a lineage is a prefix of the directory. -/
theorem isPrefix_of_mem_lineage {d e : List Segment} (he : e ∈ lineage d) : e <+: d := by
  induction d using lineage.induct with
  | case1 => simp at he
  | case2 d hd ih =>
    rcases (mem_lineage_iff hd).1 he with rfl | hmem
    · exact List.prefix_rfl
    · exact (ih hmem).trans (parent_isPrefix_self d)

/-- Of two members of a lineage the longer one has the shorter one in its own lineage. -/
theorem mem_lineage_of_length_le {d e f : List Segment} (he : e ∈ lineage d)
    (hf : f ∈ lineage d) (hle : e.length ≤ f.length) : e ∈ lineage f := by
  induction d using lineage.induct with
  | case1 => simp at he
  | case2 d hd ih =>
    rcases (mem_lineage_iff hd).1 hf with rfl | hf'
    · exact he
    · rcases (mem_lineage_iff hd).1 he with rfl | he'
      · -- `f` lies strictly above `e = d`, so it is shorter
        have hlt := length_parent_lt hd
        have hfle := (isPrefix_of_mem_lineage hf').length_le
        omega
      · exact ih he' hf'

/-- Two members of a lineage with one parent are the same. -/
theorem eq_of_mem_lineage_of_parent_eq {d e f : List Segment} (he : e ∈ lineage d)
    (hf : f ∈ lineage d) (hparent : parent e = parent f) : e = f := by
  wlog hle : e.length ≤ f.length generalizing e f
  · exact (this hf he hparent.symm (by omega)).symm
  rcases (mem_lineage_iff (ne_nil_of_mem_lineage hf)).1 (mem_lineage_of_length_le he hf hle)
    with heq | habove
  · exact heq
  · -- `e` would be a member of the lineage of its own parent
    rw [← hparent] at habove
    have hlt := length_parent_lt (ne_nil_of_mem_lineage he)
    have hle' := (isPrefix_of_mem_lineage habove).length_le
    omega

/-- Of two members of a lineage the shorter one stands in the lineage of the parent of the longer
one. -/
theorem mem_lineage_parent {d e f : List Segment} (he : e ∈ lineage d) (hf : f ∈ lineage d)
    (hlt : e.length < f.length) : e ∈ lineage (parent f) := by
  rcases (mem_lineage_iff (ne_nil_of_mem_lineage hf)).1
    (mem_lineage_of_length_le he hf (Nat.le_of_lt hlt)) with rfl | habove
  · omega
  · exact habove

/-! ## Where two lineages part -/

/-- A directory precedes another if it lies on the way from the other to the root, or if the two
ways come from different, suitably related directories below one parent. -/
def Precedes (R : List Segment → List Segment → Prop) (d e : List Segment) : Prop :=
  d ∈ lineage (parent e) ∨
    ∃ m ∈ lineage d, ∃ n ∈ lineage e, m ≠ n ∧ parent m = parent n ∧ R m n

/-- No directory stands in the lineage of its own parent. -/
theorem not_mem_lineage_parent {d : List Segment} (hd : d ≠ []) : d ∉ lineage (parent d) := by
  intro hmem
  have hle := (isPrefix_of_mem_lineage hmem).length_le
  have hlt := length_parent_lt hd
  omega

theorem not_precedes_self {R : List Segment → List Segment → Prop} {d : List Segment}
    (hd : d ≠ []) : ¬Precedes R d d := by
  rintro (hmem | ⟨m, hm, n, hn, hne, hparent, -⟩)
  · exact not_mem_lineage_parent hd hmem
  · exact hne (eq_of_mem_lineage_of_parent_eq hm hn hparent)

/-- A member of a lineage stands in the lineage of every member that is longer than its parent. -/
theorem mem_lineage_of_parent_length_lt {d e f : List Segment} (he : e ∈ lineage d)
    (hf : f ∈ lineage d) (hlt : (parent e).length < f.length) : e ∈ lineage f := by
  by_cases hle : e.length ≤ f.length
  · exact mem_lineage_of_length_le he hf hle
  · have habove := mem_lineage_parent hf he (by omega)
    have hle' := (isPrefix_of_mem_lineage habove).length_le
    omega

/-- No place at which two lineages go on through different directories is further out than another
one. -/
theorem length_parent_le_of_parting {d e m n m' n' : List Segment} (hm : m ∈ lineage d)
    (hn : n ∈ lineage e) (hne : m ≠ n) (hparent : parent m = parent n) (hm' : m' ∈ lineage d)
    (hn' : n' ∈ lineage e) (hparent' : parent m' = parent n') :
    (parent m').length ≤ (parent m).length := by
  by_contra hlt
  have hnil : parent m' ≠ [] := by
    intro hnil
    rw [hnil, List.length_nil] at hlt
    omega
  -- on both walks the further place would lie beyond the nearer one
  have habove : ∀ {c x}, c ∈ lineage x → parent c = parent m → parent m' ∈ lineage x →
      c ∈ lineage (parent m') := by
    intro c x hc hcm hx
    exact mem_lineage_of_parent_length_lt hc hx (by rw [hcm]; omega)
  -- both branches would stand in the lineage of the inner parent
  refine hne (eq_of_mem_lineage_of_parent_eq (d := parent m') ?_ ?_ hparent)
  · exact habove hm rfl (parent_mem_lineage hm' hnil)
  · exact habove hn hparent.symm (hparent' ▸ parent_mem_lineage hn' (hparent' ▸ hnil))

/-- Two lineages part only once. -/
theorem parting_unique {d e m n m' n' : List Segment} (hm : m ∈ lineage d) (hn : n ∈ lineage e)
    (hne : m ≠ n) (hparent : parent m = parent n) (hm' : m' ∈ lineage d) (hn' : n' ∈ lineage e)
    (hne' : m' ≠ n') (hparent' : parent m' = parent n') : m = m' ∧ n = n' := by
  have hlength : (parent m).length = (parent m').length :=
    Nat.le_antisymm (length_parent_le_of_parting hm' hn' hne' hparent' hm hn hparent)
      (length_parent_le_of_parting hm hn hne hparent hm' hn' hparent')
  -- two prefixes of `d` of one length are the same
  have hfront : ∀ {c}, c ∈ lineage d → parent c <+: d :=
    fun hc => (parent_isPrefix_self _).trans (isPrefix_of_mem_lineage hc)
  have hsame : parent m = parent m' :=
    (List.prefix_of_prefix_length_le (hfront hm) (hfront hm') (Nat.le_of_eq hlength)).eq_of_length
      hlength
  refine ⟨eq_of_mem_lineage_of_parent_eq hm hm' hsame, ?_⟩
  exact eq_of_mem_lineage_of_parent_eq hn hn' (by rw [← hparent, ← hparent', hsame])

/-! ## Patterns along a lineage -/

/-- Two runs of segments spell their patterns one after the other. -/
theorem pattern_append {d e : List Segment} (hd : d ≠ []) (he : e ≠ []) :
    Segment.pattern (d ++ e) = Segment.pattern d ++ "/" ++ Segment.pattern e := by
  unfold Segment.pattern
  rw [List.map_append, String.intercalate_append_of_ne_nil]
  · simpa using hd
  · simpa using he

/-- A directory directly below the root has its whole pattern as its path. -/
theorem path_of_parent_eq_nil {d : List Segment} (hp : parent d = []) :
    path d = Segment.pattern d := by
  rw [path, hp, List.length_nil, List.drop_zero]

/-- Any other directory spells the pattern of its parent and then its own path. -/
theorem pattern_eq_parent_append {d : List Segment} (hp : parent d ≠ []) :
    Segment.pattern d = Segment.pattern (parent d) ++ "/" ++ path d := by
  have hd : d ≠ [] := by
    rintro rfl
    exact hp rfl
  rw [path, ← pattern_append hp (drop_parent_ne_nil hd), parent_append_drop]

/-- The paths along a lineage, from the outside in, spell the pattern of the directory. -/
theorem intercalate_paths (d : List Segment) :
    "/".intercalate ((lineage d).reverse.map path) = Segment.pattern d := by
  induction d using lineage.induct with
  | case1 => rw [lineage_nil]; rfl
  | case2 d hd ih =>
    rw [lineage_eq_cons hd, List.reverse_cons, List.map_append, List.map_singleton]
    by_cases hp : parent d = []
    · rw [hp, lineage_nil, List.reverse_nil, List.map_nil, List.nil_append,
        String.intercalate_singleton, path_of_parent_eq_nil hp]
    · have hne : (lineage (parent d)).reverse.map path ≠ [] := by
        rw [lineage_eq_cons hp]
        simp
      -- the walk so far spells the pattern of the parent, the last path goes on from there
      rw [String.intercalate_append_of_ne_nil hne (List.cons_ne_nil _ _), ih,
        String.intercalate_singleton, ← pattern_eq_parent_append hp]

end PageRoutes.Placement
