import PageRoutes.Proofs.SiteTree

/-!
# The trails of a site

The nodes strictly below a directory are listed in the order in which the router meets them.  Below
the root they are the nodes of all directories of the site, and their trails run through the nodes
of their lineages.  Of two nodes the first one either lies on the trail to the second one, or it
hangs below an earlier sibling at the place where the two trails part.
-/

namespace PageRoutes

open Placement

namespace Site

variable {site : Site} {guards : GuardRegistry} {arr : Arrangement} {d e p : List Segment}

/-! ## Descendants -/

/-- The directories strictly below a directory, in the order of their routes. -/
def descendants (site : Site) (arr : Arrangement) (p : List Segment) : List (List Segment) :=
  (arr.arrange (site.childrenOf p)).attach.flatMap fun ⟨d, _⟩ => d :: descendants site arr d
termination_by site.depth - p.length
decreasing_by
  have := lengths_of_mem_childrenOf ((arr.perm _).mem_iff.1 ‹_›)
  omega

theorem descendants_eq (p : List Segment) :
    site.descendants arr p =
      (arr.arrange (site.childrenOf p)).flatMap fun d => d :: site.descendants arr d := by
  rw [descendants]
  simp only [List.flatMap_subtype, List.unattach_attach]

theorem mem_descendants_iff :
    d ∈ site.descendants arr p ↔
      ∃ c ∈ site.childrenOf p, d = c ∨ d ∈ site.descendants arr c := by
  rw [descendants_eq, List.mem_flatMap]
  refine exists_congr fun c => ?_
  rw [(arr.perm _).mem_iff, List.mem_cons]

/-- What lies below a directory is a directory of the site, and the way from it to the root leads
through that directory. -/
theorem IsClosed.of_mem_descendants (h : site.IsClosed) (hd : d ∈ site.descendants arr p) :
    d ∈ site.directories ∧ (p = [] ∨ p ∈ lineage (parent d)) := by
  induction p using below_induction site with
  | step p ih =>
    obtain ⟨c, hc, hdc⟩ := mem_descendants_iff.1 hd
    obtain ⟨hcmem, rfl⟩ := h.mem_childrenOf.1 hc
    rcases hdc with rfl | hbelow
    · refine ⟨hcmem, ?_⟩
      by_cases hnil : parent d = []
      · exact Or.inl hnil
      · exact Or.inr (self_mem_lineage hnil)
    · obtain ⟨hdmem, hup⟩ := ih c hc hbelow
      refine ⟨hdmem, ?_⟩
      by_cases hnil : parent c = []
      · exact Or.inl hnil
      · refine Or.inr (parent_mem_lineage ?_ hnil)
        exact hup.resolve_left (h.ne_nil c hcmem)

/-- A directory that hangs below a descendant is a descendant. -/
theorem mem_descendants_of_childrenOf (hd : d ∈ site.descendants arr p)
    (he : e ∈ site.childrenOf d) : e ∈ site.descendants arr p := by
  induction p using below_induction site with
  | step p ih =>
    obtain ⟨c, hc, hdc⟩ := mem_descendants_iff.1 hd
    refine mem_descendants_iff.2 ⟨c, hc, Or.inr ?_⟩
    rcases hdc with rfl | hbelow
    · exact mem_descendants_iff.2 ⟨e, he, Or.inl rfl⟩
    · exact ih c hc hbelow

/-- Everything in the site lies below the root. -/
theorem IsClosed.mem_descendants_nil (h : site.IsClosed) :
    d ∈ site.descendants arr [] ↔ d ∈ site.directories := by
  refine ⟨fun hd => (h.of_mem_descendants hd).1, fun hd => ?_⟩
  induction d using lineage.induct with
  | case1 => exact absurd rfl (h.ne_nil [] hd)
  | case2 d hne ih =>
    by_cases hnil : parent d = []
    · exact mem_descendants_iff.2 ⟨d, h.mem_childrenOf.2 ⟨hd, hnil⟩, Or.inl rfl⟩
    · have hparent := ih (h.parent_mem d hd hnil)
      exact mem_descendants_of_childrenOf hparent (h.mem_childrenOf.2 ⟨hd, rfl⟩)

/-! ## The order of descendants -/

/-- The descendants of a directory come in the order of their trails. -/
theorem IsClosed.pairwise_descendants (h : site.IsClosed)
    {R : List Segment → List Segment → Prop}
    (hR : ∀ p, (arr.arrange (site.childrenOf p)).Pairwise R) (p : List Segment) :
    (site.descendants arr p).Pairwise (Precedes R) := by
  induction p using below_induction site with
  | step p ih =>
    -- whatever is listed with a child has the child on its way to the root
    have habove : ∀ {c x}, c ∈ site.childrenOf p → x ∈ c :: site.descendants arr c →
        c ∈ lineage x := by
      intro c x hc hx
      have hne := h.ne_nil c (h.mem_childrenOf.1 hc).1
      rcases List.mem_cons.1 hx with rfl | hbelow
      · exact self_mem_lineage hne
      · obtain ⟨hmem, hup⟩ := h.of_mem_descendants hbelow
        rw [mem_lineage_iff (h.ne_nil x hmem)]
        exact Or.inr (hup.resolve_left hne)
    rw [descendants_eq, List.pairwise_flatMap]
    constructor
    · -- within one branch the branch itself comes first
      intro c hc
      have hc' := (arr.perm _).mem_iff.1 hc
      have hne := h.ne_nil c (h.mem_childrenOf.1 hc').1
      refine List.pairwise_cons.2 ⟨fun x hx => Or.inl ?_, ih c hc'⟩
      exact (h.of_mem_descendants hx).2.resolve_left hne
    · -- two branches part at the two siblings
      have hdistinct : (arr.arrange (site.childrenOf p)).Pairwise (· ≠ ·) :=
        (arr.perm _).nodup_iff.2 h.nodup_childrenOf
      refine ((hR p).and hdistinct).imp_of_mem ?_
      rintro a b ha hb ⟨hab, hne⟩ x hx y hy
      have ha' := (arr.perm _).mem_iff.1 ha
      have hb' := (arr.perm _).mem_iff.1 hb
      refine Or.inr ⟨a, habove ha' hx, b, habove hb' hy, hne, ?_, hab⟩
      rw [(h.mem_childrenOf.1 ha').2, (h.mem_childrenOf.1 hb').2]

theorem IsClosed.nodup_descendants (h : site.IsClosed) (p : List Segment) :
    (site.descendants arr p).Nodup := by
  have htrue : ∀ p, (arr.arrange (site.childrenOf p)).Pairwise fun _ _ => True :=
    fun p => List.pairwise_of_forall fun _ _ => trivial
  -- nothing comes before itself, so no member is listed twice
  refine (h.pairwise_descendants htrue p).imp_of_mem ?_
  rintro a _ ha - hprec rfl
  exact not_precedes_self (h.ne_nil _ (h.of_mem_descendants ha).1) hprec

/-- Below the root every directory of the site is listed once. -/
theorem IsClosed.descendants_nil_perm (h : site.IsClosed) :
    (site.descendants arr []).Perm site.directories :=
  (List.perm_ext_iff_of_nodup (h.nodup_descendants []) h.nodup).2 fun _ => h.mem_descendants_nil

/-! ## Trails -/

/-- The trail to the node of a directory. -/
def trailOf (site : Site) (guards : GuardRegistry) (arr : Arrangement) (d : List Segment) : Trail :=
  ⟨(lineage (parent d)).reverse.map (site.branch guards arr), site.branch guards arr d⟩

/-- A trail runs through the nodes of the lineage, from the outside in. -/
theorem routes_trailOf (hd : d ≠ []) :
    (site.trailOf guards arr d).routes = (lineage d).reverse.map (site.branch guards arr) := by
  rw [Trail.routes, trailOf, lineage_eq_cons hd, List.reverse_cons, List.map_append,
    List.map_singleton]

@[simp] theorem label_trailOf : (site.trailOf guards arr d).label = site.label guards d := rfl

theorem branch_mem_branchesBelow (guards : GuardRegistry) (arr : Arrangement)
    (h : site.IsClosed) (hd : d ∈ site.directories) :
    site.branch guards arr d ∈ site.branchesBelow guards arr (parent d) := by
  rw [branchesBelow_eq]
  exact List.mem_map_of_mem ((arr.perm _).mem_iff.2 (h.mem_childrenOf.2 ⟨hd, rfl⟩))

/-- The trail of a directory with a parent continues that of the parent. -/
theorem above_trailOf (hp : parent d ≠ []) :
    (site.trailOf guards arr d).above =
      (site.trailOf guards arr (parent d)).above ++ [site.branch guards arr (parent d)] := by
  rw [trailOf, lineage_eq_cons hp, List.reverse_cons, List.map_append, List.map_singleton]
  rfl

theorem length_routes_trailOf (site : Site) (guards : GuardRegistry) (arr : Arrangement)
    (hd : d ≠ []) :
    (site.trailOf guards arr d).routes.length = (lineage d).length := by
  rw [routes_trailOf hd, List.length_map, List.length_reverse]

/-- The paths on the trail of a directory spell the pattern of the directory. -/
theorem pattern_trailOf (hd : d ≠ []) :
    (site.trailOf guards arr d).pattern = Segment.pattern d := by
  rw [Trail.pattern, routes_trailOf hd, List.map_map]
  exact intercalate_paths d

/-- Up to the node of a member of its lineage, a trail runs through the nodes of the lineage of the
parent of that member. -/
theorem exists_routes_trailOf_eq_append {m : List Segment} (guards : GuardRegistry)
    (arr : Arrangement) (hd : d ≠ []) (hm : m ∈ lineage d) :
    ∃ rest, (site.trailOf guards arr d).routes =
      (lineage (parent m)).reverse.map (site.branch guards arr) ++
        site.branch guards arr m :: rest := by
  obtain ⟨front, hfront⟩ := exists_lineage_eq_append hm
  refine ⟨front.reverse.map (site.branch guards arr), ?_⟩
  rw [routes_trailOf hd, hfront]
  simp

/-- Every cut of a trail is at the node of a member of its lineage. -/
theorem exists_of_routes_trailOf_eq_append {outer inner : List RouteTree} {route : RouteTree}
    (hd : d ≠ []) (h : (site.trailOf guards arr d).routes = outer ++ route :: inner) :
    ∃ m ∈ lineage d, route = site.branch guards arr m ∧
      outer = (lineage (parent m)).reverse.map (site.branch guards arr) := by
  rw [routes_trailOf hd, List.map_eq_append_iff] at h
  obtain ⟨front, back, hline, rfl, hback⟩ := h
  obtain ⟨m, rest, rfl, rfl, -⟩ := List.map_eq_cons_iff.1 hback
  -- read from the inside out, what is left of the cut is the lineage of the parent
  have hcut : lineage d = rest.reverse ++ m :: front.reverse := by
    rw [← List.reverse_reverse (lineage d), hline]
    simp
  refine ⟨m, hcut ▸ List.mem_append_right _ List.mem_cons_self, rfl, ?_⟩
  rw [← eq_lineage_parent_of_append hcut, List.reverse_reverse]

/-- The trails below a directory continue the trail to it; together they are the trails to what
lies below it. -/
theorem IsClosed.map_below_trails (h : site.IsClosed) (p : List Segment) :
    (RouteTree.trailsOfAll (site.branchesBelow guards arr p)).map
        (Trail.below ((lineage p).reverse.map (site.branch guards arr))) =
      (site.descendants arr p).map (site.trailOf guards arr) := by
  induction p using below_induction site with
  | step p ih =>
    rw [branchesBelow_eq, RouteTree.trailsOfAll_eq_flatMap, List.flatMap_map, List.map_flatMap,
      descendants_eq, List.map_flatMap, List.flatMap_def, List.flatMap_def]
    congr 1
    refine List.map_congr_left fun d hd => ?_
    have hchild := (arr.perm _).mem_iff.1 hd
    obtain ⟨hmem, rfl⟩ := h.mem_childrenOf.1 hchild
    have hline : (lineage d).reverse.map (site.branch guards arr) =
        (lineage (parent d)).reverse.map (site.branch guards arr) ++
          [site.branch guards arr d] := by
      rw [lineage_eq_cons (h.ne_nil d hmem), List.reverse_cons, List.map_append,
        List.map_singleton]
    rw [RouteTree.trails_eq, List.map_cons, List.map_cons, List.map_map]
    congr 1
    · rw [Trail.below, List.append_nil, trailOf]
    · rw [RouteTree.trailsBelow, children_branch, ← ih d hchild, hline]
      exact List.map_congr_left fun trail _ => Trail.below_below _ _ trail

/-- The trails of the whole site are those of its directories. -/
theorem IsClosed.trails_branchesBelow_nil (h : site.IsClosed) :
    RouteTree.trailsOfAll (site.branchesBelow guards arr []) =
      (site.descendants arr []).map (site.trailOf guards arr) := by
  rw [← h.map_below_trails, lineage_nil]
  exact (List.map_id _).symm

end Site

end PageRoutes
