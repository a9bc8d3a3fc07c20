import PageRoutes.Proofs.AttachedGuards
import PageRoutes.Proofs.ComponentImports

/-!
# The lists of imports

The components come in the order of their pages, then those of the page root and of unknown
addresses, then the guards in the order of their files.  Nothing of the shape of the tree is left in
these lists.
-/

namespace PageRoutes

open Placement

namespace Site

variable {pages : List Page} {site : Site} {d : List Segment} {page : Page}

/-- The page of a directory is the page with a route that lies there. -/
theorem IsSiteOf.pageAt?_eq_some_iff (h : site.IsSiteOf pages) :
    site.pageAt? d = some page ↔ page ∈ pages ∧ page.role = .route ∧ page.segments = d := by
  constructor
  · intro hat
    obtain ⟨hpage, hrole, hsegments, -⟩ := of_pageAt?_eq_some h.filled hat
    exact ⟨hpage, hrole, hsegments⟩
  · rintro ⟨hpage, hrole, rfl⟩
    have hne := ((h.parsed page hpage).of_route hrole).1
    obtain ⟨own, hown⟩ :=
      Option.ne_none_iff_exists'.1 (pageAt?_segments_ne_none h.filled hpage hrole hne)
    obtain ⟨hmem, hown_role, hsegments, -⟩ := of_pageAt?_eq_some h.filled hown
    rw [hown, h.onePerDirectory own hmem page hpage hown_role hrole hsegments]

/-- The pages of the directories are the pages with routes. -/
theorem IsSiteOf.filterMap_pageAt?_perm (h : site.IsSiteOf pages) (hnodup : pages.Nodup) :
    (site.directories.filterMap site.pageAt?).Perm (pages.filter (·.role = .route)) := by
  apply (List.perm_ext_iff_of_nodup _ (hnodup.filter _)).2
  · intro page
    simp only [List.mem_filterMap, List.mem_filter, decide_eq_true_eq,
      h.pageAt?_eq_some_iff]
    constructor
    · rintro ⟨d, -, hpage, hrole, -⟩
      exact ⟨hpage, hrole⟩
    · rintro ⟨hpage, hrole⟩
      have hmem := segments_mem_directories h.parsed h.filled hpage hrole
      exact ⟨page.segments, hmem, hpage, hrole, rfl⟩
  · refine (filled_of_ofPages h.filled).nodup.filterMap fun a b page ha hb => ?_
    rw [← (h.pageAt?_eq_some_iff.1 ha).2.2, ← (h.pageAt?_eq_some_iff.1 hb).2.2]

end Site

/-! ## Components -/

namespace Emission

/-- The component of a route with its place among the imports. -/
def RankedComponent.ofLabel? (label : RouteLabel) : Option RankedComponent :=
  label.component.map fun component => ⟨importRank label.kind, label.orderKey, component⟩

/-- The component of a page. -/
def RankedComponent.ofPage (page : Page) : RankedComponent :=
  ⟨0, page.place, page.componentRef⟩

/-- All components in the order of their imports. -/
def rankedPages (pages : List Page) : List RankedComponent :=
  (pages.filter (·.role = .route)).map RankedComponent.ofPage ++
    [⟨1, 0, Assembly.rootIndexComponent⟩, ⟨2, 0, Assembly.fallbackComponent⟩]

variable {pages : List Page} {site : Site} {guards : GuardRegistry} {rules : List RedirectRule}

/-- The route of a directory shows the component of the page of the directory. -/
theorem ofLabel?_label (h : Site.ofPages pages = .ok site) (d : List Segment) :
    RankedComponent.ofLabel? (site.label guards d) =
      (site.pageAt? d).map RankedComponent.ofPage := by
  unfold RankedComponent.ofLabel? Site.label
  cases hat : site.pageAt? d with
  | none => rfl
  | some page =>
    obtain ⟨-, -, -, hplace⟩ := Site.of_pageAt?_eq_some h hat
    simp [hplace, RankedComponent.ofPage, importRank]

theorem labels_ranked_perm (h : site.IsSiteOf pages) (hnodup : pages.Nodup) :
    ((Assembly.tree pages site guards rules).labels.filterMap RankedComponent.ofLabel?).Perm
      (rankedPages pages) := by
  have hdirectories : (site.directories.filterMap fun d =>
      RankedComponent.ofLabel? (site.label guards d)).Perm
        ((pages.filter (·.role = .route)).map RankedComponent.ofPage) := by
    simp only [ofLabel?_label h.filled]
    rw [← List.map_filterMap]
    exact (h.filterMap_pageAt?_perm hnodup).map _
  apply (Assembly.filterMap_labels_tree_perm (Site.isClosed_of_ofPages h.filled) rfl
    fun _ _ => rfl).trans
  rw [Assembly.rootIndex, Assembly.rootComponent_eq h.parsed, rankedPages]
  show (⟨1, 0, Assembly.rootIndexComponent⟩ :: (_ ++ [⟨2, 0, Assembly.fallbackComponent⟩] :
    List RankedComponent)).Perm _
  exact .trans (.cons _ (hdirectories.append_right _)) List.perm_middle.symm

/-- Pages come by their places, and before the page root and unknown addresses. -/
theorem pairwise_rankedPages (hplaces : pages.Pairwise fun p q => p.place < q.place) :
    (rankedPages pages).Pairwise fun a b => a.mayPrecede b = true ∧ ¬b.mayPrecede a = true := by
  have hbefore : ∀ {a b : RankedComponent},
      (a.rank < b.rank ∨ (a.rank = b.rank ∧ a.orderKey < b.orderKey)) →
        a.mayPrecede b = true ∧ ¬b.mayPrecede a = true := by
    intro a b hlt
    simp only [RankedComponent.mayPrecede, Bool.or_eq_true, Bool.and_eq_true, decide_eq_true_eq,
      beq_iff_eq]
    omega
  refine List.pairwise_append.2 ⟨?_, ?_, ?_⟩
  · refine List.pairwise_map.2 ((hplaces.sublist List.filter_sublist).imp fun hlt => ?_)
    exact hbefore (Or.inr ⟨rfl, hlt⟩)
  · exact List.pairwise_pair.2 (hbefore (Or.inl Nat.one_lt_two))
  · intro a ha b hb
    obtain ⟨page, -, rfl⟩ := List.mem_map.1 ha
    refine hbefore (Or.inl ?_)
    show 0 < b.rank
    rcases List.mem_cons.1 hb with rfl | hlast
    · exact Nat.one_pos
    · rw [List.mem_singleton.1 hlast]
      exact Nat.two_pos

end Emission

instance (pages : List Page) : Decidable (Page.TakesRootName pages) :=
  inferInstanceAs (Decidable (∃ page ∈ pages, page.role = .route ∧ _))

namespace CompiledRoutes.Accepted

variable {classesOf : ClassReader} {input : CompileInput} {compiled : CompiledRoutes}
  {registry : GuardRegistry} {site : Site}

theorem pairwise_place (h : compiled.Accepted classesOf input registry site) :
    compiled.pages.Pairwise fun p q => p.place < q.place := by
  have hindexes : (compiled.pages.map (·.discoveryIndex)).Pairwise (· < ·) := by
    rw [CompileInput.discoveryIndexes_of_parsePages h.parsed]
    exact List.pairwise_lt_range
  exact (List.pairwise_map.1 hindexes).imp Nat.succ_lt_succ

theorem rankedComponents_eq (h : compiled.Accepted classesOf input registry site) :
    Emission.rankedComponents compiled.tree = Emission.rankedPages compiled.pages := by
  apply mergeSort_eq_of_perm Emission.mayPrecede_trans Emission.mayPrecede_total
    (Emission.pairwise_rankedPages h.pairwise_place)
  rw [h.tree_eq]
  exact ((RouteTree.labels_order_perm _).filterMap _).trans
    (Emission.labels_ranked_perm h.isSiteOf (List.Nodup.of_map _ h.distinct))

/-- The components are imported in the order of their pages; that of the page root follows, unless
a page takes its name, and that of unknown addresses comes last. -/
theorem importedComponents_eq (h : compiled.Accepted classesOf input registry site) :
    Emission.importedComponents compiled.tree =
      (compiled.pages.filter (·.role = .route)).map Page.componentRef ++
        ((if Page.TakesRootName compiled.pages then [] else [Assembly.rootIndexComponent]) ++
          [Assembly.fallbackComponent]) := by
  have hnodup : ((compiled.pages.filter (·.role = .route)).map Page.componentRef).map
      (·.identifier) |>.Nodup := by
    rw [List.map_map]
    exact h.distinct.sublist (List.filter_sublist.map _)
  have hroot : Assembly.rootIndexComponent.identifier ∈
      ((compiled.pages.filter (·.role = .route)).map Page.componentRef).map (·.identifier) ↔
        Page.TakesRootName compiled.pages := by
    simp [Page.TakesRootName, and_assoc, Assembly.rootIndexComponent, Page.componentRef]
  have hfallback : Assembly.fallbackComponent.identifier ∉
      ((compiled.pages.filter (·.role = .route)).map Page.componentRef).map (·.identifier) := by
    rw [List.map_map]
    intro hmem
    obtain ⟨page, hpage, hname⟩ := List.mem_map.1 hmem
    obtain ⟨hmem, hrole⟩ := List.mem_filter.1 hpage
    exact (h.isParsed hmem).identifier_ne_notFound (of_decide_eq_true hrole) hname
  rw [Emission.importedComponents, h.rankedComponents_eq, Emission.rankedPages, List.map_append,
    List.map_map]
  show ((compiled.pages.filter (·.role = .route)).map Page.componentRef ++
    [Assembly.rootIndexComponent, Assembly.fallbackComponent]).eraseDupsBy _ = _
  rw [eraseDupsBy_append hnodup]
  congr 1
  by_cases htakes : Page.TakesRootName compiled.pages
  · have hlate : ¬Assembly.rootIndexComponent.identifier ∉
        ((compiled.pages.filter (·.role = .route)).map Page.componentRef).map (·.identifier) :=
      not_not.2 (hroot.2 htakes)
    rw [List.filter_cons_of_neg (by rwa [decide_eq_true_eq]),
      List.filter_cons_of_pos (by rwa [decide_eq_true_eq]), List.filter_nil, if_pos htakes]
    exact eraseDupsBy_eq_self (List.nodup_singleton _)
  · have hearly := mt hroot.1 htakes
    rw [List.filter_cons_of_pos (by rwa [decide_eq_true_eq]),
      List.filter_cons_of_pos (by rwa [decide_eq_true_eq]), List.filter_nil, if_neg htakes]
    exact eraseDupsBy_eq_self (by decide)

/-- All imports: first those of components, then the guards whose directories have routes. -/
theorem imports_eq (h : compiled.Accepted classesOf input registry site) :
    compiled.emission.imports =
      ((compiled.pages.filter (·.role = .route)).map Page.componentRef ++
        ((if Page.TakesRootName compiled.pages then [] else [Assembly.rootIndexComponent]) ++
          [Assembly.fallbackComponent])).map Emission.ofComponent ++
      ((registry.guards.filter fun guard => (Assembly.origins site).contains guard.directory).map
        Guard.attached).map Emission.ofGuard := by
  rw [h.emission_eq, Emission.ofTree, h.importedComponents_eq, h.importedGuards_eq]

end CompiledRoutes.Accepted

end PageRoutes
