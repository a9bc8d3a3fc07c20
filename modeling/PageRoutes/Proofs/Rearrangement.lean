import PageRoutes.Proofs.ImportLists
import PageRoutes.Proofs.StrictOrder
import Mathlib.Data.List.Perm.Basic

/-!
# Pages in another order

Pages that are discovered in another order differ in their places only.  They lead to the same
directories and have the same components, so their trees have the same routes; what may differ is
the order of siblings and the places that the routes take.
-/

namespace PageRoutes

/-! ## Rearranged pages -/

namespace Page

/-- The page without its place. -/
def unplaced (page : Page) : Page :=
  { page with discoveryIndex := 0 }

/-- The same pages at other places. -/
def Rearranged (pages others : List Page) : Prop :=
  (pages.map unplaced).Perm (others.map unplaced)

variable {pages others : List Page} {page : Page}

theorem Rearranged.symm (h : Rearranged pages others) : Rearranged others pages :=
  List.Perm.symm h

theorem Rearranged.exists_unplaced_eq (h : Rearranged pages others) (hpage : page ∈ pages) :
    ∃ other ∈ others, other.unplaced = page.unplaced :=
  List.mem_map.1 (h.mem_iff.1 (List.mem_map_of_mem hpage))

/-- Whether there is a page of some kind does not depend on the order, if the kind does not depend
on the place. -/
theorem Rearranged.exists_iff (h : Rearranged pages others) {P : Page → Prop}
    (hP : ∀ page, P page.unplaced ↔ P page) :
    (∃ page ∈ pages, P page) ↔ ∃ page ∈ others, P page := by
  have hforward : ∀ {ps qs : List Page}, Rearranged ps qs → (∃ page ∈ ps, P page) →
      ∃ page ∈ qs, P page := by
    rintro ps qs hpq ⟨page, hpage, hkind⟩
    obtain ⟨other, hother, heq⟩ := hpq.exists_unplaced_eq hpage
    exact ⟨other, hother, (hP other).1 (heq ▸ (hP page).2 hkind)⟩
  exact ⟨hforward h, hforward h.symm⟩

/-- What the pages with routes have apart from their places is only listed in another order. -/
theorem Rearranged.map_routed_perm {α : Type} (h : Rearranged pages others) {f : Page → α}
    (hf : ∀ page, f page.unplaced = f page) :
    ((pages.filter (·.role = .route)).map f).Perm ((others.filter (·.role = .route)).map f) :=
  map_filter_perm h (fun _ => rfl) hf

end Page

/-! ## Alike trees -/

/-- Labels that differ in their places at most. -/
def RouteLabel.Alike (a b : RouteLabel) : Prop :=
  { a with orderKey := 0 } = { b with orderKey := 0 }

/-- Trees that differ in the order of siblings and in their places at most. -/
inductive RouteTree.Alike : RouteTree → RouteTree → Prop where
  | node {a b : RouteLabel} {cs ds es : List RouteTree} (label : a.Alike b) (perm : cs.Perm ds)
      (each : List.Forall₂ RouteTree.Alike ds es) : RouteTree.Alike (.node a cs) (.node b es)

namespace RouteTree

theorem alike_leaf (label : RouteLabel) : (leaf label).Alike (leaf label) :=
  .node rfl (List.Perm.refl _) List.Forall₂.nil

theorem alike_of_children {s t : RouteTree} {ds : List RouteTree} (hlabel : s.label.Alike t.label)
    (hperm : s.children.Perm ds) (heach : List.Forall₂ Alike ds t.children) : s.Alike t := by
  cases s
  cases t
  exact .node hlabel hperm heach

end RouteTree

/-! ## Rearranged sites -/

namespace Site

variable {pages others : List Page} {site other : Site} {guards : GuardRegistry}
  {d : List Segment}

section Rearranged

variable (h : Page.Rearranged pages others) (hsite : site.IsSiteOf pages)
  (hother : other.IsSiteOf others)
include h hsite hother

/-- The directories to which pages lead do not depend on the order of the pages. -/
theorem mem_directories_iff_of_rearranged : d ∈ site.directories ↔ d ∈ other.directories := by
  rw [mem_directories_iff hsite.filled, mem_directories_iff hother.filled]
  exact h.exists_iff fun _ => Iff.rfl

theorem childrenOf_perm (p : List Segment) : (site.childrenOf p).Perm (other.childrenOf p) := by
  have hclosed := isClosed_of_ofPages hsite.filled
  have hclosed' := isClosed_of_ofPages hother.filled
  apply (List.perm_ext_iff_of_nodup hclosed.nodup_childrenOf hclosed'.nodup_childrenOf).2
  intro d
  rw [hclosed.mem_childrenOf, hclosed'.mem_childrenOf,
    mem_directories_iff_of_rearranged h hsite hother]

/-- The page of a directory is the same up to its place. -/
theorem map_unplaced_pageAt? (d : List Segment) :
    (site.pageAt? d).map Page.unplaced = (other.pageAt? d).map Page.unplaced := by
  apply Option.ext
  intro page
  rw [Option.map_eq_some_iff, Option.map_eq_some_iff]
  simp only [hsite.pageAt?_eq_some_iff, hother.pageAt?_eq_some_iff, and_assoc]
  exact h.exists_iff (P := fun p => p.role = .route ∧ p.segments = d ∧ p.unplaced = page)
    fun _ => Iff.rfl

/-- The labels of a directory are alike. -/
theorem alike_label (d : List Segment) : (site.label guards d).Alike (other.label guards d) := by
  have hsame := map_unplaced_pageAt? h hsite hother d
  have hkind : (site.pageAt? d).isSome = (other.pageAt? d).isSome := by
    rw [← Option.isSome_map (f := Page.unplaced), hsame, Option.isSome_map]
  have hcomponent : (site.pageAt? d).map Page.componentRef =
      (other.pageAt? d).map Page.componentRef := by
    have hunplaced : Page.componentRef = Page.componentRef ∘ Page.unplaced := rfl
    rw [hunplaced, ← Option.map_map, hsame, Option.map_map]
  unfold RouteLabel.Alike label
  rw [hkind, hcomponent]

/-- What hangs below a directory is alike, up to the order of siblings. -/
theorem alike_branchesBelow (guards : GuardRegistry) (p : List Segment) :
    ∃ ds, (site.branchesBelow guards (site.bySortKey guards) p).Perm ds ∧
      List.Forall₂ RouteTree.Alike ds
        (other.branchesBelow guards (other.bySortKey guards) p) := by
  induction p using below_induction site with
  | step p ih =>
    -- the children are the same, each set of siblings in its own arrangement
    have hsiblings := (((site.bySortKey guards).perm _).trans
      (childrenOf_perm h hsite hother p)).trans ((other.bySortKey guards).perm _).symm
    rw [branchesBelow_eq, branchesBelow_eq]
    refine ⟨_, hsiblings.map _, ?_⟩
    rw [List.forall₂_map_left_iff, List.forall₂_map_right_iff, List.forall₂_same]
    intro d hd
    have hd' := ((site.bySortKey guards).perm _).mem_iff.1 (hsiblings.mem_iff.2 hd)
    obtain ⟨ds, hperm, heach⟩ := ih d hd'
    exact .node (alike_label h hsite hother d) hperm heach

end Rearranged

end Site

/-! ## Rearranged compilations -/

namespace CompiledRoutes.Accepted

variable {classesOf : ClassReader} {input input' : CompileInput} {compiled other : CompiledRoutes}
  {registry : GuardRegistry} {site site' : Site}

/-- Compilations of rearranged pages yield trees that are alike. -/
theorem alike_tree (h : compiled.Accepted classesOf input registry site)
    (h' : other.Accepted classesOf input' registry site')
    (hpages : Page.Rearranged compiled.pages other.pages)
    (hrules : input.redirects = input'.redirects) : compiled.tree.Alike other.tree := by
  obtain ⟨ds, hperm, heach⟩ :=
    Site.alike_branchesBelow hpages h.isSiteOf h'.isSiteOf registry []
  have hindex : Assembly.rootIndex compiled.pages = Assembly.rootIndex other.pages := by
    unfold Assembly.rootIndex
    rw [Assembly.rootComponent_eq h.isSiteOf.parsed, Assembly.rootComponent_eq h'.isSiteOf.parsed]
  have hgroup : (Assembly.pageGroup compiled.pages site registry (site.bySortKey registry)).Alike
      (Assembly.pageGroup other.pages site' registry (site'.bySortKey registry)) := by
    refine .node rfl (hperm.cons _) (.cons ?_ heach)
    rw [hindex]
    exact RouteTree.alike_leaf _
  have hredirections : List.Forall₂ RouteTree.Alike (Assembly.redirections input.redirects)
      (Assembly.redirections input.redirects) := by
    refine List.forall₂_same.2 fun route hroute => ?_
    obtain ⟨⟨rule, index⟩, -, rfl⟩ := List.mem_map.1 hroute
    exact RouteTree.alike_leaf _
  rw [h.tree_eq, h'.tree_eq, ← hrules]
  apply RouteTree.alike_of_children _ (List.Perm.refl _)
  · rw [(Assembly.children_order_tree _ _ _ _).1, (Assembly.children_order_tree _ _ _ _).1]
    exact List.rel_append hredirections (.cons hgroup (.cons (RouteTree.alike_leaf _) .nil))
  · rw [RouteTree.label_order, RouteTree.label_order]
    rfl

/-- Compilations of rearranged pages import the same names. -/
theorem imports_perm (h : compiled.Accepted classesOf input registry site)
    (h' : other.Accepted classesOf input' registry site')
    (hpages : Page.Rearranged compiled.pages other.pages) :
    compiled.emission.imports.Perm other.emission.imports := by
  have htakes : Page.TakesRootName compiled.pages ↔ Page.TakesRootName other.pages :=
    hpages.exists_iff fun _ => Iff.rfl
  have horigins : ∀ origin, (Assembly.origins site).contains origin =
      (Assembly.origins site').contains origin := by
    intro origin
    rw [Bool.eq_iff_iff, List.contains_iff_mem, List.contains_iff_mem, Assembly.origins,
      Assembly.origins, List.mem_cons, List.mem_cons, List.mem_map, List.mem_map]
    simp only [Site.mem_directories_iff_of_rearranged hpages h.isSiteOf h'.isSiteOf]
  rw [h.imports_eq, h'.imports_eq]
  simp only [htakes, horigins]
  have hcomponents := hpages.map_routed_perm (f := Page.componentRef) fun _ => rfl
  exact ((hcomponents.append_right _).map _).append_right _

end CompiledRoutes.Accepted

end PageRoutes
