import PageRoutes.Proofs.PageTree

/-!
# What a path string tells of its segments

Siblings are ordered by what their paths look like, while segments say themselves whether they are
parameters.  A path is split into the fragments of the segments it was joined from, so it looks
parameterized where some segment contributes a fragment with a colon in front.  Parameters do, and
so do directories whose names begin with a colon; without the latter, a route has the specificity of
the segments by which its directory goes on from the directory of the route around it.
-/

namespace PageRoutes

open Placement

namespace Segment

variable {s : Segment}

/-- Whether the fragment of a segment looks like a parameter in a path. -/
def looksParameterized (s : Segment) : Bool :=
  s.fragment.toList.head? == some ':'

theorem looksParameterized_eq (s : Segment) :
    s.looksParameterized = (s.isParameter || s.name.toList.head? == some ':') := by
  cases s with
  | parameter name => simp [looksParameterized, fragment, isParameter]
  | literal name => rfl
  | nestedScope name => rfl

/-- A segment looks like what it is unless its name begins with a colon. -/
theorem looksParameterized_eq_isParameter (h : s.name.toList.head? ≠ some ':') :
    s.looksParameterized = s.isParameter := by
  rw [looksParameterized_eq, beq_eq_false_iff_ne.2 h, Bool.or_false]

end Segment

namespace RouteLabel

/-! ## Labels -/

section Path

variable {label : RouteLabel} {t : List Segment} (hpath : label.pathSegment = Segment.pattern t)
  (hne : t ≠ []) (hread : ∀ s ∈ t, s.IsRead)
include hpath hne hread

/-- A path has one part for each segment it was joined from. -/
theorem pathParts_eq_map : label.pathParts = t.map (·.fragment.toList) := by
  rw [pathParts, hpath, Segment.splitOn_pattern hread hne]

theorem isParameterized_eq_any : label.isParameterized = t.any (·.looksParameterized) := by
  rw [isParameterized, pathParts_eq_map hpath hne hread, List.any_map]
  rfl

theorem staticLength_eq_length_takeWhile :
    label.staticLength = (t.takeWhile (!·.looksParameterized)).length := by
  -- no segment contributes nothing, so the parts that are counted are all parts
  have hparts : (t.map (·.fragment.toList)).filter (!·.isEmpty) = t.map (·.fragment.toList) := by
    rw [List.filter_eq_self]
    intro part hpart
    obtain ⟨s, hs, rfl⟩ := List.mem_map.1 hpart
    simpa using (hread s hs).fragment.1
  rw [staticLength, pathParts_eq_map hpath hne hread, hparts, List.takeWhile_map, List.length_map]
  rfl

end Path

/-- A label whose path tells what the segments tell from which it was joined. -/
structure HasSpecificityOf (label : RouteLabel) (t : List Segment) : Prop where
  /-- The path looks parameterized exactly if some segment is a parameter. -/
  isParameterized_iff : label.isParameterized = true ↔ ∃ s ∈ t, s.isParameter = true
  /-- As many parts of the path are fixed as segments stand in front of the first parameter. -/
  staticLength_eq : label.staticLength = (t.takeWhile (!·.isParameter)).length
  /-- So siblings are compared by their segments. -/
  specificity_eq : label.specificity =
    if t.any (·.isParameter) then .dynamic (t.takeWhile (!·.isParameter)).length else .static

/-- Unless some name begins with a colon, the path of a route tells what its segments tell. -/
theorem hasSpecificityOf {label : RouteLabel} {t : List Segment}
    (hclass : label.kind.siblingClass = .route) (hpath : label.pathSegment = Segment.pattern t)
    (hne : t ≠ []) (hread : ∀ s ∈ t, s.IsRead)
    (hnames : ∀ s ∈ t, s.name.toList.head? ≠ some ':') : label.HasSpecificityOf t := by
  have hflags : t.map (·.looksParameterized) = t.map (·.isParameter) :=
    List.map_congr_left fun s hs => Segment.looksParameterized_eq_isParameter (hnames s hs)
  have hany : label.isParameterized = t.any (·.isParameter) := by
    rw [isParameterized_eq_any hpath hne hread]
    simpa [List.any_map] using congrArg (List.any · id) hflags
  have hlength : label.staticLength = (t.takeWhile (!·.isParameter)).length := by
    rw [staticLength_eq_length_takeWhile hpath hne hread]
    simpa [List.takeWhile_map, Function.comp_def] using
      congrArg (fun flags => (flags.takeWhile (!·)).length) hflags
  refine ⟨?_, hlength, ?_⟩
  · rw [hany, List.any_eq_true]
  · rw [specificity, hany, hlength]
    simp only [hclass, true_and]

end RouteLabel

/-! ## Routes -/

/-- The route directly around the last one of a trail that begins below a group. -/
def Trail.around (trail : Trail) (group : RouteTree) : RouteTree :=
  trail.above.getLast?.getD group

/-- A group of routes in which every route but that of the page root has the specificity of the
segments by which its directory goes on from the directory of the route around it. -/
def RouteTree.ReadsSegments (group : RouteTree) : Prop :=
  ∀ trail ∈ group.trailsBelow, trail.label.kind ≠ .rootIndex → ∃ d,
    trail.label.origin.bind Segment.readDirectory? = some d ∧
      (trail.around group).label.origin.bind Segment.readDirectory? = some (parent d) ∧
        trail.label.HasSpecificityOf (d.drop (parent d).length)

namespace Site

variable {site : Site} {d : List Segment}

theorem hasSpecificityOf_label (guards : GuardRegistry) (hne : d ≠ []) (hread : ∀ s ∈ d, s.IsRead)
    (hnames : ∀ s ∈ d, s.name.toList.head? ≠ some ':') :
    (site.label guards d).HasSpecificityOf (d.drop (parent d).length) :=
  RouteLabel.hasSpecificityOf siblingClass_label rfl (drop_parent_ne_nil hne)
    (fun s hs => hread s (List.mem_of_mem_drop hs)) fun s hs => hnames s (List.mem_of_mem_drop hs)

end Site

namespace Assembly

variable {pages : List Page} {site : Site} {guards : GuardRegistry} {rules : List RedirectRule}
  {arr : Site.Arrangement}

/-- Around the route of a directory is that of its parent, or the group if its parent is the
root. -/
theorem origin_around_trailOf (pages : List Page) (site : Site) (guards : GuardRegistry)
    (arr : Site.Arrangement) (d : List Segment) :
    ((site.trailOf guards arr d).around (pageGroup pages site guards arr)).label.origin =
      some (Segment.directory (parent d)) := by
  rw [Trail.around]
  by_cases hp : parent d = []
  · rw [Site.trailOf, hp, lineage_nil]
    rfl
  · rw [Site.above_trailOf hp, List.getLast?_concat]
    rfl

theorem readsSegments_pageGroup (h : Site.ofPages pages = .ok site)
    (hpages : ∀ page ∈ pages, page.IsParsed)
    (hnames : ∀ page ∈ pages, ∀ s ∈ page.segments, s.name.toList.head? ≠ some ':') :
    (pageGroup pages site guards arr).ReadsSegments := by
  intro trail htrail hkind
  have hclosed := Site.isClosed_of_ofPages h
  rcases exists_trailOf_eq hclosed htrail with rfl | ⟨d, hd, rfl⟩
  · exact absurd rfl hkind
  have hread := Site.isRead_of_mem_directories hpages h hd
  have hparent : ∀ s ∈ parent d, s.IsRead := fun s hs =>
    hread s ((parent_isPrefix_self d).subset hs)
  refine ⟨d, ?_, ?_, ?_⟩
  · exact Segment.readDirectory?_directory hread
  · rw [origin_around_trailOf]
    exact Segment.readDirectory?_directory hparent
  · exact Site.hasSpecificityOf_label guards (hclosed.ne_nil d hd) hread
      (Site.forall_mem_of_mem_directories h hnames hd)

/-- Whatever the pages, guards and redirections are, if no name of a directory begins with a colon,
the ordering reads off the paths of a tree what the segments of its directories are, both in the
tree that is built and in the tree after ordering. -/
theorem readsSegments_of_build {built : Assembled} (hpages : ∀ page ∈ pages, page.IsParsed)
    (hnames : ∀ page ∈ pages, ∀ s ∈ page.segments, s.name.toList.head? ≠ some ':')
    (h : build pages guards rules = .ok built) :
    (∃ group, built.tree.rootGroup? = some group ∧ group.ReadsSegments) ∧
      ∃ group, built.tree.order.rootGroup? = some group ∧ group.ReadsSegments := by
  obtain ⟨site, hsite, rfl⟩ := build_eq_ok_iff.1 h
  exact ⟨⟨_, rootGroup?_tree, readsSegments_pageGroup hsite hpages hnames⟩,
    _, rootGroup?_order_tree, readsSegments_pageGroup hsite hpages hnames⟩

/-- A scope that is named like a parameter, with a parameter between fixed parts below it. -/
theorem readsSegments_of_build_scope :
    ∃ built, build [Page.ofSegments "shop/#_items/all/_id/edit/index.html"
        [.literal "shop", .nestedScope "_items", .literal "all", .parameter "id",
          .literal "edit"] 0] ⟨[]⟩ [] = .ok built ∧
      (built.tree.labels.filterMap fun label => label.origin.map (·, label.specificity)) =
        [("", .static), ("shop", .static), ("shop/#_items", .static),
          ("shop/#_items/all/_id/edit", .dynamic 1)] ∧
      (∃ group, built.tree.rootGroup? = some group ∧ group.ReadsSegments) ∧
        ∃ group, built.tree.order.rootGroup? = some group ∧ group.ReadsSegments := by
  let page := Page.ofSegments "shop/#_items/all/_id/edit/index.html"
    [.literal "shop", .nestedScope "_items", .literal "all", .parameter "id", .literal "edit"] 0
  have hspecificities : (build [page] ⟨[]⟩ []).map (fun built =>
      built.tree.labels.filterMap fun label => label.origin.map (·, label.specificity)) =
        .ok [("", .static), ("shop", .static), ("shop/#_items", .static),
          ("shop/#_items/all/_id/edit", .dynamic 1)] := by
    decide +kernel
  obtain ⟨built, hbuilt, hlabels⟩ := map_eq_ok_iff.1 hspecificities
  have hparsed : page.IsParsed := ⟨"shop/#_items/all/_id/edit/index.html", by decide +kernel⟩
  have hnames : ∀ s ∈ page.segments, s.name.toList.head? ≠ some ':' := by decide
  exact ⟨built, hbuilt, hlabels, readsSegments_of_build (List.forall_mem_singleton.2 hparsed)
    (List.forall_mem_singleton.2 hnames) hbuilt⟩

end Assembly

end PageRoutes
