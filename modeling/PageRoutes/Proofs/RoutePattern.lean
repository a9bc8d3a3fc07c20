import PageRoutes.Proofs.PageTree

/-!
# Nesting keeps addresses

Every route below the group of page routes has the address pattern of its directory, however the
segments of the directory are spread over the routes above it.  Two different routes never have one
pattern, since no two directories of a site do.  Both hold as the tree is built and as it is
ordered.
-/

namespace PageRoutes

open Placement

/-- A group of routes in which every route has the pattern of its directory, and a pattern of its
own. -/
structure RouteTree.KeepsPatterns (group : RouteTree) : Prop where
  pattern_eq : ∀ trail ∈ group.trailsBelow, ∀ origin, trail.label.origin = some origin →
    ∃ d, Segment.readDirectory? origin = some d ∧ trail.pattern = Segment.pattern d
  nodup : ((group.trailsBelow.filter (·.label.origin.any (· ≠ ""))).map Trail.pattern).Nodup

namespace Assembly

variable {pages : List Page} {site : Site} {guards : GuardRegistry} {rules : List RedirectRule}
  {arr : Site.Arrangement}

/-- The group of page routes keeps patterns, in whatever order siblings are. -/
theorem keepsPatterns_pageGroup (h : Site.ofPages pages = .ok site)
    (hpages : ∀ page ∈ pages, page.IsParsed) :
    (pageGroup pages site guards arr).KeepsPatterns := by
  have hclosed := Site.isClosed_of_ofPages h
  have hpattern : ∀ d ∈ site.directories,
      (site.trailOf guards arr d).pattern = Segment.pattern d := fun d hd =>
    Site.pattern_trailOf (hclosed.ne_nil d hd)
  constructor
  · intro trail htrail origin horigin
    rcases exists_trailOf_eq hclosed htrail with rfl | ⟨d, hd, rfl⟩
    · cases horigin
    · obtain rfl : Segment.directory d = origin := Option.some.inj horigin
      have hread := Site.isRead_of_mem_directories hpages h hd
      exact ⟨d, Segment.readDirectory?_directory hread, hpattern d hd⟩
  · have hindex : ¬(⟨[], rootIndex pages⟩ : Trail).label.origin.any (· ≠ "") = true := by
      rintro ⟨⟩
    rw [trailsBelow_pageGroup hclosed, List.filter_cons, if_neg hindex]
    -- even without the filter no pattern is repeated
    refine List.Nodup.sublist (List.filter_sublist.map _) ?_
    have hmap : (site.descendants arr []).map (Trail.pattern ∘ site.trailOf guards arr) =
        (site.descendants arr []).map Segment.pattern :=
      List.map_congr_left fun d hd => hpattern d (hclosed.mem_descendants_nil.1 hd)
    rw [List.map_map, hmap]
    refine (hclosed.nodup_descendants []).map_on fun d hd e he => ?_
    exact Site.distinctPatterns_directories h d (hclosed.mem_descendants_nil.1 hd) e
      (hclosed.mem_descendants_nil.1 he)

/-- Whatever the pages, guards and redirections are, the tree that is built keeps patterns, and so
does the tree after ordering. -/
theorem keepsPatterns_of_build {built : Assembled} (hpages : ∀ page ∈ pages, page.IsParsed)
    (h : build pages guards rules = .ok built) :
    (∃ group, built.tree.rootGroup? = some group ∧ group.KeepsPatterns) ∧
      ∃ group, built.tree.order.rootGroup? = some group ∧ group.KeepsPatterns := by
  obtain ⟨site, hsite, rfl⟩ := build_eq_ok_iff.1 h
  exact ⟨⟨_, rootGroup?_tree, keepsPatterns_pageGroup hsite hpages⟩,
    _, rootGroup?_order_tree, keepsPatterns_pageGroup hsite hpages⟩

/-- A scope inside a flat path, with a flat path and a parameter below it. -/
theorem keepsPatterns_of_build_scope :
    ∃ built, build [Page.ofSegments "shop/#items/all/_id/index.html"
        [.literal "shop", .nestedScope "items", .literal "all", .parameter "id"] 0] ⟨[]⟩ [] =
          .ok built ∧
      ∃ group, built.tree.order.rootGroup? = some group ∧ group.KeepsPatterns := by
  obtain ⟨built, h⟩ := exists_eq_ok_of_isOk
    (x := build [Page.ofSegments "shop/#items/all/_id/index.html"
      [.literal "shop", .nestedScope "items", .literal "all", .parameter "id"] 0] ⟨[]⟩ [])
    (by decide +kernel)
  refine ⟨built, h, (keepsPatterns_of_build (fun page hpage => ?_) h).2⟩
  rw [List.mem_singleton.1 hpage]
  exact ⟨"shop/#items/all/_id/index.html", by decide +kernel⟩

end Assembly

end PageRoutes
