import PageRoutes.Proofs.Accepted
import PageRoutes.Proofs.KeyedLists
import PageRoutes.Proofs.LoadedGuards

/-!
# Which guards are attached

A route has the guard of the directory from which it comes, and no two routes come from one
directory.  So the guards of the tree are those of the registry whose directories have a route,
each of them on one route.  They are imported in the order of their files, and the others are those
to be warned about.
-/

namespace PageRoutes

/-! ## Routes and their guards -/

namespace RouteTree

/-- A tree whose routes have the guards of the directories from which they come.  The directories
are listed, each once. -/
structure IsGuardedBy (config : RouteTree) (guards : GuardRegistry) (origins : List String) :
    Prop where
  origins_perm : (config.labels.filterMap (·.origin)).Perm origins
  nodup : origins.Nodup
  guard_eq : ∀ label ∈ config.labels,
    label.guard = label.origin.bind fun origin => (guards.get? origin).map Guard.attached

namespace IsGuardedBy

variable {config : RouteTree} {guards : GuardRegistry} {origins : List String} {label : RouteLabel}
  {guard : Guard} {attached : AttachedGuard} {origin : String}

/-- Putting the same routes into another tree does not move guards. -/
theorem of_perm {tree : RouteTree} (h : config.IsGuardedBy guards origins)
    (hperm : tree.labels.Perm config.labels) : tree.IsGuardedBy guards origins where
  origins_perm := (hperm.filterMap _).trans h.origins_perm
  nodup := h.nodup
  guard_eq label hlabel := h.guard_eq label (hperm.mem_iff.1 hlabel)

/-- From every directory with a route comes one route. -/
theorem filter_origin (h : config.IsGuardedBy guards origins) (horigin : origin ∈ origins) :
    ∃ label, config.labels.filter (fun l => l.origin = some origin) = [label] := by
  obtain ⟨label, hlabel, hown⟩ := List.mem_filterMap.1 (h.origins_perm.mem_iff.2 horigin)
  exact ⟨label, filter_eq_singleton_of_nodup_keys (h.origins_perm.nodup_iff.2 h.nodup) hlabel hown⟩

theorem mem_origins_iff (h : config.IsGuardedBy guards origins) :
    origin ∈ origins ↔ ∃ label ∈ config.labels, label.origin = some origin := by
  rw [← h.origins_perm.mem_iff, List.mem_filterMap]

variable (hapart : guards.guards.Pairwise Guard.Apart)
include hapart

/-- The guard of a route is one of the registry, for the directory of the route. -/
theorem guard_eq_some_iff (h : config.IsGuardedBy guards origins) (hlabel : label ∈ config.labels) :
    label.guard = some attached ↔
      ∃ guard ∈ guards.guards, attached = guard.attached ∧ label.origin = some guard.directory := by
  rw [h.guard_eq label hlabel, Option.bind_eq_some_iff]
  constructor
  · rintro ⟨origin, horigin, hguard⟩
    obtain ⟨guard, hget, rfl⟩ := Option.map_eq_some_iff.1 hguard
    obtain ⟨hmem, rfl⟩ := (GuardRegistry.get?_eq_some_iff hapart).1 hget
    exact ⟨guard, hmem, rfl, horigin⟩
  · rintro ⟨guard, hmem, rfl, horigin⟩
    refine ⟨guard.directory, horigin, ?_⟩
    rw [(GuardRegistry.get?_eq_some_iff hapart).2 ⟨hmem, rfl⟩]
    rfl

/-- A route has a guard of the class exactly if it comes from the directory of the guard. -/
theorem hasClass_iff (h : config.IsGuardedBy guards origins) (hlabel : label ∈ config.labels)
    (hguard : guard ∈ guards.guards) :
    (∃ attached, label.guard = some attached ∧ attached.className = guard.className) ↔
      label.origin = some guard.directory := by
  constructor
  · rintro ⟨attached, hattached, hclass⟩
    obtain ⟨other, hother, rfl, horigin⟩ := (h.guard_eq_some_iff hapart hlabel).1 hattached
    obtain rfl := GuardRegistry.eq_of_className_eq hapart hother hguard hclass
    exact horigin
  · intro horigin
    exact ⟨guard.attached, (h.guard_eq_some_iff hapart hlabel).2 ⟨guard, hguard, rfl, horigin⟩, rfl⟩

/-- The guards of the tree are those of the registry whose directories have a route. -/
theorem attached_perm (h : config.IsGuardedBy guards origins) :
    (config.labels.filterMap (·.guard)).Perm
      ((guards.guards.filter fun guard => origins.contains guard.directory).map
        Guard.attached) := by
  have hattached : config.labels.filterMap (·.guard) =
      ((config.labels.filterMap (·.origin)).filterMap guards.get?).map Guard.attached := by
    rw [List.map_filterMap, List.filterMap_filterMap]
    exact List.filterMap_congr h.guard_eq
  rw [hattached]
  refine List.Perm.map _ (((h.origins_perm.filterMap _)).trans ?_)
  refine (List.perm_ext_iff_of_nodup ?_ ((GuardRegistry.nodup_guards hapart).filter _)).2 ?_
  · refine h.nodup.filterMap fun a b guard ha hb => ?_
    rw [← ((GuardRegistry.get?_eq_some_iff hapart).1 ha).2,
      ← ((GuardRegistry.get?_eq_some_iff hapart).1 hb).2]
  · intro guard
    rw [List.mem_filterMap, List.mem_filter, List.contains_iff_mem]
    simp only [GuardRegistry.get?_eq_some_iff hapart]
    constructor
    · rintro ⟨_, horigin, hguard, rfl⟩
      exact ⟨hguard, horigin⟩
    · rintro ⟨hguard, horigin⟩
      exact ⟨_, horigin, hguard, rfl⟩

/-- The guards of the tree are imported in the order of their files, each once. -/
theorem importedGuards_eq (h : config.IsGuardedBy guards origins)
    (hindex : guards.guards.Pairwise fun a b => a.discoveryIndex < b.discoveryIndex) :
    Emission.importedGuards config =
      (guards.guards.filter fun guard => origins.contains guard.directory).map Guard.attached := by
  have hsublist := List.filter_sublist (p := fun guard => origins.contains guard.directory)
    (l := guards.guards)
  have hsorted : ((guards.guards.filter fun guard => origins.contains guard.directory).map
      Guard.attached).Pairwise fun a b => a.discoveryIndex < b.discoveryIndex :=
    List.pairwise_map.2 (hindex.sublist hsublist)
  have hclasses : (((guards.guards.filter fun guard => origins.contains guard.directory).map
      Guard.attached).map (·.className)).Nodup := by
    rw [List.map_map]
    exact (GuardRegistry.nodup_classNames hapart).sublist (hsublist.map _)
  rw [Emission.importedGuards,
    mergeSort_le_eq_of_perm AttachedGuard.discoveryIndex hsorted (h.attached_perm hapart),
    eraseDupsBy_eq_self hclasses]

end IsGuardedBy

end RouteTree

/-! ## The tree of a site -/

namespace Assembly

variable {pages : List Page} {site : Site} {guards : GuardRegistry} {rules : List RedirectRule}

/-- The directories from which routes come: the page root and the directories of the site. -/
def origins (site : Site) : List String :=
  "" :: site.directories.map Segment.directory

theorem nodup_origins (hpages : ∀ page ∈ pages, page.IsParsed) (h : Site.ofPages pages = .ok site) :
    (origins site).Nodup := by
  have hclosed := Site.isClosed_of_ofPages h
  refine List.nodup_cons.2 ⟨fun hmem => ?_, hclosed.nodup.map_on fun d hd e he heq => ?_⟩
  · obtain ⟨d, hd, hempty⟩ := List.mem_map.1 hmem
    exact Segment.directory_ne_empty (Site.isRead_of_mem_directories hpages h hd)
      (hclosed.ne_nil d hd) hempty
  · exact Segment.directory_injective (Site.isRead_of_mem_directories hpages h hd)
      (Site.isRead_of_mem_directories hpages h he) heq

theorem isGuardedBy_tree (hpages : ∀ page ∈ pages, page.IsParsed)
    (h : Site.ofPages pages = .ok site) :
    (tree pages site guards rules).IsGuardedBy guards (origins site) where
  origins_perm := by
    apply (filterMap_labels_tree_perm (Site.isClosed_of_ofPages h) rfl fun _ _ => rfl).trans
    -- of the routes outside the site only the group comes from a directory
    show ("" :: (site.directories.filterMap (some ∘ Segment.directory) ++ [])).Perm _
    rw [List.filterMap_eq_map, List.append_nil, origins]
  nodup := nodup_origins hpages h
  guard_eq label hlabel := by
    rcases (mem_labels_tree_iff (Site.isClosed_of_ofPages h)).1 hlabel with
      rfl | ⟨route, hroute, rfl⟩ | rfl | rfl | ⟨d, -, rfl⟩ | rfl
    · rfl
    · obtain ⟨⟨rule, index⟩, -, rfl⟩ := List.mem_map.1 hroute
      rfl
    · rfl
    · rfl
    · rfl
    · rfl

/-- Only the groups and the routes of pages come from directories. -/
theorem exists_origin_iff (h : site.IsClosed) {label : RouteLabel}
    (hlabel : label ∈ (tree pages site guards rules).labels) :
    (∃ origin, label.origin = some origin) ↔ label.kind = .group ∨ label.kind = .page := by
  have hneither : ∀ {l : RouteLabel} (kind : RouteKind), l.origin = none → l.kind = kind →
      ¬(kind = .group ∨ kind = .page) →
        ((∃ origin, l.origin = some origin) ↔ l.kind = .group ∨ l.kind = .page) := by
    rintro l _ horigin rfl hkind
    exact iff_of_false (by simp [horigin]) hkind
  rcases (mem_labels_tree_iff h).1 hlabel with
    rfl | ⟨route, hroute, rfl⟩ | rfl | rfl | ⟨d, -, rfl⟩ | rfl
  · exact hneither .config rfl rfl (by decide)
  · obtain ⟨⟨rule, index⟩, -, rfl⟩ := List.mem_map.1 hroute
    exact hneither .redirect rfl rfl (by decide)
  · exact iff_of_true ⟨_, rfl⟩ (Or.inl rfl)
  · exact hneither .rootIndex rfl rfl (by decide)
  · refine iff_of_true ⟨_, rfl⟩ ?_
    unfold Site.label
    by_cases hpage : (site.pageAt? d).isSome = true
    · exact Or.inr (if_pos hpage)
    · exact Or.inl (if_neg hpage)
  · exact hneither .fallback rfl rfl (by decide)

/-- To be warned about are the guards of the registry whose directories have no route. -/
theorem strayGuards_eq (site : Site) (guards : GuardRegistry) :
    strayGuards site guards =
      guards.guards.filter fun guard => !(origins site).contains guard.directory := by
  rw [strayGuards]
  apply List.filter_congr
  intro guard _
  rw [origins, List.contains_cons, Bool.not_or]
  rfl

end Assembly

/-! ## Compiled trees -/

namespace CompiledRoutes.Accepted

variable {classesOf : ClassReader} {input : CompileInput} {compiled : CompiledRoutes}
  {registry : GuardRegistry} {site : Site}

theorem pairwise_apart (h : compiled.Accepted classesOf input registry site) :
    registry.guards.Pairwise Guard.Apart :=
  (GuardRegistry.load_eq_ok_iff.1 h.loaded).2

theorem isGuardedBy (h : compiled.Accepted classesOf input registry site) :
    compiled.tree.IsGuardedBy registry (Assembly.origins site) := by
  rw [h.tree_eq]
  exact (Assembly.isGuardedBy_tree (fun _ => h.isParsed) h.filled).of_perm
    (RouteTree.labels_order_perm _)

theorem importedGuards_eq (h : compiled.Accepted classesOf input registry site) :
    Emission.importedGuards compiled.tree =
      (registry.guards.filter fun guard => (Assembly.origins site).contains guard.directory).map
        Guard.attached :=
  h.isGuardedBy.importedGuards_eq h.pairwise_apart
    (GuardRegistry.pairwise_discoveryIndex_of_load h.loaded)

theorem exists_origin_iff (h : compiled.Accepted classesOf input registry site) {label : RouteLabel}
    (hlabel : label ∈ compiled.tree.labels) :
    (∃ origin, label.origin = some origin) ↔ label.kind = .group ∨ label.kind = .page := by
  rw [h.tree_eq, (RouteTree.labels_order_perm _).mem_iff] at hlabel
  exact Assembly.exists_origin_iff (Site.isClosed_of_ofPages h.filled) hlabel

end CompiledRoutes.Accepted

end PageRoutes
