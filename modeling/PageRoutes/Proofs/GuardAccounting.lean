import PageRoutes.Proofs.AttachedGuards
import PageRoutes.Script.Module

/-!
# Every guard is attached or reported

The guards of a site fall into two parts.  Those whose directories have routes sit on one route
each, just as their files describe them.  The others leave no trace in the routes or in the routing
module, and are to be warned about.
-/

namespace PageRoutes

namespace CompiledRoutes

/-- The guard sits on the one route that comes from its directory, and on no other. -/
structure Attaches (compiled : CompiledRoutes) (guard : Guard) : Prop where
  /-- The directory is the page root or that of a route. -/
  directory : guard.directory = "" ∨
    ∃ d, Site.NeededBy compiled.pages d ∧ Segment.directory d = guard.directory
  route : ∃ label,
    compiled.tree.labels.filter (fun l => l.origin = some guard.directory) = [label] ∧
      compiled.tree.labels.filter (fun l => l.guard.any (·.className = guard.className)) =
        [label] ∧
      label.guard = some
        ⟨guard.className, guard.importPath, guard.capabilities, guard.discoveryIndex⟩ ∧
      (guard.directory = "" → compiled.tree.rootGroup?.map RouteTree.label = some label)
  not_stray : guard ∉ compiled.strayGuards

/-- The guard is nowhere but among those to be warned about, and there it is once. -/
structure Omits (compiled : CompiledRoutes) (guard : Guard) : Prop where
  no_origin : ∀ label ∈ compiled.tree.labels, label.origin ≠ some guard.directory
  no_route : ∀ label ∈ compiled.tree.labels, ∀ attached, label.guard = some attached →
    attached.className ≠ guard.className
  not_imported : ∀ entry ∈ compiled.emission.imports, entry.kind = .guard →
    entry.identifier ≠ guard.className
  not_provided : guard.className ∉ compiled.emission.providers
  stray_once : compiled.strayGuards.count guard = 1

/-- What becomes of the guards of a site. -/
structure AccountsForGuards (compiled : CompiledRoutes) : Prop where
  attaches_or_omits : ∀ guard ∈ compiled.guards,
    Xor (compiled.Attaches guard) (compiled.Omits guard)
  /-- Warnings come in the order of the guards. -/
  stray_sublist : compiled.strayGuards.Sublist compiled.guards
  /-- Every guard in the tree is one of the guards of the site. -/
  from_site : ∀ label ∈ compiled.tree.labels, ∀ attached, label.guard = some attached →
    ∃ guard ∈ compiled.guards, compiled.Attaches guard ∧ attached = guard.attached ∧
      label.origin = some guard.directory
  /-- Only groups and the routes of pages have guards. -/
  no_guard : ∀ label ∈ compiled.tree.labels,
    label.kind ∈ [RouteKind.config, .rootIndex, .redirect, .fallback] → label.guard = none

namespace Accepted

variable {classesOf : ClassReader} {input : CompileInput} {compiled : CompiledRoutes}
  {registry : GuardRegistry} {site : Site} {guard : Guard}

theorem strayGuards_eq (h : compiled.Accepted classesOf input registry site) :
    compiled.strayGuards =
      registry.guards.filter fun guard => !(Assembly.origins site).contains guard.directory := by
  rw [h.stray_eq, Assembly.strayGuards_eq]

/-- The group of page routes is the one route that comes from the page root. -/
theorem label_rootGroup? (h : compiled.Accepted classesOf input registry site) {label : RouteLabel}
    (honly : compiled.tree.labels.filter (fun l => l.origin = some "") = [label]) :
    compiled.tree.rootGroup?.map RouteTree.label = some label := by
  have hmem : Assembly.rootLabel registry ∈ compiled.tree.labels := by
    rw [h.tree_eq, (RouteTree.labels_order_perm _).mem_iff,
      Assembly.mem_labels_tree_iff (Site.isClosed_of_ofPages h.filled)]
    exact Or.inr (Or.inr (Or.inl rfl))
  have hroot : Assembly.rootLabel registry ∈
      compiled.tree.labels.filter (fun l => l.origin = some "") :=
    List.mem_filter.2 ⟨hmem, rfl⟩
  rw [honly, List.mem_singleton] at hroot
  rw [h.rootGroup?_eq, ← hroot]
  rfl

theorem attaches (h : compiled.Accepted classesOf input registry site)
    (hguard : guard ∈ registry.guards) (horigin : guard.directory ∈ Assembly.origins site) :
    compiled.Attaches guard where
  directory := by
    refine (List.mem_cons.1 horigin).imp_right fun hmem => ?_
    obtain ⟨d, hd, hspelled⟩ := List.mem_map.1 hmem
    exact ⟨d, (Site.mem_directories_iff_neededBy (fun _ => h.isParsed) h.filled).1 hd, hspelled⟩
  route := by
    obtain ⟨label, honly⟩ := h.isGuardedBy.filter_origin horigin
    have hown : label ∈ compiled.tree.labels.filter (fun l => l.origin = some guard.directory) :=
      honly ▸ List.mem_singleton_self label
    obtain ⟨hlabel, hlabel_origin⟩ := List.mem_filter.1 hown
    refine ⟨label, honly, ?_, ?_, fun hroot => h.label_rootGroup? (hroot ▸ honly)⟩
    · rw [← honly]
      apply List.filter_congr
      intro l hl
      rw [Bool.eq_iff_iff, decide_eq_true_eq,
        ← h.isGuardedBy.hasClass_iff h.pairwise_apart hl hguard]
      simp [Option.any_eq_true]
    · exact (h.isGuardedBy.guard_eq_some_iff h.pairwise_apart hlabel).2
        ⟨guard, hguard, rfl, of_decide_eq_true hlabel_origin⟩
  not_stray hstray := by
    rw [h.strayGuards_eq, List.mem_filter] at hstray
    simp [horigin] at hstray

/-- No guard that is imported has the class of a guard whose directory has no route. -/
theorem className_ne_of_imported (h : compiled.Accepted classesOf input registry site)
    (hguard : guard ∈ registry.guards) (horigin : guard.directory ∉ Assembly.origins site)
    {attached : AttachedGuard} (hattached : attached ∈ Emission.importedGuards compiled.tree) :
    attached.className ≠ guard.className := by
  intro hclass
  rw [h.importedGuards_eq] at hattached
  obtain ⟨other, hother, rfl⟩ := List.mem_map.1 hattached
  obtain ⟨hmem, hother_origin⟩ := List.mem_filter.1 hother
  obtain rfl := GuardRegistry.eq_of_className_eq h.pairwise_apart hmem hguard hclass
  exact horigin (List.contains_iff_mem.1 hother_origin)

theorem omits (h : compiled.Accepted classesOf input registry site)
    (hguard : guard ∈ registry.guards) (horigin : guard.directory ∉ Assembly.origins site) :
    compiled.Omits guard where
  no_origin label hlabel hown := horigin (h.isGuardedBy.mem_origins_iff.2 ⟨label, hlabel, hown⟩)
  no_route label hlabel attached hattached hclass := by
    have hown := (h.isGuardedBy.hasClass_iff h.pairwise_apart hlabel hguard).1
      ⟨attached, hattached, hclass⟩
    exact horigin (h.isGuardedBy.mem_origins_iff.2 ⟨label, hlabel, hown⟩)
  not_imported entry hentry hkind := by
    rw [h.emission_eq, Emission.ofTree, List.mem_append] at hentry
    rcases hentry with hcomponent | hguards
    · obtain ⟨component, -, rfl⟩ := List.mem_map.1 hcomponent
      cases hkind
    · obtain ⟨attached, hattached, rfl⟩ := List.mem_map.1 hguards
      exact h.className_ne_of_imported hguard horigin hattached
  not_provided hprovided := by
    rw [h.emission_eq] at hprovided
    obtain ⟨attached, hattached, hclass⟩ := List.mem_map.1 hprovided
    exact h.className_ne_of_imported hguard horigin hattached hclass
  stray_once := by
    rw [h.strayGuards_eq]
    apply List.count_eq_one_of_mem ((GuardRegistry.nodup_guards h.pairwise_apart).filter _)
    exact List.mem_filter.2 ⟨hguard, by simpa using horigin⟩

end Accepted

end CompiledRoutes

namespace CompileInput

/-- In every compilation that ends well each guard is attached to one route or reported. -/
theorem accountsForGuards_of_compile {classesOf : ClassReader} {input : CompileInput}
    {compiled : CompiledRoutes} (h : input.compile classesOf = .ok compiled) :
    GuardRegistry.load classesOf input.guardSources = .ok ⟨compiled.guards⟩ ∧
      compiled.AccountsForGuards := by
  obtain ⟨registry, site, haccepted⟩ := compile_eq_ok_iff.1 h
  have hguarded := haccepted.isGuardedBy
  have hapart := haccepted.pairwise_apart
  constructor
  · rw [haccepted.guards_eq]
    exact haccepted.loaded
  refine ⟨fun guard hguard => ?_, ?_, fun label hlabel attached hattached => ?_,
    fun label hlabel hkind => ?_⟩
  · rw [haccepted.guards_eq] at hguard
    by_cases horigin : guard.directory ∈ Assembly.origins site
    · have hattaches := haccepted.attaches hguard horigin
      refine Or.inl ⟨hattaches, fun homits => ?_⟩
      obtain ⟨label, hlabel, hown⟩ := hguarded.mem_origins_iff.1 horigin
      exact homits.no_origin label hlabel hown
    · have homits := haccepted.omits hguard horigin
      refine Or.inr ⟨homits, fun hattaches => hattaches.not_stray ?_⟩
      exact List.count_pos_iff.1 (homits.stray_once ▸ Nat.one_pos)
  · rw [haccepted.strayGuards_eq, haccepted.guards_eq]
    exact List.filter_sublist
  · obtain ⟨guard, hguard, hsame, hown⟩ := (hguarded.guard_eq_some_iff hapart hlabel).1 hattached
    have horigin := hguarded.mem_origins_iff.2 ⟨label, hlabel, hown⟩
    exact ⟨guard, haccepted.guards_eq ▸ hguard, haccepted.attaches hguard horigin, hsame, hown⟩
  · cases hattached : label.guard with
    | none => rfl
    | some attached =>
      obtain ⟨guard, -, -, hown⟩ := (hguarded.guard_eq_some_iff hapart hlabel).1 hattached
      rcases (haccepted.exists_origin_iff hlabel).1 ⟨_, hown⟩ with hgroup | hpage
      · rw [hgroup] at hkind
        exact absurd hkind (by decide)
      · rw [hpage] at hkind
        exact absurd hkind (by decide)

/-- One guard for the page root, one for a scope without a page of its own, and one for a directory
on the way to a page that has no route. -/
theorem accountsForGuards_of_compile_scope :
    ∃ compiled, compile Script.classReader
        ⟨["docs/#guides/setup/_id/index.html"],
          [⟨"root.guard.ts", "export class Root \x7b canActivate() \x7b\x7d \x7d"⟩,
            ⟨"docs/#guides/a.guard.ts", "export class Scope \x7b canDeactivate() \x7b\x7d \x7d"⟩,
            ⟨"docs/#guides/setup/a.guard.ts", "export class Own \x7b canActivate() \x7b\x7d \x7d"⟩],
          []⟩ = .ok compiled ∧
      compiled.strayGuards.map (·.className) = ["Own"] ∧ compiled.AccountsForGuards := by
  have hstray : (compile Script.classReader
      ⟨["docs/#guides/setup/_id/index.html"],
        [⟨"root.guard.ts", "export class Root \x7b canActivate() \x7b\x7d \x7d"⟩,
          ⟨"docs/#guides/a.guard.ts", "export class Scope \x7b canDeactivate() \x7b\x7d \x7d"⟩,
          ⟨"docs/#guides/setup/a.guard.ts", "export class Own \x7b canActivate() \x7b\x7d \x7d"⟩],
        []⟩).map (fun compiled => compiled.strayGuards.map (·.className)) = .ok ["Own"] := by
    decide +kernel
  obtain ⟨compiled, h, hnames⟩ := map_eq_ok_iff.1 hstray
  exact ⟨compiled, h, hnames, (accountsForGuards_of_compile h).2⟩

end CompileInput

end PageRoutes
