import PageRoutes.Proofs.GuardAccounting
import PageRoutes.Proofs.ImportedNames
import PageRoutes.Proofs.Rearrangement
import PageRoutes.Proofs.ScopeConflicts

/-!
# The order of the guard files

A guard takes its place from its file, and the place is all that it takes from the order of the
files.  Routes keep the places of their guards, but neither is a route put in order by them nor are
they written; they only order the guards among the imports and the providers.  So once places are
erased, compilations of the same guard files in another order agree in every stage.
-/

namespace PageRoutes

/-! ## Erasing places -/

/-- The guard without its place. -/
def Guard.unplaced (guard : Guard) : Guard :=
  { guard with discoveryIndex := 0 }

/-- The reference to a guard without its place. -/
def AttachedGuard.unplaced (guard : AttachedGuard) : AttachedGuard :=
  { guard with discoveryIndex := 0 }

/-- The label without the place of its guard. -/
def RouteLabel.withUnplacedGuard (label : RouteLabel) : RouteLabel :=
  { label with guard := label.guard.map AttachedGuard.unplaced }

namespace RouteTree

mutual

/-- Changes every label of a tree. -/
def mapLabels (f : RouteLabel → RouteLabel) : RouteTree → RouteTree
  | node label children => node (f label) (mapLabelsOfAll f children)

/-- Changes every label of several trees. -/
def mapLabelsOfAll (f : RouteLabel → RouteLabel) : List RouteTree → List RouteTree
  | [] => []
  | tree :: rest => mapLabels f tree :: mapLabelsOfAll f rest

end

variable {f : RouteLabel → RouteLabel}

theorem mapLabelsOfAll_eq_map (trees : List RouteTree) :
    mapLabelsOfAll f trees = trees.map (mapLabels f) := by
  induction trees with
  | nil => rfl
  | cons tree rest ih => rw [mapLabelsOfAll, ih, List.map_cons]

theorem mapLabels_node (label : RouteLabel) (children : List RouteTree) :
    mapLabels f (.node label children) = .node (f label) (children.map (mapLabels f)) := by
  rw [mapLabels, mapLabelsOfAll_eq_map]

@[simp] theorem label_mapLabels (tree : RouteTree) : (tree.mapLabels f).label = f tree.label := by
  cases tree
  rfl

@[simp] theorem children_mapLabels (tree : RouteTree) :
    (tree.mapLabels f).children = tree.children.map (mapLabels f) := by
  cases tree
  rw [mapLabels_node]
  rfl

/-- Changing what does not decide the place of a route among its siblings commutes with putting
siblings in order. -/
theorem order_mapLabels (hf : ∀ label, (f label).sortKey = label.sortKey) (tree : RouteTree) :
    (tree.mapLabels f).order = tree.order.mapLabels f := by
  induction tree using below_induction with
  | step label children ih =>
    have hbelow : (children.map (mapLabels f)).map order =
        (children.map order).map (mapLabels f) := by
      rw [List.map_map, List.map_map]
      exact List.map_congr_left ih
    rw [mapLabels_node, order, order, orderAll_eq_map, orderAll_eq_map, mapLabels_node, hbelow]
    -- sorting compares the siblings by labels with the same keys
    have hsame : ∀ a b : RouteTree,
        a.mayPrecede b = (a.mapLabels f).mayPrecede (b.mapLabels f) := by
      intro a b
      rw [mayPrecede, mayPrecede, label_mapLabels, label_mapLabels, hf, hf]
    rw [sortSiblings, sortSiblings, List.map_mergeSort fun a _ b _ => hsame a b]

end RouteTree

namespace Emission

variable {f : RouteLabel → RouteLabel}

theorem entries_eq_map (depth : Nat) (trees : List RouteTree) :
    entries depth trees = trees.map (entry depth) := by
  induction trees with
  | nil => rfl
  | cons tree rest ih => rw [entries, ih, List.map_cons]

/-- Changing what is not written of a route does not change the entries. -/
theorem entry_mapLabels (hleading : ∀ label, leadingFields (f label) = leadingFields label)
    (htrailing : ∀ label, trailingFields (f label) = trailingFields label) (depth : Nat)
    (tree : RouteTree) : entry depth (tree.mapLabels f) = entry depth tree := by
  induction tree using RouteTree.below_induction generalizing depth with
  | step label children ih =>
    have hbelow : entries (depth + 1) (children.map (RouteTree.mapLabels f)) =
        entries (depth + 1) children := by
      rw [entries_eq_map, entries_eq_map, List.map_map]
      exact List.map_congr_left fun child hchild => ih child hchild (depth + 1)
    rw [RouteTree.mapLabels_node]
    cases children with
    | nil => rw [List.map_nil, entry, entry, hleading, htrailing]
    | cons child more =>
      rw [List.map_cons] at hbelow ⊢
      rw [entry, entry, hleading, htrailing, hbelow]

/-- Trees that agree in what is written are written in the same way. -/
theorem configurationText_eq_of_mapLabels_eq
    (hleading : ∀ label, leadingFields (f label) = leadingFields label)
    (htrailing : ∀ label, trailingFields (f label) = trailingFields label)
    {tree other : RouteTree} (h : tree.mapLabels f = other.mapLabels f) :
    (ofTree tree).configurationText = (ofTree other).configurationText := by
  have hentries : ∀ t : RouteTree,
      entries 0 t.children = (t.mapLabels f).children.map (entry 0) := by
    intro t
    rw [entries_eq_map, RouteTree.children_mapLabels, List.map_map]
    exact List.map_congr_left fun child _ => (entry_mapLabels hleading htrailing 0 child).symm
  show entryText (entries 0 tree.children) = entryText (entries 0 other.children)
  rw [hentries, hentries, h]

end Emission

/-! ## Rearranged registries -/

namespace Guard

/-- The place of a guard is all that it takes from its index. -/
theorem map_unplaced_describe (classesOf : ClassReader) (source : GuardSource) (index : Nat) :
    (describe classesOf source index).map unplaced = describe classesOf source 0 := by
  simp only [describe]
  rcases classesOf (Path.normalize source.path) source.contents with
    _ | _ | ⟨⟨name, members⟩, _ | ⟨other, more⟩⟩
  · rfl
  · rfl
  · cases hmembers : Capability.ofMembers members <;> cases name <;>
      simp [ofClass?, hmembers, Except.map, unplaced]
  · rfl

end Guard

namespace GuardRegistry

/-- The same guards at other places. -/
def Rearranged (guards others : GuardRegistry) : Prop :=
  (guards.guards.map Guard.unplaced).Perm (others.guards.map Guard.unplaced)

variable {classesOf : ClassReader} {sources others : List GuardSource}
  {registry other : GuardRegistry}

/-- Loading the files in another order yields the same guards at other places. -/
theorem exists_rearranged_of_perm (hperm : sources.Perm others)
    (h : load classesOf sources = .ok registry) :
    ∃ other, load classesOf others = .ok other ∧ registry.Rearranged other := by
  obtain ⟨hdescribed, hapart⟩ := load_eq_ok_iff.1 h
  obtain ⟨guards, hguards, hsame⟩ := exists_perm_of_mapM_zipIdx
    (Guard.map_unplaced_describe classesOf) hperm (mapM_eq_ok_iff.2 hdescribed)
  refine ⟨⟨guards⟩, load_eq_ok_iff.2 ⟨mapM_eq_ok_iff.1 hguards, ?_⟩, hsame⟩
  -- whether guards stand apart can be seen without their places
  have hunplaced : ∀ gs : List Guard,
      gs.Pairwise Guard.Apart ↔ (gs.map Guard.unplaced).Pairwise Guard.Apart := by
    intro gs
    rw [List.pairwise_map]
    rfl
  rw [hunplaced] at hapart ⊢
  exact (hsame.pairwise_iff fun hab => ⟨hab.1.symm, hab.2.symm⟩).1 hapart

/-- Registries that have the same guards at the same directories, up to places. -/
def Alike (registry other : GuardRegistry) : Prop :=
  ∀ directory,
    (registry.get? directory).map Guard.unplaced = (other.get? directory).map Guard.unplaced

/-- The guard of a directory does not depend on the order of the guards. -/
theorem Rearranged.alike (h : registry.Rearranged other)
    (hapart : registry.guards.Pairwise Guard.Apart) (hapart' : other.guards.Pairwise Guard.Apart) :
    registry.Alike other := by
  have hget : ∀ {r : GuardRegistry} {directory : String}, r.guards.Pairwise Guard.Apart →
      ∀ guard, (r.get? directory).map Guard.unplaced = some guard ↔
        guard ∈ r.guards.map Guard.unplaced ∧ guard.directory = directory := by
    intro r directory hr guard
    simp only [Option.map_eq_some_iff, get?_eq_some_iff hr, List.mem_map]
    constructor
    · rintro ⟨found, ⟨hmem, hdirectory⟩, rfl⟩
      exact ⟨⟨found, hmem, rfl⟩, hdirectory⟩
    · rintro ⟨⟨found, hmem, rfl⟩, hdirectory⟩
      exact ⟨found, ⟨hmem, hdirectory⟩, rfl⟩
  intro directory
  apply Option.ext
  intro guard
  rw [hget hapart, hget hapart', h.mem_iff]

theorem Alike.attached_eq (h : registry.Alike other) (directory : String) :
    ((registry.get? directory).map Guard.attached).map AttachedGuard.unplaced =
      ((other.get? directory).map Guard.attached).map AttachedGuard.unplaced := by
  have hattached : ∀ r : GuardRegistry,
      ((r.get? directory).map Guard.attached).map AttachedGuard.unplaced =
        ((r.get? directory).map Guard.unplaced).map Guard.attached := by
    intro r
    rw [Option.map_map, Option.map_map]
    rfl
  rw [hattached, hattached, h]

end GuardRegistry

/-! ## Trees for rearranged registries -/

section Trees

variable {registry other : GuardRegistry}

theorem Site.mapLabels_treesBelow_eq (h : registry.Alike other) (site : Site) (p : List Segment) :
    (site.treesBelow registry p).map (RouteTree.mapLabels RouteLabel.withUnplacedGuard) =
      (site.treesBelow other p).map (RouteTree.mapLabels RouteLabel.withUnplacedGuard) := by
  induction p using below_induction site with
  | step p ih =>
    rw [treesBelow_eq, treesBelow_eq, List.map_map, List.map_map]
    refine List.map_congr_left fun d hd => ?_
    have hlabel : (site.label registry d).withUnplacedGuard =
        (site.label other d).withUnplacedGuard := by
      unfold RouteLabel.withUnplacedGuard label
      rw [h.attached_eq]
    rw [Function.comp_apply, Function.comp_apply, RouteTree.mapLabels_node,
      RouteTree.mapLabels_node, hlabel, ih d hd]

/-- The trees for the two registries are the same up to the places of guards. -/
theorem Assembly.mapLabels_tree_eq (h : registry.Alike other) (pages : List Page) (site : Site)
    (rules : List RedirectRule) :
    (tree pages site registry rules).mapLabels RouteLabel.withUnplacedGuard =
      (tree pages site other rules).mapLabels RouteLabel.withUnplacedGuard := by
  have hlabel : (rootLabel registry).withUnplacedGuard = (rootLabel other).withUnplacedGuard := by
    unfold RouteLabel.withUnplacedGuard rootLabel
    rw [h.attached_eq]
  have hgroup : (rootGroup pages site registry).mapLabels RouteLabel.withUnplacedGuard =
      (rootGroup pages site other).mapLabels RouteLabel.withUnplacedGuard := by
    rw [rootGroup, rootGroup, RouteTree.mapLabels_node, RouteTree.mapLabels_node, List.map_cons,
      List.map_cons, hlabel, Site.mapLabels_treesBelow_eq h]
  rw [tree, tree, RouteTree.mapLabels_node, RouteTree.mapLabels_node, List.map_append,
    List.map_append, List.map_cons, List.map_cons, hgroup]
  rfl

end Trees

/-! ## Compilations -/

namespace Emission

/-- The imports of components. -/
def componentImports (emission : Emission) : List ImportEntry :=
  emission.imports.filter (·.kind = .component)

/-- The imports of guards. -/
def guardImports (emission : Emission) : List ImportEntry :=
  emission.imports.filter (·.kind = .guard)

theorem componentImports_ofTree (config : RouteTree) :
    (ofTree config).componentImports = (importedComponents config).map ofComponent := by
  rw [componentImports, ofTree, List.filter_append, List.filter_map, List.filter_map]
  simp [Function.comp_def, ofComponent, ofGuard]

theorem guardImports_ofTree (config : RouteTree) :
    (ofTree config).guardImports = (importedGuards config).map ofGuard := by
  rw [guardImports, ofTree, List.filter_append, List.filter_map, List.filter_map]
  simp [Function.comp_def, ofComponent, ofGuard]

end Emission

namespace CompiledRoutes

/-- The results of two compilations that differ in the places of guards at most, and therefore in
the order in which guards are listed. -/
structure SameUpToGuardOrder (compiled other : CompiledRoutes) : Prop where
  pages_eq : compiled.pages = other.pages
  tree_eq : compiled.tree.mapLabels RouteLabel.withUnplacedGuard =
    other.tree.mapLabels RouteLabel.withUnplacedGuard
  configurationText_eq : compiled.emission.configurationText = other.emission.configurationText
  componentImports_eq : compiled.emission.componentImports = other.emission.componentImports
  guardImports_perm : compiled.emission.guardImports.Perm other.emission.guardImports
  providers_perm : compiled.emission.providers.Perm other.emission.providers
  strayGuards_perm :
    (compiled.strayGuards.map Guard.unplaced).Perm (other.strayGuards.map Guard.unplaced)

/-- Guards are listed in the order of their files, wherever they are listed. -/
structure ListsGuardsInOrder (compiled : CompiledRoutes) (sources : List GuardSource) :
    Prop where
  guards : compiled.guards.map (·.sourcePath) =
    sources.map fun source => Path.normalize source.path
  attached_sublist : compiled.attachedGuards.Sublist compiled.guards
  stray_sublist : compiled.strayGuards.Sublist compiled.guards
  guardImports_eq : compiled.emission.guardImports =
    compiled.attachedGuards.map fun guard => ⟨guard.className, guard.importPath, .guard⟩
  providers_eq : compiled.emission.providers = compiled.attachedGuards.map (·.className)

namespace Accepted

variable {classesOf : ClassReader} {input input' : CompileInput} {compiled other : CompiledRoutes}
  {registry registry' : GuardRegistry} {site site' : Site}

theorem listsGuardsInOrder (h : compiled.Accepted classesOf input registry site) :
    compiled.ListsGuardsInOrder input.guardSources where
  guards := by
    rw [h.guards_eq]
    exact GuardRegistry.sourcePaths_of_load h.loaded
  attached_sublist := List.filter_sublist
  stray_sublist := by
    rw [h.strayGuards_eq, h.guards_eq]
    exact List.filter_sublist
  guardImports_eq := by
    rw [h.emission_eq, Emission.guardImports_ofTree, h.importedGuards_eq_attachedGuards,
      List.map_map]
    rfl
  providers_eq := by
    rw [h.emission_eq]
    exact (h.listsNames_ofTree (List.Perm.refl _)).providers

/-- Compilations that differ in the order of the guards yield the same up to that order. -/
theorem sameUpToGuardOrder (h : compiled.Accepted classesOf input registry site)
    (h' : other.Accepted classesOf input' registry' site')
    (hpaths : input.pagePaths = input'.pagePaths) (hrules : input.redirects = input'.redirects)
    (hguards : registry.Rearranged registry') : compiled.SameUpToGuardOrder other := by
  have hpages : compiled.pages = other.pages :=
    Except.ok.inj (h.parsed.symm.trans (hpaths ▸ h'.parsed))
  obtain rfl : site = site' := Except.ok.inj (h.filled.symm.trans (hpages ▸ h'.filled))
  have htree : compiled.tree.mapLabels RouteLabel.withUnplacedGuard =
      other.tree.mapLabels RouteLabel.withUnplacedGuard := by
    have horder := RouteTree.order_mapLabels (f := RouteLabel.withUnplacedGuard) fun _ => rfl
    rw [h.tree_eq, h'.tree_eq, ← horder, ← horder, hpages, hrules,
      Assembly.mapLabels_tree_eq (hguards.alike h.pairwise_apart h'.pairwise_apart)]
  have htrailing : ∀ label : RouteLabel,
      Emission.trailingFields label.withUnplacedGuard = Emission.trailingFields label := by
    intro label
    unfold Emission.trailingFields RouteLabel.withUnplacedGuard
    cases label.guard <;> rfl
  refine ⟨hpages, htree, ?_, ?_, ?_, ?_, ?_⟩
  · rw [h.emission_eq, h'.emission_eq]
    exact Emission.configurationText_eq_of_mapLabels_eq (f := RouteLabel.withUnplacedGuard)
      (fun _ => rfl) htrailing htree
  · rw [h.emission_eq, h'.emission_eq, Emission.componentImports_ofTree,
      Emission.componentImports_ofTree, h.importedComponents_eq, h'.importedComponents_eq, hpages]
  · rw [h.emission_eq, h'.emission_eq, Emission.guardImports_ofTree, Emission.guardImports_ofTree,
      h.importedGuards_eq, h'.importedGuards_eq, List.map_map, List.map_map]
    exact map_filter_perm hguards (fun _ => rfl) fun _ => rfl
  · rw [h.emission_eq, h'.emission_eq]
    show ((Emission.importedGuards _).map _).Perm ((Emission.importedGuards _).map _)
    rw [h.importedGuards_eq, h'.importedGuards_eq, List.map_map, List.map_map]
    exact map_filter_perm hguards (fun _ => rfl) fun _ => rfl
  · rw [h.strayGuards_eq, h'.strayGuards_eq]
    exact map_filter_perm hguards (fun _ => rfl) fun _ => rfl

end Accepted

end CompiledRoutes

namespace CompileInput

variable {classesOf : ClassReader} {input : CompileInput} {sources : List GuardSource}

/-- If a compilation ends well, so does one of the same guard files in another order. -/
theorem exists_compile_of_guardSources_perm {compiled : CompiledRoutes}
    (hperm : input.guardSources.Perm sources) (h : input.compile classesOf = .ok compiled) :
    ∃ other, { input with guardSources := sources }.compile classesOf = .ok other ∧
      compiled.SameUpToGuardOrder other ∧ compiled.ListsGuardsInOrder input.guardSources ∧
      other.ListsGuardsInOrder sources := by
  obtain ⟨registry, site, haccepted⟩ := compile_eq_ok_iff.1 h
  obtain ⟨registry', hload, hguards⟩ :=
    GuardRegistry.exists_rearranged_of_perm hperm haccepted.loaded
  let tree := (Assembly.tree compiled.pages site registry' input.redirects).order
  have haccepted' : CompiledRoutes.Accepted classesOf { input with guardSources := sources }
      ⟨compiled.pages, registry'.guards, Assembly.strayGuards site registry', tree,
        Emission.ofTree tree⟩ registry' site :=
    ⟨haccepted.parsed, haccepted.distinct, hload, haccepted.filled, rfl, rfl, rfl, rfl⟩
  exact ⟨_, compile_eq_ok_iff.2 ⟨registry', site, haccepted'⟩,
    haccepted.sameUpToGuardOrder haccepted' rfl rfl hguards, haccepted.listsGuardsInOrder,
    haccepted'.listsGuardsInOrder⟩

/-- Compilations of the same guard files in different orders fail with one error, unless both fail
at a guard. -/
theorem eq_or_isGuardError_of_guardSources_perm {e e' : CompileError}
    (hperm : input.guardSources.Perm sources) (h : input.compile classesOf = .error e)
    (h' : { input with guardSources := sources }.compile classesOf = .error e') :
    e = e' ∨ e.IsGuardError ∧ e'.IsGuardError := by
  rcases bind_eq_error_of_same h h' with heq | ⟨pages, -, h, h'⟩
  · exact Or.inl heq
  rcases bind_eq_error_of_same h h' with heq | ⟨_, -, h, h'⟩
  · exact Or.inl heq
  -- here the guards are read, and only here the compilations differ
  have hloads : (∃ registry, GuardRegistry.load classesOf input.guardSources = .ok registry) ↔
      ∃ registry, GuardRegistry.load classesOf sources = .ok registry := by
    constructor
    · rintro ⟨registry, hload⟩
      exact (GuardRegistry.exists_rearranged_of_perm hperm hload).imp fun _ hother => hother.1
    · rintro ⟨registry, hload⟩
      exact (GuardRegistry.exists_rearranged_of_perm hperm.symm hload).imp fun _ hother => hother.1
  rcases bind_eq_error_iff.1 h with hload | ⟨registry, hload, hrest⟩
  · rcases bind_eq_error_iff.1 h' with hload' | ⟨registry', hload', -⟩
    · exact Or.inr ⟨GuardRegistry.isGuardError_of_load hload,
        GuardRegistry.isGuardError_of_load hload'⟩
    · obtain ⟨registry, hok⟩ := hloads.2 ⟨registry', hload'⟩
      cases hload.symm.trans hok
  · rcases bind_eq_error_iff.1 h' with hload' | ⟨registry', hload', hrest'⟩
    · obtain ⟨registry', hok⟩ := hloads.1 ⟨registry, hload⟩
      cases hload'.symm.trans hok
    · rcases bind_eq_error_iff.1 hrest with hbuild | ⟨_, -, hpure⟩
      · rcases bind_eq_error_iff.1 hrest' with hbuild' | ⟨_, -, hpure'⟩
        · rw [Assembly.build_eq_error_iff] at hbuild hbuild'
          exact Or.inl (Except.error.inj (hbuild.symm.trans hbuild'))
        · cases hpure'
      · cases hpure

/-- The order of the guard files decides nothing but the order in which guards are listed.  A
compilation of the same files in another order ends well or fails as this one does; if both end
well, the routes and the components are the same, and the same guards are imported, provided and
warned about, in the order of the files of each. -/
theorem compile_of_guardSources_perm (classesOf : ClassReader) (input : CompileInput)
    {sources : List GuardSource} (hperm : input.guardSources.Perm sources) :
    (∃ compiled other, input.compile classesOf = .ok compiled ∧
      { input with guardSources := sources }.compile classesOf = .ok other ∧
      compiled.SameUpToGuardOrder other ∧ compiled.ListsGuardsInOrder input.guardSources ∧
      other.ListsGuardsInOrder sources) ∨
    ∃ e e', input.compile classesOf = .error e ∧
      { input with guardSources := sources }.compile classesOf = .error e' ∧
      (e = e' ∨ e.IsGuardError ∧ e'.IsGuardError) := by
  cases h : input.compile classesOf with
  | ok compiled =>
    obtain ⟨other, h', hsame⟩ := exists_compile_of_guardSources_perm hperm h
    exact Or.inl ⟨compiled, other, rfl, h', hsame⟩
  | error e =>
    cases h' : { input with guardSources := sources }.compile classesOf with
    | ok other =>
      obtain ⟨compiled, hok, -⟩ := exists_compile_of_guardSources_perm hperm.symm h'
      cases h.symm.trans hok
    | error e' =>
      exact Or.inr ⟨e, e', rfl, rfl, eq_or_isGuardError_of_guardSources_perm hperm h h'⟩

/-- A guard for the page root, one for a scope without a page of its own and one for a directory
without a route, the first of them moved to the end. -/
theorem compile_of_guardSources_perm_scope :
    let root : GuardSource :=
      ⟨"root.guard.ts", "export class Root \x7b canActivate() \x7b\x7d \x7d"⟩
    let scope : GuardSource :=
      ⟨"docs/#guides/a.guard.ts", "export class Scope \x7b canDeactivate() \x7b\x7d \x7d"⟩
    let lost : GuardSource :=
      ⟨"lost/a.guard.ts", "export class Lost \x7b canActivate() \x7b\x7d \x7d"⟩
    let paths := ["docs/#guides/setup/_id/index.html"]
    ∃ compiled other,
      compile Script.classReader ⟨paths, [root, scope, lost], []⟩ = .ok compiled ∧
      compile Script.classReader ⟨paths, [scope, lost, root], []⟩ = .ok other ∧
      compiled.guards.map (·.className) = ["Root", "Scope", "Lost"] ∧
      other.guards.map (·.className) = ["Scope", "Lost", "Root"] ∧
      compiled.SameUpToGuardOrder other := by
  intro root scope lost paths
  have hfirst : (compile Script.classReader ⟨paths, [root, scope, lost], []⟩).map
      (·.guards.map (·.className)) = .ok ["Root", "Scope", "Lost"] := by
    decide +kernel
  have hsecond : (compile Script.classReader ⟨paths, [scope, lost, root], []⟩).map
      (·.guards.map (·.className)) = .ok ["Scope", "Lost", "Root"] := by
    decide +kernel
  obtain ⟨compiled, h, hnames⟩ := map_eq_ok_iff.1 hfirst
  obtain ⟨other, h', hnames'⟩ := map_eq_ok_iff.1 hsecond
  rcases compile_of_guardSources_perm Script.classReader ⟨paths, [root, scope, lost], []⟩
      (show [root, scope, lost].Perm [scope, lost, root] by decide) with
    ⟨first, second, hok, hok', hsame, -⟩ | ⟨e, e', herror, -⟩
  · obtain rfl := Except.ok.inj (h.symm.trans hok)
    obtain rfl := Except.ok.inj (h'.symm.trans hok')
    exact ⟨compiled, other, h, h', hnames, hnames', hsame⟩
  · cases h.symm.trans herror

end CompileInput

end PageRoutes
