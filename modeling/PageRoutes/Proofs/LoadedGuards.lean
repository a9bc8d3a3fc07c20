import PageRoutes.Guard
import PageRoutes.Proofs.ParsedPage
import Mathlib.Data.List.Pairwise
import Mathlib.Data.List.Nodup

/-!
# Loaded registries

A registry is loaded file by file.  The loading ends well exactly if every file describes a guard
and no two of these guards share a directory or a class name; the registry then holds the guards of
the files, in their order.
-/

namespace PageRoutes

/-- Errors that a guard file causes. -/
inductive CompileError.IsGuardError : CompileError → Prop where
  | missingGuardExport (path : String) : IsGuardError (.missingGuardExport path)
  | ambiguousGuardExport (path : String) : IsGuardError (.ambiguousGuardExport path)
  | malformedGuard (path : String) : IsGuardError (.malformedGuard path)
  | guardSyntax (path message : String) : IsGuardError (.guardSyntax path message)
  | duplicateGuardDirectory (directory first second : String) :
      IsGuardError (.duplicateGuardDirectory directory first second)
  | duplicateGuardClass (className first second : String) :
      IsGuardError (.duplicateGuardClass className first second)

namespace Guard

/-- Guards that can stand in one registry. -/
def Apart (a b : Guard) : Prop :=
  a.directory ≠ b.directory ∧ a.className ≠ b.className

/-- A file describes the guard that its only class declares. -/
theorem describe_eq_ok_iff {classesOf : ClassReader} {source : GuardSource} {index : Nat}
    {guard : Guard} :
    describe classesOf source index = .ok guard ↔
      ∃ declared, classesOf (Path.normalize source.path) source.contents = .ok [declared] ∧
        ofClass? (Path.normalize source.path) index declared = some guard := by
  simp only [describe]
  rcases classesOf (Path.normalize source.path) source.contents with
    _ | _ | ⟨declared, _ | ⟨other, more⟩⟩
  · simp
  · simp
  · cases hclass : ofClass? (Path.normalize source.path) index declared <;> simp [hclass]
  · simp

theorem eq_of_ofClass? {path : String} {index : Nat} {declared : Script.ExportedClass}
    {guard : Guard} (h : ofClass? path index declared = some guard) :
    guard.sourcePath = path ∧ guard.discoveryIndex = index := by
  unfold ofClass? at h
  split at h
  · cases h
    exact ⟨rfl, rfl⟩
  · cases h

section Describe

variable {classesOf : ClassReader} {source : GuardSource} {index : Nat} {guard : Guard}
  (h : describe classesOf source index = .ok guard)
include h

theorem sourcePath_of_describe : guard.sourcePath = Path.normalize source.path := by
  obtain ⟨declared, -, hclass⟩ := describe_eq_ok_iff.1 h
  exact (eq_of_ofClass? hclass).1

theorem discoveryIndex_of_describe : guard.discoveryIndex = index := by
  obtain ⟨declared, -, hclass⟩ := describe_eq_ok_iff.1 h
  exact (eq_of_ofClass? hclass).2

end Describe

end Guard

namespace GuardRegistry

variable {classesOf : ClassReader} {sources : List GuardSource} {registry : GuardRegistry}
  {guard : Guard} {directory : String}

/-! ## Loading -/

/-- A guard is accepted exactly if it stands apart from all guards of the registry. -/
theorem insert_eq_ok_iff {grown : GuardRegistry} :
    registry.insert guard = .ok grown ↔
      (∀ first ∈ registry.guards, first.Apart guard) ∧ grown = ⟨registry.guards ++ [guard]⟩ := by
  unfold insert
  cases hdirectory : registry.get? guard.directory with
  | some first =>
    have hmem := List.mem_of_find?_eq_some hdirectory
    have hsame : first.directory = guard.directory := by simpa using List.find?_some hdirectory
    exact iff_of_false (by simp) fun h => (h.1 first hmem).1 hsame
  | none =>
    cases hclass : registry.withClass? guard.className with
    | some first =>
      have hmem := List.mem_of_find?_eq_some hclass
      have hsame : first.className = guard.className := by simpa using List.find?_some hclass
      exact iff_of_false (by simp) fun h => (h.1 first hmem).2 hsame
    | none =>
      have hnew : ∀ first ∈ registry.guards, first.Apart guard := by
        intro first hfirst
        exact ⟨by simpa using List.find?_eq_none.1 hdirectory first hfirst,
          by simpa using List.find?_eq_none.1 hclass first hfirst⟩
      simp only [Except.ok.injEq]
      exact ⟨fun h => ⟨hnew, h.symm⟩, fun h => h.2.symm⟩

/-- Loading more files into a registry appends their guards, as long as all of them stand apart. -/
theorem foldlM_insert_eq_ok_iff {entries : List (GuardSource × Nat)} {loaded : GuardRegistry}
    (h : registry.guards.Pairwise Guard.Apart) :
    entries.foldlM (fun registry entry => do
        registry.insert (← Guard.describe classesOf entry.1 entry.2)) registry = .ok loaded ↔
      ∃ guards, List.Forall₂ (fun entry guard =>
          Guard.describe classesOf entry.1 entry.2 = .ok guard) entries guards ∧
        loaded = ⟨registry.guards ++ guards⟩ ∧ loaded.guards.Pairwise Guard.Apart := by
  -- the induction is on the files still to come, for any registry loaded so far
  induction entries generalizing registry with
  | nil =>
    simp only [List.forall₂_nil_left_iff, exists_eq_left, List.append_nil]
    constructor
    · intro hloaded
      cases hloaded
      exact ⟨rfl, h⟩
    · rintro ⟨rfl, -⟩
      rfl
  | cons entry rest ih =>
    simp only [List.foldlM_cons, bind_eq_ok_iff, insert_eq_ok_iff]
    constructor
    · rintro ⟨_, ⟨guard, hguard, hnew, rfl⟩, hrest⟩
      have hgrown : (registry.guards ++ [guard]).Pairwise Guard.Apart :=
        List.pairwise_append.2 ⟨h, List.pairwise_singleton _ _, by simpa using hnew⟩
      obtain ⟨guards, hguards, rfl, hall⟩ := (ih hgrown).1 hrest
      exact ⟨guard :: guards, List.Forall₂.cons hguard hguards, by simp, hall⟩
    · rintro ⟨_, hdescribed, rfl, hall⟩
      obtain ⟨guard, guards, hguard, hguards, rfl⟩ := List.forall₂_cons_left_iff.1 hdescribed
      have hnew : ∀ first ∈ registry.guards, first.Apart guard := fun first hfirst =>
        (List.pairwise_append.1 hall).2.2 first hfirst guard List.mem_cons_self
      have hgrown : (registry.guards ++ [guard]).Pairwise Guard.Apart :=
        List.pairwise_append.2 ⟨h, List.pairwise_singleton _ _, by simpa using hnew⟩
      refine ⟨⟨registry.guards ++ [guard]⟩, ⟨guard, hguard, hnew, rfl⟩, ?_⟩
      exact (ih hgrown).2 ⟨guards, hguards, by simp, hall⟩

/-- Loading ends well exactly if every file describes a guard and all of them stand apart. -/
theorem load_eq_ok_iff :
    load classesOf sources = .ok registry ↔
      List.Forall₂ (fun entry guard => Guard.describe classesOf entry.1 entry.2 = .ok guard)
          sources.zipIdx registry.guards ∧
        registry.guards.Pairwise Guard.Apart := by
  refine Iff.trans (@foldlM_insert_eq_ok_iff classesOf empty _ _ List.Pairwise.nil) ?_
  constructor
  · rintro ⟨guards, hguards, rfl, hall⟩
    exact ⟨hguards, hall⟩
  · rintro ⟨hguards, hall⟩
    exact ⟨registry.guards, hguards, rfl, hall⟩

theorem isGuardError_of_describe {source : GuardSource} {index : Nat} {error : CompileError}
    (h : Guard.describe classesOf source index = .error error) : error.IsGuardError := by
  simp only [Guard.describe] at h
  rcases hclasses : classesOf (Path.normalize source.path) source.contents with
    _ | _ | ⟨declared, _ | ⟨other, more⟩⟩ <;> rw [hclasses] at h
  · cases h
    exact .guardSyntax _ _
  · cases h
    exact .missingGuardExport _
  · cases hclass : Guard.ofClass? (Path.normalize source.path) index declared with
    | none =>
      simp only [hclass] at h
      cases h
      exact .malformedGuard _
    | some guard =>
      simp only [hclass] at h
      cases h
  · cases h
    exact .ambiguousGuardExport _

theorem isGuardError_of_insert {error : CompileError} (h : registry.insert guard = .error error) :
    error.IsGuardError := by
  unfold insert at h
  split at h
  · cases h
    exact .duplicateGuardDirectory _ _ _
  · cases h
    exact .duplicateGuardClass _ _ _
  · cases h

/-- Loading fails at a guard file. -/
theorem isGuardError_of_load {error : CompileError} (h : load classesOf sources = .error error) :
    error.IsGuardError := by
  unfold load at h
  -- the induction is on the files still to come, for any registry loaded so far
  generalize sources.zipIdx = entries at h
  generalize empty = registry at h
  induction entries generalizing registry with
  | nil => cases h
  | cons entry rest ih =>
    rw [List.foldlM_cons, bind_eq_error_iff] at h
    rcases h with hstep | ⟨grown, -, hrest⟩
    · rcases bind_eq_error_iff.1 hstep with hdescribe | ⟨guard, -, hinsert⟩
      · exact isGuardError_of_describe hdescribe
      · exact isGuardError_of_insert hinsert
    · exact ih grown hrest

/-! ## The guards of a loaded registry -/

/-- The guards count through the files from the first to the last. -/
theorem discoveryIndexes_of_load (h : load classesOf sources = .ok registry) :
    registry.guards.map (·.discoveryIndex) = List.range sources.length := by
  have hall := (load_eq_ok_iff.1 h).1.imp fun _ _ => Guard.discoveryIndex_of_describe
  rw [List.range_eq_range', ← List.zipIdx_map_snd 0 sources]
  exact map_eq_map_of_forall₂ hall

/-- What a guard has from its file comes in the order of the files. -/
theorem map_eq_of_load {α : Type} {f : Guard → α} {g : GuardSource → α}
    (h : load classesOf sources = .ok registry)
    (hfg : ∀ {source index guard}, Guard.describe classesOf source index = .ok guard →
      f guard = g source) :
    registry.guards.map f = sources.map g := by
  have hall := (load_eq_ok_iff.1 h).1.imp fun _ _ hguard => hfg hguard
  rw [← List.zipIdx_map_fst 0 sources, List.map_map]
  exact map_eq_map_of_forall₂ hall

/-- The guards of a loaded registry have the paths of the files. -/
theorem sourcePaths_of_load (h : load classesOf sources = .ok registry) :
    registry.guards.map (·.sourcePath) = sources.map fun source => Path.normalize source.path :=
  map_eq_of_load h Guard.sourcePath_of_describe

/-- The guards of a loaded registry stand in the order of their files. -/
theorem pairwise_discoveryIndex_of_load (h : load classesOf sources = .ok registry) :
    registry.guards.Pairwise fun a b => a.discoveryIndex < b.discoveryIndex := by
  rw [← List.pairwise_map (f := fun guard : Guard => guard.discoveryIndex) (R := (· < ·)),
    discoveryIndexes_of_load h]
  exact List.pairwise_lt_range

section Apart

variable (h : registry.guards.Pairwise Guard.Apart)
include h

theorem nodup_guards : registry.guards.Nodup :=
  h.imp fun hapart heq => hapart.1 (congrArg Guard.directory heq)

theorem nodup_classNames : (registry.guards.map (·.className)).Nodup :=
  List.pairwise_map.2 (h.imp fun hapart => hapart.2)

theorem eq_of_className_eq {a b : Guard} (ha : a ∈ registry.guards) (hb : b ∈ registry.guards)
    (heq : a.className = b.className) : a = b :=
  List.inj_on_of_nodup_map (nodup_classNames h) ha hb heq

/-- A guard is found at its directory and nowhere else. -/
theorem get?_eq_some_iff :
    registry.get? directory = some guard ↔
      guard ∈ registry.guards ∧ guard.directory = directory := by
  constructor
  · intro hget
    exact ⟨List.mem_of_find?_eq_some hget, by simpa using List.find?_some hget⟩
  · rintro ⟨hguard, rfl⟩
    cases hget : registry.get? guard.directory with
    | none =>
      have hnot := List.find?_eq_none.1 hget guard hguard
      exact absurd (beq_self_eq_true _) hnot
    | some found =>
      have hsame : found.directory = guard.directory := by simpa using List.find?_some hget
      have hnodup : (registry.guards.map (·.directory)).Nodup :=
        List.pairwise_map.2 (h.imp fun hapart => hapart.1)
      rw [List.inj_on_of_nodup_map hnodup (List.mem_of_find?_eq_some hget) hguard hsame]

end Apart

end GuardRegistry

end PageRoutes
