import PageRoutes.Proofs.LoadedGuards
import Mathlib.Data.List.Induction
import Mathlib.Data.Nat.Find

/-!
# Faults of guard files

A guard file can be faulty by itself or beside the files in front of it.  Its own faults come first:
it is no module, it exports no class or several, or its class has no name or no guard method.  Then
an earlier file may lie in the same directory, and last an earlier file may export a class of the
same name.  Loading ends well exactly if no file is faulty, and otherwise reports the fault of the
first file that is.
-/

namespace PageRoutes

/-! ## What files declare -/

/-- The methods by which a class is known to be a guard. -/
def guardMethods : List String :=
  Capability.all.map Capability.methodName

example : guardMethods = ["canActivate", "canActivateChild", "canDeactivate"] := rfl

/-- A class that can be imported by its name and has a guard method. -/
def Script.ExportedClass.IsGuard (declared : Script.ExportedClass) : Prop :=
  (∃ name, declared.name = some name) ∧ ∃ method ∈ guardMethods, method ∈ declared.members

namespace GuardSource

/-- The directory of a guard file, however its path is spelled. -/
def directory (source : GuardSource) : String :=
  Path.parent (Path.normalize source.path)

/-- The classes that a guard file exports, or why it is no module. -/
def classes (classesOf : ClassReader) (source : GuardSource) :
    Except String (List Script.ExportedClass) :=
  classesOf (Path.normalize source.path) source.contents

/-- A file that exports the given guard class and no other class. -/
def Exports (classesOf : ClassReader) (source : GuardSource) (declared : Script.ExportedClass) :
    Prop :=
  source.classes classesOf = .ok [declared] ∧ declared.IsGuard

/-- The name of the only class that a file exports. -/
def className? (classesOf : ClassReader) (source : GuardSource) : Option String :=
  match source.classes classesOf with
  | .ok [declared] => declared.name
  | _ => none

/-- Files of which each exports one guard and no two share a directory or a class name. -/
structure Acceptable (classesOf : ClassReader) (sources : List GuardSource) : Prop where
  exports : ∀ source ∈ sources, ∃ declared, source.Exports classesOf declared
  directories : (sources.map directory).Nodup
  classNames : (sources.map (className? classesOf)).Nodup

/-- What is wrong with a guard file by itself. -/
inductive HasOwnFault (classesOf : ClassReader) (source : GuardSource) : CompileError → Prop where
  | noModule {message : String} (h : source.classes classesOf = .error message) :
      HasOwnFault classesOf source (.guardSyntax (Path.normalize source.path) message)
  | noClass (h : source.classes classesOf = .ok []) :
      HasOwnFault classesOf source (.missingGuardExport (Path.normalize source.path))
  | severalClasses {first second : Script.ExportedClass} {more : List Script.ExportedClass}
      (h : source.classes classesOf = .ok (first :: second :: more)) :
      HasOwnFault classesOf source (.ambiguousGuardExport (Path.normalize source.path))
  | noGuard {declared : Script.ExportedClass} (h : source.classes classesOf = .ok [declared])
      (hguard : ¬declared.IsGuard) :
      HasOwnFault classesOf source (.malformedGuard (Path.normalize source.path))

/-- What is wrong with a guard file behind the given ones, the gravest fault only. -/
inductive HasFault (classesOf : ClassReader) (earlier : List GuardSource) (source : GuardSource) :
    CompileError → Prop where
  | own {error : CompileError} (h : source.HasOwnFault classesOf error) :
      HasFault classesOf earlier source error
  | directory {declared : Script.ExportedClass} {first : GuardSource}
      (hexports : source.Exports classesOf declared) (hfirst : first ∈ earlier)
      (hsame : first.directory = source.directory) :
      HasFault classesOf earlier source (.duplicateGuardDirectory source.directory
        (Path.normalize first.path) (Path.normalize source.path))
  | className {declared : Script.ExportedClass} {first : GuardSource} {name : String}
      (hexports : source.Exports classesOf declared) (hname : declared.name = some name)
      (hnew : ∀ other ∈ earlier, other.directory ≠ source.directory) (hfirst : first ∈ earlier)
      (hsame : first.className? classesOf = some name) :
      HasFault classesOf earlier source (.duplicateGuardClass name
        (Path.normalize first.path) (Path.normalize source.path))

/-- The file at a position is faulty beside the files in front of it. -/
def FaultAt (classesOf : ClassReader) (sources : List GuardSource) (i : Nat)
    (error : CompileError) : Prop :=
  ∃ source, sources[i]? = some source ∧ source.HasFault classesOf (sources.take i) error

/-- The file at a position is the first that is faulty. -/
structure IsFirstFault (classesOf : ClassReader) (sources : List GuardSource) (i : Nat)
    (error : CompileError) : Prop where
  fault : FaultAt classesOf sources i error
  before : ∀ j < i, ∀ other, ¬FaultAt classesOf sources j other

variable {classesOf : ClassReader} {sources earlier : List GuardSource} {source : GuardSource}
  {error : CompileError} {i : Nat}

theorem Exports.className?_eq {declared : Script.ExportedClass}
    (h : source.Exports classesOf declared) : source.className? classesOf = declared.name := by
  rw [className?, h.1]

theorem HasOwnFault.not_exports (h : source.HasOwnFault classesOf error)
    (declared : Script.ExportedClass) : ¬source.Exports classesOf declared := by
  rintro ⟨hclasses, hguard⟩
  cases h with
  | noModule h => rw [h] at hclasses; cases hclasses
  | noClass h => rw [h] at hclasses; cases hclasses
  | severalClasses h => rw [h] at hclasses; cases hclasses
  | noGuard h hnot =>
    rw [h, Except.ok.injEq, List.cons.injEq] at hclasses
    exact hnot (hclasses.1 ▸ hguard)

/-- Of files with distinct names none in front of a position has the name of the file there. -/
theorem ne_of_mem_take {α : Type} {f : GuardSource → α} {first : GuardSource}
    (h : (sources.map f).Nodup) (hsource : sources[i]? = some source)
    (hfirst : first ∈ sources.take i) : f first ≠ f source := by
  obtain ⟨hi, rfl⟩ := List.getElem?_eq_some_iff.1 hsource
  have hsplit : sources = sources.take i ++ sources[i] :: sources.drop (i + 1) := by
    rw [← List.drop_eq_getElem_cons hi, List.take_append_drop]
  rw [hsplit, List.map_append, List.map_cons, List.nodup_append] at h
  exact h.2.2 _ (List.mem_map_of_mem hfirst) _ List.mem_cons_self

/-- If a file is faulty, one of them is the first. -/
theorem exists_isFirstFault (h : FaultAt classesOf sources i error) :
    ∃ j other, IsFirstFault classesOf sources j other := by
  classical
  have hex : ∃ j other, FaultAt classesOf sources j other := ⟨i, error, h⟩
  obtain ⟨other, hother⟩ := Nat.find_spec hex
  exact ⟨Nat.find hex, other, hother, fun j hj another hfault =>
    Nat.find_min hex hj ⟨another, hfault⟩⟩

theorem lt_length_of_faultAt (h : FaultAt classesOf sources i error) : i < sources.length := by
  obtain ⟨source, hsource, -⟩ := h
  exact (List.getElem?_eq_some_iff.1 hsource).1

/-- One more file leaves the faults of the files in front of it as they are. -/
theorem faultAt_concat_of_lt (hi : i < earlier.length) :
    FaultAt classesOf (earlier ++ [source]) i error ↔ FaultAt classesOf earlier i error := by
  unfold FaultAt
  rw [List.getElem?_append_left hi, List.take_append_of_le_length (Nat.le_of_lt hi)]

theorem faultAt_concat_length :
    FaultAt classesOf (earlier ++ [source]) earlier.length error ↔
      source.HasFault classesOf earlier error := by
  unfold FaultAt
  rw [List.getElem?_concat_length, List.take_left]
  simp

/-- The first fault is that of the last file exactly if all files in front of it are without
fault. -/
theorem isFirstFault_concat_iff :
    IsFirstFault classesOf (earlier ++ [source]) i error ↔
      IsFirstFault classesOf earlier i error ∨
        i = earlier.length ∧ source.HasFault classesOf earlier error ∧
          ∀ j other, ¬FaultAt classesOf earlier j other := by
  constructor
  · rintro ⟨hfault, hbefore⟩
    have hlt := lt_length_of_faultAt hfault
    rw [List.length_append, List.length_singleton] at hlt
    rcases Nat.lt_or_eq_of_le (Nat.le_of_lt_succ hlt) with hi | rfl
    · refine Or.inl ⟨(faultAt_concat_of_lt hi).1 hfault, fun j hj other => ?_⟩
      rw [← faultAt_concat_of_lt (Nat.lt_trans hj hi)]
      exact hbefore j hj other
    · refine Or.inr ⟨rfl, faultAt_concat_length.1 hfault, fun j other hother => ?_⟩
      have hj := lt_length_of_faultAt hother
      exact hbefore j hj other ((faultAt_concat_of_lt hj).2 hother)
  · rintro (⟨hfault, hbefore⟩ | ⟨rfl, hfault, hnone⟩)
    · have hi := lt_length_of_faultAt hfault
      refine ⟨(faultAt_concat_of_lt hi).2 hfault, fun j hj other => ?_⟩
      rw [faultAt_concat_of_lt (Nat.lt_trans hj hi)]
      exact hbefore j hj other
    · refine ⟨faultAt_concat_length.2 hfault, fun j hj other => ?_⟩
      rw [faultAt_concat_of_lt hj]
      exact hnone j other

end GuardSource

/-! ## Reading one file -/

namespace Capability

/-- The capabilities of a class are spelled by those of its members that are guard methods. -/
theorem mem_map_methodName_iff {members : List String} {method : String} :
    method ∈ (ofMembers members).map methodName ↔ method ∈ guardMethods ∧ method ∈ members := by
  simp only [ofMembers, guardMethods, List.mem_map, List.mem_filter, List.contains_iff_mem]
  constructor
  · rintro ⟨c, ⟨hc, hmember⟩, rfl⟩
    exact ⟨⟨c, hc, rfl⟩, hmember⟩
  · rintro ⟨⟨c, hc, rfl⟩, hmember⟩
    exact ⟨c, ⟨hc, hmember⟩, rfl⟩

end Capability

namespace Guard

/-- A guard as its file declares it. -/
structure Describes (classesOf : ClassReader) (source : GuardSource) (index : Nat)
    (guard : Guard) : Prop where
  sourcePath : guard.sourcePath = Path.normalize source.path
  directory : guard.directory = source.directory
  discoveryIndex : guard.discoveryIndex = index
  /-- The guard is the only class of its file and has as capabilities those members of the class
  that are guard methods. -/
  declared : ∃ declared, source.Exports classesOf declared ∧ declared.name = some guard.className ∧
    ∀ method, method ∈ guard.capabilities.map Capability.methodName ↔
      method ∈ guardMethods ∧ method ∈ declared.members
  /-- Every capability stands once and in its place. -/
  capabilities : guard.capabilities.Sublist Capability.all

variable {classesOf : ClassReader} {source : GuardSource} {index : Nat} {guard : Guard}
  {error : CompileError} {path : String} {declared : Script.ExportedClass}

theorem ofClass?_eq_some_iff :
    ofClass? path index declared = some guard ↔
      declared.IsGuard ∧ ∃ name, declared.name = some name ∧
        guard = ⟨path, Path.parent path, name, Capability.ofMembers declared.members, index⟩ := by
  have hmember : (∃ method ∈ guardMethods, method ∈ declared.members) ↔
      Capability.ofMembers declared.members ≠ [] := by
    simp only [← Capability.mem_map_methodName_iff, List.mem_map, ne_eq,
      List.eq_nil_iff_forall_not_mem, not_forall, not_not]
    exact ⟨fun ⟨_, c, hc, _⟩ => ⟨c, hc⟩, fun ⟨c, hc⟩ => ⟨_, c, hc, rfl⟩⟩
  rw [Script.ExportedClass.IsGuard, hmember, ofClass?]
  cases declared.name <;> cases Capability.ofMembers declared.members <;> simp [eq_comm]

theorem isSome_ofClass?_iff :
    (∃ guard, ofClass? path index declared = some guard) ↔ declared.IsGuard := by
  simp only [ofClass?_eq_some_iff]
  constructor
  · rintro ⟨_, hguard, -⟩
    exact hguard
  · rintro ⟨⟨name, hname⟩, hmethod⟩
    exact ⟨_, ⟨⟨name, hname⟩, hmethod⟩, name, hname, rfl⟩

/-- Reading a file yields the guard that it declares. -/
theorem describes_of_describe (h : describe classesOf source index = .ok guard) :
    guard.Describes classesOf source index := by
  obtain ⟨declared, hclasses, hclass⟩ := describe_eq_ok_iff.1 h
  obtain ⟨hguard, name, hname, hsame⟩ := ofClass?_eq_some_iff.1 hclass
  subst hsame
  have hexports : source.Exports classesOf declared := ⟨hclasses, hguard⟩
  refine ⟨rfl, ?_, rfl, ?_, List.filter_sublist⟩
  · rw [GuardSource.directory]
  · exact ⟨declared, hexports, hname, fun method => Capability.mem_map_methodName_iff⟩

theorem Describes.className?_eq (h : guard.Describes classesOf source index) :
    source.className? classesOf = some guard.className := by
  obtain ⟨declared, hexports, hname, -⟩ := h.declared
  rw [hexports.className?_eq, hname]

theorem exists_describe_eq_ok_iff :
    (∃ guard, describe classesOf source index = .ok guard) ↔
      ∃ declared, source.Exports classesOf declared := by
  simp only [describe_eq_ok_iff]
  rw [exists_comm]
  refine exists_congr fun declared => ?_
  rw [exists_and_left, isSome_ofClass?_iff]
  rfl

/-- Reading a file fails with the fault that the file has by itself. -/
theorem describe_eq_error_iff :
    describe classesOf source index = .error error ↔ source.HasOwnFault classesOf error := by
  have hnone : ∀ {declared}, ofClass? (Path.normalize source.path) index declared = none ↔
      ¬declared.IsGuard := by
    intro declared
    rw [← isSome_ofClass?_iff, Option.eq_none_iff_forall_ne_some, not_exists]
  constructor
  · intro h
    simp only [describe] at h
    rcases hclasses : classesOf (Path.normalize source.path) source.contents with
      _ | _ | ⟨declared, _ | ⟨other, more⟩⟩ <;> rw [hclasses] at h
    · cases h
      exact .noModule hclasses
    · cases h
      exact .noClass hclasses
    · cases hclass : ofClass? (Path.normalize source.path) index declared with
      | none =>
        simp only [hclass] at h
        cases h
        exact .noGuard hclasses (hnone.1 hclass)
      | some guard =>
        simp only [hclass] at h
        cases h
    · cases h
      exact .severalClasses hclasses
  · intro h
    cases h with
    | noModule h =>
      rw [GuardSource.classes] at h
      simp only [describe, h]
    | noClass h =>
      rw [GuardSource.classes] at h
      simp only [describe, h]
    | severalClasses h =>
      rw [GuardSource.classes] at h
      simp only [describe, h]
    | noGuard h hguard =>
      rw [GuardSource.classes] at h
      simp only [describe, h, hnone.2 hguard]

end Guard

/-! ## Loading -/

namespace GuardRegistry

variable {classesOf : ClassReader} {sources earlier : List GuardSource} {source : GuardSource}
  {registry : GuardRegistry} {guard : Guard} {error : CompileError} {index : Nat}

/-- One more file is read and its guard is added to those of the files in front of it. -/
theorem load_concat :
    load classesOf (earlier ++ [source]) = (do
      let registry ← load classesOf earlier
      registry.insert (← Guard.describe classesOf source earlier.length)) := by
  rw [load, List.zipIdx_append, List.foldlM_append, load]
  refine bind_congr fun registry => ?_
  rw [List.zipIdx_singleton, List.foldlM_cons]
  simp

/-- A guard is refused for its directory if an earlier guard has the directory, and else for its
class name. -/
theorem insert_eq_error_iff (h : registry.guards.Pairwise Guard.Apart) :
    registry.insert guard = .error error ↔
      (∃ first ∈ registry.guards, first.directory = guard.directory ∧
        error = .duplicateGuardDirectory guard.directory first.sourcePath guard.sourcePath) ∨
      (∀ first ∈ registry.guards, first.directory ≠ guard.directory) ∧
        ∃ first ∈ registry.guards, first.className = guard.className ∧
          error = .duplicateGuardClass guard.className first.sourcePath guard.sourcePath := by
  unfold insert
  cases hdirectory : registry.get? guard.directory with
  | some first =>
    obtain ⟨hfirst, hsame⟩ := (get?_eq_some_iff h).1 hdirectory
    simp only [Except.error.injEq]
    constructor
    · rintro rfl
      exact Or.inl ⟨first, hfirst, hsame, rfl⟩
    · rintro (⟨other, hother, hsame', rfl⟩ | ⟨hnew, -⟩)
      · have hfound := (get?_eq_some_iff h).2 ⟨hother, hsame'⟩
        rw [hdirectory] at hfound
        rw [Option.some.inj hfound]
      · exact absurd hsame (hnew first hfirst)
  | none =>
    have hnew : ∀ first ∈ registry.guards, first.directory ≠ guard.directory := by
      intro first hfirst
      simpa using List.find?_eq_none.1 hdirectory first hfirst
    rw [or_iff_right fun ⟨first, hfirst, hsame, _⟩ => hnew first hfirst hsame, and_iff_right hnew]
    cases hclass : registry.withClass? guard.className with
    | some first =>
      have hfirst := List.mem_of_find?_eq_some hclass
      have hsame : first.className = guard.className := by simpa using List.find?_some hclass
      simp only [Except.error.injEq]
      constructor
      · rintro rfl
        exact ⟨first, hfirst, hsame, rfl⟩
      · rintro ⟨other, hother, hsame', rfl⟩
        rw [eq_of_className_eq h hfirst hother (hsame.trans hsame'.symm)]
    | none =>
      refine iff_of_false (by simp) ?_
      rintro ⟨first, hfirst, hsame, -⟩
      exact absurd hsame (by simpa using List.find?_eq_none.1 hclass first hfirst)

section Loaded

variable (h : load classesOf sources = .ok registry)
include h

/-- The guards of a loaded registry are those that the files declare, in the order of the files. -/
theorem describes_of_load :
    List.Forall₂ (fun entry guard => guard.Describes classesOf entry.1 entry.2)
      sources.zipIdx registry.guards :=
  (load_eq_ok_iff.1 h).1.imp fun _ _ => Guard.describes_of_describe

/-- Whether some guard has certain names can be read off the files. -/
theorem exists_guard_iff_of_load {p : String → Option String → String → Prop} :
    (∃ guard ∈ registry.guards, p guard.directory (some guard.className) guard.sourcePath) ↔
      ∃ source ∈ sources,
        p source.directory (source.className? classesOf) (Path.normalize source.path) := by
  have hmap := map_eq_of_load h
    (f := fun guard => (guard.directory, some guard.className, guard.sourcePath))
    (g := fun source =>
      (source.directory, source.className? classesOf, Path.normalize source.path))
    fun hdescribe => by
      have hguard := Guard.describes_of_describe hdescribe
      rw [hguard.directory, hguard.className?_eq, hguard.sourcePath]
  constructor
  · rintro ⟨guard, hguard, hp⟩
    obtain ⟨source, hsource, heq⟩ := List.mem_map.1 (hmap ▸ List.mem_map_of_mem hguard)
    simp only [Prod.mk.injEq] at heq
    obtain ⟨hdirectory, hclass, hpath⟩ := heq
    exact ⟨source, hsource, by rwa [hdirectory, hclass, hpath]⟩
  · rintro ⟨source, hsource, hp⟩
    obtain ⟨guard, hguard, heq⟩ := List.mem_map.1 (hmap ▸ List.mem_map_of_mem hsource)
    simp only [Prod.mk.injEq] at heq
    obtain ⟨hdirectory, hclass, hpath⟩ := heq
    exact ⟨guard, hguard, by rwa [hdirectory, hclass, hpath]⟩

/-- A guard is refused for what an earlier file has in common with its own file. -/
theorem insert_eq_error_iff_of_load (hguard : guard.Describes classesOf source index) :
    registry.insert guard = .error error ↔
      (∃ first ∈ sources, first.directory = source.directory ∧
        error = .duplicateGuardDirectory source.directory (Path.normalize first.path)
          (Path.normalize source.path)) ∨
      (∀ other ∈ sources, other.directory ≠ source.directory) ∧
        ∃ first ∈ sources, first.className? classesOf = some guard.className ∧
          error = .duplicateGuardClass guard.className (Path.normalize first.path)
            (Path.normalize source.path) := by
  have hdirectory := exists_guard_iff_of_load h (p := fun d _ path => d = source.directory ∧
    error = .duplicateGuardDirectory source.directory path (Path.normalize source.path))
  have hclass := exists_guard_iff_of_load h (p := fun _ c path => c = some guard.className ∧
    error = .duplicateGuardClass guard.className path (Path.normalize source.path))
  have hnew := exists_guard_iff_of_load h (p := fun d _ _ => d = source.directory)
  simp only [Option.some.injEq] at hclass
  rw [insert_eq_error_iff (load_eq_ok_iff.1 h).2, hguard.directory, hguard.sourcePath, hdirectory,
    hclass]
  refine or_congr_right (and_congr_left fun _ => ?_)
  simpa only [not_exists, not_and] using not_congr hnew

/-- Behind files that were loaded a file fails with its gravest fault. -/
theorem insert_describe_eq_error_iff :
    (do registry.insert (← Guard.describe classesOf source index)) = .error error ↔
      source.HasFault classesOf sources error := by
  rw [bind_eq_error_iff, Guard.describe_eq_error_iff]
  constructor
  · rintro (hown | ⟨guard, hguard, hinsert⟩)
    · exact .own hown
    have hdescribes := Guard.describes_of_describe hguard
    obtain ⟨declared, hexports, hname, -⟩ := hdescribes.declared
    rcases (insert_eq_error_iff_of_load h hdescribes).1 hinsert with
      ⟨first, hfirst, hsame, rfl⟩ | ⟨hnew, first, hfirst, hsame, rfl⟩
    · exact .directory hexports hfirst hsame
    · exact .className hexports hname hnew hfirst hsame
  · intro hfault
    -- a file without faults of its own declares a guard
    have hdescribed : ∀ {declared}, source.Exports classesOf declared → ∃ guard,
        Guard.describe classesOf source index = .ok guard :=
      fun hexports => Guard.exists_describe_eq_ok_iff.2 ⟨_, hexports⟩
    cases hfault with
    | own hown => exact Or.inl hown
    | directory hexports hfirst hsame =>
      obtain ⟨guard, hguard⟩ := hdescribed hexports
      refine Or.inr ⟨guard, hguard, ?_⟩
      rw [insert_eq_error_iff_of_load h (Guard.describes_of_describe hguard)]
      exact Or.inl ⟨_, hfirst, hsame, rfl⟩
    | className hexports hname hnew hfirst hsame =>
      obtain ⟨guard, hguard⟩ := hdescribed hexports
      have hdescribes := Guard.describes_of_describe hguard
      have hclass := hdescribes.className?_eq
      rw [hexports.className?_eq, hname, Option.some.injEq] at hclass
      subst hclass
      refine Or.inr ⟨guard, hguard, ?_⟩
      rw [insert_eq_error_iff_of_load h hdescribes]
      exact Or.inr ⟨hnew, _, hfirst, hsame, rfl⟩

end Loaded

/-- Loading fails with the first fault of a file. -/
theorem load_eq_error_iff :
    load classesOf sources = .error error ↔
      ∃ i, GuardSource.IsFirstFault classesOf sources i error := by
  -- the induction is on the files in the order of their reading
  induction sources using List.reverseRecOn generalizing error with
  | nil =>
    refine iff_of_false (fun h => by cases h) ?_
    rintro ⟨i, h⟩
    exact absurd (GuardSource.lt_length_of_faultAt h.fault) (Nat.not_lt_zero i)
  | append_singleton earlier source ih =>
    simp only [GuardSource.isFirstFault_concat_iff, exists_or, ← ih, exists_eq_left]
    rw [load_concat, bind_eq_error_iff]
    refine or_congr_right ?_
    constructor
    · rintro ⟨registry, hload, hstep⟩
      refine ⟨(insert_describe_eq_error_iff hload).1 hstep, fun j other hfault => ?_⟩
      obtain ⟨k, another, hfirst⟩ := GuardSource.exists_isFirstFault hfault
      have hfails := ih.2 ⟨k, hfirst⟩
      rw [hload] at hfails
      cases hfails
    · rintro ⟨hfault, hnone⟩
      cases hload : load classesOf earlier with
      | error other =>
        obtain ⟨k, hfirst⟩ := ih.1 hload
        exact absurd hfirst.fault (hnone k other)
      | ok registry => exact ⟨registry, rfl, (insert_describe_eq_error_iff hload).2 hfault⟩

/-- Loading ends well exactly if each file exports one guard and no two files share a directory or a
class name. -/
theorem exists_load_eq_ok_iff :
    (∃ registry, load classesOf sources = .ok registry) ↔
      GuardSource.Acceptable classesOf sources := by
  constructor
  · rintro ⟨registry, h⟩
    obtain ⟨hall, hapart⟩ := load_eq_ok_iff.1 h
    refine ⟨fun source hsource => ?_, ?_, ?_⟩
    · obtain ⟨n, hn, rfl⟩ := List.getElem_of_mem hsource
      have hentry : n < sources.zipIdx.length := by rwa [List.length_zipIdx]
      have hguard := hall.get hentry (hall.length_eq ▸ hentry)
      rw [List.get_eq_getElem, List.getElem_zipIdx] at hguard
      exact Guard.exists_describe_eq_ok_iff.1 ⟨_, hguard⟩
    · rw [← map_eq_of_load h fun hguard => (Guard.describes_of_describe hguard).directory]
      exact List.pairwise_map.2 (hapart.imp fun hab => hab.1)
    · rw [← map_eq_of_load h (f := fun guard => some guard.className)
        fun hguard => (Guard.describes_of_describe hguard).className?_eq.symm]
      exact List.pairwise_map.2 (hapart.imp fun hab heq => hab.2 (Option.some.inj heq))
  · intro h
    cases hload : load classesOf sources with
    | ok registry => exact ⟨registry, rfl⟩
    | error error =>
      -- the first file with a fault would not be acceptable
      obtain ⟨i, hfault⟩ := load_eq_error_iff.1 hload
      obtain ⟨source, hsource, hfault⟩ := hfault.fault
      obtain ⟨declared, hexports⟩ := h.exports source (List.mem_of_getElem? hsource)
      cases hfault with
      | own hown => exact absurd hexports (hown.not_exports declared)
      | directory _ hfirst hsame =>
        exact absurd hsame (GuardSource.ne_of_mem_take h.directories hsource hfirst)
      | className hexports hname _ hfirst hsame =>
        refine absurd ?_ (GuardSource.ne_of_mem_take h.classNames hsource hfirst)
        rw [hsame, hexports.className?_eq, hname]

/-- How guard files are loaded. -/
structure LoadsByRules (classesOf : ClassReader) (sources : List GuardSource) : Prop where
  /-- Loading ends well exactly for acceptable files. -/
  succeeds_iff : (∃ registry, load classesOf sources = .ok registry) ↔
    GuardSource.Acceptable classesOf sources
  /-- The registry lists the guards that the files declare, in their order. -/
  describes : ∀ registry, load classesOf sources = .ok registry →
    List.Forall₂ (fun entry guard => guard.Describes classesOf entry.1 entry.2)
      sources.zipIdx registry.guards
  /-- At a directory the only guard is found that has it, if there is one. -/
  finds : ∀ registry, load classesOf sources = .ok registry → ∀ directory guard,
    registry.get? directory = some guard ↔ guard ∈ registry.guards ∧ guard.directory = directory
  /-- Loading fails with the gravest fault of the first file that has one. -/
  fails_iff : ∀ error, load classesOf sources = .error error ↔
    ∃ i, GuardSource.IsFirstFault classesOf sources i error

/-- Guard files are loaded by the rules, however their classes are read. -/
theorem loadsByRules (classesOf : ClassReader) (sources : List GuardSource) :
    LoadsByRules classesOf sources where
  succeeds_iff := exists_load_eq_ok_iff
  describes _ := describes_of_load
  finds _ h _ _ := get?_eq_some_iff (load_eq_ok_iff.1 h).2
  fails_iff _ := load_eq_error_iff

/-- The second file shares with the first one its directory, which is spelled in another way, and
the name of its class. -/
example : load (fun _ _ => .ok [⟨some "Gate", ["canActivate"]⟩])
    [⟨"docs/index.guard.ts", ""⟩, ⟨".\\docs//index.guard.ts", ""⟩] =
      .error (.duplicateGuardDirectory "docs" "docs/index.guard.ts" "docs/index.guard.ts") := by
  decide +kernel

end GuardRegistry

end PageRoutes
