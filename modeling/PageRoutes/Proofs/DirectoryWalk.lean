import PageRoutes.Discovery
import PageRoutes.Proofs.DiskTree
import PageRoutes.Proofs.KeyedLists
import PageRoutes.Proofs.ParsedPage
import Mathlib.Data.List.Sort
import Mathlib.Data.String.Basic

/-!
# The walk through a directory

On a disk that is a tree the walk meets every file below a directory once, except below what is
passed over, and in the lexicographic order of the names on the way.  So what is discovered depends
only on which page and guard files there are and on the bytes of the guard files: it stays the same
under changes that leave those alone.
-/

namespace PageRoutes

namespace Disk

variable {disk : Disk} {directory names : List String} {name : String}

/-! ## What lies in a directory -/

theorem nameIn?_eq_some_iff :
    nameIn? directory names = some name ↔ names = directory ++ [name] := by
  unfold nameIn?
  constructor
  · intro h
    split at h
    · rename_i hdirectory
      rw [← hdirectory]
      exact (List.dropLast_append_getLast? name h).symm
    · cases h
  · rintro rfl
    rw [List.dropLast_concat, if_pos rfl, List.getLast?_concat]

/-- The entries of a directory are the directories and files that lie directly in it. -/
theorem mem_entries_iff : name ∈ disk.entries directory ↔
    disk.isDirectory (directory ++ [name]) = true ∨
      (disk.bytes? (directory ++ [name])).isSome = true := by
  have hdirectory : disk.isDirectory (directory ++ [name]) = true ↔
      directory ++ [name] ∈ disk.directories :=
    ⟨fun h => mem_directories h (List.append_ne_nil_of_right_ne_nil _ (List.cons_ne_nil _ _)),
      isDirectory_of_mem⟩
  rw [entries, List.mem_mergeSort, List.mem_eraseDups, List.mem_filterMap, hdirectory,
    isSome_bytes?_iff, ← List.mem_append]
  simp only [nameIn?_eq_some_iff, exists_eq_right]

/-- The entries of a directory come in the order of their names, each once. -/
theorem pairwise_entries (disk : Disk) (directory : List String) :
    (disk.entries directory).Pairwise (· < ·) := by
  rw [entries]
  generalize (disk.directories ++ disk.files.map (·.1)).filterMap (nameIn? directory) = found
  have hsorted : (found.eraseDups.mergeSort fun a b => a ≤ b).Pairwise (· ≤ ·) := by
    refine (List.pairwise_mergeSort ?_ ?_ _).imp of_decide_eq_true
    · intro a b c hab hbc
      exact decide_eq_true ((of_decide_eq_true hab).trans (of_decide_eq_true hbc))
    · intro a b
      simpa using le_total a b
  have hnodup : (found.eraseDups.mergeSort fun a b => a ≤ b).Nodup := by
    have honce := nodup_map_eraseDupsBy id found
    rw [List.map_id] at honce
    exact (List.mergeSort_perm _ _).nodup_iff.2 honce
  exact (hsorted.and hnodup).imp fun h => lt_of_le_of_ne h.1 h.2

/-- No file is deeper than the disk. -/
theorem length_le_height (h : (disk.bytes? names).isSome = true) : names.length ≤ disk.height := by
  refine List.le_max?_getD_of_mem (List.mem_map_of_mem ?_)
  exact List.mem_append_right _ (isSome_bytes?_iff.1 h)

end Disk

namespace Discovery

open Disk

variable {disk after : Disk} {directory names : List String} {location name : String} {levels : Nat}

/-! ## The walk -/

/-- What the walk finds under one name of a directory. -/
def below (disk : Disk) (directory : List String) (levels : Nat) (name : String) :
    List (List String) :=
  if (disk.bytes? (directory ++ [name])).isSome then [[name]]
  else (walk disk (directory ++ [name]) levels).map (name :: ·)

theorem walk_succ (disk : Disk) (directory : List String) (levels : Nat) :
    walk disk directory (levels + 1) =
      ((disk.entries directory).filter (· != ignoredName)).flatMap (below disk directory levels) :=
  rfl

theorem head?_of_mem_below (h : names ∈ below disk directory levels name) :
    names.head? = some name := by
  unfold below at h
  split at h
  · rw [List.mem_singleton.1 h]
    rfl
  · obtain ⟨rest, -, rfl⟩ := List.mem_map.1 h
    rfl

/-- The walk meets the files in the lexicographic order of the names on the way, each once. -/
theorem pairwise_walk (disk : Disk) (directory : List String) (levels : Nat) :
    (walk disk directory levels).Pairwise (· < ·) := by
  induction levels generalizing directory with
  | zero => exact List.Pairwise.nil
  | succ levels ih =>
    rw [walk_succ, List.pairwise_flatMap]
    constructor
    · intro name _
      unfold below
      split
      · exact List.pairwise_singleton _ _
      · refine List.pairwise_map.2 ((ih (directory ++ [name])).imp fun hlt => ?_)
        exact List.cons_lt_cons_iff.2 (Or.inr ⟨rfl, hlt⟩)
    · refine ((disk.pairwise_entries directory).filter _).imp fun {a b} hlt x hx y hy => ?_
      obtain ⟨xs, rfl⟩ := List.head?_eq_some_iff.1 (head?_of_mem_below hx)
      obtain ⟨ys, rfl⟩ := List.head?_eq_some_iff.1 (head?_of_mem_below hy)
      exact List.cons_lt_cons_iff.2 (Or.inl hlt)

/-- The first name leads to an entry, under which the walk goes on. -/
theorem cons_mem_walk_iff {rest : List String} :
    name :: rest ∈ walk disk directory (levels + 1) ↔
      (name ∈ disk.entries directory ∧ name ≠ ignoredName) ∧
        name :: rest ∈ below disk directory levels name := by
  simp only [walk_succ, List.mem_flatMap, List.mem_filter, bne_iff_ne]
  constructor
  · rintro ⟨other, hother, hbelow⟩
    obtain rfl : name = other := Option.some.inj (head?_of_mem_below hbelow)
    exact ⟨hother, hbelow⟩
  · exact fun h => ⟨name, h⟩

theorem ne_nil_of_mem_walk (h : names ∈ walk disk directory levels) : names ≠ [] := by
  rintro rfl
  cases levels with
  | zero => exact List.not_mem_nil h
  | succ levels =>
    rw [walk_succ] at h
    obtain ⟨name, -, hbelow⟩ := List.mem_flatMap.1 h
    cases head?_of_mem_below hbelow

/-- The walk meets the files that lie at most so many levels deep, except below what is passed
over. -/
theorem mem_walk_iff (h : disk.IsTree) :
    names ∈ walk disk directory levels ↔
      names ≠ [] ∧ names.length ≤ levels ∧ ignoredName ∉ names ∧
        (disk.bytes? (directory ++ names)).isSome = true := by
  induction levels generalizing directory names with
  | zero =>
    refine iff_of_false List.not_mem_nil ?_
    rintro ⟨hne, hlength, -⟩
    exact hne (List.length_eq_zero_iff.1 (Nat.le_zero.1 hlength))
  | succ levels ih =>
    cases names with
    | nil => exact iff_of_false (fun hwalk => ne_nil_of_mem_walk hwalk rfl) fun hall => hall.1 rfl
    | cons name rest =>
      have happend : directory ++ name :: rest = directory ++ [name] ++ rest := by simp
      rw [cons_mem_walk_iff, mem_entries_iff, below, happend]
      by_cases hfile : (disk.bytes? (directory ++ [name])).isSome = true
      · rw [if_pos hfile, List.mem_singleton, List.cons.injEq, and_iff_right rfl]
        constructor
        · rintro ⟨⟨-, hname⟩, rfl⟩
          simp [hfile, Ne.symm hname]
        · rintro ⟨-, -, hname, hsome⟩
          exact ⟨⟨Or.inr hfile, Ne.symm (List.ne_of_not_mem_cons hname)⟩,
            h.eq_nil_of_isSome_append hfile hsome⟩
      · have hcons : name :: rest ∈ (walk disk (directory ++ [name]) levels).map (name :: ·) ↔
            rest ∈ walk disk (directory ++ [name]) levels := by simp
        rw [if_neg hfile, or_iff_left hfile, hcons, ih]
        simp only [List.mem_cons, not_or, List.length_cons, Nat.add_le_add_iff_right, ne_eq,
          reduceCtorEq, not_false_eq_true, true_and]
        constructor
        · rintro ⟨⟨-, hname⟩, -, hlength, hrest, hsome⟩
          exact ⟨hlength, ⟨Ne.symm hname, hrest⟩, hsome⟩
        · rintro ⟨hlength, ⟨hname, hrest⟩, hsome⟩
          cases rest with
          | nil => exact absurd (by rwa [List.append_nil] at hsome) hfile
          | cons second others =>
            exact ⟨⟨h.isDirectory_of_isSome hsome, Ne.symm hname⟩, List.cons_ne_nil _ _, hlength,
              hrest, hsome⟩

/-- A walk as deep as the disk meets every file below the directory, except below what is passed
over. -/
theorem mem_walk_height_iff (h : disk.IsTree) :
    names ∈ walk disk directory (disk.height + 1) ↔
      names ≠ [] ∧ ignoredName ∉ names ∧ (disk.bytes? (directory ++ names)).isSome = true := by
  rw [mem_walk_iff h]
  refine and_congr_right fun _ => ?_
  constructor
  · rintro ⟨-, hignored, hsome⟩
    exact ⟨hignored, hsome⟩
  · rintro ⟨hignored, hsome⟩
    refine ⟨?_, hignored, hsome⟩
    have hheight := length_le_height hsome
    rw [List.length_append] at hheight
    omega

/-! ## Discovering -/

/-- In a directory the guard files are read, and nothing else can fail. -/
theorem discover_eq_map (hresolve : disk.resolve? location = some directory)
    (hdirectory : disk.isDirectory directory = true) :
    discover disk location =
      ((filesNamed guardFile (files disk location directory)).mapM
        (readGuard disk location directory)).map fun guards =>
          ⟨(filesNamed pageFile (files disk location directory)).map Path.ofParts, guards⟩ := by
  have hfilter : (disk.resolve? location).filter disk.isDirectory = some directory :=
    Option.filter_eq_some_iff.2 ⟨hresolve, hdirectory⟩
  unfold discover
  simp only [hfilter]
  cases (filesNamed guardFile (files disk location directory)).mapM
    (readGuard disk location directory) <;> rfl

theorem exists_isDirectory_of_discover {found : Discovered}
    (hfound : discover disk location = .ok found) :
    ∃ directory, disk.resolve? location = some directory ∧ disk.isDirectory directory = true := by
  unfold discover at hfound
  split at hfound
  · cases hfound
  · exact ⟨_, Option.filter_eq_some_iff.1 ‹_›⟩

/-- What is discovered as a page ends in the name of a page file. -/
theorem getLast?_of_mem_pagePaths {found : Discovered} (hfound : discover disk location = .ok found)
    {path : String} (hpath : path ∈ found.pagePaths) :
    ∃ names, path = Path.ofParts names ∧ names.getLast? = some pageFile := by
  obtain ⟨directory, hresolve, hdirectory⟩ := exists_isDirectory_of_discover hfound
  rw [discover_eq_map hresolve hdirectory] at hfound
  obtain ⟨guards, -, rfl⟩ := map_eq_ok_iff.1 hfound
  obtain ⟨names, hnames, rfl⟩ := List.mem_map.1 hpath
  exact ⟨names, rfl, by simpa using (List.mem_filter.1 hnames).2⟩

/-! ## What a change leaves to discover -/

section Keeps

variable {changeable : List String}

/-- A file with a name that does not change has the bytes it had. -/
theorem bytes?_eq_of_keeps (hkeeps : Keeps changeable disk after) (hname : name ∉ changeable)
    (hlast : names.getLast? = some name) :
    after.bytes? (directory ++ names) = disk.bytes? (directory ++ names) := by
  refine hkeeps.bytes?_eq _ fun other hother heq => ?_
  have hne : names ≠ [] := by
    rintro rfl
    cases hlast
  rw [List.getLast?_append_of_ne_nil _ hne, hlast, Option.some.injEq] at heq
  exact hname (heq ▸ hother)

/-- The walk meets the same files of a name that does not change. -/
theorem filesNamed_files_eq (h : disk.IsTree) (hkeeps : Keeps changeable disk after)
    (hname : name ∉ changeable) :
    filesNamed name (files after location directory) =
      filesNamed name (files disk location directory) := by
  unfold files filesNamed
  split
  · rfl
  · refine ((pairwise_walk after directory _).filter _).eq_of_mem_iff
      ((pairwise_walk disk directory _).filter _) fun names => ?_
    rw [List.mem_filter, List.mem_filter, mem_walk_height_iff hkeeps.isTree, mem_walk_height_iff h,
      beq_iff_eq]
    refine and_congr_left fun hlast => ?_
    rw [bytes?_eq_of_keeps hkeeps hname hlast]

/-- Whether and what is discovered stays the same under changes to files that are neither pages nor
guards. -/
theorem discover_congr_of_keeps (h : disk.IsTree) (hkeeps : Keeps changeable disk after)
    (hpage : pageFile ∉ changeable) (hguard : guardFile ∉ changeable)
    (hresolve : disk.resolve? location = some directory)
    (hdirectory : disk.isDirectory directory = true) :
    discover after location = discover disk location := by
  have hguards : (filesNamed guardFile (files disk location directory)).mapM
      (readGuard after location directory) =
        (filesNamed guardFile (files disk location directory)).mapM
          (readGuard disk location directory) := by
    refine mapM_congr fun names hnames => ?_
    have hlast := (List.mem_filter.1 hnames).2
    rw [readGuard, readGuard, bytes?_eq_of_keeps hkeeps hguard (by simpa using hlast)]
  rw [discover_eq_map hresolve hdirectory,
    discover_eq_map (hkeeps.resolve?_eq_some hresolve) (hkeeps.isDirectory _ hdirectory),
    filesNamed_files_eq h hkeeps hpage, filesNamed_files_eq h hkeeps hguard, hguards]

/-- What is discovered stays the same under changes to files that are neither pages nor guards. -/
theorem discover_eq_of_keeps (h : disk.IsTree) (hkeeps : Keeps changeable disk after)
    (hpage : pageFile ∉ changeable) (hguard : guardFile ∉ changeable) {found : Discovered}
    (hfound : discover disk location = .ok found) : discover after location = .ok found := by
  obtain ⟨directory, hresolve, hdirectory⟩ := exists_isDirectory_of_discover hfound
  rw [discover_congr_of_keeps h hkeeps hpage hguard hresolve hdirectory, hfound]

end Keeps

end Discovery

end PageRoutes
