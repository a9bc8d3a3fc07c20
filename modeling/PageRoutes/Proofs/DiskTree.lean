import PageRoutes.Disk
import Mathlib.Data.List.Induction

/-!
# Disks as trees

On a disk that is a tree everything lies in a directory, and no names lead to a directory and to a
file at once.  Making directories and writing files in existing ones keeps a tree a tree.  What such
a change leaves alone is said by one relation between the disk before and the disk after; locations
that lead somewhere before lead there afterwards.
-/

attribute [ext] PageRoutes.Disk

namespace PageRoutes.Disk

variable {disk after later : Disk} {names : List String} {bytes : ByteArray} {location : String}

/-- A disk on which everything lies in a directory and nothing is a directory and a file at once. -/
structure IsTree (disk : Disk) : Prop where
  directories_below : ∀ names ∈ disk.directories, disk.isDirectory names.dropLast = true
  files_below : ∀ file ∈ disk.files, disk.isDirectory file.1.dropLast = true
  files_apart : ∀ file ∈ disk.files, disk.isDirectory file.1 = false
  workingDirectory : disk.isDirectory disk.workingDirectory = true

instance (disk : Disk) : Decidable disk.IsTree :=
  decidable_of_iff
    ((∀ names ∈ disk.directories, disk.isDirectory names.dropLast = true) ∧
      (∀ file ∈ disk.files,
        disk.isDirectory file.1.dropLast = true ∧ disk.isDirectory file.1 = false) ∧
      disk.isDirectory disk.workingDirectory = true)
    ⟨fun h => ⟨h.1, fun file hfile => (h.2.1 file hfile).1, fun file hfile => (h.2.1 file hfile).2,
        h.2.2⟩,
      fun h => ⟨h.1, fun file hfile => ⟨h.2 file hfile, h.3 file hfile⟩, h.4⟩⟩

/-! ## Looking at a tree -/

theorem isDirectory_of_mem (h : names ∈ disk.directories) : disk.isDirectory names = true := by
  rw [isDirectory, List.contains_iff_mem.2 h, Bool.or_true]

theorem mem_directories (h : disk.isDirectory names = true) (hne : names ≠ []) :
    names ∈ disk.directories := by
  rw [isDirectory, Bool.or_eq_true, List.isEmpty_iff, or_iff_right hne] at h
  exact List.contains_iff_mem.1 h

/-- There is a file exactly where the list of files has one. -/
theorem isSome_bytes?_iff : (disk.bytes? names).isSome = true ↔ names ∈ disk.files.map (·.1) := by
  rw [bytes?, List.lookup_isSome_iff, List.mem_map]
  simp only [beq_iff_eq]
  exact exists_congr fun file => and_congr_right fun _ => eq_comm

namespace IsTree

theorem isDirectory_dropLast (h : disk.IsTree) (hnames : disk.isDirectory names = true) :
    disk.isDirectory names.dropLast = true := by
  by_cases hnil : names = []
  · rw [hnil]
    rfl
  · exact h.directories_below names (mem_directories hnames hnil)

/-- A file lies in a directory. -/
theorem isDirectory_dropLast_of_isSome (h : disk.IsTree)
    (hnames : (disk.bytes? names).isSome = true) :
    disk.isDirectory names.dropLast = true := by
  obtain ⟨file, hfile, rfl⟩ := List.mem_map.1 (isSome_bytes?_iff.1 hnames)
  exact h.files_below file hfile

theorem isDirectory_eq_false (h : disk.IsTree) (hnames : (disk.bytes? names).isSome = true) :
    disk.isDirectory names = false := by
  obtain ⟨file, hfile, rfl⟩ := List.mem_map.1 (isSome_bytes?_iff.1 hnames)
  exact h.files_apart file hfile

/-- Around a directory there are directories all the way up. -/
theorem isDirectory_of_append (h : disk.IsTree) {rest : List String}
    (hnames : disk.isDirectory (names ++ rest) = true) : disk.isDirectory names = true := by
  induction rest using List.reverseRecOn with
  | nil => rwa [List.append_nil] at hnames
  | append_singleton rest name ih =>
    have hparent := h.isDirectory_dropLast hnames
    rw [← List.append_assoc, List.dropLast_concat] at hparent
    exact ih hparent

/-- Around a file there are directories all the way up. -/
theorem isDirectory_of_isSome (h : disk.IsTree) {name : String} {rest : List String}
    (hnames : (disk.bytes? (names ++ name :: rest)).isSome = true) :
    disk.isDirectory names = true := by
  have hparent := h.isDirectory_dropLast_of_isSome hnames
  rw [List.dropLast_append_of_ne_nil (List.cons_ne_nil _ _)] at hparent
  exact h.isDirectory_of_append hparent

/-- Nothing lies in a file. -/
theorem eq_nil_of_isSome_append (h : disk.IsTree) {rest : List String}
    (hfile : (disk.bytes? names).isSome = true)
    (hsome : (disk.bytes? (names ++ rest)).isSome = true) : rest = [] := by
  cases rest with
  | nil => rfl
  | cons name rest =>
    have hdirectory := h.isDirectory_of_isSome hsome
    rw [h.isDirectory_eq_false hfile] at hdirectory
    cases hdirectory

/-- One piece of a location leads from a directory to a directory or to something in it. -/
theorem isDirectory_step_or (h : disk.IsTree) (hnames : disk.isDirectory names = true)
    (piece : String) :
    disk.isDirectory (Location.step names piece) = true ∨
      Location.step names piece = names ++ [piece] := by
  unfold Location.step
  split
  · exact Or.inl hnames
  · split
    · exact Or.inl (h.isDirectory_dropLast hnames)
    · exact Or.inr rfl

end IsTree

/-! ## Changing a tree -/

theorem files_put (disk : Disk) (names : List String) (bytes : ByteArray) :
    (disk.put names bytes).files = (names, bytes) :: disk.files.filter (·.1 != names) :=
  rfl

theorem put_put (disk : Disk) (names : List String) (first second : ByteArray) :
    (disk.put names first).put names second = disk.put names second := by
  simp [put, List.filter_filter]

theorem bytes?_put (disk : Disk) (names other : List String) (bytes : ByteArray) :
    (disk.put names bytes).bytes? other =
      if other = names then some bytes else disk.bytes? other := by
  have hfilter : ∀ files : List (List String × ByteArray), other ≠ names →
      (files.filter (·.1 != names)).lookup other = files.lookup other := by
    intro files hne
    induction files with
    | nil => rfl
    | cons file files ih =>
      rw [List.filter_cons]
      split
      · rw [List.lookup_cons, List.lookup_cons, ih]
      · rename_i heq
        have hfile : (other == file.1) = false := by
          rw [beq_eq_false_iff_ne]
          rintro rfl
          exact heq (by simpa using hne)
        rw [ih, List.lookup_cons, hfile]
  rw [put, bytes?, List.lookup_cons]
  by_cases heq : other = names
  · rw [if_pos heq, heq, beq_self_eq_true]
  · rw [if_neg heq, beq_eq_false_iff_ne.2 heq]
    exact hfilter _ heq

theorem IsTree.put (h : disk.IsTree) (hparent : disk.isDirectory names.dropLast = true)
    (hnames : disk.isDirectory names = false) (bytes : ByteArray) :
    (disk.put names bytes).IsTree := by
  refine ⟨h.directories_below, fun file hfile => ?_, fun file hfile => ?_, h.workingDirectory⟩
  · rcases List.mem_cons.1 hfile with rfl | hold
    · exact hparent
    · exact h.files_below file (List.mem_filter.1 hold).1
  · rcases List.mem_cons.1 hfile with rfl | hold
    · exact hnames
    · exact h.files_apart file (List.mem_filter.1 hold).1

theorem isDirectory_addDirectory {added : List String} :
    (disk.addDirectory added).isDirectory names = true ↔
      names = added ∨ disk.isDirectory names = true := by
  simp only [addDirectory, isDirectory, List.contains_cons, Bool.or_eq_true, beq_iff_eq]
  exact or_left_comm

theorem IsTree.addDirectory (h : disk.IsTree) (hparent : disk.isDirectory names.dropLast = true)
    (hnames : disk.bytes? names = none) : (disk.addDirectory names).IsTree := by
  refine ⟨fun directory hdirectory => ?_, fun file hfile => ?_, fun file hfile => ?_, ?_⟩
  · refine isDirectory_addDirectory.2 (Or.inr ?_)
    rcases List.mem_cons.1 hdirectory with rfl | hold
    · exact hparent
    · exact h.directories_below directory hold
  · exact isDirectory_addDirectory.2 (Or.inr (h.files_below file hfile))
  · rw [← Bool.not_eq_true, isDirectory_addDirectory, not_or, Bool.not_eq_true]
    refine ⟨?_, h.files_apart file hfile⟩
    rintro rfl
    have hsome : (disk.bytes? file.1).isSome = true :=
      isSome_bytes?_iff.2 (List.mem_map_of_mem hfile)
    rw [hnames] at hsome
    cases hsome
  · exact isDirectory_addDirectory.2 (Or.inr h.workingDirectory)

/-! ## What a change leaves alone -/

/-- How a disk is changed by making directories, whatever becomes of its files. -/
structure Grows (disk after : Disk) : Prop where
  workingDirectory : after.workingDirectory = disk.workingDirectory
  isDirectory : ∀ names, disk.isDirectory names = true → after.isDirectory names = true

namespace Grows

theorem refl (disk : Disk) : disk.Grows disk :=
  ⟨rfl, fun _ => id⟩

theorem trans (h : disk.Grows after) (h' : after.Grows later) : disk.Grows later :=
  ⟨h'.workingDirectory.trans h.workingDirectory,
    fun names hnames => h'.isDirectory names (h.isDirectory names hnames)⟩

theorem put (disk : Disk) (names : List String) (bytes : ByteArray) :
    disk.Grows (disk.put names bytes) :=
  ⟨rfl, fun _ => id⟩

theorem addDirectory (disk : Disk) (names : List String) : disk.Grows (disk.addDirectory names) :=
  ⟨rfl, fun _ hother => isDirectory_addDirectory.2 (Or.inr hother)⟩

theorem start_eq (h : disk.Grows after) (location : String) :
    after.start location = disk.start location := by
  rw [start, start, h.workingDirectory]

end Grows

/-- How a disk is changed by making directories and by writing files called one of
`changeable`. -/
structure Keeps (changeable : List String) (disk after : Disk) : Prop where
  isTree : after.IsTree
  workingDirectory : after.workingDirectory = disk.workingDirectory
  isDirectory : ∀ names, disk.isDirectory names = true → after.isDirectory names = true
  /-- No file is removed. -/
  isSome_bytes? : ∀ names, (disk.bytes? names).isSome = true → (after.bytes? names).isSome = true
  /-- Files with other names keep their bytes, and none comes into being. -/
  bytes?_eq : ∀ names, (∀ name ∈ changeable, names.getLast? ≠ some name) →
    after.bytes? names = disk.bytes? names

namespace Keeps

variable {changeable : List String}

theorem grows (h : Keeps changeable disk after) : disk.Grows after :=
  ⟨h.workingDirectory, h.isDirectory⟩

theorem refl (h : disk.IsTree) : Keeps changeable disk disk :=
  ⟨h, rfl, fun _ => id, fun _ => id, fun _ _ => rfl⟩

theorem trans (h : Keeps changeable disk after) (h' : Keeps changeable after later) :
    Keeps changeable disk later where
  isTree := h'.isTree
  workingDirectory := h'.workingDirectory.trans h.workingDirectory
  isDirectory := fun names hnames => h'.isDirectory names (h.isDirectory names hnames)
  isSome_bytes? := fun names hnames => h'.isSome_bytes? names (h.isSome_bytes? names hnames)
  bytes?_eq := fun names hnames => (h'.bytes?_eq names hnames).trans (h.bytes?_eq names hnames)

theorem put (h : disk.IsTree) {name : String} (hname : name ∈ changeable)
    (hparent : disk.isDirectory names = true) (hnames : disk.isDirectory (names ++ [name]) = false)
    (bytes : ByteArray) : Keeps changeable disk (disk.put (names ++ [name]) bytes) where
  isTree := h.put (by rwa [List.dropLast_concat]) hnames bytes
  workingDirectory := rfl
  isDirectory := fun _ => id
  isSome_bytes? := fun other hother => by
    rw [bytes?_put]
    split
    · rfl
    · exact hother
  bytes?_eq := fun other hother => by
    rw [bytes?_put, if_neg]
    rintro rfl
    exact hother name hname List.getLast?_concat

theorem addDirectory (h : disk.IsTree) (hparent : disk.isDirectory names.dropLast = true)
    (hnames : disk.bytes? names = none) : Keeps changeable disk (disk.addDirectory names) :=
  ⟨h.addDirectory hparent hnames, rfl, fun _ hother => isDirectory_addDirectory.2 (Or.inr hother),
    fun _ => id, fun _ _ => rfl⟩

end Keeps

/-! ### Making directories -/

section Directories

variable {changeable pieces : List String}

/-- What making one more directory along a way comes to: the directory is there already, a file is
in the way, or the directory is made. -/
theorem makeAlong_cons (disk : Disk) (names : List String) (piece : String) (rest : List String) :
    disk.makeAlong names (piece :: rest) =
      if disk.isDirectory (Location.step names piece) then
        disk.makeAlong (Location.step names piece) rest
      else if (disk.bytes? (Location.step names piece)).isSome then (disk, false)
      else (disk.addDirectory (Location.step names piece)).makeAlong (Location.step names piece)
        rest :=
  rfl

/-- A directory that is made lies in the one reached before. -/
theorem IsTree.keeps_addDirectory_step (h : disk.IsTree) (hnames : disk.isDirectory names = true)
    {piece : String} (hnew : ¬disk.isDirectory (Location.step names piece) = true)
    (hfree : ¬(disk.bytes? (Location.step names piece)).isSome = true) :
    Keeps changeable disk (disk.addDirectory (Location.step names piece)) := by
  refine Keeps.addDirectory h ?_ (by simpa using hfree)
  rw [(h.isDirectory_step_or hnames piece).resolve_left hnew, List.dropLast_concat]
  exact hnames

/-- Making directories along a way keeps what there is, also if a file is in the way. -/
theorem IsTree.keeps_makeAlong (h : disk.IsTree) (hnames : disk.isDirectory names = true) :
    Keeps changeable disk (disk.makeAlong names pieces).1 := by
  induction pieces generalizing disk names with
  | nil => exact Keeps.refl h
  | cons piece rest ih =>
    rw [makeAlong_cons]
    split
    · exact ih h ‹_›
    · split
      · exact Keeps.refl h
      · have hadded : Keeps changeable disk _ := h.keeps_addDirectory_step hnames ‹_› ‹_›
        exact hadded.trans (ih hadded.isTree (isDirectory_addDirectory.2 (Or.inl rfl)))

/-- Once a way has been made, making it again changes nothing, also after other changes. -/
theorem IsTree.makeAlong_eq_self (h : disk.IsTree) (hnames : disk.isDirectory names = true)
    (hfree : (disk.makeAlong names pieces).2 = true)
    (hlater : Keeps changeable (disk.makeAlong names pieces).1 later) :
    later.makeAlong names pieces = (later, true) := by
  induction pieces generalizing disk names with
  | nil => rfl
  | cons piece rest ih =>
    rw [makeAlong_cons] at hfree hlater
    split at hfree
    · rename_i hthere
      rw [if_pos hthere] at hlater
      have hkeeps : Keeps changeable disk later := (h.keeps_makeAlong hthere).trans hlater
      rw [makeAlong_cons, if_pos (hkeeps.isDirectory _ hthere)]
      exact ih h hthere hfree hlater
    · rename_i hnew
      split at hfree
      · cases hfree
      · rename_i hnone
        rw [if_neg hnew, if_neg hnone] at hlater
        have hadded : Keeps changeable disk _ := h.keeps_addDirectory_step hnames hnew hnone
        have hthere : (disk.addDirectory (Location.step names piece)).isDirectory
            (Location.step names piece) = true := isDirectory_addDirectory.2 (Or.inl rfl)
        have hkeeps := (hadded.isTree.keeps_makeAlong hthere).trans hlater
        rw [makeAlong_cons, if_pos (hkeeps.isDirectory _ hthere)]
        exact ih hadded.isTree hthere hfree hlater

theorem files_makeAlong (disk : Disk) (names pieces : List String) :
    (disk.makeAlong names pieces).1.files = disk.files := by
  induction pieces generalizing disk names with
  | nil => rfl
  | cons piece rest ih =>
    rw [makeAlong_cons]
    split
    · exact ih _ _
    · split
      · rfl
      · exact ih _ _

theorem files_of_makeDirectory? (h : disk.makeDirectory? location = some after) :
    after.files = disk.files := by
  unfold makeDirectory? at h
  split at h
  · obtain rfl : (disk.makeWay location).1 = after := Option.some.inj h
    exact files_makeAlong _ _ _
  · cases h

theorem IsTree.isDirectory_start (h : disk.IsTree) (location : String) :
    disk.isDirectory (disk.start location) = true := by
  unfold start
  split
  · rfl
  · exact h.workingDirectory

/-- Making directories along a way takes none away. -/
theorem grows_makeAlong (disk : Disk) (names pieces : List String) :
    disk.Grows (disk.makeAlong names pieces).1 := by
  induction pieces generalizing disk names with
  | nil => exact .refl disk
  | cons piece rest ih =>
    rw [makeAlong_cons]
    split
    · exact ih _ _
    · split
      · exact .refl disk
      · exact (Grows.addDirectory disk _).trans (ih _ _)

theorem makeDirectory?_eq_some_iff :
    disk.makeDirectory? location = some after ↔ disk.makeWay location = (after, true) := by
  unfold makeDirectory?
  generalize disk.makeWay location = way
  obtain ⟨made, free⟩ := way
  cases free <;> simp

theorem grows_makeDirectory? (h : disk.makeDirectory? location = some after) :
    disk.Grows after := by
  have hmade : (disk.makeAlong (disk.start location) (Location.pieces location)).1 = after :=
    congrArg Prod.fst (makeDirectory?_eq_some_iff.1 h)
  rw [← hmade]
  exact grows_makeAlong disk _ _

theorem IsTree.keeps_makeWay (h : disk.IsTree) (location : String) :
    Keeps changeable disk (disk.makeWay location).1 :=
  h.keeps_makeAlong (h.isDirectory_start location)

theorem IsTree.keeps_makeDirectory? (h : disk.IsTree)
    (hmade : disk.makeDirectory? location = some after) : Keeps changeable disk after := by
  have hmaking : Keeps changeable disk (disk.makeWay location).1 := h.keeps_makeWay location
  rwa [makeDirectory?_eq_some_iff.1 hmade] at hmaking

/-- Once a directory has been made, making it again changes nothing, also after other changes. -/
theorem IsTree.makeDirectory?_eq_self (h : disk.IsTree)
    (hmade : disk.makeDirectory? location = some after) (hlater : Keeps changeable after later) :
    later.makeDirectory? location = some later := by
  have hway := makeDirectory?_eq_some_iff.1 hmade
  have hmade' : (disk.makeAlong (disk.start location) (Location.pieces location)).1 = after :=
    congrArg Prod.fst hway
  rw [makeDirectory?_eq_some_iff, makeWay,
    ((h.keeps_makeDirectory? hmade).trans hlater).grows.start_eq]
  rw [← hmade'] at hlater
  exact h.makeAlong_eq_self (h.isDirectory_start location) (congrArg Prod.snd hway) hlater

end Directories

/-! ### Following locations -/

section Locations

variable {changeable pieces : List String} {found : List String}

/-- A way that leads somewhere leads there after any change that keeps the directories. -/
theorem follow?_of_isDirectory
    (hkeeps : ∀ names, disk.isDirectory names = true → after.isDirectory names = true)
    (h : disk.follow? names pieces = some found) : after.follow? names pieces = some found := by
  induction pieces generalizing names with
  | nil => exact h
  | cons piece rest ih =>
    rw [follow?] at h ⊢
    split at h
    · rw [if_pos (hkeeps names ‹_›)]
      exact ih h
    · cases h

/-- A location that leads somewhere leads there when directories have been made. -/
theorem Grows.resolve?_eq_some (hgrows : disk.Grows after)
    (h : disk.resolve? location = some found) : after.resolve? location = some found := by
  rw [resolve?, hgrows.start_eq]
  rw [resolve?] at h
  split at h
  · cases h
  · rw [if_neg ‹_›]
    exact follow?_of_isDirectory hgrows.isDirectory h

theorem Keeps.resolve?_eq_some (hkeeps : Keeps changeable disk after)
    (h : disk.resolve? location = some found) : after.resolve? location = some found :=
  hkeeps.grows.resolve?_eq_some h

/-- The last piece of a way stands in a directory. -/
theorem follow?_concat {piece : String} (h : disk.follow? names (pieces ++ [piece]) = some found) :
    ∃ directory, disk.isDirectory directory = true ∧ found = Location.step directory piece := by
  induction pieces generalizing names with
  | nil =>
    rw [List.nil_append, follow?] at h
    split at h
    · exact ⟨names, ‹_›, (Option.some.inj h).symm⟩
    · cases h
  | cons first rest ih =>
    rw [List.cons_append, follow?] at h
    split at h
    · exact ih h
    · cases h

/-- A piece of a location that goes down to something of that name. -/
def IsName (piece : String) : Prop :=
  piece ≠ "" ∧ piece ≠ "." ∧ piece ≠ ".."

instance (piece : String) : Decidable (IsName piece) :=
  inferInstanceAs (Decidable (_ ∧ _))

/-- A location that ends in a name leads to something of this name in a directory. -/
theorem resolve?_eq_some {name : String} (hname : IsName name)
    (hlast : (Location.pieces location).getLast? = some name)
    (h : disk.resolve? location = some found) :
    ∃ directory, disk.isDirectory directory = true ∧ found = directory ++ [name] := by
  obtain ⟨front, hpieces⟩ := List.getLast?_eq_some_iff.1 hlast
  rw [resolve?, hpieces] at h
  split at h
  · cases h
  · obtain ⟨directory, hdirectory, rfl⟩ := follow?_concat h
    refine ⟨directory, hdirectory, ?_⟩
    rw [Location.step, if_neg (not_or.2 ⟨hname.1, hname.2.1⟩), if_neg hname.2.2]

theorem resolve?_put (disk : Disk) (names : List String) (bytes : ByteArray) (location : String) :
    (disk.put names bytes).resolve? location = disk.resolve? location := by
  have hfollow : ∀ start pieces, (disk.put names bytes).follow? start pieces =
      disk.follow? start pieces := by
    intro start pieces
    induction pieces generalizing start with
    | nil => rfl
    | cons piece rest ih =>
      rw [follow?, follow?, ih]
      rfl
  rw [resolve?, resolve?, hfollow]
  rfl

theorem write?_eq_some_iff :
    disk.write? location bytes = some after ↔
      ∃ names, disk.resolve? location = some names ∧ disk.isDirectory names = false ∧
        after = disk.put names bytes := by
  rw [write?, Option.bind_eq_bind, Option.bind_eq_some_iff]
  refine exists_congr fun names => and_congr_right fun _ => ?_
  split
  · rename_i hnames
    simp [hnames]
  · rename_i hnames
    rw [Option.some.injEq, Bool.not_eq_true] at *
    rw [and_iff_right hnames, eq_comm]

/-- Writing a file whose name may change keeps everything else. -/
theorem IsTree.keeps_of_write? (h : disk.IsTree) {name : String} (hname : IsName name)
    (hchangeable : name ∈ changeable)
    (hlast : (Location.pieces location).getLast? = some name)
    (hwrite : disk.write? location bytes = some after) : Keeps changeable disk after := by
  obtain ⟨names, hresolve, hnames, rfl⟩ := write?_eq_some_iff.1 hwrite
  obtain ⟨directory, hdirectory, rfl⟩ := resolve?_eq_some hname hlast hresolve
  exact Keeps.put h hchangeable hdirectory hnames bytes

/-- A copy puts the bytes of the source, as they are once the target is emptied, in the target. -/
theorem copy?_eq_some_iff {source target : String} :
    disk.copy? source target = some after ↔
      ∃ origin names bytes, disk.resolve? source = some origin ∧
        (disk.bytes? origin).isSome = true ∧ disk.resolve? target = some names ∧
        disk.isDirectory names = false ∧
        (disk.put names ByteArray.empty).bytes? origin = some bytes ∧
        after = disk.put names bytes := by
  simp only [copy?, Option.bind_eq_bind, Option.bind_eq_some_iff, write?_eq_some_iff]
  constructor
  · rintro ⟨origin, horigin, old, hold, _, ⟨names, hnames, hfile, rfl⟩, bytes, hbytes, names',
      hnames', -, rfl⟩
    rw [resolve?_put, hnames, Option.some.injEq] at hnames'
    subst hnames'
    exact ⟨origin, names, bytes, horigin, Option.isSome_of_eq_some hold, hnames, hfile, hbytes,
      put_put _ _ _ _⟩
  · rintro ⟨origin, names, bytes, horigin, hsome, hnames, hfile, hbytes, rfl⟩
    obtain ⟨old, hold⟩ := Option.isSome_iff_exists.1 hsome
    exact ⟨origin, horigin, old, hold, _, ⟨names, hnames, hfile, rfl⟩, bytes, hbytes, names,
      (resolve?_put _ _ _ _).trans hnames, hfile, (put_put _ _ _ _).symm⟩

end Locations

end PageRoutes.Disk
