import PageRoutes.Proofs.ActionRuns
import PageRoutes.Proofs.DirectoryWalk

/-!
# Directories of a file system

The names in the directories of a file system are names of entries: they lead to something in a
directory and hold no separator.  So from the location of a directory every file below it is found
along its names, and these are its path as seen from there.  The order in which a file system lists
its entries is of no account.
-/

namespace PageRoutes

/-! ## Locations of what lies below a directory -/

namespace Location

variable {base location name : String} {names : List String}

/-- A name of a file system: it leads to something in a directory, and nothing in it separates. -/
structure IsEntryName (name : String) : Prop where
  isName : Disk.IsName name
  slash_not_mem : '/' ∉ name.toList

instance (name : String) : Decidable (IsEntryName name) :=
  decidable_of_iff (Disk.IsName name ∧ '/' ∉ name.toList) ⟨fun h => ⟨h.1, h.2⟩, fun h => ⟨h.1, h.2⟩⟩

theorem IsEntryName.pieces_eq (h : IsEntryName name) : pieces name = [name] :=
  pieces_eq_singleton h.slash_not_mem

theorem IsEntryName.isAbsolute_eq (h : IsEntryName name) : isAbsolute name = false := by
  refine isAbsolute_eq_false fun piece hpiece => ?_
  rw [h.pieces_eq, List.mem_singleton] at hpiece
  exact hpiece ▸ h.isName

theorem join_ne_empty (hbase : base ≠ "") (hname : IsEntryName name) : join base name ≠ "" := by
  obtain ⟨front, -, hjoin⟩ := exists_join_eq hbase
  rw [(hjoin name hname.isAbsolute_eq).1, ← String.toList_inj.ne, Path.toList_append_slash]
  exact List.append_ne_nil_of_right_ne_nil _ (List.cons_ne_nil _ _)

/-- An entry of a directory has the components of the directory and its own name. -/
theorem components_join (hbase : base ≠ "") (hname : IsEntryName name) :
    components (join base name) = components base ++ [name] := by
  obtain ⟨front, hfront, hjoin⟩ := exists_join_eq hbase
  obtain ⟨hlocation, habsolute⟩ := hjoin name hname.isAbsolute_eq
  have hpieces : pieces (join base name) = pieces front ++ [name] := by
    rw [hlocation, pieces_append_slash, hname.pieces_eq]
  have hhead : (pieces base).head? = (pieces front).head? := by
    rcases hfront with rfl | rfl
    · rfl
    · rw [pieces_append_slash, List.head?_append_of_ne_nil _ (pieces_ne_nil front)]
  -- a slash at the end leaves no component
  have hkept : (pieces base).filter (fun piece => piece != "" && piece != ".") =
      (pieces front).filter (fun piece => piece != "" && piece != ".") := by
    rcases hfront with rfl | rfl
    · rfl
    · rw [pieces_append_slash, List.filter_append]
      exact List.append_nil _
  have hown : [name].filter (fun piece => piece != "" && piece != ".") = [name] := by
    refine List.filter_eq_self.2 fun piece hpiece => ?_
    rw [List.mem_singleton.1 hpiece]
    simpa using ⟨hname.isName.1, hname.isName.2.1⟩
  unfold components
  rw [habsolute, hpieces, List.filter_append, hown, hkept,
    List.head?_append_of_ne_nil _ (pieces_ne_nil front), hhead]
  split
  · rfl
  · split <;> rfl

theorem components_foldl_join (hlocation : location ≠ "")
    (hnames : ∀ name ∈ names, IsEntryName name) :
    components (names.foldl join location) = components location ++ names := by
  induction names generalizing location with
  | nil => rw [List.foldl_nil, List.append_nil]
  | cons name names ih =>
    rw [List.forall_mem_cons] at hnames
    rw [List.foldl_cons, ih (join_ne_empty hlocation hnames.1) hnames.2,
      components_join hlocation hnames.1, List.append_assoc, List.singleton_append]

/-- As seen from a directory, what lies below it has the names that lead there as its path. -/
theorem relativeTo?_foldl_join (hlocation : location ≠ "")
    (hnames : ∀ name ∈ names, IsEntryName name) :
    relativeTo? location (names.foldl join location) = some (Path.ofParts names) := by
  rw [relativeTo?, components_foldl_join hlocation hnames,
    if_pos (List.isPrefixOf_iff_prefix.2 (List.prefix_append _ _)), List.drop_left, Path.ofParts]

/-- A path that joins names has these names as its pieces. -/
theorem pieces_ofParts (hne : names ≠ []) (hnames : ∀ name ∈ names, IsEntryName name) :
    pieces (Path.ofParts names) = names := by
  rw [pieces, Path.ofParts,
    Path.splitOn_intercalate_texts hne fun name hname => (hnames name hname).slash_not_mem,
    List.map_map]
  exact List.map_id'' (fun _ => String.ofList_toList) names

end Location

namespace Disk

variable {disk other : Disk} {directory found names : List String} {base location name : String}

theorem follow?_append {front back : List String} :
    disk.follow? names (front ++ back) = (disk.follow? names front).bind (disk.follow? · back) := by
  induction front generalizing names with
  | nil => rfl
  | cons piece front ih =>
    rw [List.cons_append, follow?, follow?]
    split
    · exact ih
    · rfl

theorem ne_empty_of_resolve? (h : disk.resolve? location = some found) : location ≠ "" := by
  rintro rfl
  cases h

/-- An entry of a directory is found where the directory is. -/
theorem resolve?_join (hbase : disk.resolve? base = some directory)
    (hdirectory : disk.isDirectory directory = true) (hname : Location.IsEntryName name) :
    disk.resolve? (Location.join base name) = some (directory ++ [name]) := by
  have hne := ne_empty_of_resolve? hbase
  obtain ⟨front, hfront, hjoin⟩ := Location.exists_join_eq hne
  obtain ⟨hlocation, habsolute⟩ := hjoin name hname.isAbsolute_eq
  rw [resolve?, if_neg hne] at hbase
  have hreached : disk.follow? (disk.start base) (Location.pieces front) = some directory := by
    rcases hfront with rfl | rfl
    · exact hbase
    · -- the slash at the end stays in the directory
      rw [Location.pieces_append_slash, follow?_append, Option.bind_eq_some_iff] at hbase
      obtain ⟨reached, hreached, hstay⟩ := hbase
      rw [Location.pieces_eq_singleton (by decide), follow?] at hstay
      split at hstay
      · rw [hreached]
        exact hstay
      · cases hstay
  have hstart : disk.start (Location.join base name) = disk.start base := by
    rw [start, start, habsolute]
  rw [resolve?, if_neg (Location.join_ne_empty hne hname), hstart, hlocation,
    Location.pieces_append_slash, follow?_append, hreached, hname.pieces_eq, Option.bind_some,
    follow?, if_pos hdirectory, Location.step_of_isName hname.isName, follow?]

/-- A file below a directory is found along its names from where the directory is. -/
theorem IsTree.resolve?_foldl_join (h : disk.IsTree)
    (hlocation : disk.resolve? location = some directory)
    (hnames : ∀ name ∈ names, Location.IsEntryName name)
    (hfile : (disk.bytes? (directory ++ names)).isSome = true) :
    disk.resolve? (names.foldl Location.join location) = some (directory ++ names) := by
  induction names generalizing location directory with
  | nil => rwa [List.foldl_nil, List.append_nil]
  | cons name names ih =>
    rw [List.forall_mem_cons] at hnames
    have hnext := resolve?_join hlocation (h.isDirectory_of_isSome hfile) hnames.1
    have happend : directory ++ name :: names = directory ++ [name] ++ names := by simp
    rw [happend] at hfile ⊢
    exact ih hnext hnames.2 hfile

/-! ## Trees of directories and their listings -/

/-- A disk that a file system can show: a tree in which every name is one of an entry, and in which
no names lead to two files. -/
structure IsFileSystem (disk : Disk) : Prop extends disk.IsTree where
  isEntryName : ∀ names ∈ disk.directories ++ disk.files.map (·.1), ∀ name ∈ names,
    Location.IsEntryName name
  nodup_files : (disk.files.map (·.1)).Nodup

instance (disk : Disk) : Decidable disk.IsFileSystem :=
  decidable_of_iff (disk.IsTree ∧ (∀ names ∈ disk.directories ++ disk.files.map (·.1),
      ∀ name ∈ names, Location.IsEntryName name) ∧ (disk.files.map (·.1)).Nodup)
    ⟨fun h => ⟨h.1, h.2.1, h.2.2⟩, fun h => ⟨h.toIsTree, h.isEntryName, h.nodup_files⟩⟩

/-- The same directories and files, listed in another order. -/
structure Relisted (disk other : Disk) : Prop where
  directories_perm : other.directories.Perm disk.directories
  files_perm : other.files.Perm disk.files
  workingDirectory_eq : other.workingDirectory = disk.workingDirectory

/-- If no names lead to two files, every file of the list is found. -/
theorem bytes?_eq_some_iff (h : (disk.files.map (·.1)).Nodup) {bytes : ByteArray} :
    disk.bytes? names = some bytes ↔ (names, bytes) ∈ disk.files := by
  unfold bytes?
  generalize disk.files = files at h
  induction files with
  | nil => simp
  | cons file files ih =>
    obtain ⟨hnew, hrest⟩ := List.nodup_cons.1 h
    rw [List.lookup_cons, List.mem_cons]
    cases hname : names == file.1 with
    | true =>
      obtain rfl := eq_of_beq hname
      have hlater : (file.1, bytes) ∉ files := fun hmem =>
        hnew (List.mem_map.2 ⟨_, hmem, rfl⟩)
      rw [or_iff_left hlater, Option.some.injEq, Prod.ext_iff, and_iff_right rfl, eq_comm]
    | false =>
      have hother : (names, bytes) ≠ file := by
        rintro rfl
        exact absurd hname (by simp)
      rw [or_iff_right hother]
      exact ih hrest

theorem isDirectory_eq_of_perm (h : other.directories.Perm disk.directories) (names : List String) :
    other.isDirectory names = disk.isDirectory names := by
  rw [isDirectory, isDirectory, Bool.eq_iff_iff]
  simp only [Bool.or_eq_true, List.contains_iff_mem, h.mem_iff]

namespace IsFileSystem

theorem isEntryName_of_bytes? (h : disk.IsFileSystem)
    (hfile : (disk.bytes? (directory ++ names)).isSome = true) :
    ∀ name ∈ names, Location.IsEntryName name := fun name hname =>
  h.isEntryName _ (List.mem_append_right _ (isSome_bytes?_iff.1 hfile)) name
    (List.mem_append_right _ hname)

/-- A disk that is listed in another order has the same directories and files. -/
theorem keeps_of_relisted (h : disk.IsFileSystem) (hother : disk.Relisted other) :
    Keeps [] disk other := by
  have hdirectory := isDirectory_eq_of_perm hother.directories_perm
  have hbytes : ∀ names, other.bytes? names = disk.bytes? names := by
    intro names
    have hnodup := (hother.files_perm.map (·.1)).nodup_iff.2 h.nodup_files
    refine Option.ext fun bytes => ?_
    rw [bytes?_eq_some_iff hnodup, bytes?_eq_some_iff h.nodup_files, hother.files_perm.mem_iff]
  refine ⟨⟨?_, ?_, ?_, ?_⟩, hother.workingDirectory_eq, fun names hnames => ?_,
    fun names hnames => ?_, fun names _ => hbytes names⟩
  · intro names hnames
    rw [hdirectory]
    exact h.directories_below names (hother.directories_perm.mem_iff.1 hnames)
  · intro file hfile
    rw [hdirectory]
    exact h.files_below file (hother.files_perm.mem_iff.1 hfile)
  · intro file hfile
    rw [hdirectory]
    exact h.files_apart file (hother.files_perm.mem_iff.1 hfile)
  · rw [hother.workingDirectory_eq, hdirectory]
    exact h.workingDirectory
  · rwa [hdirectory]
  · rwa [hbytes]

end IsFileSystem

/-- In whatever order the names in a directory are listed, sorting them yields its entries. -/
theorem mergeSort_eq_entries {listed : List String} (hnodup : listed.Nodup)
    (hlisted : ∀ name, name ∈ listed ↔ disk.isDirectory (directory ++ [name]) = true ∨
      (disk.bytes? (directory ++ [name])).isSome = true) :
    listed.mergeSort (fun a b => a ≤ b) = disk.entries directory := by
  have hsorted := disk.pairwise_entries directory
  refine mergeSort_le_eq_of_perm id hsorted ?_
  refine (List.perm_ext_iff_of_nodup hnodup (hsorted.imp ne_of_lt)).2 fun name => ?_
  rw [hlisted, mem_entries_iff]

end Disk

end PageRoutes
