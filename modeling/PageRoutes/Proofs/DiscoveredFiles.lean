import PageRoutes.Proofs.FileSystem
import PageRoutes.Proofs.NameBytes

/-!
# Which files are discovered

In a tree of directories the pages and guards that are discovered are those that lie below the page
directory, except below what is passed over.  They come in the order of the bytes of the names on
their ways, however the file system lists them, and the first guard file in this order that is not
valid UTF-8 is what discovering them fails at.
-/

namespace PageRoutes

namespace Discovery

open Disk

variable {disk : Disk} {directory names other : List String} {location name : String}
  {bytes : ByteArray}

/-! ## Files that are discovered -/

/-- The names lead from a directory to a file of the given name and bytes, and through nothing that
is passed over. -/
structure LeadsTo (disk : Disk) (directory : List String) (name : String) (names : List String)
    (bytes : ByteArray) : Prop where
  bytes?_eq : disk.bytes? (directory ++ names) = some bytes
  getLast?_eq : names.getLast? = some name
  not_ignored : ignoredName ∉ names

/-- The names lead from a directory to a guard file that is no text. -/
def IsUnreadable (disk : Disk) (directory names : List String) : Prop :=
  ∃ bytes, LeadsTo disk directory guardFile names bytes ∧ ¬bytes.IsValidUTF8

theorem LeadsTo.ne_nil (h : LeadsTo disk directory name names bytes) : names ≠ [] := by
  rintro rfl
  cases h.getLast?_eq

theorem LeadsTo.isSome (h : LeadsTo disk directory name names bytes) :
    (disk.bytes? (directory ++ names)).isSome = true :=
  Option.isSome_of_eq_some h.bytes?_eq

theorem LeadsTo.isEntryName (h : LeadsTo disk directory name names bytes)
    (hdisk : disk.IsFileSystem) : ∀ name ∈ names, Location.IsEntryName name :=
  hdisk.isEntryName_of_bytes? h.isSome

/-- Unless the page directory itself is passed over, its files of a name are those that lie below it
and are not passed over. -/
theorem mem_filesNamed_files_iff (hdisk : disk.IsTree)
    (hlocation : (Location.components location).getLast? ≠ some ignoredName) :
    names ∈ filesNamed name (files disk location directory) ↔
      ∃ bytes, LeadsTo disk directory name names bytes := by
  have hfiles : files disk location directory = walk disk directory (disk.height + 1) :=
    if_neg (by simpa using hlocation)
  rw [filesNamed, List.mem_filter, hfiles, mem_walk_height_iff hdisk, beq_iff_eq,
    Option.isSome_iff_exists]
  constructor
  · rintro ⟨⟨-, hignored, bytes, hbytes⟩, hlast⟩
    exact ⟨bytes, hbytes, hlast, hignored⟩
  · rintro ⟨bytes, h⟩
    exact ⟨⟨h.ne_nil, h.not_ignored, bytes, h.bytes?_eq⟩, h.getLast?_eq⟩

theorem pairwise_filesNamed_files (disk : Disk) (location name : String) (directory : List String) :
    (filesNamed name (files disk location directory)).Pairwise (· < ·) := by
  refine List.Pairwise.filter _ ?_
  unfold files
  split
  · exact List.Pairwise.nil
  · exact pairwise_walk disk directory _

/-! ## Reading guard files -/

/-- A guard file is read as its path and the text that its bytes are. -/
theorem readGuard_eq_ok_iff (h : LeadsTo disk directory name names bytes) {source : GuardSource} :
    readGuard disk location directory names = .ok source ↔
      bytes = source.contents.toUTF8 ∧ source.path = Path.ofParts names := by
  rw [readGuard, h.bytes?_eq, Option.bind_some, ← Text.fromUTF8?_eq_some_iff]
  obtain ⟨path, contents⟩ := source
  cases String.fromUTF8? bytes with
  | none => simp
  | some text => simp [eq_comm, and_comm]

theorem path_of_readGuard {source : GuardSource}
    (h : readGuard disk location directory names = .ok source) :
    source.path = Path.ofParts names := by
  unfold readGuard at h
  split at h
  · cases h
    rfl
  · cases h

/-- A guard file that is no text cannot be read, and the error says where it is. -/
theorem readGuard_eq_error_iff (h : LeadsTo disk directory name names bytes)
    {error : DiscoveryError} :
    readGuard disk location directory names = .error error ↔
      ¬bytes.IsValidUTF8 ∧ error = .unreadable (names.foldl Location.join location) := by
  rw [readGuard, h.bytes?_eq, Option.bind_some, ← Text.fromUTF8?_eq_none_iff]
  cases String.fromUTF8? bytes with
  | none => simp [eq_comm]
  | some text => simp

/-! ## What is discovered -/

/-- A path in front of another: its names come first when names are compared by their bytes and the
first different ones decide. -/
def ComesBefore (path path' : String) : Prop :=
  (Location.pieces path).map Text.bytes < (Location.pieces path').map Text.bytes

theorem comesBefore_ofParts (hne : names ≠ []) (hother : other ≠ [])
    (hnames : ∀ name ∈ names, Location.IsEntryName name)
    (hothers : ∀ name ∈ other, Location.IsEntryName name) (hlt : names < other) :
    ComesBefore (Path.ofParts names) (Path.ofParts other) := by
  rw [ComesBefore, Location.pieces_ofParts hne hnames, Location.pieces_ofParts hother hothers]
  exact Text.map_bytes_lt_of_lt hlt

theorem nodup_of_pairwise_comesBefore {paths : List String} (h : paths.Pairwise ComesBefore) :
    paths.Nodup := by
  refine h.imp fun {path path'} hbefore => ?_
  rintro rfl
  exact List.lt_irrefl _ hbefore

/-- What is discovered in a directory: the page files and the guard files with their texts, each by
its path, once, and in the order of the bytes of the names. -/
structure IsExact (disk : Disk) (directory : List String) (found : Discovered) : Prop where
  mem_pagePaths_iff : ∀ path, path ∈ found.pagePaths ↔
    ∃ names bytes, LeadsTo disk directory pageFile names bytes ∧ path = Path.ofParts names
  mem_guardSources_iff : ∀ source, source ∈ found.guardSources ↔
    ∃ names, LeadsTo disk directory guardFile names source.contents.toUTF8 ∧
      source.path = Path.ofParts names
  pairwise_pagePaths : found.pagePaths.Pairwise ComesBefore
  pairwise_guardSources : (found.guardSources.map (·.path)).Pairwise ComesBefore
  nodup_pagePaths : found.pagePaths.Nodup
  nodup_guardSources : (found.guardSources.map (·.path)).Nodup

section Directory

variable (hdisk : disk.IsFileSystem)
  (hlocation : (Location.components location).getLast? ≠ some ignoredName)
include hdisk hlocation

theorem pairwise_comesBefore (name : String) (directory : List String) :
    ((filesNamed name (files disk location directory)).map Path.ofParts).Pairwise ComesBefore := by
  refine List.pairwise_map.2 ?_
  refine (pairwise_filesNamed_files disk location name directory).imp_of_mem ?_
  intro names other hnames hother hlt
  obtain ⟨bytes, hleads⟩ := (mem_filesNamed_files_iff hdisk.toIsTree hlocation).1 hnames
  obtain ⟨bytes', hleads'⟩ := (mem_filesNamed_files_iff hdisk.toIsTree hlocation).1 hother
  exact comesBefore_ofParts hleads.ne_nil hleads'.ne_nil (hleads.isEntryName hdisk)
    (hleads'.isEntryName hdisk) hlt

/-- What the walk through a directory discovers is exact. -/
theorem isExact_of_mapM {guards : List GuardSource}
    (h : (filesNamed guardFile (files disk location directory)).mapM
      (readGuard disk location directory) = .ok guards) :
    IsExact disk directory
      ⟨(filesNamed pageFile (files disk location directory)).map Path.ofParts, guards⟩ := by
  have hpages := pairwise_comesBefore hdisk hlocation pageFile directory
  have hguards : (guards.map (·.path)).Pairwise ComesBefore := by
    rw [map_eq_map_of_forall₂ ((mapM_eq_ok_iff.1 h).imp fun _ _ => path_of_readGuard)]
    exact pairwise_comesBefore hdisk hlocation guardFile directory
  refine ⟨fun path => ?_, fun source => ?_, hpages, hguards, nodup_of_pairwise_comesBefore hpages,
    nodup_of_pairwise_comesBefore hguards⟩
  · simp only [List.mem_map, mem_filesNamed_files_iff hdisk.toIsTree hlocation]
    constructor
    · rintro ⟨names, ⟨bytes, hleads⟩, rfl⟩
      exact ⟨names, bytes, hleads, rfl⟩
    · rintro ⟨names, bytes, hleads, rfl⟩
      exact ⟨names, ⟨bytes, hleads⟩, rfl⟩
  · rw [mem_iff_of_mapM h]
    simp only [mem_filesNamed_files_iff hdisk.toIsTree hlocation]
    constructor
    · rintro ⟨names, ⟨bytes, hleads⟩, hread⟩
      obtain ⟨rfl, hpath⟩ := (readGuard_eq_ok_iff hleads).1 hread
      exact ⟨names, hleads, hpath⟩
    · rintro ⟨names, hleads, hpath⟩
      exact ⟨names, ⟨_, hleads⟩, (readGuard_eq_ok_iff hleads).2 ⟨rfl, hpath⟩⟩

/-- Reading the guard files fails at the first of them that is no text. -/
theorem exists_first_of_mapM {error : DiscoveryError}
    (h : (filesNamed guardFile (files disk location directory)).mapM
      (readGuard disk location directory) = .error error) :
    ∃ names, IsUnreadable disk directory names ∧
      error = .unreadable (names.foldl Location.join location) ∧
      ∀ other, IsUnreadable disk directory other → other ≠ names → names < other := by
  have hmem : ∀ names, names ∈ filesNamed guardFile (files disk location directory) ↔
      ∃ bytes, LeadsTo disk directory guardFile names bytes := fun names =>
    mem_filesNamed_files_iff hdisk.toIsTree hlocation
  have hpairwise := pairwise_filesNamed_files disk location guardFile directory
  obtain ⟨front, names, back, hsplit, hfront, hfails⟩ := mapM_eq_error_iff.1 h
  rw [hsplit] at hmem hpairwise
  obtain ⟨bytes, hleads⟩ := (hmem names).1 (List.mem_append_right _ List.mem_cons_self)
  obtain ⟨hinvalid, herror⟩ := (readGuard_eq_error_iff hleads).1 hfails
  refine ⟨names, ⟨bytes, hleads, hinvalid⟩, herror, ?_⟩
  rintro other ⟨bytes', hleads', hinvalid'⟩ hne
  have hunread : readGuard disk location directory other = .error _ :=
    (readGuard_eq_error_iff hleads').2 ⟨hinvalid', rfl⟩
  rcases List.mem_append.1 ((hmem other).2 ⟨bytes', hleads'⟩) with hother | hother
  · -- what stands in front was read
    obtain ⟨source, hread⟩ := hfront other hother
    rw [hread] at hunread
    cases hunread
  · have hback := (List.mem_cons.1 hother).resolve_left hne
    exact List.rel_of_pairwise_cons (List.pairwise_append.1 hpairwise).2.1 hback

/-- A guard file that is no text is not read over. -/
theorem not_isUnreadable_of_mapM {guards : List GuardSource}
    (h : (filesNamed guardFile (files disk location directory)).mapM
      (readGuard disk location directory) = .ok guards) :
    ¬IsUnreadable disk directory names := by
  rintro ⟨bytes, hleads, hinvalid⟩
  have hmem := (mem_filesNamed_files_iff hdisk.toIsTree hlocation).2 ⟨bytes, hleads⟩
  obtain ⟨source, hread⟩ := exists_eq_ok_of_mapM h hmem
  have hunread : readGuard disk location directory names = .error _ :=
    (readGuard_eq_error_iff hleads).2 ⟨hinvalid, rfl⟩
  rw [hread] at hunread
  cases hunread

end Directory

/-- What discovering the pages and guards below a location comes to, which is that of a
directory. -/
structure DiscoversExactly (disk : Disk) (location : String) (directory : List String) : Prop where
  /-- It fails exactly if some guard file is no text. -/
  fails_iff : (∃ error, discover disk location = .error error) ↔
    ∃ names, IsUnreadable disk directory names
  /-- The error says where the first such guard file is. -/
  reports : ∀ error, discover disk location = .error error →
    ∃ names, IsUnreadable disk directory names ∧
      error = .unreadable (names.foldl Location.join location) ∧
      ∀ other, IsUnreadable disk directory other → other ≠ names →
        names.map Text.bytes < other.map Text.bytes
  /-- Otherwise all pages and guards are discovered, in order. -/
  finds : ∀ found, discover disk location = .ok found → IsExact disk directory found
  /-- Files are found where the names lead from the location, and their paths are those as seen from
  the location. -/
  located : ∀ name names bytes, LeadsTo disk directory name names bytes →
    disk.resolve? (names.foldl Location.join location) = some (directory ++ names) ∧
      Location.relativeTo? location (names.foldl Location.join location) =
        some (Path.ofParts names)
  /-- The entries through which the walk goes are the names in a directory, listed in any order and
  sorted. -/
  listed : ∀ (within listing : List String), listing.Nodup →
    (∀ name, name ∈ listing ↔ disk.isDirectory (within ++ [name]) = true ∨
      (disk.bytes? (within ++ [name])).isSome = true) →
    listing.mergeSort (fun a b => a ≤ b) = disk.entries within
  /-- It comes to the same on a disk that is listed in another order. -/
  relisted : ∀ other, disk.Relisted other → discover other location = discover disk location

/-- Discovering the pages and guards below a directory is exact. -/
theorem discoversExactly (hdisk : disk.IsFileSystem)
    (hresolve : disk.resolve? location = some directory)
    (hdirectory : disk.isDirectory directory = true)
    (hlocation : (Location.components location).getLast? ≠ some ignoredName) :
    DiscoversExactly disk location directory := by
  have hdiscover := discover_eq_map hresolve hdirectory
  have hreports : ∀ error, discover disk location = .error error →
      ∃ names, IsUnreadable disk directory names ∧
        error = .unreadable (names.foldl Location.join location) ∧
        ∀ other, IsUnreadable disk directory other → other ≠ names → names < other := by
    intro error herror
    rw [hdiscover, map_eq_error_iff] at herror
    exact exists_first_of_mapM hdisk hlocation herror
  refine ⟨⟨?_, ?_⟩, ?_, ?_, ?_, ?_, ?_⟩
  · rintro ⟨error, herror⟩
    obtain ⟨names, hunreadable, -⟩ := hreports error herror
    exact ⟨names, hunreadable⟩
  · rintro ⟨names, hunreadable⟩
    cases hfound : discover disk location with
    | error error => exact ⟨error, rfl⟩
    | ok found =>
      rw [hdiscover] at hfound
      obtain ⟨guards, hguards, -⟩ := map_eq_ok_iff.1 hfound
      exact absurd hunreadable (not_isUnreadable_of_mapM hdisk hlocation hguards)
  · intro error herror
    obtain ⟨names, hunreadable, heq, hfirst⟩ := hreports error herror
    exact ⟨names, hunreadable, heq, fun other hother hne =>
      Text.map_bytes_lt_of_lt (hfirst other hother hne)⟩
  · intro found hfound
    rw [hdiscover] at hfound
    obtain ⟨guards, hguards, rfl⟩ := map_eq_ok_iff.1 hfound
    exact isExact_of_mapM hdisk hlocation hguards
  · intro name names bytes hleads
    have hnames := hleads.isEntryName hdisk
    exact ⟨hdisk.toIsTree.resolve?_foldl_join hresolve hnames hleads.isSome,
      Location.relativeTo?_foldl_join (ne_empty_of_resolve? hresolve) hnames⟩
  · exact fun within listing hnodup hlisting => mergeSort_eq_entries hnodup hlisting
  · intro other hother
    exact discover_congr_of_keeps hdisk.toIsTree (hdisk.keeps_of_relisted hother)
      List.not_mem_nil List.not_mem_nil hresolve hdirectory

/-- A page directory with a page, a guard, and one more guard file, which is no text, below what is
passed over. -/
def guardedDisk : Disk where
  directories := [["site"], ["site", "node_modules"]]
  files := [(["site", "node_modules", "index.guard.ts"], ⟨#[255]⟩),
    (["site", "index.html"], ⟨#[60, 112, 62]⟩), (["site", "index.guard.ts"], ⟨#[104, 105]⟩)]
  workingDirectory := []

theorem discover_guardedDisk :
    discover guardedDisk "site" = .ok ⟨["index.html"], [⟨"index.guard.ts", "hi"⟩]⟩ := by
  have hresolve : guardedDisk.resolve? "site" = some ["site"] := by decide +kernel
  have hentries :
      guardedDisk.entries ["site"] = ["index.guard.ts", "index.html", "node_modules"] := by
    exact mergeSort_le_eq_of_perm id (by decide +kernel) (by decide +kernel)
  have hfiles : files guardedDisk "site" ["site"] = [["index.guard.ts"], ["index.html"]] := by
    have hheight : guardedDisk.height = 3 := by decide +kernel
    rw [files, if_neg (by decide +kernel), hheight, walk, hentries]
    decide +kernel
  rw [discover_eq_map hresolve (by decide), hfiles]
  decide +kernel

/-- Below what is passed over a guard file need not be a text. -/
theorem discoversExactly_guarded :
    guardedDisk.IsFileSystem ∧ DiscoversExactly guardedDisk "site" ["site"] ∧
      discover guardedDisk "site" = .ok ⟨["index.html"], [⟨"index.guard.ts", "hi"⟩]⟩ := by
  have hdisk : guardedDisk.IsFileSystem := by decide +kernel
  exact ⟨hdisk, discoversExactly hdisk (by decide +kernel) (by decide) (by decide +kernel),
    discover_guardedDisk⟩

end Discovery

end PageRoutes
