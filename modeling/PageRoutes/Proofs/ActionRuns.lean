import PageRoutes.Proofs.OutputFiles

/-!
# What a run of actions leaves in its files

Directories are made and never removed, so a location that leads somewhere leads there for the rest
of a run, and where it leads can be read off its spelling.  Every action that ends well changes the
one file to which its target leads.  So if only one action of a run leads to a file, the file holds
what this action wrote from then on.
-/

namespace PageRoutes

/-! ## Where locations lead -/

namespace Location

theorem step_of_isName {piece : String} (h : Disk.IsName piece) (names : List String) :
    step names piece = names ++ [piece] := by
  rw [step, if_neg (not_or.2 ⟨h.1, h.2.1⟩), if_neg h.2.2]

/-- Names go down one by one. -/
theorem foldl_step_of_isName {pieces : List String} (h : ∀ piece ∈ pieces, Disk.IsName piece)
    (names : List String) : pieces.foldl step names = names ++ pieces := by
  induction pieces generalizing names with
  | nil => rw [List.foldl_nil, List.append_nil]
  | cons piece rest ih =>
    rw [List.forall_mem_cons] at h
    rw [List.foldl_cons, step_of_isName h.1, ih h.2, List.append_assoc, List.singleton_append]

/-- A location that is made of names does not start at the root. -/
theorem isAbsolute_eq_false {location : String}
    (h : ∀ piece ∈ pieces location, Disk.IsName piece) : isAbsolute location = false := by
  rw [← Bool.not_eq_true]
  intro habsolute
  obtain ⟨rest, hrest⟩ : ∃ rest, location.toList = '/' :: rest :=
    List.head?_eq_some_iff.1 (beq_iff_eq.1 habsolute)
  have hpieces : "" ∈ pieces location := by
    rw [pieces, hrest, List.splitOn_cons_eq_if_modifyHead, if_pos (beq_self_eq_true _)]
    exact List.mem_cons_self
  exact (h "" hpieces).1 rfl

end Location

namespace Disk

variable {disk after : Disk} {names : List String} {location : String}

/-- The names to which a location leads by its spelling, whether or not the directories on the way
are there. -/
def spelled (disk : Disk) (location : String) : List String :=
  (Location.pieces location).foldl Location.step (disk.start location)

theorem eq_foldl_of_follow? {pieces found : List String}
    (h : disk.follow? names pieces = some found) : found = pieces.foldl Location.step names := by
  induction pieces generalizing names with
  | nil => exact (Option.some.inj h).symm
  | cons piece rest ih =>
    rw [follow?] at h
    split at h
    · exact ih h
    · cases h

/-- A location that leads somewhere leads where its spelling says. -/
theorem eq_spelled_of_resolve? (h : disk.resolve? location = some names) :
    names = disk.spelled location := by
  rw [resolve?] at h
  split at h
  · cases h
  · exact eq_foldl_of_follow? h

theorem getLast?_spelled {name : String} (hname : IsName name)
    (hlast : (Location.pieces location).getLast? = some name) :
    (disk.spelled location).getLast? = some name := by
  obtain ⟨front, hpieces⟩ := List.getLast?_eq_some_iff.1 hlast
  rw [spelled, hpieces, List.foldl_concat, Location.step_of_isName hname, List.getLast?_concat]

/-- Seen from one directory, locations that are made of names lead to these names below one
place. -/
theorem exists_spelled_join (disk : Disk) (base : String) :
    ∃ place, ∀ location, (∀ piece ∈ Location.pieces location, IsName piece) →
      disk.spelled (Location.join base location) = place ++ Location.pieces location := by
  by_cases hempty : base = ""
  · refine ⟨disk.workingDirectory, fun location hnames => ?_⟩
    have hrelative := Location.isAbsolute_eq_false hnames
    have hjoin : Location.join base location = location := by
      rw [Location.join, hempty, if_pos rfl, ite_self]
    rw [hjoin, spelled, start, hrelative, Location.foldl_step_of_isName hnames]
    rfl
  -- the location is put behind the directory and a slash
  obtain ⟨front, -, hfront⟩ := Location.exists_join_eq hempty
  refine ⟨(Location.pieces front).foldl Location.step (disk.start base), fun location hnames => ?_⟩
  obtain ⟨hjoin, habsolute⟩ := hfront location (Location.isAbsolute_eq_false hnames)
  have hstart : disk.start (Location.join base location) = disk.start base := by
    rw [start, start, habsolute]
  rw [spelled, hstart, hjoin, Location.pieces_append_slash, List.foldl_append,
    Location.foldl_step_of_isName hnames]

theorem Grows.spelled_eq (h : disk.Grows after) (location : String) :
    after.spelled location = disk.spelled location := by
  rw [spelled, spelled, h.start_eq]

theorem bytes?_eq_of_files_eq (h : after.files = disk.files) (names : List String) :
    after.bytes? names = disk.bytes? names := by
  rw [bytes?, bytes?, h]

end Disk

/-! ## Runs -/

namespace OutputAction

open Disk

variable {disk next after : Disk} {action : OutputAction} {todo : List OutputAction}
  {location text : String}

/-- The file to which the target of an action leads. -/
def file (disk : Disk) (action : OutputAction) : List String :=
  disk.spelled action.target

theorem file_write (disk : Disk) (location text : String) :
    (write location text).file disk = disk.spelled location := rfl

/-- What an action that ends well does to a disk. -/
structure Changes (action : OutputAction) (disk next : Disk) : Prop where
  grows : disk.Grows next
  resolve?_target : next.resolve? action.target = some (action.file disk)
  /-- Other files keep their bytes. -/
  bytes?_eq : ∀ names, names ≠ action.file disk → next.bytes? names = disk.bytes? names
  /-- The file that is written holds the text. -/
  bytes?_write : ∀ location text, action = .write location text →
    next.bytes? (action.file disk) = some text.toUTF8

/-- A file that is put on a disk after directories have been made. -/
theorem changes_put {made : Disk} {names : List String} {bytes : ByteArray}
    (hgrows : disk.Grows made) (hfiles : made.files = disk.files)
    (hresolve : made.resolve? action.target = some names)
    (hbytes : ∀ location text, action = .write location text → bytes = text.toUTF8) :
    action.Changes disk (made.put names bytes) := by
  have hnames : names = action.file disk := by
    rw [eq_spelled_of_resolve? hresolve, hgrows.spelled_eq, file]
  refine ⟨hgrows.trans (.put made names bytes), ?_, fun other hother => ?_, ?_⟩
  · rw [resolve?_put, hresolve, hnames]
  · rw [bytes?_put, if_neg (hnames ▸ hother), bytes?_eq_of_files_eq hfiles]
  · intro location text haction
    rw [bytes?_put, if_pos hnames.symm, hbytes location text haction]

theorem changes_of_perform (h : action.perform disk = (next, none)) :
    action.Changes disk next := by
  cases action with
  | write location text =>
    obtain ⟨made, hmade, hwrite⟩ := perform_write_eq_iff.1 h
    obtain ⟨names, hresolve, -, rfl⟩ := write?_eq_some_iff.1 hwrite
    refine changes_put (grows_makeDirectory? hmade) (files_of_makeDirectory? hmade) hresolve ?_
    rintro _ _ ⟨⟩
    rfl
  | copy source target =>
    obtain ⟨origin, names, bytes, -, -, hresolve, -, -, rfl⟩ :=
      copy?_eq_some_iff.1 (perform_copy_eq_iff.1 h)
    refine changes_put (.refl disk) rfl hresolve ?_
    rintro _ _ ⟨⟩

theorem performAll_cons_eq_iff :
    performAll disk (action :: todo) = (after, none) ↔
      ∃ next, action.perform disk = (next, none) ∧ performAll next todo = (after, none) := by
  rw [performAll]
  rcases action.perform disk with ⟨next, _ | error⟩ <;> simp

/-- A run ends well exactly if its two parts do, one after the other. -/
theorem performAll_append_eq_iff {rest : List OutputAction} :
    performAll disk (todo ++ rest) = (after, none) ↔
      ∃ now, performAll disk todo = (now, none) ∧ performAll now rest = (after, none) := by
  induction todo generalizing disk with
  | nil => simp [performAll]
  | cons action todo ih =>
    rw [List.cons_append, performAll_cons_eq_iff]
    simp only [ih, performAll_cons_eq_iff]
    constructor
    · rintro ⟨next, hfirst, now, htodo, hrest⟩
      exact ⟨now, ⟨next, hfirst, htodo⟩, hrest⟩
    · rintro ⟨now, ⟨next, hfirst, htodo⟩, hrest⟩
      exact ⟨next, hfirst, now, htodo, hrest⟩

theorem grows_of_performAll (h : performAll disk todo = (after, none)) : disk.Grows after := by
  induction todo generalizing disk with
  | nil =>
    cases h
    exact .refl _
  | cons action rest ih =>
    obtain ⟨next, hfirst, hrest⟩ := performAll_cons_eq_iff.1 h
    exact (changes_of_perform hfirst).grows.trans (ih hrest)

/-- At the end of a run every target leads to its file. -/
theorem resolve?_target_of_performAll (h : performAll disk todo = (after, none))
    (haction : action ∈ todo) : after.resolve? action.target = some (action.file disk) := by
  induction todo generalizing disk with
  | nil => cases haction
  | cons first rest ih =>
    obtain ⟨next, hfirst, hrest⟩ := performAll_cons_eq_iff.1 h
    have hchanges := changes_of_perform hfirst
    rcases List.mem_cons.1 haction with rfl | hlater
    · exact (grows_of_performAll hrest).resolve?_eq_some hchanges.resolve?_target
    · rw [ih hrest hlater, file, file, hchanges.grows.spelled_eq]

/-- A file to which no action of a run leads keeps its bytes. -/
theorem bytes?_of_performAll {names : List String} (h : performAll disk todo = (after, none))
    (hnone : ∀ action ∈ todo, action.file disk ≠ names) :
    after.bytes? names = disk.bytes? names := by
  induction todo generalizing disk with
  | nil =>
    cases h
    rfl
  | cons action rest ih =>
    obtain ⟨next, hfirst, hrest⟩ := performAll_cons_eq_iff.1 h
    have hchanges := changes_of_perform hfirst
    rw [List.forall_mem_cons] at hnone
    rw [ih hrest, hchanges.bytes?_eq names (Ne.symm hnone.1)]
    intro later hlater
    rw [file, hchanges.grows.spelled_eq]
    exact hnone.2 later hlater

/-- A file to which only one writing of a run leads holds its text at the end of the run. -/
theorem bytes?_of_only (h : performAll disk todo = (after, none))
    (honly : todo.filter (fun action => action.file disk = disk.spelled location) =
      [write location text]) : after.bytes? (disk.spelled location) = some text.toUTF8 := by
  induction todo generalizing disk with
  | nil => cases honly
  | cons action rest ih =>
    obtain ⟨next, hfirst, hrest⟩ := performAll_cons_eq_iff.1 h
    have hchanges := changes_of_perform hfirst
    have hfile : ∀ a : OutputAction, a.file next = a.file disk := fun a =>
      hchanges.grows.spelled_eq a.target
    by_cases hleads : action.file disk = disk.spelled location
    · -- this is the writing, and nothing that comes later leads to the file
      rw [List.filter_cons_of_pos (by simpa using hleads)] at honly
      obtain ⟨rfl, hnone⟩ := List.cons.inj honly
      rw [List.filter_eq_nil_iff] at hnone
      have hwritten := hchanges.bytes?_write location text rfl
      rw [file_write] at hwritten
      rw [bytes?_of_performAll hrest, hwritten]
      intro later hlater
      rw [hfile]
      simpa only [decide_eq_true_eq] using hnone later hlater
    · rw [List.filter_cons_of_neg (by simpa using hleads), ← hchanges.grows.spelled_eq] at honly
      rw [← hchanges.grows.spelled_eq]
      exact ih hrest (by simpa only [hfile] using honly)

/-- A run that ended well writes a text to a file and lets no other action lead to it, so that the
file holds the text from then on. -/
structure WritesOnce (disk : Disk) (todo : List OutputAction) (after : Disk)
    (location text : String) : Prop where
  only : todo.filter (fun action => after.resolve? action.target = after.resolve? location) =
    [.write location text]
  /-- At every moment of the run after the writing the file holds the text. -/
  holds : ∀ done rest, todo = done ++ rest → .write location text ∈ done →
    ∃ now, performAll disk done = (now, none) ∧ now.read? location = some text.toUTF8
  read?_eq : after.read? location = some text.toUTF8

theorem writesOnce (h : performAll disk todo = (after, none))
    (honly : todo.filter (fun action => action.file disk = disk.spelled location) =
      [write location text]) : WritesOnce disk todo after location text := by
  have hmem : write location text ∈ todo := by
    have hfound := List.mem_singleton_self (write location text)
    rw [← honly] at hfound
    exact (List.mem_filter.1 hfound).1
  have hresolve : ∀ {done : List OutputAction} {now : Disk}, write location text ∈ done →
      performAll disk done = (now, none) →
        now.resolve? location = some (disk.spelled location) := by
    intro done now hdone hnow
    exact resolve?_target_of_performAll hnow hdone
  have hread : ∀ {done : List OutputAction} {now : Disk}, write location text ∈ done →
      done.filter (fun action => action.file disk = disk.spelled location) =
        [write location text] →
      performAll disk done = (now, none) → now.read? location = some text.toUTF8 := by
    intro done now hdone honly hnow
    rw [read?, hresolve hdone hnow, Option.bind_some, bytes?_of_only hnow honly]
  refine ⟨?_, ?_, hread hmem honly h⟩
  · rw [← honly]
    refine List.filter_congr fun action haction => decide_eq_decide.2 ?_
    rw [resolve?_target_of_performAll h haction, hresolve hmem h, Option.some.injEq]
  · rintro done rest rfl hdone
    obtain ⟨now, hnow, -⟩ := performAll_append_eq_iff.1 h
    refine ⟨now, hnow, hread hdone ?_ hnow⟩
    -- the one writing that leads to the file is in the first part of the run
    rw [List.filter_append] at honly
    rcases List.append_eq_singleton_iff.1 honly with ⟨hnone, -⟩ | ⟨hall, -⟩
    · have hnot := List.filter_eq_nil_iff.1 hnone _ hdone
      exact absurd (decide_eq_true (file_write disk location text)) hnot
    · exact hall

end OutputAction

end PageRoutes
