import PageRoutes.Proofs.Accepted
import PageRoutes.Proofs.DirectoryWalk
import PageRoutes.Proofs.OutputFiles
import PageRoutes.Script.Module

/-!
# Writing in place

The output may be written among its own sources.  Wherever it ends, the pages and guards are
discovered as before, since no file is removed and only generated files change.  An output that ends
well comes down to files that are put on the disk one after the other; doing so once more changes
nothing, so the whole run can be repeated.  It ends well when nothing is in the way of any file.
-/

namespace PageRoutes

/-! ## Putting files -/

namespace Disk

variable {disk after : Disk} {placed : List (List String × ByteArray)}

/-- The disk with the given files put on it one after the other. -/
def putAll (disk : Disk) (placed : List (List String × ByteArray)) : Disk :=
  placed.foldl (fun disk file => disk.put file.1 file.2) disk

theorem putAll_cons (disk : Disk) (file : List String × ByteArray)
    (placed : List (List String × ByteArray)) :
    disk.putAll (file :: placed) = (disk.put file.1 file.2).putAll placed :=
  rfl

theorem directories_putAll (disk : Disk) (placed : List (List String × ByteArray)) :
    (disk.putAll placed).directories = disk.directories := by
  induction placed generalizing disk with
  | nil => rfl
  | cons file placed ih => exact ih _

theorem workingDirectory_putAll (disk : Disk) (placed : List (List String × ByteArray)) :
    (disk.putAll placed).workingDirectory = disk.workingDirectory := by
  induction placed generalizing disk with
  | nil => rfl
  | cons file placed ih => exact ih _

/-- Files that are put on a disk are what they are on any disk with the same files. -/
theorem files_putAll_congr (h : disk.files = after.files) :
    (disk.putAll placed).files = (after.putAll placed).files := by
  induction placed generalizing disk after with
  | nil => exact h
  | cons file placed ih =>
    refine ih ?_
    rw [files_put, files_put, h]

/-- The files that were put come first, and of those that were there the ones with other names
remain. -/
theorem exists_files_putAll (placed : List (List String × ByteArray)) :
    ∃ front : List (List String × ByteArray), (∀ file ∈ front, file.1 ∈ placed.map (·.1)) ∧
      ∀ disk : Disk, (disk.putAll placed).files =
        front ++ disk.files.filter fun file => file.1 ∉ placed.map (·.1) := by
  induction placed using List.reverseRecOn with
  | nil => exact ⟨[], fun _ h => absurd h List.not_mem_nil, fun disk => by simp [putAll]⟩
  | append_singleton placed last ih =>
    obtain ⟨front, hfront, hfiles⟩ := ih
    refine ⟨last :: front.filter (·.1 != last.1), ?_, fun disk => ?_⟩
    · intro file hfile
      rw [List.map_append, List.mem_append]
      rcases List.mem_cons.1 hfile with rfl | hold
      · exact Or.inr List.mem_cons_self
      · exact Or.inl (hfront file (List.mem_filter.1 hold).1)
    · have hlast : disk.putAll (placed ++ [last]) = (disk.putAll placed).put last.1 last.2 := by
        rw [putAll, putAll, List.foldl_append]
        rfl
      rw [hlast, files_put, hfiles, List.filter_append, List.filter_filter, List.cons_append]
      congr 2
      refine List.filter_congr fun file _ => ?_
      rw [Bool.eq_iff_iff]
      simp [and_comm]

/-- Putting files on a disk once more changes nothing. -/
theorem putAll_putAll (disk : Disk) (placed : List (List String × ByteArray)) :
    (disk.putAll placed).putAll placed = disk.putAll placed := by
  obtain ⟨front, hfront, hfiles⟩ := exists_files_putAll placed
  have hnone : front.filter (fun file => file.1 ∉ placed.map (·.1)) = [] :=
    List.filter_eq_nil_iff.2 fun file hfile => by simpa using hfront file hfile
  ext1
  · rw [directories_putAll]
  · rw [hfiles, hfiles disk, List.filter_append, hnone, List.nil_append, List.filter_filter]
    simp only [Bool.and_self]
  · rw [workingDirectory_putAll]

end Disk

/-! ## Repeating actions -/

namespace OutputAction

open Disk

variable {disk next after : Disk} {action : OutputAction} {todo : List OutputAction}

/-- An action that copies nothing but files with other names than those of generated files. -/
def ReadsSource (action : OutputAction) : Prop :=
  ∀ source target, action = .copy source target →
    ∃ name, IsName name ∧ name ∉ Output.generatedNames ∧
      (Location.pieces source).getLast? = some name

/-- A file that was written stands in the way of no later writing. -/
theorem write?_again {made later : Disk} {location : String} {bytes : ByteArray}
    {names : List String} (hresolve : made.resolve? location = some names)
    (hmade : made.Keeps Output.generatedNames later) (hthere : (later.bytes? names).isSome = true)
    : later.write? location bytes = some (later.put names bytes) :=
  write?_eq_some_iff.2 ⟨names, hmade.resolve?_eq_some hresolve,
    hmade.isTree.isDirectory_eq_false hthere, rfl⟩

/-- A writing that ended well has put one file on the disk, and puts it there again on any disk that
has come from the one it left. -/
theorem exists_put_of_write {location text : String} (hdisk : disk.IsTree)
    (haction : (write location text).IsGenerating)
    (hperform : (write location text).perform disk = (next, none)) :
    ∃ names bytes, next.files = (disk.put names bytes).files ∧
      ∀ later, next.Keeps Output.generatedNames later →
        (write location text).perform later = (later.put names bytes, none) := by
  obtain ⟨made, hmade, hwrite⟩ := perform_write_eq_iff.1 hperform
  obtain ⟨names, hresolve, hfile, rfl⟩ := write?_eq_some_iff.1 hwrite
  obtain ⟨name, hname, hlast⟩ := haction
  have hmaking : disk.Keeps Output.generatedNames made := hdisk.keeps_makeDirectory? hmade
  have hfirst : made.Keeps Output.generatedNames (made.put names text.toUTF8) :=
    hmaking.isTree.keeps_of_write? (Output.isName_of_mem_generatedNames hname) hname hlast hwrite
  refine ⟨names, text.toUTF8, ?_, fun later hlater => ?_⟩
  · rw [files_put, files_put, files_of_makeDirectory? hmade]
  · have hthere : (later.bytes? names).isSome = true :=
      hlater.isSome_bytes? names (by rw [bytes?_put, if_pos rfl]; rfl)
    exact perform_write_eq_iff.2 ⟨later, hdisk.makeDirectory?_eq_self hmade (hfirst.trans hlater),
      write?_again hresolve (hfirst.trans hlater) hthere⟩

/-- A generated file that is emptied is not one that is copied. -/
theorem bytes?_put_target {later : Disk} {source target name : String}
    {directory names : List String} (hlater : later.IsTree)
    (haction : (copy source target).IsGenerating) (hother : name ∉ Output.generatedNames)
    (hwrite : later.write? target ByteArray.empty = some (later.put names ByteArray.empty)) :
    (later.put names ByteArray.empty).bytes? (directory ++ [name]) =
      later.bytes? (directory ++ [name]) := by
  have hleave : MayLeave later (.copy source target) _ := .copying hwrite
  exact Discovery.bytes?_eq_of_keeps (hleave.keeps hlater haction) hother rfl

/-- A copying that ended well has put one file on the disk, and puts it there again on any disk that
has come from the one it left. -/
theorem exists_put_of_copy {source target : String} (hdisk : disk.IsTree)
    (haction : (copy source target).IsGenerating) (hsource : (copy source target).ReadsSource)
    (hperform : (copy source target).perform disk = (next, none)) :
    ∃ names bytes, next.files = (disk.put names bytes).files ∧
      ∀ later, next.Keeps Output.generatedNames later →
        (copy source target).perform later = (later.put names bytes, none) := by
  have hkeeps := keeps_perform hdisk haction
  rw [hperform] at hkeeps
  obtain ⟨origin, names, bytes, horigin, hold, hresolve, hfile, hbytes, rfl⟩ :=
    copy?_eq_some_iff.1 (perform_copy_eq_iff.1 hperform)
  obtain ⟨name, hname, hother, hlast⟩ := hsource source target rfl
  obtain ⟨directory, -, rfl⟩ := resolve?_eq_some hname hlast horigin
  -- the source has the bytes it had before, on this disk and on every later one
  have hbefore : disk.bytes? (directory ++ [name]) = some bytes := by
    rw [← bytes?_put_target hdisk haction hother
      (write?_eq_some_iff.2 ⟨names, hresolve, hfile, rfl⟩), hbytes]
  refine ⟨names, bytes, rfl, fun later hlater => ?_⟩
  have hall := hkeeps.trans hlater
  have hthere : (later.bytes? names).isSome = true :=
    hlater.isSome_bytes? names (by rw [bytes?_put, if_pos rfl]; rfl)
  have hnow : later.bytes? (directory ++ [name]) = some bytes := by
    rw [Discovery.bytes?_eq_of_keeps hall hother rfl, hbefore]
  refine perform_copy_eq_iff.2 (copy?_eq_some_iff.2 ⟨_, names, bytes,
    hall.resolve?_eq_some horigin, Option.isSome_of_eq_some hnow, hall.resolve?_eq_some hresolve,
    hlater.isTree.isDirectory_eq_false hthere, ?_, rfl⟩)
  rw [bytes?_put_target hlater.isTree haction hother (write?_again hresolve hall hthere), hnow]

/-- An action that ended well has put one file on the disk, and puts it there again on any disk that
has come from the one it left. -/
theorem exists_put_of_perform (hdisk : disk.IsTree) (haction : action.IsGenerating)
    (hsource : action.ReadsSource) (hperform : action.perform disk = (next, none)) :
    ∃ names bytes, next.files = (disk.put names bytes).files ∧
      ∀ later, next.Keeps Output.generatedNames later →
        action.perform later = (later.put names bytes, none) := by
  cases action with
  | write location text => exact exists_put_of_write hdisk haction hperform
  | copy source target => exact exists_put_of_copy hdisk haction hsource hperform

/-- Actions that all ended well have put files on the disk, and put them there again on any disk
that has come from the one they left. -/
theorem exists_putAll_of_performAll (hdisk : disk.IsTree)
    (haction : ∀ action ∈ todo, action.IsGenerating)
    (hsource : ∀ action ∈ todo, action.ReadsSource)
    (hperform : performAll disk todo = (after, none)) :
    ∃ placed, after.files = (disk.putAll placed).files ∧
      ∀ later, after.Keeps Output.generatedNames later →
        performAll later todo = (later.putAll placed, none) := by
  induction todo generalizing disk with
  | nil =>
    obtain rfl : disk = after := congrArg Prod.fst hperform
    exact ⟨[], rfl, fun later _ => rfl⟩
  | cons action rest ih =>
    rw [List.forall_mem_cons] at haction hsource
    rw [performAll] at hperform
    split at hperform
    · rename_i next hfirst
      obtain ⟨names, bytes, hfiles, hagain⟩ :=
        exists_put_of_perform hdisk haction.1 hsource.1 hfirst
      have hkeeps := keeps_perform hdisk haction.1
      rw [hfirst] at hkeeps
      obtain ⟨placed, hplaced, hrest⟩ := ih hkeeps.isTree haction.2 hsource.2 hperform
      have hleft : next.Keeps Output.generatedNames after := by
        have hall := (mayLeaveAll_performAll next rest).keeps hkeeps.isTree haction.2
        rwa [hperform] at hall
      refine ⟨(names, bytes) :: placed, ?_, fun later hlater => ?_⟩
      · rw [hplaced, putAll_cons]
        exact files_putAll_congr hfiles
      · have hput := hagain later (hleft.trans hlater)
        -- the file that is put again is a generated one
        have hkept := keeps_perform hlater.isTree haction.1
        rw [hput] at hkept
        rw [performAll, hput, putAll_cons]
        exact hrest _ (hlater.trans hkept)
    · cases hperform

/-- Performing actions that all ended well once more ends well and changes nothing. -/
theorem performAll_again (hdisk : disk.IsTree)
    (haction : ∀ action ∈ todo, action.IsGenerating)
    (hsource : ∀ action ∈ todo, action.ReadsSource)
    (hperform : performAll disk todo = (after, none)) :
    performAll after todo = (after, none) := by
  obtain ⟨placed, hfiles, hagain⟩ :=
    exists_putAll_of_performAll hdisk haction hsource hperform
  have hafter : after.IsTree := by
    have hall := (mayLeaveAll_performAll disk todo).keeps hdisk haction
    rw [hperform] at hall
    exact hall.isTree
  have hsame : after.putAll placed = after := by
    ext1
    · rw [directories_putAll]
    · rw [files_putAll_congr hfiles, putAll_putAll, hfiles]
    · rw [workingDirectory_putAll]
  rw [hagain after (.refl hafter), hsame]

end OutputAction

/-! ## Actions without obstacles -/

namespace OutputAction

open Disk

variable {disk later : Disk} {action : OutputAction} {todo : List OutputAction}

/-- Whether no directory stands where an action puts its file. -/
def HasRoom (disk : Disk) (action : OutputAction) : Prop :=
  ∃ names, disk.resolve? action.target = some names ∧ disk.isDirectory names = false

/-- Whether nothing is in the way of an action: there is room for the file, and the directory around
it or the file to be copied is there. -/
def IsReady (disk : Disk) (action : OutputAction) : Prop :=
  action.HasRoom disk ∧ match action with
    | write location _ => disk.makeDirectory? (directoryOf location) = some disk
    | copy source _ => (disk.read? source).isSome = true

/-- An action that was ready ends well on every later disk with the same directories. -/
theorem exists_perform_eq_put (hdisk : disk.IsTree) (hready : action.IsReady disk)
    (hkeeps : disk.Keeps Output.generatedNames later)
    (hsame : later.directories = disk.directories) :
    ∃ names bytes, action.perform later = (later.put names bytes, none) := by
  obtain ⟨⟨names, hresolve, hfile⟩, hready⟩ := hready
  have hlater := hkeeps.resolve?_eq_some hresolve
  have hroom : later.isDirectory names = false := by rw [isDirectory, hsame, ← isDirectory, hfile]
  cases action with
  | write location text =>
    exact ⟨names, text.toUTF8, perform_write_eq_iff.2 ⟨later,
      hdisk.makeDirectory?_eq_self hready hkeeps,
      write?_eq_some_iff.2 ⟨names, hlater, hroom, rfl⟩⟩⟩
  | copy source target =>
    obtain ⟨old, hread⟩ := Option.isSome_iff_exists.1 hready
    obtain ⟨origin, horigin, hold⟩ := Option.bind_eq_some_iff.1 hread
    have hthere := hkeeps.isSome_bytes? origin (Option.isSome_of_eq_some hold)
    obtain ⟨bytes, hbytes⟩ :
        ∃ bytes, (later.put names ByteArray.empty).bytes? origin = some bytes := by
      rw [← Option.isSome_iff_exists, bytes?_put]
      split
      · rfl
      · exact hthere
    exact ⟨names, bytes, perform_copy_eq_iff.2 (copy?_eq_some_iff.2 ⟨origin, names, bytes,
      hkeeps.resolve?_eq_some horigin, hthere, hlater, hroom, hbytes, rfl⟩)⟩

/-- Actions that are all ready end well one after the other. -/
theorem performAll_of_isReady (hdisk : disk.IsTree)
    (haction : ∀ action ∈ todo, action.IsGenerating) (hready : ∀ action ∈ todo, action.IsReady disk)
    (hkeeps : disk.Keeps Output.generatedNames later)
    (hsame : later.directories = disk.directories) : (performAll later todo).2 = none := by
  induction todo generalizing later with
  | nil => rfl
  | cons action rest ih =>
    rw [List.forall_mem_cons] at haction hready
    obtain ⟨names, bytes, hperform⟩ := exists_perform_eq_put hdisk hready.1 hkeeps hsame
    have hnext := keeps_perform hkeeps.isTree haction.1
    rw [hperform] at hnext
    rw [performAll, hperform]
    exact ih haction.2 hready.2 (hkeeps.trans hnext) hsame

end OutputAction

/-! ## Whole outputs -/

namespace Output

open Disk OutputAction

variable {pagesDirectory outDirectory : String} {disk : Disk} {found : Discovered}
  {redirects : List RedirectRule} {classesOf : ClassReader} {compiled : CompiledRoutes}

/-- The pages of a compilation of what was discovered lie in page files. -/
theorem getLast?_pieces_sourcePath (hfound : Discovery.discover disk pagesDirectory = .ok found)
    (hcompiled : (found.toInput redirects).compile classesOf = .ok compiled) {page : Page}
    (hpage : page ∈ compiled.pages) :
    (Location.pieces page.sourcePath).getLast? = some Discovery.pageFile := by
  obtain ⟨registry, site, haccepted⟩ := CompileInput.compile_eq_ok_iff.1 hcompiled
  obtain ⟨path, hpath, hparse⟩ :=
    CompileInput.exists_path_of_parsePages haccepted.parsed hpage
  obtain ⟨names, rfl, hlast⟩ := Discovery.getLast?_of_mem_pagePaths hfound hpath
  have hfile : Path.IsPart Discovery.pageFile :=
    ⟨by decide, by decide, by decide, by decide⟩
  obtain ⟨front, hparts⟩ := List.getLast?_eq_some_iff.1 (Path.getLast?_parts_ofParts hfile hlast)
  have hsingle : Location.pieces Discovery.pageFile = [Discovery.pageFile] :=
    Location.pieces_eq_singleton (by decide)
  rw [Page.sourcePath_of_parse hparse, Path.normalize, hparts]
  rcases Path.ofParts_concat front Discovery.pageFile with heq | ⟨rest, heq⟩
  · rw [heq, hsingle]
    rfl
  · rw [heq, Location.getLast?_pieces_append_slash, hsingle]
    rfl

/-- The actions for what was discovered copy nothing but page files. -/
theorem readsSource_of_mem_actions (hfound : Discovery.discover disk pagesDirectory = .ok found)
    (hcompiled : (found.toInput redirects).compile classesOf = .ok compiled)
    {action : OutputAction} (haction : action ∈ actions compiled pagesDirectory outDirectory) :
    action.ReadsSource := by
  rintro source target rfl
  rw [actions, List.cons_append, List.mem_cons, List.mem_append, List.mem_flatMap] at haction
  rcases haction with hmodule | ⟨page, hpage, hcopy⟩ | hroot
  · cases hmodule
  · rw [pageActions, List.mem_pair] at hcopy
    rcases hcopy with hwrite | hcopy
    · cases hwrite
    · obtain ⟨rfl, rfl⟩ := OutputAction.copy.inj hcopy
      refine ⟨Discovery.pageFile, by decide, by decide, ?_⟩
      rw [Location.getLast?_pieces_join]
      exact getLast?_pieces_sourcePath hfound hcompiled (List.mem_filter.1 hpage).1
  · split at hroot
    · cases hroot
    · rw [rootActions, List.mem_pair] at hroot
      rcases hroot with hwrite | hwrite <;> cases hwrite

theorem write_eq_ok_iff {written : List String} {after : Disk} :
    write compiled pagesDirectory outDirectory disk = (.ok written, after) ↔
      performAll disk (actions compiled pagesDirectory outDirectory) = (after, none) ∧
        written = (actions compiled pagesDirectory outDirectory).map (·.target) := by
  unfold write
  generalize actions compiled pagesDirectory outDirectory = todo
  dsimp only
  split
  · rename_i hperform
    rw [hperform, Prod.mk.injEq, Prod.mk.injEq, Except.ok.injEq, and_iff_left rfl, and_comm,
      eq_comm (b := written)]
  · rename_i hperform
    rw [hperform]
    simp

/-- The output leaves the disk that its actions leave. -/
theorem snd_write : (write compiled pagesDirectory outDirectory disk).2 =
    (performAll disk (actions compiled pagesDirectory outDirectory)).1 := by
  unfold write
  generalize actions compiled pagesDirectory outDirectory = todo
  dsimp only
  split <;> rename_i hperform <;> rw [hperform]

/-- An output for which nothing is in the way ends well. -/
theorem exists_write_eq_ok (hdisk : disk.IsTree)
    (hready : ∀ action ∈ actions compiled pagesDirectory outDirectory, action.IsReady disk) :
    ∃ after, write compiled pagesDirectory outDirectory disk =
      (.ok ((actions compiled pagesDirectory outDirectory).map (·.target)), after) := by
  have hperform := performAll_of_isReady hdisk (fun _ => isGenerating_of_mem_actions) hready
    (.refl hdisk) rfl
  rcases hall : performAll disk (actions compiled pagesDirectory outDirectory) with
    ⟨after, failure⟩
  rw [hall] at hperform
  obtain rfl : failure = none := hperform
  exact ⟨after, write_eq_ok_iff.2 ⟨hall, rfl⟩⟩

/-- An output changes nothing but generated files. -/
theorem keeps_write (hdisk : disk.IsTree) :
    disk.Keeps generatedNames (write compiled pagesDirectory outDirectory disk).2 := by
  rw [snd_write]
  exact (mayLeaveAll_performAll disk _).keeps hdisk fun _ => isGenerating_of_mem_actions

/-- An output that ended well ends well once more and leaves the disk as it is. -/
theorem write_again (hdisk : disk.IsTree)
    (hfound : Discovery.discover disk pagesDirectory = .ok found)
    (hcompiled : (found.toInput redirects).compile classesOf = .ok compiled)
    {written : List String} {after : Disk}
    (hwrite : write compiled pagesDirectory outDirectory disk = (.ok written, after)) :
    write compiled pagesDirectory outDirectory after = (.ok written, after) := by
  obtain ⟨hperform, hwritten⟩ := write_eq_ok_iff.1 hwrite
  refine write_eq_ok_iff.2 ⟨?_, hwritten⟩
  exact performAll_again hdisk (fun _ => isGenerating_of_mem_actions)
    (fun _ => readsSource_of_mem_actions hfound hcompiled) hperform

/-- What is known of a disk, on which pages and guards are discovered and compiled, when the output
is written to it. -/
structure IsSafe (classesOf : ClassReader) (redirects : List RedirectRule)
    (pagesDirectory outDirectory : String) (disk : Disk) (found : Discovered)
    (compiled : CompiledRoutes) : Prop where
  /-- The disk that the output leaves is among those that are left wherever it ends. -/
  mayLeaveAll : MayLeaveAll disk (actions compiled pagesDirectory outDirectory)
    (write compiled pagesDirectory outDirectory disk).2
  /-- Wherever the output ends, no file is removed and only generated files change. -/
  keeps : ∀ after, MayLeaveAll disk (actions compiled pagesDirectory outDirectory) after →
    disk.Keeps generatedNames after
  /-- Wherever the output ends, the same pages and guards are discovered. -/
  discover_eq : ∀ after, MayLeaveAll disk (actions compiled pagesDirectory outDirectory) after →
    Discovery.discover after pagesDirectory = .ok found
  /-- An output that ended well ends well once more and leaves the disk as it is. -/
  again : ∀ written after,
    write compiled pagesDirectory outDirectory disk = (.ok written, after) →
      ∃ found' compiled', Discovery.discover after pagesDirectory = .ok found' ∧
        (found'.toInput redirects).compile classesOf = .ok compiled' ∧
        write compiled' pagesDirectory outDirectory after = (.ok written, after)

/-- An output can be written anywhere, also among its own sources, and can be repeated. -/
theorem isSafe_of_compile (hdisk : disk.IsTree)
    (hfound : Discovery.discover disk pagesDirectory = .ok found)
    (hcompiled : (found.toInput redirects).compile classesOf = .ok compiled) :
    IsSafe classesOf redirects pagesDirectory outDirectory disk found compiled := by
  have hkeeps : ∀ after, MayLeaveAll disk (actions compiled pagesDirectory outDirectory) after →
      disk.Keeps generatedNames after := fun after hleave =>
    hleave.keeps hdisk fun _ => isGenerating_of_mem_actions
  have hdiscover : ∀ after, disk.Keeps generatedNames after →
      Discovery.discover after pagesDirectory = .ok found := fun after hkept =>
    Discovery.discover_eq_of_keeps hdisk hkept (by decide) (by decide) hfound
  refine ⟨?_, hkeeps, fun after hleave => hdiscover after (hkeeps after hleave), ?_⟩
  · rw [snd_write]
    exact mayLeaveAll_performAll disk _
  · intro written after hwrite
    have hkept : disk.Keeps generatedNames
        (write compiled pagesDirectory outDirectory disk).2 := keeps_write hdisk
    rw [hwrite] at hkept
    exact ⟨found, compiled, hdiscover after hkept, hcompiled,
      write_again hdisk hfound hcompiled hwrite⟩

/-- A page directory with a page for the root and a file that is of no concern. -/
def notedDisk : Disk where
  directories := [["site"]]
  files := [(["site", "index.html"], ⟨#[104, 105]⟩), (["site", "notes.txt"], ⟨#[110, 111]⟩)]
  workingDirectory := []

theorem discover_notedDisk : Discovery.discover notedDisk "site" = .ok ⟨["index.html"], []⟩ := by
  have hdirectory : (notedDisk.resolve? "site").filter notedDisk.isDirectory = some ["site"] := by
    decide +kernel
  have hentries : notedDisk.entries ["site"] = ["index.html", "notes.txt"] := by
    rw [Disk.entries, List.mergeSort_of_pairwise (by decide +kernel)]
    decide +kernel
  have hfiles : Discovery.files notedDisk "site" ["site"] = [["index.html"], ["notes.txt"]] := by
    have hheight : notedDisk.height = 2 := by decide +kernel
    rw [Discovery.files, if_neg (by decide +kernel), hheight, Discovery.walk, hentries]
    decide +kernel
  simp only [Discovery.discover, hdirectory, hfiles]
  rfl

/-- What is done for a page for the root alone, whatever its routing module says. -/
theorem actions_of_defaultRoot (compiled : CompiledRoutes) (h : compiled.pages = [defaultRoot]) :
    actions compiled "site" "site" =
      [.write "site/app-routing.module.ts" compiled.routingModule,
        .write "site/index.component.ts" defaultRoot.componentSource,
        .copy "site/index.html" "site/index.component.html"] := by
  have hrole : defaultRoot.role = .rootIndex := by decide +kernel
  have hrouting : Location.join "site" moduleFile = "site/app-routing.module.ts" := by
    decide +kernel
  have hcomponent : Location.join "site" defaultRoot.componentPath = "site/index.component.ts" := by
    decide +kernel
  have hsource : Location.join "site" defaultRoot.sourcePath = "site/index.html" := by
    decide +kernel
  have htemplate : Location.join "site" defaultRoot.templatePath = "site/index.component.html" := by
    decide +kernel
  simp [actions, pageActions, h, hrole, hrouting, hcomponent, hsource, htemplate]

theorem isReady_notedDisk (routing component : String) :
    ∀ action ∈ [OutputAction.write "site/app-routing.module.ts" routing,
      .write "site/index.component.ts" component,
      .copy "site/index.html" "site/index.component.html"], action.IsReady notedDisk := by
  have hmade : ∀ location ∈ ["site/app-routing.module.ts", "site/index.component.ts"],
      notedDisk.makeDirectory? (directoryOf location) = some notedDisk := by
    have hdirectory : ∀ location ∈ ["site/app-routing.module.ts", "site/index.component.ts"],
        directoryOf location = "site" := by decide +kernel
    have hpieces : Location.pieces "site" = ["site"] := by decide +kernel
    intro location hlocation
    rw [hdirectory location hlocation, makeDirectory?, makeWay, hpieces]
    rfl
  have hroom : ∀ name ∈ ["app-routing.module.ts", "index.component.ts", "index.component.html"],
      notedDisk.resolve? ("site/" ++ name) = some ["site", name] ∧
        notedDisk.isDirectory ["site", name] = false := by decide +kernel
  simp only [List.forall_mem_cons, IsReady, HasRoom, target] at hroom hmade ⊢
  exact ⟨⟨⟨_, hroom.1⟩, hmade.1⟩, ⟨⟨_, hroom.2.1⟩, hmade.2.1⟩,
    ⟨⟨_, hroom.2.2.1⟩, by decide +kernel⟩, fun _ h => absurd h List.not_mem_nil⟩

/-- The page directory takes its own output. -/
theorem isSafe_of_compile_noted :
    notedDisk.IsTree ∧ Discovery.discover notedDisk "site" = .ok ⟨["index.html"], []⟩ ∧
      ∃ compiled after, CompileInput.compile Script.classReader ⟨["index.html"], [], []⟩ =
          .ok compiled ∧
        IsSafe Script.classReader [] "site" "site" notedDisk ⟨["index.html"], []⟩ compiled ∧
        write compiled "site" "site" notedDisk =
          (.ok ["site/app-routing.module.ts", "site/index.component.ts",
            "site/index.component.html"], after) := by
  have htree : notedDisk.IsTree := by decide
  have hparse : CompileInput.parsePages ["index.html"] = .ok [defaultRoot] := by decide +kernel
  obtain ⟨built, -, hcompiled⟩ :=
    CompileInput.exists_compile_eq_ok Script.classReader ⟨["index.html"], [], []⟩ hparse
      (by decide +kernel) rfl (by decide +kernel)
  have hactions := actions_of_defaultRoot
    ⟨[defaultRoot], [], built.strayGuards, built.tree.order, Emission.ofTree built.tree.order⟩ rfl
  have hready := isReady_notedDisk (Emission.ofTree built.tree.order).routingModule
    defaultRoot.componentSource
  obtain ⟨after, hwrite⟩ := exists_write_eq_ok htree (hactions ▸ hready)
  rw [hactions] at hwrite
  exact ⟨htree, discover_notedDisk, _, after, hcompiled,
    isSafe_of_compile htree discover_notedDisk hcompiled, hwrite⟩

end Output

end PageRoutes
