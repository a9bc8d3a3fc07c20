import PageRoutes.Output
import PageRoutes.Proofs.DiskTree
import PageRoutes.Proofs.Replacement

/-!
# Which files the output touches

Every file that is written for a compilation is called like the routing module, like the component
or like the template of a page, whatever directories its location goes through.  So an output that
ends at any point has made directories and has changed files of these names, and nothing else.
-/

namespace PageRoutes

/-! ## Last pieces of locations -/

namespace Location

theorem pieces_ne_nil (location : String) : pieces location ≠ [] := by
  rw [pieces, ne_eq, List.map_eq_nil_iff]
  exact List.splitOn_ne_nil _ _

/-- Around a slash the pieces of both sides stand side by side. -/
theorem pieces_append_slash (front back : String) :
    pieces (front ++ ("/" ++ back)) = pieces front ++ pieces back := by
  rw [pieces, Path.toList_append_slash, List.splitOn_append_cons_self, List.map_append, pieces,
    pieces]

theorem pieces_eq_singleton {name : String} (hslash : '/' ∉ name.toList) :
    pieces name = [name] := by
  rw [pieces, List.splitOn_eq_singleton hslash, List.map_singleton, String.ofList_toList]

/-- A location ends like its part behind a slash. -/
theorem getLast?_pieces_append_slash (front back : String) :
    (pieces (front ++ ("/" ++ back))).getLast? = (pieces back).getLast? := by
  rw [pieces_append_slash, List.getLast?_append_of_ne_nil _ (pieces_ne_nil back)]

/-- A location as seen from a directory that has a name is put behind it and a slash, unless the
name ends in one. -/
theorem exists_join_eq {base : String} (hbase : base ≠ "") :
    ∃ front, (base = front ∨ base = front ++ ("/" ++ "")) ∧
      ∀ location, isAbsolute location = false →
        join base location = front ++ ("/" ++ location) ∧
          isAbsolute (join base location) = isAbsolute base := by
  have habsolute : ∀ back, isAbsolute (base ++ back) = isAbsolute base := by
    intro back
    rw [isAbsolute, String.toList_append, List.head?_append_of_ne_nil _ (by simpa using hbase),
      isAbsolute]
  have hjoin : ∀ location, isAbsolute location = false → join base location =
      if base.toList.getLast? == some '/' then base ++ location else base ++ "/" ++ location := by
    intro location hrelative
    rw [join, hrelative, if_neg Bool.false_ne_true, if_neg hbase]
  by_cases hslash : (base.toList.getLast? == some '/') = true
  · obtain ⟨front, hfront⟩ := List.getLast?_eq_some_iff.1 (beq_iff_eq.1 hslash)
    have heq : ∀ location, base ++ location = String.ofList front ++ ("/" ++ location) := by
      intro location
      rw [← String.toList_inj]
      simp [hfront]
    refine ⟨String.ofList front, Or.inr ?_, fun location hrelative => ?_⟩
    · rw [← heq, String.append_empty]
    · rw [hjoin location hrelative, if_pos hslash, habsolute]
      exact ⟨heq location, rfl⟩
  · refine ⟨base, Or.inl rfl, fun location hrelative => ?_⟩
    rw [hjoin location hrelative, if_neg hslash, String.append_assoc, habsolute]
    exact ⟨rfl, rfl⟩

/-- A location as seen from a directory ends like the location. -/
theorem getLast?_pieces_join (base location : String) :
    (pieces (join base location)).getLast? = (pieces location).getLast? := by
  by_cases habsolute : isAbsolute location = true
  · rw [join, if_pos habsolute]
  · by_cases hbase : base = ""
    · rw [join, if_neg habsolute, if_pos hbase]
    · obtain ⟨front, -, hfront⟩ := exists_join_eq hbase
      rw [(hfront location (by simpa using habsolute)).1, getLast?_pieces_append_slash]

end Location

/-! ## Names of generated files -/

namespace Page

variable {page : Page}

theorem getLast?_pieces_componentPath (hrole : page.role ≠ .notFound) :
    (Location.pieces page.componentPath).getLast? = some "index.component.ts" := by
  have hname : Location.pieces "index.component.ts" = ["index.component.ts"] :=
    Location.pieces_eq_singleton (by decide)
  rw [componentPath, if_neg hrole]
  split
  · rw [hname]
    rfl
  · have hslash : "/index.component.ts" = "/" ++ "index.component.ts" := rfl
    rw [hslash, Location.getLast?_pieces_append_slash, hname]
    rfl

theorem getLast?_pieces_templatePath (hrole : page.role ≠ .notFound) :
    (Location.pieces page.templatePath).getLast? = some "index.component.html" := by
  have hname : Location.pieces "index.component.html" = ["index.component.html"] :=
    Location.pieces_eq_singleton (by decide)
  have hending : Text.replaceAll ".component.ts" ".component.html" "index.component.ts" =
      "index.component.html" := by
    decide
  rw [templatePath, componentPath, if_neg hrole]
  split
  · rw [hending, hname]
    rfl
  · have hslash : "/index.component.ts" = "/" ++ "index.component.ts" := rfl
    rw [hslash, Text.replaceAll_append_slash (by decide) (by decide), hending,
      Location.getLast?_pieces_append_slash, hname]
    rfl

end Page

/-- The names of all files that are written. -/
def Output.generatedNames : List String :=
  [Output.moduleFile, "index.component.ts", "index.component.html"]

theorem Output.isName_of_mem_generatedNames {name : String} (h : name ∈ Output.generatedNames) :
    Disk.IsName name := by
  revert name
  decide

/-! ## Actions -/

namespace OutputAction

variable {disk after next : Disk} {action : OutputAction} {todo : List OutputAction}

/-- An action whose file has the name of a generated file. -/
def IsGenerating (action : OutputAction) : Prop :=
  ∃ name ∈ Output.generatedNames, (Location.pieces action.target).getLast? = some name

/-- A writing ends well when the directory is made and then the file is written. -/
theorem perform_write_eq_iff {location text : String} :
    (write location text).perform disk = (next, none) ↔
      ∃ made, disk.makeDirectory? (directoryOf location) = some made ∧
        made.write? location text.toUTF8 = some next := by
  rw [perform, ← Option.bind_eq_some_iff]
  cases (disk.makeDirectory? (directoryOf location)).bind (·.write? location text.toUTF8) <;> simp

/-- A copying ends well when the disk copies. -/
theorem perform_copy_eq_iff {source target : String} :
    (copy source target).perform disk = (next, none) ↔ disk.copy? source target = some next := by
  rw [perform]
  cases disk.copy? source target <;> simp

/-- A disk that an action may leave, however it ends: directories may have been made in part, and
the file may hold any bytes. -/
inductive MayLeave (disk : Disk) : OutputAction → Disk → Prop where
  | untouched (action : OutputAction) : MayLeave disk action disk
  | making (location text : String) (count : Nat) :
    MayLeave disk (.write location text)
      (disk.makeAlong (disk.start (directoryOf location))
        ((Location.pieces (directoryOf location)).take count)).1
  | writing {location text : String} {made after : Disk} {bytes : ByteArray}
    (hmade : disk.makeDirectory? (directoryOf location) = some made)
    (hwrite : made.write? location bytes = some after) : MayLeave disk (.write location text) after
  | copying {source target : String} {after : Disk} {bytes : ByteArray}
    (hwrite : disk.write? target bytes = some after) : MayLeave disk (.copy source target) after

/-- A disk that is left when actions are performed one after the other up to any point. -/
inductive MayLeaveAll : Disk → List OutputAction → Disk → Prop where
  | finished (disk : Disk) : MayLeaveAll disk [] disk
  | during {disk after : Disk} {action : OutputAction} {rest : List OutputAction}
    (h : action.MayLeave disk after) : MayLeaveAll disk (action :: rest) after
  | later {disk next after : Disk} {action : OutputAction} {rest : List OutputAction}
    (hperform : action.perform disk = (next, none)) (h : MayLeaveAll next rest after) :
    MayLeaveAll disk (action :: rest) after

/-- What an action leaves is one of the disks that it may leave. -/
theorem mayLeave_perform (disk : Disk) (action : OutputAction) :
    action.MayLeave disk (action.perform disk).1 := by
  cases action with
  | write location text =>
    rw [perform]
    split
    · rename_i written hwritten
      obtain ⟨made, hmade, hwrite⟩ := Option.bind_eq_some_iff.1 hwritten
      exact .writing hmade hwrite
    · dsimp only
      rw [Disk.makeWay, ← List.take_length (l := Location.pieces (directoryOf location))]
      exact .making location text _
  | copy source target =>
    rw [perform]
    split
    · rename_i copied hcopied
      obtain ⟨origin, names, bytes, -, -, hnames, hfile, -, rfl⟩ :=
        Disk.copy?_eq_some_iff.1 hcopied
      exact .copying (Disk.write?_eq_some_iff.2 ⟨names, hnames, hfile, rfl⟩)
    · exact .untouched _

theorem mayLeaveAll_performAll (disk : Disk) (todo : List OutputAction) :
    MayLeaveAll disk todo (performAll disk todo).1 := by
  induction todo generalizing disk with
  | nil => exact .finished disk
  | cons action rest ih =>
    have hfirst := mayLeave_perform disk action
    rw [performAll]
    split
    · exact .later ‹_› (ih _)
    · rename_i hfailed
      rw [hfailed] at hfirst
      exact .during hfirst

/-- However a generating action ends, it has changed nothing but generated files. -/
theorem MayLeave.keeps (h : action.MayLeave disk after) (hdisk : disk.IsTree)
    (haction : action.IsGenerating) : disk.Keeps Output.generatedNames after := by
  obtain ⟨name, hname, hlast⟩ := haction
  have hproper := Output.isName_of_mem_generatedNames hname
  cases h with
  | untouched => exact .refl hdisk
  | making location text count => exact hdisk.keeps_makeAlong (hdisk.isDirectory_start _)
  | writing hmade hwrite =>
    have hmaking : disk.Keeps Output.generatedNames _ := hdisk.keeps_makeDirectory? hmade
    exact hmaking.trans (hmaking.isTree.keeps_of_write? hproper hname hlast hwrite)
  | copying hwrite => exact hdisk.keeps_of_write? hproper hname hlast hwrite

theorem keeps_perform (hdisk : disk.IsTree) (haction : action.IsGenerating) :
    disk.Keeps Output.generatedNames (action.perform disk).1 :=
  (mayLeave_perform disk action).keeps hdisk haction

/-- Wherever a list of generating actions ends, nothing but generated files has changed. -/
theorem MayLeaveAll.keeps (h : MayLeaveAll disk todo after) (hdisk : disk.IsTree)
    (htodo : ∀ action ∈ todo, action.IsGenerating) : disk.Keeps Output.generatedNames after := by
  induction h with
  | finished disk => exact .refl hdisk
  | during hleave => exact hleave.keeps hdisk (htodo _ List.mem_cons_self)
  | later hperform _ ih =>
    rw [List.forall_mem_cons] at htodo
    have hfirst := keeps_perform hdisk htodo.1
    rw [hperform] at hfirst
    exact hfirst.trans (ih hfirst.isTree htodo.2)

end OutputAction

namespace Output

variable {outDirectory : String} {page : Page} {action : OutputAction}

theorem getLast?_pieces_moduleFile :
    (Location.pieces (Location.join outDirectory moduleFile)).getLast? = some moduleFile := by
  rw [Location.getLast?_pieces_join, Location.pieces_eq_singleton (by decide)]
  rfl

/-- What is written for a page is called like a component or like a template. -/
theorem exists_getLast?_of_target (hrole : page.role ≠ .notFound)
    (htarget : action.target = Location.join outDirectory page.componentPath ∨
      action.target = Location.join outDirectory page.templatePath) :
    ∃ name ∈ generatedNames.tail, (Location.pieces action.target).getLast? = some name := by
  rcases htarget with htarget | htarget
  · refine ⟨"index.component.ts", by decide, ?_⟩
    rw [htarget, Location.getLast?_pieces_join, page.getLast?_pieces_componentPath hrole]
  · refine ⟨"index.component.html", by decide, ?_⟩
    rw [htarget, Location.getLast?_pieces_join, page.getLast?_pieces_templatePath hrole]

/-- After the routing module nothing but components and templates are written. -/
theorem exists_getLast?_of_mem_tail {compiled : CompiledRoutes} {pagesDirectory : String}
    (h : action ∈ (actions compiled pagesDirectory outDirectory).tail) :
    ∃ name ∈ generatedNames.tail, (Location.pieces action.target).getLast? = some name := by
  rw [actions, List.cons_append, List.tail_cons, List.mem_append, List.mem_flatMap] at h
  rcases h with ⟨page, hpage, haction⟩ | hroot
  · have hrole : page.role ≠ .notFound := by simpa using (List.mem_filter.1 hpage).2
    rw [pageActions, List.mem_pair] at haction
    rcases haction with rfl | rfl
    · exact exists_getLast?_of_target hrole (Or.inl rfl)
    · exact exists_getLast?_of_target hrole (Or.inr rfl)
  · have hrole : defaultRoot.role ≠ .notFound := by decide
    split at hroot
    · cases hroot
    · rw [rootActions, List.mem_pair] at hroot
      rcases hroot with rfl | rfl
      · exact exists_getLast?_of_target hrole (Or.inl rfl)
      · exact exists_getLast?_of_target hrole (Or.inr rfl)

/-- Every action of an output writes a file with the name of a generated file. -/
theorem isGenerating_of_mem_actions {compiled : CompiledRoutes} {pagesDirectory : String}
    (h : action ∈ actions compiled pagesDirectory outDirectory) :
    action.IsGenerating := by
  rcases List.mem_cons.1 h with rfl | htail
  · exact ⟨moduleFile, List.mem_cons_self, getLast?_pieces_moduleFile⟩
  · obtain ⟨name, hname, hlast⟩ := exists_getLast?_of_mem_tail htail
    exact ⟨name, List.mem_of_mem_tail hname, hlast⟩

end Output

end PageRoutes
