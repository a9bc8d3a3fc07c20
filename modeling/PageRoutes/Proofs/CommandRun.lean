import PageRoutes.CommandLine
import PageRoutes.Proofs.ActionRuns
import PageRoutes.Proofs.RepeatedOutput

/-!
# Whole runs of the command

A run compiles the project as it finds it, and only when that has succeeded it prints or writes
anything.  So the disk stays as it is unless the project compiles and a directory for the output is
named, and then only generated files change.  The routing module that is written is the one that
would have been printed.  A run that ended well can be repeated and changes nothing then, as long as
the configuration is not read from a file that the output writes.
-/

namespace PageRoutes

/-! ## Reading the configuration again -/

namespace Config

variable {disk after : Disk} {location : String} {config : Config} {changeable : List String}

theorem readJson_eq_ok_iff {α : Type} {form : Json.Value → Option α} {value : α} :
    readJson form disk location = .ok value ↔
      ∃ text, disk.readText? location = some text ∧ (Json.read? text).bind form = some value := by
  unfold readJson
  cases disk.readText? location with
  | none => simp
  | some text =>
    simp only [Option.some.injEq, exists_eq_left']
    cases (Json.read? text).bind form <;> simp

/-- A configuration is read from a file with a text of the right form. -/
theorem load_eq_ok_iff :
    load disk location = .ok config ↔
      ∃ names text, disk.resolve? location = some names ∧
        (disk.bytes? names).bind String.fromUTF8? = some text ∧
        (Json.read? text).bind ofValue? = some config := by
  have htext : ∀ text, disk.readText? location = some text ↔ ∃ names,
      disk.resolve? location = some names ∧
        (disk.bytes? names).bind String.fromUTF8? = some text := fun text => by
    rw [Disk.readText?, Disk.read?, Option.bind_assoc, Option.bind_eq_some_iff]
  -- whatever can be read is there
  have hload : load disk location = .ok config ↔
      readJson ofValue? disk location = .ok config := by
    rw [load]
    split
    · exact Iff.rfl
    · rename_i hnone
      refine iff_of_false (fun h => by cases h) fun h => hnone ?_
      obtain ⟨text, hread, -⟩ := readJson_eq_ok_iff.1 h
      obtain ⟨bytes, hbytes, -⟩ := Option.bind_eq_some_iff.1 hread
      rw [Disk.hasEntry, hbytes]
      exact Bool.or_true _
  rw [hload, readJson_eq_ok_iff]
  simp only [htext]
  constructor
  · rintro ⟨text, ⟨names, hresolve, hbytes⟩, hconfig⟩
    exact ⟨names, text, hresolve, hbytes, hconfig⟩
  · rintro ⟨names, text, hresolve, hbytes, hconfig⟩
    exact ⟨text, ⟨names, hresolve, hbytes⟩, hconfig⟩

/-- A configuration is read again as it was, unless its file is one that changes. -/
theorem load_eq_of_keeps (hkeeps : disk.Keeps changeable after)
    (hapart : ∀ names, disk.resolve? location = some names →
      ∀ name ∈ changeable, names.getLast? ≠ some name)
    (h : load disk location = .ok config) : load after location = .ok config := by
  obtain ⟨names, text, hresolve, htext, hconfig⟩ := load_eq_ok_iff.1 h
  rw [← hkeeps.bytes?_eq names (hapart names hresolve)] at htext
  exact load_eq_ok_iff.2 ⟨names, text, hkeeps.resolve?_eq_some hresolve, htext, hconfig⟩

end Config

/-! ## The routing module in its file -/

namespace Output

open Disk OutputAction

variable {compiled : CompiledRoutes} {pagesDirectory outDirectory : String} {disk after : Disk}
  {written : List String}

/-- After an output that ended well the routing module is in its file: what is written later has
other names. -/
theorem read?_moduleFile_of_write
    (h : write compiled pagesDirectory outDirectory disk = (.ok written, after)) :
    after.read? (Location.join outDirectory moduleFile) =
      some compiled.routingModule.toUTF8 := by
  obtain ⟨next, hfirst, hrest⟩ := performAll_cons_eq_iff.1 (write_eq_ok_iff.1 h).1
  have hchanges := changes_of_perform hfirst
  have hresolve : after.resolve? (Location.join outDirectory moduleFile) = _ :=
    (grows_of_performAll hrest).resolve?_eq_some hchanges.resolve?_target
  rw [read?, hresolve, Option.bind_some, bytes?_of_performAll hrest]
  · exact hchanges.bytes?_write _ _ rfl
  · intro action haction heq
    obtain ⟨name, hname, hother⟩ := exists_getLast?_of_mem_tail haction
    have hnames : ∀ name ∈ generatedNames.tail, IsName name ∧ name ≠ moduleFile := by decide
    refine (hnames name hname).2 (Option.some.inj ?_)
    rw [← getLast?_spelled (hnames name hname).1 hother,
      ← getLast?_spelled (by decide) getLast?_pieces_moduleFile]
    exact congrArg List.getLast? heq

end Output

namespace CommandLine

variable {classesOf : ClassReader} {options : Options} {disk after : Disk}
  {compiled : CompiledRoutes} {outcome : Outcome}

/-! ## Compiling again -/

/-- A project compiles when its configuration is read, its pages and guards are discovered, and all
of them compile. -/
theorem compileProject_eq_ok_iff :
    compileProject classesOf options disk = .ok compiled ↔
      ∃ config found, Config.load disk (configFile options disk) = .ok config ∧
        Discovery.discover disk (pagesDirectory options disk) = .ok found ∧
        (found.toInput config.redirects).compile classesOf = .ok compiled := by
  simp only [compileProject, bind_eq_ok_iff, mapError_eq_ok_iff]
  exact exists_congr fun config => exists_and_left.symm

/-- The configuration is not read from a file that an output may change. -/
def Options.ConfigApart (options : Options) (disk : Disk) : Prop :=
  ∀ names, disk.resolve? (CommandLine.configFile options disk) = some names →
    ∀ name ∈ Output.generatedNames, names.getLast? ≠ some name

/-- The usual configuration file is none that an output may change. -/
theorem configApart_of_usual (h : options.configFile = none) : options.ConfigApart disk := by
  intro names hresolve name hname hlast
  have husual : (Location.pieces (configFile options disk)).getLast? = some Config.fileName := by
    rw [configFile, h, Option.getD_none, Location.getLast?_pieces_join,
      Location.pieces_eq_singleton (by decide)]
    rfl
  obtain ⟨directory, -, rfl⟩ := Disk.resolve?_eq_some (by decide) husual hresolve
  rw [List.getLast?_concat] at hlast
  obtain rfl := Option.some.inj hlast
  exact absurd hname (by decide)

/-- Where the parts of a project are does not depend on the files of the disk. -/
theorem locations_eq_of_keeps (options : Options)
    (hkeeps : disk.Keeps Output.generatedNames after) :
    pagesDirectory options after = pagesDirectory options disk ∧
      configFile options after = configFile options disk := by
  have hproject : projectDirectory options after = projectDirectory options disk := by
    rw [projectDirectory, projectDirectory, hkeeps.workingDirectory]
  rw [pagesDirectory, pagesDirectory, configFile, configFile, hproject]
  exact ⟨rfl, rfl⟩

/-- A project compiles as it did when only generated files have changed. -/
theorem compileProject_eq_of_keeps (hdisk : disk.IsTree)
    (hkeeps : disk.Keeps Output.generatedNames after) (hapart : options.ConfigApart disk)
    (h : compileProject classesOf options disk = .ok compiled) :
    compileProject classesOf options after = .ok compiled := by
  obtain ⟨config, found, hconfig, hfound, hcompile⟩ := compileProject_eq_ok_iff.1 h
  obtain ⟨hpages, hfile⟩ := locations_eq_of_keeps options hkeeps
  refine compileProject_eq_ok_iff.2 ⟨config, found, ?_, ?_, hcompile⟩
  · rw [hfile]
    exact Config.load_eq_of_keeps hkeeps hapart hconfig
  · rw [hpages]
    exact Discovery.discover_eq_of_keeps hdisk hkeeps (by decide) (by decide) hfound

/-! ## How a run ends -/

/-- How a run with the given options may end. -/
inductive Ends (classesOf : ClassReader) (options : Options) (disk : Disk) : Outcome → Prop where
  /-- The project does not compile. -/
  | refused {failure : Failure} (h : compileProject classesOf options disk = .error failure) :
    Ends classesOf options disk ⟨1, "", [], some failure.message, disk⟩
  /-- The compilation is printed. -/
  | printed {compiled : CompiledRoutes} (h : compileProject classesOf options disk = .ok compiled)
    (hout : options.outDirectory = none) :
    Ends classesOf options disk ⟨0, printed (options.format.getD .module) compiled,
      warnings options compiled, none, disk⟩
  /-- The compilation is written. -/
  | written {compiled : CompiledRoutes} {outDirectory : String} {files : List String} {after : Disk}
    (h : compileProject classesOf options disk = .ok compiled)
    (hout : options.outDirectory = some outDirectory)
    (hwrite : Output.write compiled (pagesDirectory options disk) outDirectory disk =
      (.ok files, after)) :
    Ends classesOf options disk ⟨0, "", warnings options compiled, none, after⟩
  /-- The compilation cannot be written to its end. -/
  | stopped {compiled : CompiledRoutes} {outDirectory : String} {error : OutputError} {after : Disk}
    (h : compileProject classesOf options disk = .ok compiled)
    (hout : options.outDirectory = some outDirectory)
    (hwrite : Output.write compiled (pagesDirectory options disk) outDirectory disk =
      (.error error, after)) :
    Ends classesOf options disk ⟨1, "", warnings options compiled,
      some (Failure.output error).message, after⟩

theorem ends_iff :
    Ends classesOf options disk outcome ↔ runOptions classesOf options disk = outcome := by
  constructor
  · intro h
    cases h with
    | refused h => rw [runOptions, h]
    | printed h hout => simp only [runOptions, h, hout]
    | written h hout hwrite => simp only [runOptions, h, hout, hwrite]
    | stopped h hout hwrite => simp only [runOptions, h, hout, hwrite]
  · rintro rfl
    cases hproject : compileProject classesOf options disk with
    | error failure =>
      simp only [runOptions, hproject]
      exact .refused hproject
    | ok compiled =>
      cases hout : options.outDirectory with
      | none =>
        simp only [runOptions, hproject, hout]
        exact .printed hproject hout
      | some outDirectory =>
        rcases hwrite : Output.write compiled (pagesDirectory options disk) outDirectory disk with
          ⟨error | files, after⟩
        · simp only [runOptions, hproject, hout, hwrite]
          exact .stopped hproject hout hwrite
        · simp only [runOptions, hproject, hout, hwrite]
          exact .written hproject hout hwrite

theorem ends_runOptions (classesOf : ClassReader) (options : Options) (disk : Disk) :
    Ends classesOf options disk (runOptions classesOf options disk) :=
  ends_iff.2 rfl

/-- What a run keeps to, whatever its arguments are and whatever it finds. -/
structure KeepsTo (classesOf : ClassReader) (arguments : List String) (disk : Disk)
    (outcome : Outcome) : Prop where
  /-- No file is removed, and only generated files change. -/
  keeps : disk.Keeps Output.generatedNames outcome.disk
  /-- Nothing changes unless the project compiles and a directory for the output is named. -/
  disk_eq : outcome.disk = disk ∨
    ∃ options outDirectory compiled, read arguments = .run options ∧
      options.outDirectory = some outDirectory ∧
      compileProject classesOf options disk = .ok compiled ∧
      outcome.disk = (Output.write compiled (pagesDirectory options disk) outDirectory disk).2
  /-- What is printed stands for a run that ended well and has written nothing. -/
  output : outcome.output ≠ "" → outcome.exitCode = 0 ∧ outcome.disk = disk
  /-- Only stray guards of a project that compiles are warned of, and not if less is to be said. -/
  warnings : ∀ guard ∈ outcome.warnings, ∃ options compiled, read arguments = .run options ∧
    options.quiet = false ∧ compileProject classesOf options disk = .ok compiled ∧
    guard ∈ compiled.strayGuards
  report : outcome.report.isSome = true ↔ outcome.exitCode = 1
  invalid : outcome.exitCode = 2 ↔ read arguments = .invalid
  exitCode_le : outcome.exitCode ≤ 2

theorem mem_warnings_iff {guard : Guard} :
    guard ∈ warnings options compiled ↔ options.quiet = false ∧ guard ∈ compiled.strayGuards := by
  rw [warnings]
  cases options.quiet <;> simp

/-- A run with options keeps to what every run keeps to. -/
theorem Ends.keepsTo (h : Ends classesOf options disk outcome) {arguments : List String}
    (hdisk : disk.IsTree) (hread : read arguments = .run options) :
    KeepsTo classesOf arguments disk outcome := by
  have hvalid : read arguments ≠ .invalid := by
    rw [hread]
    exact Request.noConfusion
  have hwarned : ∀ compiled, compileProject classesOf options disk = .ok compiled →
      ∀ guard ∈ warnings options compiled, ∃ options compiled, read arguments = .run options ∧
        options.quiet = false ∧ compileProject classesOf options disk = .ok compiled ∧
        guard ∈ compiled.strayGuards := fun compiled hcompiled guard hguard =>
    ⟨options, compiled, hread, (mem_warnings_iff.1 hguard).1, hcompiled,
      (mem_warnings_iff.1 hguard).2⟩
  have hwritten : ∀ {compiled outDirectory result after},
      compileProject classesOf options disk = .ok compiled →
      options.outDirectory = some outDirectory →
      Output.write compiled (pagesDirectory options disk) outDirectory disk = (result, after) →
      disk.Keeps Output.generatedNames after ∧ ∃ options outDirectory compiled,
        read arguments = .run options ∧ options.outDirectory = some outDirectory ∧
        compileProject classesOf options disk = .ok compiled ∧
        after = (Output.write compiled (pagesDirectory options disk) outDirectory disk).2 := by
    intro compiled outDirectory result after hcompiled hout hwrite
    obtain rfl := congrArg Prod.snd hwrite
    exact ⟨Output.keeps_write hdisk, options, outDirectory, compiled, hread, hout, hcompiled, rfl⟩
  cases h with
  | refused h =>
    exact ⟨.refl hdisk, Or.inl rfl, fun hne => absurd rfl hne,
      fun _ hmem => absurd hmem List.not_mem_nil, by simp, iff_of_false (by simp) hvalid, by simp⟩
  | printed h hout =>
    exact ⟨.refl hdisk, Or.inl rfl, fun _ => ⟨rfl, rfl⟩, hwarned _ h, by simp,
      iff_of_false (by simp) hvalid, by simp⟩
  | written h hout hwrite =>
    obtain ⟨hkeeps, hchanged⟩ := hwritten h hout hwrite
    exact ⟨hkeeps, Or.inr hchanged, fun hne => absurd rfl hne, hwarned _ h, by simp,
      iff_of_false (by simp) hvalid, by simp⟩
  | stopped h hout hwrite =>
    obtain ⟨hkeeps, hchanged⟩ := hwritten h hout hwrite
    exact ⟨hkeeps, Or.inr hchanged, fun hne => absurd rfl hne, hwarned _ h, by simp,
      iff_of_false (by simp) hvalid, by simp⟩

/-- Every run leaves the sources of the project alone, changes the disk only after the project has
compiled, and says by its exit code how it went. -/
theorem keepsTo_run (classesOf : ClassReader) (arguments : List String) (hdisk : disk.IsTree) :
    KeepsTo classesOf arguments disk (run classesOf arguments disk) := by
  have hsaid : ∀ text, read arguments ≠ .invalid →
      KeepsTo classesOf arguments disk ⟨0, text, [], none, disk⟩ := fun text hvalid =>
    ⟨.refl hdisk, Or.inl rfl, fun _ => ⟨rfl, rfl⟩, fun _ hmem => absurd hmem List.not_mem_nil,
      by simp, iff_of_false (by simp) hvalid, by simp⟩
  rw [run]
  split <;> rename_i hread
  · exact (ends_runOptions classesOf _ disk).keepsTo hdisk hread
  · exact hsaid usage (by simp [hread])
  · exact hsaid versionText (by simp [hread])
  · exact ⟨.refl hdisk, Or.inl rfl, fun hne => absurd rfl hne,
      fun _ hmem => absurd hmem List.not_mem_nil, by simp, iff_of_true rfl hread, by simp⟩

/-! ## Running again -/

/-- A run with options that ended well ends in the same way once more and changes nothing. -/
theorem runOptions_again (hdisk : disk.IsTree) (hapart : options.ConfigApart disk)
    (hcode : (runOptions classesOf options disk).exitCode = 0) :
    runOptions classesOf options (runOptions classesOf options disk).disk =
      runOptions classesOf options disk := by
  have hends := ends_runOptions classesOf options disk
  generalize hfirst : runOptions classesOf options disk = outcome at hends hcode ⊢
  cases hends with
  | refused | stopped => cases hcode
  | printed => exact hfirst
  | @written compiled outDirectory files after hcompiled hout hwrite =>
    have hkeeps : disk.Keeps Output.generatedNames
        (Output.write compiled (pagesDirectory options disk) outDirectory disk).2 :=
      Output.keeps_write hdisk
    rw [hwrite] at hkeeps
    obtain ⟨_, found, -, hfound, hcompile⟩ := compileProject_eq_ok_iff.1 hcompiled
    have hagain := Output.write_again hdisk hfound hcompile hwrite
    rw [← (locations_eq_of_keeps options hkeeps).1] at hagain
    exact ends_iff.1 (.written (compileProject_eq_of_keeps hdisk hkeeps hapart hcompiled) hout
      hagain)

/-- A run that ended well ends in the same way once more and changes nothing, unless the arguments
name a configuration file that the output has written; without one it is the usual file. -/
theorem run_again {arguments : List String} (hdisk : disk.IsTree)
    (hapart : ∀ options, read arguments = .run options → options.ConfigApart disk)
    (hcode : (run classesOf arguments disk).exitCode = 0) :
    run classesOf arguments (run classesOf arguments disk).disk = run classesOf arguments disk := by
  cases hread : read arguments with
  | run options =>
    have hrun : ∀ disk, run classesOf arguments disk = runOptions classesOf options disk :=
      fun disk => by rw [run, hread]
    rw [hrun] at hcode
    rw [hrun, hrun]
    exact runOptions_again hdisk (hapart options hread) hcode
  | help | version | invalid => simp only [run, hread]

/-! ## Printing and writing -/

/-- The routing module that a run writes is the one that it would print without a directory for the
output. -/
theorem read?_runOptions {outDirectory : String} (hout : options.outDirectory = some outDirectory)
    (hcode : (runOptions classesOf options disk).exitCode = 0) :
    (runOptions classesOf options disk).disk.read?
        (Location.join outDirectory Output.moduleFile) =
      some (runOptions classesOf { options with outDirectory := none, format := some .module }
        disk).output.toUTF8 := by
  have hends := ends_runOptions classesOf options disk
  generalize runOptions classesOf options disk = outcome at hends hcode ⊢
  cases hends with
  | refused | stopped => cases hcode
  | printed h hnone =>
    rw [hnone] at hout
    cases hout
  | written h hsome hwrite =>
    rw [hsome] at hout
    cases hout
    have hprints : runOptions classesOf
        { options with outDirectory := none, format := some .module } disk = _ :=
      ends_iff.1 (.printed h rfl)
    rw [hprints]
    exact Output.read?_moduleFile_of_write hwrite

/-- Saying less takes the warnings away and nothing else. -/
theorem runOptions_quiet (classesOf : ClassReader) (options : Options) (disk : Disk) :
    runOptions classesOf { options with quiet := true } disk =
      { runOptions classesOf options disk with warnings := [] } := by
  have hends := ends_runOptions classesOf options disk
  generalize runOptions classesOf options disk = outcome at hends ⊢
  rw [← ends_iff]
  cases hends with
  | refused h => exact .refused h
  | printed h hout => exact .printed h hout
  | written h hout hwrite => exact .written h hout hwrite
  | stopped h hout hwrite => exact .stopped h hout hwrite

end CommandLine

end PageRoutes
