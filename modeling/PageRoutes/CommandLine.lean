import PageRoutes.Config
import PageRoutes.Discovery
import PageRoutes.Output
import PageRoutes.Report

/-!
# The command line

The arguments say where the project is, what is written and where to.  They are read from left to
right: the first fault or the first request for help or for the version decides.  A command then
runs on a disk and leaves an exit code, what it printed, its warnings and its report, and the disk
as it is afterwards.
-/

namespace PageRoutes.CommandLine

/-! ## Arguments -/

/-- What is printed. -/
inductive OutputFormat where
  /-- The source of the routing module. -/
  | module
  /-- The compilation as JSON. -/
  | json
deriving Repr, DecidableEq

/-- What the arguments ask for. -/
structure Options where
  projectRoot : Option String
  pagesDirectory : Option String
  configFile : Option String
  format : Option OutputFormat
  outDirectory : Option String
  verbose : Bool
  quiet : Bool
deriving Repr, DecidableEq

/-- How the arguments are to be taken. -/
inductive Request where
  | run (options : Options)
  | help
  | version
  /-- The arguments are faulty. -/
  | invalid
deriving Repr, DecidableEq

/-- An option that takes a value. -/
inductive ValueOption where
  | projectRoot
  | pagesDirectory
  | configFile
  | format
  | outDirectory
deriving Repr, DecidableEq

/-- An option that takes no value. -/
inductive Flag where
  | verbose
  | quiet
  | help
  | version
deriving Repr, DecidableEq

/-- Any option. -/
inductive Switch where
  | value (option : ValueOption)
  | flag (flag : Flag)
deriving Repr, DecidableEq

/-- The options by their long names. -/
def longSwitch? : String → Option Switch
  | "project-root" => some (.value .projectRoot)
  | "pages-dir" => some (.value .pagesDirectory)
  | "config" => some (.value .configFile)
  | "format" => some (.value .format)
  | "out-dir" => some (.value .outDirectory)
  | "verbose" => some (.flag .verbose)
  | "quiet" => some (.flag .quiet)
  | "help" => some (.flag .help)
  | "version" => some (.flag .version)
  | _ => none

/-- The options by their letters. -/
def shortSwitch? : Char → Option Switch
  | 'r' => some (.value .projectRoot)
  | 'c' => some (.value .configFile)
  | 'f' => some (.value .format)
  | 'o' => some (.value .outDirectory)
  | 'v' => some (.flag .verbose)
  | 'q' => some (.flag .quiet)
  | 'h' => some (.flag .help)
  | 'V' => some (.flag .version)
  | _ => none

/-- The options before any argument is read. -/
def Options.none : Options :=
  ⟨.none, .none, .none, .none, .none, false, false⟩

/-- The format with the given name. -/
def OutputFormat.ofName? : String → Option OutputFormat
  | "module" => some .module
  | "json" => some .json
  | _ => none

/-- Sets an option that has no value yet to a value of the right form. -/
def Options.set? (options : Options) (option : ValueOption) (text : String) : Option Options :=
  if text = "" then .none
  else match option with
    | .projectRoot =>
      if options.projectRoot.isSome then .none else some { options with projectRoot := text }
    | .pagesDirectory =>
      if options.pagesDirectory.isSome then .none else some { options with pagesDirectory := text }
    | .configFile =>
      if options.configFile.isSome then .none else some { options with configFile := text }
    | .outDirectory =>
      if options.outDirectory.isSome then .none else some { options with outDirectory := text }
    | .format =>
      if options.format.isSome then .none
      else (OutputFormat.ofName? text).map fun format => { options with format := some format }

/-- Where the reading of the arguments stands. -/
inductive Progress where
  /-- The options so far. -/
  | options (options : Options)
  /-- The options so far, and one that waits for its value. -/
  | waiting (options : Options) (option : ValueOption)
  /-- What the arguments come to, whatever follows. -/
  | decided (request : Request)

/-- Takes a flag, which may stand only once. -/
def takeFlag (options : Options) : Flag → Progress
  | .verbose =>
    if options.verbose then .decided .invalid else .options { options with verbose := true }
  | .quiet => if options.quiet then .decided .invalid else .options { options with quiet := true }
  | .help => .decided .help
  | .version => .decided .version

/-- Takes the value of an option. -/
def takeValue (options : Options) (option : ValueOption) (text : String) : Progress :=
  match options.set? option text with
  | some options => .options options
  | none => .decided .invalid

/-- Takes letters that follow one hyphen: flags, and possibly one option at the end whose value may
be attached, with or without an equals sign. -/
def takeLetters (options : Options) : List Char → Progress
  | [] => .options options
  | letter :: rest =>
    match shortSwitch? letter with
    | none => .decided .invalid
    | some (.flag flag) =>
      match takeFlag options flag with
      | .options options => takeLetters options rest
      | other => other
    | some (.value option) =>
      match rest with
      | [] => .waiting options option
      | '=' :: text => takeValue options option (String.ofList text)
      | text => takeValue options option (String.ofList text)

/-- Takes a long option without its hyphens, whose value may follow an equals sign. -/
def takeLong (options : Options) (text : List Char) : Progress :=
  let name := text.takeWhile (· != '=')
  match longSwitch? (String.ofList name), text.drop name.length with
  | some (.flag flag), [] => takeFlag options flag
  | some (.value option), [] => .waiting options option
  | some (.value option), _ :: value => takeValue options option (String.ofList value)
  | _, _ => .decided .invalid

/-- Takes one argument that is not the separator `--`. -/
def takeArgument (progress : Progress) (argument : String) : Progress :=
  match progress, argument.toList with
  | .decided request, _ => .decided request
  | .options options, '-' :: '-' :: text => takeLong options text
  | .options options, '-' :: letter :: rest => takeLetters options (letter :: rest)
  | .options _, _ => .decided .invalid
  | .waiting _ _, '-' :: _ :: _ => .decided .invalid
  | .waiting options option, _ => takeValue options option argument

/-- What the options come to when all arguments are read. -/
def conclude : Progress → Request
  | .decided request => request
  | .waiting _ _ => .invalid
  | .options options => if options.verbose && options.quiet then .invalid else .run options

/-- Reads the arguments.  Nothing may follow the separator `--`. -/
def readFrom (progress : Progress) : List String → Request
  | [] => conclude progress
  | "--" :: rest =>
    match progress, rest with
    | .decided request, _ => request
    | _, [] => conclude progress
    | _, _ :: _ => .invalid
  | argument :: rest => readFrom (takeArgument progress argument) rest

/-- Reads the arguments from the beginning. -/
def read (arguments : List String) : Request :=
  readFrom (.options .none) arguments

/-! ## Running -/

/-- Why a command failed. -/
inductive Failure where
  | config (error : ConfigError)
  | discovery (error : DiscoveryError)
  | compile (error : CompileError)
  | output (error : OutputError)
deriving Repr, DecidableEq

/-- The wording of a failure. -/
def Failure.message : Failure → String
  | config error => error.message
  | discovery error => error.message
  | compile error => error.message
  | output error => error.message

/-- What a command leaves behind. -/
structure Outcome where
  exitCode : Nat
  output : String
  /-- The guards that are left out, if they are warned of. -/
  warnings : List Guard
  /-- What is reported as an error. -/
  report : Option String
  disk : Disk

/-- What is printed for a compilation. -/
def printed (format : OutputFormat) (compiled : CompiledRoutes) : String :=
  match format with
  | .module => compiled.routingModule
  | .json => (Report.ofCompiled compiled).render ++ "\n"

/-- The directory of the project. -/
def projectDirectory (options : Options) (disk : Disk) : String :=
  Location.absolute (Location.ofNames disk.workingDirectory) (options.projectRoot.getD ".")

/-- The directory of the pages. -/
def pagesDirectory (options : Options) (disk : Disk) : String :=
  Location.join (projectDirectory options disk) (options.pagesDirectory.getD "src/app")

/-- The location of the configuration file. -/
def configFile (options : Options) (disk : Disk) : String :=
  options.configFile.getD (Location.join (projectDirectory options disk) Config.fileName)

/-- Every location that a run with the given options looks at or writes below. -/
def locations (options : Options) (disk : Disk) : List String :=
  [projectDirectory options disk, pagesDirectory options disk, configFile options disk,
    options.outDirectory.getD "."]

/-- Compiles the project that the options name. -/
def compileProject (classesOf : ClassReader) (options : Options) (disk : Disk) :
    Except Failure CompiledRoutes := do
  let config ← (Config.load disk (configFile options disk)).mapError .config
  let found ← (Discovery.discover disk (pagesDirectory options disk)).mapError .discovery
  ((found.toInput config.redirects).compile classesOf).mapError .compile

/-- The guards that are warned of; there are no warnings when less is to be said. -/
def warnings (options : Options) (compiled : CompiledRoutes) : List Guard :=
  if options.quiet then [] else compiled.strayGuards

/-- The wording of a warning. -/
def warningText (guard : Guard) : String :=
  "The guard file \"" ++ guard.sourcePath ++ "\" is left out: the directory \""
    ++ guard.directory ++ "\" has no route."

/-- Runs a command with the given options. -/
def runOptions (classesOf : ClassReader) (options : Options) (disk : Disk) : Outcome :=
  match compileProject classesOf options disk with
  | .error failure => ⟨1, "", [], some failure.message, disk⟩
  | .ok compiled =>
    let warned := warnings options compiled
    match options.outDirectory with
    | none => ⟨0, printed (options.format.getD .module) compiled, warned, none, disk⟩
    | some outDirectory =>
      match Output.write compiled (pagesDirectory options disk) outDirectory disk with
      | (.ok _, disk) => ⟨0, "", warned, none, disk⟩
      | (.error error, disk) => ⟨1, "", warned, some (Failure.output error).message, disk⟩

/-- How the command is used. -/
def usage : String :=
  "Compiles the pages of a SKY UX project into an Angular routing module.\n\n"
    ++ "Options:\n"
    ++ "  -r, --project-root <DIR>  the project [default: .]\n"
    ++ "      --pages-dir <DIR>     the pages, as seen from the project [default: src/app]\n"
    ++ "  -c, --config <FILE>       the configuration file\n"
    ++ "  -f, --format <FORMAT>     what is printed: module or json [default: module]\n"
    ++ "  -o, --out-dir <DIR>       where files are written\n"
    ++ "  -v, --verbose             say more\n"
    ++ "  -q, --quiet               say less\n"
    ++ "  -h, --help                print this\n"
    ++ "  -V, --version             print the version\n"

/-- What is printed when the version is asked for. -/
def versionText : String :=
  "SKY UX Route Compiler 0.1.0\n"

/-- Runs a command with the given arguments. -/
def run (classesOf : ClassReader) (arguments : List String) (disk : Disk) : Outcome :=
  match read arguments with
  | .run options => runOptions classesOf options disk
  | .help => ⟨0, usage, [], none, disk⟩
  | .version => ⟨0, versionText, [], none, disk⟩
  | .invalid => ⟨2, "", [], none, disk⟩

end PageRoutes.CommandLine
