import PageRoutes.Disk
import PageRoutes.Json.Value
import PageRoutes.RouteTree

/-!
# The configuration of a project

A project declares its redirections, and possibly its name, in a configuration file.  The order of
the redirections is the order in which they are tried.  A project without a name in its
configuration takes the one of its package.
-/

namespace PageRoutes

/-- The part of a configuration file that matters here. -/
structure Config where
  name : Option String
  /-- The section on the application, with the address it is served from. -/
  app : Option (Option String)
  redirects : List RedirectRule
deriving Repr, DecidableEq

/-- Why there is no configuration or no project name. -/
inductive ConfigError where
  /-- There is no configuration file. -/
  | notFound
  /-- A file cannot be read as text. -/
  | unreadable (location : String)
  /-- A file does not have the expected form. -/
  | malformed (location : String)
  /-- Neither the configuration nor the package has a name. -/
  | missingProjectName
deriving Repr, DecidableEq

/-- The wording of an error. -/
def ConfigError.message : ConfigError → String
  | notFound =>
    "A skyuxconfig.json file was not found. Please execute this command within a SKY UX project."
  | unreadable location => "Could not read \"" ++ location ++ "\": it is not a readable text file"
  | malformed location => "Could not parse \"" ++ location ++ "\": it does not have the right form"
  | missingProjectName =>
    "Could not determine the project name from skyuxconfig.json or package.json."

namespace Config

/-- The name of the configuration file of a project. -/
def fileName : String := "skyuxconfig.json"

/-- Adds a redirection; one from the same address keeps its place and takes the new target. -/
def addRedirect (rules : List RedirectRule) (rule : RedirectRule) : List RedirectRule :=
  if rules.any (·.source == rule.source) then
    rules.map fun r => if r.source = rule.source then rule else r
  else rules ++ [rule]

/-- The redirection that a member of an object declares. -/
def redirect? : Option String × Json.Value → Option RedirectRule
  | (some source, .string (some target)) => some ⟨source, target⟩
  | _ => none

/-- The redirections of a configuration. -/
def redirects? : Option Json.Value → Option (List RedirectRule)
  | none => some []
  | some (.object members) => do return (← members.mapM redirect?).foldl addRedirect []
  | some _ => none

/-- The section on the application, with the address it is served from. -/
def app? : Option Json.Value → Option (Option (Option String))
  | none | some .null => some none
  | some value => do
    match ← value.fields? ["base"] with
    | [base] => return some (← Json.optionalText? base)
    | _ => none

/-- The configuration that a JSON value describes. -/
def ofValue? (value : Json.Value) : Option Config := do
  match ← value.fields? ["name", "app", "redirects"] with
  | [name, app, redirects] =>
    return ⟨← Json.optionalText? name, ← app? app, ← redirects? redirects⟩
  | _ => none

/-- The name that a package description declares. -/
def packageName? (value : Json.Value) : Option (Option String) := do
  match ← value.fields? ["name"] with
  | [name] => Json.optionalText? name
  | _ => none

/-- Reads a file that has to hold JSON of some form. -/
def readJson {α : Type} (form : Json.Value → Option α) (disk : Disk) (location : String) :
    Except ConfigError α :=
  match disk.readText? location with
  | none => .error (.unreadable location)
  | some text =>
    match (Json.read? text).bind form with
    | none => .error (.malformed location)
    | some value => .ok value

/-- Reads the configuration file at a location. -/
def load (disk : Disk) (location : String) : Except ConfigError Config :=
  if disk.hasEntry location then readJson ofValue? disk location else .error .notFound

/-! ## The name of the project -/

/-- What the package names of applications begin with. -/
def packageFront : List Char := "blackbaud-skyux-spa-".toList

/-- A package name without the usual beginning, in whatever case that is written. -/
def shortName (package : String) : String :=
  let front := package.toList.take packageFront.length
  if front.map Char.toLower == packageFront then
    String.ofList (package.toList.drop packageFront.length)
  else package

/-- The name of a project: its base address, else its own name, else the one of its package. -/
def projectName (config : Config) (disk : Disk) (projectRoot : String) :
    Except ConfigError String :=
  match config.app.join, config.name with
  | some base, _ => .ok base
  | none, some name => .ok name
  | none, none => do
    match ← readJson packageName? disk (Location.join projectRoot "package.json") with
    | some name => return shortName name
    | none => .error .missingProjectName

end Config

end PageRoutes
