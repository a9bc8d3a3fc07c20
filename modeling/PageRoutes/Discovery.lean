import PageRoutes.Compilation
import PageRoutes.Disk

/-!
# Discovering pages and guards

Below the page directory every file `index.html` is a page and every file `index.guard.ts` holds a
guard.  The directory is walked in depth and siblings, files and directories alike, are visited in
the order of their names; whatever is called `node_modules` is passed over with all that it holds.
-/

namespace PageRoutes

/-- What was discovered, in the order of the walk. -/
structure Discovered where
  pagePaths : List String
  guardSources : List GuardSource
deriving Repr, DecidableEq

/-- Why nothing could be discovered. -/
inductive DiscoveryError where
  /-- There is no page directory. -/
  | missingPagesDirectory (location : String)
  /-- A guard file cannot be read as text. -/
  | unreadable (location : String)
deriving Repr, DecidableEq

/-- The wording of an error. -/
def DiscoveryError.message : DiscoveryError → String
  | missingPagesDirectory location =>
    "The pages directory \"" ++ location ++ "\" does not exist."
  | unreadable location => "Could not read \"" ++ location ++ "\": it is not a readable text file"

/-- Adds redirections to what was discovered. -/
def Discovered.toInput (found : Discovered) (redirects : List RedirectRule) : CompileInput :=
  ⟨found.pagePaths, found.guardSources, redirects⟩

namespace Discovery

/-- The name of every page file. -/
def pageFile : String := "index.html"

/-- The name of every guard file. -/
def guardFile : String := "index.guard.ts"

/-- The name of what is passed over. -/
def ignoredName : String := "node_modules"

/-- The files below a directory, by the names on the way from there, in the order of the walk.
Nothing is deeper than `levels`. -/
def walk (disk : Disk) (directory : List String) : (levels : Nat) → List (List String)
  | 0 => []
  | levels + 1 =>
    ((disk.entries directory).filter (· != ignoredName)).flatMap fun name =>
      if (disk.bytes? (directory ++ [name])).isSome then [[name]]
      else (walk disk (directory ++ [name]) levels).map (name :: ·)

/-- The files of a page directory in the order of the walk. -/
def files (disk : Disk) (location : String) (directory : List String) : List (List String) :=
  if (Location.components location).getLast? == some ignoredName then []
  else walk disk directory (disk.height + 1)

/-- The files of a given name. -/
def filesNamed (name : String) (files : List (List String)) : List (List String) :=
  files.filter fun names => names.getLast? == some name

/-- Reads the guard file that the names lead to from the page directory. -/
def readGuard (disk : Disk) (location : String) (directory names : List String) :
    Except DiscoveryError GuardSource :=
  match (disk.bytes? (directory ++ names)).bind String.fromUTF8? with
  | some contents => .ok ⟨Path.ofParts names, contents⟩
  | none => .error (.unreadable (names.foldl Location.join location))

/-- Discovers the pages and guards below a location. -/
def discover (disk : Disk) (location : String) : Except DiscoveryError Discovered :=
  match (disk.resolve? location).filter disk.isDirectory with
  | none => .error (.missingPagesDirectory location)
  | some directory => do
    let found := files disk location directory
    let guards ← (filesNamed guardFile found).mapM (readGuard disk location directory)
    return ⟨(filesNamed pageFile found).map Path.ofParts, guards⟩

end Discovery

end PageRoutes
