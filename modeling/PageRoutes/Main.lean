import PageRoutes.CommandLine
import PageRoutes.Script.Module

/-!
# The program

The program reads the part of the disk that a command can see, runs the command, and writes back
what the command changed.
-/

namespace PageRoutes.Program

/-- Adds the directories on the way to a place. -/
def addDirectories (disk : Disk) (names : List String) : Disk :=
  let ways := (List.range names.length).map fun count => names.take (count + 1)
  (ways.filter (!disk.isDirectory ·)).foldl
    (fun disk way => { disk with directories := way :: disk.directories }) disk

/-- Adds what is at a place and below it.  Directories of packages are left out. -/
partial def gather (disk : Disk) (names : List String) : IO Disk := do
  let place := (← IO.currentDir) / Location.ofNames names
  if ← place.isDir then
    if names.getLast? == some Discovery.ignoredName then return addDirectories disk names
    let mut disk := addDirectories disk names
    for entry in ← place.readDir do
      disk ← gather disk (names ++ [entry.fileName])
    return disk
  else if ← place.pathExists then
    if (disk.bytes? names).isSome then return disk
    return (addDirectories disk names.dropLast).put names (← IO.FS.readBinFile place)
  else return disk

/-- The part of the disk that a command with the given arguments can see. -/
def visible (arguments : List String) : IO Disk := do
  let working := Location.names (← IO.currentDir).toString
  let disk := addDirectories ⟨[], [], working⟩ working
  match CommandLine.read arguments with
  | .run options =>
    (CommandLine.locations options disk).foldlM (fun disk location =>
      gather disk (Location.names (Location.join (Location.ofNames working) location))) disk
  | _ => return disk

/-- Makes the directories and writes the files that a command added or changed. -/
def apply (before after : Disk) : IO Unit := do
  for names in after.directories do
    unless before.isDirectory names do IO.FS.createDirAll (Location.ofNames names)
  for (names, bytes) in after.files do
    unless before.bytes? names == some bytes do
      IO.FS.writeBinFile (Location.ofNames names) bytes

/-- Runs a command, prints its output, its warnings and its report, and yields its exit code. -/
def run (arguments : List String) : IO UInt32 := do
  let before ← visible arguments
  let outcome := CommandLine.run Script.classReader arguments before
  apply before outcome.disk
  IO.print outcome.output
  for guard in outcome.warnings do IO.eprintln ("Warning: " ++ CommandLine.warningText guard)
  if let some report := outcome.report then IO.eprintln ("Error: " ++ report)
  return outcome.exitCode.toUInt32

end PageRoutes.Program

/-- The command line of the program. -/
def main (arguments : List String) : IO UInt32 :=
  PageRoutes.Program.run arguments
