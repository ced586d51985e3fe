/-
# The command line

The outermost layer: it looks at the files that a command names, lets the command
run on what it saw, prints what the command printed, and writes the files that
the command left different.
-/

import MigrationLedger.CommandLine.Program
import Std.Time.DateTime.Timestamp

namespace MigrationLedger.CommandLine

/-- The path of a place. -/
def pathOf (place : List String) : String := "/" ++ "/".intercalate place

/-- Look at a place, unless it was looked at before. -/
def lookAt (files : FileTree) (place : List String) : IO FileTree := do
  if (files.node? place).isSome then return files
  let path := (← IO.currentDir) / pathOf place
  try
    let _ ← path.readDir
    return files.put place .directory
  catch _ =>
    try return files.put place (.file (← IO.FS.readBinFile path))
    catch _ => return files

/-- Look at a path and at the directories on the way. -/
def lookAlong (files : FileTree) (path : String) : IO FileTree := do
  let start := if Path.isAbsolute path then [] else files.workingDirectory
  let (files, _) ← (Path.parts path).foldlM (fun (files, place) part => do
    let place :=
      if part.isEmpty || part == "." then place
      else if part == ".." then place.dropLast
      else place ++ [part]
    return (← lookAt files place, place)) (files, start)
  return files

/-- Look at a directory and at all that stands in it. -/
def lookInto (files : FileTree) (path : String) : IO FileTree := do
  let files ← lookAlong files path
  match files.place? path with
  | none => return files
  | some place =>
    if !files.isDirectory place then return files
    let entries ← ((← IO.currentDir) / pathOf place).readDir
    entries.toList.foldlM (fun files entry => lookAt files (place ++ [entry.fileName])) files

/-- Look at all that a command can ask for. -/
def survey (files : FileTree) (globals : GlobalOptions) : IO FileTree := do
  let configs := match globals.config with
    | some path => [path]
    | none => Config.fileNames
  let files ← configs.foldlM lookAlong files
  match Setup.load files globals with
  | .error _ => return files
  | .ok setup =>
    let files ← (setup.migrationDirectories ++ setup.overrideDirectories).foldlM lookInto files
    match setup.location with
    | .ok (.file path) => lookAlong files ((Engine.Database.filePath? path).getD path)
    | _ => return files

/-- Write the files that differ from what they were. -/
def writeChanges (before after : FileTree) : IO Unit := do
  for (place, node) in after.nodes do
    match node, before.node? place with
    | .file bytes, some (.file old) =>
      if bytes.data != old.data then IO.FS.writeBinFile (pathOf place) bytes
    | .file bytes, _ => IO.FS.writeBinFile (pathOf place) bytes
    | .directory, _ => pure ()

/-- The variables that stand in for options. -/
def readEnvironment : IO Environment := do
  let names := [OptionName.url, .user, .password, .schema].filterMap OptionName.variable?
  let found ← names.mapM fun name => do
    return (← IO.getEnv name).map fun value => (name, value)
  return found.filterMap id

/-- Run the program and give back its exit code. -/
def runProgram (arguments : List String) : IO UInt32 := do
  let environment ← readEnvironment
  let now := (← Std.Time.Timestamp.now).toNanosecondsSinceUnixEpoch.toInt / 1000
  let seed := (← IO.getRandomBytes 9).toList.foldl (fun seed byte => seed * 256 + byte.toNat) 0
  let here := (Path.parts (toString (← IO.currentDir))).filter fun part => !part.isEmpty
  let files ← lookAlong ⟨[], here⟩ (pathOf here)
  let files ← match Arguments.parse environment arguments with
    | .ok arguments => survey files arguments.globals
    | .error _ => pure files
  let exit := run files ⟨now, seed⟩ environment arguments
  writeChanges files exit.files
  (← IO.getStdout).putStr exit.output
  (← IO.getStderr).putStr exit.errors
  return exit.code.toUInt32

end MigrationLedger.CommandLine

/-- The program. -/
def main (arguments : List String) : IO UInt32 :=
  MigrationLedger.CommandLine.runProgram arguments
