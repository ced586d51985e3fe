/-
# Commands

A command sees files, and it prints, ends in some way and leaves files. What it
relies on besides is a platform: how arguments and configurations are read, how
statements are, and which databases can be opened. Nothing else of the world
matters to it, so a whole run of the program is a function.
-/

import MigrationLedger.CommandLine.Help
import MigrationLedger.CommandLine.Report
import MigrationLedger.CommandLine.Setup

namespace MigrationLedger.CommandLine

/-- How a command ends. A failure that was printed already is not told again. -/
inductive Ending
  | success
  | reported
  | failure (failure : CommandFailure)
  deriving DecidableEq, Repr

/-- What a command printed, how it ended, and the files that it left. -/
structure Performance where
  output : String
  ending : Ending
  files : FileTree

/-- What a command works on: its settings, a runner and an open database, which
is in some state. -/
structure Workplace (σ : Type) where
  setup : Setup
  runner : Runner
  database : σ
  files : FileTree

/-- What commands rely on. The states of open databases are a type of the
platform's own. -/
structure Platform (σ : Type) where
  /-- What a list of arguments asks for. -/
  arguments : Environment → List String → Except ArgumentsProblem Arguments
  /-- How configurations are written. -/
  format : Config.Format
  /-- How the statements of scripts are read. -/
  dialect : Sql.Dialect
  /-- A database that is opened, and the files afterwards. -/
  openAt : FileTree → DatabaseUrl → Except DbError (σ × FileTree)
  /-- How an open database answers calls while a runner remembers some states. -/
  answer : RunStates → σ → (call : Call) → call.Answer × σ
  /-- The files once the database is closed. -/
  close : σ → FileTree → FileTree

/-- What `migrate` prints after a failure. -/
def failureLines (failure : CommandFailure) : List String :=
  ["An error occurred:", failure.report]

namespace Platform

variable {σ : Type} (platform : Platform σ)

/-- Set up a command. Opening the database may make its file, which the
directories of migrations then show. Where setting up fails, the files are still
those that it left. -/
def prepare (files : FileTree) (globals : GlobalOptions) :
    Except CommandFailure (Workplace σ) × FileTree :=
  let located := do
    let setup ← Setup.loadAs platform.format files globals
    return (setup, ← setup.location)
  match located with
  | .error failure => (.error failure, files)
  | .ok (setup, location) =>
    match platform.openAt files location with
    | .error error => (.error (.database setup.openingContext error), files)
    | .ok (database, files) =>
      match setup.runner platform.dialect files with
      | .error failure => (.error failure, files)
      | .ok runner => (.ok ⟨setup, runner, database, files⟩, files)

/-- Hold a session and close the database. -/
def hold {α : Type} (workplace : Workplace σ) (session : Session α) : α × FileTree :=
  let (value, database) := session.hold platform.answer [] workplace.database
  (value, platform.close database workplace.files)

/-! ### Commands -/

/-- Create the tables, or only check them. -/
def migrate (files : FileTree) (globals : GlobalOptions) (skipCreate : Bool) : Performance :=
  match platform.prepare files globals with
  | (.error failure, files) => ⟨linesText (banner ++ failureLines failure), .reported, files⟩
  | (.ok workplace, _) =>
    let preparation : Preparation :=
      if skipCreate || workplace.setup.config.database.skipCreate then .skipCreate else .create
    let announced := banner ++ [announcement preparation workplace.setup.config.database.url]
    match platform.hold workplace (workplace.runner.prepare preparation []) with
    | ((_, .ok report), files) =>
      let lines := announced ++ reportLines globals.verbose report ++ [conclusion preparation]
      ⟨linesText lines, .success, files⟩
    | ((_, .error failure), files) =>
      ⟨linesText (announced ++ failureLines (.migration none failure)), .reported, files⟩

/-- Check the required tables. -/
def validate (files : FileTree) (globals : GlobalOptions) : Performance :=
  match platform.prepare files globals with
  | (.error failure, files) => ⟨"", .failure failure, files⟩
  | (.ok workplace, _) =>
    match platform.hold workplace workplace.runner.validate with
    | (.ok (), files) =>
      let count := workplace.runner.settings.requiredTables.length
      ⟨linesText ["All " ++ toString count ++ " required tables are available"], .success, files⟩
    | (.error failure, files) =>
      let context := "Validation failed for " ++ workplace.setup.config.database.url
      ⟨"", .failure (.migration (some context) failure), files⟩

/-- Show where the migrations stand. -/
def status (files : FileTree) (globals : GlobalOptions) (json : Bool) : Performance :=
  match platform.prepare files globals with
  | (.error failure, files) => ⟨"", .failure failure, files⟩
  | (.ok workplace, _) =>
    match platform.hold workplace (workplace.runner.status []) with
    | (.ok statuses, files) =>
      let lines := if json then [statusData statuses] else statusTable statuses
      ⟨linesText lines, .success, files⟩
    | (.error failure, files) =>
      ⟨"", .failure (.migration (some "Failed to read migration status") failure), files⟩

/-- Perform a command. -/
def perform (files : FileTree) (arguments : Arguments) : Performance :=
  match arguments.command with
  | .migrate skipCreate => platform.migrate files arguments.globals skipCreate
  | .validate => platform.validate files arguments.globals
  | .status json => platform.status files arguments.globals json

end Platform

/-! ### The whole program -/

/-- What a run of the program comes to. -/
structure Exit where
  output : String
  errors : String
  code : Nat
  files : FileTree

/-- What a performance comes to. -/
def Performance.exit (performance : Performance) : Exit :=
  match performance.ending with
  | .success => ⟨performance.output, "", 0, performance.files⟩
  | .reported => ⟨performance.output, "", 1, performance.files⟩
  | .failure failure =>
    ⟨performance.output, "Error: " ++ failure.report ++ "\n", 1, performance.files⟩

/-- What the program answers to arguments that name no command to perform. -/
def answerTo (environment : Environment) (files : FileTree) : ArgumentsProblem → Exit
  | .help command => ⟨Help.text environment command, "", 0, files⟩
  | .version => ⟨Help.version, "", 0, files⟩
  | .nothingGiven => ⟨"", Help.text environment none, 2, files⟩
  | problem => ⟨"", problem.message, 2, files⟩

/-- Run the program. -/
def Platform.run {σ : Type} (platform : Platform σ) (files : FileTree)
    (environment : Environment) (arguments : List String) : Exit :=
  match platform.arguments environment arguments with
  | .ok arguments => (platform.perform files arguments).exit
  | .error problem => answerTo environment files problem

end MigrationLedger.CommandLine
