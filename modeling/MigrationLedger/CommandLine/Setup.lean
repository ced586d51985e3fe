/-
# Setting up a command

A command works with the configuration of the file that is named, or of the
current directory, with the options of the command line on top. Directories in a
configuration are seen from where the file stands, directories on the command
line from where the command is run.
-/

import MigrationLedger.CommandLine.Arguments
import MigrationLedger.CommandLine.Failure
import MigrationLedger.Database.Url
import MigrationLedger.Migration.Source

namespace MigrationLedger.CommandLine

/-- What a command works with. -/
structure Setup where
  config : Config
  migrationDirectories : List String
  overrideDirectories : List String
  deriving DecidableEq, Repr

namespace Setup

/-- The configuration of a file, and the directory that its paths are seen
from. -/
def loadConfig (format : Config.Format) (files : FileTree) :
    Option String → Except CommandFailure (Config × String)
  | some path =>
    match format.load files path with
    | .ok config => .ok (config, (Path.parent? path).getD "")
    | .error failure => .error (.configuration ("Failed to load config " ++ path) failure)
  | none =>
    let directory := files.workingPath
    match format.loadOrDefault files directory with
    | .ok config => .ok (config, directory)
    | .error failure => .error (.configuration "Failed to load config" failure)

/-- Put options on top of a configuration of the database. -/
def withOptions (globals : GlobalOptions) (database : DatabaseConfig) : DatabaseConfig :=
  { database with
    url := globals.url.getD database.url
    user := globals.user.or database.user
    password := globals.password.or database.password
    schema := globals.schema.or database.schema }

/-- Directories of the command line, or else those of the configuration seen from
its directory. -/
def directories (root : String) (given configured : List String) : List String :=
  if given.isEmpty then configured.map (Path.join root) else given

/-- Set up a command from the files that it can see and its options. -/
def loadAs (format : Config.Format) (files : FileTree) (globals : GlobalOptions) :
    Except CommandFailure Setup := do
  let (config, root) ← loadConfig format files globals.config
  let config := { config with database := withOptions globals config.database }
  match config.problem? with
  | some problem => throw (.configuration "Invalid configuration" (.invalid problem))
  | none =>
    return {
      config
      migrationDirectories := directories root globals.migrations config.migrations.paths
      overrideDirectories := directories root globals.overrides config.migrations.overrides }

/-- What a failure to open the database is about. -/
def openingContext (setup : Setup) : String :=
  "Failed to open database " ++ setup.config.database.url

/-- Where the database is. -/
def location (setup : Setup) : Except CommandFailure DatabaseUrl :=
  match DatabaseUrl.parse setup.config.database.url with
  | .ok location => .ok location
  | .error error => .error (.database setup.openingContext error)

/-- The migrations. Without directories of migrations the bundled ones are used,
and override directories count for nothing. -/
def offer (setup : Setup) (files : FileTree) : Offer :=
  if setup.migrationDirectories.isEmpty then Source.bundled
  else Source.directories files setup.migrationDirectories setup.overrideDirectories

/-- The runner. -/
def runner (setup : Setup) (dialect : Sql.Dialect) (files : FileTree) :
    Except CommandFailure Runner :=
  match Runner.forDialect dialect (.ofConfig setup.config) (setup.offer files) with
  | .ok runner => .ok runner
  | .error failure => .error (.migration none failure)

end Setup

end MigrationLedger.CommandLine
