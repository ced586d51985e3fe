/-
# The program

Commands on the platform of this project: statements and databases are those of
DuckDB, and configurations are written in YAML.
-/

import MigrationLedger.CommandLine.Platform
import MigrationLedger.Config.Yaml
import MigrationLedger.Engine.Database
import MigrationLedger.Sql.DuckDb

namespace MigrationLedger

/-- A runner for DuckDB, if the settings can be used. -/
def Runner.make (settings : Settings) (offer : Offer) : Except Failure Runner :=
  Runner.forDialect .duckDb settings offer

namespace CommandLine

/-- Set up a command from the files that it can see and its options. -/
def Setup.load (files : FileTree) (globals : GlobalOptions) : Except CommandFailure Setup :=
  Setup.loadAs .yaml files globals

/-- The platform on an occasion. A database is open to one client, who closes the
connection before the database. -/
def platform (occasion : Engine.Occasion) :
    Platform (Engine.Store.Client × Option (List String)) where
  arguments := Arguments.parse
  format := .yaml
  dialect := .duckDb
  openAt files location := do
    let (database, files) ← Engine.Database.openAt files occasion location
    return (({ store := database.store }, database.place), files)
  answer := fun _ (client, place) call =>
    let (reply, client) := client.answer call
    (reply, client, place)
  close := fun (client, place) files => Engine.Database.close ⟨client.close, place⟩ files

/-- Perform a command. -/
def perform (files : FileTree) (occasion : Engine.Occasion) (arguments : Arguments) :
    Performance :=
  (platform occasion).perform files arguments

/-- Run the program. -/
def run (files : FileTree) (occasion : Engine.Occasion) (environment : Environment)
    (arguments : List String) : Exit :=
  (platform occasion).run files environment arguments

end CommandLine

end MigrationLedger
