/-
# Configuration

What can be configured: the database, where migrations are found and how their
scripts are read, and the tables of the job store. Every field has a default,
so an empty configuration is a complete one.
-/

import MigrationLedger.Migration

namespace MigrationLedger

/-- The database and how to reach it. -/
structure DatabaseConfig where
  url : String := "duckdb::memory:"
  user : Option String := none
  password : Option String := none
  schema : Option String := none
  skipCreate : Bool := false
  deriving DecidableEq, Repr

/-- Where migrations are found and how their scripts are read. -/
structure MigrationsConfig where
  paths : List String := []
  overrides : List String := []
  extension : String := ".sql"
  delimiter : String := ";"
  emptyMarker : String := Migration.defaultEmptyMarker
  deriving DecidableEq, Repr

/-- The tracking table, unless configured otherwise. -/
def TableName.defaultTracking : TableName :=
  ⟨"jobrunr_migrations", by decide⟩

/-- The tables that a job store needs, unless configured otherwise. -/
def TableName.defaultRequired : List TableName :=
  [⟨"jobrunr_jobs", by decide⟩, ⟨"jobrunr_recurring_jobs", by decide⟩,
    ⟨"jobrunr_backgroundjobservers", by decide⟩, ⟨"jobrunr_metadata", by decide⟩]

/-- The tables of the job store. -/
structure TablesConfig where
  tablePrefix : String := "jobrunr_"
  tracking : TableName := .defaultTracking
  required : List TableName := TableName.defaultRequired
  deriving DecidableEq, Repr

/-- A whole configuration. -/
structure Config where
  database : DatabaseConfig := {}
  migrations : MigrationsConfig := {}
  tables : TablesConfig := {}
  deriving DecidableEq, Repr

/-- What can be wrong with the values of a configuration. -/
inductive ConfigProblem
  | schema (name : String)
  | emptyField (field : String)
  deriving DecidableEq, Repr

/-- The words for a problem. -/
def ConfigProblem.message : ConfigProblem → String
  | .schema name =>
    "database.schema '" ++ name ++ "' must be a plain identifier ([A-Za-z_][A-Za-z0-9_]*)"
  | .emptyField field => field ++ " cannot be empty"

namespace Config

/-- The configured schema. An empty one counts as none. -/
def schema (config : Config) : Option String :=
  config.database.schema.filter fun name => !name.isEmpty

/-- The fields that must hold more than blanks, in the order in which they are
checked. -/
def neededTexts (config : Config) : List (String × String) :=
  [("migrations.extension", config.migrations.extension),
    ("migrations.delimiter", config.migrations.delimiter),
    ("migrations.empty_marker", config.migrations.emptyMarker),
    ("tables.prefix", config.tables.tablePrefix)]

/-- The first problem of a configuration. -/
def problem? (config : Config) : Option ConfigProblem :=
  let blank := (config.neededTexts.find? fun field => Text.isBlankText field.2).map fun field =>
    ConfigProblem.emptyField field.1
  match config.schema with
  | some name => if isPlainIdentifier name then blank else some (.schema name)
  | none => blank

end Config

end MigrationLedger
