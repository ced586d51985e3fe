/-
# Settings of a runner

The part of a configuration that a runner works with. Settings may also be made
without a configuration, so they are checked once more: the schema is spliced
into statements and has to be a plain identifier, and an empty prefix, extension,
delimiter or marker would match everything.
-/

import MigrationLedger.Config
import MigrationLedger.Sql.Qualifier

namespace MigrationLedger

/-- What a runner works with. -/
structure Settings where
  schema : Option String
  tablePrefix : String
  trackingTable : TableName
  requiredTables : List TableName
  extension : String
  delimiter : String
  emptyMarker : String
  deriving DecidableEq, Repr

/-- Why settings cannot be used. -/
inductive SettingsProblem
  | schema (name : String)
  | emptyField (field : String)
  deriving DecidableEq, Repr

/-- The words for a problem. -/
def SettingsProblem.message : SettingsProblem → String
  | .schema name => "schema '" ++ name ++ "' is not a plain identifier"
  | .emptyField field => field ++ " cannot be empty"

namespace Settings

/-- The settings that a configuration asks for. -/
def ofConfig (config : Config) : Settings where
  schema := config.schema
  tablePrefix := config.tables.tablePrefix
  trackingTable := config.tables.tracking
  requiredTables := config.tables.required
  extension := config.migrations.extension
  delimiter := config.migrations.delimiter
  emptyMarker := config.migrations.emptyMarker

/-- The settings of the default configuration. -/
def default : Settings := ofConfig {}

/-- Use this schema. An empty one counts as none. -/
def withSchema (settings : Settings) (schema : Option String) : Settings :=
  { settings with schema := schema.filter fun name => !name.isEmpty }

/-- The texts that must not be empty, in the order in which they are checked. -/
def neededTexts (settings : Settings) : List (String × String) :=
  [("table prefix", settings.tablePrefix), ("extension", settings.extension),
    ("delimiter", settings.delimiter), ("empty-migration marker", settings.emptyMarker)]

/-- The first problem of settings. -/
def problem? (settings : Settings) : Option SettingsProblem :=
  let missing := (settings.neededTexts.find? fun field => field.2.isEmpty).map fun field =>
    SettingsProblem.emptyField field.1
  match settings.schema with
  | some name => if isPlainIdentifier name then missing else some (.schema name)
  | none => missing

/-- The qualifier for statements and names of tables. -/
def qualifier (settings : Settings) : Sql.Qualifier :=
  .make settings.schema settings.tablePrefix

/-- The full name of the tracking table. -/
def tracking (settings : Settings) : String :=
  settings.qualifier.tableName settings.trackingTable.text

/-- The full names of the required tables. -/
def required (settings : Settings) : List String :=
  settings.requiredTables.map fun name => settings.qualifier.tableName name.text

end Settings

end MigrationLedger
