/-
# Writing configurations down

A configuration is read from structured documents. `Document` says what reading
needs to know about the values of a document, so that one reader serves every
notation, and the rule for a missing field is stated once. Fields that are not
known are refused.
-/

import MigrationLedger.Config

namespace MigrationLedger

/-- How the values of a notation are read. -/
structure Document (ν : Type) where
  /-- A text. -/
  text? : ν → Option String
  /-- A text or an explicit nothing. -/
  optionalText? : ν → Option (Option String)
  /-- A truth value. -/
  flag? : ν → Option Bool
  /-- A list. -/
  items? : ν → Option (List ν)
  /-- The values of exactly these fields, each of which may be missing. -/
  fields? : List String → ν → Option (List (Option ν))

namespace Document

variable {ν α : Type} (document : Document ν)

/-- The value of a field, or its default when it is missing. -/
def orDefault (read : ν → Option α) (default : α) : Option ν → Option α
  | none => some default
  | some value => read value

/-- All items of a list. -/
def listOf? (read : ν → Option α) (value : ν) : Option (List α) := do
  (← document.items? value).mapM read

/-- A table name. -/
def tableName? (value : ν) : Option TableName := do
  (TableName.parse (← document.text? value)).toOption

/-- The configuration of the database. -/
def database? (value : ν) : Option DatabaseConfig := do
  match ← document.fields? ["url", "user", "password", "schema", "skip_create"] value with
  | [url, user, password, schema, skipCreate] =>
    let d : DatabaseConfig := {}
    return {
      url := ← orDefault document.text? d.url url
      user := ← orDefault document.optionalText? d.user user
      password := ← orDefault document.optionalText? d.password password
      schema := ← orDefault document.optionalText? d.schema schema
      skipCreate := ← orDefault document.flag? d.skipCreate skipCreate }
  | _ => none

/-- The configuration of the migrations. -/
def migrations? (value : ν) : Option MigrationsConfig := do
  match ← document.fields? ["paths", "overrides", "extension", "delimiter", "empty_marker"]
      value with
  | [paths, overrides, extension, delimiter, emptyMarker] =>
    let d : MigrationsConfig := {}
    return {
      paths := ← orDefault (document.listOf? document.text?) d.paths paths
      overrides := ← orDefault (document.listOf? document.text?) d.overrides overrides
      extension := ← orDefault document.text? d.extension extension
      delimiter := ← orDefault document.text? d.delimiter delimiter
      emptyMarker := ← orDefault document.text? d.emptyMarker emptyMarker }
  | _ => none

/-- The configuration of the tables. -/
def tables? (value : ν) : Option TablesConfig := do
  match ← document.fields? ["prefix", "tracking", "required"] value with
  | [tablePrefix, tracking, required] =>
    let d : TablesConfig := {}
    return {
      tablePrefix := ← orDefault document.text? d.tablePrefix tablePrefix
      tracking := ← orDefault document.tableName? d.tracking tracking
      required := ← orDefault (document.listOf? document.tableName?) d.required required }
  | _ => none

/-- A whole configuration. -/
def config? (value : ν) : Option Config := do
  match ← document.fields? ["database", "migrations", "tables"] value with
  | [database, migrations, tables] =>
    let d : Config := {}
    return {
      database := ← orDefault document.database? d.database database
      migrations := ← orDefault document.migrations? d.migrations migrations
      tables := ← orDefault document.tables? d.tables tables }
  | _ => none

end Document

/-- Reading from JSON. -/
def Json.document : Document Json.Value where
  text? := Json.Value.text?
  optionalText? := Json.Value.optionalText?
  flag? := Json.Value.flag?
  items? := Json.Value.items?
  fields? := Json.Value.fields? true

namespace Config

/-- Read a configuration from JSON. -/
def ofJson? (value : Json.Value) : Option Config :=
  Json.document.config? value

/-- Write a configuration as JSON, with all fields. -/
def toJson (config : Config) : Json.Value :=
  .object [
    ("database", .object [
      ("url", .string config.database.url),
      ("user", .ofOptionalText config.database.user),
      ("password", .ofOptionalText config.database.password),
      ("schema", .ofOptionalText config.database.schema),
      ("skip_create", .bool config.database.skipCreate)]),
    ("migrations", .object [
      ("paths", .array (config.migrations.paths.map .string)),
      ("overrides", .array (config.migrations.overrides.map .string)),
      ("extension", .string config.migrations.extension),
      ("delimiter", .string config.migrations.delimiter),
      ("empty_marker", .string config.migrations.emptyMarker)]),
    ("tables", .object [
      ("prefix", .string config.tables.tablePrefix),
      ("tracking", .string config.tables.tracking.text),
      ("required", .array (config.tables.required.map fun name => .string name.text))])]

end Config

end MigrationLedger
