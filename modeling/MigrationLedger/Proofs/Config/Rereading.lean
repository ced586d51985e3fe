/-
# Writing a configuration and reading it again

The writer names every field, and the reader knows the same names and has a default for
each. So what the writer makes has to give back every field as it was, the tables through
their check. This is shown part by part. The reader is fair, part by part as well: the
order in which a notation keeps the members of an object has no part in what is read.
-/

import MigrationLedger.Config.Notation
import MigrationLedger.Proofs.Json.Likeness

namespace MigrationLedger

open Json (Value)
open Json.Value (Alike Fair)

/-! ## Reading values that say the same -/

namespace Document

variable {α : Type}

theorem orDefault_alike {read : Value → Option α} (fair : Fair read) (default : α)
    {value other : Option Value} (alike : Option.Rel Alike value other) :
    orDefault read default value = orDefault read default other := by
  cases alike with
  | none => rfl
  | some alike => exact fair alike

theorem fair_text? : Fair Json.document.text? := by
  rintro _ _ (_ | _ | _) <;> rfl

theorem fair_optionalText? : Fair Json.document.optionalText? := by
  rintro _ _ (_ | _ | _) <;> rfl

theorem fair_flag? : Fair Json.document.flag? := by
  rintro _ _ (_ | _ | _) <;> rfl

theorem fair_listOf? {read : Value → Option α} (fair : Fair read) :
    Fair (Json.document.listOf? read) := fair.list

theorem fair_tableName? : Fair Json.document.tableName? := by
  intro value other alike
  rw [tableName?, fair_text? alike]
  rfl

theorem fair_database? : Fair Json.document.database? := by
  refine Json.Value.fair_fields ?_
  rintro _ _ (_ | ⟨url, _ | ⟨user, _ | ⟨password, _ | ⟨schema, _ | ⟨skipCreate, _ | _⟩⟩⟩⟩⟩)
  case cons.cons.cons.cons.cons.nil =>
    dsimp only
    rw [orDefault_alike fair_text? _ url, orDefault_alike fair_optionalText? _ user,
      orDefault_alike fair_optionalText? _ password, orDefault_alike fair_optionalText? _ schema,
      orDefault_alike fair_flag? _ skipCreate]
  all_goals rfl

theorem fair_migrations? : Fair Json.document.migrations? := by
  refine Json.Value.fair_fields ?_
  rintro _ _ (_ | ⟨paths, _ | ⟨overrides, _ | ⟨extension, _ | ⟨delimiter, _ | ⟨marker, _ | _⟩⟩⟩⟩⟩)
  case cons.cons.cons.cons.cons.nil =>
    dsimp only
    rw [orDefault_alike (fair_listOf? fair_text?) _ paths,
      orDefault_alike (fair_listOf? fair_text?) _ overrides,
      orDefault_alike fair_text? _ extension, orDefault_alike fair_text? _ delimiter,
      orDefault_alike fair_text? _ marker]
  all_goals rfl

theorem fair_tables? : Fair Json.document.tables? := by
  refine Json.Value.fair_fields ?_
  rintro _ _ (_ | ⟨tablePrefix, _ | ⟨tracking, _ | ⟨required, _ | _⟩⟩⟩)
  case cons.cons.cons.nil =>
    dsimp only
    rw [orDefault_alike fair_text? _ tablePrefix, orDefault_alike fair_tableName? _ tracking,
      orDefault_alike (fair_listOf? fair_tableName?) _ required]
  all_goals rfl

theorem fair_config? : Fair Json.document.config? := by
  refine Json.Value.fair_fields ?_
  rintro _ _ (_ | ⟨database, _ | ⟨migrations, _ | ⟨tables, _ | _⟩⟩⟩)
  case cons.cons.cons.nil =>
    dsimp only
    rw [orDefault_alike fair_database? _ database, orDefault_alike fair_migrations? _ migrations,
      orDefault_alike fair_tables? _ tables]
  all_goals rfl

end Document

/-! ## Reading what was written -/

theorem TableName.parse_text (name : TableName) : parse name.text = .ok name := by
  unfold parse
  split
  · rfl
  · rename_i problem found
    rw [name.sound] at found
    cases found

/-- The database as it is written. -/
def DatabaseConfig.toJson (config : DatabaseConfig) : Value :=
  .object [
    ("url", .string config.url),
    ("user", .ofOptionalText config.user),
    ("password", .ofOptionalText config.password),
    ("schema", .ofOptionalText config.schema),
    ("skip_create", .bool config.skipCreate)]

/-- The migrations as they are written. -/
def MigrationsConfig.toJson (config : MigrationsConfig) : Value :=
  .object [
    ("paths", .array (config.paths.map .string)),
    ("overrides", .array (config.overrides.map .string)),
    ("extension", .string config.extension),
    ("delimiter", .string config.delimiter),
    ("empty_marker", .string config.emptyMarker)]

/-- The tables as they are written. -/
def TablesConfig.toJson (config : TablesConfig) : Value :=
  .object [
    ("prefix", .string config.tablePrefix),
    ("tracking", .string config.tracking.text),
    ("required", .array (config.required.map fun name => .string name.text))]

namespace Document

theorem optionalText?_ofOptionalText (text : Option String) :
    Json.document.optionalText? (.ofOptionalText text) = some text := by
  cases text <;> rfl

theorem tableName?_string (name : TableName) :
    Json.document.tableName? (.string name.text) = some name := by
  change (TableName.parse name.text).toOption = some name
  rw [TableName.parse_text]
  rfl

/-- A list is read back when its items are. -/
theorem listOf?_map {α : Type} {read : Value → Option α} {write : α → Value}
    (back : ∀ item, read (write item) = some item) (items : List α) :
    Json.document.listOf? read (.array (items.map write)) = some items := by
  change (items.map write).mapM read = some items
  induction items with
  | nil => rfl
  | cons item rest ih =>
      rw [List.map_cons, List.mapM_cons, back, ih]
      rfl

theorem fields?_object {names : List String} {value : Value} {members : List (String × Value)}
    (written : value = .object members) (named : members.map Prod.fst = names)
    (distinct : names.Nodup) :
    Json.document.fields? names value = some (members.map fun entry => some entry.2) := by
  rw [written]
  exact Json.Value.fields?_object named distinct

theorem database?_toJson (config : DatabaseConfig) :
    Json.document.database? config.toJson = some config := by
  have fields : Json.document.fields? ["url", "user", "password", "schema", "skip_create"]
      config.toJson = _ := fields?_object rfl (by rfl) (by decide)
  rw [database?, fields]
  simp only [Option.bind_eq_bind, Option.bind_some, List.map_cons, List.map_nil, orDefault,
    optionalText?_ofOptionalText]
  rfl

theorem migrations?_toJson (config : MigrationsConfig) :
    Json.document.migrations? config.toJson = some config := by
  have fields : Json.document.fields? ["paths", "overrides", "extension", "delimiter",
      "empty_marker"] config.toJson = _ := fields?_object rfl (by rfl) (by decide)
  have texts : ∀ items : List String, Json.document.listOf? Json.document.text?
      (.array (items.map .string)) = some items := listOf?_map fun _ => rfl
  rw [migrations?, fields]
  simp only [Option.bind_eq_bind, Option.bind_some, List.map_cons, List.map_nil, orDefault, texts]
  rfl

theorem tables?_toJson (config : TablesConfig) :
    Json.document.tables? config.toJson = some config := by
  have fields : Json.document.fields? ["prefix", "tracking", "required"] config.toJson = _ :=
    fields?_object rfl (by rfl) (by decide)
  rw [tables?, fields]
  simp only [Option.bind_eq_bind, Option.bind_some, List.map_cons, List.map_nil, orDefault,
    tableName?_string, listOf?_map tableName?_string]
  rfl

theorem config?_toJson (config : Config) : Json.document.config? config.toJson = some config := by
  have written : config.toJson = .object [("database", config.database.toJson),
      ("migrations", config.migrations.toJson), ("tables", config.tables.toJson)] := rfl
  have fields : Json.document.fields? ["database", "migrations", "tables"] config.toJson = _ :=
    fields?_object written (by rfl) (by decide)
  rw [config?, fields]
  simp only [Option.bind_eq_bind, Option.bind_some, List.map_cons, List.map_nil, orDefault,
    database?_toJson, migrations?_toJson, tables?_toJson]
  rfl

end Document

namespace Config

/-- **A configuration survives being written.** Every configuration is read back from what
is written for it. Values that say the same are refused together or read as the same
configuration, so the order of members is free. What a value is read as, with defaults for
what it leaves out, is therefore read again when it is written with all fields, with the
same schema and the same answer to the check of its values. -/
theorem survives_writing :
    (∀ config : Config, ofJson? config.toJson = some config) ∧
    (∀ value other, Alike value other → ofJson? value = ofJson? other) ∧
    ∀ value config, ofJson? value = some config → ∀ written, Alike written config.toJson →
      ∃ again, ofJson? written = some again ∧ again = config ∧
        again.schema = config.schema ∧ again.problem? = config.problem? := by
  refine ⟨Document.config?_toJson, fun value other alike => Document.fair_config? alike,
    fun value config _ written alike => ⟨config, ?_, rfl, rfl, rfl⟩⟩
  exact (Document.fair_config? alike).trans (Document.config?_toJson config)

/-- A document that leaves most fields out: it gives the tables as a list, and nothing as
the user. -/
def incompleteValue : Value :=
  .object [("tables", .array [.string "t_"]),
    ("database", .object [("user", .null), ("url", .string "a.db")])]

theorem survives_writing_incompleteValue :
    ∃ config, ofJson? incompleteValue = some config ∧ config.database.url = "a.db" ∧
      config.database.user = none ∧ config.tables.tablePrefix = "t_" ∧
      ofJson? (.object [("tables", config.tables.toJson), ("database", config.database.toJson),
        ("migrations", config.migrations.toJson)]) = some config := by
  let config : Config := { database := { url := "a.db" }, tables := { tablePrefix := "t_" } }
  have read : ofJson? incompleteValue = some config := by decide +kernel
  have alike : Alike (.object [("tables", config.tables.toJson),
      ("database", config.database.toJson), ("migrations", config.migrations.toJson)])
      config.toJson :=
    .of_perm ((List.Perm.swap _ _ _).trans ((List.Perm.swap _ _ _).cons _)) (by simp)
  obtain ⟨again, reread, rfl, -, -⟩ := survives_writing.2.2 _ _ read _ alike
  exact ⟨config, read, rfl, rfl, rfl, reread⟩

end Config

end MigrationLedger
