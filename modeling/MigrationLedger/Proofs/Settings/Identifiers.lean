/-
# Identifiers in settings

The schema and the tables of settings are written into texts, so they have to be plain
identifiers. Tables carry the proof of their check. A schema may come from a document, from
the command line or from a program, and is checked when a runner is made. The module says
what the check accepts, as a pattern, and follows the two ways in which a schema gets into
a text: in front of a table that is named, and in front of a table within a statement.
-/

import MigrationLedger.Proofs.Sql.Splicing
import MigrationLedger.Settings

namespace MigrationLedger

/-- A character of the class `[A-Za-z_]`. -/
def BeginsIdent (c : Char) : Prop := ('A' ≤ c ∧ c ≤ 'Z') ∨ ('a' ≤ c ∧ c ≤ 'z') ∨ c = '_'

/-- The text matches `[A-Za-z_][A-Za-z0-9_]*`. -/
def IsIdent (text : String) : Prop :=
  ∃ first rest, text.toList = first :: rest ∧ BeginsIdent first ∧
    ∀ c ∈ rest, BeginsIdent c ∨ ('0' ≤ c ∧ c ≤ '9')

/-- The text names a table: an identifier, or two with a point between them. -/
inductive IsTableText : String → Prop
  | plain {table : String} (ident : IsIdent table) : IsTableText table
  | inSchema {schema table : String} (ident : IsIdent schema) (ident' : IsIdent table) :
      IsTableText (schema ++ "." ++ table)

theorem isIdentifierStart_iff {c : Char} : isIdentifierStart c = true ↔ BeginsIdent c := by
  simp only [isIdentifierStart, Text.isAsciiLetter, BeginsIdent, Bool.or_eq_true,
    Bool.and_eq_true, decide_eq_true_eq, beq_iff_eq]
  tauto

theorem isIdentifierPart_iff {c : Char} :
    isIdentifierPart c = true ↔ BeginsIdent c ∨ ('0' ≤ c ∧ c ≤ '9') := by
  simp only [isIdentifierPart, Bool.or_eq_true, isIdentifierStart_iff, Text.isAsciiDigit,
    Bool.and_eq_true, decide_eq_true_eq]

/-- The check of identifiers accepts exactly these texts. -/
theorem isPlainIdentifier_iff {text : String} : isPlainIdentifier text = true ↔ IsIdent text := by
  unfold isPlainIdentifier IsIdent
  split
  · rename_i empty
    simp [empty]
  · rename_i first rest spelled
    simp [spelled, isIdentifierStart_iff, isIdentifierPart_iff]

theorem TableName.isIdent (table : TableName) : IsIdent table.text :=
  isPlainIdentifier_iff.mp table.isPlainIdentifier_text

/-! ## What sound settings put into texts -/

/-- A configuration passes its check when its schema is an identifier and no needed text is
blank. -/
theorem Config.problem?_eq_none_iff {config : Config} :
    config.problem? = none ↔
      (∀ schema, config.schema = some schema → isPlainIdentifier schema = true) ∧
        ∀ field ∈ config.neededTexts, Text.isBlankText field.2 = false := by
  rw [problem?]
  cases config.schema with
  | none => simp
  | some name => by_cases plain : isPlainIdentifier name <;> simp [plain]

namespace Settings

variable {settings : Settings} {schema statement rewritten : String}

/-- Settings are sound when their schema is an identifier and no needed text is empty. -/
theorem problem?_eq_none_iff :
    settings.problem? = none ↔
      (∀ schema, settings.schema = some schema → isPlainIdentifier schema = true) ∧
        ∀ field ∈ settings.neededTexts, field.2 ≠ "" := by
  rw [problem?]
  cases settings.schema with
  | none => simp
  | some name => by_cases plain : isPlainIdentifier name <;> simp [plain]

/-- A configuration that passes its check makes sound settings. -/
theorem problem?_ofConfig {config : Config} (sound : config.problem? = none) :
    (ofConfig config).problem? = none := by
  obtain ⟨schema, filled⟩ := Config.problem?_eq_none_iff.mp sound
  refine problem?_eq_none_iff.mpr ⟨schema, fun field member empty => ?_⟩
  have needed : field.2 ∈ config.neededTexts.map Prod.snd := by
    simp only [neededTexts, ofConfig, List.mem_cons, List.not_mem_nil, or_false] at member
    rcases member with rfl | rfl | rfl | rfl <;> simp [Config.neededTexts]
  obtain ⟨other, needed, same⟩ := List.mem_map.mp needed
  have notBlank := filled other needed
  rw [same, empty] at notBlank
  cases notBlank

/-- The schema of sound settings is an identifier. -/
theorem isIdent_schema (sound : settings.problem? = none) (named : settings.schema = some schema) :
    IsIdent schema :=
  isPlainIdentifier_iff.mp ((problem?_eq_none_iff.mp sound).1 schema named)

/-- The full name of a table: the schema, if there is one, with a point in front of the name
of the table. -/
def fullName (settings : Settings) (table : TableName) : String :=
  match settings.schema with
  | none => table.text
  | some schema => schema ++ "." ++ table.text

/-- A schema of sound settings is not empty. -/
theorem schema_qualifier (sound : settings.problem? = none) :
    settings.qualifier.schema = settings.schema := by
  rw [qualifier, Sql.Qualifier.make]
  cases named : settings.schema with
  | none => rfl
  | some schema =>
      obtain ⟨first, rest, spelled, -⟩ := isIdent_schema sound named
      have nonempty : schema ≠ "" := by
        rintro rfl
        cases spelled
      simp [nonempty]

/-- The qualifier names tables in full. -/
theorem tableName_eq_fullName (sound : settings.problem? = none) (table : TableName) :
    settings.qualifier.tableName table.text = settings.fullName table := by
  rw [Sql.Qualifier.tableName, schema_qualifier sound, fullName]
  cases settings.schema <;> rfl

theorem tracking_eq_fullName (sound : settings.problem? = none) :
    settings.tracking = settings.fullName settings.trackingTable :=
  tableName_eq_fullName sound _

theorem required_eq_fullName (sound : settings.problem? = none) :
    settings.required = settings.requiredTables.map settings.fullName :=
  List.map_congr_left fun _ _ => tableName_eq_fullName sound _

theorem isTableText_fullName (sound : settings.problem? = none) (table : TableName) :
    IsTableText (settings.fullName table) := by
  rw [fullName]
  split
  · exact .plain table.isIdent
  · rename_i schema named
    exact .inSchema (isIdent_schema sound named) table.isIdent

/-- The settings of the default configuration with a schema. -/
def inSchema : Settings := default.withSchema (some "app")

/-- Qualifying a statement puts in an identifier and a point, in some places or in none. How
the statement is read makes no difference to this. -/
theorem spliced_of_qualify (sound : settings.problem? = none) {dialect : Sql.Dialect}
    (qualified : dialect.qualify settings.qualifier statement = .ok rewritten) :
    rewritten = statement ∨ ∃ schema points, IsIdent schema ∧
      Sql.Spliced (schema ++ ".").toList statement.toList points rewritten.toList := by
  rw [Sql.Dialect.qualify, schema_qualifier sound] at qualified
  split at qualified
  · exact .inl (Except.ok.inj qualified).symm
  · rename_i schema named
    split at qualified
    · cases qualified
    · rename_i offsets found
      obtain ⟨points, spliced⟩ := Sql.exists_spliced_splice (schema ++ ".").toList
        statement.toList offsets
      refine .inr ⟨schema, points, isIdent_schema sound named, ?_⟩
      rw [← Except.ok.inj qualified, String.toList_ofList]
      simpa using spliced

end Settings

end MigrationLedger
