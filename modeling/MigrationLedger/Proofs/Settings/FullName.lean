/-
# Two ways to the full name of a table

The tracker and the check of required tables put the schema in front of a name without
looking at it. A script is qualified by its text: there the schema goes to the tables
whose names begin with the prefix of the job store. Both ways are compared on the
question for the number of rows, which the check asks with the full name.

They agree exactly for the tables that begin with the prefix, and for all tables when
there is no schema. So a tracking table or a required table with another beginning is
never the table that a script means by the same name. Left aside are names that are
spelled like one of the words in front of them in the question.
-/

import MigrationLedger.Proofs.Settings.Identifiers
import MigrationLedger.Proofs.Sql.DuckDb.Counting

namespace MigrationLedger.Settings

open Sql.Qualifier

variable {settings : Settings}

theorem tablePrefix_ne_empty (sound : settings.problem? = none) : settings.tablePrefix ≠ "" :=
  (problem?_eq_none_iff.mp sound).2 ("table prefix", settings.tablePrefix) (by simp [neededTexts])

/-- **The two ways agree on the tables with the prefix.** Take any dialect that reads the
question for the number of rows as one about the table, any sound settings and any table,
such as the tracking table or a required one. Without a schema, the question comes out of
the qualifier with the full name of the table. With a schema, so it does if the name of the
table begins with the prefix, unless it is spelled like a word in front of it; and it never
does if the name does not begin with the prefix. The full name is the one that the tracker
and the check use. -/
theorem qualify_countSql {dialect : Sql.Dialect} (reads : dialect.ReadsCounts)
    (sound : settings.problem? = none) (table : TableName) :
    settings.qualifier.tableName table.text = settings.fullName table ∧
    (settings.schema = none ∨ settings.tablePrefix.toList <+: table.text.toList ∧
        table.text ∉ ["SELECT", "COUNT", "FROM"] →
      dialect.qualify settings.qualifier ("SELECT COUNT(*) FROM " ++ table.text) =
        .ok ("SELECT COUNT(*) FROM " ++ settings.fullName table)) ∧
    (dialect.qualify settings.qualifier ("SELECT COUNT(*) FROM " ++ table.text) =
        .ok ("SELECT COUNT(*) FROM " ++ settings.fullName table) →
      settings.schema = none ∨ settings.tablePrefix.toList <+: table.text.toList) := by
  have schema := schema_qualifier sound
  have plain := table.isPlainIdentifier_text
  have owns : settings.qualifier.owns table.text = true ↔
      settings.tablePrefix.toList <+: table.text.toList := owns_iff
  rw [← owns]
  refine ⟨tableName_eq_fullName sound table, ?_⟩
  cases named : settings.schema with
  | none => simp [Sql.Dialect.qualify, schema, named, fullName]
  | some name =>
      have full : settings.fullName table = name ++ "." ++ table.text := by rw [fullName, named]
      rw [full]
      constructor
      · rintro (bare | ⟨owned, apart⟩)
        · cases bare
        · exact qualify_question_of_owns reads (schema.trans named) plain
            (tablePrefix_ne_empty sound) owned apart
      · intro agree
        by_contra neither
        rw [not_or, Bool.not_eq_true] at neither
        exact qualify_question_ne reads (schema.trans named) plain neither.2 agree

/-- The default tracking table. -/
theorem qualify_countSql_inSchema :
    Sql.Dialect.duckDb.ReadsCounts ∧ inSchema.problem? = none ∧
      Sql.Dialect.duckDb.qualify inSchema.qualifier "SELECT COUNT(*) FROM jobrunr_migrations" =
        .ok "SELECT COUNT(*) FROM app.jobrunr_migrations" := by
  have sound : inSchema.problem? = none := by decide +kernel
  have owned : inSchema.tablePrefix.toList <+: inSchema.trackingTable.text.toList := by
    decide +kernel
  exact ⟨Sql.readsCounts_duckDb, sound,
    (qualify_countSql Sql.readsCounts_duckDb sound inSchema.trackingTable).2.1
      (.inr ⟨owned, by decide +kernel⟩)⟩

/-- Settings with a tracking table that does not have the prefix. -/
def withoutPrefix : Settings := { inSchema with trackingTable := ⟨"migrations", by decide⟩ }

/-- The tracker asks for `app.migrations`, and a script means `migrations`. -/
theorem qualify_countSql_withoutPrefix :
    withoutPrefix.problem? = none ∧ withoutPrefix.tracking = "app.migrations" ∧
      (∀ dialect : Sql.Dialect, dialect.ReadsCounts →
        dialect.qualify withoutPrefix.qualifier "SELECT COUNT(*) FROM migrations" ≠
          .ok "SELECT COUNT(*) FROM app.migrations") ∧
      Sql.Dialect.duckDb.ReadsCounts ∧
      Sql.Dialect.duckDb.qualify withoutPrefix.qualifier "SELECT COUNT(*) FROM migrations" =
        .ok "SELECT COUNT(*) FROM migrations" := by
  have named : withoutPrefix.qualifier.schema = some "app" := by decide +kernel
  have other : withoutPrefix.qualifier.owns "migrations" = false := by decide +kernel
  refine ⟨by decide +kernel, by decide +kernel, fun dialect reads => ?_, Sql.readsCounts_duckDb,
    by decide +kernel⟩
  exact qualify_question_ne reads named (by decide) other

end MigrationLedger.Settings
