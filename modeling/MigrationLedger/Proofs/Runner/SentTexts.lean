/-
# The texts that a runner sends

A runner sends texts of two kinds: statements of its migrations, in which tables were
qualified, and texts of its own. The latter are listed here: the control of transactions,
and four questions and insertions around the text of a table. The settings of a runner are
sound, so that text is an identifier or two with a point between them. Names of migrations,
identifiers of records and times are bound to placeholders.

Whatever a runner is asked to do, and whatever it is answered, it sends nothing else. The
list is checked for each part of the program and put together along its composition.
-/

import MigrationLedger.Proofs.Runner.History
import MigrationLedger.Proofs.Session.Texts
import MigrationLedger.Proofs.Settings.Identifiers

namespace MigrationLedger

/-- The calls that are no statements of migrations. Their texts are fixed around the text
of a table, and names of migrations, identifiers and times are bound. -/
inductive Call.IsRoutine : Call → Prop
  | connect : IsRoutine .connect
  | begin : IsRoutine (.batch "BEGIN TRANSACTION")
  | commit : IsRoutine (.batch "COMMIT")
  | rollback : IsRoutine (.batch "ROLLBACK")
  | check {table : String} (shape : IsTableText table) (name : MigrationName) :
      IsRoutine (.count ("SELECT COUNT(*) FROM " ++ table ++ " WHERE script_name = ?")
        [.text name.text])
  | record {table : String} (shape : IsTableText table) (name : MigrationName) :
      IsRoutine (.execute
        ("INSERT INTO " ++ table ++ " (id, script_name, applied_at) VALUES (?, ?, ?)")
        [.freshId, .text name.text, .now])
  | list {table : String} (shape : IsTableText table) :
      IsRoutine (.rows
        ("SELECT id, script_name, applied_at FROM " ++ table ++ " ORDER BY script_name") [])
  | presence {table : String} (shape : IsTableText table) :
      IsRoutine (.count ("SELECT COUNT(*) FROM " ++ table) [])

open Session (Asks)

variable {P : Call → Prop} {table : String} {tables : List String} {α ε : Type}

namespace Tracker

theorem asks_isApplied (shape : IsTableText table) (name : MigrationName) :
    Asks Call.IsRoutine (isApplied table name) := by
  apply Session.asks_call_bind .connect
  rintro (error | _)
  · exact Session.asks_pure _
  · apply Session.asks_call_bind (.check shape name)
    rintro (error | count)
    · change Asks _ (if error.isNotFound then _ else _ : Session (Except Failure Bool))
      split
      · exact Session.asks_pure _
      · exact Session.asks_pure _
    · exact Session.asks_pure _

theorem asks_recordApplied {name : MigrationName}
    (record : P (.execute (insertSql table) [.freshId, .text name.text, .now])) :
    Asks P (recordApplied table name) := by
  apply Session.asks_call_bind record
  rintro (error | _)
  · exact Session.asks_pure _
  · exact Session.asks_pure _

theorem asks_appliedRecords (shape : IsTableText table) :
    Asks Call.IsRoutine (appliedRecords table) := by
  apply Session.asks_call_bind .connect
  rintro (error | _)
  · exact Session.asks_pure _
  · apply Session.asks_call_bind (.list shape)
    rintro (error | rows)
    · change Asks _ (if error.isNotFound then _ else _ :
        Session (Except Failure (List MigrationRecord)))
      split
      · exact Session.asks_pure _
      · exact Session.asks_pure _
    · exact Session.asks_pure _

end Tracker

namespace Transaction

/-- A transaction adds its opening and its ending to what its body asks. -/
theorem asks_scope (routine : ∀ call, call.IsRoutine → P call) {failure : DbError → ε}
    {ending : Ending} {body : Session (Except ε α)} (inside : Asks P body) :
    Asks P (scope failure ending body) := by
  have abandoned (value : Except ε α) : Asks P (do rollback; return value) :=
    Session.asks_call_bind (routine _ .rollback) fun _ => Session.asks_pure value
  have begins : Asks P begin := by
    apply Session.asks_call_bind (routine _ .begin)
    rintro (error | _)
    · exact Session.asks_pure _
    · exact Session.asks_pure _
  have commits : Asks P commit := by
    apply Session.asks_call_bind (routine _ .commit)
    rintro (error | _)
    · exact Session.asks_call_bind (routine _ .rollback) fun _ => Session.asks_pure _
    · exact Session.asks_pure _
  rw [scope_eq]
  refine begins.bind ?_
  rintro (error | _)
  · exact Session.asks_pure _
  · refine inside.bind ?_
    rintro (error | value)
    · exact abandoned _
    · cases ending with
      | abandon => exact abandoned _
      | commit =>
          refine commits.bind ?_
          rintro (error | _)
          · exact Session.asks_pure _
          · exact Session.asks_pure _

end Transaction

namespace Validation

theorem asks_allAnswer (counts : ∀ table ∈ tables, P (.count (countSql table) [])) :
    Asks P (allAnswer tables) := by
  induction tables with
  | nil => exact Session.asks_pure _
  | cons table rest ih =>
      rw [List.forall_mem_cons] at counts
      apply Session.asks_call_bind counts.1
      rintro (error | _)
      · exact Session.asks_pure _
      · exact ih counts.2

theorem asks_validate (shapes : ∀ table ∈ tables, IsTableText table) :
    Asks Call.IsRoutine (validate tables) := by
  apply Session.asks_call_bind .connect
  rintro (error | _)
  · exact Session.asks_pure _
  · refine Session.Asks.bind (Transaction.asks_scope (fun _ => id) ?_) ?_
    · exact (asks_allAnswer fun table member => .presence (shapes table member)).bind
        fun _ => Session.asks_pure _
    · rintro (failure | _ | _)
      · exact Session.asks_pure _
      · exact Session.asks_pure _
      · exact Session.asks_pure _

end Validation

namespace Runner

variable {runner : Runner} {migration : Migration} {states : RunStates}
  {migrations : List Migration}

/-- The call sends a statement from the script of one of the migrations that are run, as the
qualifier leaves it. The script is none that is left out. -/
def OwnStatement (runner : Runner) (call : Call) : Prop :=
  ∃ migrations ignored, runner.recognized = .ok (migrations, ignored) ∧
    ∃ migration ∈ migrations, ¬ runner.settings.emptyMarker.toList <+: migration.script.toList ∧
      ∃ statement ∈ Sql.Script.statements migration.script runner.settings.delimiter, ∃ sql,
        runner.qualify statement = .ok sql ∧ call = .batch sql

theorem isTableText_trackingTable (runner : Runner) : IsTableText runner.trackingTable :=
  Settings.isTableText_fullName runner.usable _

theorem isTableText_tracking (runner : Runner) : IsTableText runner.settings.tracking := by
  rw [tracking_eq]
  exact runner.isTableText_trackingTable

theorem isTableText_required (runner : Runner) :
    ∀ table ∈ runner.settings.required, IsTableText table := by
  rw [Settings.required_eq_fullName runner.usable]
  exact List.forall_mem_map.mpr fun table _ => Settings.isTableText_fullName runner.usable table

theorem mem_ownStatements_iff {statement : String} :
    statement ∈ runner.ownStatements migration ↔
      ¬ runner.settings.emptyMarker.toList <+: migration.script.toList ∧
        statement ∈ Sql.Script.statements migration.script runner.settings.delimiter := by
  rw [ownStatements, List.mem_ite_nil_left]

theorem asks_executeStatements (name : MigrationName) {statements : List String}
    (own : ∀ statement ∈ statements, ∀ sql,
      runner.qualify statement = .ok sql → P (.batch sql)) :
    ∀ number, Asks P (runner.executeStatements name number statements) := by
  induction statements with
  | nil => exact fun _ => Session.asks_pure _
  | cons statement rest ih =>
      intro number
      rw [List.forall_mem_cons] at own
      rw [executeStatements]
      split
      · exact Session.asks_pure _
      · rename_i sql qualified
        apply Session.asks_call_bind (own.1 sql qualified)
        rintro (error | _)
        · exact Session.asks_pure _
        · exact ih own.2 (number + 1)

theorem asks_inside (record : P (runner.insertCall migration.name))
    (own : ∀ statement ∈ runner.ownStatements migration, ∀ sql,
      runner.qualify statement = .ok sql → P (.batch sql)) :
    Asks P (runner.inside migration) := by
  rw [inside, statementsOf_eq]
  refine (asks_executeStatements migration.name own 1).bind ?_
  rintro (failure | _)
  · exact Session.asks_pure _
  · rw [insertCall, ← insertSql_tracking] at record
    refine (Tracker.asks_recordApplied record).bind ?_
    rintro (error | _)
    · exact Session.asks_pure _
    · exact Session.asks_pure _

theorem asks_apply (routine : ∀ call, call.IsRoutine → P call)
    (own : ∀ statement ∈ runner.ownStatements migration, ∀ sql,
      runner.qualify statement = .ok sql → P (.batch sql)) :
    Asks P (runner.apply migration) := by
  apply Session.asks_call_bind (routine _ .connect)
  rintro (error | _)
  · exact Session.asks_pure _
  · have record := Call.IsRoutine.record runner.isTableText_trackingTable migration.name
    exact Transaction.asks_scope routine (asks_inside (routine _ record) own)

theorem asks_takeUp (routine : ∀ call, call.IsRoutine → P call)
    (own : ∀ migration ∈ migrations, ∀ statement ∈ runner.ownStatements migration, ∀ sql,
      runner.qualify statement = .ok sql → P (.batch sql))
    (states : RunStates) (applied skipped : List MigrationName) :
    Asks P (runner.takeUp states applied skipped migrations) := by
  induction migrations generalizing states applied skipped with
  | nil => exact Session.asks_pure _
  | cons migration rest ih =>
      rw [List.forall_mem_cons] at own
      rw [takeUp]
      refine ((Tracker.asks_isApplied runner.isTableText_tracking _).mono routine).bind ?_
      rintro (failure | _ | _)
      · exact Session.asks_pure _
      · refine .announce ((asks_apply routine own.1).bind ?_)
        rintro (failure | _)
        · exact .announce (Session.asks_pure _)
        · exact .announce (ih own.2 _ _ _)
      · exact ih own.2 _ _ _

/-- A run sends statements of its migrations, and nothing else but routine calls. -/
theorem asks_run (runner : Runner) (states : RunStates) :
    Asks (fun call => call.IsRoutine ∨ runner.OwnStatement call) (runner.run states) := by
  rw [run]
  split
  · exact Session.asks_pure _
  · rename_i migrations ignored known
    refine Session.Asks.bind (asks_takeUp (fun _ => .inl) ?_ _ _ _) ?_
    · intro migration member statement inside sql qualified
      obtain ⟨kept, inside⟩ := mem_ownStatements_iff.mp inside
      exact .inr ⟨_, _, known, migration, member, kept, statement, inside, sql, qualified, rfl⟩
    · rintro ⟨states, failure | ⟨applied, skipped⟩⟩
      · exact Session.asks_pure _
      · exact Session.asks_pure _

theorem Inquiry.asks {α : Type} {session : Session α} (inquiry : runner.Inquiry states session) :
    Asks Call.IsRoutine session := by
  cases inquiry with
  | validate => exact Validation.asks_validate runner.isTableText_required
  | isApplied name => exact Tracker.asks_isApplied runner.isTableText_tracking name
  | appliedRecords => exact Tracker.asks_appliedRecords runner.isTableText_tracking
  | status =>
      rw [Runner.status]
      split
      · exact Session.asks_pure _
      · refine (Tracker.asks_appliedRecords runner.isTableText_tracking).bind ?_
        rintro (failure | records)
        · exact Session.asks_pure _
        · exact Session.asks_pure _

theorem asks_perform (runner : Runner) (states : RunStates) (operation : Operation) :
    Asks (fun call => call.IsRoutine ∨ runner.OwnStatement call)
      (runner.perform states operation) := by
  by_cases runs : operation.Runs
  · rw [perform_of_runs runs]
    exact (runner.asks_run states).bind fun _ => Session.asks_pure _
  · obtain ⟨_, session, f, inquiry, same⟩ := runner.exists_inquiry states runs
    rw [same]
    exact (inquiry.asks.mono fun _ => .inl).bind fun _ => Session.asks_pure _

end Runner

end MigrationLedger
