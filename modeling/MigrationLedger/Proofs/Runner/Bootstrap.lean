/-
# The first migration has to create the tracking table

A new database has no tracking table. While it is missing nothing counts as applied, nothing
is recorded and every migration is pending. A run takes up the smallest migration first. Its
record can only be inserted if its own statements have created the table before, in the same
transaction; otherwise the run ends there, and the rollback leaves the database as it was.

So the situation does not change until a first migration creates the table: by induction
over the operations it is the same after any number of them, whatever sources and runners
they are used with, as long as no run gets past its first migration.
-/

import MigrationLedger.Proofs.Runner.FirstAttempt
import MigrationLedger.Proofs.Runner.Host

namespace MigrationLedger

namespace Host

open Runner (Operation)

variable {σ κ : Type} {answering : Answering σ} {table : String}
  (host : Host answering κ table) {runner : Runner} {migration first : Migration}
  {migrations rest : List Migration} {ignored : List MigrationName} {states : RunStates}
  {db : σ} {contents : κ} {failure : Failure}

/-- The statements of a migration create the tracking table, if a run takes it up now: all of
them succeed, and the table is there after them and not before. -/
structure CreatesTable (runner : Runner) (migration : Migration) (states : RunStates)
    (db : σ) : Prop where
  missing : ¬ host.Tracked (host.visible (runner.begunOn answering states migration db))
  succeeds : (runner.executedOn answering states migration db).1 = .ok ()
  tracked : host.Tracked (host.visible (runner.executedOn answering states migration db).2)

/-- No statement of the migration, as it is sent, controls a transaction. -/
def Spares (runner : Runner) (migration : Migration) : Prop :=
  ∀ statement ∈ runner.ownStatements migration, ∀ sql,
    runner.qualify statement = .ok sql → ¬ host.Controls sql

/-- The runner keeps its records in the table, and its migrations leave the control of
transactions to it. -/
structure Serves (runner : Runner) : Prop where
  tracking_eq : runner.settings.tracking = table
  spares : ∀ migrations ignored, runner.recognized = .ok (migrations, ignored) →
    ∀ migration ∈ migrations, host.Spares runner migration

/-- Why an attempt at a migration fails before its commit: one of its statements failed, or
its record could not be inserted. Unless the statements have created the tracking table, the
latter is because the table was not found. -/
inductive Hinders (runner : Runner) (migration : Migration) (states : RunStates) (db : σ) :
    Failure → Prop
  | statement {failure : Failure}
      (failed : (runner.executedOn answering states migration db).1 = .error failure) :
      Hinders runner migration states db failure
  | record {error : DbError}
      (succeeds : (runner.executedOn answering states migration db).1 = .ok ())
      (notFound : ¬ host.CreatesTable runner migration states db →
        ∃ message, error = .tableNotFound message) :
      Hinders runner migration states db (.recording migration.name error)

/-- A run that ends at its first migration: what it returns, all that it exchanges, why, and
that nothing was committed. -/
structure Arrests (runner : Runner) (first : Migration) (states : RunStates) (db : σ)
    (failure : Failure) : Prop where
  returns : ((runner.run states).hold answering states db).1 =
    (Runner.Course.attempted states first.name .failed, .error failure)
  hinders : host.Hinders runner first states db failure
  exchanges : ∃ checked attempted,
    (runner.run states).exchanges answering states db = checked ++ attempted ∧
      runner.Check first.name checked (.ok false) ∧
      runner.Attempt first attempted (.error failure)
  sends_no_commit : ∀ exchange ∈ (runner.run states).exchanges answering states db,
    exchange.call ≠ .batch "COMMIT"
  committed_eq : host.committed ((runner.run states).hold answering states db).2 =
    host.committed db

/-! ## The first attempt -/

/-- The statements of a migration begin in a transaction, and the table is still missing. -/
theorem begunOn_of_missing (states : RunStates) (migration : Migration)
    (tracking : runner.settings.tracking = table)
    (missing : ¬ host.Tracked (host.committed db)) :
    host.Begun (host.committed db) (runner.begunOn answering states migration db) := by
  subst tracking
  obtain ⟨_, checked⟩ := host.isApplied_of_missing states migration.name missing
  obtain ⟨_, connected⟩ := host.connects (states.set migration.name .applying)
    ((Tracker.isApplied runner.settings.tracking migration.name).hold answering states db).2
  rw [checked.committed_eq] at connected
  exact (host.begin_of_idle _ connected).2

/-- The statements of a migration commit nothing. -/
theorem within_executedOn (spares : host.Spares runner migration)
    (within : host.Within contents (runner.begunOn answering states migration db)) :
    host.Within contents (runner.executedOn answering states migration db).2 := by
  have asks : Session.Asks (fun call => ∃ sql, ¬ host.Controls sql ∧ call = .batch sql)
      (runner.executeStatements migration.name 1 (runner.statementsOf migration)) :=
    Runner.asks_executeStatements _ (fun statement member sql qualified =>
      ⟨sql, spares statement (runner.statementsOf_eq migration ▸ member) sql qualified, rfl⟩) 1
  refine asks.hold_preserves ?_ within
  rintro states after _ ⟨sql, plain, rfl⟩ within
  exact host.carries states plain within

theorem createsTable_iff (states : RunStates) (migration : Migration)
    (tracking : runner.settings.tracking = table)
    (missing : ¬ host.Tracked (host.committed db)) :
    host.CreatesTable runner migration states db ↔
      (runner.executedOn answering states migration db).1 = .ok () ∧
        host.Tracked (host.visible (runner.executedOn answering states migration db).2) := by
  constructor
  · exact fun creates => ⟨creates.succeeds, creates.tracked⟩
  · rintro ⟨succeeds, tracked⟩
    have begun := host.begunOn_of_missing states migration tracking missing
    exact ⟨begun.visible_eq ▸ missing, succeeds, tracked⟩

/-- What an attempt does within its transaction: it is hindered, or the statements have
created the table. -/
theorem inside_of_missing (states : RunStates)
    (tracking : runner.settings.tracking = table)
    (spares : host.Spares runner migration) (missing : ¬ host.Tracked (host.committed db)) :
    let inside := runner.insideOn answering states migration db
    host.Within (host.committed db) inside.2 ∧
      ((inside.1 = .ok () ∧ host.CreatesTable runner migration states db) ∨
        ∃ failure, inside.1 = .error failure ∧
          host.Hinders runner migration states db failure) := by
  intro inside
  have begun := host.begunOn_of_missing states migration tracking missing
  have within := host.within_executedOn spares begun.toWithin
  have creates_iff := host.createsTable_iff states migration tracking missing
  have shape : inside = Session.hold answering (states.set migration.name .applying)
      (runner.executedOn answering states migration db).2
      (runner.afterStatements migration (runner.executedOn answering states migration db).1) :=
    (Runner.silent_executeStatements runner migration.name _ 1).hold_bind
  cases ended : (runner.executedOn answering states migration db).1 with
  | error failure =>
      rw [ended] at shape
      rw [shape]
      exact ⟨within, .inr ⟨failure, rfl, .statement ended⟩⟩
  | ok _ =>
      subst tracking
      rw [ended, Runner.afterStatements, (Tracker.silent_recordApplied _ _).hold_bind] at shape
      obtain ⟨recorded, ⟨ok, tracked⟩ | ⟨error, failed, notFound⟩⟩ :=
        host.recordApplied_cases (states.set migration.name .applying) migration.name within
      · rw [ok] at shape
        rw [shape]
        exact ⟨recorded, .inl ⟨rfl, creates_iff.mpr ⟨ended, tracked⟩⟩⟩
      · rw [failed] at shape
        rw [shape]
        refine ⟨recorded, .inr ⟨_, rfl, .record ended fun creates => notFound fun tracked => ?_⟩⟩
        exact creates (creates_iff.mpr ⟨ended, tracked⟩)

/-- The first attempt succeeds only if its statements have created the table. Otherwise
it commits nothing. -/
theorem apply_of_missing (states : RunStates)
    (tracking : runner.settings.tracking = table)
    (spares : host.Spares runner migration) (missing : ¬ host.Tracked (host.committed db)) :
    let attempt := runner.attemptOn answering states migration db
    (attempt.1 = .ok () ∧ host.CreatesTable runner migration states db) ∨
      ∃ failure, attempt.1 = .error failure ∧
        host.committed attempt.2 = host.committed db ∧
        host.Hinders runner migration states db failure := by
  intro attempt
  subst tracking
  obtain ⟨accepted, connected⟩ := host.connects (states.set migration.name .applying)
    (runner.checkedOn answering states migration.name db)
  obtain ⟨within, outcome⟩ := host.inside_of_missing states rfl spares missing
  have shape : attempt = (Transaction.close (Failure.transaction migration.name) .commit
      (runner.insideOn answering states migration db).1).hold answering
        (states.set migration.name .applying)
        (runner.insideOn answering states migration db).2 := by
    change (runner.apply migration).hold answering _ _ = _
    rw [Runner.apply_eq, Session.hold_call_bind, accepted]
    exact host.hold_scope (runner.silent_inside migration) connected
  rcases outcome with ⟨ok, creates⟩ | ⟨failure, failed, hinders⟩
  · rw [ok] at shape
    rw [shape]
    exact .inl ⟨(host.close_of_ok _ _ _ within).1, creates⟩
  · rw [failed] at shape
    rw [shape]
    obtain ⟨returns, undone⟩ := host.close_of_error within
    exact .inr ⟨failure, returns, undone.committed_eq, hinders⟩

/-! ## The first run -/

/-- No call within the transaction of an attempt is a commit. -/
theorem asks_inside (spares : host.Spares runner migration) :
    Session.Asks (fun call => call ≠ .batch "COMMIT") (runner.inside migration) := by
  refine Runner.asks_inside (by simp [Runner.insertCall]) ?_
  rintro statement member sql qualified ⟨⟩
  exact spares statement member _ qualified host.controls_commit

/-- What hinders an attempt is no refused commit. -/
theorem Hinders.ne_transaction (hinders : host.Hinders runner migration states db failure)
    (name : MigrationName) (error : DbError) : failure ≠ .transaction name error := by
  cases hinders with
  | statement failed =>
      have dialogue := Session.dialogue_exchanges answering
        (runner.executeStatements migration.name 1 (runner.statementsOf migration))
        (states.set migration.name .applying) (runner.begunOn answering states migration db)
      change Session.Dialogue _ _ (runner.executedOn answering states migration db).1 at dialogue
      rw [failed] at dialogue
      rcases Runner.failure_of_carried_statements
        ((Runner.dialogue_executeStatements_iff _ _).mp dialogue) with ⟨_, _, rfl⟩ | ⟨_, _, rfl⟩
      · simp
      · simp
  | record => simp

/-- An attempt that is hindered sends no commit. -/
theorem call_ne_commit_of_attempt (spares : host.Spares runner migration)
    (hinders : host.Hinders runner migration states db failure) {attempted : List Exchange}
    (attempt : runner.Attempt migration attempted (.error failure)) :
    ∀ exchange ∈ attempted, exchange.call ≠ .batch "COMMIT" := by
  rcases Runner.attempt_iff.mp attempt with
    ⟨_, _, carried⟩ | ⟨inside, closing, inner, rfl, body, closed⟩
  · rcases Runner.carried_opening_error_iff.mp carried with ⟨_, rfl, _⟩ | ⟨_, rfl, _⟩
    · simp
    · simp
  · have within : ∀ exchange ∈ inside, exchange.call ≠ .batch "COMMIT" :=
      (host.asks_inside spares).of_dialogue (Runner.dialogue_inside_iff.mpr body)
    cases closed with
    | failed error answer => simpa [or_imp, forall_and] using within
    | refused value error answer => exact absurd rfl (hinders.ne_transaction _ _ _)

/-- A run either gets past its first migration, whose statements then create the table, or
ends there. -/
theorem run_of_missing (states : RunStates)
    (tracking : runner.settings.tracking = table)
    (known : runner.recognized = .ok (first :: rest, ignored))
    (spares : host.Spares runner first) (missing : ¬ host.Tracked (host.committed db)) :
    (runner.GetsPast first ((runner.run states).exchanges answering states db) ∧
        host.CreatesTable runner first states db) ∨
      ∃ failure, host.Arrests runner first states db failure := by
  subst tracking
  obtain ⟨unapplied, _⟩ := host.isApplied_of_missing states first.name missing
  rcases host.apply_of_missing states rfl spares missing with
    ⟨ok, creates⟩ | ⟨failure, failed, kept, hinders⟩
  · exact .inl ⟨Runner.getsPast_of_unapplied unapplied known ok, creates⟩
  · have hold_eq := Runner.hold_run_of_unapplied unapplied known failed
    obtain ⟨checked, attempted, check, attempt, exchanges_eq⟩ :=
      Runner.exchanges_run_of_unapplied unapplied known failed
    refine .inr ⟨failure, congrArg Prod.fst hold_eq, hinders, ⟨_, _, exchanges_eq, check, attempt⟩,
      ?_, ?_⟩
    · rw [exchanges_eq, List.forall_mem_append]
      exact ⟨check.call_ne_commit, host.call_ne_commit_of_attempt spares hinders attempt⟩
    · rw [hold_eq]
      exact kept

/-! ## Any number of operations -/

/-- Operations, one after another, of which none is a run that gets past its first
migration. -/
inductive Stalls : History.World σ → List (Runner × Operation) → Prop
  | nil {world : History.World σ} : Stalls world []
  | cons {world : History.World σ} {runner : Runner} {operation : Operation}
      {later : List (Runner × Operation)} (serves : host.Serves runner)
      (stuck : History.Stuck answering world runner operation)
      (rest : Stalls ((History.Event.use runner operation answering).after world) later) :
      Stalls world ((runner, operation) :: later)

variable {world : History.World σ} {operation : Operation} {uses : List (Runner × Operation)}

/-- An operation commits nothing unless it is a run that gets past its first migration. -/
theorem committed_of_stuck (serves : host.Serves runner)
    (missing : ¬ host.Tracked (host.committed world.database))
    (stuck : History.Stuck answering world runner operation) :
    host.committed ((History.Event.use runner operation answering).after world).database =
      host.committed world.database := by
  by_cases runs : operation.Runs
  · rw [History.after_of_runs runs]
    cases known : runner.recognized with
    | error failure =>
        rw [Runner.run, known]
        rfl
    | ok found =>
        obtain ⟨_ | ⟨first, rest⟩, ignored⟩ := found
        · rw [Runner.run_eq known]
          rfl
        · have spares := serves.spares _ _ known first List.mem_cons_self
          rcases host.run_of_missing world.states serves.tracking_eq known spares missing with
            ⟨past, _⟩ | ⟨failure, arrests⟩
          · exact absurd past (stuck runs first rest ignored known)
          · exact arrests.committed_eq
  · obtain ⟨_, session, f, inquiry, same⟩ := runner.exists_inquiry world.states runs
    change host.committed ((runner.perform world.states operation).hold answering world.states
      world.database).2 = _
    rw [same, Session.hold_bind_pure]
    exact host.committed_of_inquiry inquiry

/-- Stalled operations commit nothing. -/
theorem Stalls.committed_eq (stalls : host.Stalls world uses)
    (missing : ¬ host.Tracked (host.committed world.database)) :
    host.committed (History.afterUses answering world uses).database =
      host.committed world.database := by
  induction stalls with
  | nil => rfl
  | cons serves stuck _ ih =>
      have kept := host.committed_of_stuck serves missing stuck
      exact (ih (kept ▸ missing)).trans kept

/-- A new runner reports every migration as pending. -/
theorem status_of_missing (tracking : runner.settings.tracking = table)
    (known : runner.recognized = .ok (migrations, ignored))
    (missing : ¬ host.Tracked (host.committed db)) :
    ((runner.status []).hold answering [] db).1 =
      .ok (migrations.map fun migration => ⟨migration.name, .pending, none⟩) := by
  subst tracking
  rw [Runner.status, known]
  dsimp only
  rw [(Tracker.silent_appliedRecords _).hold_bind, host.appliedRecords_of_missing missing]
  rfl

theorem Arrests.not_getsPast (arrests : host.Arrests runner first states db failure) :
    ¬ runner.GetsPast first ((runner.run states).exchanges answering states db) :=
  fun past => arrests.sends_no_commit _ past.commits rfl

/-- **Bootstrap safety.** A host has no tracking table at first. It is then used by any
runners that leave the control of transactions to themselves, for any operations, and no
run gets past its first migration. So far nothing was committed: no name counts as applied,
there are no records, and a new runner over any source that can be read and has distinct
names reports all its migrations as pending. Whatever a runner remembers, its next run gets
past the smallest migration only if the statements of this migration create the table.
Otherwise it ends there: it fails with what a statement failed with or, once all of them
succeeded, because the record could not be inserted; it calls nothing for any later
migration, sends no commit, and leaves what was committed as it was. -/
theorem bootstrap {world : History.World σ} {uses : List (Runner × Operation)}
    (missing : ¬ host.Tracked (host.committed world.database)) (stalls : host.Stalls world uses) :
    let db := (History.afterUses answering world uses).database
    host.committed db = host.committed world.database ∧
      (∀ states name, ((Tracker.isApplied table name).hold answering states db).1 = .ok false) ∧
      (∀ states, ((Tracker.appliedRecords table).hold answering states db).1 = .ok []) ∧
      ∀ runner, host.Serves runner → ∀ entries, runner.offer = .ok entries →
        ((runner.scripts entries).map Migration.name).Nodup →
        ((runner.status []).hold answering [] db).1 =
            .ok ((Migration.sort (runner.scripts entries)).map fun migration =>
              ⟨migration.name, .pending, none⟩) ∧
          ∀ first rest, Migration.sort (runner.scripts entries) = first :: rest →
            (∀ other ∈ rest, first.Before other) ∧
            ∀ states,
              (runner.GetsPast first ((runner.run states).exchanges answering states db) →
                host.CreatesTable runner first states db) ∧
              (¬ runner.GetsPast first ((runner.run states).exchanges answering states db) →
                ∃ failure, host.Arrests runner first states db failure) := by
  intro db
  have kept : host.committed db = host.committed world.database :=
    stalls.committed_eq host missing
  rw [← kept] at missing
  refine ⟨kept, fun states name => (host.isApplied_of_missing states name missing).1,
    fun states => host.appliedRecords_of_missing missing, ?_⟩
  intro runner serves entries offered distinct
  have known := Runner.recognized_eq_ok_iff.mpr ⟨entries, offered, distinct, rfl, rfl⟩
  refine ⟨host.status_of_missing serves.tracking_eq known missing, ?_⟩
  intro first rest sorted
  rw [sorted] at known
  have ascending := Runner.pairwise_before_of_recognized known
  refine ⟨(List.pairwise_cons.mp ascending).1, fun states => ?_⟩
  have spares := serves.spares _ _ known first List.mem_cons_self
  rcases host.run_of_missing states serves.tracking_eq known spares missing with
    ⟨past, creates⟩ | ⟨failure, arrests⟩
  · exact ⟨fun _ => creates, fun stuck => absurd past stuck⟩
  · exact ⟨fun past => absurd past (arrests.not_getsPast host), fun _ => ⟨failure, arrests⟩⟩

end Host

/-- A database that holds no more than the texts of the statements it has carried out. -/
structure Notebook where
  committed : List String := []
  visible : List String := []
  inTransaction : Bool := false

namespace Notebook

/-- The statement that creates the tracking table. -/
def creation : String :=
  "CREATE TABLE jobrunr_migrations (id TEXT, script_name TEXT, applied_at TIMESTAMP)"

/-- Write down a statement. Outside a transaction it is committed at once. -/
def write (db : Notebook) (sql : String) : Notebook :=
  let visible := db.visible ++ [sql]
  { db with visible, committed := if db.inTransaction then db.committed else visible }

/-- Carry out a statement. -/
def execute (db : Notebook) (sql : String) : Notebook :=
  match sql with
  | "BEGIN TRANSACTION" => { db with inTransaction := true }
  | "COMMIT" => { db with committed := db.visible, inTransaction := false }
  | "ROLLBACK" => { db with visible := db.committed, inTransaction := false }
  | sql => db.write sql

/-- Answer what needs the tracking table. -/
def ask {α : Type} (db : Notebook) (reply : α) : Except DbError α :=
  if creation ∈ db.visible then .ok reply
  else .error (.tableNotFound "Table with name jobrunr_migrations does not exist")

/-- The notebook as a database that answers sessions. -/
def answering : Answering Notebook := fun _ db call =>
  match call with
  | .connect => (.ok (), { db with visible := db.committed, inTransaction := false })
  | .batch sql => (.ok (), db.execute sql)
  | .execute sql _ => (db.ask 1, if creation ∈ db.visible then db.write sql else db)
  | .count _ _ => (db.ask 0, db)
  | .rows _ _ => (db.ask [], db)

/-- The statement is one of those that control a transaction. -/
def Controls (sql : String) : Prop :=
  sql = "BEGIN TRANSACTION" ∨ sql = "COMMIT" ∨ sql = "ROLLBACK"

theorem execute_of_plain {db : Notebook} {sql : String} (plain : ¬ Controls sql) :
    db.execute sql = db.write sql := by
  simp only [Controls, not_or] at plain
  simp [execute, plain]

/-- The notebook as it is known from outside. -/
def view : View Notebook (List String) where
  committed := committed
  visible := visible
  InTransaction db := db.inTransaction = true

theorem within_write {contents : List String} {db : Notebook} (sql : String)
    (within : view.Within contents db) : view.Within contents (db.write sql) := by
  obtain ⟨kept, opened⟩ := within
  exact ⟨(if_pos opened).trans kept, opened⟩

/-- A notebook hosts the tracking table of the default settings. -/
def host : Host answering (List String) Settings.default.tracking where
  toView := view
  Tracked contents := creation ∈ contents
  Controls := Controls
  controls_commit := by simp [Controls]
  connects states db := ⟨rfl, rfl, rfl, by simp [view, answering]⟩
  begins states idle := ⟨rfl, ⟨idle.committed_eq, rfl⟩, idle.visible_eq⟩
  commits states within := ⟨rfl, rfl, rfl, by simp [view, answering, execute]⟩
  rolls states within :=
    ⟨rfl, within.committed_eq, within.committed_eq, by simp [view, answering, execute]⟩
  carries states plain within := by
    simp only [answering, execute_of_plain plain]
    exact within_write _ within
  inserts states sql parameters within := by
    simp only [answering]
    split
    · exact within_write _ within
    · exact within
  counts states db sql parameters := ⟨rfl, rfl, Iff.rfl⟩
  lists states db sql parameters := ⟨rfl, rfl, Iff.rfl⟩
  misses_count states parameters missing := ⟨_, if_neg missing⟩
  misses_rows states parameters missing := ⟨_, if_neg missing⟩
  misses_insert states parameters missing := ⟨_, if_neg missing⟩

open Runner (single asking)

theorem serves_asking : host.Serves (single asking) where
  tracking_eq := rfl
  spares := by
    intro migrations ignored known migration member statement stated sql qualified
    cases (Runner.recognized_single "SELECT 1").symm.trans known
    obtain rfl : migration = asking := List.mem_singleton.mp member
    rw [← Runner.statementsOf_eq, Runner.statementsOf_asking] at stated
    obtain rfl := List.mem_singleton.mp stated
    cases qualified
    simp [host, Controls]

/-- A migration that only asks for something does not create the tracking table. -/
theorem not_createsTable_asking {db : Notebook} (fresh : db.committed = []) :
    ¬ host.CreatesTable (single asking) asking [] db := by
  rintro ⟨-, -, tracked⟩
  have missing : ¬ host.Tracked (host.committed db) := by simp [host, view, fresh]
  have unwritten : ((single asking).begunOn answering [] asking db).visible = [] :=
    (host.begunOn_of_missing [] asking rfl missing).visible_eq.trans fresh
  rw [Runner.executedOn, Runner.statementsOf_asking] at tracked
  generalize (single asking).begunOn answering [] asking db = begun at tracked unwritten
  change creation ∈ (begun.execute "SELECT 1").visible at tracked
  rw [execute_of_plain (by simp [Controls]), write, unwritten] at tracked
  exact absurd (show creation ∈ ["SELECT 1"] from tracked) (by decide)

theorem not_getsPast_asking {db : Notebook} (fresh : db.committed = []) :
    ¬ (single asking).GetsPast asking
      (((single asking).run []).exchanges answering [] db) := by
  have known : (single asking).recognized = .ok ([asking], []) :=
    Runner.recognized_single "SELECT 1"
  have missing : ¬ host.Tracked (host.committed db) := by simp [host, view, fresh]
  have spares := serves_asking.spares _ _ known asking List.mem_cons_self
  rcases host.run_of_missing [] rfl known spares missing with ⟨_, creates⟩ | ⟨_, arrests⟩
  · exact absurd creates (not_createsTable_asking fresh)
  · exact arrests.not_getsPast host

/-- After one run that ended at its only migration, the next one ends there as well. -/
theorem bootstrap_of_asking :
    let world : History.World Notebook := ⟨[], {}⟩
    let db := (History.afterUses answering world [(single asking, .run)]).database
    db.committed = [] ∧ ∃ failure, host.Arrests (single asking) asking [] db failure := by
  intro world db
  have stalls : host.Stalls world [(single asking, .run)] := by
    refine .cons serves_asking (fun _ first rest ignored known => ?_) .nil
    cases (Runner.recognized_single "SELECT 1").symm.trans known
    exact not_getsPast_asking rfl
  have kept : (single asking).isScript asking = true := by
    change Runner.scriptName.hasExtension ".sql" = true
    decide
  obtain ⟨fresh, -, -, next⟩ := host.bootstrap List.not_mem_nil stalls
  obtain ⟨-, next⟩ := next (single asking) serves_asking [asking] rfl
    (by simp [Runner.scripts, kept])
  have sorted : Migration.sort ((single asking).scripts [asking]) = [asking] := by
    simp [Runner.scripts, kept, Migration.sort]
  exact ⟨fresh, ((next asking [] sorted).2 []).2 (not_getsPast_asking fresh)⟩

end Notebook

end MigrationLedger
