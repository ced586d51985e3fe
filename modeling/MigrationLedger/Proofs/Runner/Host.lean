/-
# A database before its tracking table exists

The tracking table is a table like any other: a migration creates it, and a rollback
takes it away again. The module describes the databases in which this can happen by what
they have committed, by what the newest connection sees, and by how calls change both. A
`Host` accepts connections and the control of transactions, undoes with a rollback what was
not committed, and says that the tracking table is not found while it is missing. Only
statements of migrations can create it. Everything else about a host is left open: what it
contains, which statements it refuses, and which of them it takes for the control of a
transaction.

While the table is missing, a host answers the questions of the tracker as if the table
were empty.
-/

import MigrationLedger.Proofs.Runner.History
import MigrationLedger.Proofs.Runner.SentTexts
import MigrationLedger.Proofs.Session.Holding

namespace MigrationLedger

variable {σ κ α ε : Type}

/-- What is seen of a database while it is used. -/
structure View (σ κ : Type) where
  /-- What was committed. -/
  committed : σ → κ
  /-- What the newest connection sees. -/
  visible : σ → κ
  /-- The newest connection is in a transaction. -/
  InTransaction : σ → Prop

namespace View

/-- No transaction is open, and everything is committed. -/
structure Idle (view : View σ κ) (contents : κ) (db : σ) : Prop where
  committed_eq : view.committed db = contents
  visible_eq : view.visible db = contents
  not_inTransaction : ¬ view.InTransaction db

/-- A transaction is open beside what was committed. -/
structure Within (view : View σ κ) (contents : κ) (db : σ) : Prop where
  committed_eq : view.committed db = contents
  inTransaction : view.InTransaction db

/-- A transaction is open, and nothing was changed in it yet. -/
structure Begun (view : View σ κ) (contents : κ) (db : σ) : Prop
    extends view.Within contents db where
  visible_eq : view.visible db = contents

/-- The databases cannot be told apart. -/
structure Same (view : View σ κ) (before after : σ) : Prop where
  committed_eq : view.committed after = view.committed before
  visible_eq : view.visible after = view.visible before
  inTransaction_iff : view.InTransaction after ↔ view.InTransaction before

end View

/-- A database that can host the tracking table, and what it does while the table is
missing. -/
structure Host (answering : Answering σ) (κ : Type) (table : String) extends View σ κ where
  /-- The tracking table is there. -/
  Tracked : κ → Prop
  /-- The statement opens or ends a transaction. -/
  Controls : String → Prop
  controls_commit : Controls "COMMIT"
  /-- A new connection is accepted. What an earlier one has not committed is lost. -/
  connects (states : RunStates) (db : σ) :
    (answering states db .connect).1 = .ok () ∧
      toView.Idle (toView.committed db) (answering states db .connect).2
  /-- A transaction can be opened. -/
  begins {contents : κ} {db : σ} (states : RunStates) (idle : toView.Idle contents db) :
    (answering states db (.batch "BEGIN TRANSACTION")).1 = .ok () ∧
      toView.Begun contents (answering states db (.batch "BEGIN TRANSACTION")).2
  /-- A transaction can be committed. -/
  commits {contents : κ} {db : σ} (states : RunStates) (within : toView.Within contents db) :
    (answering states db (.batch "COMMIT")).1 = .ok () ∧
      toView.Idle (toView.visible db) (answering states db (.batch "COMMIT")).2
  /-- A transaction can be rolled back, which undoes what it changed. -/
  rolls {contents : κ} {db : σ} (states : RunStates) (within : toView.Within contents db) :
    (answering states db (.batch "ROLLBACK")).1 = .ok () ∧
      toView.Idle contents (answering states db (.batch "ROLLBACK")).2
  /-- Any other statement commits nothing within a transaction, accepted or refused. -/
  carries {contents : κ} {db : σ} {sql : String} (states : RunStates)
    (plain : ¬ Controls sql) (within : toView.Within contents db) :
    toView.Within contents (answering states db (.batch sql)).2
  /-- An insertion commits nothing within a transaction, accepted or refused. -/
  inserts {contents : κ} {db : σ} (states : RunStates) (sql : String)
    (parameters : List Parameter) (within : toView.Within contents db) :
    toView.Within contents (answering states db (.execute sql parameters)).2
  /-- A count changes nothing. -/
  counts (states : RunStates) (db : σ) (sql : String) (parameters : List Parameter) :
    toView.Same db (answering states db (.count sql parameters)).2
  /-- A query for rows changes nothing. -/
  lists (states : RunStates) (db : σ) (sql : String) (parameters : List Parameter) :
    toView.Same db (answering states db (.rows sql parameters)).2
  /-- The records of a missing table cannot be counted. -/
  misses_count {db : σ} (states : RunStates) (parameters : List Parameter)
    (missing : ¬ Tracked (toView.visible db)) :
    ∃ message, (answering states db (.count
        ("SELECT COUNT(*) FROM " ++ table ++ " WHERE script_name = ?") parameters)).1 =
      .error (.tableNotFound message)
  /-- The records of a missing table cannot be listed. -/
  misses_rows {db : σ} (states : RunStates) (parameters : List Parameter)
    (missing : ¬ Tracked (toView.visible db)) :
    ∃ message, (answering states db (.rows
        ("SELECT id, script_name, applied_at FROM " ++ table ++ " ORDER BY script_name")
          parameters)).1 =
      .error (.tableNotFound message)
  /-- No record can be inserted into a missing table. -/
  misses_insert {db : σ} (states : RunStates) (parameters : List Parameter)
    (missing : ¬ Tracked (toView.visible db)) :
    ∃ message, (answering states db (.execute
        ("INSERT INTO " ++ table ++ " (id, script_name, applied_at) VALUES (?, ?, ?)")
          parameters)).1 =
      .error (.tableNotFound message)

namespace View

variable {view : View σ κ} {contents : κ} {before after : σ}

theorem Idle.of_same (idle : view.Idle contents before) (same : view.Same before after) :
    view.Idle contents after :=
  ⟨same.committed_eq.trans idle.committed_eq, same.visible_eq.trans idle.visible_eq,
    fun within => idle.not_inTransaction (same.inTransaction_iff.mp within)⟩

theorem Begun.of_same (begun : view.Begun contents before) (same : view.Same before after) :
    view.Begun contents after :=
  ⟨⟨same.committed_eq.trans begun.committed_eq,
    same.inTransaction_iff.mpr begun.inTransaction⟩, same.visible_eq.trans begun.visible_eq⟩

end View

namespace Host

variable {answering : Answering σ} {table : String} (host : Host answering κ table)
  {contents : κ} {states : RunStates} {db : σ} {name : MigrationName} {runner : Runner}

include host

/-! ## What the tracker reads -/

/-- While the table is missing nothing counts as applied. -/
theorem isApplied_of_missing (states : RunStates) (name : MigrationName)
    (missing : ¬ host.Tracked (host.committed db)) :
    ((Tracker.isApplied table name).hold answering states db).1 = .ok false ∧
      host.Idle (host.committed db)
        ((Tracker.isApplied table name).hold answering states db).2 := by
  obtain ⟨accepted, idle⟩ := host.connects states db
  rw [← idle.visible_eq] at missing
  obtain ⟨message, refused⟩ := host.misses_count states [.text name.text] missing
  rw [Tracker.isApplied, Session.hold_call_bind, accepted]
  dsimp only [Tracker.countSql]
  rw [Session.hold_call_bind, refused]
  exact ⟨rfl, idle.of_same (host.counts _ _ _ _)⟩

/-- While the table is missing there are no records. -/
theorem appliedRecords_of_missing (missing : ¬ host.Tracked (host.committed db)) :
    ((Tracker.appliedRecords table).hold answering states db).1 = .ok [] := by
  obtain ⟨accepted, idle⟩ := host.connects states db
  rw [← idle.visible_eq] at missing
  obtain ⟨message, refused⟩ := host.misses_rows states [] missing
  rw [Tracker.appliedRecords, Session.hold_call_bind, accepted]
  dsimp only [Tracker.listSql]
  rw [Session.hold_call_bind, refused]
  rfl

/-- A session that only reads commits nothing. -/
theorem committed_of_reads {session : Session α}
    (reads : ∀ exchange ∈ session.exchanges answering states db, exchange.call.Reads) :
    host.committed (session.hold answering states db).2 = host.committed db := by
  refine Session.hold_preserves (I := fun after => host.committed after = host.committed db)
    ?_ reads rfl
  intro states after call reads kept
  cases call with
  | connect => exact (host.connects states after).2.committed_eq.trans kept
  | count sql parameters => exact (host.counts states after sql parameters).committed_eq.trans kept
  | rows sql parameters => exact (host.lists states after sql parameters).committed_eq.trans kept
  | batch | execute => exact reads.elim

/-- A record is inserted only if the table is there, and commits nothing. -/
theorem recordApplied_cases (states : RunStates) (name : MigrationName)
    (within : host.Within contents db) :
    host.Within contents ((Tracker.recordApplied table name).hold answering states db).2 ∧
      ((((Tracker.recordApplied table name).hold answering states db).1 = .ok () ∧
          host.Tracked (host.visible db)) ∨
        ∃ error, ((Tracker.recordApplied table name).hold answering states db).1 = .error error ∧
          (¬ host.Tracked (host.visible db) → ∃ message, error = .tableNotFound message)) := by
  have inserted := host.inserts states (Tracker.insertSql table)
    [.freshId, .text name.text, .now] within
  rw [Tracker.recordApplied, Session.hold_call_bind]
  cases answer : (answering states db
      (.execute (Tracker.insertSql table) [.freshId, .text name.text, .now])).1 with
  | error error =>
      refine ⟨inserted, .inr ⟨error, rfl, fun missing => ?_⟩⟩
      obtain ⟨message, refused⟩ :=
        host.misses_insert states [.freshId, .text name.text, .now] missing
      exact ⟨message, Except.error.inj (answer.symm.trans refused)⟩
  | ok count =>
      refine ⟨inserted, .inl ⟨rfl, by_contra fun missing => ?_⟩⟩
      obtain ⟨message, refused⟩ :=
        host.misses_insert states [.freshId, .text name.text, .now] missing
      cases answer.symm.trans refused

/-! ## Transactions -/

/-- A transaction opens on an idle connection. -/
theorem begin_of_idle (states : RunStates) (idle : host.Idle contents db) :
    (Transaction.begin.hold answering states db).1 = .ok () ∧
      host.Begun contents (Transaction.begin.hold answering states db).2 := by
  obtain ⟨accepted, begun⟩ := host.begins states idle
  rw [Transaction.begin, Session.hold_call_bind, accepted]
  exact ⟨rfl, begun⟩

/-- A transaction whose body fails leaves what was committed before. -/
theorem close_of_error {failure : DbError → ε} {ending : Ending} {error : ε}
    (within : host.Within contents db) :
    ((Transaction.close (α := α) failure ending (.error error)).hold answering states db).1 =
        .error error ∧
      host.Idle contents
        ((Transaction.close (α := α) failure ending (.error error)).hold answering states db).2 :=
  ⟨rfl, (host.rolls states within).2⟩

/-- A transaction whose body succeeds can be committed. -/
theorem close_of_ok (states : RunStates) (failure : DbError → ε) (value : α)
    (within : host.Within contents db) :
    ((Transaction.close failure .commit (.ok value)).hold answering states db).1 = .ok value ∧
      host.Idle (host.visible db)
        ((Transaction.close failure .commit (.ok value)).hold answering states db).2 := by
  obtain ⟨accepted, idle⟩ := host.commits states within
  rw [Transaction.close, Transaction.commit, Session.bind_assoc, Session.hold_call_bind, accepted]
  exact ⟨rfl, idle⟩

/-- A transaction is its opening, its body and its ending. -/
theorem hold_scope {failure : DbError → ε} {ending : Ending} {body : Session (Except ε α)}
    (silent : body.Silent) (idle : host.Idle contents db) :
    (Transaction.scope failure ending body).hold answering states db =
      (Transaction.close failure ending
          (body.hold answering states (Transaction.begin.hold answering states db).2).1).hold
        answering states
        (body.hold answering states (Transaction.begin.hold answering states db).2).2 := by
  rw [Transaction.scope_eq, Transaction.silent_begin.hold_bind, (host.begin_of_idle states idle).1]
  exact silent.hold_bind

/-! ## Operations that run nothing -/

/-- The required tables are asked in a transaction, which commits nothing. -/
theorem committed_of_validate (tables : List String) :
    host.committed ((Validation.validate tables).hold answering states db).2 =
      host.committed db := by
  obtain ⟨accepted, idle⟩ := host.connects states db
  have begun := (host.begin_of_idle states idle).2
  have asks : Session.Asks (fun call => ∃ sql parameters, call = .count sql parameters)
      (Validation.allAnswer tables) :=
    Validation.asks_allAnswer fun table _ => ⟨_, _, rfl⟩
  have counted : host.Begun (host.committed db) ((Validation.allAnswer tables).hold answering
      states (Transaction.begin.hold answering states (answering states db .connect).2).2).2 := by
    refine asks.hold_preserves ?_ begun
    rintro states after _ ⟨sql, parameters, rfl⟩ begun
    exact begun.of_same (host.counts states after sql parameters)
  rw [Validation.validate, Session.hold_call_bind, accepted]
  dsimp only
  have silent : (do return .ok (← Validation.allAnswer tables) :
      Session (Except Failure Bool)).Silent :=
    (Validation.silent_allAnswer tables).bind fun _ => Session.silent_pure _
  rw [(Transaction.silent_scope silent).hold_bind, host.hold_scope silent idle,
    Session.hold_bind_pure]
  obtain ⟨returns, closed⟩ :=
    host.close_of_ok states (fun _ => Failure.tablesMissing) _ counted.toWithin
  rw [returns]
  have kept := closed.committed_eq.trans counted.visible_eq
  generalize (Session.hold answering states _ (Validation.allAnswer tables)).1 = answers at kept ⊢
  cases answers with
  | true => exact kept
  | false => exact kept

/-- An operation that runs nothing commits nothing. -/
theorem committed_of_inquiry {α : Type} {session : Session α}
    (inquiry : runner.Inquiry states session) :
    host.committed (session.hold answering states db).2 = host.committed db := by
  cases inquiry with
  | validate => exact host.committed_of_validate _
  | status =>
      exact host.committed_of_reads
        (Runner.reads_of_status (Session.dialogue_exchanges answering _ states db))
  | isApplied name =>
      exact host.committed_of_reads (Runner.dialogue_isApplied_iff.mp
        (Session.dialogue_exchanges answering _ states db)).reads
  | appliedRecords =>
      exact host.committed_of_reads
        (Tracker.reads_of_appliedRecords (Session.dialogue_exchanges answering _ states db))

end Host

end MigrationLedger
