/-
# What an attempt does to the tracking rows

On a recording database that never refuses a rollback, a check changes nothing and
an attempt adds one row or none. It adds one when it succeeds, and also in one case
in which it fails: its statements ended the transaction, so that the row was
committed at once, and the commit was refused afterwards. Every attempt leaves the
database with nothing uncommitted and no transaction open.
-/

import MigrationLedger.Proofs.Recording.Refusal
import MigrationLedger.Proofs.Runner.Protocol

namespace MigrationLedger

/-- The migration that a failure is about, a failed connection included. -/
def Failure.subject? : Failure → Option MigrationName
  | .connection (.applying name) _ | .connection (.checking name) _ => some name
  | failure => failure.migration?

/-- The failure says that the commit for a migration was refused. -/
def Failure.RefusedCommit (failure : Failure) (name : MigrationName) : Prop :=
  ∃ error, failure = .transaction name (Transaction.commitError error)

theorem Transaction.beginError_ne_commitError (first second : DbError) :
    beginError first ≠ commitError second := by
  intro same
  have texts := congrArg String.toList (DbError.transaction.inj same)
  simp [String.toList_append] at texts

/-- A row bears the name. -/
def recorded (rows : List RecordedRow) (name : MigrationName) : Bool :=
  rows.any fun row => row.name == name.text

theorem recorded_iff {rows : List RecordedRow} {name : MigrationName} :
    recorded rows name = true ↔ ∃ row ∈ rows, row.name = name.text := by
  simp [recorded]

theorem recorded_append (first second : List RecordedRow) (name : MigrationName) :
    recorded (first ++ second) name = (recorded first name || recorded second name) := by
  simp [recorded]

namespace Runner

open Recording (Leads Holds openAfter)

variable {runner : Runner} {migration : Migration} {name : MigrationName}
  {refusals : Refusals} {before after : Recording} {exchanged : List Exchange}
  {committed uncommitted : List RecordedRow} {open? : Bool}

/-! ## The statements that are sent -/

/-- Statements as they are sent, up to the first that cannot be qualified. -/
def qualifiedStatements (runner : Runner) : List String → List String
  | [] => []
  | statement :: rest =>
    match runner.qualify statement with
    | .ok sql => sql :: runner.qualifiedStatements rest
    | .error _ => []

/-- The statements of a migration as they are sent. -/
def sentStatements (runner : Runner) (migration : Migration) : List String :=
  runner.qualifiedStatements (runner.ownStatements migration)

/-- Whether the statements of a migration leave a transaction open that was open
before them. -/
def leavesOpen (runner : Runner) (migration : Migration) : Bool :=
  (runner.sentStatements migration).foldl openAfter true

/-- No statement of the migration, as it is sent, ends a transaction. -/
def EndsNoTransaction (runner : Runner) (migration : Migration) : Prop :=
  ∀ sql ∈ runner.sentStatements migration, sql ≠ "COMMIT" ∧ sql ≠ "ROLLBACK"

theorem foldl_openAfter_of_ne {statements : List String}
    (h : ∀ sql ∈ statements, sql ≠ "COMMIT" ∧ sql ≠ "ROLLBACK") :
    statements.foldl openAfter true = true := by
  induction statements with
  | nil => rfl
  | cons sql rest ih =>
      obtain ⟨commits, rolls⟩ := h sql List.mem_cons_self
      have still : openAfter true sql = true := by simp [openAfter, commits, rolls]
      rw [List.foldl_cons, still]
      exact ih fun other later => h other (List.mem_cons_of_mem _ later)

theorem EndsNoTransaction.leavesOpen (h : runner.EndsNoTransaction migration) :
    runner.leavesOpen migration = true :=
  foldl_openAfter_of_ne h

/-- A migration that only asks for something. -/
def asking : Migration := ⟨scriptName, "SELECT 1"⟩

theorem statementsOf_asking : (single asking).statementsOf asking = ["SELECT 1"] := by
  rw [statementsOf, if_neg (by decide)]
  change Sql.Script.statements "SELECT 1" ";" = ["SELECT 1"]
  cbv

theorem endsNoTransaction_asking : (single asking).EndsNoTransaction asking := by
  rw [EndsNoTransaction, sentStatements, ← statementsOf_eq, statementsOf_asking]
  decide

/-- Statements that are all carried out have all been sent and accepted. -/
theorem eq_of_carried_statements {statements : List String} {number : Nat}
    (carried : Carried ((statements.zipIdx number).map (runner.statementStep name))
      exchanged (.ok ())) :
    exchanged =
      (runner.qualifiedStatements statements).map fun sql => ⟨.batch sql, .ok ()⟩ := by
  induction statements generalizing number exchanged with
  | nil => exact (carried_nil_iff.mp carried).1
  | cons statement rest ih =>
      rcases carried_statements_cons_iff.mp carried with
        ⟨_, _, _, same⟩ | ⟨sql, qualified, ⟨_, _, same⟩ | ⟨later, rfl, carriedRest⟩⟩
      · cases same
      · cases same
      · rw [qualifiedStatements, qualified, ih carriedRest]
        rfl

/-- A failure of the statements names a statement. -/
theorem failure_of_carried_statements {statements : List String} {number : Nat}
    {failure : Failure}
    (carried : Carried ((statements.zipIdx number).map (runner.statementStep name))
      exchanged (.error failure)) :
    (∃ number cause, failure = .execution name number cause) ∨
      ∃ number cause, failure = .qualify name number cause := by
  induction statements generalizing number exchanged with
  | nil => cases carried
  | cons statement rest ih =>
      rcases carried_statements_cons_iff.mp carried with
        ⟨cause, _, _, same⟩ | ⟨_, _, ⟨error, _, same⟩ | ⟨_, _, carriedRest⟩⟩
      · exact .inr ⟨number, cause, Except.error.inj same⟩
      · exact .inl ⟨number, error, Except.error.inj same⟩
      · exact ih carriedRest

/-- Statements commit nothing while nothing waits to be committed. All of them
together open or end a transaction as the last one of them that does. -/
theorem holds_of_carried_statements {statements : List String} {number : Nat}
    {outcome : Except Failure Unit}
    (carried : Carried ((statements.zipIdx number).map (runner.statementStep name))
      exchanged outcome)
    (leads : Leads refusals before exchanged after) (h : before.Holds committed [] open?) :
    ∃ now, after.Holds committed [] now ∧
      (outcome = .ok () → now = (runner.qualifiedStatements statements).foldl openAfter open?) := by
  induction statements generalizing number exchanged before open? with
  | nil =>
      obtain ⟨rfl, rfl⟩ := carried_nil_iff.mp carried
      cases leads
      exact ⟨open?, h, fun _ => rfl⟩
  | cons statement rest ih =>
      rcases carried_statements_cons_iff.mp carried with
        ⟨_, _, rfl, rfl⟩ | ⟨sql, qualified, ⟨error, rfl, rfl⟩ | ⟨later, rfl, carriedRest⟩⟩
      · cases leads
        exact ⟨open?, h, fun same => by cases same⟩
      · obtain ⟨_, middle, holds, rest⟩ := Recording.leads_refused leads h
        cases rest
        exact ⟨open?, holds, fun same => by cases same⟩
      · obtain ⟨_, rest⟩ := Recording.leads_accepted leads
        rw [qualifiedStatements, qualified]
        exact ih carriedRest rest ((h.note _).execute sql)

/-! ## An attempt -/

/-- An attempt that ended so has left a row: it succeeded, or its statements had
ended the transaction and the commit was refused. -/
def Records (runner : Runner) (migration : Migration) (outcome : Except Failure Unit) : Prop :=
  outcome = .ok () ∨ ∃ failure, outcome = .error failure ∧
    failure.RefusedCommit migration.name ∧ runner.leavesOpen migration = false

theorem records_error_iff {failure : Failure} :
    runner.Records migration (.error failure) ↔
      failure.RefusedCommit migration.name ∧ runner.leavesOpen migration = false := by
  constructor
  · rintro (same | ⟨_, same, left⟩)
    · cases same
    · cases same
      exact left
  · exact fun left => .inr ⟨failure, rfl, left⟩

theorem not_records_of_not_refusedCommit {failure : Failure}
    (other : ¬ failure.RefusedCommit migration.name) :
    ¬ runner.Records migration (.error failure) :=
  fun records => other (records_error_iff.mp records).1

/-- A failure to open the transaction leaves everything as it was. -/
theorem holds_of_unopened {failure : Failure}
    (carried : Carried (opening name) exchanged (.error failure))
    (leads : Leads refusals before exchanged after)
    (h : before.Holds committed uncommitted open?) :
    after.Holds committed uncommitted open? ∧ ¬ failure.RefusedCommit name := by
  rcases carried_opening_error_iff.mp carried with ⟨error, rfl, rfl⟩ | ⟨error, rfl, rfl⟩
  · obtain ⟨_, middle, holds, rest⟩ := Recording.leads_refused leads h
    cases rest
    refine ⟨holds, ?_⟩
    rintro ⟨_, ⟨⟩⟩
  · obtain ⟨_, rest⟩ := Recording.leads_accepted leads
    obtain ⟨_, middle, holds, rest⟩ := Recording.leads_refused rest (h.note _)
    cases rest
    refine ⟨holds, ?_⟩
    rintro ⟨other, same⟩
    exact Transaction.beginError_ne_commitError error other (Failure.transaction.inj same).2

/-- Opening succeeds with a transaction open. -/
theorem holds_of_opened {later : List Exchange}
    (carried : Carried (opening name) exchanged (.ok ()))
    (leads : Leads refusals before (exchanged ++ later) after)
    (h : before.Holds committed uncommitted open?) :
    ∃ middle, middle.Holds committed uncommitted true ∧ Leads refusals middle later after := by
  obtain rfl := carried_opening_ok_iff.mp carried
  obtain ⟨_, rest⟩ := Recording.leads_accepted leads
  obtain ⟨_, rest⟩ := Recording.leads_accepted rest
  exact ⟨_, ((h.note _).note _).begin, rest⟩

/-- The record of a migration: a row with its name, committed at once unless a
transaction is open. -/
theorem holds_of_inserted {reply : (runner.insertCall name).Reply} {later : List Exchange}
    (leads : Leads refusals before (⟨runner.insertCall name, .ok reply⟩ :: later) after)
    (h : before.Holds committed [] open?) :
    ∃ row : RecordedRow, row.name = name.text ∧ ∃ middle, Leads refusals middle later after ∧
      (open? = true → middle.Holds committed [row] true) ∧
      (open? = false → middle.Holds (committed ++ [row]) [] false) := by
  obtain ⟨_, rest⟩ := Recording.leads_accepted leads
  obtain ⟨row, named, waiting, atOnce⟩ := (h.note (.call (runner.insertCall name))).insert name.text
  exact ⟨row, named, _, rest, waiting, atOnce⟩

/-- What is done within the transaction either ends before a row was inserted, or
inserts a row and ends with the commit. -/
theorem carried_work_iff {outcome : Except Failure Unit} :
    Carried (runner.work migration) exchanged outcome ↔
      (∃ failure, outcome = .error failure ∧
        (Carried (runner.statementSteps migration) exchanged (.error failure) ∨
          ∃ said error, Carried (runner.statementSteps migration) said (.ok ()) ∧
            exchanged = said ++ [⟨runner.insertCall migration.name, .error error⟩] ∧
            failure = .recording migration.name error)) ∨
        ∃ said reply ending, Carried (runner.statementSteps migration) said (.ok ()) ∧
          exchanged = said ++ ⟨runner.insertCall migration.name, .ok reply⟩ :: ending ∧
          Carried [commitStep migration.name] ending outcome := by
  rw [work, carried_append_iff]
  constructor
  · rintro (⟨failure, rfl, carried⟩ | ⟨said, closing, rfl, carried, closed⟩)
    · exact .inl ⟨failure, rfl, .inl carried⟩
    · rcases carried_send_iff.mp closed with ⟨error, rfl, rfl⟩ | ⟨reply, ending, rfl, committed⟩
      · exact .inl ⟨_, rfl, .inr ⟨said, error, carried, rfl, rfl⟩⟩
      · exact .inr ⟨said, reply, ending, carried, rfl, committed⟩
  · rintro (⟨failure, rfl, carried | ⟨said, error, carried, rfl, rfl⟩⟩ |
      ⟨said, reply, ending, carried, rfl, committed⟩)
    · exact .inl ⟨failure, rfl, carried⟩
    · exact .inr ⟨said, _, rfl, carried, .refused error⟩
    · exact .inr ⟨said, _, rfl, carried, .accepted reply committed⟩

/-- The end of the work, once a row waits or is committed already. -/
theorem holds_of_closed {outcome : Except Failure Unit} {row : RecordedRow}
    (closed : Carried [commitStep migration.name] exchanged outcome)
    (leads : Leads refusals before exchanged after)
    (waiting : runner.leavesOpen migration = true → before.Holds committed [row] true)
    (atOnce : runner.leavesOpen migration = false → before.Holds (committed ++ [row]) [] false) :
    (runner.Records migration outcome ∧ after.Holds (committed ++ [row]) [] false) ∨
      (∃ failure, outcome = .error failure) ∧ ¬ runner.Records migration outcome ∧
        after.Holds committed [row] true := by
  cases outcome with
  | ok _ =>
      obtain rfl := carried_commit_ok_iff.mp closed
      obtain ⟨_, rest⟩ := Recording.leads_accepted leads
      cases rest
      refine .inl ⟨.inl rfl, ?_⟩
      cases left : runner.leavesOpen migration with
      | true => exact ((waiting left).note _).commit
      | false =>
          have nothing := ((atOnce left).note (.call (.batch "COMMIT"))).commit
          rwa [List.append_nil] at nothing
  | error failure =>
      obtain ⟨error, rfl, rfl⟩ := carried_commit_error_iff.mp closed
      rw [records_error_iff]
      cases left : runner.leavesOpen migration with
      | true =>
          obtain ⟨_, _, holds, rest⟩ := Recording.leads_refused leads (waiting left)
          cases rest
          exact .inr ⟨⟨_, rfl⟩, by simp, holds⟩
      | false =>
          obtain ⟨_, _, holds, rest⟩ := Recording.leads_refused leads (atOnce left)
          cases rest
          exact .inl ⟨⟨⟨error, rfl⟩, rfl⟩, holds⟩

/-- What is done within the transaction commits a row when it succeeds, and also
when its statements have ended the transaction and the commit is refused. -/
theorem holds_of_work {outcome : Except Failure Unit}
    (carried : Carried (runner.work migration) exchanged outcome)
    (leads : Leads refusals before exchanged after) (h : before.Holds committed [] true) :
    (runner.Records migration outcome ∧ ∃ row : RecordedRow, row.name = migration.name.text ∧
        after.Holds (committed ++ [row]) [] false) ∨
      (∃ failure, outcome = .error failure) ∧ ¬ runner.Records migration outcome ∧
        ∃ uncommitted now, after.Holds committed uncommitted now := by
  rcases carried_work_iff.mp carried with
    ⟨failure, rfl, failed | ⟨said, error, done, rfl, rfl⟩⟩ |
      ⟨said, reply, ending, done, rfl, closed⟩
  · -- A statement failed, so no row was inserted.
    obtain ⟨now, holds, _⟩ := holds_of_carried_statements failed leads h
    refine .inr ⟨⟨failure, rfl⟩, not_records_of_not_refusedCommit ?_, [], now, holds⟩
    rintro ⟨error, rfl⟩
    rcases failure_of_carried_statements failed with ⟨_, _, same⟩ | ⟨_, _, same⟩ <;> cases same
  · -- The row itself was refused.
    obtain ⟨middle, toMiddle, fromMiddle⟩ := Recording.leads_append_iff.mp leads
    obtain ⟨now, holds, _⟩ := holds_of_carried_statements done toMiddle h
    obtain ⟨_, last, holds, rest⟩ := Recording.leads_refused fromMiddle holds
    cases rest
    refine .inr ⟨⟨_, rfl⟩, not_records_of_not_refusedCommit ?_, [], now, holds⟩
    rintro ⟨error, same⟩
    cases same
  · -- A row was inserted: it waits, or it is committed already.
    obtain ⟨middle, toMiddle, fromMiddle⟩ := Recording.leads_append_iff.mp leads
    obtain ⟨now, holds, known⟩ := holds_of_carried_statements done toMiddle h
    obtain rfl : now = runner.leavesOpen migration := known rfl
    obtain ⟨row, named, last, rest, waiting, atOnce⟩ := holds_of_inserted fromMiddle holds
    rcases holds_of_closed closed rest waiting atOnce with
      ⟨records, holds⟩ | ⟨failed, clean, holds⟩
    · exact .inl ⟨records, row, named, holds⟩
    · exact .inr ⟨failed, clean, [row], true, holds⟩

/-- An attempt ends with nothing uncommitted and no transaction open. It commits
one row or none. Only an attempt that fails needs its rollback. -/
theorem holds_of_attempt {outcome : Except Failure Unit}
    (spares : outcome = .ok () ∨ refusals.SparesRollback)
    (attempt : runner.Attempt migration exchanged outcome)
    (leads : Leads refusals before exchanged after) (h : before.Holds committed [] false) :
    (runner.Records migration outcome ∧ ∃ row : RecordedRow, row.name = migration.name.text ∧
        after.Holds (committed ++ [row]) [] false) ∨
      (∃ failure, outcome = .error failure) ∧ ¬ runner.Records migration outcome ∧
        after.Holds committed [] false := by
  cases attempt with
  | completed carried =>
      rcases carried_append_iff.mp carried with ⟨_, same, _⟩ | ⟨opened, worked, rfl, opens, carried⟩
      · cases same
      · obtain ⟨middle, holds, rest⟩ := holds_of_opened opens leads h
        rcases holds_of_work carried rest holds with recorded | ⟨⟨_, same⟩, _⟩
        · exact .inl recorded
        · cases same
  | unopened carried =>
      obtain ⟨holds, other⟩ := holds_of_unopened carried leads h
      exact .inr ⟨⟨_, rfl⟩, not_records_of_not_refusedCommit other, holds⟩
  | undone opens failed answer =>
      have spares := spares.resolve_left (fun same => by cases same)
      rw [List.append_assoc] at leads
      obtain ⟨middle, holds, rest⟩ := holds_of_opened opens leads h
      obtain ⟨last, toLast, fromLast⟩ := Recording.leads_append_iff.mp rest
      rcases holds_of_work failed toLast holds with
        ⟨records, row, named, holds⟩ | ⟨_, clean, _, _, holds⟩
      · obtain ⟨_, holds, rest⟩ := Recording.leads_rollback spares fromLast holds
        cases rest
        exact .inl ⟨records, row, named, holds⟩
      · obtain ⟨_, holds, rest⟩ := Recording.leads_rollback spares fromLast holds
        cases rest
        exact .inr ⟨⟨_, rfl⟩, clean, holds⟩

/-! ## A check -/

theorem Check.reads {outcome : Except Failure Bool} (check : runner.Check name exchanged outcome) :
    ∀ exchange ∈ exchanged, exchange.call.Reads := by
  cases check <;> simp [countCall, Call.Reads]

/-- A check that finds a migration applied has counted a row with its name, and one
that finds it not applied has counted none, unless the count was refused for want
of a table. -/
theorem recorded_of_check {found : Bool} (check : runner.Check name exchanged (.ok found))
    (leads : Leads refusals before exchanged after) (h : before.Holds committed uncommitted open?) :
    (found = true → recorded committed name = true) ∧
      (refusals.MissesOnlyUnrecorded → found = recorded committed name) := by
  generalize ended : Except.ok found = outcome at check
  cases check with
  | unconnected error => cases ended
  | refused error present => cases ended
  | counted count =>
      obtain ⟨_, rest⟩ := Recording.leads_accepted leads
      obtain ⟨counted, _⟩ := Recording.leads_accepted rest
      have counts : count = (committed.countP fun row => row.name == name.text : Nat) := by
        rw [counted, ← h.committed_eq]
        rfl
      have agree : decide (0 < count) = recorded committed name := by
        rw [counts, recorded, Bool.eq_iff_iff, decide_eq_true_iff, List.any_eq_true]
        simp
      obtain rfl := Except.ok.inj ended
      exact ⟨fun found => agree ▸ found, fun _ => agree⟩
  | untracked error missing =>
      obtain rfl := Except.ok.inj ended
      refine ⟨fun same => absurd same Bool.false_ne_true, fun honest => ?_⟩
      obtain ⟨_, rest⟩ := Recording.leads_accepted leads
      have unseen := (Recording.leads_refused rest (h.note (.call .connect))).1
      have none := honest _ _ _ _ unseen missing
      rw [eq_comm, recorded, List.any_eq_false]
      intro row present same
      apply none row _ (beq_iff_eq.mp same)
      change row ∈ before.committed
      rwa [h.committed_eq]

end Runner

end MigrationLedger
