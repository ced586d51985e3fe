/-
# The record and the statements of a migration

A record is inserted on the connection on which the statements of its migration
were sent, after every one of them was accepted. The transaction that was opened
for the migration need not be open any more by then: a script may say `COMMIT` or
`ROLLBACK` itself, and nothing keeps it from doing so. The record is then committed
at once, and a refused commit does not take it back.

The main statement gives the exact conditions. The record and the statements share
a transaction when no statement, as it is sent, ends one. A failing run leaves a
record for the migration it fails at when the commit is refused and the statements
left no transaction open, and in no other case.
-/

import MigrationLedger.Proofs.Runner.Progress

namespace MigrationLedger

/-- The exchange asks for the insertion of a row. -/
def Exchange.Inserts (exchange : Exchange) : Prop :=
  ∃ sql parameters, exchange.call = .execute sql parameters

namespace Runner

open Recording (Leads Holds openAfter)

variable {runner : Runner} {migration : Migration} {name : MigrationName}
  {refusals : Refusals} {before after db : Recording} {states : RunStates}
  {exchanged earlier later : List Exchange} {record : Exchange}
  {migrations : List Migration} {ignored : List MigrationName} {course : Course}

/-! ## What precedes a record -/

/-- A place in two lists that follow each other is a place in one of them. -/
theorem split_append {α : Type} {first second front back : List α} {x : α}
    (split : first ++ second = front ++ x :: back) :
    (∃ between, first = front ++ x :: between ∧ back = between ++ second) ∨
      ∃ between, front = first ++ between ∧ second = between ++ x :: back := by
  rcases List.append_eq_append_iff.mp split with ⟨between, rfl, rest⟩ | ⟨between, rfl, rest⟩
  · exact .inr ⟨between, rfl, rest⟩
  · cases between with
    | nil => exact .inr ⟨[], by simp, rest.symm⟩
    | cons y between =>
        obtain ⟨rfl, rfl⟩ := List.cons.inj rest
        exact .inl ⟨between, rfl, rfl⟩

/-- The last element of a kind is found in one way only. -/
theorem back_eq_of_split {α : Type} {P : α → Prop} {first second front back : List α} {x y : α}
    (split : first ++ x :: second = front ++ y :: back) (hx : P x) (hy : P y)
    (atSecond : ∀ z ∈ second, ¬ P z) (atBack : ∀ z ∈ back, ¬ P z) : second = back := by
  rcases split_append split with ⟨between, _, rfl⟩ | ⟨between, _, rest⟩
  · exact absurd hx (atBack x (by simp))
  · cases between with
    | nil => exact (List.cons.inj rest).2
    | cons z between =>
        obtain ⟨_, rfl⟩ := List.cons.inj rest
        exact absurd hy (atSecond y (by simp))

/-- Nothing is inserted. -/
def InsertsNothing (exchanged : List Exchange) : Prop :=
  ∀ exchange ∈ exchanged, ¬ exchange.Inserts

@[simp]
theorem insertsNothing_nil : InsertsNothing [] := by simp [InsertsNothing]

@[simp]
theorem insertsNothing_cons_iff {exchange : Exchange} :
    InsertsNothing (exchange :: exchanged) ↔ ¬ exchange.Inserts ∧ InsertsNothing exchanged := by
  simp [InsertsNothing]

/-- No place in such a list is one where something is inserted. -/
theorem InsertsNothing.ne_split (nothing : InsertsNothing exchanged) (inserts : record.Inserts) :
    exchanged ≠ earlier ++ record :: later := by
  rintro rfl
  exact nothing record (by simp) inserts

/-- An accepted connection and the accepted opening of a transaction on it. -/
def begun : List Exchange := [⟨.connect, .ok ()⟩, ⟨.batch "BEGIN TRANSACTION", .ok ()⟩]

/-- The statements of a migration, sent and accepted. -/
def saidStatements (runner : Runner) (migration : Migration) : List Exchange :=
  (runner.sentStatements migration).map fun sql => ⟨.batch sql, .ok ()⟩

theorem insertsNothing_of_opening {outcome : Except Failure Unit}
    (carried : Carried (opening name) exchanged outcome) : InsertsNothing exchanged := by
  cases outcome with
  | ok _ =>
      obtain rfl := carried_opening_ok_iff.mp carried
      simp [Exchange.Inserts]
  | error failure =>
      rcases carried_opening_error_iff.mp carried with ⟨_, rfl, _⟩ | ⟨_, rfl, _⟩ <;>
        simp [Exchange.Inserts]

theorem insertsNothing_of_statements {statements : List String} {number : Nat}
    {outcome : Except Failure Unit}
    (carried : Carried ((statements.zipIdx number).map (runner.statementStep name))
      exchanged outcome) : InsertsNothing exchanged := by
  induction statements generalizing number exchanged with
  | nil =>
      obtain ⟨rfl, _⟩ := carried_nil_iff.mp carried
      simp
  | cons statement rest ih =>
      rcases carried_statements_cons_iff.mp carried with
        ⟨_, _, rfl, _⟩ | ⟨_, _, ⟨_, rfl, _⟩ | ⟨later, rfl, carriedRest⟩⟩
      · exact insertsNothing_nil
      · simp [Exchange.Inserts]
      · exact insertsNothing_cons_iff.mpr ⟨by simp [Exchange.Inserts], ih carriedRest⟩

theorem insertsNothing_of_commit {outcome : Except Failure Unit}
    (carried : Carried [commitStep name] exchanged outcome) : InsertsNothing exchanged := by
  cases outcome with
  | ok _ =>
      obtain rfl := carried_commit_ok_iff.mp carried
      simp [Exchange.Inserts]
  | error failure =>
      obtain ⟨_, rfl, _⟩ := carried_commit_error_iff.mp carried
      simp [Exchange.Inserts]

theorem insertsNothing_of_check {outcome : Except Failure Bool}
    (check : runner.Check name exchanged outcome) : InsertsNothing exchanged := by
  cases check <;> simp [Exchange.Inserts, countCall]

/-- The only insertion is the record, and all statements come before it. -/
theorem before_record_of_statements {said ending : List Exchange}
    {answer : (runner.insertCall migration.name).Answer}
    (done : Carried (runner.statementSteps migration) said (.ok ()))
    (afterwards : InsertsNothing ending)
    (split : said ++ ⟨runner.insertCall migration.name, answer⟩ :: ending =
      earlier ++ record :: later)
    (inserts : record.Inserts) :
    record.call = runner.insertCall migration.name ∧ earlier = runner.saidStatements migration := by
  rcases split_append split with ⟨between, within, _⟩ | ⟨between, rfl, rest⟩
  · exact absurd within ((insertsNothing_of_statements done).ne_split inserts)
  · cases between with
    | nil =>
        obtain ⟨rfl, _⟩ := List.cons.inj rest
        rw [List.append_nil]
        exact ⟨rfl, eq_of_carried_statements done⟩
    | cons first between =>
        obtain ⟨_, rfl⟩ := List.cons.inj rest
        exact absurd rfl (afterwards.ne_split inserts)

theorem before_record_of_work {outcome : Except Failure Unit}
    (carried : Carried (runner.work migration) exchanged outcome)
    (split : exchanged = earlier ++ record :: later) (inserts : record.Inserts) :
    record.call = runner.insertCall migration.name ∧ earlier = runner.saidStatements migration := by
  rcases carried_work_iff.mp carried with
    ⟨failure, _, failed | ⟨said, error, done, rfl, _⟩⟩ | ⟨said, reply, ending, done, rfl, closed⟩
  · exact absurd split ((insertsNothing_of_statements failed).ne_split inserts)
  · exact before_record_of_statements done (by simp) split inserts
  · exact before_record_of_statements done (insertsNothing_of_commit closed) split inserts

theorem before_record_of_opened {opened worked : List Exchange} {outcome : Except Failure Unit}
    (opens : Carried (opening migration.name) opened (.ok ()))
    (carried : Carried (runner.work migration) worked outcome)
    (split : opened ++ worked = earlier ++ record :: later) (inserts : record.Inserts) :
    record.call = runner.insertCall migration.name ∧
      earlier = begun ++ runner.saidStatements migration := by
  rcases split_append split with ⟨between, within, _⟩ | ⟨between, rfl, rest⟩
  · exact absurd within ((insertsNothing_of_opening opens).ne_split inserts)
  · obtain rfl := carried_opening_ok_iff.mp opens
    obtain ⟨same, rfl⟩ := before_record_of_work carried rest inserts
    exact ⟨same, rfl⟩

theorem Attempt.before_record {outcome : Except Failure Unit}
    (attempt : runner.Attempt migration exchanged outcome)
    (split : exchanged = earlier ++ record :: later) (inserts : record.Inserts) :
    record.call = runner.insertCall migration.name ∧
      earlier = begun ++ runner.saidStatements migration := by
  cases attempt with
  | completed carried =>
      rcases carried_append_iff.mp carried with ⟨_, same, _⟩ | ⟨_, _, rfl, opens, worked⟩
      · cases same
      · exact before_record_of_opened opens worked split inserts
  | unopened carried =>
      exact absurd split ((insertsNothing_of_opening carried).ne_split inserts)
  | undone opens failed answer =>
      rcases split_append split with ⟨_, within, _⟩ | ⟨_, _, rest⟩
      · exact before_record_of_opened opens failed within inserts
      · have rollback : InsertsNothing [⟨.batch "ROLLBACK", answer⟩] := by simp [Exchange.Inserts]
        exact absurd rest (rollback.ne_split inserts)

/-- Whatever a run inserts is the record of one of its migrations. What it said just
before is that it opened a connection and a transaction, and the statements of the
migration. -/
theorem Round.before_record (round : runner.Round migrations exchanged course)
    (split : exchanged = earlier ++ record :: later) (inserts : record.Inserts) :
    ∃ migration ∈ migrations, record.call = runner.insertCall migration.name ∧
      ∃ previous, earlier = previous ++ (begun ++ runner.saidStatements migration) := by
  induction round generalizing earlier later with
  | finished =>
      simp at split
  | @skipped migration rest checked said course check round ih =>
      rcases split_append split with ⟨between, within, _⟩ | ⟨between, rfl, rest⟩
      · exact absurd within ((insertsNothing_of_check check).ne_split inserts)
      · obtain ⟨found, member, same, previous, rfl⟩ := ih rest
        exact ⟨found, List.mem_cons_of_mem _ member, same, checked ++ previous, by simp⟩
  | @applied migration rest checked attempted said course check attempt round ih =>
      rcases split_append split with ⟨between, within, _⟩ | ⟨between, rfl, rest⟩
      · rcases split_append within with ⟨_, within, _⟩ | ⟨between, rfl, rest⟩
        · exact absurd within ((insertsNothing_of_check check).ne_split inserts)
        · obtain ⟨same, rfl⟩ := attempt.before_record rest inserts
          exact ⟨migration, List.mem_cons_self, same, checked, rfl⟩
      · obtain ⟨found, member, same, previous, rfl⟩ := ih rest
        exact ⟨found, List.mem_cons_of_mem _ member, same, checked ++ attempted ++ previous,
          by simp⟩
  | @unchecked migration rest checked failure check =>
      exact absurd split ((insertsNothing_of_check check).ne_split inserts)
  | @failed migration rest checked attempted failure check attempt =>
      rcases split_append split with ⟨between, within, _⟩ | ⟨between, rfl, rest⟩
      · exact absurd within ((insertsNothing_of_check check).ne_split inserts)
      · obtain ⟨same, rfl⟩ := attempt.before_record rest inserts
        exact ⟨migration, List.mem_cons_self, same, checked, rfl⟩

/-! ## The transaction at the record -/

/-- The transaction that was opened on the newest connection is still open: neither
a commit nor a rollback was accepted since. -/
def OwnTransactionOpen (exchanged : List Exchange) : Prop :=
  ∃ previous since, exchanged = previous ++ (begun ++ since) ∧ ∀ exchange ∈ since,
    exchange.call ≠ .connect ∧ exchange ≠ ⟨.batch "COMMIT", .ok ()⟩ ∧
      exchange ≠ ⟨.batch "ROLLBACK", .ok ()⟩

theorem call_ne_connect_of_said {exchange : Exchange}
    (member : exchange ∈ runner.saidStatements migration) : exchange.call ≠ .connect := by
  obtain ⟨sql, _, rfl⟩ := List.mem_map.mp member
  simp

/-- The newest connection is found in one way only. -/
theorem since_eq_of_begun {previous front since : List Exchange}
    (split : front ++ (begun ++ runner.saidStatements migration) = previous ++ (begun ++ since))
    (quiet : ∀ exchange ∈ since, exchange.call ≠ .connect) :
    since = runner.saidStatements migration := by
  have quietly : ∀ exchange ∈ (⟨.batch "BEGIN TRANSACTION", .ok ()⟩ : Exchange) :: since,
      ¬ exchange.call = .connect := by simpa using quiet
  have same := back_eq_of_split (P := fun exchange : Exchange => exchange.call = .connect)
    split rfl rfl (by simpa using fun exchange => call_ne_connect_of_said) quietly
  exact (List.cons.inj same).2.symm

/-- After the statements of a migration the transaction opened for it is still open
exactly when none of them has ended it. -/
theorem ownTransactionOpen_iff {previous : List Exchange} :
    OwnTransactionOpen (previous ++ (begun ++ runner.saidStatements migration)) ↔
      runner.EndsNoTransaction migration := by
  constructor
  · rintro ⟨front, since, split, quiet⟩ sql sent
    have same := since_eq_of_begun split fun exchange member => (quiet exchange member).1
    have said : ⟨.batch sql, .ok ()⟩ ∈ since := by
      rw [same]
      exact List.mem_map_of_mem sent
    obtain ⟨_, commits, rolls⟩ := quiet _ said
    exact ⟨fun same => commits (by rw [same]), fun same => rolls (by rw [same])⟩
  · intro quiet
    refine ⟨previous, _, rfl, fun exchange member => ⟨call_ne_connect_of_said member, ?_⟩⟩
    obtain ⟨sql, sent, rfl⟩ := List.mem_map.mp member
    obtain ⟨commits, rolls⟩ := quiet sql sent
    constructor
    · rintro ⟨⟩
      exact commits rfl
    · rintro ⟨⟩
      exact rolls rfl

/-- Accepted statements leave a transaction open or not, one after another. -/
theorem inTransaction_of_said {statements : List String}
    (leads : Leads refusals before
      (statements.map fun sql => (⟨.batch sql, .ok ()⟩ : Exchange)) after) :
    after.inTransaction = statements.foldl openAfter before.inTransaction := by
  induction statements generalizing before with
  | nil =>
      cases leads
      rfl
  | cons sql rest ih =>
      obtain ⟨_, later⟩ := Recording.leads_accepted leads
      rw [ih later, List.foldl_cons]
      exact congrArg (rest.foldl openAfter) (Recording.inTransaction_execute _ sql)

/-- What the database holds open where a record is inserted. -/
theorem inTransaction_at_record {previous : List Exchange}
    (leads : Leads refusals before
      (previous ++ (begun ++ runner.saidStatements migration)) after) :
    after.inTransaction = runner.leavesOpen migration := by
  obtain ⟨middle, _, rest⟩ := Recording.leads_append_iff.mp leads
  obtain ⟨_, rest⟩ := Recording.leads_accepted rest
  obtain ⟨_, rest⟩ := Recording.leads_accepted rest
  rw [inTransaction_of_said rest]
  rfl

/-! ## The row of a migration that fails -/

/-- The number of rows that bear the name. -/
def recordCount (rows : List RecordedRow) (name : MigrationName) : Nat :=
  rows.countP fun row => row.name == name.text

/-- A run that stops adds a row for the migration it stops at exactly when the
attempt left one. -/
theorem Progress.recordCount_of_stop {honest : Prop} {rows added leaked : List RecordedRow}
    {settled rest : List Migration}
    (progress : Progress runner honest rows course settled rest added leaked)
    (ascending : (settled ++ rest).Pairwise Migration.Before) {stop : Stop}
    (stopped : course.stop = some stop) :
    ∃ migration ∈ settled ++ rest, stop.name = migration.name ∧
      (runner.Records migration (.error stop.failure) →
        recordCount (rows ++ (added ++ leaked)) migration.name =
          recordCount rows migration.name + 1) ∧
      (¬ runner.Records migration (.error stop.failure) →
        recordCount (rows ++ (added ++ leaked)) migration.name =
          recordCount rows migration.name) := by
  obtain ⟨migration, later, rfl, same, _, outcome⟩ := progress.stopped stop stopped
  have apart := (List.pairwise_append.mp ascending).2.2
  have none_added : recordCount added migration.name = 0 := by
    rw [recordCount, List.countP_eq_zero]
    intro row member named
    have applied : row.name ∈ course.applied.map MigrationName.text := by
      rw [← progress.added_names]
      exact List.mem_map_of_mem member
    obtain ⟨name, applied, text⟩ := List.mem_map.mp applied
    obtain ⟨earlier, settled, rfl⟩ := List.mem_map.mp (progress.applied_sublist.subset applied)
    have before := apart earlier settled migration List.mem_cons_self
    exact ne_of_lt before (text.trans (beq_iff_eq.mp named))
  have counted : recordCount (rows ++ (added ++ leaked)) migration.name =
      recordCount rows migration.name + recordCount leaked migration.name := by
    rw [recordCount, List.countP_append, List.countP_append]
    change _ + (recordCount added _ + _) = _
    rw [none_added, Nat.zero_add]
    rfl
  refine ⟨migration, by simp, same, ?_⟩
  rw [counted]
  rcases outcome with ⟨records, names, _⟩ | ⟨clean, rfl⟩
  · obtain ⟨row, rfl⟩ := List.length_eq_one_iff.mp (by simpa using congrArg List.length names)
    have named : row.name = migration.name.text := by simpa using names
    exact ⟨fun _ => by simp [recordCount, named], fun clean => absurd records clean⟩
  · exact ⟨fun records => absurd records clean, fun _ => rfl⟩

/-! ## Atomicity -/

/-- **Atomicity of a run.** Wherever a run inserts a row, the transaction that it
opened for the migration is still open exactly when no statement of the migration
has ended it, and the database is within a transaction as the statements left it.
A run that fails does so at one of its migrations, and adds a row for it exactly
when the commit was refused while no transaction was open any more. -/
theorem atomicity_of_run (known : runner.recognized = .ok (migrations, ignored))
    (spares : refusals.SparesRollback) (idle : db.inTransaction = false)
    (clean : db.uncommitted = []) (states : RunStates) :
    (∀ earlier record later, runner.saidOn refusals states db = earlier ++ record :: later →
        record.Inserts →
        ∃ migration ∈ migrations, record.call = runner.insertCall migration.name ∧
          (OwnTransactionOpen earlier ↔ runner.EndsNoTransaction migration) ∧
          (db.afterCalls refusals (earlier.map Exchange.call)).inTransaction =
            runner.leavesOpen migration) ∧
      ∀ failure, runner.resultOn refusals states db = .error failure →
        ∃ migration ∈ migrations, failure.subject? = some migration.name ∧
          (failure.RefusedCommit migration.name ∧ runner.leavesOpen migration = false →
            recordCount (runner.afterRun refusals states db).committed migration.name =
              recordCount db.committed migration.name + 1) ∧
          (¬ (failure.RefusedCommit migration.name ∧ runner.leavesOpen migration = false) →
            recordCount (runner.afterRun refusals states db).committed migration.name =
              recordCount db.committed migration.name) := by
  obtain ⟨course, settled, rest, added, leaked, round, returned, leads, rfl, holds, progress⟩ :=
    exists_course known spares states ⟨rfl, clean, idle⟩
  constructor
  · intro earlier record later split inserts
    obtain ⟨migration, member, same, previous, rfl⟩ := round.before_record split inserts
    refine ⟨migration, member, same, ownTransactionOpen_iff, ?_⟩
    rw [split] at leads
    obtain ⟨middle, toMiddle, _⟩ := Recording.leads_append_iff.mp leads
    rw [← toMiddle.eq_afterCalls]
    exact inTransaction_at_record toMiddle
  · intro failure failed
    obtain ⟨stop, stopped, rfl⟩ := exists_stop_of_result (returned.symm.trans failed)
    obtain ⟨migration, member, same, counted⟩ :=
      progress.recordCount_of_stop (pairwise_before_of_recognized known) stopped
    refine ⟨migration, member, ?_, ?_⟩
    · rw [← same]
      exact round.subject? stopped
    · rw [holds.committed_eq, ← records_error_iff]
      exact counted

/-! ## A script that ends its transaction -/

/-- A migration that rolls back by itself. -/
def rollingBack : Migration := ⟨scriptName, "ROLLBACK"⟩

theorem statementsOf_rollingBack :
    (single rollingBack).statementsOf rollingBack = ["ROLLBACK"] := by
  rw [statementsOf, if_neg (by decide)]
  change Sql.Script.statements "ROLLBACK" ";" = ["ROLLBACK"]
  cbv

/-- The migration that rolls back by itself leaves its record, although the run fails
at it. -/
theorem committed_of_rollingBack :
    Refusals.commits.SparesRollback ∧
      (single rollingBack).resultOn .commits [] {} = .error
        (.transaction rollingBack.name (Transaction.commitError (.execution "refused"))) ∧
      ((single rollingBack).afterRun .commits [] {}).committed.map RecordedRow.name =
        [rollingBack.name.text] := by
  have known : (single rollingBack).recognized = .ok ([rollingBack], []) := recognized_single _
  refine ⟨Refusals.commits_sparesRollback, ?_⟩
  rw [resultOn, afterRun, run, known]
  simp only [takeUp, apply, statementsOf_rollingBack]
  exact ⟨rfl, rfl⟩

/-- A refused commit leaves no row of a migration that ends no transaction. -/
theorem recordCount_of_asking :
    Refusals.commits.SparesRollback ∧
      (single asking).resultOn .commits [] {} = .error
        (.transaction asking.name (Transaction.commitError (.execution "refused"))) ∧
      recordCount ((single asking).afterRun .commits [] {}).committed asking.name = 0 := by
  have known : (single asking).recognized = .ok ([asking], []) := recognized_single _
  have failed : (single asking).resultOn .commits [] {} = .error
      (.transaction asking.name (Transaction.commitError (.execution "refused"))) := by
    rw [resultOn, run, known]
    simp only [takeUp, apply, statementsOf_asking]
    rfl
  obtain ⟨migration, member, _, _, none⟩ :=
    (atomicity_of_run known Refusals.commits_sparesRollback rfl rfl []).2 _ failed
  obtain rfl := List.mem_singleton.mp member
  refine ⟨Refusals.commits_sparesRollback, failed, none fun both => ?_⟩
  rw [endsNoTransaction_asking.leavesOpen] at both
  exact Bool.noConfusion both.2

end Runner

end MigrationLedger
