/-
# What a failed run says about its failure

A run that has read its source breaks down at one step: a call that is refused, or a
statement that cannot be qualified. The module lists these steps, each with what is
still said to the database, the error of the step and the failure that is reported. The
main statement is that every failed run breaks down at the first migration that it
neither applied nor skipped, with everything before the step accepted, and that the
error of the step is the direct cause of the failure.

The failure carries the name of that migration with one exception. When a connection is
refused, the name stands in the words of the failure only, and asking the failure for
its migration gives nothing.
-/

import MigrationLedger.Proofs.Runner.Resumption
import MigrationLedger.Proofs.Runner.Success

namespace MigrationLedger

/-- An error behind a failure. -/
inductive Failure.Cause
  | database (error : DbError)
  | qualification (error : Sql.QualifyError)
  deriving DecidableEq, Repr

/-- The error directly behind a failure, if it stems from a database or a qualifier. -/
def Failure.directCause? : Failure → Option Failure.Cause
  | .connection _ cause | .execution _ _ cause | .recording _ cause | .transaction _ cause
  | .trackingQuery _ cause | .trackingList cause => some (.database cause)
  | .qualify _ _ cause => some (.qualification cause)
  | .tablesMissing | .source _ | .duplicate _ _ _ | .invalidSettings _ | .invalidName _ => none

/-- The call was accepted, or it was a count that was refused for want of a table. -/
def Exchange.Passes (exchange : Exchange) : Prop :=
  ∀ error, exchange.answer = .error error →
    exchange.call.kind = .count ∧ error.isNotFound = true

/-- Every connection is refused, and nothing else. -/
def Refusals.connections : Refusals := fun _ call =>
  if call = .connect then some (.connection "refused") else .none

/-- Every insertion is refused, and nothing else. -/
def Refusals.insertions : Refusals := fun _ call =>
  if call.kind = .execute then some (.execution "refused") else .none

namespace Runner

variable {σ : Type} {runner : Runner} {migration : Migration} {name : MigrationName}
  {exchanged : List Exchange} {migrations : List Migration} {ignored : List MigrationName}
  {course : Course} {failure : Failure} {cause : Failure.Cause}

/-! ## What passes -/

theorem passes_of_allAccepted (accepted : AllAccepted exchanged) :
    ∀ exchange ∈ exchanged, exchange.Passes := by
  rintro ⟨call, answer⟩ member error refused
  obtain rfl : answer = .error error := refused
  exact absurd member (accepted call error)

/-- Steps that are all carried out are all accepted. -/
theorem allAccepted_of_carried {steps : List Step} (carried : Carried steps exchanged (.ok ())) :
    AllAccepted exchanged := by
  generalize ended : Except.ok () = outcome at carried
  induction carried with
  | finished => exact allAccepted_nil
  | accepted reply _ ih => exact allAccepted_ok_cons_iff.mpr (ih ended)
  | refused | stopped => cases ended

/-- A check that comes to a verdict passes. -/
theorem Check.passes {found : Bool} (check : runner.Check name exchanged (.ok found)) :
    ∀ exchange ∈ exchanged, exchange.Passes := by
  generalize ended : Except.ok found = outcome at check
  cases check with
  | unconnected error => cases ended
  | refused error present => cases ended
  | counted count =>
      apply passes_of_allAccepted
      exact allAccepted_ok_cons_iff.mpr (allAccepted_ok_cons_iff.mpr allAccepted_nil)
  | untracked error missing =>
      rw [List.forall_mem_cons, List.forall_mem_singleton]
      constructor
      · intro _ refused
        cases refused
      · intro _ refused
        cases refused
        exact ⟨rfl, missing⟩

/-- An attempt that succeeds passes. -/
theorem Attempt.passes (attempt : runner.Attempt migration exchanged (.ok ())) :
    ∀ exchange ∈ exchanged, exchange.Passes := by
  cases attempt with
  | completed carried => exact passes_of_allAccepted (allAccepted_of_carried carried)

/-! ## Where a run breaks down -/

/-- The steps at which a run can break down over a migration: what is said from the
step on, the error of the step, and the failure that is reported. A step within a
transaction is followed by the rollback. -/
inductive Breakdown (runner : Runner) (migration : Migration) :
    List Exchange → Failure.Cause → Failure → Prop
  | /-- The check gets no connection. -/
    unasked (error : DbError) :
      Breakdown runner migration [⟨.connect, .error error⟩] (.database error)
        (.connection (.checking migration.name) error)
  | /-- The count is refused although the table is there. -/
    uncounted (error : DbError) (present : error.isNotFound = false) :
      Breakdown runner migration [⟨runner.countCall migration.name, .error error⟩]
        (.database error) (.trackingQuery migration.name error)
  | /-- The attempt gets no connection. -/
    unconnected (error : DbError) :
      Breakdown runner migration [⟨.connect, .error error⟩] (.database error)
        (.connection (.applying migration.name) error)
  | /-- The transaction is not opened. -/
    unopened (error : DbError) :
      Breakdown runner migration [⟨.batch "BEGIN TRANSACTION", .error error⟩]
        (.database (Transaction.beginError error))
        (.transaction migration.name (Transaction.beginError error))
  | /-- A statement cannot be qualified. -/
    unqualified {statement : String} {index : Nat} {error : Sql.QualifyError}
      (stands : (runner.ownStatements migration)[index]? = some statement)
      (unfit : runner.qualify statement = .error error)
      (answer : (Call.batch "ROLLBACK").Answer) :
      Breakdown runner migration [⟨.batch "ROLLBACK", answer⟩] (.qualification error)
        (.qualify migration.name (index + 1) error)
  | /-- A statement is refused. -/
    unexecuted {statement sql : String} {index : Nat}
      (stands : (runner.ownStatements migration)[index]? = some statement)
      (qualified : runner.qualify statement = .ok sql) (error : DbError)
      (answer : (Call.batch "ROLLBACK").Answer) :
      Breakdown runner migration [⟨.batch sql, .error error⟩, ⟨.batch "ROLLBACK", answer⟩]
        (.database error) (.execution migration.name (index + 1) error)
  | /-- The record is refused. -/
    unrecorded (error : DbError) (answer : (Call.batch "ROLLBACK").Answer) :
      Breakdown runner migration
        [⟨runner.insertCall migration.name, .error error⟩, ⟨.batch "ROLLBACK", answer⟩]
        (.database error) (.recording migration.name error)
  | /-- The commit is refused. -/
    uncommitted (error : DbError) (answer : (Call.batch "ROLLBACK").Answer) :
      Breakdown runner migration
        [⟨.batch "COMMIT", .error error⟩, ⟨.batch "ROLLBACK", answer⟩]
        (.database (Transaction.commitError error))
        (.transaction migration.name (Transaction.commitError error))

namespace Breakdown

/-- The error of the step is the direct cause of the failure. -/
theorem directCause? (breakdown : runner.Breakdown migration exchanged cause failure) :
    failure.directCause? = some cause := by
  cases breakdown <;> rfl

/-- The failure is about the migration. -/
theorem subject? (breakdown : runner.Breakdown migration exchanged cause failure) :
    failure.subject? = some migration.name := by
  cases breakdown <;> rfl

/-- The failure gives the name of the migration unless a connection was refused. -/
theorem migration?_eq_some_iff (breakdown : runner.Breakdown migration exchanged cause failure) :
    failure.migration? = some migration.name ↔
      ¬ ∃ error, exchanged = [⟨.connect, .error error⟩] := by
  cases breakdown <;> simp [Failure.migration?, countCall, insertCall]

end Breakdown

/-- Steps fail at one of them, behind others that were accepted: it cannot be sent, or
it is refused. -/
theorem exists_step_of_carried {steps : List Step}
    (carried : Carried steps exchanged (.error failure)) :
    ∃ step ∈ steps, ∃ accepted, AllAccepted accepted ∧
      ((step = .stop failure ∧ exchanged = accepted) ∨
        ∃ call meaning error, step = .send call meaning ∧
          exchanged = accepted ++ [⟨call, .error error⟩] ∧ failure = meaning error) := by
  generalize ended : Except.error failure = outcome at carried
  induction carried with
  | finished => cases ended
  | @refused call meaning steps error =>
      cases ended
      exact ⟨_, List.mem_cons_self, [], allAccepted_nil, .inr ⟨call, meaning, error, rfl, rfl, rfl⟩⟩
  | stopped =>
      cases ended
      exact ⟨_, List.mem_cons_self, [], allAccepted_nil, .inl ⟨rfl, rfl⟩⟩
  | @accepted call meaning reply steps exchanges outcome rest ih =>
      obtain ⟨step, member, accepted, all, broken⟩ := ih ended
      refine ⟨step, List.mem_cons_of_mem _ member, ⟨call, .ok reply⟩ :: accepted,
        allAccepted_ok_cons_iff.mpr all, ?_⟩
      rcases broken with ⟨stops, rfl⟩ | ⟨call, meaning, error, sends, rfl, means⟩
      · exact .inl ⟨stops, rfl⟩
      · exact .inr ⟨call, meaning, error, sends, rfl, means⟩

/-- Statements fail at one of them, which is numbered by its place. -/
theorem exists_breakdown_of_statements
    (carried : Carried (runner.statementSteps migration) exchanged (.error failure))
    (answer : (Call.batch "ROLLBACK").Answer) :
    ∃ passed said cause, AllAccepted passed ∧
      exchanged ++ [⟨.batch "ROLLBACK", answer⟩] = passed ++ said ∧
      runner.Breakdown migration said cause failure := by
  obtain ⟨step, member, accepted, all, broken⟩ := exists_step_of_carried carried
  obtain ⟨⟨statement, number⟩, numbered, rfl⟩ := List.mem_map.mp member
  obtain ⟨index, stands⟩ := List.mem_iff_getElem?.mp numbered
  obtain ⟨found, place⟩ : (runner.ownStatements migration)[index]? = some statement ∧
      number = index + 1 := by
    rw [List.getElem?_zipIdx, Option.map_eq_some_iff] at stands
    obtain ⟨_, found, same⟩ := stands
    cases same
    exact ⟨found, Nat.add_comm 1 index⟩
  subst place
  rw [statementStep] at broken
  cases qualified : runner.qualify statement with
  | error error =>
      simp only [qualified] at broken
      rcases broken with ⟨same, rfl⟩ | ⟨_, _, _, same, _⟩
      · cases same
        exact ⟨_, _, _, all, rfl, .unqualified found qualified answer⟩
      · cases same
  | ok sql =>
      simp only [qualified] at broken
      rcases broken with ⟨same, _⟩ | ⟨_, _, error, same, rfl, rfl⟩
      · cases same
      · cases same
        exact ⟨accepted, _, _, all, by simp, .unexecuted found qualified error answer⟩

/-- A check that fails breaks down at one of its two calls. -/
theorem Check.exists_breakdown
    (check : runner.Check migration.name exchanged (.error failure)) :
    ∃ passed said cause, (∀ exchange ∈ passed, exchange.Passes) ∧ exchanged = passed ++ said ∧
      runner.Breakdown migration said cause failure := by
  generalize ended : Except.error failure = outcome at check
  cases check with
  | unconnected error =>
      cases ended
      exact ⟨[], _, _, by simp, rfl, .unasked error⟩
  | counted | untracked => cases ended
  | refused error present =>
      cases ended
      exact ⟨[⟨.connect, .ok ()⟩], _, _,
        passes_of_allAccepted (allAccepted_ok_cons_iff.mpr allAccepted_nil), rfl,
        .uncounted error present⟩

/-- An attempt that fails breaks down at one of its steps. -/
theorem Attempt.exists_breakdown
    (attempt : runner.Attempt migration exchanged (.error failure)) :
    ∃ passed said cause, (∀ exchange ∈ passed, exchange.Passes) ∧ exchanged = passed ++ said ∧
      runner.Breakdown migration said cause failure := by
  cases attempt with
  | unopened carried =>
      rcases carried_opening_error_iff.mp carried with ⟨error, rfl, rfl⟩ | ⟨error, rfl, rfl⟩
      · exact ⟨[], _, _, by simp, rfl, .unconnected error⟩
      · exact ⟨[⟨.connect, .ok ()⟩], _, _,
          passes_of_allAccepted (allAccepted_ok_cons_iff.mpr allAccepted_nil), rfl,
          .unopened error⟩
  | @undone opened worked _ opens failed answer =>
      have openedAll := allAccepted_of_carried opens
      -- Whatever the work breaks down at stands behind the opening.
      suffices ∃ passed said cause, AllAccepted passed ∧
          worked ++ [⟨.batch "ROLLBACK", answer⟩] = passed ++ said ∧
          runner.Breakdown migration said cause failure by
        obtain ⟨passed, said, cause, accepted, split, breakdown⟩ := this
        refine ⟨opened ++ passed, said, cause, ?_, ?_, breakdown⟩
        · exact passes_of_allAccepted (allAccepted_append_iff.mpr ⟨openedAll, accepted⟩)
        · rw [List.append_assoc, split, List.append_assoc]
      rcases carried_work_iff.mp failed with
        ⟨_, same, carried | ⟨sent, error, carried, rfl, rfl⟩⟩ |
          ⟨sent, reply, ending, carried, rfl, closed⟩
      · cases same
        exact exists_breakdown_of_statements carried answer
      · cases same
        exact ⟨sent, _, _, allAccepted_of_carried carried, by simp, .unrecorded error answer⟩
      · obtain ⟨error, rfl, rfl⟩ := carried_commit_error_iff.mp closed
        refine ⟨sent ++ [⟨runner.insertCall migration.name, .ok reply⟩], _, _, ?_, by simp,
          .uncommitted error answer⟩
        exact allAccepted_append_iff.mpr
          ⟨allAccepted_of_carried carried, allAccepted_ok_cons_iff.mpr allAccepted_nil⟩

/-- A run that stops has settled the migrations before the one that it breaks down at,
and no others. -/
theorem Round.exists_breakdown (round : runner.Round migrations exchanged course) {stop : Stop}
    (stopped : course.stop = some stop) :
    ∃ earlier migration later passed said cause, migrations = earlier ++ migration :: later ∧
      (∀ name, name ∈ course.applied ∨ name ∈ course.skipped ↔
        name ∈ earlier.map Migration.name) ∧
      exchanged = passed ++ said ∧ (∀ exchange ∈ passed, exchange.Passes) ∧
      runner.Breakdown migration said cause stop.failure := by
  induction round with
  | finished => cases stopped
  | @skipped migration rest checked exchanges course check round ih =>
      obtain ⟨earlier, failing, later, passed, said, cause, rfl, settled, rfl, pass, breakdown⟩ :=
        ih stopped
      refine ⟨migration :: earlier, failing, later, checked ++ passed, said, cause, rfl, ?_,
        by simp, List.forall_mem_append.mpr ⟨check.passes, pass⟩, breakdown⟩
      intro name
      rw [List.map_cons, List.mem_cons, ← settled, Course.skip, List.mem_cons]
      exact or_left_comm
  | @applied migration rest checked attempted exchanges course check attempt round ih =>
      obtain ⟨earlier, failing, later, passed, said, cause, rfl, settled, rfl, pass, breakdown⟩ :=
        ih stopped
      have before := List.forall_mem_append.mpr ⟨check.passes, attempt.passes⟩
      refine ⟨migration :: earlier, failing, later, checked ++ attempted ++ passed, said, cause,
        rfl, ?_, by simp, List.forall_mem_append.mpr ⟨before, pass⟩, breakdown⟩
      intro name
      rw [List.map_cons, List.mem_cons, ← settled, Course.apply, List.mem_cons]
      exact or_assoc
  | @unchecked migration rest checked failure check =>
      cases stopped
      obtain ⟨passed, said, cause, pass, rfl, breakdown⟩ := check.exists_breakdown
      exact ⟨[], migration, rest, passed, said, cause, rfl, by simp, rfl, pass, breakdown⟩
  | @failed migration rest checked attempted failure check attempt =>
      cases stopped
      obtain ⟨passed, said, cause, pass, rfl, breakdown⟩ := attempt.exists_breakdown
      exact ⟨[], migration, rest, checked ++ passed, said, cause, rfl, by simp, by simp,
        List.forall_mem_append.mpr ⟨check.passes, pass⟩, breakdown⟩

/-- **What a failed run says.** Take any database and a source that can be read and has
no two scripts of the same name. A run that fails has settled the migrations before some
migration, in the order of the names, and has neither applied nor skipped this one. Every
call before the step at which it broke down was accepted, counts for want of a table
apart. The direct cause of the failure is the error of that step. The failure gives the name of the
migration exactly when the step was not a connection; a refused connection names it in
its words alone. -/
theorem breakdown_of_run (answering : Answering σ) (states : RunStates) (database : σ)
    (known : runner.recognized = .ok (migrations, ignored))
    (fails : ((runner.run states).hold answering states database).1.2 = .error failure) :
    ∃ course earlier migration later passed said cause,
      runner.Round migrations ((runner.run states).exchanges answering states database) course ∧
      migrations.Pairwise Migration.Before ∧ migrations = earlier ++ migration :: later ∧
      (∀ other ∈ earlier, other.name ∈ course.applied ∨ other.name ∈ course.skipped) ∧
      migration.name ∉ course.applied ∧ migration.name ∉ course.skipped ∧
      (runner.run states).exchanges answering states database = passed ++ said ∧
      (∀ exchange ∈ passed, exchange.Passes) ∧
      runner.Breakdown migration said cause failure ∧
      failure.directCause? = some cause ∧ failure.subject? = some migration.name ∧
      (failure.migration? = some migration.name ↔
        ¬ ∃ error, said = [⟨.connect, .error error⟩]) := by
  have dialogue := Session.dialogue_exchanges answering (runner.run states) states database
  obtain ⟨course, round, ended⟩ := (dialogue_run_iff known).mp dialogue
  rw [ended] at fails
  obtain ⟨stop, stopped, rfl⟩ := exists_stop_of_result fails
  obtain ⟨earlier, migration, later, passed, said, cause, rfl, settled, split, pass, breakdown⟩ :=
    round.exists_breakdown stopped
  have ascending := pairwise_before_of_recognized known
  have unsettled : migration.name ∉ earlier.map Migration.name := by
    intro member
    obtain ⟨other, before, same⟩ := List.mem_map.mp member
    have less := (List.pairwise_append.mp ascending).2.2 other before migration List.mem_cons_self
    exact ne_of_lt less (congrArg MigrationName.text same)
  rw [← settled, not_or] at unsettled
  exact ⟨course, earlier, migration, later, passed, said, cause, round, ascending, rfl,
    fun other before => (settled _).mpr (List.mem_map_of_mem before), unsettled.1, unsettled.2,
    split, pass, breakdown, breakdown.directCause?, breakdown.subject?,
    breakdown.migration?_eq_some_iff⟩

/-- A run that skips one script and cannot record the other. -/
theorem breakdown_of_mixed :
    mixed.recognized =
        .ok ([⟨scriptName, "SELECT 1"⟩, ⟨laterName, "SELECT 1"⟩], [noteName]) ∧
      mixed.resultOn .insertions [] startedDatabase =
        .error (.recording laterName (.execution "refused")) ∧
      ∃ (earlier : List Migration) (migration : Migration) (later : List Migration),
        [⟨scriptName, "SELECT 1"⟩, ⟨laterName, "SELECT 1"⟩] = earlier ++ migration :: later ∧
        Failure.subject? (.recording laterName (.execution "refused")) =
          some migration.name := by
  have fails : mixed.resultOn .insertions [] startedDatabase =
      .error (.recording laterName (.execution "refused")) := by
    rw [resultOn, run, recognized_mixed]
    decide +kernel
  obtain ⟨_, earlier, migration, later, _, _, _, _, _, split, _, _, _, _, _, _, _, about, _⟩ :=
    breakdown_of_run (Recording.answering .insertions) [] startedDatabase recognized_mixed fails
  exact ⟨recognized_mixed, fails, earlier, migration, later, split, about⟩

/-- A run that gets no connection fails without giving the name of its migration. -/
theorem migration?_eq_none_of_unconnected :
    (single asking).recognized = .ok ([asking], []) ∧
      (single asking).resultOn .connections [] {} =
        .error (.connection (.checking asking.name) (.connection "refused")) ∧
      Failure.migration? (.connection (.checking asking.name) (.connection "refused")) = none := by
  have known : (single asking).recognized = .ok ([asking], []) := recognized_single _
  refine ⟨known, ?_, rfl⟩
  rw [resultOn, run, known]
  rfl

end Runner

end MigrationLedger
