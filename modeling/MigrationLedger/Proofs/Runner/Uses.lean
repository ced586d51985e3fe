/-
# What operations leave behind

A runner can be asked for runs, for a preparation, and for what is recorded. Only a run
adds rows; every other operation leaves the committed rows as they are. And every
operation, whether it succeeds or fails, leaves a recording database without an open
transaction and with nothing uncommitted, as long as no rollback is refused: a scope that
does not commit rolls back, and what a script does to the transaction itself can only end
it earlier.

What a runner remembers plays no part in this, so one runner may be used many times, or a
new one each time.
-/

import MigrationLedger.Proofs.Runner.Listing
import MigrationLedger.Proofs.Runner.Progress

namespace MigrationLedger

/-! ## Sessions that add no row -/

namespace Transaction

open Recording (Leads)

variable {α ε : Type} {refusals : Refusals} {before after : Recording}
  {exchanged : List Exchange} {rows : List RecordedRow}

/-- A transaction whose body only reads changes nothing. -/
theorem holds_of_reading_scope {failure : DbError → ε} {ending : Ending}
    {body : Session (Except ε α)} {outcome : Except ε α} (spares : refusals.SparesRollback)
    (reads : ∀ inside inner, body.Dialogue inside inner →
      ∀ exchange ∈ inside, exchange.call.Reads)
    (dialogue : (scope failure ending body).Dialogue exchanged outcome)
    (leads : Leads refusals before exchanged after) (h : before.Holds rows [] false) :
    after.Holds rows [] false := by
  rcases dialogue_scope_iff.mp dialogue with
    ⟨error, rfl, _⟩ | ⟨inside, closing, inner, rfl, said, closed⟩
  · obtain ⟨_, middle, holds, rest⟩ := Recording.leads_refused leads h
    cases rest
    exact holds
  · obtain ⟨_, rest⟩ := Recording.leads_accepted leads
    obtain ⟨middle, toMiddle, fromMiddle⟩ := Recording.leads_append_iff.mp rest
    have holds := toMiddle.holds_of_reads (reads inside inner said) (h.note _).begin
    cases closed with
    | failed error answer =>
        obtain ⟨_, holds, rest⟩ := Recording.leads_rollback spares fromMiddle holds
        cases rest
        exact holds
    | abandoned value answer =>
        obtain ⟨_, holds, rest⟩ := Recording.leads_rollback spares fromMiddle holds
        cases rest
        exact holds
    | committed value =>
        obtain ⟨_, rest⟩ := Recording.leads_accepted fromMiddle
        cases rest
        have committed := (holds.note (.call (.batch "COMMIT"))).commit
        rwa [List.append_nil] at committed
    | refused value error answer =>
        obtain ⟨_, last, holds, rest⟩ := Recording.leads_refused fromMiddle holds
        obtain ⟨_, holds, rest⟩ := Recording.leads_rollback spares rest holds
        cases rest
        exact holds

end Transaction

namespace Validation

open Recording (Leads)

variable {tables : List String} {refusals : Refusals} {before after : Recording}
  {exchanged : List Exchange} {rows : List RecordedRow}

theorem reads_of_allAnswer {answers : Bool}
    (dialogue : (allAnswer tables).Dialogue exchanged answers) :
    ∀ exchange ∈ exchanged, exchange.call.Reads := by
  induction tables generalizing exchanged with
  | nil =>
      obtain ⟨rfl, _⟩ := Session.dialogue_pure_iff.mp dialogue
      simp
  | cons table rest ih =>
      rw [allAnswer] at dialogue
      obtain ⟨answer, later, rfl, said⟩ := Session.dialogue_call_bind_iff.mp dialogue
      rw [List.forall_mem_cons]
      refine ⟨trivial, ?_⟩
      cases answer with
      | ok count => exact ih said
      | error error =>
          obtain ⟨rfl, _⟩ := Session.dialogue_pure_iff.mp said
          simp

/-- Validating tables changes nothing. -/
theorem holds_of_validate {outcome : Except Failure Unit} (spares : refusals.SparesRollback)
    (dialogue : (validate tables).Dialogue exchanged outcome)
    (leads : Leads refusals before exchanged after) (h : before.Holds rows [] false) :
    after.Holds rows [] false := by
  rw [validate] at dialogue
  obtain ⟨connected, later, rfl, said⟩ := Session.dialogue_call_bind_iff.mp dialogue
  cases connected with
  | error error =>
      obtain ⟨_, middle, holds, rest⟩ := Recording.leads_refused leads h
      obtain ⟨rfl, _⟩ := Session.dialogue_pure_iff.mp said
      cases rest
      exact holds
  | ok _ =>
      obtain ⟨_, rest⟩ := Recording.leads_accepted leads
      obtain ⟨_, within⟩ := Session.dialogue_of_bind_pure
        (by rintro (failure | _ | _) <;> exact ⟨_, rfl⟩) said
      refine Transaction.holds_of_reading_scope spares ?_ within rest (h.note _)
      intro inside inner asked
      obtain ⟨_, counted⟩ := Session.dialogue_of_bind_pure (fun _ => ⟨_, rfl⟩) asked
      exact reads_of_allAnswer counted

end Validation

namespace Runner

open Recording (Leads Holds)

variable {runner : Runner} {refusals : Refusals} {states : RunStates} {db : Recording}
  {rows : List RecordedRow}

/-! ## Operations -/

/-- What a runner can be asked to do. -/
inductive Operation
  | run
  | prepare (preparation : Preparation)
  | status
  | validate
  | isApplied (name : MigrationName)
  | appliedRecords

/-- The operation runs the migrations of the source. -/
def Operation.Runs : Operation → Prop
  | .run | .prepare .create => True
  | .prepare .skipCreate | .status | .validate | .isApplied _ | .appliedRecords => False

/-- One use of a runner: what the runner remembers at its beginning, and which calls
are refused in it. -/
structure Use where
  runner : Runner
  operation : Operation
  states : RunStates
  refusals : Refusals

/-- The recording database after one use of a runner. -/
def Use.after (use : Use) (db : Recording) : Recording :=
  match use.operation with
  | .run => db.afterSession use.refusals use.states (use.runner.run use.states)
  | .prepare preparation =>
    db.afterSession use.refusals use.states (use.runner.prepare preparation use.states)
  | .status => db.afterSession use.refusals use.states (use.runner.status use.states)
  | .validate => db.afterSession use.refusals use.states use.runner.validate
  | .isApplied name =>
    db.afterSession use.refusals use.states
      (Tracker.isApplied use.runner.settings.tracking name)
  | .appliedRecords =>
    db.afterSession use.refusals use.states
      (Tracker.appliedRecords use.runner.settings.tracking)

/-- The recording database after uses of runners, one after another. -/
def afterUses (uses : List Use) (db : Recording) : Recording :=
  uses.foldl (fun db use => use.after db) db

/-- A session whose calls only read leaves the database as it was. -/
theorem holds_of_reading_session {α : Type} {session : Session α} {states : RunStates}
    (reads : ∀ exchanged value, session.Dialogue exchanged value →
      ∀ exchange ∈ exchanged, exchange.call.Reads)
    (h : db.Holds rows [] false) :
    (db.afterSession refusals states session).Holds rows [] false := by
  obtain ⟨exchanged, _, dialogue, leads⟩ :=
    Recording.exists_dialogue_leads session refusals states db
  exact leads.holds_of_reads (reads exchanged _ dialogue) h

theorem holds_of_validate {states : RunStates} (spares : refusals.SparesRollback)
    (h : db.Holds rows [] false) :
    (db.afterSession refusals states runner.validate).Holds rows [] false := by
  obtain ⟨exchanged, _, dialogue, leads⟩ :=
    Recording.exists_dialogue_leads runner.validate refusals states db
  exact Validation.holds_of_validate spares dialogue leads h

/-- Preparing without creating only validates. -/
theorem holds_of_skipCreate {states : RunStates} (spares : refusals.SparesRollback)
    (h : db.Holds rows [] false) :
    (db.afterSession refusals states (runner.prepare .skipCreate states)).Holds rows [] false := by
  obtain ⟨exchanged, _, dialogue, leads⟩ :=
    Recording.exists_dialogue_leads (runner.prepare .skipCreate states) refusals states db
  obtain ⟨_, validated⟩ := Session.dialogue_of_bind_pure
    (by rintro (_ | _) <;> exact ⟨_, rfl⟩) dialogue
  exact Validation.holds_of_validate spares validated leads h

/-! ## What is left -/

/-- A run whose migrations are not known leaves the rows as they are. -/
theorem holds_of_unrecognized {failure : Failure} (unknown : runner.recognized = .error failure)
    (h : db.Holds rows [] false) : (runner.afterRun refusals states db).Holds rows [] false := by
  refine holds_of_reading_session (fun exchanged value dialogue => ?_) h
  obtain ⟨rfl, _⟩ := (dialogue_run_of_unrecognized unknown).mp dialogue
  simp

/-- A run only adds rows. -/
theorem exists_holds_of_run (spares : refusals.SparesRollback) (h : db.Holds rows [] false) :
    ∃ added, (runner.afterRun refusals states db).Holds (rows ++ added) [] false := by
  cases recognized : runner.recognized with
  | error failure =>
      exact ⟨[], by simpa using holds_of_unrecognized recognized h⟩
  | ok found =>
      obtain ⟨_, _, _, added, leaked, _, _, _, _, holds, _⟩ :=
        exists_course recognized spares states h
      exact ⟨added ++ leaked, holds⟩

theorem Use.after_of_runs (use : Use) (runs : use.operation.Runs) (db : Recording) :
    use.after db = use.runner.afterRun use.refusals use.states db := by
  obtain ⟨runner, operation, states, refusals⟩ := use
  cases operation with
  | run => rfl
  | prepare preparation =>
      cases preparation with
      | create => rfl
      | skipCreate => exact runs.elim
  | status | validate | isApplied | appliedRecords => exact runs.elim

theorem Use.holds_after_of_not_runs (use : Use) (reading : ¬ use.operation.Runs)
    (spares : use.refusals.SparesRollback) (h : db.Holds rows [] false) :
    (use.after db).Holds rows [] false := by
  obtain ⟨runner, operation, states, refusals⟩ := use
  cases operation with
  | run => exact absurd trivial reading
  | prepare preparation =>
      cases preparation with
      | create => exact absurd trivial reading
      | skipCreate => exact holds_of_skipCreate spares h
  | status => exact holds_of_reading_session (fun _ _ => reads_of_status) h
  | validate => exact holds_of_validate spares h
  | isApplied name =>
      exact holds_of_reading_session
        (fun _ _ dialogue => (dialogue_isApplied_iff.mp dialogue).reads) h
  | appliedRecords =>
      exact holds_of_reading_session (fun _ _ => Tracker.reads_of_appliedRecords) h

/-- An operation is a run, or it leaves the rows as they are. -/
theorem Use.after_cases (use : Use) (spares : use.refusals.SparesRollback)
    (h : db.Holds rows [] false) :
    use.after db = use.runner.afterRun use.refusals use.states db ∨
      (use.after db).Holds rows [] false := by
  by_cases runs : use.operation.Runs
  · exact .inl (use.after_of_runs runs db)
  · exact .inr (use.holds_after_of_not_runs runs spares h)

/-- One operation only adds rows, and leaves nothing open. -/
theorem Use.exists_holds_after (use : Use) (spares : use.refusals.SparesRollback)
    (h : db.Holds rows [] false) :
    ∃ added, (use.after db).Holds (rows ++ added) [] false := by
  rcases use.after_cases spares h with runs | unchanged
  · rw [runs]
    exact exists_holds_of_run spares h
  · exact ⟨[], by rwa [List.append_nil]⟩

theorem exists_holds_afterUses {uses : List Use}
    (spares : ∀ use ∈ uses, use.refusals.SparesRollback) (h : db.Holds rows [] false) :
    ∃ added, (afterUses uses db).Holds (rows ++ added) [] false := by
  induction uses generalizing db rows with
  | nil => exact ⟨[], by rwa [List.append_nil]⟩
  | cons use later ih =>
      rw [List.forall_mem_cons] at spares
      obtain ⟨first, holds⟩ := use.exists_holds_after spares.1 h
      obtain ⟨second, holds⟩ := ih spares.2 holds
      rw [List.append_assoc] at holds
      exact ⟨first ++ second, holds⟩

/-- **No operation leaves a transaction open.** Runners are used one after another, for
any operations, with any sources and scripts, on a database without an open transaction.
Any calls but rollbacks may be refused. After each of the operations no transaction is
open and nothing is uncommitted. -/
theorem idle_afterUses (uses : List Use) (idle : db.inTransaction = false)
    (clean : db.uncommitted = []) (spares : ∀ use ∈ uses, use.refusals.SparesRollback) :
    ∀ earlier later, uses = earlier ++ later →
      (afterUses earlier db).inTransaction = false ∧ (afterUses earlier db).uncommitted = [] := by
  rintro earlier later rfl
  rw [List.forall_mem_append] at spares
  have start : db.Holds db.committed [] false := ⟨rfl, clean, idle⟩
  obtain ⟨added, holds⟩ := exists_holds_afterUses spares.1 start
  exact ⟨holds.open_eq, holds.uncommitted_eq⟩

/-- A run whose commit is refused, a run of a script that rolls back by itself, and a
validation. -/
theorem idle_afterUses_rollingBack :
    let uses : List Use :=
      [⟨single asking, .run, [], .commits⟩, ⟨single ⟨scriptName, "ROLLBACK"⟩, .run, [], .none⟩,
        ⟨single asking, .validate, [], .none⟩]
    (afterUses uses {}).inTransaction = false ∧ (afterUses uses {}).uncommitted = [] := by
  intro uses
  have spares : ∀ use ∈ uses, use.refusals.SparesRollback := by
    simp [uses, Refusals.commits_sparesRollback, Refusals.none_sparesRollback]
  exact @idle_afterUses {} uses rfl rfl spares uses [] (by simp)

end Runner

end MigrationLedger
