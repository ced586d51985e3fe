/-
# Histories of a runner

A runner is used many times, and what it remembers passes from one operation to the next.
So does its database, which others may change in between. The module treats all
operations as one kind of session, which returns what is remembered afterwards together
with the result. Operations that run migrations are runs; all the others announce
nothing, leave what is remembered as it was, and leave the rows as they are.

A history is a list of events. Nothing is assumed about the databases: each use of the
runner says how its calls are answered.
-/

import MigrationLedger.Proofs.Runner.Staging
import MigrationLedger.Proofs.Runner.Uses

namespace MigrationLedger

namespace Tracker

theorem silent_appliedRecords (table : String) : (appliedRecords table).Silent := by
  apply Session.silent_call_bind
  rintro (error | _)
  · exact Session.silent_pure _
  · apply Session.silent_call_bind
    rintro (error | rows)
    · change (if error.isNotFound then _ else _ :
        Session (Except Failure (List MigrationRecord))).Silent
      split
      · exact Session.silent_pure _
      · exact Session.silent_pure _
    · exact Session.silent_pure _

end Tracker

namespace Validation

theorem silent_allAnswer (tables : List String) : (allAnswer tables).Silent := by
  induction tables with
  | nil => exact Session.silent_pure _
  | cons table rest ih =>
      apply Session.silent_call_bind
      rintro (error | _)
      · exact Session.silent_pure _
      · exact ih

theorem silent_validate (tables : List String) : (validate tables).Silent := by
  apply Session.silent_call_bind
  rintro (error | _)
  · exact Session.silent_pure _
  · refine Session.Silent.bind (Transaction.silent_scope ?_) ?_
    · exact (silent_allAnswer tables).bind fun _ => Session.silent_pure _
    · rintro (failure | _ | _)
      · exact Session.silent_pure _
      · exact Session.silent_pure _
      · exact Session.silent_pure _

end Validation

namespace Runner

variable {runner : Runner} {states : RunStates} {operation : Operation}
  {exchanged : List Exchange} {refusals : Refusals} {db : Recording} {rows : List RecordedRow}

/-! ## Operations as sessions -/

/-- What an operation returns. -/
inductive Outcome
  | ran (result : Except Failure Report)
  | reported (result : Except Failure (List MigrationStatus))
  | validated (result : Except Failure Unit)
  | checked (result : Except Failure Bool)
  | listed (result : Except Failure (List MigrationRecord))

/-- Carry out an operation. The session returns what the runner remembers afterwards and
what the operation returns. -/
def perform (runner : Runner) (states : RunStates) : Operation → Session (RunStates × Outcome)
  | .run => do
    let ran ← runner.run states
    return (ran.1, .ran ran.2)
  | .prepare preparation => do
    let ran ← runner.prepare preparation states
    return (ran.1, .ran ran.2)
  | .status => do return (states, .reported (← runner.status states))
  | .validate => do return (states, .validated (← runner.validate))
  | .isApplied name => do
    return (states, .checked (← Tracker.isApplied runner.settings.tracking name))
  | .appliedRecords => do
    return (states, .listed (← Tracker.appliedRecords runner.settings.tracking))

theorem perform_of_runs (runs : operation.Runs) :
    runner.perform states operation =
      runner.run states >>= fun ran => pure (ran.1, .ran ran.2) := by
  cases operation with
  | run => rfl
  | prepare preparation =>
      cases preparation with
      | create => rfl
      | skipCreate => exact runs.elim
  | status | validate | isApplied | appliedRecords => exact runs.elim

/-- The sessions of the operations that run nothing. -/
inductive Inquiry (runner : Runner) (states : RunStates) : {α : Type} → Session α → Prop
  | status : Inquiry runner states (runner.status states)
  | validate : Inquiry runner states runner.validate
  | isApplied (name : MigrationName) :
      Inquiry runner states (Tracker.isApplied runner.settings.tracking name)
  | appliedRecords : Inquiry runner states (Tracker.appliedRecords runner.settings.tracking)

/-- An operation that runs nothing asks for something and remembers what it did before. -/
theorem exists_inquiry (runner : Runner) (states : RunStates) (reading : ¬ operation.Runs) :
    ∃ (α : Type) (session : Session α) (f : α → Outcome), runner.Inquiry states session ∧
      runner.perform states operation = session >>= fun value => pure (states, f value) := by
  cases operation with
  | run => exact absurd trivial reading
  | status => exact ⟨_, _, _, .status, rfl⟩
  | validate => exact ⟨_, _, _, .validate, rfl⟩
  | isApplied name => exact ⟨_, _, _, .isApplied name, rfl⟩
  | appliedRecords => exact ⟨_, _, _, .appliedRecords, rfl⟩
  | prepare preparation =>
      cases preparation with
      | create => exact absurd trivial reading
      | skipCreate =>
          refine ⟨_, _, fun outcome => .ran (outcome.map fun _ => {}), .validate, ?_⟩
          rw [perform, prepare, Session.bind_assoc]
          congr 1
          funext outcome
          cases outcome <;> rfl

theorem Inquiry.silent {α : Type} {session : Session α} (inquiry : runner.Inquiry states session) :
    session.Silent := by
  cases inquiry with
  | validate => exact Validation.silent_validate _
  | isApplied name => exact Tracker.silent_isApplied _ name
  | appliedRecords => exact Tracker.silent_appliedRecords _
  | status =>
      rw [Runner.status]
      split
      · exact Session.silent_pure _
      · refine (Tracker.silent_appliedRecords _).bind ?_
        rintro (failure | records)
        · exact Session.silent_pure _
        · exact Session.silent_pure _

/-- Only a run announces anything. -/
theorem silent_perform (reading : ¬ operation.Runs) :
    (runner.perform states operation).Silent := by
  obtain ⟨_, session, f, inquiry, same⟩ := runner.exists_inquiry states reading
  rw [same]
  exact inquiry.silent.bind fun _ => Session.silent_pure _

/-- Only a run changes what is remembered. -/
theorem remembered_of_perform (reading : ¬ operation.Runs) {value : RunStates × Outcome}
    (dialogue : (runner.perform states operation).Dialogue exchanged value) :
    value.1 = states := by
  obtain ⟨_, session, f, _, same⟩ := runner.exists_inquiry states reading
  rw [same] at dialogue
  obtain ⟨_, _, _, _, _, returned⟩ := Session.dialogue_bind_iff.mp dialogue
  exact congrArg Prod.fst (Session.dialogue_pure_iff.mp returned).2

/-- What an operation does to a recording database. -/
theorem afterSession_perform (runner : Runner) (operation : Operation) (states : RunStates)
    (refusals : Refusals) (db : Recording) :
    db.afterSession refusals states (runner.perform states operation) =
      (Use.mk runner operation states refusals).after db := by
  cases operation <;> exact congrArg Prod.snd (Session.hold_bind_pure _ _ _ _ _)

/-- Only a run changes the rows. -/
theorem holds_of_perform (reading : ¬ operation.Runs) (spares : refusals.SparesRollback)
    (h : db.Holds rows [] false) :
    (db.afterSession refusals states (runner.perform states operation)).Holds rows [] false := by
  rw [afterSession_perform]
  exact (Use.mk runner operation states refusals).holds_after_of_not_runs reading spares h

end Runner

namespace History

open Runner (Operation Outcome)

variable {σ : Type}

/-- What a runner remembers, and a database. -/
structure World (σ : Type) where
  states : RunStates
  database : σ

/-- What happens to a runner and a database. -/
inductive Event (σ : Type)
  | /-- The runner, as its source and settings are by then, carries out an operation. -/
    use (runner : Runner) (operation : Operation) (answering : Answering σ)
  | /-- Others change the database. -/
    change (f : σ → σ)

namespace Event

/-- What an event returns, if it is an operation. -/
def outcome? (world : World σ) : Event σ → Option Outcome
  | .use runner operation answering =>
    some ((runner.perform world.states operation).hold answering world.states world.database).1.2
  | .change _ => none

/-- The world after an event. -/
def after (world : World σ) : Event σ → World σ
  | .use runner operation answering =>
    match (runner.perform world.states operation).hold answering world.states world.database with
    | ((states, _), database) => ⟨states, database⟩
  | .change f => { world with database := f world.database }

/-- What the runner comes to remember during an event, one change after another. -/
def announcements (world : World σ) : Event σ → List RunStates
  | .use runner operation answering =>
    (runner.perform world.states operation).announcements answering world.states world.database
  | .change _ => []

end Event

/-- The world after some events. -/
def after (world : World σ) (events : List (Event σ)) : World σ :=
  events.foldl (fun world event => event.after world) world

/-- What the events return, one after another. -/
def outcomes : World σ → List (Event σ) → List (Option Outcome)
  | _, [] => []
  | world, event :: later => event.outcome? world :: outcomes (event.after world) later

/-- What the runner comes to remember during some events, one change after another. -/
def announcements : World σ → List (Event σ) → List RunStates
  | _, [] => []
  | world, event :: later => event.announcements world ++ announcements (event.after world) later

variable {world : World σ} {runner : Runner} {operation : Operation} {answering : Answering σ}

theorem after_of_runs (runs : operation.Runs) :
    (Event.use runner operation answering).after world =
      ⟨((runner.run world.states).hold answering world.states world.database).1.1,
        ((runner.run world.states).hold answering world.states world.database).2⟩ := by
  simp only [Event.after, Runner.perform_of_runs runs, Session.hold_bind_pure]

theorem announcements_of_runs (runs : operation.Runs) :
    (Event.use runner operation answering).announcements world =
      (runner.run world.states).announcements answering world.states world.database := by
  simp only [Event.announcements, Runner.perform_of_runs runs, Session.announcements_bind_pure]

theorem states_after_of_reading (reading : ¬ operation.Runs) :
    ((Event.use runner operation answering).after world).states = world.states :=
  Runner.remembered_of_perform reading (Session.dialogue_exchanges _ _ _ _)

theorem announcements_of_reading (reading : ¬ operation.Runs) :
    (Event.use runner operation answering).announcements world = [] :=
  (Runner.silent_perform reading).announcements_eq_nil _ _ _

end History

end MigrationLedger
