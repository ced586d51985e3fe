/-
# Operations that only read are invisible

A status, a validation, a preparation that only validates and the questions about what is
recorded open connections, and a validation even begins and commits a transaction. All of
this happens on the database that later runs use. Yet whether it happened cannot be told
afterwards: on a database without an open transaction such an operation changes the log
and nothing else, whatever failed before, and a refusal that depends on the call alone
does not look at the log.

So two histories are compared that differ in some of these operations. What is preserved
along both of them is that the worlds differ in the logs of their databases only, and that
the database is idle.
-/

import MigrationLedger.Proofs.Recording.Log
import MigrationLedger.Proofs.Runner.History

namespace MigrationLedger

/-- No transaction is open, and nothing is uncommitted. -/
def Recording.Idle (db : Recording) : Prop := db.Holds db.committed [] false

theorem Recording.Holds.idle {db : Recording} {rows : List RecordedRow}
    (h : db.Holds rows [] false) : db.Idle := ⟨rfl, h.uncommitted_eq, h.open_eq⟩

/-! ## What is said by operations that only read -/

theorem Call.Reads.kind_ne_execute {call : Call} (reads : call.Reads) : call.kind ≠ .execute := by
  cases call with
  | connect | count | rows => simp [Call.kind]
  | batch | execute => exact reads.elim

/-- A transaction inserts nothing if its body does not. -/
theorem Transaction.kind_ne_execute_of_scope {α ε : Type} {failure : DbError → ε}
    {ending : Ending} {body : Session (Except ε α)} {exchanged : List Exchange}
    {outcome : Except ε α}
    (others : ∀ inside inner, body.Dialogue inside inner →
      ∀ exchange ∈ inside, exchange.call.kind ≠ .execute)
    (dialogue : (scope failure ending body).Dialogue exchanged outcome) :
    ∀ exchange ∈ exchanged, exchange.call.kind ≠ .execute := by
  rcases dialogue_scope_iff.mp dialogue with
    ⟨error, rfl, _⟩ | ⟨inside, closing, inner, rfl, said, closed⟩
  · simp [Call.kind]
  · rw [List.forall_mem_cons, List.forall_mem_append]
    refine ⟨by simp [Call.kind], others inside inner said, ?_⟩
    cases closed <;> simp [Call.kind]

theorem Validation.kind_ne_execute_of_validate {tables : List String} {exchanged : List Exchange}
    {outcome : Except Failure Unit} (dialogue : (validate tables).Dialogue exchanged outcome) :
    ∀ exchange ∈ exchanged, exchange.call.kind ≠ .execute := by
  rw [validate] at dialogue
  obtain ⟨connected, later, rfl, said⟩ := Session.dialogue_call_bind_iff.mp dialogue
  rw [List.forall_mem_cons]
  refine ⟨by simp [Call.kind], ?_⟩
  cases connected with
  | error error =>
      obtain ⟨rfl, _⟩ := Session.dialogue_pure_iff.mp said
      simp
  | ok _ =>
      obtain ⟨_, within⟩ := Session.dialogue_of_bind_pure
        (by rintro (failure | _ | _) <;> exact ⟨_, rfl⟩) said
      refine Transaction.kind_ne_execute_of_scope ?_ within
      intro inside inner asked exchange member
      obtain ⟨_, counted⟩ := Session.dialogue_of_bind_pure (fun _ => ⟨_, rfl⟩) asked
      exact (reads_of_allAnswer counted exchange member).kind_ne_execute

namespace Runner

variable {runner : Runner} {states : RunStates} {operation : Operation} {refusals : Refusals}
  {db : Recording} {exchanged : List Exchange}

theorem Inquiry.kind_ne_execute {α : Type} {session : Session α} {value : α}
    (inquiry : runner.Inquiry states session) (dialogue : session.Dialogue exchanged value) :
    ∀ exchange ∈ exchanged, exchange.call.kind ≠ .execute := by
  cases inquiry with
  | validate => exact Validation.kind_ne_execute_of_validate dialogue
  | status =>
      exact fun exchange member => (reads_of_status dialogue exchange member).kind_ne_execute
  | isApplied name =>
      exact fun exchange member =>
        ((dialogue_isApplied_iff.mp dialogue).reads exchange member).kind_ne_execute
  | appliedRecords =>
      exact fun exchange member =>
        (Tracker.reads_of_appliedRecords dialogue exchange member).kind_ne_execute

/-- Only a run inserts anything. -/
theorem kind_ne_execute_of_perform (reading : ¬ operation.Runs) {value : RunStates × Outcome}
    (dialogue : (runner.perform states operation).Dialogue exchanged value) :
    ∀ exchange ∈ exchanged, exchange.call.kind ≠ .execute := by
  obtain ⟨_, session, f, inquiry, same⟩ := runner.exists_inquiry states reading
  rw [same] at dialogue
  obtain ⟨_, asked⟩ := Session.dialogue_of_bind_pure (fun _ => ⟨_, rfl⟩) dialogue
  exact inquiry.kind_ne_execute asked

/-- An operation that only reads changes the log of an idle database and nothing else. -/
theorem exists_afterSession_eq_withLog (reading : ¬ operation.Runs)
    (spares : refusals.SparesRollback) (idle : db.Idle) :
    ∃ log, db.afterSession refusals states (runner.perform states operation) =
      db.withLog log := by
  obtain ⟨exchanged, _, dialogue, leads⟩ :=
    Recording.exists_dialogue_leads (runner.perform states operation) refusals states db
  have stock := leads.sameStock (kind_ne_execute_of_perform reading dialogue)
  exact ⟨_, stock.eq_withLog idle (holds_of_perform reading spares idle)⟩

end Runner

namespace History

open Runner (asking scriptName single)

variable {world other : World Recording} {event : Event Recording}

/-! ## Worlds that differ in their logs -/

/-- The same is remembered, and the databases differ in their logs only. -/
def World.Alike (world other : World Recording) : Prop :=
  other.states = world.states ∧ ∃ log, other.database = world.database.withLog log

/-- The event is an operation that runs nothing. -/
def Event.Reads : Event Recording → Prop
  | .use _ operation _ => ¬ operation.Runs
  | .change _ => False


/-- Uses with refusals that depend on the call alone and spare rollbacks, and changes of
the rows by others. -/
inductive Event.Steady : Event Recording → Prop
  | use (runner : Runner) (operation : Runner.Operation) {refusals : Refusals}
      (forgetful : refusals.Forgetful) (spares : refusals.SparesRollback) :
      Steady (.use runner operation (Recording.answering refusals))
  | arrival (name : String) : Steady (.change fun db => db.insertCommitted name)
  | removal (names : List String) : Steady (.change fun db => db.forget names)

namespace Event.Steady

/-- A steady event leaves an idle database idle. -/
theorem idle_after (steady : event.Steady) (idle : world.database.Idle) :
    (event.after world).database.Idle := by
  cases steady with
  | arrival name => exact ⟨rfl, idle.uncommitted_eq, idle.open_eq⟩
  | removal names => exact ⟨rfl, idle.uncommitted_eq, idle.open_eq⟩
  | @use runner operation refusals _ spares =>
      change (world.database.afterSession refusals world.states
        (runner.perform world.states operation)).Idle
      rw [Runner.afterSession_perform]
      obtain ⟨_, holds⟩ :=
        (Runner.Use.mk runner operation world.states refusals).exists_holds_after spares idle
      exact holds.idle

/-- A steady event goes the same way in worlds that differ in their logs. -/
theorem alike (steady : event.Steady) (same : world.Alike other) :
    event.outcome? other = event.outcome? world ∧
      (event.after world).Alike (event.after other) := by
  obtain ⟨states, database⟩ := other
  obtain ⟨rfl, log, rfl⟩ := same
  cases steady with
  | arrival name => exact ⟨rfl, rfl, log, rfl⟩
  | removal names => exact ⟨rfl, rfl, log, rfl⟩
  | use runner operation forgetful spares =>
      obtain ⟨later, held⟩ := Recording.exists_hold_withLog forgetful
        (runner.perform world.states operation) world.states world.database log
      simp only [Event.outcome?, Event.after, held]
      exact ⟨trivial, rfl, later, rfl⟩

/-- A steady operation that only reads changes nothing but the log. -/
theorem alike_after (steady : event.Steady) (reads : event.Reads) (idle : world.database.Idle) :
    world.Alike (event.after world) := by
  cases steady with
  | arrival name => exact reads.elim
  | removal names => exact reads.elim
  | use runner operation forgetful spares =>
      obtain ⟨log, changed⟩ := Runner.exists_afterSession_eq_withLog reads spares idle
      exact ⟨states_after_of_reading reads, log, changed⟩

end Event.Steady

/-- Worlds that differ from a third one in their logs differ from each other in their logs. -/
theorem World.Alike.of_alike {first second third : World Recording} (before : first.Alike second)
    (after : first.Alike third) : second.Alike third := by
  obtain ⟨states, log, database⟩ := before
  obtain ⟨states', log', database'⟩ := after
  refine ⟨states'.trans states.symm, log', ?_⟩
  rw [database', database]
  rfl

/-! ## Histories with and without some operations -/

/-- The entries that are kept. -/
def kept {α : Type} (marked : List (Bool × α)) : List α := (marked.filter Prod.fst).map Prod.snd

theorem kept_cons_true {α : Type} (value : α) (later : List (Bool × α)) :
    kept ((true, value) :: later) = value :: kept later := rfl

theorem kept_cons_false {α : Type} (value : α) (later : List (Bool × α)) :
    kept ((false, value) :: later) = kept later := rfl

/-- A history and what is kept of it return the same and lead to the same, also when they
begin in worlds that differ in their logs. -/
theorem kept_of_alike {history : List (Bool × Event Recording)}
    (steady : ∀ entry ∈ history, entry.2.Steady)
    (reads : ∀ entry ∈ history, entry.1 = false → entry.2.Reads) (idle : world.database.Idle)
    (same : world.Alike other) :
    outcomes other (kept history) =
        kept ((history.map Prod.fst).zip (outcomes world (history.map Prod.snd))) ∧
      (after world (history.map Prod.snd)).Alike (after other (kept history)) := by
  induction history generalizing world other with
  | nil => exact ⟨rfl, same⟩
  | cons entry later ih =>
      obtain ⟨keep, event⟩ := entry
      rw [List.forall_mem_cons] at steady reads
      have idleAfter := steady.1.idle_after idle
      cases keep with
      | true =>
          obtain ⟨returned, sameAfter⟩ := steady.1.alike same
          obtain ⟨others, final⟩ := ih steady.2 reads.2 idleAfter sameAfter
          rw [kept_cons_true, outcomes, returned, others]
          exact ⟨rfl, final⟩
      | false =>
          -- Only the full history moves on, to a world that differs in its log.
          have sameAfter := (steady.1.alike_after (reads.1 rfl) idle).of_alike same
          rw [kept_cons_false]
          exact ih steady.2 reads.2 idleAfter sameAfter

/-- **Operations that only read are invisible.** Take a history of a runner, on a recording
database without an open transaction and with nothing uncommitted. Whether a call is
refused depends on the call alone, and rollbacks are never refused. Leave out any of the
operations that run nothing. Then the others return what they did, and in the end the same
rows are committed and the same is remembered. -/
theorem outcomes_kept (states : RunStates) (db : Recording)
    (history : List (Bool × Event Recording)) (idle : db.inTransaction = false)
    (clean : db.uncommitted = []) (steady : ∀ entry ∈ history, entry.2.Steady)
    (reads : ∀ entry ∈ history, entry.1 = false → entry.2.Reads) :
    outcomes ⟨states, db⟩ (kept history) =
        kept ((history.map Prod.fst).zip (outcomes ⟨states, db⟩ (history.map Prod.snd))) ∧
      (after ⟨states, db⟩ (kept history)).database.committed =
        (after ⟨states, db⟩ (history.map Prod.snd)).database.committed ∧
      (after ⟨states, db⟩ (kept history)).states =
        (after ⟨states, db⟩ (history.map Prod.snd)).states := by
  have start : (World.mk states db).Alike (World.mk states db) := ⟨rfl, db.log, rfl⟩
  have still : (World.mk states db).database.Idle := ⟨rfl, clean, idle⟩
  obtain ⟨returned, remembered, log, database⟩ := kept_of_alike steady reads still start
  refine ⟨returned, ?_, remembered⟩
  rw [database]
  rfl

/-- Refuse every commit. -/
def commitRule : RecordingRule :=
  { kind := some .batch, containing := "COMMIT", error := some (.execution "refused") }

/-- A run whose commit is refused, a run that succeeds and the records of it, with a
validation and a status in between. -/
def interrupted : List (Bool × Event Recording) :=
  [(true, .use (single asking) .run
      (Recording.answering (Recording.ruleRefusals [commitRule] 0))),
    (false, .use (single asking) .validate
      (Recording.answering (Recording.ruleRefusals [commitRule] 0))),
    (true, .use (single asking) .run (Recording.answering .none)),
    (false, .use (single asking) .status (Recording.answering .none)),
    (true, .use (single asking) .appliedRecords (Recording.answering .none))]

/-- The validation, whose commit is refused too, and the status cannot be told from what
follows. -/
theorem outcomes_kept_interrupted :
    (∀ entry ∈ interrupted, entry.2.Steady) ∧
      (∀ entry ∈ interrupted, entry.1 = false → entry.2.Reads) ∧
      (after ⟨[], {}⟩ (kept interrupted)).states = [(scriptName, .applied)] ∧
      (after ⟨[], {}⟩ (interrupted.map Prod.snd)).states = [(scriptName, .applied)] := by
  have known : (single asking).recognized = .ok ([asking], []) := Runner.recognized_single _
  have steady : ∀ entry ∈ interrupted, entry.2.Steady := by
    have unlimited : Recording.Unlimited [commitRule] := by simp [Recording.Unlimited, commitRule]
    have spares : (Recording.ruleRefusals [commitRule] 0).SparesRollback := by
      intro db
      rw [Recording.ruleRefusals, unlimited.rulesLeft_eq]
      rfl
    have failing (operation : Runner.Operation) :=
      Event.Steady.use (single asking) operation (unlimited.forgetful 0) spares
    have passing (operation : Runner.Operation) := Event.Steady.use (single asking) operation
      Refusals.none_forgetful Refusals.none_sparesRollback
    simp [interrupted, failing, passing]
  have reads : ∀ entry ∈ interrupted, entry.1 = false → entry.2.Reads := by
    simp [interrupted, Event.Reads, Runner.Operation.Runs]
  have short : (after ⟨[], {}⟩ (kept interrupted)).states = [(scriptName, .applied)] := by
    simp only [after, kept, interrupted, List.filter, List.map, List.foldl, Event.after,
      Runner.perform, Runner.run, known]
    decide +kernel
  obtain ⟨_, _, same⟩ := outcomes_kept [] {} interrupted rfl rfl steady reads
  exact ⟨steady, reads, short, same.symm.trans short⟩

end History

end MigrationLedger
