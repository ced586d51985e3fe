/-
# What a runner remembers at rest

A runner remembers how its last attempt at a migration ended, and between two operations
it remembers nothing else. The attempts are read off from what is exchanged with the
database, whatever that answers: each operation that runs migrations follows a round of
the grammar, and the course of the round tells which migrations were attempted and how
the attempts ended. What is remembered after many events is then a fold over the attempts
made in all of them.
-/

import MigrationLedger.Proofs.Runner.History

namespace MigrationLedger

/-- Only how attempts have ended is remembered. -/
def RunStates.Settled (states : RunStates) : Prop :=
  ∀ entry ∈ states, entry.2 = .applied ∨ entry.2 = .failed

theorem RunStates.mem_of_state? {states : RunStates} {name : MigrationName}
    {state : MigrationState} (remembered : states.state? name = some state) :
    (name, state) ∈ states := by
  obtain ⟨front, back, rfl, _⟩ := List.lookup_eq_some_iff.mp remembered
  simp

theorem RunStates.Settled.state?_ne_applying {states : RunStates} (settled : states.Settled)
    (name : MigrationName) : states.state? name ≠ some .applying := by
  intro applying
  rcases settled _ (RunStates.mem_of_state? applying) with same | same
  · cases same
  · cases same

namespace Runner

/-- An attempt at a migration, and how it ended. -/
abbrev Tried := MigrationName × Except Failure Unit

variable {states : RunStates} {name : MigrationName}

/-- The state that an attempt leaves a migration in. -/
def stateAfter : Except Failure Unit → MigrationState
  | .ok _ => .applied
  | .error _ => .failed

/-- What is remembered after some attempts. -/
def remember (states : RunStates) (tried : List Tried) : RunStates :=
  tried.foldl
    (fun states attempt => Course.attempted states attempt.1 (stateAfter attempt.2)) states

theorem remember_append (states : RunStates) (first second : List Tried) :
    remember states (first ++ second) = remember (remember states first) second :=
  List.foldl_append

theorem state?_attempted_self (states : RunStates) (name : MigrationName)
    (state : MigrationState) : (Course.attempted states name state).state? name = some state :=
  RunStates.state?_set_self _ _ _

theorem state?_attempted_of_ne (states : RunStates) (state : MigrationState)
    {other : MigrationName} (different : other ≠ name) :
    (Course.attempted states name state).state? other = states.state? other := by
  rw [Course.attempted, RunStates.state?_set_of_ne _ _ different,
    RunStates.state?_set_of_ne _ _ different]

/-- The last attempt at a migration decides what is remembered of it. -/
theorem state?_remember (states : RunStates) (tried : List Tried) (name : MigrationName) :
    (remember states tried).state? name =
      ((tried.reverse.lookup name).map stateAfter).or (states.state? name) := by
  induction tried generalizing states with
  | nil => rfl
  | cons attempt later ih =>
      obtain ⟨found, outcome⟩ := attempt
      change (remember (Course.attempted states found (stateAfter outcome)) later).state? name = _
      rw [ih, List.reverse_cons, List.lookup_append, Option.map_or, Option.or_assoc]
      congr 1
      by_cases same : name = found
      · subst same
        rw [state?_attempted_self]
        simp
      · rw [state?_attempted_of_ne _ _ same, List.lookup_cons, beq_false_of_ne same]
        simp

theorem settled_attempted (settled : states.Settled) (name : MigrationName)
    {state : MigrationState} (ended : state = .applied ∨ state = .failed) :
    (Course.attempted states name state).Settled := by
  intro entry member
  rcases RunStates.mem_set_iff.mp member with rfl | ⟨member, different⟩
  · exact ended
  · rcases RunStates.mem_set_iff.mp member with rfl | ⟨member, _⟩
    · exact absurd rfl different
    · exact settled entry member

theorem settled_remember (settled : states.Settled) (tried : List Tried) :
    (remember states tried).Settled := by
  induction tried generalizing states with
  | nil => exact settled
  | cons attempt later ih =>
      apply ih (settled_attempted settled attempt.1 _)
      cases attempt.2 with
      | ok _ => exact .inl rfl
      | error failure => exact .inr rfl

/-- The attempts of a run, in order. -/
def Course.tried (course : Course) : List Tried :=
  course.applied.map (fun name => (name, .ok ())) ++
    match course.stop with
    | some ⟨name, true, failure⟩ => [(name, .error failure)]
    | _ => []

theorem Course.remembered_eq (course : Course) (states : RunStates) :
    course.remembered states = remember states course.tried := by
  rw [Course.tried, remember_append, remember, remember, List.foldl_map]
  obtain ⟨applied, skipped, _ | ⟨name, _ | _, failure⟩⟩ := course <;> rfl

end Runner

namespace History

open Runner (Operation Tried remember)

variable {σ : Type} {world : World σ} {events : List (Event σ)}

/-- The attempts that are made during an event. -/
inductive Event.Tries (world : World σ) : Event σ → List Tried → Prop
  | /-- A run makes the attempts of its course. -/
    ran {runner : Runner} {operation : Operation} {answering : Answering σ}
      {migrations : List Migration} {ignored : List MigrationName} {course : Runner.Course}
      (runs : operation.Runs) (known : runner.recognized = .ok (migrations, ignored))
      (round : runner.Round migrations
        ((runner.perform world.states operation).exchanges answering world.states world.database)
        course) :
      Tries world (.use runner operation answering) course.tried
  | /-- Without known migrations none is attempted. -/
    unrecognized {runner : Runner} {operation : Operation} {answering : Answering σ}
      {failure : Failure} (unknown : runner.recognized = .error failure) :
      Tries world (.use runner operation answering) []
  | /-- Other operations attempt nothing. -/
    reading {runner : Runner} {operation : Operation} {answering : Answering σ}
      (reading : ¬ operation.Runs) : Tries world (.use runner operation answering) []
  | /-- Others make no attempts of the runner. -/
    changed (f : σ → σ) : Tries world (.change f) []

/-- The attempts that are made during some events, in order. -/
inductive Tries : World σ → List (Event σ) → List Tried → Prop
  | nil (world : World σ) : Tries world [] []
  | cons {world : World σ} {event : Event σ} {later : List (Event σ)} {tried others : List Tried}
      (first : event.Tries world tried) (rest : Tries (event.after world) later others) :
      Tries world (event :: later) (tried ++ others)

theorem Event.exists_tries (world : World σ) (event : Event σ) :
    ∃ tried, event.Tries world tried ∧
      (event.after world).states = remember world.states tried := by
  cases event with
  | change f => exact ⟨[], .changed f, rfl⟩
  | use runner operation answering =>
      by_cases runs : operation.Runs
      · have said := Session.dialogue_exchanges answering (runner.run world.states)
          world.states world.database
        cases recognized : runner.recognized with
        | error failure =>
            refine ⟨[], .unrecognized recognized, ?_⟩
            rw [after_of_runs runs, ((Runner.dialogue_run_of_unrecognized recognized).mp said).2]
            rfl
        | ok found =>
            obtain ⟨course, round, returned⟩ := (Runner.dialogue_run_iff recognized).mp said
            refine ⟨course.tried, .ran runs recognized ?_, ?_⟩
            · rwa [Runner.perform_of_runs runs, Session.exchanges_bind_pure]
            · rw [after_of_runs runs, returned]
              exact course.remembered_eq world.states
      · exact ⟨[], .reading runs, states_after_of_reading runs⟩

/-- What is remembered after some events are the attempts made during them. -/
theorem exists_tries (world : World σ) (events : List (Event σ)) :
    ∃ tried, Tries world events tried ∧
      (after world events).states = remember world.states tried := by
  induction events generalizing world with
  | nil => exact ⟨[], .nil world, rfl⟩
  | cons event later ih =>
      obtain ⟨tried, first, changed⟩ := event.exists_tries world
      obtain ⟨others, rest, remembered⟩ := ih (event.after world)
      refine ⟨tried ++ others, .cons first rest, ?_⟩
      rw [Runner.remember_append, ← changed]
      exact remembered

end History

end MigrationLedger
