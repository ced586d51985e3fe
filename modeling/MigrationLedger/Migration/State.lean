/-
# States of a migration

A migration is pending until a run takes it up. It is then applying, and ends
applied or failed; a failed one can be taken up again. A runner remembers the
last state of each migration that it has taken up.
-/

import MigrationLedger.Name

namespace MigrationLedger

/-- How far a migration has come. -/
inductive MigrationState
  | pending
  | applying
  | applied
  | failed
  deriving DecidableEq, Repr

namespace MigrationState

/-- The word for a state. -/
def title : MigrationState → String
  | .pending => "pending"
  | .applying => "applying"
  | .applied => "applied"
  | .failed => "failed"

/-- The state that a word names. -/
def ofTitle? : String → Option MigrationState
  | "pending" => some .pending
  | "applying" => some .applying
  | "applied" => some .applied
  | "failed" => some .failed
  | _ => none

/-- The steps that make sense: a migration is taken up when it is pending or
has failed, and its attempt ends one way or the other. -/
def canBecome : MigrationState → MigrationState → Bool
  | .pending, .applying => true
  | .failed, .applying => true
  | .applying, .applied => true
  | .applying, .failed => true
  | _, _ => false

@[simp]
theorem ofTitle?_title (state : MigrationState) : ofTitle? state.title = some state := by
  cases state <;> rfl

end MigrationState

/-- The last state of each migration that a runner has taken up. -/
abbrev RunStates := List (MigrationName × MigrationState)

namespace RunStates

/-- The state that is remembered for a name. -/
def state? (states : RunStates) (name : MigrationName) : Option MigrationState :=
  states.lookup name

/-- Remember a new state for a name. -/
def set (states : RunStates) (name : MigrationName) (state : MigrationState) : RunStates :=
  (name, state) :: states.filter fun entry => entry.1 != name

@[simp]
theorem state?_set_self (states : RunStates) (name : MigrationName) (state : MigrationState) :
    (states.set name state).state? name = some state := by
  simp [set, state?]

theorem mem_set_iff {states : RunStates} {name : MigrationName} {state : MigrationState}
    {entry : MigrationName × MigrationState} :
    entry ∈ states.set name state ↔
      entry = (name, state) ∨ entry ∈ states ∧ entry.1 ≠ name := by
  simp [set]

/-- Remembering a state for one name leaves the other names alone. -/
theorem state?_set_of_ne (states : RunStates) {name other : MigrationName}
    (state : MigrationState) (different : other ≠ name) :
    (states.set name state).state? other = states.state? other := by
  have kept (entries : RunStates) :
      (entries.filter fun entry => entry.1 != name).lookup other = entries.lookup other := by
    induction entries with
    | nil => rfl
    | cons entry rest ih =>
        obtain ⟨found, remembered⟩ := entry
        by_cases same : found = name
        · subst same
          simpa [List.lookup_cons, beq_false_of_ne different] using ih
        · simp [List.lookup_cons, same, ih]
  rw [set, state?, List.lookup_cons, beq_false_of_ne different]
  exact kept states

end RunStates

end MigrationLedger
