/-
# What a transaction says to its database

A transaction sends `BEGIN TRANSACTION`, what its body sends, and one ending. The
ending is told apart by how the body went and by what was wanted of it: a commit,
a commit that is refused and followed by a rollback, or a rollback alone. The main
statement is that the dialogues of a transaction are exactly these, whatever the
body and whatever the answers.
-/

import MigrationLedger.Database.Transaction
import MigrationLedger.Proofs.Session.Dialogue

namespace MigrationLedger.Transaction

variable {α ε : Type}

/-- The error that a refused `BEGIN TRANSACTION` is reported as. -/
def beginError (error : DbError) : DbError :=
  .transaction ("BEGIN failed: " ++ error.message)

/-- The error that a refused `COMMIT` is reported as. -/
def commitError (error : DbError) : DbError :=
  .transaction ("COMMIT failed: " ++ error.message)

/-- How a transaction is closed: what it was wanted to end with, the outcome of
its body, what is exchanged, and the outcome of the whole. -/
inductive Closing (failure : DbError → ε) :
    Ending → Except ε α → List Exchange → Except ε α → Prop
  | /-- The body failed. The answer to the rollback does not matter. -/
    failed {ending : Ending} (error : ε) (answer : (Call.batch "ROLLBACK").Answer) :
      Closing failure ending (.error error) [⟨.batch "ROLLBACK", answer⟩] (.error error)
  | /-- The transaction is given up although its body succeeded. -/
    abandoned (value : α) (answer : (Call.batch "ROLLBACK").Answer) :
      Closing failure .abandon (.ok value) [⟨.batch "ROLLBACK", answer⟩] (.ok value)
  | /-- The commit was accepted. -/
    committed (value : α) :
      Closing failure .commit (.ok value) [⟨.batch "COMMIT", .ok ()⟩] (.ok value)
  | /-- The commit was refused, so the transaction is rolled back. -/
    refused (value : α) (error : DbError) (answer : (Call.batch "ROLLBACK").Answer) :
      Closing failure .commit (.ok value)
        [⟨.batch "COMMIT", .error error⟩, ⟨.batch "ROLLBACK", answer⟩]
        (.error (failure (commitError error)))

theorem dialogue_begin_iff {outcome : Except DbError Unit} {exchanged : List Exchange} :
    begin.Dialogue exchanged outcome ↔
      (exchanged = [⟨.batch "BEGIN TRANSACTION", .ok ()⟩] ∧ outcome = .ok ()) ∨
        ∃ error, exchanged = [⟨.batch "BEGIN TRANSACTION", .error error⟩] ∧
          outcome = .error (beginError error) := by
  rw [begin, Session.dialogue_call_bind_iff]
  constructor
  · rintro ⟨answer, later, rfl, rest⟩
    cases answer with
    | ok reply =>
        obtain ⟨rfl, rfl⟩ := Session.dialogue_pure_iff.mp rest
        exact .inl ⟨rfl, rfl⟩
    | error error =>
        obtain ⟨rfl, rfl⟩ := Session.dialogue_pure_iff.mp rest
        exact .inr ⟨error, rfl, rfl⟩
  · rintro (⟨rfl, rfl⟩ | ⟨error, rfl, rfl⟩)
    · exact ⟨.ok (), [], rfl, Session.dialogue_pure_iff.mpr ⟨rfl, rfl⟩⟩
    · exact ⟨.error error, [], rfl, Session.dialogue_pure_iff.mpr ⟨rfl, rfl⟩⟩

/-- A session that ends in a value after rolling back exchanges the rollback. -/
theorem dialogue_rollback_return_iff {value outcome : α} {exchanged : List Exchange} :
    (do rollback; return value : Session α).Dialogue exchanged outcome ↔
      (∃ answer, exchanged = [⟨.batch "ROLLBACK", answer⟩]) ∧ outcome = value := by
  change (Session.call (.batch "ROLLBACK") >>= fun _ => pure value).Dialogue _ _ ↔ _
  rw [Session.dialogue_call_bind_iff]
  constructor
  · rintro ⟨answer, later, rfl, rest⟩
    obtain ⟨rfl, rfl⟩ := Session.dialogue_pure_iff.mp rest
    exact ⟨⟨answer, rfl⟩, rfl⟩
  · rintro ⟨⟨answer, rfl⟩, rfl⟩
    exact ⟨answer, [], rfl, Session.dialogue_pure_iff.mpr ⟨rfl, rfl⟩⟩

theorem dialogue_commit_iff {outcome : Except DbError Unit} {exchanged : List Exchange} :
    commit.Dialogue exchanged outcome ↔
      (exchanged = [⟨.batch "COMMIT", .ok ()⟩] ∧ outcome = .ok ()) ∨
        ∃ error answer,
          exchanged = [⟨.batch "COMMIT", .error error⟩, ⟨.batch "ROLLBACK", answer⟩] ∧
            outcome = .error (commitError error) := by
  rw [commit, Session.dialogue_call_bind_iff]
  constructor
  · rintro ⟨answer, later, rfl, rest⟩
    cases answer with
    | ok reply =>
        obtain ⟨rfl, rfl⟩ := Session.dialogue_pure_iff.mp rest
        exact .inl ⟨rfl, rfl⟩
    | error error =>
        obtain ⟨⟨answer, rfl⟩, rfl⟩ := dialogue_rollback_return_iff.mp rest
        exact .inr ⟨error, answer, rfl, rfl⟩
  · rintro (⟨rfl, rfl⟩ | ⟨error, answer, rfl, rfl⟩)
    · exact ⟨.ok (), [], rfl, Session.dialogue_pure_iff.mpr ⟨rfl, rfl⟩⟩
    · exact ⟨.error error, _, rfl, dialogue_rollback_return_iff.mpr ⟨⟨answer, rfl⟩, rfl⟩⟩

/-- The part of a transaction behind its body. -/
def close (failure : DbError → ε) (ending : Ending) :
    Except ε α → Session (Except ε α)
  | .error error => do
    rollback
    return .error error
  | .ok value =>
    match ending with
    | .abandon => do
      rollback
      return .ok value
    | .commit => do
      match ← commit with
      | .ok () => return .ok value
      | .error error => return .error (failure error)

theorem scope_eq (failure : DbError → ε) (ending : Ending) (body : Session (Except ε α)) :
    scope failure ending body = (do
      match ← begin with
      | .error error => return .error (failure error)
      | .ok () => body >>= close failure ending) := rfl

theorem dialogue_close_iff {failure : DbError → ε} {ending : Ending}
    {inner outcome : Except ε α} {exchanged : List Exchange} :
    (close failure ending inner).Dialogue exchanged outcome ↔
      Closing failure ending inner exchanged outcome := by
  constructor
  · intro dialogue
    cases inner with
    | error error =>
        obtain ⟨⟨answer, rfl⟩, rfl⟩ := dialogue_rollback_return_iff.mp dialogue
        exact .failed error answer
    | ok value =>
        cases ending with
        | abandon =>
            obtain ⟨⟨answer, rfl⟩, rfl⟩ := dialogue_rollback_return_iff.mp dialogue
            exact .abandoned value answer
        | commit =>
            obtain ⟨first, second, answer, rfl, committed, ended⟩ :=
              Session.dialogue_bind_iff.mp dialogue
            rcases dialogue_commit_iff.mp committed with
              ⟨rfl, rfl⟩ | ⟨error, answer, rfl, rfl⟩
            · obtain ⟨rfl, rfl⟩ := Session.dialogue_pure_iff.mp ended
              exact .committed value
            · obtain ⟨rfl, rfl⟩ := Session.dialogue_pure_iff.mp ended
              exact .refused value error answer
  · intro closing
    cases closing with
    | failed error answer => exact dialogue_rollback_return_iff.mpr ⟨⟨answer, rfl⟩, rfl⟩
    | abandoned value answer => exact dialogue_rollback_return_iff.mpr ⟨⟨answer, rfl⟩, rfl⟩
    | committed value =>
        exact Session.dialogue_bind_iff.mpr ⟨_, [], .ok (), rfl,
          dialogue_commit_iff.mpr (.inl ⟨rfl, rfl⟩), Session.dialogue_pure_iff.mpr ⟨rfl, rfl⟩⟩
    | refused value error answer =>
        exact Session.dialogue_bind_iff.mpr ⟨_, [], .error (commitError error), rfl,
          dialogue_commit_iff.mpr (.inr ⟨error, answer, rfl, rfl⟩),
          Session.dialogue_pure_iff.mpr ⟨rfl, rfl⟩⟩

/-- A transaction opens, says what its body says, and closes. One that cannot be
opened says nothing more. -/
theorem dialogue_scope_iff {failure : DbError → ε} {ending : Ending}
    {body : Session (Except ε α)} {outcome : Except ε α} {exchanged : List Exchange} :
    (scope failure ending body).Dialogue exchanged outcome ↔
      (∃ error, exchanged = [⟨.batch "BEGIN TRANSACTION", .error error⟩] ∧
          outcome = .error (failure (beginError error))) ∨
        ∃ inside closing inner,
          exchanged = ⟨.batch "BEGIN TRANSACTION", .ok ()⟩ :: (inside ++ closing) ∧
            body.Dialogue inside inner ∧ Closing failure ending inner closing outcome := by
  rw [scope_eq, Session.dialogue_bind_iff]
  constructor
  · rintro ⟨first, second, opened, rfl, opening, rest⟩
    rcases dialogue_begin_iff.mp opening with ⟨rfl, rfl⟩ | ⟨error, rfl, rfl⟩
    · obtain ⟨inside, closing, inner, rfl, said, closed⟩ := Session.dialogue_bind_iff.mp rest
      exact .inr ⟨inside, closing, inner, rfl, said, dialogue_close_iff.mp closed⟩
    · obtain ⟨rfl, rfl⟩ := Session.dialogue_pure_iff.mp rest
      exact .inl ⟨error, rfl, rfl⟩
  · rintro (⟨error, rfl, rfl⟩ | ⟨inside, closing, inner, rfl, said, closed⟩)
    · exact ⟨_, [], _, rfl, dialogue_begin_iff.mpr (.inr ⟨error, rfl, rfl⟩),
        Session.dialogue_pure_iff.mpr ⟨rfl, rfl⟩⟩
    · exact ⟨_, inside ++ closing, .ok (), rfl, dialogue_begin_iff.mpr (.inl ⟨rfl, rfl⟩),
        Session.dialogue_bind_iff.mpr
          ⟨inside, closing, inner, rfl, said, dialogue_close_iff.mpr closed⟩⟩

end MigrationLedger.Transaction
