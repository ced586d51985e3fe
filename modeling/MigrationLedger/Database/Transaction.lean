/-
# Transactions

A transaction is a stretch of a session between a successful `BEGIN TRANSACTION`
and exactly one ending. It is rolled back when its body fails, when it is
abandoned, and when committing fails; the answer to a rollback is not looked at,
because nothing could be done about it.
-/

import MigrationLedger.Database.Session

namespace MigrationLedger

/-- How a transaction whose body succeeds is ended. -/
inductive Ending
  | commit
  | abandon
  deriving DecidableEq, Repr

namespace Transaction

variable {α ε : Type}

/-- Open a transaction. -/
def begin : Session (Except DbError Unit) := do
  match ← Session.call (.batch "BEGIN TRANSACTION") with
  | .ok () => return .ok ()
  | .error error => return .error (.transaction ("BEGIN failed: " ++ error.message))

/-- Roll back, whatever comes of it. -/
def rollback : Session Unit := do
  let _ ← Session.call (.batch "ROLLBACK")

/-- Commit, and roll back when that fails. -/
def commit : Session (Except DbError Unit) := do
  match ← Session.call (.batch "COMMIT") with
  | .ok () => return .ok ()
  | .error error =>
    rollback
    return .error (.transaction ("COMMIT failed: " ++ error.message))

/-- Run `body` in a transaction. `failure` is what a failed `BEGIN` or `COMMIT`
means to the caller. -/
def scope (failure : DbError → ε) (ending : Ending) (body : Session (Except ε α)) :
    Session (Except ε α) := do
  match ← begin with
  | .error error => return .error (failure error)
  | .ok () =>
    match ← body with
    | .error error =>
      rollback
      return .error error
    | .ok value =>
      match ending with
      | .abandon =>
        rollback
        return .ok value
      | .commit =>
        match ← commit with
        | .ok () => return .ok value
        | .error error => return .error (failure error)

end Transaction

end MigrationLedger
