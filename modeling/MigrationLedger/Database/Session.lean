/-
# Sessions

Everything that is done to a database is a session: a tree whose nodes are calls
and whose branches are the answers. Nothing is assumed about the database, so a
statement about a session holds for every way in which calls may be answered.
What a database does is said separately, by a function that answers calls.

A session may also announce the states that a runner remembers. The announcement
asks for nothing; it makes visible what an observer of the runner would see while
the next call is under way.
-/

import MigrationLedger.Database.Error
import MigrationLedger.Migration.State

namespace MigrationLedger

/-- A value bound to a placeholder. Fresh identifiers and the current time come
into being when the call is made. -/
inductive Parameter
  | text (value : String)
  | freshId
  | now
  deriving DecidableEq, Repr

/-- A call on a database. All calls but `connect` go to the connection that was
opened last; opening one closes the one before. -/
inductive Call
  | connect
  | batch (sql : String)
  | execute (sql : String) (parameters : List Parameter)
  | count (sql : String) (parameters : List Parameter)
  | rows (sql : String) (parameters : List Parameter)
  deriving DecidableEq, Repr

namespace Call

/-- What a call that succeeds is answered with. -/
@[reducible]
def Reply : Call → Type
  | .connect => Unit
  | .batch _ => Unit
  | .execute _ _ => Nat
  | .count _ _ => Int
  | .rows _ _ => List (List String)

/-- What a call is answered with. -/
@[reducible]
def Answer (call : Call) : Type := Except DbError call.Reply

/-- The statement that is sent, empty for a new connection. -/
def sql : Call → String
  | .connect => ""
  | .batch sql | .execute sql _ | .count sql _ | .rows sql _ => sql

end Call

/-- A dialogue with a database that ends in a value. -/
inductive Session (α : Type) : Type where
  | done (value : α)
  | ask (call : Call) (next : call.Answer → Session α)
  | announce (states : RunStates) (next : Session α)

namespace Session

variable {α β σ : Type}

/-- Continue a session with what follows from its value. -/
def bind : Session α → (α → Session β) → Session β
  | .done value, f => f value
  | .ask call next, f => .ask call fun answer => (next answer).bind f
  | .announce states next, f => .announce states (next.bind f)

instance : Monad Session where
  pure := done
  bind := bind

/-- Make one call. -/
def call (call : Call) : Session call.Answer := .ask call .done

/-- Hold a session with a database. `answer` says how a database in some state
answers a call while a runner remembers some states, and what the database is
like afterwards. -/
def hold (answer : RunStates → σ → (call : Call) → call.Answer × σ) :
    RunStates → σ → Session α → α × σ
  | _, database, .done value => (value, database)
  | states, database, .ask call next =>
    match answer states database call with
    | (reply, database) => (next reply).hold answer states database
  | _, database, .announce states next => next.hold answer states database

end Session

end MigrationLedger
