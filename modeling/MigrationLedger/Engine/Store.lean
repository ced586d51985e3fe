/-
# Stores

A store is a database in use: what is committed and the transactions that are
open, at most one to a connection. A transaction sees what was committed when its
first statement began and what it has done since. Committing it carries out its
effects once more, on what is committed by then. A statement outside a
transaction is a transaction of its own.

Two transactions that cannot both be committed are told apart early: a statement
is refused when one of its effects conflicts with an effect of another
transaction that it does not see. A statement that fails within a transaction
spoils it: nothing can be done then but to end it, and nothing of it is kept.
-/

import MigrationLedger.Database.Session
import MigrationLedger.Engine.Execution
import MigrationLedger.Engine.Reader

namespace MigrationLedger.Engine

/-- A transaction: how many effects had been committed when its first statement
began, what it sees, what it has done, and whether a statement of it failed. -/
structure Work where
  start : Option Nat := none
  view : Catalog := {}
  effects : List Effect := []
  failed : Bool := false

/-- A database in use. -/
structure Store where
  committed : Catalog := {}
  /-- The effects that were committed, the last one first. -/
  history : List Effect := []
  /-- The open transactions, by connection. -/
  works : List (Nat × Work) := []
  connections : Nat := 0
  nextRow : Nat := 0
  /-- What fresh identifiers are made of, and how many there have been. -/
  seed : Nat := 0
  issued : Nat := 0
  /-- The current moment. -/
  now : Int := 0

namespace Store

/-- The transaction of a connection. -/
def work? (store : Store) (connection : Nat) : Option Work :=
  store.works.lookup connection

/-- The store without the transaction of a connection. -/
def withoutWork (store : Store) (connection : Nat) : Store :=
  { store with works := store.works.filter fun entry => entry.1 != connection }

/-- The store with a transaction of a connection. -/
def withWork (store : Store) (connection : Nat) (work : Work) : Store :=
  { store.withoutWork connection with
    works := (connection, work) :: (store.withoutWork connection).works }

/-- Spoil the transaction of a connection, if there is one. -/
def spoil (store : Store) (connection : Nat) : Store :=
  match store.work? connection with
  | some work => store.withWork connection { work with failed := true }
  | none => store

/-- Open a connection. -/
def connect (store : Store) : Nat × Store :=
  (store.connections, { store with connections := store.connections + 1 })

/-- Close a connection. What its transaction did is lost. -/
def disconnect (store : Store) (connection : Nat) : Store :=
  store.withoutWork connection

/-- The effects of others that a transaction does not see: those of the other
open transactions, and those committed since it began. -/
def unseen (store : Store) (connection start : Nat) : List Effect :=
  (store.works.flatMap fun (other, work) => if other = connection then [] else work.effects) ++
    store.history.take (store.history.length - start)

/-- Refuse effects that conflict with what others do. -/
def checkConflicts (store : Store) (connection start : Nat) (effects : List Effect) :
    Except EngineError Unit :=
  match effects.find? fun effect => (store.unseen connection start).any effect.conflicts with
  | some effect =>
    let name := ((effect.defined?.map (·.2)).or effect.changed?).map Place.name
    .error (.conflict (name.getD ""))
  | none => .ok ()

/-- The number of rows that effects insert. -/
def inserted (effects : List Effect) : Nat :=
  effects.foldr (fun effect count =>
    match effect with
    | .insert _ rows => rows.length + count
    | _ => count) 0

/-- Commit effects. -/
def commit (store : Store) (effects : List Effect) : Except EngineError Store := do
  let committed ← store.committed.applyAll effects
  return { store with committed, history := effects.reverse ++ store.history }

/-- Begin a transaction. -/
def beginWork (store : Store) (connection : Nat) : Except EngineError Answer × Store :=
  match store.work? connection with
  | some _ => (.error .transactionOpen, store.spoil connection)
  | none => (.ok .done, store.withWork connection {})

/-- Commit the transaction of a connection. Nothing of a spoiled one is kept. -/
def commitWork (store : Store) (connection : Nat) : Except EngineError Answer × Store :=
  match store.work? connection with
  | none => (.error .noTransaction, store)
  | some work =>
    let store := store.withoutWork connection
    if work.failed then (.ok .done, store)
    else
      match store.commit work.effects with
      | .ok store => (.ok .done, store)
      | .error _ => (.error .commitFailed, store)

/-- Roll the transaction of a connection back. -/
def rollbackWork (store : Store) (connection : Nat) : Except EngineError Answer × Store :=
  match store.work? connection with
  | none => (.error .noTransaction, store)
  | some _ => (.ok .done, store.withoutWork connection)

/-- What a statement answers and does to the transaction that it is executed in.
A wrong number of parameters is noticed before anything is carried out, and
spoils nothing; it is told by the flag. -/
def carryOut (store : Store) (connection : Nat) (work : Work) (start : Nat) (reading : Reading)
    (parameters : List String) : Except (EngineError × Bool) (Answer × Work) := do
  let execution : Execution := ⟨work.view, ⟨parameters, store.now⟩, store.nextRow⟩
  match execution.statement reading.statement with
  | .error error => throw (error, true)
  | .ok prepared =>
    if parameters.length ≠ reading.placeholders then
      throw (.parameterCount reading.placeholders parameters.length, false)
    let after : Except EngineError (Answer × Work) := do
      let outcome ← prepared
      store.checkConflicts connection start outcome.effects
      let view ← work.view.applyAll outcome.effects
      return (outcome.answer, { work with
        start := some start, view, effects := work.effects ++ outcome.effects })
    match after with
    | .ok result => return result
    | .error error => throw (error, true)

/-- Execute a statement that is not about transactions. -/
def executeIn (store : Store) (connection : Nat) (reading : Reading) (parameters : List String) :
    Except EngineError Answer × Store :=
  let current := store.work? connection
  let work :=
    match current with
    | some work => if work.start.isSome then work else { work with view := store.committed }
    | none => { view := store.committed }
  let start := work.start.getD store.history.length
  match store.carryOut connection work start reading parameters with
  | .error (error, spoils) => (.error error, if spoils then store.spoil connection else store)
  | .ok (answer, done) =>
    let next := { store with nextRow := store.nextRow + inserted done.effects }
    if current.isSome then (.ok answer, next.withWork connection done)
    else
      match next.commit done.effects with
      | .ok next => (.ok answer, next)
      | .error error => (.error error, store)

/-- Execute a statement on a connection. -/
def execute (store : Store) (connection : Nat) (text : String) (parameters : List String) :
    Except EngineError Answer × Store :=
  let failed := ((store.work? connection).map Work.failed).getD false
  match read text with
  | .error error =>
    if failed then (.error .transactionAborted, store)
    else (.error error, store.spoil connection)
  | .ok reading =>
    match reading.statement with
    | .commit => store.commitWork connection
    | .rollback => store.rollbackWork connection
    | statement =>
      if failed then (.error .transactionAborted, store)
      else if statement = .beginTransaction then store.beginWork connection
      else store.executeIn connection reading parameters

/-- Execute statements one after another up to the first that fails. Only the
last one is given parameters, and its answer is the answer to all. -/
def executeAll (store : Store) (connection : Nat) (parameters : List String) :
    List String → Except EngineError Answer × Store
  | [] => (.error .nothingToExecute, store)
  | [text] => store.execute connection text parameters
  | text :: rest =>
    match store.execute connection text [] with
    | (.ok _, store) => store.executeAll connection parameters rest
    | (.error error, store) => (.error error, store)

/-! ### Answers to calls -/

/-- The number of rows that a statement changed. -/
def changedRows : Answer → Nat
  | .changed count => count
  | _ => 0

/-- The rows of an answer. A change is shown as the number of its rows. -/
def shownRows : Answer → List (List String)
  | .done => []
  | .changed count => [[toString count]]
  | .rows rows => rows.map fun row => row.map Value.shown

/-- The number at the beginning of an answer. -/
def countOf : Answer → Except EngineError Int
  | .done => .error .noRow
  | .changed count => .ok count
  | .rows rows =>
    match rows with
    | (value :: _) :: _ => value.count
    | _ => .error .noRow

/-- A number in hexadecimal digits, the last ones of a given count. -/
def hexadecimal (count n : Nat) : List Char :=
  let digits := Nat.toDigits 16 (n % Nat.pow 16 count)
  List.replicate (count - digits.length) '0' ++ digits

/-- An identifier that no other number gives with the same seed. -/
def identifier (seed number : Nat) : String :=
  let digits := hexadecimal 18 seed
  String.ofList (digits.take 8 ++ '-' :: (digits.drop 8).take 4 ++ '-' :: '4' ::
    (digits.drop 12).take 3 ++ '-' :: 'a' :: digits.drop 15 ++ '-' :: hexadecimal 12 number)

/-- The text that is bound for a parameter. -/
def parameterText (store : Store) : Parameter → String × Store
  | .text value => (value, store)
  | .freshId =>
    (identifier store.seed store.issued, { store with issued := store.issued + 1 })
  | .now => (Calendar.stampText store.now, store)

/-- The texts that are bound for parameters. -/
def parameterTexts (store : Store) : List Parameter → List String × Store
  | [] => ([], store)
  | parameter :: rest =>
    let (text, store) := store.parameterText parameter
    let (texts, store) := store.parameterTexts rest
    (text :: texts, store)

/-- Execute the statements of a call and read their answer. -/
def ask {α : Type} (store : Store) (connection : Nat) (sql : String)
    (parameters : List Parameter) (read : Answer → Except EngineError α) :
    Except DbError α × Store :=
  let (texts, store) := store.parameterTexts parameters
  match store.executeAll connection texts (Sql.Script.statements sql ";") with
  | (.error error, store) => (.error (error.toDbError sql), store)
  | (.ok answer, store) =>
    match read answer with
    | .ok value => (.ok value, store)
    | .error error => (.error (error.toDbError sql), store)

/-- Execute the statements of a batch. A batch of none is carried out. -/
def batch (store : Store) (connection : Nat) (sql : String) : Except DbError Unit × Store :=
  if (Sql.Script.statements sql ";").isEmpty then (.ok (), store)
  else store.ask connection sql [] fun _ => .ok ()

/-- Answer a call on a connection. For a new connection nothing is left to be
done. -/
def answer (store : Store) (connection : Nat) : (call : Call) → call.Answer × Store
  | .connect => (.ok (), store)
  | .batch sql => store.batch connection sql
  | .execute sql parameters =>
    store.ask connection sql parameters fun answer => .ok (changedRows answer)
  | .count sql parameters => store.ask connection sql parameters countOf
  | .rows sql parameters =>
    store.ask connection sql parameters fun answer => .ok (shownRows answer)

/-! ### Sessions -/

/-- A store and the connection that a session opened last. -/
structure Client where
  store : Store
  connection : Option Nat := none

namespace Client

/-- Close the connection. -/
def close (client : Client) : Store :=
  match client.connection with
  | some connection => client.store.disconnect connection
  | none => client.store

/-- Open a connection in place of the one before. -/
def connect (client : Client) : Nat × Client :=
  let (connection, store) := client.close.connect
  (connection, { store, connection := some connection })

/-- Answer a call. -/
def answer (client : Client) (call : Call) : call.Answer × Client :=
  let (connection, client) :=
    match call, client.connection with
    | .connect, _ | _, none => client.connect
    | _, some connection => (connection, client)
  let (reply, store) := client.store.answer connection call
  (reply, { client with store })

end Client

/-- Hold a session with a store. Its connection is closed at the end. -/
def hold {α : Type} (store : Store) (states : RunStates) (session : Session α) : α × Store :=
  let (value, client) :=
    session.hold (fun _ client call => Client.answer client call) states { store }
  (value, client.close)

end Store

end MigrationLedger.Engine
