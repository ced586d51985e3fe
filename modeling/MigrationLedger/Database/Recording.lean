/-
# A database that records

The simplest database that a session can be held with: it keeps nothing but
tracking records, writes down every call, and refuses calls when a rule tells it
to. A refused call changes nothing. Statements other than those that control a
transaction do nothing.

A rule may also ask for a probe: before the call is answered, an observer holds a
session of its own, which shows what can be seen while another session is under
way.
-/

import MigrationLedger.Database.Session

namespace MigrationLedger

/-- A row of the tracking table. Its name is any text that was bound. -/
structure RecordedRow where
  id : String
  name : String
  appliedAt : String
  deriving DecidableEq, Repr

/-- The kinds of calls that a rule can be about. -/
inductive CallKind
  | connect
  | batch
  | execute
  | count
  | rows
  deriving DecidableEq, Repr

/-- The kind of a call. -/
def Call.kind : Call → CallKind
  | .connect => .connect
  | .batch _ => .batch
  | .execute _ _ => .execute
  | .count _ _ => .count
  | .rows _ _ => .rows

/-- How some calls are answered other than usual. -/
structure RecordingRule where
  /-- The kind of the calls; `none` for any. -/
  kind : Option CallKind := none
  /-- A text that the statement has to contain. -/
  containing : String := ""
  /-- How many more calls the rule is for; `none` for all. -/
  times : Option Nat := none
  /-- Let the observer look first. -/
  probe : Bool := false
  /-- The error with which the call is refused. -/
  error : Option DbError := none
  /-- The number that a count is answered with. -/
  count : Option Int := none

/-- The rule is about this call and not used up. -/
def RecordingRule.applies (rule : RecordingRule) (call : Call) : Bool :=
  (rule.kind.all fun kind => kind == call.kind) && Text.contains call.sql rule.containing &&
    rule.times != some 0

/-- What an observer saw. -/
abbrev Sight := Except String (List (MigrationName × MigrationState))

/-- What was written down. -/
inductive RecordingEntry
  | call (call : Call)
  | probe (sight : Sight)

/-- A database that records. -/
structure Recording where
  committed : List RecordedRow := []
  uncommitted : List RecordedRow := []
  inTransaction : Bool := false
  rules : List RecordingRule := []
  /-- The rows that a query for rows is answered with, if they are set. -/
  rowsAnswer : Option (List (List String)) := none
  /-- The number of rows inserted so far. -/
  counter : Nat := 0
  /-- What was written down, the last entry first. -/
  log : List RecordingEntry := []

namespace Recording

/-- The row for the next insertion of a name. -/
def freshRow (db : Recording) (name : String) : RecordedRow :=
  let number := toString (db.counter + 1)
  let padding := String.ofList (List.replicate (3 - number.length) '0')
  ⟨"id-" ++ number, name, "2024-01-31T12:00:00." ++ padding ++ number⟩

/-- Insert a row for a name: within a transaction it waits to be committed. -/
def insert (db : Recording) (name : String) : Recording :=
  let row := db.freshRow name
  if db.inTransaction then
    { db with counter := db.counter + 1, uncommitted := db.uncommitted ++ [row] }
  else { db with counter := db.counter + 1, committed := db.committed ++ [row] }

/-- Insert a committed row for a name. -/
def insertCommitted (db : Recording) (name : String) : Recording :=
  { db with counter := db.counter + 1, committed := db.committed ++ [db.freshRow name] }

/-- Remove the committed rows with these names. -/
def forget (db : Recording) (names : List String) : Recording :=
  { db with committed := db.committed.filter fun row => !names.contains row.name }

/-- Execute a statement without parameters. -/
def execute (db : Recording) (sql : String) : Recording :=
  match sql with
  | "BEGIN TRANSACTION" => { db with inTransaction := true }
  | "COMMIT" =>
    { db with
      committed := db.committed ++ db.uncommitted
      uncommitted := []
      inTransaction := false }
  | "ROLLBACK" => { db with uncommitted := [], inTransaction := false }
  | _ => db

/-- The text of a parameter, as far as it is known beforehand. -/
def knownText : Parameter → String
  | .text value => value
  | .freshId | .now => ""

/-- The committed rows as a query shows them, in the order of their names. -/
def shownRows (db : Recording) : List (List String) :=
  let rows := db.committed.mergeSort fun a b => decide (a.name ≤ b.name)
  rows.map fun row => [row.id, row.name, row.appliedAt]

/-- The usual answer to a call, and its effect. `count` replaces the answer to a
count. -/
def perform (db : Recording) (count : Option Int) : (call : Call) → call.Reply × Recording
  | .connect => ((), db)
  | .batch sql => ((), db.execute sql)
  | .execute _ parameters =>
    match parameters[1]? with
    | some name => (1, db.insert (knownText name))
    | none => (1, db)
  | .count _ parameters =>
    let usual : Nat :=
      match parameters.head? with
      | some name => db.committed.countP fun row => row.name == knownText name
      | none => 0
    (count.getD usual, db)
  | .rows _ _ => (db.rowsAnswer.getD db.shownRows, db)

/-- The first rule for a call, and the rules with one use of it taken away. -/
def takeRule (call : Call) : List RecordingRule → Option (RecordingRule × List RecordingRule)
  | [] => none
  | rule :: rest =>
    if rule.applies call then
      some (rule, { rule with times := rule.times.map (· - 1) } :: rest)
    else (takeRule call rest).map fun found => (found.1, rule :: found.2)

/-- Write an entry down. -/
def note (db : Recording) (entry : RecordingEntry) : Recording :=
  { db with log := entry :: db.log }

/-- Answer a call. The observer is let in at most `depth` times within its own
sessions. -/
def answer (observer : RunStates → Session Sight) :
    Nat → RunStates → Recording → (call : Call) → call.Answer × Recording
  | depth, states, db, call =>
    let db := db.note (.call call)
    match takeRule call db.rules with
    | none =>
      let (reply, db) := db.perform none call
      (.ok reply, db)
    | some (rule, rules) =>
      let db := { db with rules }
      let db :=
        if rule.probe then
          match depth with
          | 0 => db
          | depth + 1 =>
            let (sight, db) := (observer states).hold (answer observer depth) states db
            db.note (.probe sight)
        else db
      match rule.error with
      | some error => (.error error, db)
      | none =>
        let (reply, db) := db.perform rule.count call
        (.ok reply, db)

/-- How often the observer can be let in within its own sessions before every
rule with a limit is used up. -/
def depth (db : Recording) : Nat :=
  db.rules.foldr (fun rule times => rule.times.getD 0 + 1 + times) 1

/-- Hold a session with the database. -/
def hold {α : Type} (db : Recording) (observer : RunStates → Session Sight)
    (states : RunStates) (session : Session α) : α × Recording :=
  session.hold (answer observer db.depth) states db

end Recording

end MigrationLedger
