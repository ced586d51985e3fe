/-
# One ending for each transaction

The body of a transaction is a session that gives up at the first call that is refused.
Such a body says its calls up to that one, and then the transaction is ended: once, by
whatever way it goes. Nothing is assumed about the database for this.

On a recording database the ending decides about all rows that the body has inserted. They
wait while the transaction is open, and there is nothing else that waits, so a commit
takes them all in their order, and a rollback takes none. This needs a body that leaves
the transaction alone, and rollbacks that are accepted.
-/

import MigrationLedger.Proofs.Recording.Refusal
import MigrationLedger.Proofs.Session.Texts
import MigrationLedger.Proofs.Transaction.Scope

namespace MigrationLedger

/-- The call was not refused. -/
def Exchange.Accepted (exchange : Exchange) : Prop := exchange.answer.isOk = true

/-- The call opens or ends a transaction. -/
def Call.ControlsTransaction (call : Call) : Prop :=
  call = .batch "BEGIN TRANSACTION" ∨ call = .batch "COMMIT" ∨ call = .batch "ROLLBACK"

/-! ## Bodies that stop -/

namespace Session

variable {α ε : Type}

/-- A session that fails at the first call that is refused. It may also fail for reasons
of its own. -/
inductive StopsAtRefusal : Session (Except ε α) → Prop
  | /-- The session is over, however it went. -/
    done (outcome : Except ε α) : StopsAtRefusal (.done outcome)
  | /-- A refusal is the end; after any other answer the session goes on. -/
    ask {call : Call} {next : call.Answer → Session (Except ε α)}
      (stops : ∀ error, ∃ failure, next (.error error) = .done (.error failure))
      (later : ∀ reply, StopsAtRefusal (next (.ok reply))) : StopsAtRefusal (.ask call next)
  | announce {states : RunStates} {next : Session (Except ε α)} (later : StopsAtRefusal next) :
      StopsAtRefusal (.announce states next)

/-- Calls up to the first that is refused, and what comes of them. -/
inductive UpToRefusal : List Exchange → Except ε α → Prop
  | /-- No call is refused. -/
    accepted {exchanged : List Exchange} (outcome : Except ε α)
      (all : ∀ exchange ∈ exchanged, exchange.Accepted) : UpToRefusal exchanged outcome
  | /-- The last call is refused, and no other one. -/
    refused {front : List Exchange} (call : Call) (error : DbError) (failure : ε)
      (all : ∀ exchange ∈ front, exchange.Accepted) :
      UpToRefusal (front ++ [⟨call, .error error⟩]) (.error failure)

theorem UpToRefusal.cons {call : Call} {reply : call.Reply} {later : List Exchange}
    {outcome : Except ε α} (rest : UpToRefusal later outcome) :
    UpToRefusal (⟨call, .ok reply⟩ :: later) outcome := by
  have here : Exchange.Accepted ⟨call, .ok reply⟩ := rfl
  cases rest with
  | accepted _ all => exact .accepted _ (List.forall_mem_cons.mpr ⟨here, all⟩)
  | @refused front last error failure all =>
      exact @refused _ _ (⟨call, .ok reply⟩ :: front) last error failure
        (List.forall_mem_cons.mpr ⟨here, all⟩)

/-- What a session that stops says ends with the first refusal. -/
theorem StopsAtRefusal.upToRefusal {session : Session (Except ε α)}
    (stops : session.StopsAtRefusal) {exchanged : List Exchange} {outcome : Except ε α}
    (dialogue : session.Dialogue exchanged outcome) : UpToRefusal exchanged outcome := by
  induction stops generalizing exchanged with
  | done outcome =>
      cases dialogue
      exact .accepted _ fun _ member => absurd member List.not_mem_nil
  | ask stops _ ih =>
      cases dialogue with
      | ask answer rest =>
          cases answer with
          | ok reply => exact (ih reply rest).cons
          | error error =>
              obtain ⟨failure, ended⟩ := stops error
              rw [ended] at rest
              cases rest
              exact @UpToRefusal.refused _ _ [] _ error failure fun _ member =>
                absurd member List.not_mem_nil
  | announce _ ih =>
      cases dialogue with
      | announce rest => exact ih rest

/-- Make some calls in turn, up to the first that is refused. -/
def inTurn : List Call → Session (Except DbError Unit)
  | [] => .done (.ok ())
  | call :: rest => .ask call fun answer =>
    match answer with
    | .ok _ => inTurn rest
    | .error error => .done (.error error)

theorem stopsAtRefusal_inTurn (calls : List Call) : (inTurn calls).StopsAtRefusal := by
  induction calls with
  | nil => exact .done _
  | cons call rest ih => exact .ask (fun error => ⟨error, rfl⟩) fun _ => ih

theorem asks_inTurn {P : Call → Prop} {calls : List Call} (all : ∀ call ∈ calls, P call) :
    Asks P (inTurn calls) := by
  induction calls with
  | nil => exact .done _
  | cons call rest ih =>
      rw [List.forall_mem_cons] at all
      refine .ask all.1 fun answer => ?_
      cases answer with
      | ok reply => exact ih all.2
      | error error => exact .done _

end Session

namespace Transaction

variable {α ε : Type} {failure : DbError → ε} {ending : Ending}
  {body : Session (Except ε α)}

/-- What a transaction says, and what comes of it: one that cannot be opened says nothing
more, and any other says what its body says up to the first refusal, and one closing. -/
inductive Course (failure : DbError → ε) (ending : Ending) (body : Session (Except ε α)) :
    List Exchange → Except ε α → Prop
  | unopened (error : DbError) :
      Course failure ending body [⟨.batch "BEGIN TRANSACTION", .error error⟩]
        (.error (failure (beginError error)))
  | opened {inside closing : List Exchange} {inner outcome : Except ε α}
      (said : body.Dialogue inside inner) (upTo : Session.UpToRefusal inside inner)
      (closed : Closing failure ending inner closing outcome) :
      Course failure ending body
        (⟨.batch "BEGIN TRANSACTION", .ok ()⟩ :: (inside ++ closing)) outcome

/-- A transaction takes its course with every database, and every course is taken with
some database. -/
theorem course_iff (stops : body.StopsAtRefusal) {exchanged : List Exchange}
    {outcome : Except ε α} :
    (scope failure ending body).Dialogue exchanged outcome ↔
      Course failure ending body exchanged outcome := by
  rw [dialogue_scope_iff]
  constructor
  · rintro (⟨error, rfl, rfl⟩ | ⟨inside, closing, inner, rfl, said, closed⟩)
    · exact .unopened error
    · exact .opened said (stops.upToRefusal said) closed
  · rintro (error | ⟨said, _, closed⟩)
    · exact .inl ⟨error, rfl, rfl⟩
    · exact .inr ⟨_, _, _, rfl, said, closed⟩

end Transaction

/-! ## Rows that wait -/

/-- The name of the row that an exchange inserts, if it inserts one: the second value of a
statement that was accepted. -/
def Exchange.inserted? : Exchange → Option String
  | ⟨.execute _ parameters, .ok _⟩ => parameters[1]?.map Recording.knownText
  | _ => none

/-- The names of the rows that are inserted, in order. -/
def insertedNames (exchanged : List Exchange) : List String :=
  exchanged.filterMap Exchange.inserted?

namespace Recording

/-- The rows for the next insertions of some names. -/
def freshRows (db : Recording) : List String → List RecordedRow
  | [] => []
  | name :: rest => db.freshRow name :: (db.insert name).freshRows rest

variable {refusals : Refusals} {db before after : Recording} {call : Call}
  {committed uncommitted : List RecordedRow} {exchanged : List Exchange}

theorem counter_insert (db : Recording) (name : String) :
    (db.insert name).counter = db.counter + 1 := by
  rw [insert]
  split <;> rfl

/-- The number of insertions so far tells what the next rows are like. -/
theorem freshRows_eq {other : Recording} (same : db.counter = other.counter)
    (names : List String) : db.freshRows names = other.freshRows names := by
  induction names generalizing db other with
  | nil => rfl
  | cons name rest ih =>
      have next : (db.insert name).counter = (other.insert name).counter := by
        rw [counter_insert, counter_insert, same]
      rw [freshRows, freshRows, freshRow, freshRow, same, ih next]

/-- A statement that does not control the transaction changes nothing. -/
theorem execute_eq_self {sql : String} (plain : ¬ (Call.batch sql).ControlsTransaction)
    (db : Recording) : db.execute sql = db := by
  simp only [Call.ControlsTransaction, Call.batch.injEq, not_or] at plain
  unfold execute
  split <;> simp_all

/-- Such a call is written down, and inserts a row or does not. -/
theorem respond_of_plain (refusals : Refusals) (db : Recording)
    (plain : ¬ call.ControlsTransaction) :
    (respond refusals db call).2 =
      (Exchange.inserted? ⟨call, (respond refusals db call).1⟩).elim (db.note (.call call))
        (db.note (.call call)).insert := by
  cases decided : refusals (db.note (.call call)) call with
  | some error =>
      rw [respond_of_refused decided]
      cases call <;> rfl
  | none =>
      rw [respond_of_accepted decided]
      cases call with
      | connect | count | rows => rfl
      | batch sql => exact execute_eq_self plain _
      | execute sql parameters =>
          simp only [perform, Exchange.inserted?]
          cases parameters[1]? <;> rfl

theorem holds_insert (h : db.Holds committed uncommitted true) (name : String) :
    (db.insert name).Holds committed (uncommitted ++ [db.freshRow name]) true := by
  simp only [insert, h.open_eq, if_true]
  exact ⟨h.committed_eq, congrArg (· ++ [db.freshRow name]) h.uncommitted_eq, rfl⟩

/-- In an open transaction the rows that are inserted wait, in order, and nothing is
committed. -/
theorem Leads.holds_of_plain (leads : Leads refusals before exchanged after)
    (plain : ∀ exchange ∈ exchanged, ¬ exchange.call.ControlsTransaction)
    (h : before.Holds committed uncommitted true) :
    after.Holds committed (uncommitted ++ before.freshRows (insertedNames exchanged)) true := by
  induction leads generalizing uncommitted with
  | nil db => simpa [insertedNames, freshRows] using h
  | @cons db after call later _ ih =>
      rw [List.forall_mem_cons] at plain
      obtain ⟨here, rest⟩ := plain
      have noted := h.note (.call call)
      have answered := respond_of_plain refusals db here
      rw [insertedNames, List.filterMap_cons]
      cases inserted : Exchange.inserted? ⟨call, (respond refusals db call).1⟩ with
      | none =>
          rw [inserted] at answered
          have counted : (respond refusals db call).2.counter = db.counter := by
            rw [answered]
            rfl
          rw [← freshRows_eq counted]
          exact ih rest (answered ▸ noted)
      | some name =>
          rw [inserted] at answered
          have counted : (respond refusals db call).2.counter = (db.insert name).counter := by
            rw [answered, counter_insert]
            exact counter_insert _ name
          rw [freshRows, ← freshRows_eq counted, List.append_cons]
          exact ih rest (answered ▸ holds_insert noted name)

end Recording

namespace Transaction

open Recording (Leads)

variable {α ε : Type} {failure : DbError → ε} {ending : Ending}
  {body : Session (Except ε α)} {refusals : Refusals} {before after : Recording}
  {exchanged : List Exchange} {outcome : Except ε α}

/-- The rows that a transaction adds: all that were inserted, when it was to be committed
and succeeded, and none otherwise. -/
def addedRows (db : Recording) (ending : Ending) (exchanged : List Exchange)
    (outcome : Except ε α) : List RecordedRow :=
  if ending = .commit ∧ outcome.isOk = true then db.freshRows (insertedNames exchanged) else []

theorem insertedNames_append (first second : List Exchange) :
    insertedNames (first ++ second) = insertedNames first ++ insertedNames second :=
  List.filterMap_append

/-- What begins and closes a transaction inserts nothing. -/
theorem insertedNames_of_closing {inner : Except ε α} {inside closing : List Exchange}
    (closed : Closing failure ending inner closing outcome) :
    insertedNames (⟨.batch "BEGIN TRANSACTION", .ok ()⟩ :: (inside ++ closing)) =
      insertedNames inside := by
  have nothing : insertedNames closing = [] := by cases closed <;> rfl
  change insertedNames (inside ++ closing) = _
  rw [insertedNames_append, nothing, List.append_nil]

/-- The rows that wait when the body is over are committed or dropped by the closing. -/
theorem holds_of_closing {rows waiting : List RecordedRow} {inner : Except ε α}
    (spares : refusals.SparesRollback) (closed : Closing failure ending inner exchanged outcome)
    (leads : Leads refusals before exchanged after) (h : before.Holds rows waiting true) :
    after.Holds (rows ++ if ending = .commit ∧ outcome.isOk = true then waiting else []) []
      false := by
  cases closed with
  | failed error answer =>
      obtain ⟨middle, dropped, ⟨⟩⟩ := Recording.leads_rollback spares leads h
      simpa [Except.isOk, Except.toBool] using dropped
  | abandoned value answer =>
      obtain ⟨middle, dropped, ⟨⟩⟩ := Recording.leads_rollback spares leads h
      simpa using dropped
  | committed value =>
      obtain ⟨-, ⟨⟩⟩ := Recording.leads_accepted leads
      have taken := (h.note (.call (.batch "COMMIT"))).commit
      rwa [if_pos ⟨rfl, rfl⟩]
  | refused value error answer =>
      obtain ⟨-, middle, still, rest⟩ := Recording.leads_refused leads h
      obtain ⟨last, dropped, ⟨⟩⟩ := Recording.leads_rollback spares rest still
      simpa [Except.isOk, Except.toBool] using dropped

/-- A transaction whose body leaves it alone adds its rows, and nothing waits behind it. -/
theorem holds_of_course {rows : List RecordedRow} {open? : Bool}
    (spares : refusals.SparesRollback)
    (plain : body.Asks fun call => ¬ call.ControlsTransaction)
    (course : Course failure ending body exchanged outcome)
    (leads : Leads refusals before exchanged after) (h : before.Holds rows [] open?) :
    ∃ now, after.Holds (rows ++ addedRows before ending exchanged outcome) [] now := by
  cases course with
  | unopened error =>
      obtain ⟨-, middle, same, ⟨⟩⟩ := Recording.leads_refused leads h
      exact ⟨open?, by simpa [addedRows, Except.isOk, Except.toBool] using same⟩
  | @opened inside closing inner _ said _ closed =>
      obtain ⟨-, rest⟩ := Recording.leads_accepted leads
      have begun := (h.note (.call (.batch "BEGIN TRANSACTION"))).begin
      obtain ⟨middle, within, ending⟩ := Recording.leads_append_iff.mp rest
      have waiting := within.holds_of_plain (plain.of_dialogue said) begun
      have counted : ((before.note (.call (.batch "BEGIN TRANSACTION"))).perform none
          (.batch "BEGIN TRANSACTION")).2.counter = before.counter := rfl
      rw [List.nil_append, Recording.freshRows_eq counted] at waiting
      refine ⟨false, ?_⟩
      rw [addedRows, insertedNames_of_closing closed]
      exact holds_of_closing spares closed ending waiting

/-- **One ending for each transaction.** Take a body that fails at the first call that is
refused. With whatever database, a transaction whose `BEGIN TRANSACTION` is refused makes
no other call. Any other one makes the calls of its body up to the first that is refused
and then has one ending: a commit, a refused commit with a rollback behind it and the
refusal as its result, or a rollback alone because the body failed or the transaction was
abandoned. Each of these courses is taken with some database.

On a recording database on which nothing waits to be committed and no rollback is refused,
a body that leaves the transaction alone has the rows that it inserted committed in order
when the transaction was to be committed and succeeds. Otherwise none of them is, and in
either case nothing waits any more. -/
theorem endings_of_scope (failure : DbError → ε) (ending : Ending)
    {body : Session (Except ε α)} (stops : body.StopsAtRefusal) :
    (∀ (states : RunStates) (exchanged : List Exchange) (outcome : Except ε α),
      (∃ (σ : Type) (answering : Answering σ) (database : σ),
        (scope failure ending body).exchanges answering states database = exchanged ∧
          ((scope failure ending body).hold answering states database).1 = outcome) ↔
        Course failure ending body exchanged outcome) ∧
    ∀ (refusals : Refusals) (states : RunStates) (db : Recording), refusals.SparesRollback →
      db.uncommitted = [] → (body.Asks fun call => ¬ call.ControlsTransaction) →
      ∃ exchanged outcome,
        (scope failure ending body).exchanges (Recording.answering refusals) states db =
          exchanged ∧
        ((scope failure ending body).hold (Recording.answering refusals) states db).1 = outcome ∧
        (db.afterSession refusals states (scope failure ending body)).committed =
          db.committed ++ addedRows db ending exchanged outcome ∧
        (db.afterSession refusals states (scope failure ending body)).uncommitted = [] := by
  constructor
  · intro states exchanged outcome
    rw [← Session.dialogue_iff_exists_database, course_iff stops]
  · intro refusals states db spares nothing plain
    obtain ⟨exchanged, same, dialogue, leads⟩ := Recording.exists_dialogue_leads
      (scope failure ending body) refusals states db
    obtain ⟨_, held⟩ := holds_of_course spares plain ((course_iff stops).mp dialogue) leads
      ⟨rfl, nothing, rfl⟩
    exact ⟨exchanged, _, same, rfl, held.committed_eq, held.uncommitted_eq⟩

/-- Two insertions with a question between them. -/
def insertions : List Call :=
  [.execute "INSERT" [.freshId, .text "001.sql"], .count "SELECT COUNT(*)" [.text "001.sql"],
    .execute "INSERT" [.freshId, .text "002.sql"]]

/-- Both rows are committed in order, or none when the commit is refused. -/
theorem endings_of_insertions :
    (({} : Recording).afterSession .none [] (scope id .commit (.inTurn insertions))).committed.map
        RecordedRow.name = ["001.sql", "002.sql"] ∧
      (({} : Recording).afterSession .commits []
        (scope id .commit (.inTurn insertions))).committed = [] := by
  have plain : (Session.inTurn insertions).Asks fun call => ¬ call.ControlsTransaction :=
    Session.asks_inTurn (by simp [insertions, Call.ControlsTransaction])
  have law := (endings_of_scope id .commit (Session.stopsAtRefusal_inTurn insertions)).2
  constructor
  · obtain ⟨_, _, rfl, rfl, committed, -⟩ := law .none [] {} Refusals.none_sparesRollback rfl plain
    rw [committed]
    rfl
  · obtain ⟨_, _, rfl, rfl, committed, -⟩ :=
      law .commits [] {} Refusals.commits_sparesRollback rfl plain
    rw [committed]
    rfl

end Transaction

end MigrationLedger
