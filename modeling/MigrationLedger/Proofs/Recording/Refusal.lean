/-
# A recording database with arbitrary refusals

Here the recording database decides about every call anew whether it is refused.
The decision may depend on everything that the database holds, its log included,
so every pattern of refused calls over a session is such a decision. A refused call
is written down and changes nothing else.

`Leads` says what a series of exchanges does to the database, and `Holds` keeps the
part of the database that matters: the committed rows, the uncommitted rows and
whether a transaction is open. Later modules reason with these two alone.
-/

import MigrationLedger.Database.Recording
import MigrationLedger.Proofs.Session.Dialogue

namespace MigrationLedger

/-- Which calls are refused, and with which error. -/
abbrev Refusals := Recording → Call → Option DbError

namespace Refusals

/-- No call is refused. -/
def none : Refusals := fun _ _ => .none

/-- A rollback is never refused. -/
def SparesRollback (refusals : Refusals) : Prop :=
  ∀ db, refusals db (.batch "ROLLBACK") = .none

/-- A count is refused for want of a table only when no committed row bears the
name it asks for. -/
def MissesOnlyUnrecorded (refusals : Refusals) : Prop :=
  ∀ (db : Recording) (sql name : String) (error : DbError),
    refusals db (.count sql [.text name]) = some error → error.isNotFound = true →
      ∀ row ∈ db.committed, row.name ≠ name

/-- A count is never refused for want of a table. -/
def NeverMisses (refusals : Refusals) : Prop :=
  ∀ (db : Recording) (sql : String) (parameters : List Parameter) (error : DbError),
    refusals db (.count sql parameters) = some error → error.isNotFound = false

theorem NeverMisses.missesOnlyUnrecorded {refusals : Refusals} (h : refusals.NeverMisses) :
    refusals.MissesOnlyUnrecorded := by
  intro db sql name error refused missing
  rw [h db sql _ error refused] at missing
  cases missing

theorem none_sparesRollback : none.SparesRollback := fun _ => rfl

theorem none_neverMisses : none.NeverMisses := fun _ _ _ _ refused => by cases refused

/-- Every commit is refused, and nothing else. -/
def commits : Refusals := fun _ call =>
  if call = .batch "COMMIT" then some (.execution "refused") else .none

theorem commits_sparesRollback : commits.SparesRollback := fun _ => rfl

theorem commits_neverMisses : commits.NeverMisses := fun _ _ _ _ refused => by cases refused

end Refusals

/-- The call asks for something and changes nothing. -/
def Call.Reads : Call → Prop
  | .connect | .count _ _ | .rows _ _ => True
  | .batch _ | .execute _ _ => False

namespace Recording

variable {α : Type} {refusals : Refusals} {db before after : Recording}

/-- Write a call down, then refuse it or answer it as usual. -/
def respond (refusals : Refusals) (db : Recording) (call : Call) : call.Answer × Recording :=
  let db := db.note (.call call)
  match refusals db call with
  | some error => (.error error, db)
  | none => (.ok (db.perform none call).1, (db.perform none call).2)

theorem respond_of_refused {call : Call} {error : DbError}
    (refused : refusals (db.note (.call call)) call = some error) :
    respond refusals db call = (.error error, db.note (.call call)) := by
  simp only [respond, refused]

theorem respond_of_accepted {call : Call}
    (accepted : refusals (db.note (.call call)) call = none) :
    respond refusals db call = (.ok ((db.note (.call call)).perform none call).1,
      ((db.note (.call call)).perform none call).2) := by
  simp only [respond, accepted]

/-- The recording database as one that answers sessions. It does not know what the
runner remembers. -/
def answering (refusals : Refusals) : Answering Recording := fun _ => respond refusals

/-- The database after a session. -/
def afterSession (db : Recording) (refusals : Refusals) (states : RunStates)
    (session : Session α) : Recording :=
  (session.hold (answering refusals) states db).2

/-- The database after it was asked some calls. -/
def afterCalls (refusals : Refusals) (db : Recording) (calls : List Call) : Recording :=
  calls.foldl (fun db call => (respond refusals db call).2) db

/-- What exchanges do to the database: each call is answered as the database
answers it. -/
inductive Leads (refusals : Refusals) : Recording → List Exchange → Recording → Prop
  | /-- Nothing is exchanged. -/
    nil (db : Recording) : Leads refusals db [] db
  | /-- One call, then the rest. -/
    cons {db after : Recording} {call : Call} {later : List Exchange}
      (rest : Leads refusals (respond refusals db call).2 later after) :
      Leads refusals db (⟨call, (respond refusals db call).1⟩ :: later) after

theorem leads_cons_iff {call : Call} {answer : call.Answer} {later : List Exchange} :
    Leads refusals before (⟨call, answer⟩ :: later) after ↔
      (respond refusals before call).1 = answer ∧
        Leads refusals (respond refusals before call).2 later after := by
  constructor
  · rintro ⟨⟩
    exact ⟨rfl, ‹_›⟩
  · rintro ⟨rfl, rest⟩
    exact .cons rest

theorem leads_append_iff {first second : List Exchange} :
    Leads refusals before (first ++ second) after ↔
      ∃ middle, Leads refusals before first middle ∧ Leads refusals middle second after := by
  induction first generalizing before with
  | nil =>
      constructor
      · exact fun leads => ⟨before, .nil before, leads⟩
      · rintro ⟨_, ⟨⟩, leads⟩
        exact leads
  | cons exchange first ih =>
      obtain ⟨call, answer⟩ := exchange
      rw [List.cons_append, leads_cons_iff]
      constructor
      · rintro ⟨rfl, rest⟩
        obtain ⟨middle, toMiddle, fromMiddle⟩ := ih.mp rest
        exact ⟨middle, .cons toMiddle, fromMiddle⟩
      · rintro ⟨middle, toMiddle, fromMiddle⟩
        obtain ⟨answered, rest⟩ := leads_cons_iff.mp toMiddle
        exact ⟨answered, ih.mpr ⟨middle, rest, fromMiddle⟩⟩

/-- Exchanges lead to the database after their calls. -/
theorem Leads.eq_afterCalls {exchanged : List Exchange}
    (leads : Leads refusals before exchanged after) :
    after = before.afterCalls refusals (exchanged.map Exchange.call) := by
  induction leads with
  | nil => rfl
  | cons rest ih => exact ih

/-- Holding a session leads the database along the exchanges of the session. -/
theorem leads_exchanges (session : Session α) (states : RunStates) (db : Recording) :
    Leads refusals db (session.exchanges (answering refusals) states db)
      (session.hold (answering refusals) states db).2 := by
  induction session generalizing states db with
  | done value => exact .nil db
  | ask call next ih => exact .cons (ih _ states _)
  | announce announced next ih => exact ih announced db

/-- Holding a session with the recording database: the dialogue that takes place
and where it leads. -/
theorem exists_dialogue_leads (session : Session α) (refusals : Refusals) (states : RunStates)
    (db : Recording) :
    ∃ exchanged, session.exchanges (answering refusals) states db = exchanged ∧
      session.Dialogue exchanged (session.hold (answering refusals) states db).1 ∧
        Leads refusals db exchanged (db.afterSession refusals states session) :=
  ⟨_, rfl, Session.dialogue_exchanges _ session states db, leads_exchanges session states db⟩

/-! ## What a database holds -/

/-- The database holds these committed and uncommitted rows, and a transaction is
open or not. -/
structure Holds (db : Recording) (committed uncommitted : List RecordedRow) (open? : Bool) :
    Prop where
  committed_eq : db.committed = committed
  uncommitted_eq : db.uncommitted = uncommitted
  open_eq : db.inTransaction = open?

variable {committed uncommitted : List RecordedRow} {open? : Bool}

/-- Whether a transaction is open after a statement. -/
def openAfter (open? : Bool) (sql : String) : Bool :=
  if sql = "BEGIN TRANSACTION" then true
  else if sql = "COMMIT" ∨ sql = "ROLLBACK" then false
  else open?

theorem inTransaction_execute (db : Recording) (sql : String) :
    (db.execute sql).inTransaction = openAfter db.inTransaction sql := by
  unfold Recording.execute
  split
  · rfl
  · rfl
  · rfl
  · rename_i opens commits rolls
    rw [openAfter, if_neg opens, if_neg (not_or.mpr ⟨commits, rolls⟩)]

namespace Holds

theorem note (h : db.Holds committed uncommitted open?) (entry : RecordingEntry) :
    (db.note entry).Holds committed uncommitted open? :=
  ⟨h.committed_eq, h.uncommitted_eq, h.open_eq⟩

theorem begin (h : db.Holds committed uncommitted open?) :
    (db.execute "BEGIN TRANSACTION").Holds committed uncommitted true :=
  ⟨h.committed_eq, h.uncommitted_eq, rfl⟩

theorem commit (h : db.Holds committed uncommitted open?) :
    (db.execute "COMMIT").Holds (committed ++ uncommitted) [] false := by
  refine ⟨?_, rfl, rfl⟩
  rw [← h.committed_eq, ← h.uncommitted_eq]
  rfl

theorem rollback (h : db.Holds committed uncommitted open?) :
    (db.execute "ROLLBACK").Holds committed [] false :=
  ⟨h.committed_eq, rfl, rfl⟩

/-- While nothing waits to be committed, a statement at most opens or ends a
transaction. -/
theorem execute (h : db.Holds committed [] open?) (sql : String) :
    (db.execute sql).Holds committed [] (openAfter open? sql) := by
  by_cases opens : sql = "BEGIN TRANSACTION"
  · subst opens
    exact h.begin
  · by_cases commits : sql = "COMMIT"
    · subst commits
      simpa [openAfter] using h.commit
    · by_cases rolls : sql = "ROLLBACK"
      · subst rolls
        exact h.rollback
      · have idle : db.execute sql = db := by
          unfold Recording.execute
          split <;> first | contradiction | rfl
        rw [idle]
        simpa [openAfter, opens, commits, rolls] using h

/-- A row waits for the commit within a transaction, and is committed at once
outside of one. -/
theorem insert (h : db.Holds committed uncommitted open?) (name : String) :
    ∃ row : RecordedRow, row.name = name ∧
      (open? = true → (db.insert name).Holds committed (uncommitted ++ [row]) true) ∧
      (open? = false → (db.insert name).Holds (committed ++ [row]) uncommitted false) := by
  refine ⟨db.freshRow name, rfl, ?_, ?_⟩
  · rintro rfl
    simp only [Recording.insert, h.open_eq, if_true]
    exact ⟨h.committed_eq, congrArg (· ++ [db.freshRow name]) h.uncommitted_eq, rfl⟩
  · rintro rfl
    simp only [Recording.insert, h.open_eq, Bool.false_eq_true, if_false]
    exact ⟨congrArg (· ++ [db.freshRow name]) h.committed_eq, h.uncommitted_eq, rfl⟩

end Holds

/-! ## What one exchange does -/

/-- A refused call changes nothing that the database holds. -/
theorem leads_refused {call : Call} {error : DbError} {later : List Exchange}
    (leads : Leads refusals before (⟨call, .error error⟩ :: later) after)
    (h : before.Holds committed uncommitted open?) :
    refusals (before.note (.call call)) call = some error ∧
      ∃ middle, middle.Holds committed uncommitted open? ∧
        Leads refusals middle later after := by
  obtain ⟨answered, rest⟩ := leads_cons_iff.mp leads
  cases decided : refusals (before.note (.call call)) call with
  | some refused =>
      rw [respond_of_refused decided] at answered rest
      exact ⟨congrArg some (Except.error.inj answered), _, h.note _, rest⟩
  | none =>
      rw [respond_of_accepted decided] at answered
      cases answered

/-- An accepted call is answered and takes effect as usual. -/
theorem leads_accepted {call : Call} {reply : call.Reply} {later : List Exchange}
    (leads : Leads refusals before (⟨call, .ok reply⟩ :: later) after) :
    reply = ((before.note (.call call)).perform none call).1 ∧
      Leads refusals ((before.note (.call call)).perform none call).2 later after := by
  obtain ⟨answered, rest⟩ := leads_cons_iff.mp leads
  cases decided : refusals (before.note (.call call)) call with
  | some refused =>
      rw [respond_of_refused decided] at answered
      cases answered
  | none =>
      rw [respond_of_accepted decided] at answered rest
      exact ⟨(Except.ok.inj answered).symm, rest⟩

/-- A rollback that is never refused takes effect, whatever its answer is called. -/
theorem leads_rollback (spares : refusals.SparesRollback)
    {answer : (Call.batch "ROLLBACK").Answer} {later : List Exchange}
    (leads : Leads refusals before (⟨.batch "ROLLBACK", answer⟩ :: later) after)
    (h : before.Holds committed uncommitted open?) :
    ∃ middle, middle.Holds committed [] false ∧ Leads refusals middle later after := by
  cases answer with
  | error error =>
      obtain ⟨refused, _⟩ := leads_refused leads h
      rw [spares] at refused
      cases refused
  | ok reply =>
      obtain ⟨_, rest⟩ := leads_accepted leads
      exact ⟨_, (h.note _).rollback, rest⟩

/-- Calls that only read change nothing that the database holds. -/
theorem Leads.holds_of_reads {exchanged : List Exchange}
    (leads : Leads refusals before exchanged after)
    (reads : ∀ exchange ∈ exchanged, exchange.call.Reads)
    (h : before.Holds committed uncommitted open?) :
    after.Holds committed uncommitted open? := by
  induction leads with
  | nil => exact h
  | @cons db after call later rest ih =>
      apply ih fun exchange later => reads exchange (List.mem_cons_of_mem _ later)
      have readsCall := reads _ List.mem_cons_self
      cases decided : refusals (db.note (.call call)) call with
      | some error =>
          rw [respond_of_refused decided]
          exact h.note _
      | none =>
          rw [respond_of_accepted decided]
          cases call with
          | connect | count | rows => exact h.note _
          | batch | execute => exact readsCall.elim

end Recording

end MigrationLedger
