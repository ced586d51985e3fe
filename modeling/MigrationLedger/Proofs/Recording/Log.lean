/-
# The log plays no part

A recording database writes down every call, but what it answers and what it holds does
not depend on what was written down, unless a refusal looks at the log. Refusals that
depend on the call alone do not, so a session with them is the same on two databases that
differ in their logs only.

Besides its rows a database keeps rules, set answers and the number of rows inserted so
far. No call changes the rules or the set answers, and only an insertion changes the
number. So a session without insertions that leaves the rows as they were has changed the
log and nothing else.

Rules that are never used up are the refusals of the plainest kind: what they refuse does
not depend on how many calls came before.
-/

import MigrationLedger.Proofs.Recording.Rules

namespace MigrationLedger

/-- Whether a call is refused depends on the call alone. -/
def Refusals.Forgetful (refusals : Refusals) : Prop :=
  ∀ (first second : Recording) (call : Call), refusals first call = refusals second call

theorem Refusals.none_forgetful : none.Forgetful := fun _ _ _ => rfl

namespace Recording

variable {α : Type} {refusals : Refusals} {db before after : Recording}

/-- The database with another log. -/
def withLog (db : Recording) (log : List RecordingEntry) : Recording := { db with log }

theorem execute_withLog (db : Recording) (log : List RecordingEntry) (sql : String) :
    (db.withLog log).execute sql = (db.execute sql).withLog log := by
  unfold execute
  split <;> rfl

theorem insert_withLog (db : Recording) (log : List RecordingEntry) (name : String) :
    (db.withLog log).insert name = (db.insert name).withLog log := by
  cases opened : db.inTransaction <;> simp [insert, withLog, freshRow, opened]

/-- The log does not matter for the usual answer to a call. -/
theorem perform_withLog (db : Recording) (log : List RecordingEntry) (call : Call) :
    (db.withLog log).perform none call =
      ((db.perform none call).1, (db.perform none call).2.withLog log) := by
  cases call with
  | connect | count | rows => rfl
  | batch sql => simp only [perform, execute_withLog]
  | execute sql parameters =>
      simp only [perform]
      split
      · rw [insert_withLog]
      · rfl

theorem respond_withLog (forgetful : refusals.Forgetful) (db : Recording)
    (log : List RecordingEntry) (call : Call) :
    respond refusals (db.withLog log) call =
      ((respond refusals db call).1,
        (respond refusals db call).2.withLog (.call call :: log)) := by
  have noted : (db.withLog log).note (.call call) =
      (db.note (.call call)).withLog (.call call :: log) := rfl
  have same := forgetful ((db.withLog log).note (.call call)) (db.note (.call call)) call
  cases decided : refusals (db.note (.call call)) call with
  | some error =>
      rw [respond_of_refused decided, respond_of_refused (same.trans decided), noted]
  | none =>
      rw [respond_of_accepted decided, respond_of_accepted (same.trans decided), noted,
        perform_withLog]

/-- The log does not matter for a session whose refusals do not look at it. -/
theorem exists_hold_withLog (forgetful : refusals.Forgetful) (session : Session α)
    (states : RunStates) (db : Recording) (log : List RecordingEntry) :
    ∃ later, session.hold (answering refusals) states (db.withLog log) =
      ((session.hold (answering refusals) states db).1,
        (session.hold (answering refusals) states db).2.withLog later) := by
  induction session generalizing states db log with
  | done value => exact ⟨log, rfl⟩
  | ask call next ih =>
      obtain ⟨later, same⟩ := ih (respond refusals db call).1 states (respond refusals db call).2
        (.call call :: log)
      refine ⟨later, ?_⟩
      simp only [Session.hold, answering, respond_withLog forgetful]
      exact same
  | announce announced next ih => exact ih announced db log

/-! ## What only an insertion changes -/

/-- The rules, the set answers and the number of insertions are the same. -/
structure SameStock (before after : Recording) : Prop where
  rules_eq : after.rules = before.rules
  rowsAnswer_eq : after.rowsAnswer = before.rowsAnswer
  counter_eq : after.counter = before.counter

theorem SameStock.refl (db : Recording) : SameStock db db := ⟨rfl, rfl, rfl⟩

theorem SameStock.trans {middle : Recording} (first : SameStock before middle)
    (second : SameStock middle after) : SameStock before after where
  rules_eq := second.rules_eq.trans first.rules_eq
  rowsAnswer_eq := second.rowsAnswer_eq.trans first.rowsAnswer_eq
  counter_eq := second.counter_eq.trans first.counter_eq

theorem sameStock_execute (db : Recording) (sql : String) : SameStock db (db.execute sql) := by
  unfold execute
  split <;> exact ⟨rfl, rfl, rfl⟩

theorem sameStock_respond (refusals : Refusals) (db : Recording) {call : Call}
    (other : call.kind ≠ .execute) : SameStock db (respond refusals db call).2 := by
  have noted : SameStock db (db.note (.call call)) := ⟨rfl, rfl, rfl⟩
  cases decided : refusals (db.note (.call call)) call with
  | some error =>
      rw [respond_of_refused decided]
      exact noted
  | none =>
      rw [respond_of_accepted decided]
      cases call with
      | connect | count | rows => exact noted
      | batch sql => exact noted.trans (sameStock_execute _ sql)
      | execute => exact absurd rfl other

theorem Leads.sameStock {exchanged : List Exchange} (leads : Leads refusals before exchanged after)
    (others : ∀ exchange ∈ exchanged, exchange.call.kind ≠ .execute) :
    SameStock before after := by
  induction leads with
  | nil db => exact .refl db
  | cons _ ih =>
      rw [List.forall_mem_cons] at others
      exact (sameStock_respond refusals _ others.1).trans (ih others.2)

/-- With the same stock and the same rows only the log can differ. -/
theorem SameStock.eq_withLog {rows : List RecordedRow} (same : SameStock before after)
    (first : before.Holds rows [] false) (second : after.Holds rows [] false) :
    after = before.withLog after.log := by
  obtain ⟨rules, rowsAnswer, counter⟩ := same
  obtain ⟨committed, uncommitted, opened⟩ := first
  obtain ⟨committed', uncommitted', opened'⟩ := second
  cases before
  cases after
  simp_all [withLog]

/-! ## Rules that are never used up -/

variable {rules : List RecordingRule}

/-- The rules are for any number of calls. -/
def Unlimited (rules : List RecordingRule) : Prop := ∀ rule ∈ rules, rule.times = none

theorem Unlimited.eq_of_takeRule (unlimited : Unlimited rules) {call : Call}
    {rule : RecordingRule} {left : List RecordingRule}
    (taken : takeRule call rules = some (rule, left)) : left = rules := by
  induction rules generalizing left with
  | nil => cases taken
  | cons first rest ih =>
      rw [Unlimited, List.forall_mem_cons] at unlimited
      obtain ⟨endless, others⟩ := unlimited
      rw [takeRule] at taken
      split at taken
      · cases taken
        obtain ⟨_, _, times, _, _, _⟩ := rule
        obtain rfl : times = none := endless
        rfl
      · obtain ⟨⟨found, remaining⟩, takenLater, same⟩ := Option.map_eq_some_iff.mp taken
        cases same
        rw [ih others takenLater]

theorem Unlimited.rulesLeft_eq (unlimited : Unlimited rules) (start : Nat)
    (log : List RecordingEntry) : rulesLeft rules start log = rules := by
  rw [rulesLeft]
  induction log.take (log.length - start) with
  | nil => rfl
  | cons entry entries ih =>
      rw [List.foldr_cons, ih]
      cases entry with
      | probe sight => rfl
      | call call =>
          rw [spend]
          split
          · exact unlimited.eq_of_takeRule ‹_›
          · rfl

theorem Unlimited.forgetful (unlimited : Unlimited rules) (start : Nat) :
    (ruleRefusals rules start).Forgetful := by
  intro first second call
  simp only [ruleRefusals, unlimited.rulesLeft_eq]

end Recording

end MigrationLedger
