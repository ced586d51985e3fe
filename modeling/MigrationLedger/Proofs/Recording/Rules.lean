/-
# Refusals given by rules

A recording database carries a list of rules, and each use of a rule is counted.
Rules that only refuse calls are a special case of arbitrary refusals: which rules
are left is told by the calls written down since the rules came into force. So what
is proved for arbitrary refusals holds of a database with such rules.
-/

import MigrationLedger.Proofs.Recording.Refusal

namespace MigrationLedger.Recording

variable {α : Type} {db : Recording} {rules : List RecordingRule}

/-- The database with other rules. -/
def withRules (db : Recording) (rules : List RecordingRule) : Recording := { db with rules }

/-- The rules neither let an observer look nor change the answer to a count. -/
def OnlyRefuse (rules : List RecordingRule) : Prop :=
  ∀ rule ∈ rules, rule.probe = false ∧ rule.count = none

/-- The rules that are left once an entry was written down. -/
def spend (entry : RecordingEntry) (rules : List RecordingRule) : List RecordingRule :=
  match entry with
  | .call call =>
    match takeRule call rules with
    | some (_, left) => left
    | none => rules
  | .probe _ => rules

/-- The rules that are left of those that were in force when the log had `start`
entries. -/
def rulesLeft (rules : List RecordingRule) (start : Nat) (log : List RecordingEntry) :
    List RecordingRule :=
  (log.take (log.length - start)).foldr spend rules

/-- The refusals by rules that came into force when the log had `start` entries. The
call in question is in the log already. -/
def ruleRefusals (rules : List RecordingRule) (start : Nat) : Refusals := fun db call =>
  (takeRule call (rulesLeft rules start db.log.tail)).bind fun found => found.1.error

theorem rulesLeft_cons {start : Nat} {log : List RecordingEntry} (entry : RecordingEntry)
    (within : start ≤ log.length) :
    rulesLeft rules start (entry :: log) = spend entry (rulesLeft rules start log) := by
  rw [rulesLeft, List.length_cons, Nat.succ_sub within, List.take_succ_cons, List.foldr_cons]
  rfl

/-- A rule that is taken is one of the rules up to its number of uses, and so are
those that are left. -/
theorem takeRule_onlyRefuse {call : Call} {rule : RecordingRule} {left : List RecordingRule}
    (taken : takeRule call rules = some (rule, left)) (only : OnlyRefuse rules) :
    (rule.probe = false ∧ rule.count = none) ∧ OnlyRefuse left := by
  induction rules generalizing left with
  | nil => cases taken
  | cons first rest ih =>
      have onlyFirst := only first List.mem_cons_self
      have onlyRest : OnlyRefuse rest := fun rule later => only rule (List.mem_cons_of_mem _ later)
      rw [takeRule] at taken
      split at taken
      · cases taken
        refine ⟨onlyFirst, ?_⟩
        rintro rule (_ | ⟨_, later⟩)
        · exact onlyFirst
        · exact onlyRest rule later
      · obtain ⟨⟨found, others⟩, takenLater, same⟩ := Option.map_eq_some_iff.mp taken
        cases same
        obtain ⟨onlyFound, onlyOthers⟩ := ih takenLater onlyRest
        refine ⟨onlyFound, ?_⟩
        rintro rule (_ | ⟨_, later⟩)
        · exact onlyFirst
        · exact onlyOthers rule later

theorem spend_onlyRefuse (entry : RecordingEntry) (only : OnlyRefuse rules) :
    OnlyRefuse (spend entry rules) := by
  cases entry with
  | probe sight => exact only
  | call call =>
      rw [spend]
      split
      · exact (takeRule_onlyRefuse ‹_› only).2
      · exact only

theorem rulesLeft_onlyRefuse (start : Nat) (log : List RecordingEntry)
    (only : OnlyRefuse rules) : OnlyRefuse (rulesLeft rules start log) := by
  rw [rulesLeft]
  induction log.take (log.length - start) with
  | nil => exact only
  | cons entry entries ih => exact spend_onlyRefuse entry ih

theorem execute_withRules (db : Recording) (rules : List RecordingRule) (sql : String) :
    (db.withRules rules).execute sql = (db.execute sql).withRules rules := by
  unfold execute
  split <;> rfl

theorem insert_withRules (db : Recording) (rules : List RecordingRule) (name : String) :
    (db.withRules rules).insert name = (db.insert name).withRules rules := by
  cases opened : db.inTransaction <;> simp [insert, withRules, freshRow, opened]

/-- Rules do not matter for the usual answer to a call. -/
theorem perform_withRules (db : Recording) (rules : List RecordingRule) (call : Call) :
    (db.withRules rules).perform none call =
      ((db.perform none call).1, (db.perform none call).2.withRules rules) := by
  cases call with
  | connect | count | rows => rfl
  | batch sql => simp only [perform, execute_withRules]
  | execute sql parameters =>
      simp only [perform]
      split
      · rw [insert_withRules]
      · rfl

theorem log_execute (db : Recording) (sql : String) : (db.execute sql).log = db.log := by
  unfold execute
  split <;> rfl

theorem log_insert (db : Recording) (name : String) : (db.insert name).log = db.log := by
  cases opened : db.inTransaction <;> simp [insert, opened]

theorem log_perform (db : Recording) (call : Call) : (db.perform none call).2.log = db.log := by
  cases call with
  | connect | count | rows => rfl
  | batch sql => exact log_execute db sql
  | execute sql parameters =>
      simp only [perform]
      split
      · exact log_insert db _
      · rfl

theorem log_respond (refusals : Refusals) (db : Recording) (call : Call) :
    (respond refusals db call).2.log = .call call :: db.log := by
  cases decided : refusals (db.note (.call call)) call with
  | some error => rw [respond_of_refused decided]; rfl
  | none => rw [respond_of_accepted decided, log_perform]; rfl

/-- One call: a database with rules answers as the refusals by these rules say. -/
theorem answer_eq_respond (observer : RunStates → Session Sight) (depth : Nat)
    (states : RunStates) (start : Nat) (call : Call) (only : OnlyRefuse rules) :
    answer observer depth states (db.withRules (rulesLeft rules start db.log)) call =
      ((respond (ruleRefusals rules start) db call).1,
        (respond (ruleRefusals rules start) db call).2.withRules
          (spend (.call call) (rulesLeft rules start db.log))) := by
  have onlyLeft := rulesLeft_onlyRefuse start db.log only
  generalize left_eq : rulesLeft rules start db.log = left at onlyLeft ⊢
  have decided : ruleRefusals rules start (db.note (.call call)) call =
      (takeRule call left).bind fun found => found.1.error := by
    rw [← left_eq]
    rfl
  have noted : (db.withRules left).note (.call call) = (db.note (.call call)).withRules left := rfl
  unfold answer
  simp only [respond, decided, spend, noted]
  cases taken : takeRule call left with
  | none =>
      have untaken : takeRule call ((db.note (.call call)).withRules left).rules = none := taken
      simp only [untaken, Option.bind_none, perform_withRules]
  | some found =>
      obtain ⟨rule, others⟩ := found
      have takenToo : takeRule call ((db.note (.call call)).withRules left).rules =
        some (rule, others) := taken
      obtain ⟨⟨noProbe, noCount⟩, _⟩ := takeRule_onlyRefuse taken onlyLeft
      have replaced : { (db.note (.call call)).withRules left with rules := others } =
        (db.note (.call call)).withRules others := rfl
      simp only [takenToo, Option.bind_some, noProbe, noCount, Bool.false_eq_true, if_false,
        replaced]
      cases rule.error with
      | some error => rfl
      | none => simp only [perform_withRules]

/-- Holding a session with a database whose rules only refuse calls is holding it
with the database that refuses the same calls by itself. -/
theorem hold_eq_answering (observer : RunStates → Session Sight) (session : Session α)
    (states : RunStates) (only : OnlyRefuse db.rules) :
    ∃ rules, db.hold observer states session =
      ((session.hold (answering (ruleRefusals db.rules db.log.length)) states db).1,
        (session.hold (answering (ruleRefusals db.rules db.log.length)) states db).2.withRules
          rules) := by
  have general : ∀ (depth start : Nat) (rules : List RecordingRule) (db : Recording),
      OnlyRefuse rules → start ≤ db.log.length →
      ∃ others, session.hold (answer observer depth) states
          (db.withRules (rulesLeft rules start db.log)) =
        ((session.hold (answering (ruleRefusals rules start)) states db).1,
          (session.hold (answering (ruleRefusals rules start)) states db).2.withRules others) := by
    intro depth start rules db only within
    induction session generalizing states db with
    | done value => exact ⟨_, rfl⟩
    | ask call next ih =>
        obtain ⟨others, same⟩ := ih (respond (ruleRefusals rules start) db call).1 states
          (respond (ruleRefusals rules start) db call).2
          (by rw [log_respond]; exact Nat.le_succ_of_le within)
        rw [log_respond, rulesLeft_cons _ within] at same
        refine ⟨others, ?_⟩
        simp only [Session.hold, answer_eq_respond observer depth states start call only]
        exact same
    | announce announced next ih => exact ih announced db within
  obtain ⟨others, same⟩ := general db.depth db.log.length db.rules db only (Nat.le_refl _)
  have unspent : db.withRules (rulesLeft db.rules db.log.length db.log) = db := by
    simp [rulesLeft, withRules]
  rw [unspent] at same
  exact ⟨others, same⟩

end MigrationLedger.Recording
