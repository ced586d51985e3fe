/-
# What a run remembers on its way

A run announces that a migration is applying once its check has found it not applied, and
what became of it once its attempt is over. The module adds these announcements to the
grammar of rounds, and shows that every transcript of a run is of this form. Each call of
a run then stands at a known place: some migrations are settled, the next one is being
checked or attempted, and what is remembered follows from the settled ones and from
whether the check is over.
-/

import MigrationLedger.Proofs.Runner.Protocol
import MigrationLedger.Proofs.Session.Transcript

namespace MigrationLedger

namespace Tracker

theorem silent_isApplied (table : String) (name : MigrationName) :
    (isApplied table name).Silent := by
  apply Session.silent_call_bind
  rintro (error | _)
  · exact Session.silent_pure _
  · apply Session.silent_call_bind
    rintro (error | count)
    · change (if error.isNotFound then _ else _ : Session (Except Failure Bool)).Silent
      split
      · exact Session.silent_pure _
      · exact Session.silent_pure _
    · exact Session.silent_pure _

theorem silent_recordApplied (table : String) (name : MigrationName) :
    (recordApplied table name).Silent := by
  apply Session.silent_call_bind
  rintro (error | _)
  · exact Session.silent_pure _
  · exact Session.silent_pure _

end Tracker

namespace Transaction

variable {α ε : Type}

theorem silent_rollback_return (value : α) :
    (do rollback; return value : Session α).Silent :=
  Session.silent_call_bind fun _ => Session.silent_pure value

theorem silent_begin : begin.Silent := by
  apply Session.silent_call_bind
  rintro (error | _)
  · exact Session.silent_pure _
  · exact Session.silent_pure _

theorem silent_commit : commit.Silent := by
  apply Session.silent_call_bind
  rintro (error | _)
  · exact silent_rollback_return _
  · exact Session.silent_pure _

/-- A transaction announces what its body announces. -/
theorem silent_scope {failure : DbError → ε} {ending : Ending} {body : Session (Except ε α)}
    (silent : body.Silent) : (scope failure ending body).Silent := by
  rw [scope_eq]
  refine silent_begin.bind ?_
  rintro (error | _)
  · exact Session.silent_pure _
  · refine silent.bind ?_
    rintro (error | value)
    · exact silent_rollback_return _
    · cases ending with
      | abandon => exact silent_rollback_return _
      | commit =>
          refine silent_commit.bind ?_
          rintro (error | _)
          · exact Session.silent_pure _
          · exact Session.silent_pure _

end Transaction

namespace Runner

variable {runner : Runner} {states : RunStates} {migrations : List Migration}
  {ignored : List MigrationName} {entries : List Entry} {course : Course}

theorem silent_executeStatements (runner : Runner) (name : MigrationName)
    (statements : List String) :
    ∀ number, (runner.executeStatements name number statements).Silent := by
  induction statements with
  | nil => exact fun _ => Session.silent_pure _
  | cons statement rest ih =>
      intro number
      rw [executeStatements]
      split
      · exact Session.silent_pure _
      · apply Session.silent_call_bind
        rintro (error | _)
        · exact Session.silent_pure _
        · exact ih (number + 1)

theorem silent_inside (runner : Runner) (migration : Migration) :
    (runner.inside migration).Silent := by
  refine (silent_executeStatements runner migration.name _ 1).bind ?_
  rintro (failure | _)
  · exact Session.silent_pure _
  · refine (Tracker.silent_recordApplied _ _).bind ?_
    rintro (error | _)
    · exact Session.silent_pure _
    · exact Session.silent_pure _

theorem silent_apply (runner : Runner) (migration : Migration) :
    (runner.apply migration).Silent := by
  apply Session.silent_call_bind
  rintro (error | _)
  · exact Session.silent_pure _
  · exact Transaction.silent_scope (silent_inside runner migration)

/-! ## The transcript of a run -/

/-- The transcript of a run over migrations that are taken up in order, while the runner
remembers some states at first. -/
inductive Staging (runner : Runner) :
    RunStates → List Migration → List Entry → Course → Prop
  | /-- All migrations were taken up. -/
    finished {states : RunStates} : Staging runner states [] [] {}
  | /-- A migration that was applied already is skipped in silence. -/
    skipped {states : RunStates} {migration : Migration} {rest : List Migration}
      {checked : List Exchange} {later : List Entry} {course : Course}
      (check : runner.Check migration.name checked (.ok true))
      (staging : Staging runner states rest later course) :
      Staging runner states (migration :: rest) (checked.map .said ++ later)
        (course.skip migration.name)
  | /-- A migration that was not applied yet is announced, attempted, and announced as
    applied. -/
    applied {states : RunStates} {migration : Migration} {rest : List Migration}
      {checked attempted : List Exchange} {later : List Entry} {course : Course}
      (check : runner.Check migration.name checked (.ok false))
      (attempt : runner.Attempt migration attempted (.ok ()))
      (staging : Staging runner (Course.attempted states migration.name .applied) rest later
        course) :
      Staging runner states (migration :: rest)
        (checked.map .said ++ .announced (states.set migration.name .applying) ::
          (attempted.map .said ++
            .announced (Course.attempted states migration.name .applied) :: later))
        (course.apply migration.name)
  | /-- The check fails. -/
    unchecked {states : RunStates} {migration : Migration} {rest : List Migration}
      {checked : List Exchange} {failure : Failure}
      (check : runner.Check migration.name checked (.error failure)) :
      Staging runner states (migration :: rest) (checked.map .said)
        { stop := some ⟨migration.name, false, failure⟩ }
  | /-- The attempt fails, and is announced as failed. -/
    failed {states : RunStates} {migration : Migration} {rest : List Migration}
      {checked attempted : List Exchange} {failure : Failure}
      (check : runner.Check migration.name checked (.ok false))
      (attempt : runner.Attempt migration attempted (.error failure)) :
      Staging runner states (migration :: rest)
        (checked.map .said ++ .announced (states.set migration.name .applying) ::
          (attempted.map .said ++
            [.announced (Course.attempted states migration.name .failed)]))
        { stop := some ⟨migration.name, true, failure⟩ }

/-- Without its announcements a staging is a round. -/
theorem Staging.round (staging : runner.Staging states migrations entries course) :
    runner.Round migrations (Entry.exchanges entries) course := by
  induction staging with
  | finished => exact .finished
  | skipped check _ ih =>
      rw [Entry.exchanges_said_append]
      exact .skipped check ih
  | applied check attempt _ ih =>
      rw [Entry.exchanges_said_append, Entry.exchanges, Entry.exchanges_said_append,
        Entry.exchanges, ← List.append_assoc]
      exact .applied check attempt ih
  | unchecked check =>
      rw [Entry.exchanges_said]
      exact .unchecked check
  | failed check attempt =>
      rw [Entry.exchanges_said_append, Entry.exchanges, Entry.exchanges_said_append,
        Entry.exchanges, Entry.exchanges, List.append_nil]
      exact .failed check attempt

theorem exists_staging_of_takeUp (migrations : List Migration) (states : RunStates)
    (applied skipped : List MigrationName)
    {value : RunStates × Except Failure (List MigrationName × List MigrationName)}
    (transcript : (runner.takeUp states applied skipped migrations).Transcript entries value) :
    ∃ course, runner.Staging states migrations entries course ∧
      value = (course.remembered states, course.tally applied skipped) := by
  induction migrations generalizing states applied skipped entries with
  | nil =>
      obtain ⟨rfl, rfl⟩ := Session.transcript_pure_iff.mp transcript
      exact ⟨{}, .finished, by simp [Course.remembered, Course.tally]⟩
  | cons migration rest ih =>
      rw [takeUp] at transcript
      obtain ⟨asked, later, outcome, rfl, said, next⟩ :=
        Session.transcript_bind_iff.mp transcript
      obtain ⟨checked, rfl, dialogue⟩ :=
        (Tracker.silent_isApplied _ _).exists_dialogue said
      have check := dialogue_isApplied_iff.mp dialogue
      cases outcome with
      | error failure =>
          obtain ⟨rfl, rfl⟩ := Session.transcript_pure_iff.mp next
          rw [List.append_nil]
          exact ⟨_, .unchecked check, rfl⟩
      | ok found =>
          cases found with
          | true =>
              obtain ⟨course, staging, rfl⟩ := ih states applied _ next
              exact ⟨_, .skipped check staging,
                by rw [Course.tally_skip, Course.remembered_skip]⟩
          | false =>
              obtain ⟨_, rfl, begun⟩ := Session.transcript_announce_iff.mp next
              obtain ⟨applying, ending, outcome, rfl, said, ended⟩ :=
                Session.transcript_bind_iff.mp begun
              obtain ⟨attempted, rfl, dialogue⟩ := (silent_apply _ _).exists_dialogue said
              have attempt := dialogue_apply_iff.mp dialogue
              cases outcome with
              | error failure =>
                  obtain ⟨_, rfl, closed⟩ := Session.transcript_announce_iff.mp ended
                  obtain ⟨rfl, rfl⟩ := Session.transcript_pure_iff.mp closed
                  exact ⟨_, .failed check attempt, rfl⟩
              | ok _ =>
                  obtain ⟨_, rfl, onward⟩ := Session.transcript_announce_iff.mp ended
                  obtain ⟨course, staging, rfl⟩ := ih _ _ skipped onward
                  exact ⟨_, .applied check attempt staging,
                    by rw [Course.tally_apply, Course.remembered_apply]; rfl⟩

/-- Every transcript of a run is a staging, with what the run returns and what is
remembered in the end. -/
theorem exists_staging_of_run (known : runner.recognized = .ok (migrations, ignored))
    {value : RunStates × Except Failure Report}
    (transcript : (runner.run states).Transcript entries value) :
    ∃ course, runner.Staging states migrations entries course ∧
      value = (course.remembered states, course.result ignored) := by
  rw [run, known] at transcript
  change (runner.takeUp states [] [] migrations >>= _).Transcript entries value at transcript
  obtain ⟨taken, later, outcome, rfl, said, next⟩ := Session.transcript_bind_iff.mp transcript
  obtain ⟨course, staging, rfl⟩ := exists_staging_of_takeUp _ _ _ _ said
  refine ⟨course, ?_⟩
  cases stopped : course.stop with
  | none =>
      simp only [Course.tally, Course.result, stopped] at next ⊢
      obtain ⟨rfl, rfl⟩ := Session.transcript_pure_iff.mp next
      exact ⟨by rwa [List.append_nil], rfl⟩
  | some stop =>
      simp only [Course.tally, Course.result, stopped] at next ⊢
      obtain ⟨rfl, rfl⟩ := Session.transcript_pure_iff.mp next
      exact ⟨by rwa [List.append_nil], rfl⟩

/-- A run whose migrations are not known does nothing. -/
theorem entries_eq_nil_of_unrecognized {failure : Failure}
    (unknown : runner.recognized = .error failure) {value : RunStates × Except Failure Report}
    (transcript : (runner.run states).Transcript entries value) :
    entries = [] ∧ value = (states, .error failure) := by
  rw [run, unknown] at transcript
  exact Session.transcript_pure_iff.mp transcript

end Runner

end MigrationLedger
