/-
# What a run says to its database

A run takes up its migrations in order. Each is checked; one that was not applied
yet is attempted; the first failure of a check or an attempt ends the run. The
module states this as a grammar of dialogues that mentions no database, and proves
that the dialogues of a run are exactly those of the grammar. What a run returns,
and what the runner remembers of it, is read off the same course.

The main statement is about all databases at once: whatever each call is answered
with, the calls and the result of a run are those of the grammar, and everything
that the grammar allows is what some database leads to.
-/

import MigrationLedger.Proofs.Runner.Attempt
import MigrationLedger.Proofs.Runner.Recognition

namespace MigrationLedger

namespace Runner

/-- Where a run ends early, and why. -/
structure Stop where
  name : MigrationName
  /-- The migration was attempted; otherwise already the check failed. -/
  attempted : Bool
  failure : Failure

/-- What becomes of the migrations that a run takes up. -/
structure Course where
  applied : List MigrationName := []
  skipped : List MigrationName := []
  stop : Option Stop := none

namespace Course

/-- The course with one more migration skipped at its beginning. -/
def skip (name : MigrationName) (course : Course) : Course :=
  { course with skipped := name :: course.skipped }

/-- The course with one more migration applied at its beginning. -/
def apply (name : MigrationName) (course : Course) : Course :=
  { course with applied := name :: course.applied }

/-- What a run with this course returns. -/
def result (course : Course) (ignored : List MigrationName) : Except Failure Report :=
  match course.stop with
  | none => .ok ⟨course.applied, course.skipped, ignored⟩
  | some stop => .error stop.failure

/-- What the runner remembers of a migration after an attempt that ended so. -/
def attempted (states : RunStates) (name : MigrationName) (state : MigrationState) : RunStates :=
  (states.set name .applying).set name state

/-- What the runner remembers after a run with this course. -/
def remembered (course : Course) (states : RunStates) : RunStates :=
  let states := course.applied.foldl (fun states name => attempted states name .applied) states
  match course.stop with
  | some ⟨name, true, _⟩ => attempted states name .failed
  | _ => states

/-- The names applied and skipped in a run that had applied and skipped others
before, the last one first. -/
def tally (course : Course) (applied skipped : List MigrationName) :
    Except Failure (List MigrationName × List MigrationName) :=
  match course.stop with
  | none => .ok (applied.reverse ++ course.applied, skipped.reverse ++ course.skipped)
  | some stop => .error stop.failure

theorem tally_skip (course : Course) (name : MigrationName) (applied skipped : List MigrationName) :
    (course.skip name).tally applied skipped = course.tally applied (name :: skipped) := by
  simp [tally, skip]

theorem tally_apply (course : Course) (name : MigrationName)
    (applied skipped : List MigrationName) :
    (course.apply name).tally applied skipped = course.tally (name :: applied) skipped := by
  simp [tally, apply]

@[simp]
theorem remembered_skip (course : Course) (name : MigrationName) (states : RunStates) :
    (course.skip name).remembered states = course.remembered states := rfl

@[simp]
theorem remembered_apply (course : Course) (name : MigrationName) (states : RunStates) :
    (course.apply name).remembered states =
      course.remembered (attempted states name .applied) := rfl

end Course

/-- The dialogue of a run over migrations that are taken up in order. -/
inductive Round (runner : Runner) : List Migration → List Exchange → Course → Prop
  | /-- All migrations were taken up. -/
    finished : Round runner [] [] {}
  | /-- A migration that was applied already is skipped. -/
    skipped {migration : Migration} {rest : List Migration} {checked later : List Exchange}
      {course : Course} (check : runner.Check migration.name checked (.ok true))
      (round : Round runner rest later course) :
      Round runner (migration :: rest) (checked ++ later) (course.skip migration.name)
  | /-- A migration that was not applied yet is applied. -/
    applied {migration : Migration} {rest : List Migration}
      {checked attempted later : List Exchange} {course : Course}
      (check : runner.Check migration.name checked (.ok false))
      (attempt : runner.Attempt migration attempted (.ok ()))
      (round : Round runner rest later course) :
      Round runner (migration :: rest) (checked ++ attempted ++ later)
        (course.apply migration.name)
  | /-- The check fails. -/
    unchecked {migration : Migration} {rest : List Migration} {checked : List Exchange}
      {failure : Failure} (check : runner.Check migration.name checked (.error failure)) :
      Round runner (migration :: rest) checked
        { stop := some ⟨migration.name, false, failure⟩ }
  | /-- The attempt fails. -/
    failed {migration : Migration} {rest : List Migration}
      {checked attempted : List Exchange} {failure : Failure}
      (check : runner.Check migration.name checked (.ok false))
      (attempt : runner.Attempt migration attempted (.error failure)) :
      Round runner (migration :: rest) (checked ++ attempted)
        { stop := some ⟨migration.name, true, failure⟩ }

variable {runner : Runner} {states : RunStates} {exchanged : List Exchange}
  {migrations : List Migration} {ignored : List MigrationName}

/-- Taking up migrations is one step of the grammar after another, whatever was
applied and skipped before. -/
theorem dialogue_takeUp_iff (migrations : List Migration) (states : RunStates)
    (applied skipped : List MigrationName)
    {value : RunStates × Except Failure (List MigrationName × List MigrationName)} :
    (runner.takeUp states applied skipped migrations).Dialogue exchanged value ↔
      ∃ course, runner.Round migrations exchanged course ∧
        value = (course.remembered states, course.tally applied skipped) := by
  induction migrations generalizing states applied skipped exchanged with
  | nil =>
      rw [takeUp, Session.dialogue_pure_iff]
      constructor
      · rintro ⟨rfl, rfl⟩
        exact ⟨{}, .finished, by simp [Course.remembered, Course.tally]⟩
      · rintro ⟨course, ⟨⟩, rfl⟩
        exact ⟨rfl, by simp [Course.remembered, Course.tally]⟩
  | cons migration rest ih =>
      rw [takeUp, Session.dialogue_bind_iff]
      constructor
      · rintro ⟨checked, later, outcome, rfl, asked, next⟩
        have check := dialogue_isApplied_iff.mp asked
        match outcome, next with
        | .error failure, next =>
            obtain ⟨rfl, rfl⟩ := Session.dialogue_pure_iff.mp next
            rw [List.append_nil]
            exact ⟨_, .unchecked check, rfl⟩
        | .ok true, next =>
            obtain ⟨course, round, rfl⟩ := (ih states applied _).mp next
            exact ⟨_, .skipped check round, by rw [Course.tally_skip, Course.remembered_skip]⟩
        | .ok false, next =>
            obtain ⟨attempted, later, outcome, rfl, attempt, next⟩ :=
              Session.dialogue_bind_iff.mp (Session.dialogue_announce_iff.mp next)
            replace attempt := dialogue_apply_iff.mp attempt
            match outcome, next with
            | .error failure, next =>
                obtain ⟨rfl, rfl⟩ :=
                  Session.dialogue_pure_iff.mp (Session.dialogue_announce_iff.mp next)
                rw [List.append_nil]
                exact ⟨_, .failed check attempt, rfl⟩
            | .ok (), next =>
                obtain ⟨course, round, rfl⟩ :=
                  (ih _ _ skipped).mp (Session.dialogue_announce_iff.mp next)
                rw [← List.append_assoc]
                exact ⟨_, .applied check attempt round,
                  by rw [Course.tally_apply, Course.remembered_apply]; rfl⟩
      · rintro ⟨course, round, rfl⟩
        cases round with
        | unchecked check =>
            exact ⟨_, [], _, (List.append_nil _).symm, dialogue_isApplied_iff.mpr check,
              Session.dialogue_pure_iff.mpr ⟨rfl, rfl⟩⟩
        | @skipped _ _ _ _ course check round =>
            refine ⟨_, _, _, rfl, dialogue_isApplied_iff.mpr check, ?_⟩
            exact (ih states applied _).mpr
              ⟨course, round, by rw [Course.tally_skip, Course.remembered_skip]⟩
        | failed check attempt =>
            refine ⟨_, _, _, rfl, dialogue_isApplied_iff.mpr check, ?_⟩
            refine Session.dialogue_announce_iff.mpr (Session.dialogue_bind_iff.mpr
              ⟨_, [], _, (List.append_nil _).symm, dialogue_apply_iff.mpr attempt, ?_⟩)
            exact Session.dialogue_announce_iff.mpr (Session.dialogue_pure_iff.mpr ⟨rfl, rfl⟩)
        | @applied _ _ _ _ _ course check attempt round =>
            refine ⟨_, _, _, List.append_assoc _ _ _, dialogue_isApplied_iff.mpr check, ?_⟩
            refine Session.dialogue_announce_iff.mpr (Session.dialogue_bind_iff.mpr
              ⟨_, _, _, rfl, dialogue_apply_iff.mpr attempt, ?_⟩)
            exact Session.dialogue_announce_iff.mpr ((ih _ _ skipped).mpr
              ⟨course, round, by rw [Course.tally_apply, Course.remembered_apply]; rfl⟩)

/-- A run whose migrations are not known says nothing. -/
theorem dialogue_run_of_unrecognized {failure : Failure}
    (unknown : runner.recognized = .error failure) {value : RunStates × Except Failure Report} :
    (runner.run states).Dialogue exchanged value ↔
      exchanged = [] ∧ value = (states, .error failure) := by
  rw [run, unknown]
  exact Session.dialogue_pure_iff

/-- The dialogues of a run, with what it returns and what is remembered of it. -/
theorem dialogue_run_iff (known : runner.recognized = .ok (migrations, ignored))
    {value : RunStates × Except Failure Report} :
    (runner.run states).Dialogue exchanged value ↔
      ∃ course, runner.Round migrations exchanged course ∧
        value = (course.remembered states, course.result ignored) := by
  rw [run, known]
  change (runner.takeUp states [] [] migrations >>= _).Dialogue exchanged value ↔ _
  rw [Session.dialogue_bind_iff]
  constructor
  · rintro ⟨taken, later, outcome, rfl, said, next⟩
    obtain ⟨course, round, rfl⟩ := (dialogue_takeUp_iff _ _ _ _).mp said
    refine ⟨course, ?_⟩
    cases stopped : course.stop with
    | none | some stop =>
        simp only [Course.tally, Course.result, stopped] at next ⊢
        obtain ⟨rfl, rfl⟩ := Session.dialogue_pure_iff.mp next
        exact ⟨by rwa [List.append_nil], rfl⟩
  · rintro ⟨course, round, rfl⟩
    refine ⟨exchanged, [], _, (List.append_nil _).symm,
      (dialogue_takeUp_iff _ _ _ _).mpr ⟨course, round, rfl⟩, ?_⟩
    cases stopped : course.stop with
    | none | some stop =>
        simp only [Course.tally, Course.result, stopped]
        exact Session.dialogue_pure_iff.mpr ⟨rfl, rfl⟩

/-- **Call discipline of a run.** When the source can be read and its scripts have
distinct names, they are taken up in strictly ascending order, and what some
database and the run say to each other, with the result, is exactly what the
grammar of rounds allows. Otherwise no database hears a single call. -/
theorem exchanges_of_run (runner : Runner) (states : RunStates) :
    (∀ entries, runner.offer = .ok entries →
      ((runner.scripts entries).map Migration.name).Nodup →
      ∃ migrations : List Migration,
        migrations.Perm (runner.scripts entries) ∧ migrations.Pairwise Migration.Before ∧
          ∀ (exchanged : List Exchange) (result : Except Failure Report),
            (∃ (σ : Type) (answering : Answering σ) (database : σ),
                (runner.run states).exchanges answering states database = exchanged ∧
                  ((runner.run states).hold answering states database).1.2 = result) ↔
              ∃ course, runner.Round migrations exchanged course ∧
                result = course.result (runner.ignoredNames entries)) ∧
      ((∀ entries, runner.offer = .ok entries →
          ¬ ((runner.scripts entries).map Migration.name).Nodup) →
        ∀ (σ : Type) (answering : Answering σ) (database : σ),
          (runner.run states).exchanges answering states database = []) := by
  constructor
  · intro entries offered distinct
    have known := recognized_eq_ok_iff.mpr ⟨entries, offered, distinct, rfl, rfl⟩
    refine ⟨_, Migration.perm_sort _, Migration.pairwise_before_sort distinct, ?_⟩
    intro exchanged result
    constructor
    · rintro ⟨σ, answering, database, rfl, rfl⟩
      have dialogue := Session.dialogue_exchanges answering (runner.run states) states database
      obtain ⟨course, round, ended⟩ := (dialogue_run_iff known).mp dialogue
      exact ⟨course, round, congrArg Prod.snd ended⟩
    · rintro ⟨course, round, rfl⟩
      have dialogue : (runner.run states).Dialogue exchanged _ :=
        (dialogue_run_iff known).mpr ⟨course, round, rfl⟩
      obtain ⟨σ, answering, database, said, ended⟩ :=
        (Session.dialogue_iff_exists_database _ states _ _).mp dialogue
      exact ⟨σ, answering, database, said, congrArg Prod.snd ended⟩
  · intro unfit σ answering database
    obtain ⟨failure, unknown⟩ := exists_recognized_eq_error unfit
    have dialogue := Session.dialogue_exchanges answering (runner.run states) states database
    exact ((dialogue_run_of_unrecognized unknown).mp dialogue).1

/-- A script of two statements. -/
def creating : Migration := ⟨scriptName, "CREATE TABLE jobrunr_a (id INT); DROP TABLE jobrunr_a;"⟩

/-- A script that begins with the marker. -/
def marked : Migration := ⟨laterName, "-- Empty migration\nSELECT 1;"⟩

/-- A runner over both, the later one first, with a schema. -/
def twofold : Runner where
  dialect := .duckDb
  settings := .inSchema
  usable := by decide +kernel
  offer := .ok [marked, creating]

theorem statementSteps_creating :
    twofold.statementSteps creating =
      [.send (.batch "CREATE TABLE app.jobrunr_a (id INT)") (.execution scriptName 1),
        .send (.batch "DROP TABLE app.jobrunr_a") (.execution scriptName 2)] := by
  have stated : twofold.ownStatements creating =
      ["CREATE TABLE jobrunr_a (id INT)", "DROP TABLE jobrunr_a"] := by
    rw [ownStatements, if_neg (by decide)]
    decide +kernel
  have first : twofold.qualify "CREATE TABLE jobrunr_a (id INT)" =
      .ok "CREATE TABLE app.jobrunr_a (id INT)" := by decide +kernel
  have second : twofold.qualify "DROP TABLE jobrunr_a" = .ok "DROP TABLE app.jobrunr_a" := by
    decide +kernel
  rw [statementSteps, stated]
  simp [statementStep, first, second, creating]

theorem statementSteps_marked : twofold.statementSteps marked = [] := by
  rw [statementSteps, ownStatements, if_pos (by decide)]
  rfl

/-- Both are applied, and only the statements of the first are sent. -/
theorem exchanges_of_twofold :
    ∃ (σ : Type) (answering : Answering σ) (database : σ),
      (twofold.run []).exchanges answering [] database =
          [⟨.connect, .ok ()⟩,
            ⟨.count "SELECT COUNT(*) FROM app.jobrunr_migrations WHERE script_name = ?"
              [.text "001.sql"], .ok 0⟩,
            ⟨.connect, .ok ()⟩, ⟨.batch "BEGIN TRANSACTION", .ok ()⟩,
            ⟨.batch "CREATE TABLE app.jobrunr_a (id INT)", .ok ()⟩,
            ⟨.batch "DROP TABLE app.jobrunr_a", .ok ()⟩,
            ⟨.execute
              "INSERT INTO app.jobrunr_migrations (id, script_name, applied_at) VALUES (?, ?, ?)"
              [.freshId, .text "001.sql", .now], .ok 1⟩,
            ⟨.batch "COMMIT", .ok ()⟩,
            ⟨.connect, .ok ()⟩,
            ⟨.count "SELECT COUNT(*) FROM app.jobrunr_migrations WHERE script_name = ?"
              [.text "002.sql"], .ok 0⟩,
            ⟨.connect, .ok ()⟩, ⟨.batch "BEGIN TRANSACTION", .ok ()⟩,
            ⟨.execute
              "INSERT INTO app.jobrunr_migrations (id, script_name, applied_at) VALUES (?, ?, ?)"
              [.freshId, .text "002.sql", .now], .ok 1⟩,
            ⟨.batch "COMMIT", .ok ()⟩] ∧
        ((twofold.run []).hold answering [] database).1.2 =
          .ok ⟨[scriptName, laterName], [], []⟩ := by
  obtain ⟨migrations, perm, ascending, law⟩ :=
    (exchanges_of_run twofold []).1 [marked, creating] rfl (by decide +kernel)
  have scripts : twofold.scripts [marked, creating] = [marked, creating] := by decide +kernel
  have sorted : migrations = [creating, marked] := by
    refine Migration.eq_of_pairwise_before ascending ?_ fun migration => ?_
    · exact List.pairwise_pair.mpr (by decide +kernel : "001.sql" < "002.sql")
    · rw [perm.mem_iff, scripts]
      simp [or_comm]
  have counted : "SELECT COUNT(*) FROM app.jobrunr_migrations WHERE script_name = ?" =
      "SELECT COUNT(*) FROM " ++ twofold.trackingTable ++ " WHERE script_name = ?" := by
    decide +kernel
  have recorded :
      "INSERT INTO app.jobrunr_migrations (id, script_name, applied_at) VALUES (?, ?, ?)" =
        "INSERT INTO " ++ twofold.trackingTable ++
          " (id, script_name, applied_at) VALUES (?, ?, ?)" := by
    decide +kernel
  refine (law _ _).mpr ⟨⟨[scriptName, laterName], [], none⟩, ?_, by decide +kernel⟩
  rw [sorted, counted, recorded]
  let opened : List Exchange := [⟨.connect, .ok ()⟩, ⟨.batch "BEGIN TRANSACTION", .ok ()⟩]
  let closed (name : MigrationName) : List Exchange :=
    [⟨twofold.insertCall name, .ok (1 : Nat)⟩, ⟨.batch "COMMIT", .ok ()⟩]
  have first : twofold.Attempt creating
      (opened ++ [⟨.batch "CREATE TABLE app.jobrunr_a (id INT)", .ok ()⟩,
        ⟨.batch "DROP TABLE app.jobrunr_a", .ok ()⟩] ++ closed scriptName) (.ok ()) := by
    refine .completed ?_
    rw [work, statementSteps_creating]
    exact .accepted _ (.accepted _ (.accepted _ (.accepted _ (.accepted _
      (.accepted _ .finished)))))
  have second : twofold.Attempt marked (opened ++ closed laterName) (.ok ()) := by
    refine .completed ?_
    rw [work, statementSteps_marked]
    exact .accepted _ (.accepted _ (.accepted _ (.accepted _ .finished)))
  exact .applied (.counted 0) first (.applied (.counted 0) second .finished)

end Runner

end MigrationLedger
