/-
# A run up to its first attempt

What a run leaves in its database follows from the parts of the run that are held with it
one after the other. The check of a migration is silent, and so is its attempt, so each part
is held under known states and with the database that the part before has left. The module
names the databases on the way to the end of an attempt, and shows that a run whose first
check finds the migration not applied goes on with exactly this attempt.
-/

import MigrationLedger.Proofs.Runner.History
import MigrationLedger.Proofs.Session.Holding

namespace MigrationLedger

namespace Runner

variable {σ : Type} {runner : Runner} {answering : Answering σ} {states : RunStates} {db : σ}
  {migration first : Migration} {migrations rest : List Migration}
  {ignored : List MigrationName} {exchanged : List Exchange} {failure : Failure}

/-- The database after the check of a migration. -/
def checkedOn (runner : Runner) (answering : Answering σ) (states : RunStates)
    (name : MigrationName) (db : σ) : σ :=
  ((Tracker.isApplied runner.settings.tracking name).hold answering states db).2

/-- The database when the statements of a migration begin, if a run takes it up now: the
check is over, and a transaction was opened on a new connection. -/
def begunOn (runner : Runner) (answering : Answering σ) (states : RunStates)
    (migration : Migration) (db : σ) : σ :=
  let checked := runner.checkedOn answering states migration.name db
  let underWay := states.set migration.name .applying
  (Transaction.begin.hold answering underWay (answering underWay checked .connect).2).2

/-- How the statements of a migration end, if a run takes it up now, and the database when
they have ended. -/
def executedOn (runner : Runner) (answering : Answering σ) (states : RunStates)
    (migration : Migration) (db : σ) : Except Failure Unit × σ :=
  (runner.executeStatements migration.name 1 (runner.statementsOf migration)).hold answering
    (states.set migration.name .applying) (runner.begunOn answering states migration db)

/-- How the work of an attempt within its transaction ends, if a run takes up the migration
now, and the database when it has ended. -/
def insideOn (runner : Runner) (answering : Answering σ) (states : RunStates)
    (migration : Migration) (db : σ) : Except Failure Unit × σ :=
  (runner.inside migration).hold answering (states.set migration.name .applying)
    (runner.begunOn answering states migration db)

/-- How an attempt at a migration ends, if a run takes it up now, and the database after
it. -/
def attemptOn (runner : Runner) (answering : Answering σ) (states : RunStates)
    (migration : Migration) (db : σ) : Except Failure Unit × σ :=
  (runner.apply migration).hold answering (states.set migration.name .applying)
    (runner.checkedOn answering states migration.name db)

/-! ## What is exchanged -/

/-- An attempt at the migration succeeded. -/
def GetsPast (runner : Runner) (migration : Migration) (exchanged : List Exchange) : Prop :=
  ∃ before attempted after, exchanged = before ++ attempted ++ after ∧
    runner.Attempt migration attempted (.ok ())

/-- What a successful attempt exchanges ends with a commit. -/
theorem GetsPast.commits (past : runner.GetsPast migration exchanged) :
    (⟨.batch "COMMIT", .ok ()⟩ : Exchange) ∈ exchanged := by
  obtain ⟨before, attempted, after, rfl, attempt⟩ := past
  rcases attempt_iff.mp attempt with ⟨_, same, _⟩ | ⟨inside, closing, inner, rfl, _, closed⟩
  · cases same
  · cases closed
    simp

/-- A check sends no commit. -/
theorem Check.call_ne_commit {name : MigrationName} {outcome : Except Failure Bool}
    (check : runner.Check name exchanged outcome) :
    ∀ exchange ∈ exchanged, exchange.call ≠ .batch "COMMIT" := by
  intro exchange member commits
  have reads := check.reads exchange member
  rw [commits] at reads
  exact reads

/-! ## What a run goes on with -/

/-- What a run does behind an attempt. -/
def afterAttempt (runner : Runner) (states : RunStates) (applied skipped : List MigrationName)
    (name : MigrationName) (rest : List Migration) : Except Failure Unit →
      Session (RunStates × Except Failure (List MigrationName × List MigrationName))
  | .error failure =>
    .announce (Course.attempted states name .failed)
      (return (Course.attempted states name .failed, .error failure))
  | .ok () =>
    .announce (Course.attempted states name .applied)
      (runner.takeUp (Course.attempted states name .applied) (name :: applied) skipped rest)

/-- A run is what it takes up, with the names that it ignores. -/
theorem run_eq (known : runner.recognized = .ok (migrations, ignored)) :
    runner.run states = runner.takeUp states [] [] migrations >>= fun taken =>
      pure (taken.1, taken.2.map fun names => ⟨names.1, names.2, ignored⟩) := by
  rw [run, known]
  change runner.takeUp states [] [] migrations >>= _ = _
  congr 1
  funext taken
  obtain ⟨after, failure | names⟩ := taken
  · rfl
  · rfl

section Unapplied

-- The check finds that the migration was not applied.
variable (unapplied : ((Tracker.isApplied runner.settings.tracking first.name).hold answering
  states db).1 = .ok false)

include unapplied

theorem hold_takeUp_of_unapplied (applied skipped : List MigrationName) (rest : List Migration) :
    (runner.takeUp states applied skipped (first :: rest)).hold answering states db =
      (runner.afterAttempt states applied skipped first.name rest
        (runner.attemptOn answering states first db).1).hold answering
          (states.set first.name .applying) (runner.attemptOn answering states first db).2 := by
  rw [takeUp, (Tracker.silent_isApplied _ _).hold_bind, unapplied]
  exact (silent_apply runner first).hold_bind

/-- A migration that was not applied is checked and attempted. -/
theorem exchanges_takeUp_of_unapplied (applied skipped : List MigrationName)
    (rest : List Migration) :
    ∃ checked attempted, runner.Check first.name checked (.ok false) ∧
      runner.Attempt first attempted (runner.attemptOn answering states first db).1 ∧
      (runner.takeUp states applied skipped (first :: rest)).exchanges answering states db =
        checked ++ (attempted ++ (runner.afterAttempt states applied skipped first.name rest
          (runner.attemptOn answering states first db).1).exchanges answering
            (states.set first.name .applying) (runner.attemptOn answering states first db).2) := by
  have check := dialogue_isApplied_iff.mp (Session.dialogue_exchanges answering
    (Tracker.isApplied runner.settings.tracking first.name) states db)
  have attempt := dialogue_apply_iff.mp (Session.dialogue_exchanges answering
    (runner.apply first) (states.set first.name .applying)
    (runner.checkedOn answering states first.name db))
  rw [unapplied] at check
  refine ⟨_, _, check, attempt, ?_⟩
  rw [takeUp, (Tracker.silent_isApplied _ _).exchanges_bind, unapplied]
  exact congrArg _ (silent_apply runner first).exchanges_bind

-- The migration is the smallest one of the source.
variable (known : runner.recognized = .ok (first :: rest, ignored))

include known

/-- A run gets past its first migration when the attempt at it succeeds. -/
theorem getsPast_of_unapplied
    (ok : (runner.attemptOn answering states first db).1 = .ok ()) :
    runner.GetsPast first ((runner.run states).exchanges answering states db) := by
  obtain ⟨checked, attempted, _, attempt, said⟩ :=
    exchanges_takeUp_of_unapplied unapplied [] [] rest
  rw [ok] at attempt
  rw [run_eq known, Session.exchanges_bind_pure, said, ← List.append_assoc]
  exact ⟨checked, attempted, _, rfl, attempt⟩

/-- A run whose first attempt fails ends with it. -/
theorem hold_run_of_unapplied
    (failed : (runner.attemptOn answering states first db).1 = .error failure) :
    (runner.run states).hold answering states db =
      ((Course.attempted states first.name .failed, .error failure),
        (runner.attemptOn answering states first db).2) := by
  rw [run_eq known, Session.hold_bind_pure, hold_takeUp_of_unapplied unapplied [] [] rest, failed]
  rfl

/-- A run whose first attempt fails exchanges the check and the attempt, and nothing
else. -/
theorem exchanges_run_of_unapplied
    (failed : (runner.attemptOn answering states first db).1 = .error failure) :
    ∃ checked attempted, runner.Check first.name checked (.ok false) ∧
      runner.Attempt first attempted (.error failure) ∧
      (runner.run states).exchanges answering states db = checked ++ attempted := by
  obtain ⟨checked, attempted, check, attempt, said⟩ :=
    exchanges_takeUp_of_unapplied unapplied [] [] rest
  rw [failed] at attempt said
  refine ⟨checked, attempted, check, attempt, ?_⟩
  rw [run_eq known, Session.exchanges_bind_pure, said]
  exact congrArg (checked ++ ·) (List.append_nil attempted)

end Unapplied

end Runner

namespace History

variable {σ : Type}

/-- The operation is no run that gets past its first migration. -/
def Stuck (answering : Answering σ) (world : World σ) (runner : Runner)
    (operation : Runner.Operation) : Prop :=
  operation.Runs → ∀ first rest ignored, runner.recognized = .ok (first :: rest, ignored) →
    ¬ runner.GetsPast first
      ((runner.run world.states).exchanges answering world.states world.database)

/-- The world after some operations of runners, all answered by the same database. -/
def afterUses (answering : Answering σ) (world : World σ)
    (uses : List (Runner × Runner.Operation)) : World σ :=
  after world (uses.map fun use => .use use.1 use.2 answering)

end History

end MigrationLedger
