/-
# How far a run comes

A run settles some migrations from the front of its order: those that bear a row
already are skipped, the others are applied and gain a row each. It then ends, or
it stops at the next migration. `Progress` says which rows it has added by then,
and whether the migration that it stopped at has left a row in spite of its
failure. Everything said later about the rows is read off from here.
-/

import MigrationLedger.Proofs.Runner.Bookkeeping

namespace MigrationLedger

namespace Runner

open Recording (Leads Holds)

variable {runner : Runner} {migration : Migration} {name : MigrationName}
  {refusals : Refusals} {before after : Recording} {exchanged : List Exchange}
  {migrations : List Migration} {course : Course} {rows : List RecordedRow}

/-! ## The migration that a failure is about -/

theorem subject?_of_check {failure : Failure}
    (check : runner.Check name exchanged (.error failure)) : failure.subject? = some name := by
  generalize ended : Except.error failure = outcome at check
  cases check <;> cases ended <;> rfl

theorem subject?_of_attempt {failure : Failure}
    (attempt : runner.Attempt migration exchanged (.error failure)) :
    failure.subject? = some migration.name := by
  cases attempt with
  | unopened carried =>
      rcases carried_opening_error_iff.mp carried with ⟨_, _, rfl⟩ | ⟨_, _, rfl⟩ <;> rfl
  | undone _ failed _ =>
      rcases carried_work_iff.mp failed with
        ⟨_, same, carried | ⟨_, _, _, _, rfl⟩⟩ | ⟨_, _, _, _, _, closed⟩
      · cases same
        rcases failure_of_carried_statements carried with ⟨_, _, rfl⟩ | ⟨_, _, rfl⟩ <;> rfl
      · cases same
        rfl
      · obtain ⟨_, _, rfl⟩ := carried_commit_error_iff.mp closed
        rfl

/-- A run fails with a failure about the migration that it stops at. -/
theorem Round.subject? (round : runner.Round migrations exchanged course) {stop : Stop}
    (stopped : course.stop = some stop) : stop.failure.subject? = some stop.name := by
  induction round with
  | finished => cases stopped
  | skipped _ _ ih | applied _ _ _ ih => exact ih stopped
  | unchecked check =>
      cases stopped
      exact subject?_of_check check
  | failed _ attempt =>
      cases stopped
      exact subject?_of_attempt attempt

/-! ## The rows -/

/-- The migrations whose names no row bears. -/
def unrecorded (rows : List RecordedRow) (migrations : List Migration) : List Migration :=
  migrations.filter fun migration => !recorded rows migration.name

theorem unrecorded_cons_of_recorded (known : recorded rows migration.name = true) :
    unrecorded rows (migration :: migrations) = unrecorded rows migrations := by
  simp [unrecorded, known]

theorem unrecorded_cons_of_not_recorded (fresh : recorded rows migration.name = false) :
    unrecorded rows (migration :: migrations) = migration :: unrecorded rows migrations := by
  simp [unrecorded, fresh]

/-- A row does not matter to migrations of other names. -/
theorem recorded_append_of_ne {row : RecordedRow} (other : row.name ≠ name.text) :
    recorded (rows ++ [row]) name = recorded rows name := by
  rw [recorded_append]
  simp [recorded, other]

theorem unrecorded_append_of_ne {row : RecordedRow}
    (other : ∀ migration ∈ migrations, row.name ≠ migration.name.text) :
    unrecorded (rows ++ [row]) migrations = unrecorded rows migrations := by
  apply List.filter_congr
  intro migration member
  rw [recorded_append_of_ne (other migration member)]

theorem mem_unrecorded_iff :
    migration ∈ unrecorded rows migrations ↔
      migration ∈ migrations ∧ recorded rows migration.name = false := by
  simp [unrecorded]

/-- The migrations whose names some row bears. -/
def alreadyRecorded (rows : List RecordedRow) (migrations : List Migration) : List Migration :=
  migrations.filter fun migration => recorded rows migration.name

theorem alreadyRecorded_cons_of_recorded (known : recorded rows migration.name = true) :
    alreadyRecorded rows (migration :: migrations) =
      migration :: alreadyRecorded rows migrations := by
  simp [alreadyRecorded, known]

theorem alreadyRecorded_cons_of_not_recorded (fresh : recorded rows migration.name = false) :
    alreadyRecorded rows (migration :: migrations) = alreadyRecorded rows migrations := by
  simp [alreadyRecorded, fresh]

theorem alreadyRecorded_append_of_ne {row : RecordedRow}
    (other : ∀ migration ∈ migrations, row.name ≠ migration.name.text) :
    alreadyRecorded (rows ++ [row]) migrations = alreadyRecorded rows migrations := by
  apply List.filter_congr
  intro migration member
  rw [recorded_append_of_ne (other migration member)]

theorem mem_alreadyRecorded_iff :
    migration ∈ alreadyRecorded rows migrations ↔
      migration ∈ migrations ∧ recorded rows migration.name = true := by
  simp [alreadyRecorded]

/-- What a run has done when it ends or stops. It has settled some migrations and
left the rest, added rows, and perhaps left a row for a migration that failed.
`honest` stands for the promise that a count misses no committed row. -/
structure Progress (runner : Runner) (honest : Prop) (rows : List RecordedRow) (course : Course)
    (settled rest : List Migration) (added leaked : List RecordedRow) : Prop where
  /-- One row for each migration that was applied, in order. -/
  added_names : added.map RecordedRow.name = course.applied.map MigrationName.text
  /-- Only settled migrations were applied, in order. -/
  applied_sublist : course.applied.Sublist (settled.map Migration.name)
  /-- All of those without a row were applied. -/
  applied_eq : honest → course.applied = (unrecorded rows settled).map Migration.name
  /-- All of those with a row were skipped. -/
  skipped_eq : honest → course.skipped = (alreadyRecorded rows settled).map Migration.name
  /-- A run that ends leaves nothing to do. -/
  finished : course.stop = none → rest = [] ∧ leaked = []
  /-- A run that stops does so at the first of the rest. -/
  stopped : ∀ stop, course.stop = some stop → ∃ migration later, rest = migration :: later ∧
    stop.name = migration.name ∧
    (stop.attempted = true → honest → recorded rows migration.name = false) ∧
    ((runner.Records migration (.error stop.failure) ∧
        leaked.map RecordedRow.name = [migration.name.text] ∧ stop.attempted = true) ∨
      ¬ runner.Records migration (.error stop.failure) ∧ leaked = [])

namespace Progress

variable {honest : Prop} {settled rest : List Migration} {added leaked : List RecordedRow}

/-- The names of the rows that a run adds for the migrations it settles. -/
theorem names_eq (promise : honest)
    (progress : Progress runner honest rows course settled rest added leaked) :
    added.map RecordedRow.name =
      (unrecorded rows settled).map fun migration => migration.name.text := by
  rw [progress.added_names, progress.applied_eq promise, List.map_map]
  rfl

/-- Nothing is left to do. -/
theorem finish : Progress runner honest rows {} [] [] [] [] where
  added_names := rfl
  applied_sublist := .slnil
  applied_eq _ := rfl
  skipped_eq _ := rfl
  finished _ := ⟨rfl, rfl⟩
  stopped _ stopped := by cases stopped

/-- The first migration of the rest stops the run. -/
theorem halt {attempted : Bool} {failure : Failure}
    (fresh : attempted = true → honest → recorded rows migration.name = false)
    (outcome : (runner.Records migration (.error failure) ∧
        leaked.map RecordedRow.name = [migration.name.text] ∧ attempted = true) ∨
      ¬ runner.Records migration (.error failure) ∧ leaked = []) :
    Progress runner honest rows { stop := some ⟨migration.name, attempted, failure⟩ }
      [] (migration :: rest) [] leaked where
  added_names := rfl
  applied_sublist := .slnil
  applied_eq _ := rfl
  skipped_eq _ := rfl
  finished ended := by cases ended
  stopped := by
    rintro stop ⟨⟩
    exact ⟨migration, rest, rfl, rfl, fresh, outcome⟩

theorem skip (known : recorded rows migration.name = true)
    (progress : Progress runner honest rows course settled rest added leaked) :
    Progress runner honest rows (course.skip migration.name) (migration :: settled) rest
      added leaked where
  added_names := progress.added_names
  applied_sublist := progress.applied_sublist.cons _
  applied_eq promise := by
    rw [unrecorded_cons_of_recorded known]
    exact progress.applied_eq promise
  skipped_eq promise := by
    rw [alreadyRecorded_cons_of_recorded known, List.map_cons, ← progress.skipped_eq promise]
    rfl
  finished := progress.finished
  stopped := progress.stopped

theorem apply {row : RecordedRow} (named : row.name = migration.name.text)
    (fresh : honest → recorded rows migration.name = false)
    (other : ∀ later ∈ settled, row.name ≠ later.name.text)
    (progress : Progress runner honest (rows ++ [row]) course settled rest added leaked) :
    Progress runner honest rows (course.apply migration.name) (migration :: settled) rest
      (row :: added) leaked where
  added_names := by
    rw [List.map_cons, progress.added_names, named]
    rfl
  applied_sublist := progress.applied_sublist.cons_cons _
  applied_eq promise := by
    rw [unrecorded_cons_of_not_recorded (fresh promise), List.map_cons,
      ← unrecorded_append_of_ne other, ← progress.applied_eq promise]
    rfl
  skipped_eq promise := by
    rw [alreadyRecorded_cons_of_not_recorded (fresh promise), ← alreadyRecorded_append_of_ne other]
    exact progress.skipped_eq promise
  finished := progress.finished
  stopped stop stopped := by
    obtain ⟨failing, later, rest_eq, same, unknown, outcome⟩ := progress.stopped stop stopped
    refine ⟨failing, later, rest_eq, same, fun attempted promise => ?_, outcome⟩
    have both := unknown attempted promise
    rw [recorded_append, Bool.or_eq_false_iff] at both
    exact both.1

/-- A run leaves a row for a migration that failed only if the attempt has left it. -/
theorem leaked_cases (progress : Progress runner honest rows course settled rest added leaked) :
    leaked = [] ∨ ∃ failing later failure, rest = failing :: later ∧
      runner.Records failing (.error failure) ∧
      leaked.map RecordedRow.name = [failing.name.text] ∧
      (honest → recorded rows failing.name = false) := by
  cases stopped : course.stop with
  | none => exact .inl (progress.finished stopped).2
  | some stop =>
      obtain ⟨failing, later, rest_eq, _, fresh, outcome⟩ := progress.stopped stop stopped
      rcases outcome with ⟨records, left, attempted⟩ | ⟨_, none⟩
      · exact .inr ⟨failing, later, stop.failure, rest_eq, records, left, fresh attempted⟩
      · exact .inl none

end Progress

/-- Every run makes progress, and leaves nothing uncommitted and no transaction
open. Only a run that stops needs a rollback. -/
theorem exists_progress (spares : course.stop = none ∨ refusals.SparesRollback)
    (ascending : migrations.Pairwise Migration.Before)
    (round : runner.Round migrations exchanged course)
    (leads : Leads refusals before exchanged after) (h : before.Holds rows [] false) :
    ∃ settled rest added leaked, migrations = settled ++ rest ∧
      after.Holds (rows ++ (added ++ leaked)) [] false ∧
        Progress runner refusals.MissesOnlyUnrecorded rows course settled rest added leaked := by
  induction round generalizing before rows with
  | finished =>
      cases leads
      exact ⟨[], [], [], [], rfl, by simpa using h, .finish⟩
  | @skipped migration others checked later course check round ih =>
      obtain ⟨middle, toMiddle, fromMiddle⟩ := Recording.leads_append_iff.mp leads
      have known := (recorded_of_check check toMiddle h).1 rfl
      obtain ⟨settled, rest, added, leaked, rfl, holds, progress⟩ :=
        ih spares (List.pairwise_cons.mp ascending).2 fromMiddle
          (toMiddle.holds_of_reads check.reads h)
      exact ⟨migration :: settled, rest, added, leaked, rfl, holds, progress.skip known⟩
  | @applied migration others checked attempted later course check attempt round ih =>
      obtain ⟨asked, toAsked, fromAsked⟩ := Recording.leads_append_iff.mp leads
      obtain ⟨middle, toMiddle, asked_leads⟩ := Recording.leads_append_iff.mp toAsked
      have fresh := (recorded_of_check check toMiddle h).2
      have unchanged := toMiddle.holds_of_reads check.reads h
      rcases holds_of_attempt (.inl rfl) attempt asked_leads unchanged with
        ⟨_, row, named, holds⟩ | ⟨⟨_, same⟩, _⟩
      · obtain ⟨first, ascending⟩ := List.pairwise_cons.mp ascending
        obtain ⟨settled, rest, added, leaked, rfl, holds, progress⟩ :=
          ih spares ascending fromAsked holds
        refine ⟨migration :: settled, rest, row :: added, leaked, rfl, by simpa using holds,
          progress.apply named (fun promise => (fresh promise).symm) ?_⟩
        intro later member same
        rw [named] at same
        exact ne_of_lt (first later (List.mem_append_left _ member)) same
      · cases same
  | @unchecked migration others checked failure check =>
      have clean : ¬ runner.Records migration (.error failure) := by
        apply not_records_of_not_refusedCommit
        rintro ⟨error, rfl⟩
        cases check
      exact ⟨[], migration :: others, [], [], rfl,
        by simpa using leads.holds_of_reads check.reads h,
        .halt (fun attempted => absurd attempted Bool.false_ne_true) (.inr ⟨clean, rfl⟩)⟩
  | @failed migration others checked attempted failure check attempt =>
      obtain ⟨middle, toMiddle, fromMiddle⟩ := Recording.leads_append_iff.mp leads
      have fresh := (recorded_of_check check toMiddle h).2
      have unchanged := toMiddle.holds_of_reads check.reads h
      have spares := spares.resolve_left (fun same => by cases same)
      rcases holds_of_attempt (.inr spares) attempt fromMiddle unchanged with
        ⟨records, row, named, holds⟩ | ⟨_, clean, holds⟩
      · exact ⟨[], migration :: others, [], [row], rfl, holds,
          .halt (fun _ promise => (fresh promise).symm)
            (.inl ⟨records, congrArg (fun name => [name]) named, rfl⟩)⟩
      · exact ⟨[], migration :: others, [], [], rfl, by simpa using holds,
          .halt (fun _ promise => (fresh promise).symm) (.inr ⟨clean, rfl⟩)⟩

/-! ## A run on a recording database -/

/-- What a run and a recording database say to each other. -/
def saidOn (runner : Runner) (refusals : Refusals) (states : RunStates) (db : Recording) :
    List Exchange :=
  (runner.run states).exchanges (Recording.answering refusals) states db

/-- What a run on a recording database returns. -/
def resultOn (runner : Runner) (refusals : Refusals) (states : RunStates) (db : Recording) :
    Except Failure Report :=
  ((runner.run states).hold (Recording.answering refusals) states db).1.2

/-- The recording database after a run. -/
def afterRun (runner : Runner) (refusals : Refusals) (states : RunStates) (db : Recording) :
    Recording :=
  db.afterSession refusals states (runner.run states)

/-- What the runner remembers after a run on a recording database. -/
def rememberedOn (runner : Runner) (refusals : Refusals) (states : RunStates) (db : Recording) :
    RunStates :=
  ((runner.run states).hold (Recording.answering refusals) states db).1.1

/-- A run on a recording database follows some course, which decides what it returns
and what the runner remembers of it. -/
theorem exists_outcome {ignored : List MigrationName}
    (known : runner.recognized = .ok (migrations, ignored)) (refusals : Refusals)
    (states : RunStates) (db : Recording) :
    ∃ course, runner.Round migrations (runner.saidOn refusals states db) course ∧
      runner.rememberedOn refusals states db = course.remembered states ∧
      runner.resultOn refusals states db = course.result ignored ∧
      Leads refusals db (runner.saidOn refusals states db)
        (runner.afterRun refusals states db) := by
  obtain ⟨exchanged, said, dialogue, leads⟩ :=
    Recording.exists_dialogue_leads (runner.run states) refusals states db
  obtain ⟨course, round, ended⟩ := (dialogue_run_iff known).mp dialogue
  obtain rfl := said
  exact ⟨course, round, congrArg Prod.fst ended, congrArg Prod.snd ended, leads⟩

/-- The same without what the runner remembers. -/
theorem exists_round {ignored : List MigrationName}
    (known : runner.recognized = .ok (migrations, ignored)) (refusals : Refusals)
    (states : RunStates) (db : Recording) :
    ∃ course, runner.Round migrations (runner.saidOn refusals states db) course ∧
      runner.resultOn refusals states db = course.result ignored ∧
      Leads refusals db (runner.saidOn refusals states db)
        (runner.afterRun refusals states db) := by
  obtain ⟨course, round, _, returned, leads⟩ := exists_outcome known refusals states db
  exact ⟨course, round, returned, leads⟩

/-- The course of a run on a recording database, with what it does to the rows. -/
theorem exists_course {ignored : List MigrationName} {db : Recording}
    (known : runner.recognized = .ok (migrations, ignored)) (spares : refusals.SparesRollback)
    (states : RunStates) (h : db.Holds rows [] false) :
    ∃ course settled rest added leaked,
      runner.Round migrations (runner.saidOn refusals states db) course ∧
        runner.resultOn refusals states db = course.result ignored ∧
        Leads refusals db (runner.saidOn refusals states db) (runner.afterRun refusals states db) ∧
        migrations = settled ++ rest ∧
        (runner.afterRun refusals states db).Holds (rows ++ (added ++ leaked)) [] false ∧
        Progress runner refusals.MissesOnlyUnrecorded rows course settled rest added leaked := by
  obtain ⟨course, round, returned, leads⟩ := exists_round known refusals states db
  obtain ⟨settled, rest, added, leaked, split, holds, progress⟩ :=
    exists_progress (.inr spares) (pairwise_before_of_recognized known) round leads h
  exact ⟨course, settled, rest, added, leaked, round, returned, leads, split, holds, progress⟩

/-- The stop that a failed run has come to. -/
theorem exists_stop_of_result {ignored : List MigrationName} {failure : Failure}
    (failed : course.result ignored = .error failure) :
    ∃ stop, course.stop = some stop ∧ stop.failure = failure := by
  unfold Course.result at failed
  cases stopped : course.stop with
  | none =>
      rw [stopped] at failed
      cases failed
  | some stop =>
      rw [stopped] at failed
      exact ⟨stop, rfl, Except.error.inj failed⟩

/-- A run that succeeds has not come to a stop, and reports what became of the
migrations. -/
theorem result_eq_ok_iff {ignored : List MigrationName} {report : Report} :
    course.result ignored = .ok report ↔
      course.stop = none ∧ report = ⟨course.applied, course.skipped, ignored⟩ := by
  unfold Course.result
  cases stopped : course.stop with
  | none => simp [eq_comm]
  | some stop => simp

theorem stop_eq_none_of_result {ignored : List MigrationName} {report : Report}
    (succeeds : course.result ignored = .ok report) : course.stop = none :=
  (result_eq_ok_iff.mp succeeds).1

end Runner

end MigrationLedger
