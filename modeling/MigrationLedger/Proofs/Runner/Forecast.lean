/-
# A status foretells the next run

A status and a run decide in different ways whether a migration was applied. A status
lists all rows, keeps those that hold records, and looks each migration up among them. A
run counts the rows with a name, one migration after another, while it adds rows itself.
On a recording database the two agree for all rows, also for rows that repeat and for
rows with names that no migration has: a status calls applied what a row bears the name
of, and the rows that a run adds are never counted by it.

A missing tracking table is answered for in both: it may be reported missing as long as
no row is committed.
-/

import MigrationLedger.Proofs.Runner.Sorting
import MigrationLedger.Proofs.Runner.Uses

namespace MigrationLedger

/-- Nothing is refused but questions about the tracking table, these for want of the
table, and only while no row is committed. -/
def Refusals.MissesOnlyEmpty (refusals : Refusals) : Prop :=
  ∀ (db : Recording) (call : Call) (error : DbError), refusals db call = some error →
    (call.kind = .count ∨ call.kind = .rows) ∧ error.isNotFound = true ∧ db.committed = []

theorem Refusals.MissesOnlyEmpty.missesOnlyUnrecorded {refusals : Refusals}
    (h : refusals.MissesOnlyEmpty) : refusals.MissesOnlyUnrecorded := by
  intro db sql name error refused _ row member
  rw [(h db _ error refused).2.2] at member
  cases member

/-- The tracking table is missing as long as it is empty. -/
def Refusals.whileEmpty : Refusals := fun db call =>
  if (call.kind = .count ∨ call.kind = .rows) ∧ db.committed = [] then
    some (.tableNotFound "no tracking table")
  else Option.none

theorem Refusals.whileEmpty_missesOnlyEmpty : whileEmpty.MissesOnlyEmpty := by
  intro db call error refused
  rw [whileEmpty, Option.ite_none_right_eq_some] at refused
  obtain ⟨⟨asks, empty⟩, same⟩ := refused
  obtain rfl := Option.some.inj same
  exact ⟨asks, rfl, empty⟩

namespace Runner

open Recording (Leads Holds)

variable {runner : Runner} {migration : Migration} {name : MigrationName} {refusals : Refusals}
  {before after db : Recording} {exchanged : List Exchange} {migrations : List Migration}
  {ignored : List MigrationName} {course : Course} {rows : List RecordedRow} {report : Report}
  {states : RunStates} {open? : Bool}

/-! ## What a status reports -/

/-- What a status on a recording database returns. -/
def statusOn (runner : Runner) (refusals : Refusals) (states : RunStates) (db : Recording) :
    Except Failure (List MigrationStatus) :=
  ((runner.status states).hold (Recording.answering refusals) states db).1

/-- The recording database after a status. -/
def afterStatus (runner : Runner) (refusals : Refusals) (states : RunStates) (db : Recording) :
    Recording :=
  db.afterSession refusals states (runner.status states)

/-- The records that the committed rows hold. -/
def recordsIn (db : Recording) : List MigrationRecord :=
  db.shownRows.filterMap Tracker.recordOfRow?

/-- Among the records is one with a name exactly when a row bears the name. Rows with
names that no migration has hold no record, and no migration has their names. -/
theorem exists_mem_recordsIn_iff :
    (∃ record ∈ recordsIn db, record.name = name) ↔ recorded db.committed name = true := by
  rw [recorded_iff]
  simp only [recordsIn, Recording.shownRows, List.mem_filterMap, List.mem_map, List.mem_mergeSort]
  constructor
  · rintro ⟨record, ⟨_, ⟨row, member, rfl⟩, held⟩, rfl⟩
    refine ⟨row, member, ?_⟩
    rw [Tracker.recordOfRow?] at held
    split at held
    · rename_i found parsed
      obtain rfl := Option.some.inj held
      exact (MigrationName.text_of_parse parsed).symm
    · cases held
  · rintro ⟨row, member, named⟩
    refine ⟨⟨row.id, name, row.appliedAt⟩, ⟨_, ⟨row, member, rfl⟩, ?_⟩, rfl⟩
    rw [Tracker.recordOfRow?, named, MigrationName.parse_text]

/-- A status calls a migration applied exactly when a record has its name, whatever the
runner remembers. -/
theorem state_statusOf_eq_applied_iff {records : List MigrationRecord} :
    (statusOf records states name).state = .applied ↔
      ∃ record ∈ records, record.name = name := by
  have listed : (∃ record ∈ records, record.name = name) ↔
      (appliedAt? records name).isSome = true := by
    simp [appliedAt?]
  rw [listed, statusOf]
  cases appliedAt? records name with
  | some appliedAt => simp
  | none =>
      cases states.state? name with
      | none => simp
      | some state => cases state <;> simp

theorem name_statusOf (records : List MigrationRecord) (states : RunStates)
    (name : MigrationName) : (statusOf records states name).name = name := by
  rw [statusOf]
  split
  · rfl
  · split <;> rfl

/-- The listing of the tracking table, if at most an empty table is missing. -/
theorem records_of_leads {table : String} {outcome : Except Failure (List MigrationRecord)}
    (only : refusals.MissesOnlyEmpty) (unset : db.rowsAnswer = none)
    (listing : Tracker.Listing table exchanged outcome)
    (leads : Leads refusals db exchanged after) : outcome = .ok (recordsIn db) := by
  have start : db.Holds db.committed db.uncommitted db.inTransaction := ⟨rfl, rfl, rfl⟩
  cases listing with
  | unconnected error =>
      -- A connection is never refused here.
      obtain ⟨refused, _⟩ := Recording.leads_refused leads start
      obtain ⟨kind | kind, _⟩ := only _ _ _ refused <;> cases kind
  | listed rows =>
      obtain ⟨_, rest⟩ := Recording.leads_accepted leads
      obtain ⟨shown, _⟩ := Recording.leads_accepted rest
      have all : rows = db.rowsAnswer.getD db.shownRows := shown
      rw [all, unset]
      rfl
  | untracked error | refused error =>
      obtain ⟨_, rest⟩ := Recording.leads_accepted leads
      obtain ⟨refused, _⟩ := Recording.leads_refused rest (start.note (.call .connect))
      obtain ⟨_, missing, empty⟩ := only _ _ _ refused
      have none : db.committed = [] := empty
      simp_all [recordsIn, Recording.shownRows]

/-- A status reports every migration, with the records that the rows hold. -/
theorem statusOn_eq (known : runner.recognized = .ok (migrations, ignored))
    (only : refusals.MissesOnlyEmpty) (unset : db.rowsAnswer = none) (states : RunStates) :
    runner.statusOn refusals states db =
      .ok (migrations.map fun migration => statusOf (recordsIn db) states migration.name) := by
  obtain ⟨exchanged, _, dialogue, leads⟩ :=
    Recording.exists_dialogue_leads (runner.status states) refusals states db
  change (runner.status states).Dialogue exchanged (runner.statusOn refusals states db) at dialogue
  obtain ⟨listed, listing, reported⟩ := (dialogue_status_iff known).mp dialogue
  rw [reported, records_of_leads only unset listing leads]
  rfl

/-! ## What the run does -/

/-- An attempt that succeeds adds one row, whether or not a transaction was open before
it. -/
theorem holds_of_completed (attempt : runner.Attempt migration exchanged (.ok ()))
    (leads : Leads refusals before exchanged after) (h : before.Holds rows [] open?) :
    ∃ row : RecordedRow, row.name = migration.name.text ∧
      after.Holds (rows ++ [row]) [] false := by
  cases attempt with
  | completed carried =>
      rcases carried_append_iff.mp carried with ⟨_, same, _⟩ | ⟨_, _, rfl, opens, worked⟩
      · cases same
      · obtain ⟨middle, holds, rest⟩ := holds_of_opened opens leads h
        rcases holds_of_work worked rest holds with ⟨_, added⟩ | ⟨⟨_, same⟩, _⟩
        · exact added
        · cases same

/-- A run that ends applies what no row bore the name of at its beginning, and skips the
others: a row that it adds bears the name of a migration that was taken up before. -/
theorem Round.settles (ended : course.stop = none) (promise : refusals.MissesOnlyUnrecorded)
    (ascending : migrations.Pairwise Migration.Before)
    (round : runner.Round migrations exchanged course)
    (leads : Leads refusals before exchanged after) (h : before.Holds rows [] open?) :
    course.applied = (unrecorded rows migrations).map Migration.name ∧
      course.skipped = (alreadyRecorded rows migrations).map Migration.name := by
  induction round generalizing before rows open? with
  | finished => exact ⟨rfl, rfl⟩
  | skipped check _ ih =>
      obtain ⟨middle, toMiddle, fromMiddle⟩ := Recording.leads_append_iff.mp leads
      have found := (recorded_of_check check toMiddle h).1 rfl
      obtain ⟨applied, skipped⟩ := ih ended (List.pairwise_cons.mp ascending).2 fromMiddle
        (toMiddle.holds_of_reads check.reads h)
      rw [unrecorded_cons_of_recorded found, alreadyRecorded_cons_of_recorded found,
        List.map_cons, ← skipped]
      exact ⟨applied, rfl⟩
  | @applied migration others _ _ _ _ check attempt _ ih =>
      obtain ⟨asked, toAsked, fromAsked⟩ := Recording.leads_append_iff.mp leads
      obtain ⟨middle, toMiddle, asked_leads⟩ := Recording.leads_append_iff.mp toAsked
      have fresh := (recorded_of_check check toMiddle h).2 promise
      obtain ⟨row, named, holds⟩ := holds_of_completed attempt asked_leads
        (toMiddle.holds_of_reads check.reads h)
      obtain ⟨first, ascending⟩ := List.pairwise_cons.mp ascending
      obtain ⟨applied, skipped⟩ := ih ended ascending fromAsked holds
      have other : ∀ later ∈ others, row.name ≠ later.name.text := fun later member same =>
        ne_of_lt (first later member) (named.symm.trans same)
      rw [unrecorded_append_of_ne other] at applied
      rw [alreadyRecorded_append_of_ne other] at skipped
      rw [unrecorded_cons_of_not_recorded fresh.symm,
        alreadyRecorded_cons_of_not_recorded fresh.symm, List.map_cons, ← applied]
      exact ⟨rfl, skipped⟩
  | unchecked | failed => cases ended

/-- What a status reports of some migrations, cut in two by whether they are applied,
are the migrations with and without a row. -/
theorem names_filter_statusOf (db : Recording) (states : RunStates) (migrations : List Migration) :
    let statuses := migrations.map fun migration => statusOf (recordsIn db) states migration.name
    (statuses.filter fun status => status.state = .applied).map MigrationStatus.name =
        (alreadyRecorded db.committed migrations).map Migration.name ∧
      (statuses.filter fun status => status.state ≠ .applied).map MigrationStatus.name =
        (unrecorded db.committed migrations).map Migration.name := by
  intro statuses
  have decided (migration : Migration) :
      decide ((statusOf (recordsIn db) states migration.name).state = .applied) =
        recorded db.committed migration.name := by
    rw [Bool.eq_iff_iff, decide_eq_true_iff, state_statusOf_eq_applied_iff,
      exists_mem_recordsIn_iff]
  simp only [statuses, List.filter_map, List.map_map, Function.comp_def, name_statusOf, ne_eq,
    decide_not, decided]
  exact ⟨rfl, rfl⟩

/-- **A status foretells the run.** Take any committed rows, nothing uncommitted, and
whatever the runner remembers. At most questions about the tracking table are refused,
for want of the table and only while no row is committed, and rows are listed as they
are. If a run that follows a status succeeds, the status has succeeded too. The run has
skipped the names that were reported as applied and has applied the other ones, both in
the order of the report. -/
theorem status_foretells (clean : db.uncommitted = []) (unset : db.rowsAnswer = none)
    (only : refusals.MissesOnlyEmpty) (states : RunStates)
    (succeeds : runner.resultOn refusals states (runner.afterStatus refusals states db) =
      .ok report) :
    ∃ statuses, runner.statusOn refusals states db = .ok statuses ∧
      report.skipped =
        (statuses.filter fun status => status.state = .applied).map MigrationStatus.name ∧
      report.applied =
        (statuses.filter fun status => status.state ≠ .applied).map MigrationStatus.name := by
  obtain ⟨migrations, ignored, known⟩ := exists_recognized_of_result succeeds
  have start : db.Holds db.committed [] db.inTransaction := ⟨rfl, clean, rfl⟩
  have between : (runner.afterStatus refusals states db).Holds db.committed []
      db.inTransaction := by
    obtain ⟨exchanged, _, dialogue, leads⟩ :=
      Recording.exists_dialogue_leads (runner.status states) refusals states db
    exact leads.holds_of_reads (reads_of_status dialogue) start
  obtain ⟨course, round, returned, leads⟩ :=
    exists_round known refusals states (runner.afterStatus refusals states db)
  rw [returned] at succeeds
  obtain ⟨ended, rfl⟩ := result_eq_ok_iff.mp succeeds
  obtain ⟨applied, skipped⟩ := round.settles ended only.missesOnlyUnrecorded
    (pairwise_before_of_recognized known) leads between
  obtain ⟨reportedApplied, reportedOther⟩ := names_filter_statusOf db states migrations
  exact ⟨_, statusOn_eq known only unset states, skipped.trans reportedApplied.symm,
    applied.trans reportedOther.symm⟩

/-- A database with a row for the first script, twice, and a row that no migration can
have the name of. -/
def crowdedDatabase : Recording :=
  (startedDatabase.insert scriptName.text).insert "../001.sql"

/-- A status and a run that skips one script and applies another, which had failed
before. -/
theorem status_foretells_crowded :
    crowdedDatabase.uncommitted = [] ∧ crowdedDatabase.rowsAnswer = none ∧
      Refusals.whileEmpty.MissesOnlyEmpty ∧
      mixed.resultOn .whileEmpty [(laterName, .failed)]
          (mixed.afterStatus .whileEmpty [(laterName, .failed)] crowdedDatabase) =
        .ok ⟨[laterName], [scriptName], [noteName]⟩ ∧
      ∃ statuses, mixed.statusOn .whileEmpty [(laterName, .failed)] crowdedDatabase =
          .ok statuses ∧
        (statuses.filter fun status => status.state = .applied).map MigrationStatus.name =
          [scriptName] := by
  have succeeds : mixed.resultOn .whileEmpty [(laterName, .failed)]
      (mixed.afterStatus .whileEmpty [(laterName, .failed)] crowdedDatabase) =
        .ok ⟨[laterName], [scriptName], [noteName]⟩ := by
    rw [resultOn, run, afterStatus, status, recognized_mixed]
    decide +kernel
  have clean : crowdedDatabase.uncommitted = [] := by decide
  have unset : crowdedDatabase.rowsAnswer = none := by decide
  have only := Refusals.whileEmpty_missesOnlyEmpty
  obtain ⟨statuses, reported, skipped, _⟩ := status_foretells clean unset only _ succeeds
  exact ⟨clean, unset, only, succeeds, statuses, reported, skipped.symm⟩

end Runner

end MigrationLedger
