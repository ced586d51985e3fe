/-
# What a successful run reports

A run that succeeds has taken up every migration of its source. Those whose names a
committed row bore before the run are skipped and the others are applied, so the two
lists of the report are the two halves of one ascending list. Each applied migration
has gained one row, in the same order, and nothing else has changed. The third list
holds the remaining names of the source.

A successful run never rolls back, so refused rollbacks need not be excluded here.
-/

import MigrationLedger.Proofs.Runner.Progress
import MigrationLedger.Proofs.Text.ByteOrder

namespace MigrationLedger

namespace Runner

variable {runner : Runner} {migration : Migration} {name : MigrationName} {refusals : Refusals}
  {db : Recording} {migrations : List Migration} {ignored : List MigrationName}
  {entries : List Migration} {rows : List RecordedRow} {report : Report}

/-! ## Names of a source -/

/-- Some entry of the source bears the name. -/
def Offered (entries : List Migration) (name : MigrationName) : Prop :=
  ∃ entry ∈ entries, entry.name = name

theorem exists_mem_sort_scripts_iff :
    (∃ migration ∈ Migration.sort (runner.scripts entries), migration.name = name) ↔
      name.hasExtension runner.settings.extension = true ∧ Offered entries name := by
  constructor
  · rintro ⟨migration, member, rfl⟩
    obtain ⟨member, script⟩ := List.mem_filter.mp ((Migration.perm_sort _).mem_iff.mp member)
    exact ⟨script, migration, member, rfl⟩
  · rintro ⟨script, entry, member, rfl⟩
    exact ⟨entry, (Migration.perm_sort _).mem_iff.mpr (List.mem_filter.mpr ⟨member, script⟩), rfl⟩

/-- The names that are not run, in order, are all names of other entries, as often as
they occur. -/
theorem ignoredNames_perm : (runner.ignoredNames entries).Perm
    ((entries.map Migration.name).filter fun name =>
      !name.hasExtension runner.settings.extension) := by
  rw [List.filter_map]
  exact MigrationName.perm_sort _

/-! ## The two halves -/

theorem pairwise_names_of_sublist {part : List Migration}
    (ascending : migrations.Pairwise Migration.Before) (within : part.Sublist migrations) :
    (part.map Migration.name).Pairwise fun a b => Text.bytes a.text < Text.bytes b.text :=
  List.pairwise_map.mpr ((ascending.sublist within).imp Text.bytes_lt_bytes_iff.mpr)

/-- No name belongs to a recorded and to an unrecorded migration. -/
theorem disjoint_unrecorded_alreadyRecorded (rows : List RecordedRow)
    (migrations : List Migration) :
    ((unrecorded rows migrations).map Migration.name).Disjoint
      ((alreadyRecorded rows migrations).map Migration.name) := by
  intro name applied skipped
  obtain ⟨first, pending, rfl⟩ := List.mem_map.mp applied
  obtain ⟨second, settled, same⟩ := List.mem_map.mp skipped
  have fresh := (mem_unrecorded_iff.mp pending).2
  rw [← same, (mem_alreadyRecorded_iff.mp settled).2] at fresh
  cases fresh

/-- Every migration is recorded or not. -/
theorem mem_names_unrecorded_or_iff :
    (name ∈ (unrecorded rows migrations).map Migration.name ∨
        name ∈ (alreadyRecorded rows migrations).map Migration.name) ↔
      ∃ migration ∈ migrations, migration.name = name := by
  simp only [List.mem_map, mem_unrecorded_iff, mem_alreadyRecorded_iff]
  constructor
  · rintro (⟨migration, ⟨member, _⟩, same⟩ | ⟨migration, ⟨member, _⟩, same⟩) <;>
      exact ⟨migration, member, same⟩
  · rintro ⟨migration, member, same⟩
    cases known : recorded rows migration.name with
    | false => exact .inl ⟨migration, ⟨member, known⟩, same⟩
    | true => exact .inr ⟨migration, ⟨member, known⟩, same⟩

theorem mem_names_alreadyRecorded_iff :
    name ∈ (alreadyRecorded rows migrations).map Migration.name ↔
      (∃ migration ∈ migrations, migration.name = name) ∧ ∃ row ∈ rows, row.name = name.text := by
  rw [← recorded_iff, List.mem_map]
  constructor
  · rintro ⟨migration, member, rfl⟩
    obtain ⟨member, known⟩ := mem_alreadyRecorded_iff.mp member
    exact ⟨⟨migration, member, rfl⟩, known⟩
  · rintro ⟨⟨migration, member, rfl⟩, known⟩
    exact ⟨migration, mem_alreadyRecorded_iff.mpr ⟨member, known⟩, rfl⟩

/-! ## A run that succeeds -/

theorem exists_recognized_of_result {states : RunStates}
    (succeeds : runner.resultOn refusals states db = .ok report) :
    ∃ migrations ignored, runner.recognized = .ok (migrations, ignored) := by
  cases recognized : runner.recognized with
  | ok found => exact ⟨found.1, found.2, rfl⟩
  | error failure =>
      rw [resultOn, run, recognized] at succeeds
      cases succeeds

/-- A run that succeeds has applied the unrecorded migrations, skipped the others, and
added a row for each that it applied. -/
theorem exists_added_of_result (known : runner.recognized = .ok (migrations, ignored))
    (promise : refusals.MissesOnlyUnrecorded) (states : RunStates) (h : db.Holds rows [] false)
    (succeeds : runner.resultOn refusals states db = .ok report) :
    report.applied = (unrecorded rows migrations).map Migration.name ∧
      report.skipped = (alreadyRecorded rows migrations).map Migration.name ∧
      report.ignored = ignored ∧
      ∃ added, (runner.afterRun refusals states db).Holds (rows ++ added) [] false ∧
        added.map RecordedRow.name = report.applied.map MigrationName.text := by
  obtain ⟨course, round, returned, leads⟩ := exists_round known refusals states db
  rw [returned] at succeeds
  obtain ⟨ended, rfl⟩ := result_eq_ok_iff.mp succeeds
  obtain ⟨settled, rest, added, leaked, rfl, holds, progress⟩ :=
    exists_progress (.inl ended) (pairwise_before_of_recognized known) round leads h
  obtain ⟨rfl, rfl⟩ := progress.finished ended
  rw [List.append_nil] at holds ⊢
  exact ⟨progress.applied_eq promise, progress.skipped_eq promise, rfl, added, holds,
    progress.added_names⟩

/-- **Report, source and database agree.** Take a run on a database without an open
transaction, any calls of which may be refused, a count for want of a table only when
no committed row bears the name. If it succeeds, the names applied and the names
skipped are two strictly ascending lists, in the order of bytes, that share no name;
together they are the names of the source that have the extension, and the names
ignored are all others in order. Skipped are exactly those that a committed row bore
before the run, and the run has added one row for each name applied, in order. -/
theorem report_of_result (idle : db.inTransaction = false) (clean : db.uncommitted = [])
    (promise : refusals.MissesOnlyUnrecorded) (states : RunStates)
    (succeeds : runner.resultOn refusals states db = .ok report) :
    ∃ entries, runner.offer = .ok entries ∧
      (report.applied.Pairwise fun a b => Text.bytes a.text < Text.bytes b.text) ∧
      (report.skipped.Pairwise fun a b => Text.bytes a.text < Text.bytes b.text) ∧
      report.applied.Disjoint report.skipped ∧
      (∀ name, (name ∈ report.applied ∨ name ∈ report.skipped) ↔
        name.hasExtension runner.settings.extension = true ∧ Offered entries name) ∧
      (report.ignored.Pairwise fun a b => Text.bytes a.text ≤ Text.bytes b.text) ∧
      report.ignored.Perm ((entries.map Migration.name).filter fun name =>
        !name.hasExtension runner.settings.extension) ∧
      (∀ name, name ∈ report.skipped ↔
        (name.hasExtension runner.settings.extension = true ∧ Offered entries name) ∧
          ∃ row ∈ db.committed, row.name = name.text) ∧
      ∃ added, (runner.afterRun refusals states db).Holds (db.committed ++ added) [] false ∧
        added.map RecordedRow.name = report.applied.map MigrationName.text := by
  obtain ⟨migrations, ignored, known⟩ := exists_recognized_of_result succeeds
  obtain ⟨applied, skipped, others, added⟩ :=
    exists_added_of_result known promise states ⟨rfl, clean, idle⟩ succeeds
  have ascending := pairwise_before_of_recognized known
  obtain ⟨entries, offered, _, rfl, rfl⟩ := recognized_eq_ok_iff.mp known
  refine ⟨entries, offered, ?_, ?_, ?_, ?_, ?_, ?_, ?_, added⟩
  · rw [applied]
    exact pairwise_names_of_sublist ascending List.filter_sublist
  · rw [skipped]
    exact pairwise_names_of_sublist ascending List.filter_sublist
  · rw [applied, skipped]
    exact disjoint_unrecorded_alreadyRecorded _ _
  · intro name
    rw [applied, skipped, mem_names_unrecorded_or_iff, exists_mem_sort_scripts_iff]
  · rw [others]
    exact (MigrationName.pairwise_sort _).imp Text.bytes_le_bytes_iff.mpr
  · rw [others]
    exact ignoredNames_perm
  · intro name
    rw [skipped, mem_names_alreadyRecorded_iff, exists_mem_sort_scripts_iff]

/-- A name that it does not take for one. -/
def noteName : MigrationName := ⟨"notes.txt", by decide⟩

/-- Two scripts and a note, in no particular order. -/
def mixedEntries : List Migration :=
  [⟨laterName, "SELECT 1"⟩, ⟨noteName, ""⟩, ⟨scriptName, "SELECT 1"⟩]

/-- The runner with the settings of the default configuration over these entries. -/
def mixed : Runner :=
  { single ⟨scriptName, "SELECT 1"⟩ with offer := .ok mixedEntries }

/-- A database that holds a row for the first script. -/
def startedDatabase : Recording := Recording.insert {} scriptName.text

theorem recognized_mixed : mixed.recognized =
    .ok ([⟨scriptName, "SELECT 1"⟩, ⟨laterName, "SELECT 1"⟩], [noteName]) := by
  have scripts : mixed.scripts mixedEntries =
      [⟨laterName, "SELECT 1"⟩, ⟨scriptName, "SELECT 1"⟩] := by decide +kernel
  have after : Migration.notAfter ⟨laterName, "SELECT 1"⟩ ⟨scriptName, "SELECT 1"⟩ = false := by
    decide +kernel
  refine recognized_eq_ok_iff.mpr ⟨mixedEntries, rfl, by decide +kernel, ?_, by decide +kernel⟩
  rw [scripts]
  simp [Migration.sort, List.mergeSort, List.MergeSort.Internal.splitInTwo, after]

theorem resultOn_mixed :
    mixed.resultOn .none [] startedDatabase = .ok ⟨[laterName], [scriptName], [noteName]⟩ := by
  rw [resultOn, run, recognized_mixed]
  decide +kernel

/-- A run that skips one script and applies another. -/
theorem report_of_mixed :
    mixed.resultOn .none [] startedDatabase = .ok ⟨[laterName], [scriptName], [noteName]⟩ ∧
      ∃ added, (mixed.afterRun .none [] startedDatabase).committed =
          startedDatabase.committed ++ added ∧
        added.map RecordedRow.name = [laterName.text] := by
  obtain ⟨_, _, _, _, _, _, _, _, _, added, holds, names⟩ :=
    report_of_result (by decide) (by decide) Refusals.none_neverMisses.missesOnlyUnrecorded []
      resultOn_mixed
  exact ⟨resultOn_mixed, added, holds.committed_eq, names⟩

end Runner

end MigrationLedger
