/-
# A second run does nothing

After a run that succeeds every migration of the source bears a committed row, on
whatever path it came there: found by the count, inserted under the commit of the run,
or committed by a script that had ended the transaction itself. A run over recorded
migrations asks for each of them and changes nothing, neither the rows nor what the
runner remembers.

The first run may be refused any calls. The second one is refused none, and may be a
run of the same runner or of a new one with the same settings and the same source.
-/

import MigrationLedger.Proofs.Runner.Resumption
import MigrationLedger.Proofs.Runner.Success

namespace MigrationLedger

namespace Runner

open Recording (Leads Holds)

variable {runner : Runner} {migration : Migration} {name : MigrationName} {refusals : Refusals}
  {before after db : Recording} {exchanged : List Exchange} {migrations : List Migration}
  {ignored : List MigrationName} {course : Course} {rows : List RecordedRow} {report : Report}

/-! ## What the first run leaves -/

/-- A run that ends has left a row for every migration. -/
theorem exists_recorded_of_round (ended : course.stop = none)
    (round : runner.Round migrations exchanged course)
    (leads : Leads refusals before exchanged after) (h : before.Holds rows [] false) :
    ∃ added, after.Holds (rows ++ added) [] false ∧
      ∀ migration ∈ migrations, recorded (rows ++ added) migration.name = true := by
  induction round generalizing before rows with
  | finished =>
      cases leads
      exact ⟨[], by rwa [List.append_nil], by simp⟩
  | @skipped migration others checked later course check round ih =>
      obtain ⟨middle, toMiddle, fromMiddle⟩ := Recording.leads_append_iff.mp leads
      have known := (recorded_of_check check toMiddle h).1 rfl
      obtain ⟨added, holds, all⟩ := ih ended fromMiddle (toMiddle.holds_of_reads check.reads h)
      refine ⟨added, holds, List.forall_mem_cons.mpr ⟨?_, all⟩⟩
      rw [recorded_append, known, Bool.true_or]
  | @applied migration others checked attempted later course check attempt round ih =>
      obtain ⟨asked, toAsked, fromAsked⟩ := Recording.leads_append_iff.mp leads
      obtain ⟨middle, toMiddle, asked_leads⟩ := Recording.leads_append_iff.mp toAsked
      have unchanged := toMiddle.holds_of_reads check.reads h
      rcases holds_of_attempt (.inl rfl) attempt asked_leads unchanged with
        ⟨_, row, named, holds⟩ | ⟨⟨_, same⟩, _⟩
      · obtain ⟨added, holds, all⟩ := ih ended fromAsked holds
        rw [List.append_assoc] at holds all
        refine ⟨[row] ++ added, holds, List.forall_mem_cons.mpr ⟨?_, all⟩⟩
        exact recorded_iff.mpr ⟨row, by simp, named⟩
      · cases same
  | unchecked | failed => cases ended

/-- What is applied and what is skipped are parts of what is taken up, in order. -/
theorem Round.sublists (round : runner.Round migrations exchanged course) :
    course.applied.Sublist (migrations.map Migration.name) ∧
      course.skipped.Sublist (migrations.map Migration.name) := by
  induction round with
  | finished => exact ⟨.slnil, .slnil⟩
  | skipped _ _ ih => exact ⟨ih.1.cons _, ih.2.cons_cons _⟩
  | applied _ _ _ ih => exact ⟨ih.1.cons_cons _, ih.2.cons _⟩
  | unchecked | failed => exact ⟨List.nil_sublist _, List.nil_sublist _⟩

theorem merge_cons_of_before {first second : List MigrationName}
    (before : ∀ other ∈ first, name.text < other.text) :
    first.merge (name :: second) MigrationName.notAfter =
      name :: first.merge second MigrationName.notAfter := by
  cases first with
  | nil => simp
  | cons other first =>
      have less := before other List.mem_cons_self
      exact List.cons_merge_cons_neg _ _ _ (by simpa [MigrationName.notAfter] using less)

theorem cons_merge_of_before {first second : List MigrationName}
    (before : ∀ other ∈ second, name.text < other.text) :
    (name :: first).merge second MigrationName.notAfter =
      name :: first.merge second MigrationName.notAfter := by
  cases second with
  | nil => simp
  | cons other second =>
      have less := before other List.mem_cons_self
      exact List.cons_merge_cons_pos _ _ _ (by simpa [MigrationName.notAfter] using less.le)

/-- What a run that ends has applied and skipped, merged in order, are the names of all
migrations. -/
theorem Round.merge_eq (ended : course.stop = none)
    (ascending : migrations.Pairwise Migration.Before)
    (round : runner.Round migrations exchanged course) :
    course.applied.merge course.skipped MigrationName.notAfter =
      migrations.map Migration.name := by
  have later {migration : Migration} {others : List Migration} {part : List MigrationName}
      (ascending : (migration :: others).Pairwise Migration.Before)
      (within : part.Sublist (others.map Migration.name)) :
      ∀ other ∈ part, migration.name.text < other.text := by
    intro other member
    obtain ⟨next, taken, rfl⟩ := List.mem_map.mp (within.subset member)
    exact (List.pairwise_cons.mp ascending).1 next taken
  induction round with
  | finished => simp
  | skipped _ round ih =>
      rw [Course.skip, merge_cons_of_before (later ascending round.sublists.1),
        ih ended (List.pairwise_cons.mp ascending).2, List.map_cons]
  | applied _ _ round ih =>
      rw [Course.apply, cons_merge_of_before (later ascending round.sublists.2),
        ih ended (List.pairwise_cons.mp ascending).2, List.map_cons]
  | unchecked | failed => cases ended

/-- A run that succeeds reports all migrations, and has left a row for each. -/
theorem exists_recorded_of_result (known : runner.recognized = .ok (migrations, ignored))
    (states : RunStates) (h : db.Holds rows [] false)
    (succeeds : runner.resultOn refusals states db = .ok report) :
    report.applied.merge report.skipped MigrationName.notAfter = migrations.map Migration.name ∧
      report.ignored = ignored ∧
      ∃ added, (runner.afterRun refusals states db).Holds (rows ++ added) [] false ∧
        ∀ migration ∈ migrations, recorded (rows ++ added) migration.name = true := by
  obtain ⟨course, round, returned, leads⟩ := exists_round known refusals states db
  rw [returned] at succeeds
  obtain ⟨ended, rfl⟩ := result_eq_ok_iff.mp succeeds
  exact ⟨round.merge_eq ended (pairwise_before_of_recognized known), rfl,
    exists_recorded_of_round ended round leads h⟩

/-! ## A run over recorded migrations -/

/-- Without refusals a run over recorded migrations skips them all, and all its calls
only read. -/
theorem Round.eq_of_recorded (round : runner.Round migrations exchanged course)
    (leads : Leads Refusals.none before exchanged after) (h : before.Holds rows [] false)
    (all : ∀ migration ∈ migrations, recorded rows migration.name = true) :
    course = { skipped := migrations.map Migration.name } ∧
      ∀ exchange ∈ exchanged, exchange.call.Reads := by
  have promise := Refusals.none_neverMisses.missesOnlyUnrecorded
  induction round generalizing before with
  | finished => exact ⟨rfl, by simp⟩
  | skipped check _ ih =>
      obtain ⟨middle, toMiddle, fromMiddle⟩ := Recording.leads_append_iff.mp leads
      obtain ⟨rfl, reads⟩ := ih fromMiddle (toMiddle.holds_of_reads check.reads h)
        (List.forall_mem_cons.mp all).2
      exact ⟨rfl, List.forall_mem_append.mpr ⟨check.reads, reads⟩⟩
  | applied check _ _ _ =>
      rw [List.append_assoc] at leads
      obtain ⟨middle, toMiddle, _⟩ := Recording.leads_append_iff.mp leads
      have found := (recorded_of_check check toMiddle h).2 promise
      rw [(List.forall_mem_cons.mp all).1] at found
      cases found
  | failed check _ =>
      obtain ⟨middle, toMiddle, _⟩ := Recording.leads_append_iff.mp leads
      have found := (recorded_of_check check toMiddle h).2 promise
      rw [(List.forall_mem_cons.mp all).1] at found
      cases found
  | unchecked check => exact absurd (allAccepted_of_leads leads) check.not_allAccepted

/-- What a run over recorded migrations returns, says and leaves. -/
theorem resultOn_of_recorded (known : runner.recognized = .ok (migrations, ignored))
    (states : RunStates) (h : db.Holds rows [] false)
    (all : ∀ migration ∈ migrations, recorded rows migration.name = true) :
    runner.resultOn .none states db = .ok ⟨[], migrations.map Migration.name, ignored⟩ ∧
      (∀ exchange ∈ runner.saidOn .none states db, exchange.call.Reads) ∧
      (runner.afterRun .none states db).Holds rows [] false ∧
      runner.rememberedOn .none states db = states := by
  obtain ⟨course, round, remembered, returned, leads⟩ := exists_outcome known .none states db
  obtain ⟨rfl, reads⟩ := round.eq_of_recorded leads h all
  exact ⟨returned, reads, leads.holds_of_reads reads h, remembered⟩

/-- **A second run is a no-op.** Take a run on a database without an open transaction,
any calls of which may be refused. If it succeeds, a further run that is refused nothing,
whatever its runner remembers, succeeds too: it applies nothing, skips what the first run
has applied or skipped, in the order of the names, and ignores the same names. Its calls
only read, so the rows stay as they are, and the runner remembers what it did before. -/
theorem resultOn_afterRun (idle : db.inTransaction = false) (clean : db.uncommitted = [])
    (states : RunStates) (succeeds : runner.resultOn refusals states db = .ok report)
    (states' : RunStates) :
    runner.resultOn .none states' (runner.afterRun refusals states db) =
        .ok ⟨[], report.applied.merge report.skipped MigrationName.notAfter, report.ignored⟩ ∧
      (∀ exchange ∈ runner.saidOn .none states' (runner.afterRun refusals states db),
        exchange.call.Reads) ∧
      (runner.afterRun .none states' (runner.afterRun refusals states db)).Holds
        (runner.afterRun refusals states db).committed [] false ∧
      runner.rememberedOn .none states' (runner.afterRun refusals states db) = states' := by
  obtain ⟨migrations, ignored, known⟩ := exists_recognized_of_result succeeds
  obtain ⟨merged, others, added, holds, all⟩ :=
    exists_recorded_of_result known states ⟨rfl, clean, idle⟩ succeeds
  rw [merged, others, holds.committed_eq]
  exact resultOn_of_recorded known states' holds all

/-- A second run of the runner with two scripts and a note, by a new runner. -/
theorem resultOn_mixed_again :
    mixed.resultOn .none [] startedDatabase = .ok ⟨[laterName], [scriptName], [noteName]⟩ ∧
      mixed.resultOn .none [] (mixed.afterRun .none [] startedDatabase) =
        .ok ⟨[], [scriptName, laterName], [noteName]⟩ := by
  have merged : [laterName].merge [scriptName] MigrationName.notAfter =
      [scriptName, laterName] := by
    rw [merge_cons_of_before (by decide +kernel), List.merge_right]
  refine ⟨resultOn_mixed, ?_⟩
  obtain ⟨again, _⟩ := resultOn_afterRun (by decide) (by decide) [] resultOn_mixed []
  rw [again, merged]

end Runner

end MigrationLedger
