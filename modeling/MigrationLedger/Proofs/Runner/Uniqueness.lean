/-
# One row for each name

Every operation of a runner leaves the committed rows as they are, or adds rows with
names that no committed row bears yet. A run adds a row only after a count has found
none, and no other operation adds any. The rows of a failed attempt are not left to a
later commit either, because every operation ends with nothing uncommitted.

The statement is about uses of any number of runners, one after another.
-/

import MigrationLedger.Proofs.Runner.Uses

namespace MigrationLedger

namespace Runner

open Recording (Leads Holds)

variable {runner : Runner} {refusals : Refusals} {db : Recording}
  {course : Course} {settled rest : List Migration}
  {rows added leaked : List RecordedRow} {honest : Prop}

/-- The rows that a run adds are rows of different unrecorded migrations. -/
theorem Progress.exists_taken (promise : honest)
    (progress : Progress runner honest rows course settled rest added leaked) :
    ∃ taken : List Migration, taken.Sublist (settled ++ rest) ∧
      (∀ migration ∈ taken, recorded rows migration.name = false) ∧
      (added ++ leaked).map RecordedRow.name =
        taken.map fun migration => migration.name.text := by
  have names := progress.names_eq promise
  have front : (unrecorded rows settled).Sublist settled := List.filter_sublist
  rcases progress.leaked_cases with rfl | ⟨failing, later, _, rfl, _, left, fresh⟩
  · refine ⟨unrecorded rows settled, front.trans (List.sublist_append_left _ _),
      fun migration member => (mem_unrecorded_iff.mp member).2, ?_⟩
    rw [List.append_nil, names]
  · refine ⟨unrecorded rows settled ++ [failing], ?_, ?_, ?_⟩
    · exact front.append (List.singleton_sublist.mpr List.mem_cons_self)
    · intro migration member
      rcases List.mem_append.mp member with member | member
      · exact (mem_unrecorded_iff.mp member).2
      · obtain rfl := List.mem_singleton.mp member
        exact fresh promise
    · rw [List.map_append, List.map_append, names, left]
      rfl

/-- A run keeps the names of the rows distinct. -/
theorem Progress.nodup_names (promise : honest)
    (progress : Progress runner honest rows course settled rest added leaked)
    (ascending : (settled ++ rest).Pairwise Migration.Before)
    (unique : (rows.map RecordedRow.name).Nodup) :
    ((rows ++ (added ++ leaked)).map RecordedRow.name).Nodup := by
  obtain ⟨taken, part, fresh, names⟩ := progress.exists_taken promise
  rw [List.map_append, names, List.nodup_append]
  refine ⟨unique, Migration.nodup_names_of_pairwise_before (ascending.sublist part), ?_⟩
  intro text known other pending same
  obtain ⟨row, present, rfl⟩ := List.mem_map.mp known
  obtain ⟨migration, member, rfl⟩ := List.mem_map.mp pending
  have found := recorded_iff.mpr ⟨row, present, same⟩
  rw [fresh migration member] at found
  cases found

/-- A run adds rows and keeps their names distinct. -/
theorem holds_of_run {states : RunStates} (spares : refusals.SparesRollback)
    (promise : refusals.MissesOnlyUnrecorded) (unique : (rows.map RecordedRow.name).Nodup)
    (h : db.Holds rows [] false) :
    ∃ added, (runner.afterRun refusals states db).Holds (rows ++ added) [] false ∧
      ((rows ++ added).map RecordedRow.name).Nodup := by
  cases recognized : runner.recognized with
  | error failure =>
      exact ⟨[], by simpa using holds_of_unrecognized recognized h, by rwa [List.append_nil]⟩
  | ok found =>
      obtain ⟨migrations, ignored⟩ := found
      obtain ⟨_, _, _, added, leaked, _, _, _, rfl, holds, progress⟩ :=
        exists_course recognized spares states h
      exact ⟨added ++ leaked, holds,
        progress.nodup_names promise (pairwise_before_of_recognized recognized) unique⟩

/-- **One use.** Rows are only added, and their names stay distinct. -/
theorem Use.holds_after (use : Use) (spares : use.refusals.SparesRollback)
    (promise : use.refusals.MissesOnlyUnrecorded) (unique : (rows.map RecordedRow.name).Nodup)
    (h : db.Holds rows [] false) :
    ∃ added, (use.after db).Holds (rows ++ added) [] false ∧
      ((rows ++ added).map RecordedRow.name).Nodup := by
  rcases use.after_cases spares h with runs | unchanged
  · rw [runs]
    exact holds_of_run spares promise unique h
  · exact ⟨[], by rwa [List.append_nil], by rwa [List.append_nil]⟩

/-- Any number of uses: rows are only added, and their names stay distinct. -/
theorem holds_afterUses {uses : List Use} (spares : ∀ use ∈ uses, use.refusals.SparesRollback)
    (promises : ∀ use ∈ uses, use.refusals.MissesOnlyUnrecorded)
    (unique : (rows.map RecordedRow.name).Nodup) (h : db.Holds rows [] false) :
    ∃ added, (afterUses uses db).Holds (rows ++ added) [] false ∧
      ((rows ++ added).map RecordedRow.name).Nodup := by
  induction uses generalizing db rows with
  | nil => exact ⟨[], by rwa [List.append_nil], by rwa [List.append_nil]⟩
  | cons use later ih =>
      rw [List.forall_mem_cons] at spares promises
      obtain ⟨first, holds, distinct⟩ := use.holds_after spares.1 promises.1 unique h
      obtain ⟨second, holds, distinct⟩ := ih spares.2 promises.2 distinct holds
      rw [List.append_assoc] at holds distinct
      exact ⟨first ++ second, holds, distinct⟩

/-- **At most one row for each name.** Runners are used one after another, for any
operations, with any sources and scripts. Any calls may be refused, except that a
rollback never is, and a count for want of a table only when no committed row bears
the name. A database without an open transaction whose rows have distinct names then
has rows with distinct names after every use, and whatever is committed at some time
stays committed, unchanged and in its place. -/
theorem rows_unique_afterUses (uses : List Use) (idle : db.inTransaction = false)
    (clean : db.uncommitted = []) (unique : (db.committed.map RecordedRow.name).Nodup)
    (spares : ∀ use ∈ uses, use.refusals.SparesRollback)
    (promises : ∀ use ∈ uses, use.refusals.MissesOnlyUnrecorded) :
    ∀ earlier later, uses = earlier ++ later →
      ((afterUses earlier db).committed.map RecordedRow.name).Nodup ∧
        (afterUses earlier db).committed <+: (afterUses uses db).committed := by
  rintro earlier later rfl
  rw [List.forall_mem_append] at spares promises
  have start : db.Holds db.committed [] false := ⟨rfl, clean, idle⟩
  obtain ⟨added, holds, distinct⟩ := holds_afterUses spares.1 promises.1 unique start
  obtain ⟨more, now, _⟩ := holds_afterUses spares.2 promises.2 distinct holds
  have together : afterUses (earlier ++ later) db = afterUses later (afterUses earlier db) :=
    List.foldl_append
  rw [together, holds.committed_eq, now.committed_eq]
  exact ⟨distinct, List.prefix_append _ _⟩

/-- A run whose commit is refused, a run, and a preparation. -/
theorem rows_unique_asking :
    let uses : List Use :=
      [⟨single asking, .run, [], .commits⟩, ⟨single asking, .run, [], .none⟩,
        ⟨single asking, .prepare .create, [], .none⟩]
    ((afterUses uses {}).committed.map RecordedRow.name).Nodup := by
  intro uses
  have spares : ∀ use ∈ uses, use.refusals.SparesRollback := by
    simp [uses, Refusals.commits_sparesRollback, Refusals.none_sparesRollback]
  have promises : ∀ use ∈ uses, use.refusals.MissesOnlyUnrecorded := by
    simp [uses, Refusals.commits_neverMisses.missesOnlyUnrecorded,
      Refusals.none_neverMisses.missesOnlyUnrecorded]
  exact (@rows_unique_afterUses {} uses rfl rfl .nil spares promises uses [] (by simp)).1

end Runner

end MigrationLedger
