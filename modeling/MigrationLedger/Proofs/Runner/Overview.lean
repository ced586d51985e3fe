/-
# What a status shows at rest

A status puts three things together: the migrations of the source, the rows of the
tracking table, and what the runner remembers of its own attempts. A row outweighs what is
remembered, and the last row that bears a name outweighs the ones before. Without a row
only a failure is remembered openly: what the runner applied itself counts as pending again
once its row is gone.

The rows may be anything. A row that is too short, or bears a name that is not asked for, is
passed over, so it neither stops the status nor changes what is shown of other names.
-/

import MigrationLedger.Proofs.Runner.UnderWay

namespace MigrationLedger

namespace Runner

variable {runner : Runner} {states : RunStates} {name : MigrationName} {row : List String}
  {rows : List (List String)} {migrations : List Migration} {ignored : List MigrationName}
  {tried : List Tried} {result : Except Failure (List MigrationStatus)}

/-! ## Rows that bear a name -/

/-- The row has three columns at least, and the name in the second one. -/
def bears (name : MigrationName) (row : List String) : Bool :=
  decide (3 ≤ row.length) && row[1]? == some name.text

/-- The last row that bears a name. -/
def lastRow? (rows : List (List String)) (name : MigrationName) : Option (List String) :=
  (rows.filter (bears name)).getLast?

/-- A row holds a record with a name exactly when it bears the name. Other names need not
even be names that a migration can have. -/
theorem any_recordOfRow? (row : List String) (name : MigrationName) :
    (Tracker.recordOfRow? row).any (fun record => record.name == name) = bears name row := by
  match row with
  | [] | [_] | [_, _] => rfl
  | id :: text :: appliedAt :: more =>
      have wide : 3 ≤ (id :: text :: appliedAt :: more).length := by simp
      rw [Tracker.recordOfRow?, bears, decide_eq_true wide, Bool.true_and]
      cases parsed : MigrationName.parse text with
      | ok found =>
          rw [Bool.eq_iff_iff]
          simp [← MigrationName.text_of_parse parsed, MigrationName.text_injective.eq_iff]
      | error error =>
          have other : text ≠ name.text := by
            rintro rfl
            rw [MigrationName.parse_text] at parsed
            cases parsed
          simp [other]

/-- The time in a row that bears a name stands in its third column. -/
theorem appliedAt_recordOfRow? (held : bears name row = true) :
    (Tracker.recordOfRow? row).map MigrationRecord.appliedAt = row[2]? := by
  match row with
  | [] | [_] | [_, _] => cases held
  | id :: text :: appliedAt :: more =>
      rw [← any_recordOfRow?, Tracker.recordOfRow?] at held
      rw [Tracker.recordOfRow?]
      cases parsed : MigrationName.parse text with
      | ok found => rfl
      | error error =>
          rw [parsed] at held
          cases held

/-- The record that decides about a name is held by the last row that bears it. -/
theorem appliedAt?_filterMap_recordOfRow? (rows : List (List String)) (name : MigrationName) :
    appliedAt? (rows.filterMap Tracker.recordOfRow?) name =
      (lastRow? rows name).bind fun row => row[2]? := by
  rw [appliedAt?, ← List.filterMap_reverse, List.find?_filterMap, lastRow?, List.getLast?_filter]
  simp only [any_recordOfRow?]
  cases found : rows.reverse.find? (bears name) with
  | none => rfl
  | some row => exact appliedAt_recordOfRow? (List.find?_some found)

/-! ## What is shown -/

/-- What is to be shown of a name: that it is applied when a row bears it, that it has
failed when its last attempt has, and otherwise that it is pending. -/
def shown (name : MigrationName) :
    Option (List String) → Option (Except Failure Unit) → MigrationStatus
  | some row, _ => ⟨name, .applied, row[2]?⟩
  | none, some (.error _) => ⟨name, .failed, none⟩
  | none, some (.ok _) | none, none => ⟨name, .pending, none⟩

/-- At rest a status shows this. -/
theorem statusOf_eq_shown {last : Option (Except Failure Unit)}
    (remembered : states.state? name = last.map stateAfter) (rows : List (List String)) :
    statusOf (rows.filterMap Tracker.recordOfRow?) states name =
      shown name (lastRow? rows name) last := by
  rw [statusOf, appliedAt?_filterMap_recordOfRow?]
  cases found : lastRow? rows name with
  | some row =>
      have held : bears name row = true :=
        (List.mem_filter.mp (List.mem_of_getLast? found)).2
      have wide : 2 < row.length := of_decide_eq_true (Bool.and_eq_true_iff.mp held).1
      simp [shown, List.getElem?_eq_getElem wide]
  | none =>
      rw [remembered]
      rcases last with _ | failure | _ <;> rfl

/-- With some database that lists these rows a status returns this. -/
def Reports (runner : Runner) (states : RunStates) (rows : List (List String))
    (result : Except Failure (List MigrationStatus)) : Prop :=
  ∃ (σ : Type) (answering : Answering σ) (database : σ),
    (runner.status states).exchanges answering states database =
        [⟨.connect, .ok ()⟩, ⟨Tracker.listCall runner.trackingTable, .ok rows⟩] ∧
      ((runner.status states).hold answering states database).1 = result

theorem reports_iff (known : runner.recognized = .ok (migrations, ignored)) :
    runner.Reports states rows result ↔
      result = .ok (migrations.map fun migration =>
        statusOf (rows.filterMap Tracker.recordOfRow?) states migration.name) := by
  rw [Reports, ← Session.dialogue_iff_exists_database, dialogue_status_iff known, ← tracking_eq]
  constructor
  · rintro ⟨listed, listing, rfl⟩
    cases listing
    rfl
  · rintro rfl
    exact ⟨_, .listed rows, rfl⟩

end Runner

namespace History

open Runner (bears lastRow? shown stateAfter mixed mixedEntries startedDatabase scriptName
  laterName)

/-- **A status over any history.** Take any events of a runner that remembers nothing at
first, with a database that answers calls in any way. What it remembers afterwards is how
its last attempts have ended. Take then a source that can be read and has no two scripts of
the same name. A status that gets any rows for its listing succeeds. It shows the names of
the scripts in ascending order, each by itself: as applied with the time in the last row that
bears the name, if there is such a row; otherwise as failed when the last attempt at it has
failed, and as pending when that has succeeded or there was none. Rows that bear none of the
names make no difference. -/
theorem statuses_at_rest {σ : Type} (database : σ) (events : List (Event σ)) :
    let states := (after ⟨[], database⟩ events).states
    ∃ tried, Tries ⟨[], database⟩ events tried ∧
      (∀ name, states.state? name = (tried.reverse.lookup name).map stateAfter) ∧
      ∀ (runner : Runner) (entries : List Migration), runner.offer = .ok entries →
        ((runner.scripts entries).map Migration.name).Nodup →
        ∃ names : List MigrationName,
          names.Perm ((runner.scripts entries).map Migration.name) ∧
          (names.Pairwise fun a b => Text.bytes a.text < Text.bytes b.text) ∧
          (∀ rows result, runner.Reports states rows result ↔
            result = .ok (names.map fun name =>
              shown name (lastRow? rows name) (tried.reverse.lookup name))) ∧
          ∀ rows others, (∀ name ∈ names, rows.filter (bears name) = others.filter (bears name)) →
            ∀ result, runner.Reports states rows result ↔ runner.Reports states others result := by
  intro states
  obtain ⟨tried, tries, remembered⟩ := exists_tries ⟨[], database⟩ events
  have last (name : MigrationName) :
      states.state? name = (tried.reverse.lookup name).map stateAfter := by
    change (after ⟨[], database⟩ events).states.state? name = _
    rw [remembered, Runner.state?_remember]
    exact Option.or_none
  refine ⟨tried, tries, last, fun runner entries offered distinct => ?_⟩
  have known := Runner.recognized_eq_ok_iff.mpr ⟨entries, offered, distinct, rfl, rfl⟩
  let migrations := Migration.sort (runner.scripts entries)
  have reported (rows : List (List String)) (result : Except Failure (List MigrationStatus)) :
      runner.Reports states rows result ↔
        result = .ok ((migrations.map Migration.name).map fun name =>
          shown name (lastRow? rows name) (tried.reverse.lookup name)) := by
    rw [Runner.reports_iff known, List.map_map]
    simp only [Runner.statusOf_eq_shown (last _)]
    rfl
  refine ⟨migrations.map Migration.name, (Migration.perm_sort _).map _, ?_, reported, ?_⟩
  · exact Runner.pairwise_names_of_sublist (Runner.pairwise_before_of_recognized known)
      (List.Sublist.refl _)
  · intro rows others alike result
    have same : ∀ name ∈ migrations.map Migration.name, lastRow? rows name = lastRow? others name :=
      fun name member => congrArg List.getLast? (alike name member)
    rw [reported, reported, List.map_congr_left fun name member => by rw [same name member]]

/-- Rows that are too short, bear names that are not asked for, or repeat a name. -/
def oddRows : List (List String) :=
  [["id-1"], ["id-2", "001.sql", "then"], ["id-3", "../002.sql", "never"],
    ["id-4", "001.sql", "now", "more"], ["id-5", "003.sql", "now"], ["id-6", "002.sql"]]

/-- A run could not record the second script. The rows know the first one, twice. -/
theorem statuses_at_rest_mixed :
    let states := (after ⟨[], startedDatabase⟩
      [.use mixed .run (Recording.answering .insertions)]).states
    mixed.offer = .ok mixedEntries ∧ ((mixed.scripts mixedEntries).map Migration.name).Nodup ∧
      mixed.Reports states oddRows
        (.ok [⟨scriptName, .applied, some "now"⟩, ⟨laterName, .failed, none⟩]) := by
  intro states
  have offered : mixed.offer = .ok mixedEntries := rfl
  have distinct : ((mixed.scripts mixedEntries).map Migration.name).Nodup := by decide +kernel
  have failed : states.state? laterName = some .failed := by
    simp only [states, after, List.foldl, Event.after, Runner.perform, Runner.run,
      Runner.recognized_mixed]
    decide +kernel
  obtain ⟨tried, -, remembered, status⟩ := statuses_at_rest startedDatabase
    [.use mixed .run (Recording.answering .insertions)]
  obtain ⟨names, listed, ascending, reported, -⟩ := status mixed mixedEntries offered distinct
  have both : names = [scriptName, laterName] := by
    have scripts : (mixed.scripts mixedEntries).map Migration.name = [laterName, scriptName] := by
      decide +kernel
    have perm : names.Perm [scriptName, laterName] := by
      rw [scripts] at listed
      exact listed.trans (.swap _ _ _)
    refine perm.eq_of_pairwise (fun a b _ _ before after => ?_) ascending (by decide +kernel)
    exact absurd after (List.lt_asymm before)
  have later : ∃ failure, tried.reverse.lookup laterName = some (.error failure) := by
    have last := (remembered laterName).symm.trans failed
    rcases found : tried.reverse.lookup laterName with _ | failure | _
    · simp [found] at last
    · exact ⟨failure, rfl⟩
    · simp [found, stateAfter] at last
  obtain ⟨failure, later⟩ := later
  have first : lastRow? oddRows scriptName = some ["id-4", "001.sql", "now", "more"] := by
    decide +kernel
  have second : lastRow? oddRows laterName = none := by decide +kernel
  refine ⟨offered, distinct, (reported _ _).mpr ?_⟩
  rw [both, List.map_cons, List.map_singleton, first, second, later]
  rfl

end History

end MigrationLedger
