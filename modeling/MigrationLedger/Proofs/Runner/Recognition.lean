/-
# Which migrations are run, and in which order

A runner takes from its source the entries whose names have its extension and
sorts them. The module says exactly when that succeeds: the source can be read and
no two of those entries have the same name. What comes out is then the same
entries in strictly ascending order of their names, so a name stands for one
migration.
-/

import Mathlib.Data.List.Nodup
import Mathlib.Data.String.Basic
import MigrationLedger.Runner
import MigrationLedger.Sql.DuckDb

namespace MigrationLedger

/-- Strictly before in the order of application. -/
def Migration.Before (a b : Migration) : Prop := a.name.text < b.name.text

/-- Sorting by a text puts the texts in order. -/
theorem pairwise_mergeSort_text {α : Type} (text : α → String) (values : List α) :
    (values.mergeSort fun a b => decide (text a ≤ text b)).Pairwise fun a b => text a ≤ text b := by
  have sorted : (values.mergeSort fun a b => decide (text a ≤ text b)).Pairwise fun a b =>
      decide (text a ≤ text b) = true :=
    List.pairwise_mergeSort
      (fun a b c => by
        simp only [decide_eq_true_iff]
        exact le_trans)
      (fun a b => by
        simp only [Bool.or_eq_true, decide_eq_true_iff]
        exact le_total _ _)
      values
  exact sorted.imp fun ordered => decide_eq_true_iff.mp ordered

namespace MigrationName

theorem text_injective : Function.Injective text := by
  rintro ⟨first, _⟩ ⟨second, _⟩ same
  cases same
  rfl

theorem pairwise_sort (names : List MigrationName) :
    (sort names).Pairwise fun a b => a.text ≤ b.text :=
  pairwise_mergeSort_text text names

theorem perm_sort (names : List MigrationName) : (sort names).Perm names :=
  List.mergeSort_perm _ _

end MigrationName

namespace Migration

theorem pairwise_sort (migrations : List Migration) :
    (sort migrations).Pairwise fun a b => a.name.text ≤ b.name.text :=
  pairwise_mergeSort_text (fun migration => migration.name.text) migrations

theorem perm_sort (migrations : List Migration) : (sort migrations).Perm migrations :=
  List.mergeSort_perm _ _

/-- Migrations with distinct names are sorted strictly. -/
theorem pairwise_before_sort {migrations : List Migration}
    (distinct : (migrations.map Migration.name).Nodup) :
    (sort migrations).Pairwise Before := by
  have names : ((sort migrations).map Migration.name).Nodup :=
    ((perm_sort migrations).map _).nodup_iff.mpr distinct
  have apart := List.pairwise_map.mp (List.nodup_iff_pairwise_ne.mp names)
  refine ((pairwise_sort migrations).and apart).imp ?_
  rintro a b ⟨ordered, different⟩
  exact lt_of_le_of_ne ordered fun same => different (MigrationName.text_injective same)

/-- Strictly ascending migrations have distinct names. -/
theorem nodup_names_of_pairwise_before {migrations : List Migration}
    (ascending : migrations.Pairwise Before) :
    (migrations.map fun migration => migration.name.text).Nodup := by
  refine List.nodup_iff_pairwise_ne.mpr (List.pairwise_map.mpr (ascending.imp ?_))
  exact fun before => ne_of_lt before

/-- Strictly ascending lists are equal when they have the same migrations. -/
theorem eq_of_pairwise_before {first second : List Migration}
    (ascending : first.Pairwise Before) (again : second.Pairwise Before)
    (same : ∀ migration, migration ∈ first ↔ migration ∈ second) : first = second := by
  have distinct {migrations : List Migration} (ascending : migrations.Pairwise Before) :
      migrations.Nodup :=
    List.Nodup.of_map _ (nodup_names_of_pairwise_before ascending)
  refine List.Perm.eq_of_pairwise (fun a b _ _ before after => (lt_asymm before after).elim)
    ascending again ?_
  exact (List.perm_ext_iff_of_nodup (distinct ascending) (distinct again)).mpr same

/-- Among strictly ascending migrations a name stands for one of them. -/
theorem eq_of_name_eq {migrations : List Migration} (ascending : migrations.Pairwise Before)
    {a b : Migration} (ha : a ∈ migrations) (hb : b ∈ migrations) (same : a.name = b.name) :
    a = b :=
  List.inj_on_of_nodup_map (nodup_names_of_pairwise_before ascending) ha hb
    (congrArg MigrationName.text same)

end Migration

namespace Runner

variable {runner : Runner}

/-- The entry is run. -/
def isScript (runner : Runner) (migration : Migration) : Bool :=
  migration.name.hasExtension runner.settings.extension

/-- The entries that are run, in the order of the source. -/
def scripts (runner : Runner) (entries : List Migration) : List Migration :=
  entries.filter runner.isScript

/-- The names of the entries that are not run, in ascending order. -/
def ignoredNames (runner : Runner) (entries : List Migration) : List MigrationName :=
  MigrationName.sort ((entries.filter fun entry => !runner.isScript entry).map Migration.name)

/-- No name is repeated exactly when the names are distinct, among themselves and
from those seen before. -/
theorem firstRepeat?_eq_none_iff (names seen : List MigrationName) :
    firstRepeat? seen names = none ↔ names.Nodup ∧ ∀ name ∈ names, name ∉ seen := by
  induction names generalizing seen with
  | nil => simp [firstRepeat?]
  | cons name rest ih =>
      have seen_iff : seen.reverse.idxOf? name = none ↔ name ∉ seen := by
        rw [List.idxOf?_eq_none_iff, List.mem_reverse]
      rw [firstRepeat?]
      cases earlier : seen.reverse.idxOf? name with
      | some position =>
          have known : name ∈ seen := by
            by_contra unknown
            rw [seen_iff.mpr unknown] at earlier
            cases earlier
          simp only [reduceCtorEq, false_iff]
          rintro ⟨_, apart⟩
          exact apart name List.mem_cons_self known
      | none =>
          have unknown : name ∉ seen := seen_iff.mp earlier
          simp only [ih, List.nodup_cons, List.mem_cons]
          constructor
          · rintro ⟨distinct, apart⟩
            refine ⟨⟨fun again => apart name again (.inl rfl), distinct⟩, ?_⟩
            rintro other (rfl | later)
            · exact unknown
            · exact fun known => apart other later (.inr known)
          · rintro ⟨⟨once, distinct⟩, apart⟩
            refine ⟨distinct, fun other later => ?_⟩
            rintro (rfl | known)
            · exact once later
            · exact apart other (.inr later) known

theorem recognized_of_offer {entries : List Migration} (offered : runner.offer = .ok entries) :
    runner.recognized =
      match firstRepeat? [] ((runner.scripts entries).map Migration.name) with
      | some (name, first, second) => .error (Failure.duplicate name
          ("entry " ++ toString (first + 1)) ("entry " ++ toString (second + 1)))
      | none => .ok (Migration.sort (runner.scripts entries), runner.ignoredNames entries) := by
  rw [recognized, offered]
  rfl

theorem recognized_of_unreadable {failure : Failure} (unreadable : runner.offer = .error failure) :
    runner.recognized = .error failure := by
  rw [recognized, unreadable]
  rfl

/-- What is run is known exactly when the source can be read and holds no two
scripts of the same name; it is then the scripts of the source in order. -/
theorem recognized_eq_ok_iff {migrations : List Migration} {ignored : List MigrationName} :
    runner.recognized = .ok (migrations, ignored) ↔
      ∃ entries, runner.offer = .ok entries ∧
        ((runner.scripts entries).map Migration.name).Nodup ∧
        migrations = Migration.sort (runner.scripts entries) ∧
        ignored = runner.ignoredNames entries := by
  cases offered : runner.offer with
  | error failure => simp [recognized_of_unreadable offered]
  | ok entries =>
      have distinct_iff := firstRepeat?_eq_none_iff ((runner.scripts entries).map Migration.name) []
      simp only [List.not_mem_nil, not_false_eq_true, implies_true, and_true] at distinct_iff
      rw [recognized_of_offer offered]
      cases found : firstRepeat? [] ((runner.scripts entries).map Migration.name) with
      | some repeated => simp [← distinct_iff, found]
      | none => simp [← distinct_iff, found, eq_comm]

/-- Without a source that can be read and distinct names, nothing is known. -/
theorem exists_recognized_eq_error
    (unfit : ∀ entries, runner.offer = .ok entries →
      ¬ ((runner.scripts entries).map Migration.name).Nodup) :
    ∃ failure, runner.recognized = .error failure := by
  cases known : runner.recognized with
  | error failure => exact ⟨failure, rfl⟩
  | ok found =>
      obtain ⟨entries, offered, distinct, _⟩ := recognized_eq_ok_iff.mp known
      exact absurd distinct (unfit entries offered)

/-- What is run stands in strictly ascending order. -/
theorem pairwise_before_of_recognized {migrations : List Migration}
    {ignored : List MigrationName} (known : runner.recognized = .ok (migrations, ignored)) :
    migrations.Pairwise Migration.Before := by
  obtain ⟨entries, _, distinct, rfl, _⟩ := recognized_eq_ok_iff.mp known
  exact Migration.pairwise_before_sort distinct

/-- The only migration of a source is what is run. -/
theorem recognized_of_alone {migration : Migration} (alone : runner.offer = .ok [migration])
    (kept : runner.isScript migration = true) :
    runner.recognized = .ok ([migration], []) :=
  recognized_eq_ok_iff.mpr
    ⟨[migration], alone, by simp [scripts, kept], by simp [scripts, kept, Migration.sort],
      by simp [ignoredNames, kept, MigrationName.sort]⟩

/-- A name that the default configuration takes for that of a script. -/
def scriptName : MigrationName := ⟨"001.sql", by decide⟩

/-- A second name that the default configuration takes for that of a script. -/
def laterName : MigrationName := ⟨"002.sql", by decide⟩

/-- The runner with the settings of the default configuration over one script. -/
def single (migration : Migration) : Runner where
  dialect := .duckDb
  settings := Settings.default
  usable := by decide
  offer := .ok [migration]

theorem recognized_single (script : String) :
    (single ⟨scriptName, script⟩).recognized = .ok ([⟨scriptName, script⟩], []) := by
  refine recognized_of_alone rfl ?_
  change scriptName.hasExtension ".sql" = true
  decide

end Runner

end MigrationLedger
