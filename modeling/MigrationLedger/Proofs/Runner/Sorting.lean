/-
# What a runner takes from its source

A runner looks at its source once, when it sorts out what is run and what is ignored.
From then on only its dialect and its settings matter. So two runners that share these and
sort out the same do the same, as sessions: they make the same calls, announce the same
states and return the same, whatever the calls are answered with.

Sorting forgets the order in which a source lists its entries, as long as the scripts
among them have distinct names. The other entries may repeat.
-/

import Mathlib.Data.List.Perm.Basic
import MigrationLedger.Proofs.Runner.Success
import MigrationLedger.Proofs.Session.Dialogue
import MigrationLedger.Proofs.Source.Offers

namespace MigrationLedger

namespace Runner

variable {runner other : Runner} {first second : List Migration}

/-! ## The source does not matter once it has been read -/

/-- Two runners that differ in nothing but their sources. -/
structure SameButSource (runner other : Runner) : Prop where
  dialect : runner.dialect = other.dialect
  settings : runner.settings = other.settings

theorem SameButSource.symm (same : SameButSource runner other) : SameButSource other runner :=
  ⟨same.dialect.symm, same.settings.symm⟩

theorem qualify_congr (same : SameButSource runner other) : runner.qualify = other.qualify := by
  funext statement
  rw [qualify, qualify, same.dialect, same.settings]

theorem executeStatements_congr (same : SameButSource runner other) (name : MigrationName)
    (number : Nat) (statements : List String) :
    runner.executeStatements name number statements =
      other.executeStatements name number statements := by
  induction statements generalizing number with
  | nil => rfl
  | cons statement rest ih =>
      rw [executeStatements, executeStatements, qualify_congr same]
      simp only [ih]

theorem apply_congr (same : SameButSource runner other) (migration : Migration) :
    runner.apply migration = other.apply migration := by
  have statements : runner.statementsOf migration = other.statementsOf migration := by
    rw [statementsOf, statementsOf, same.settings]
  simp only [apply, same.settings, statements, executeStatements_congr same]

theorem takeUp_congr (same : SameButSource runner other) (states : RunStates)
    (applied skipped : List MigrationName) (migrations : List Migration) :
    runner.takeUp states applied skipped migrations =
      other.takeUp states applied skipped migrations := by
  induction migrations generalizing states applied skipped with
  | nil => rfl
  | cons migration rest ih =>
      rw [takeUp, takeUp, same.settings]
      simp only [apply_congr same, ih]

theorem run_congr (same : SameButSource runner other)
    (sorted : runner.recognized = other.recognized) (states : RunStates) :
    runner.run states = other.run states := by
  simp only [run, sorted, takeUp_congr same]

theorem status_congr (same : SameButSource runner other)
    (sorted : runner.recognized = other.recognized) (states : RunStates) :
    runner.status states = other.status states := by
  simp only [status, sorted, same.settings]

theorem isScript_congr (same : runner.settings = other.settings) :
    runner.isScript = other.isScript := by
  funext migration
  rw [isScript, isScript, same]

/-! ## The order of a source -/

/-- Migrations with distinct names are sorted in one way only. -/
theorem sort_eq_of_perm (perm : first.Perm second) (distinct : (first.map Migration.name).Nodup) :
    Migration.sort first = Migration.sort second := by
  have again : (second.map Migration.name).Nodup := (perm.map _).nodup_iff.mp distinct
  have sorted : (Migration.sort first).Perm (Migration.sort second) :=
    (Migration.perm_sort first).trans (perm.trans (Migration.perm_sort second).symm)
  exact Migration.eq_of_pairwise_before (Migration.pairwise_before_sort distinct)
    (Migration.pairwise_before_sort again) fun _ => sorted.mem_iff

/-- Names are sorted in one way only, even if they repeat. -/
theorem sort_names_eq_of_perm {names others : List MigrationName} (perm : names.Perm others) :
    MigrationName.sort names = MigrationName.sort others := by
  have sorted : (MigrationName.sort names).Perm (MigrationName.sort others) :=
    (MigrationName.perm_sort names).trans (perm.trans (MigrationName.perm_sort others).symm)
  refine sorted.eq_of_pairwise ?_ (MigrationName.pairwise_sort names)
    (MigrationName.pairwise_sort others)
  intro a b _ _ before after
  exact MigrationName.text_injective (le_antisymm before after)

/-- Sources that list the same entries, with distinct names of scripts, are sorted out
alike. -/
theorem recognized_eq_of_perm (same : runner.settings = other.settings)
    (offered : runner.offer = .ok first) (offered' : other.offer = .ok second)
    (perm : first.Perm second) (distinct : ((runner.scripts first).map Migration.name).Nodup) :
    runner.recognized = other.recognized := by
  have alike := isScript_congr same
  have scripts : (runner.scripts first).Perm (other.scripts second) := by
    rw [Runner.scripts, Runner.scripts, alike]
    exact perm.filter _
  have ignored : runner.ignoredNames first = other.ignoredNames second := by
    rw [ignoredNames, ignoredNames, alike]
    exact sort_names_eq_of_perm ((perm.filter _).map _)
  have distinct' : ((other.scripts second).map Migration.name).Nodup :=
    (scripts.map _).nodup_iff.mp distinct
  rw [recognized_eq_ok_iff.mpr ⟨first, offered, distinct, rfl, rfl⟩,
    recognized_eq_ok_iff.mpr ⟨second, offered', distinct', rfl, rfl⟩,
    sort_eq_of_perm scripts distinct, ignored]

variable {dialect : Sql.Dialect}

theorem forDialect_eq_ok_iff {settings : Settings} {offer : Offer} :
    forDialect dialect settings offer = .ok runner ↔
      runner.dialect = dialect ∧ runner.settings = settings ∧ runner.offer = offer := by
  unfold forDialect
  split
  · rename_i usable
    constructor
    · rintro ⟨⟩
      exact ⟨rfl, rfl, rfl⟩
    · rintro ⟨rfl, rfl, rfl⟩
      rfl
  · rename_i problem found
    constructor
    · rintro ⟨⟩
    · rintro ⟨rfl, rfl, rfl⟩
      rw [runner.usable] at found
      cases found

/-- Runners that are made for one dialect with the same settings. -/
theorem sameButSource_of_forDialect {settings : Settings} {offer offer' : Offer}
    (made : forDialect dialect settings offer = .ok runner)
    (made' : forDialect dialect settings offer' = .ok other) : SameButSource runner other := by
  obtain ⟨rfl, rfl, -⟩ := forDialect_eq_ok_iff.mp made
  obtain ⟨reading, same, -⟩ := forDialect_eq_ok_iff.mp made'
  exact ⟨reading.symm, same.symm⟩

theorem forDialect_eq_error_iff {settings : Settings} {offer : Offer} {failure : Failure} :
    forDialect dialect settings offer = .error failure ↔
      ∃ problem, settings.problem? = some problem ∧ failure = .invalidSettings problem := by
  unfold forDialect
  split
  · rename_i usable
    simp [usable]
  · rename_i problem found
    simp [found, eq_comm]

/-- The names of the scripts among entries, as texts. -/
theorem map_text_scripts (entries : List Migration) :
    ((runner.scripts entries).map Migration.name).map MigrationName.text =
      ((entries.map Source.entryOf).map Prod.fst).filter fun name =>
        Text.endsWith name runner.settings.extension := by
  rw [scripts, List.map_map, List.map_map, List.filter_map]
  rfl

/-- **The order of a source does not matter.** Take entries with names that migrations
can have, in two orders, and let no two of those with the extension have the same name.
For any dialect and with any settings, either no runner can be made for one order or the
other, for the same reason, or the two runners do the same: whatever they remember and
whatever database they are used with, a run and a status make the same calls and get the
same answers, return the same, and leave the same behind, in the database and in what the
runner remembers. -/
theorem run_eq_of_perm (dialect : Sql.Dialect) (settings : Settings)
    {given reordered : List (String × String)}
    (sound : ∀ entry ∈ given, MigrationName.problem? entry.1 = none)
    (perm : given.Perm reordered)
    (distinct : ((given.map Prod.fst).filter fun name =>
      Text.endsWith name settings.extension).Nodup) :
    (∀ failure, forDialect dialect settings (Source.entries given) = .error failure ↔
      forDialect dialect settings (Source.entries reordered) = .error failure) ∧
    ∀ runner other, forDialect dialect settings (Source.entries given) = .ok runner →
      forDialect dialect settings (Source.entries reordered) = .ok other →
      ∀ (σ : Type) (answering : Answering σ) (states : RunStates) (database : σ),
        ((runner.run states).exchanges answering states database =
            (other.run states).exchanges answering states database ∧
          (runner.run states).hold answering states database =
            (other.run states).hold answering states database) ∧
        (runner.status states).exchanges answering states database =
            (other.status states).exchanges answering states database ∧
          (runner.status states).hold answering states database =
            (other.status states).hold answering states database := by
  constructor
  · intro failure
    rw [forDialect_eq_error_iff, forDialect_eq_error_iff]
  · intro runner other made made' σ answering states database
    have same := sameButSource_of_forDialect made made'
    obtain ⟨rfl, rfl, offer⟩ := forDialect_eq_ok_iff.mp made
    obtain ⟨-, -, offer'⟩ := forDialect_eq_ok_iff.mp made'
    obtain ⟨first, offered⟩ := Source.exists_entries sound
    obtain ⟨second, offered'⟩ := Source.exists_entries fun entry member =>
      sound entry (perm.mem_iff.mpr member)
    have firstEntries := Source.entries_eq_ok_iff.mp offered
    have secondEntries := Source.entries_eq_ok_iff.mp offered'
    have reordering : first.Perm second := by
      rw [← List.map_perm_map_iff Source.entryOf_injective, firstEntries, secondEntries]
      exact perm
    have names : ((runner.scripts first).map Migration.name).Nodup := by
      refine List.Nodup.of_map MigrationName.text ?_
      rw [map_text_scripts, firstEntries]
      exact distinct
    have sorted := recognized_eq_of_perm same.settings (offer.trans offered) (offer'.trans offered')
      reordering names
    rw [run_congr same sorted, status_congr same sorted]
    exact ⟨⟨rfl, rfl⟩, rfl, rfl⟩

/-- Two scripts and a note, given directly. -/
def mixedGiven : List (String × String) := mixedEntries.map Source.entryOf

/-- A run and a status of two scripts and a note, on a database that knows one of the
scripts, are the same when they are given in the opposite order. -/
theorem run_eq_of_reversed :
    (∀ entry ∈ mixedGiven, MigrationName.problem? entry.1 = none) ∧
      mixedGiven.Perm mixedGiven.reverse ∧
      ((mixedGiven.map Prod.fst).filter fun name =>
        Text.endsWith name Settings.default.extension).Nodup ∧
      ∃ runner other, forDialect .duckDb Settings.default (Source.entries mixedGiven) = .ok runner ∧
        forDialect .duckDb Settings.default (Source.entries mixedGiven.reverse) = .ok other ∧
        runner.resultOn .none [] startedDatabase = other.resultOn .none [] startedDatabase ∧
        runner.saidOn .none [] startedDatabase = other.saidOn .none [] startedDatabase ∧
        runner.afterRun .none [] startedDatabase = other.afterRun .none [] startedDatabase := by
  have sound : ∀ entry ∈ mixedGiven, MigrationName.problem? entry.1 = none := by decide +kernel
  have perm : mixedGiven.Perm mixedGiven.reverse := (List.reverse_perm _).symm
  have distinct : ((mixedGiven.map Prod.fst).filter fun name =>
      Text.endsWith name Settings.default.extension).Nodup := by decide +kernel
  have usable : Settings.default.problem? = none := by decide
  let runner : Runner := ⟨.duckDb, Settings.default, usable, Source.entries mixedGiven⟩
  let other : Runner := ⟨.duckDb, Settings.default, usable, Source.entries mixedGiven.reverse⟩
  have made : forDialect .duckDb Settings.default (Source.entries mixedGiven) = .ok runner :=
    forDialect_eq_ok_iff.mpr ⟨rfl, rfl, rfl⟩
  have made' : forDialect .duckDb Settings.default (Source.entries mixedGiven.reverse) =
      .ok other := forDialect_eq_ok_iff.mpr ⟨rfl, rfl, rfl⟩
  obtain ⟨⟨said, held⟩, -⟩ := (run_eq_of_perm .duckDb Settings.default sound perm distinct).2
    runner other made made' Recording (Recording.answering .none) [] startedDatabase
  refine ⟨sound, perm, distinct, runner, other, made, made', ?_, said, congrArg Prod.snd held⟩
  exact congrArg (fun ended => ended.1.2) held

end Runner

end MigrationLedger
