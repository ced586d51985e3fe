/-
# What addresses name

An address is trimmed, checked not to be empty, and freed of the scheme of a driver
manager, in this order. So an address of nothing but that scheme passes the check and
names a file without a name. The main statement says that this is the only address with
which anything is wrong: every other one means the same with and without the scheme in
front, none names a file of the name that stands for memory, and the scheme of the engine
lets any other name stand for a file.
-/

import MigrationLedger.Database.Url
import MigrationLedger.Proofs.Text.Occurrence
import MigrationLedger.Proofs.Text.Trimming

namespace MigrationLedger.DatabaseUrl

open Text (Trims dropStart?_eq_some_iff dropStart?_eq_none_iff)

variable {text path : String} {url rest : List Char} {location : DatabaseUrl}

theorem withoutManager_append : withoutManager ("jdbc:".toList ++ url) = url := by
  rw [withoutManager, dropStart?_eq_some_iff.mpr rfl, Option.getD_some]

theorem withoutManager_of_foreign (foreign : ¬ "jdbc:".toList <+: url) :
    withoutManager url = url := by
  rw [withoutManager, dropStart?_eq_none_iff.mpr foreign, Option.getD_none]

/-- What is left of an address is empty when nothing or only the scheme of a driver
manager is there. -/
theorem withoutManager_eq_nil_iff : withoutManager url = [] ↔ url = [] ∨ url = "jdbc:".toList := by
  by_cases managed : "jdbc:".toList <+: url
  · obtain ⟨rest, rfl⟩ := managed
    rw [withoutManager_append]
    simp
  · rw [withoutManager_of_foreign managed]
    refine ⟨.inl, fun either => either.resolve_right ?_⟩
    rintro rfl
    exact managed (List.prefix_refl _)

/-! ## What stands behind the schemes -/

theorem locate_engine :
    locate ("duckdb:".toList ++ rest) =
      if rest = [] ∨ rest = memoryName then .ok .memory else .ok (.file (String.ofList rest)) := by
  have other : "duckdb:".toList ++ rest ≠ memoryName := by
    have spelled : memoryName = ":memory:".toList := rfl
    intro same
    rw [spelled] at same
    simp at same
  have dropped : Text.dropStart? "duckdb:".toList ("duckdb:".toList ++ rest) = some rest :=
    dropStart?_eq_some_iff.mpr rfl
  unfold locate
  rw [if_neg other]
  simp only [dropped]

/-- Behind the scheme of the engine every text names a file but none and the one that
stands for memory. -/
theorem locate_engine_eq_file_iff :
    locate ("duckdb:".toList ++ rest) = .ok (.file path) ↔
      rest = path.toList ∧ rest ≠ [] ∧ rest ≠ memoryName := by
  rw [locate_engine]
  by_cases memory : rest = [] ∨ rest = memoryName
  · rw [if_pos memory]
    exact iff_of_false nofun fun ⟨_, held, other⟩ => memory.elim held other
  · obtain ⟨held, other⟩ := not_or.mp memory
    rw [if_neg memory]
    simp [held, other, ← String.toList_inj]

/-- Without the scheme of the engine a text without any scheme names a file. -/
theorem locate_eq_file_iff_of_foreign (foreign : ¬ "duckdb:".toList <+: url) :
    locate url = .ok (.file path) ↔
      url = path.toList ∧ url ≠ memoryName ∧ scheme? url = none := by
  have kept := dropStart?_eq_none_iff.mpr foreign
  unfold locate
  by_cases memory : url = memoryName
  · rw [if_pos memory]
    exact iff_of_false nofun fun ⟨_, other, _⟩ => other memory
  · rw [if_neg memory]
    simp only [kept]
    cases scheme? url <;> simp [memory, ← String.toList_inj]

/-- No address names a file of the name that stands for memory. -/
theorem toList_ne_memoryName (named : locate url = .ok (.file path)) :
    path.toList ≠ memoryName := by
  by_cases engine : "duckdb:".toList <+: url
  · obtain ⟨rest, rfl⟩ := engine
    obtain ⟨rfl, -, other⟩ := locate_engine_eq_file_iff.mp named
    exact other
  · obtain ⟨rfl, other, -⟩ := (locate_eq_file_iff_of_foreign engine).mp named
    exact other

/-- A file without a name is named by no text at all. -/
theorem locate_eq_unnamed_iff : locate url = .ok (.file "") ↔ url = [] := by
  constructor
  · intro named
    by_cases engine : "duckdb:".toList <+: url
    · obtain ⟨rest, rfl⟩ := engine
      obtain ⟨empty, held, -⟩ := locate_engine_eq_file_iff.mp named
      exact absurd empty held
    · exact ((locate_eq_file_iff_of_foreign engine).mp named).1
  · rintro rfl
    decide

/-! ## Whole addresses -/

theorem parse_of_trims (trims : Trims text.toList url) (held : url ≠ []) :
    parse text = locate (withoutManager url) := by
  obtain rfl := trims.eq_trim
  rw [parse, if_neg held]

theorem parse_of_trims_nil (trims : Trims text.toList []) :
    parse text = .error (.connection "connection URL is empty") := by
  rw [parse, ← trims.eq_trim, if_pos rfl]

/-- The scheme of a driver manager is dropped from an address that does not end with a
blank. -/
theorem parse_manager (last : ∀ c ∈ text.toList.getLast?, Text.isBlank c = false) :
    parse ("jdbc:" ++ text) = locate text.toList := by
  have manager : Trims "jdbc:".toList "jdbc:".toList := Text.trims_iff.mpr (by decide)
  have whole : Trims ("jdbc:" ++ text).toList ("jdbc:".toList ++ text.toList) := by
    rw [String.toList_append]
    exact manager.append (by decide) last
  rw [parse_of_trims whole (by simp), withoutManager_append]

/-- The scheme of the engine stays in front of such an address. -/
theorem parse_engine (last : ∀ c ∈ text.toList.getLast?, Text.isBlank c = false) :
    parse ("duckdb:" ++ text) = locate ("duckdb:".toList ++ text.toList) := by
  have engine : Trims "duckdb:".toList "duckdb:".toList := Text.trims_iff.mpr (by decide)
  have whole : Trims ("duckdb:" ++ text).toList ("duckdb:".toList ++ text.toList) := by
    rw [String.toList_append]
    exact engine.append (by decide) last
  have unmanaged : ¬ "jdbc:".toList <+: "duckdb:".toList ++ text.toList := by simp
  rw [parse_of_trims whole (by simp), withoutManager_of_foreign unmanaged]

/-- What an address names, it names behind the scheme of a driver manager. -/
theorem locate_of_parse (named : parse text = .ok location) :
    ∃ url, Trims text.toList url ∧ url ≠ [] ∧ locate (withoutManager url) = .ok location := by
  have trims := Text.trims_trim text.toList
  by_cases empty : Text.trim text.toList = []
  · rw [empty] at trims
    cases (parse_of_trims_nil trims).symm.trans named
  · exact ⟨_, trims, empty, (parse_of_trims trims empty).symm.trans named⟩

/-- **What addresses name.** An address without blanks at its ends and without the scheme
of a driver manager means the same with that scheme in front, unless it is empty. A file
without a name is named by that scheme alone, between any blanks, and by nothing else; a
file of the name that stands for memory is never named. Behind the scheme of the engine
every other name stands for the file of that name. -/
theorem parse_answers (text : String) :
    (Trims text.toList text.toList → ¬ "jdbc:".toList <+: text.toList →
      (parse ("jdbc:" ++ text) = parse text ↔ text ≠ "")) ∧
    (parse text = .ok (.file "") ↔ Trims text.toList "jdbc:".toList) ∧
    parse text ≠ .ok (.file ":memory:") ∧
    (text ≠ "" → text ≠ ":memory:" → (∀ c ∈ text.toList.getLast?, Text.isBlank c = false) →
      parse ("duckdb:" ++ text) = .ok (.file text)) := by
  refine ⟨fun bare foreign => ?_, ⟨fun named => ?_, fun trims => ?_⟩, fun named => ?_,
    fun held other last => ?_⟩
  · rw [parse_manager bare.last]
    by_cases empty : text = ""
    · subst empty
      rw [parse_of_trims_nil bare]
      decide
    · rw [parse_of_trims bare (by simpa using empty), withoutManager_of_foreign foreign]
      exact iff_of_true rfl empty
  · obtain ⟨url, trims, held, located⟩ := locate_of_parse named
    have left := withoutManager_eq_nil_iff.mp (locate_eq_unnamed_iff.mp located)
    exact left.resolve_left held ▸ trims
  · rw [parse_of_trims trims (by decide), locate_eq_unnamed_iff, withoutManager_eq_nil_iff]
    exact .inr rfl
  · obtain ⟨url, -, -, located⟩ := locate_of_parse named
    exact toList_ne_memoryName located rfl
  · rw [parse_engine last, locate_engine_eq_file_iff]
    exact ⟨rfl, by simpa using held, fun same => other (String.toList_inj.mp same)⟩

/-- An address of a foreign scheme with blanks and colons in it is refused as what it is,
and is a path behind the scheme of the engine. -/
theorem parse_answers_foreign :
    parse ("jdbc:" ++ "s3://my jobs:1") = parse "s3://my jobs:1" ∧
      parse "s3://my jobs:1" = .error (.notImplemented "s3" "connections") ∧
      parse ("duckdb:" ++ "s3://my jobs:1") = .ok (.file "s3://my jobs:1") ∧
      parse " jdbc:\n" = .ok (.file "") := by
  have bare : Trims "s3://my jobs:1".toList "s3://my jobs:1".toList :=
    Text.trims_iff.mpr (by decide)
  have manager : Trims " jdbc:\n".toList "jdbc:".toList := Text.trims_iff.mpr (by decide)
  obtain ⟨managed, -, -, engine⟩ := parse_answers "s3://my jobs:1"
  exact ⟨(managed bare (by decide)).mpr (by decide), by decide,
    engine (by decide) (by decide) bare.last, (parse_answers " jdbc:\n").2.1.mpr manager⟩

/-- The empty address is refused, and with the scheme of a driver manager in front it names
a file without a name. -/
theorem parse_manager_alone :
    Trims "".toList "".toList ∧ ¬ "jdbc:".toList <+: "".toList ∧
      parse "" = .error (.connection "connection URL is empty") ∧
      parse ("jdbc:" ++ "") = .ok (.file "") := by
  exact ⟨Text.trims_iff.mpr (by decide), by decide, by decide, by decide⟩

end MigrationLedger.DatabaseUrl
