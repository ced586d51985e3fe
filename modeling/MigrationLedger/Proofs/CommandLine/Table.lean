/-
# The table of a status

Where migrations stand is printed as a table. Its first column is as wide as the longest
name is in bytes, and names are filled up by characters. A character takes a byte at least,
so every name fits whatever it is written in, and the columns behind it line up. How a row
looks is said here without the functions that print it.

The program asks a runner that it has just made. Such a runner remembers nothing of any
migration, so whatever the tracking table holds, a migration is applied or pending, and the
two numbers at the end count all rows. On which platform the program runs makes no
difference to this.
-/

import MigrationLedger.CommandLine.Program
import MigrationLedger.Proofs.Runner.UnderWay

namespace MigrationLedger.CommandLine

variable {statuses : List MigrationStatus} {width : Nat} {name state time line : String}

/-! ## Rows -/

/-- A text of so many blanks. -/
def blanks (n : Nat) : String := String.ofList (List.replicate n ' ')

@[simp]
theorem length_blanks (n : Nat) : (blanks n).length = n := by
  simp [blanks]

theorem blanks_add (m n : Nat) : blanks (m + n) = blanks m ++ blanks n := by
  rw [blanks, List.replicate_add, String.ofList_append]
  rfl

theorem padEnd_eq (width : Nat) (text : String) :
    padEnd width text = text ++ blanks (width - text.length) := rfl

/-- A line of three texts with nothing but blanks between them, two at least. The second
text begins two characters behind the width of the first column, and the third one ten
characters later, whatever the texts are. -/
structure IsRow (width : Nat) (name state time line : String) : Prop where
  columns : ∃ m n, 2 ≤ m ∧ 2 ≤ n ∧
    line = name ++ blanks m ++ state ++ blanks n ++ time ∧
    (name ++ blanks m).length = width + 2 ∧
    (name ++ blanks m ++ state ++ blanks n).length = width + 12

/-- What is printed is a row when its first two texts fit. -/
theorem isRow_tableRow (fits : name.length ≤ width) (short : state.length ≤ 8) (time : String) :
    IsRow width name state time (tableRow width name state time) := by
  have gap : "  " = blanks 2 := rfl
  have whole : tableRow width name state time = name ++ blanks (width - name.length + 2) ++
      state ++ blanks (8 - state.length + 2) ++ time := by
    rw [tableRow, gap, padEnd_eq, padEnd_eq, blanks_add, blanks_add]
    simp only [String.append_assoc]
  refine ⟨_, _, Nat.le_add_left _ _, Nat.le_add_left _ _, whole, ?_, ?_⟩ <;>
    simp only [String.length_append, length_blanks] <;> omega

/-- The word that a row has for a state. Only two states are shown. -/
inductive Shows : MigrationState → String → Prop
  | applied : Shows .applied "applied"
  | pending : Shows .pending "pending"

theorem Shows.length_le {state : MigrationState} {word : String} (here : Shows state word) :
    word.length ≤ 8 := by
  cases here <;> decide

theorem Shows.linefeed_notMem {state : MigrationState} {word : String} (here : Shows state word) :
    '\n' ∉ word.toList := by
  cases here <;> decide

/-! ## The width of the first column -/

/-- A number of bytes that gives room to each of some texts, and not more room than one of
them takes. -/
structure IsWidth (width : Nat) (texts : List String) : Prop where
  room : ∀ text ∈ texts, text.utf8ByteSize ≤ width
  tight : ∃ text ∈ texts, text.utf8ByteSize = width

/-- The first column is as wide as its longest text, the head among them. -/
theorem isWidth_nameWidth (statuses : List MigrationStatus) :
    IsWidth (nameWidth statuses) (nameHead :: statuses.map fun status => status.name.text) := by
  have greatest : ((nameHead :: statuses.map fun status => status.name.text).map
      String.utf8ByteSize).max? = some (nameWidth statuses) := by
    rw [List.map_cons, List.max?_cons', List.map_map, nameWidth]
    simp only [Text.byteLength_toList]
    rfl
  obtain ⟨member, above⟩ := List.max?_eq_some_iff.mp greatest
  exact ⟨List.forall_mem_map.mp above, List.mem_map.mp member⟩

/-! ## The table -/

/-- A table of where migrations stand: a head, a row for each of them in their order, and the
numbers of those that are applied and of those that are pending, which together are all. -/
structure TableOf (statuses : List MigrationStatus) where
  width : Nat
  head : String
  rows : List String
  applied : Nat
  pending : Nat
  isWidth : IsWidth width ("MIGRATION" :: statuses.map fun status => status.name.text)
  isHead : IsRow width "MIGRATION" "STATE" "APPLIED AT" head
  areRows : List.Forall₂ (fun status row => ∃ word, Shows status.state word ∧
    IsRow width status.name.text word (status.appliedAt.getD "-") row) statuses rows
  applied_eq : applied = statuses.countP fun status => status.state == .applied
  pending_eq : pending = statuses.countP fun status => status.state == .pending
  applied_add_pending : applied + pending = rows.length

/-- The lines of a table. -/
def TableOf.lines (table : TableOf statuses) : List String :=
  table.head :: table.rows ++
    ["", toString table.applied ++ " applied, " ++ toString table.pending ++ " pending"]

/-- A status of a migration of which nothing is remembered: it is applied at some time, or
pending. -/
def IsFresh (status : MigrationStatus) : Prop :=
  (status.state = .applied ∧ ∃ time, status.appliedAt = some time) ∨
    (status.state = .pending ∧ status.appliedAt = none)

theorem IsFresh.shows_title {status : MigrationStatus} (fresh : IsFresh status) :
    Shows status.state status.state.title := by
  obtain ⟨state, -⟩ | ⟨state, -⟩ := fresh <;> rw [state]
  · exact .applied
  · exact .pending

theorem isFresh_statusOf (records : List MigrationRecord) (name : MigrationName) :
    IsFresh (Runner.statusOf records [] name) := by
  rw [Runner.statusOf]
  cases Runner.appliedAt? records name with
  | some time => exact .inl ⟨rfl, time, rfl⟩
  | none => exact .inr ⟨rfl, rfl⟩

/-- Those that are applied and those that are pending are all. -/
theorem countIn_add_countIn (fresh : ∀ status ∈ statuses, IsFresh status) :
    countIn .applied statuses + countIn .pending statuses = statuses.length := by
  have others : countIn .pending statuses =
      statuses.countP fun status => decide ¬(status.state == .applied) = true :=
    List.countP_congr fun status member => by
      obtain ⟨state, -⟩ | ⟨state, -⟩ := fresh status member <;> rw [state] <;> decide
  rw [others, countIn, ← List.length_eq_countP_add_countP]

/-- Statuses of migrations of which nothing is remembered are printed as a table. -/
theorem exists_tableOf (nonempty : statuses ≠ []) (fresh : ∀ status ∈ statuses, IsFresh status) :
    ∃ table : TableOf statuses, statusTable statuses = table.lines := by
  have isWidth := isWidth_nameWidth statuses
  have fits : ∀ text ∈ nameHead :: statuses.map fun status => status.name.text,
      text.length ≤ nameWidth statuses := fun text member => by
    refine Nat.le_trans ?_ (isWidth.room text member)
    rw [← Text.byteLength_toList]
    exact Text.length_le_byteLength text.toList
  obtain ⟨head, names⟩ := List.forall_mem_cons.mp fits
  refine ⟨{
    width := nameWidth statuses
    head := tableRow (nameWidth statuses) nameHead "STATE" "APPLIED AT"
    rows := statuses.map (statusRow (nameWidth statuses))
    applied := countIn .applied statuses
    pending := countIn .pending statuses
    isWidth
    isHead := isRow_tableRow head (by decide) _
    areRows := List.forall₂_map_right_iff.mpr (List.forall₂_same.mpr fun status member =>
      ⟨_, (fresh status member).shows_title, isRow_tableRow
        (names _ (List.mem_map_of_mem member)) (fresh status member).shows_title.length_le _⟩)
    applied_eq := rfl
    pending_eq := rfl
    applied_add_pending := by rw [countIn_add_countIn fresh, List.length_map] }, ?_⟩
  rw [statusTable, if_neg (by simpa using nonempty)]
  rfl

/-! ## Lines of output -/

/-- Lines are printed with a line feed between each two of them and behind the last. -/
theorem toList_linesText (lines : List String) :
    (linesText lines).toList = ['\n'].intercalate (lines.map String.toList ++ [[]]) := by
  rw [linesText, String.toList_join]
  induction lines with
  | nil => rfl
  | cons line lines ih =>
      rw [List.map_cons, List.flatMap_cons, ih, List.map_cons, List.cons_append]
      cases lines with
      | nil => simp
      | cons next lines =>
          rw [List.map_cons, List.cons_append, List.intercalate_cons_cons, String.toList_append]
          rfl

/-- A name is written on one line. -/
theorem linefeed_notMem_name (name : MigrationName) : '\n' ∉ name.text.toList := by
  intro member
  have sound := name.sound
  rw [MigrationName.problem?] at sound
  have control : name.text.toList.any Text.isControl = true :=
    List.any_eq_true.mpr ⟨'\n', member, by decide⟩
  rw [if_pos control] at sound
  split_ifs at sound

theorem IsRow.linefeed_notMem (row : IsRow width name state time line)
    (first : '\n' ∉ name.toList) (second : '\n' ∉ state.toList) (third : '\n' ∉ time.toList) :
    '\n' ∉ line.toList := by
  obtain ⟨m, n, -, -, rfl, -, -⟩ := row.columns
  simp [blanks, first, second, third]

theorem linefeed_notMem_toString (n : Nat) : '\n' ∉ (toString n).toList := by
  rw [Nat.toString_eq_repr, Nat.toList_repr]
  intro member
  exact absurd (Nat.isDigit_of_mem_toDigits (by decide) (by decide) member) (by decide)

/-- Rows break only where times do. -/
theorem linefeed_notMem_of_rows {rows : List String}
    (areRows : List.Forall₂ (fun status row => ∃ word, Shows status.state word ∧
      IsRow width status.name.text word (status.appliedAt.getD "-") row) statuses rows)
    (plain : ∀ status ∈ statuses, ∀ time, status.appliedAt = some time → '\n' ∉ time.toList) :
    ∀ row ∈ rows, '\n' ∉ row.toList := by
  induction areRows with
  | nil => simp
  | @cons status row statuses rows isRow _ ih =>
      obtain ⟨word, shown, isRow⟩ := isRow
      obtain ⟨here, later⟩ := List.forall_mem_cons.mp plain
      have time : '\n' ∉ (status.appliedAt.getD "-").toList := by
        cases known : status.appliedAt with
        | none => decide
        | some time => exact here time known
      exact List.forall_mem_cons.mpr ⟨isRow.linefeed_notMem (linefeed_notMem_name _)
        shown.linefeed_notMem time, ih later⟩

/-- Where no time holds a line feed, the lines of a table are lines of the output. -/
theorem TableOf.splitOn_linesText (table : TableOf statuses)
    (plain : ∀ status ∈ statuses, ∀ time, status.appliedAt = some time → '\n' ∉ time.toList) :
    (linesText table.lines).toList.splitOn '\n' = table.lines.map String.toList ++ [[]] := by
  have head : '\n' ∉ table.head.toList :=
    table.isHead.linefeed_notMem (by decide) (by decide) (by decide)
  have rows := linefeed_notMem_of_rows table.areRows plain
  have summary : '\n' ∉ (toString table.applied ++ " applied, " ++ toString table.pending ++
      " pending").toList := by
    simp only [String.toList_append, List.mem_append, not_or]
    exact ⟨⟨⟨linefeed_notMem_toString _, by decide⟩, linefeed_notMem_toString _⟩, by decide⟩
  have lines : ∀ line ∈ table.lines, '\n' ∉ line.toList := by
    simp only [lines, List.cons_append, List.forall_mem_cons, List.forall_mem_append]
    exact ⟨head, rows, by decide, summary, by simp⟩
  rw [toList_linesText, List.splitOn_intercalate _ _ (by simp)]
  simp only [List.forall_mem_append, List.forall_mem_map]
  exact ⟨lines, by simp⟩

/-! ## What a status surveys -/

/-- What is said of the scripts of a runner that remembers nothing: they are all there, in
ascending order of the bytes of their names, and none of them is under way or has failed. -/
structure Surveys (runner : Runner) (statuses : List MigrationStatus) : Prop where
  scripts : ∃ entries, runner.offer = .ok entries ∧
    (statuses.map MigrationStatus.name).Perm ((runner.scripts entries).map Migration.name)
  ascending : (statuses.map MigrationStatus.name).Pairwise fun a b =>
    Text.bytes a.text < Text.bytes b.text
  fresh : ∀ status ∈ statuses, IsFresh status

/-- Whatever a status is answered, this is what it returns if it succeeds. -/
theorem surveys_of_dialogue {runner : Runner} {exchanged : List Exchange}
    (dialogue : (runner.status []).Dialogue exchanged (.ok statuses)) :
    Surveys runner statuses := by
  cases known : runner.recognized with
  | error failure =>
      obtain ⟨-, failed⟩ := (Runner.dialogue_status_of_unrecognized known).mp dialogue
      cases failed
  | ok found =>
      obtain ⟨migrations, ignored⟩ := found
      obtain ⟨entries, offered, -, sorted, -⟩ := Runner.recognized_eq_ok_iff.mp known
      obtain rfl := Runner.statuses_of_status known dialogue
      have names : (migrations.map fun migration => Runner.statusOf (Runner.recordsRead exchanged)
          [] migration.name).map MigrationStatus.name = migrations.map Migration.name := by
        simp [Runner.name_statusOf]
      refine ⟨⟨entries, offered, ?_⟩, ?_, ?_⟩
      · rw [names, sorted]
        exact (Migration.perm_sort _).map _
      · rw [names]
        exact Runner.pairwise_names_of_sublist (Runner.pairwise_before_of_recognized known)
          (List.Sublist.refl _)
      · exact List.forall_mem_map.mpr fun migration _ => isFresh_statusOf _ migration.name

/-! ## The program -/

section Program

variable {σ : Type} {platform : Platform σ} {files left : FileTree} {environment : Environment}
  {arguments : List String} {globals : GlobalOptions} {output : String} {workplace : Workplace σ}

/-- A command is set up when it finds its setup, the database can be opened, and there is a
runner for its settings. -/
theorem prepare_eq_ok_iff :
    platform.prepare files globals = (.ok workplace, left) ↔ ∃ location,
      Setup.loadAs platform.format files globals = .ok workplace.setup ∧
      workplace.setup.location = .ok location ∧
      platform.openAt files location = .ok (workplace.database, left) ∧
      workplace.setup.runner platform.dialect left = .ok workplace.runner ∧
      workplace.files = left := by
  constructor
  · intro prepared
    rw [Platform.prepare] at prepared
    split at prepared
    · cases prepared
    · rename_i setup location found
      obtain ⟨loaded, load, rest⟩ := bind_eq_ok_iff.mp found
      obtain ⟨place, located, same⟩ := bind_eq_ok_iff.mp rest
      obtain ⟨rfl, rfl⟩ := Prod.mk.inj (Except.ok.inj same)
      split at prepared
      · cases prepared
      · rename_i database opened
        split at prepared
        · cases prepared
        · rename_i runner made
          obtain ⟨same, rfl⟩ := Prod.mk.inj prepared
          obtain rfl := Except.ok.inj same
          exact ⟨place, load, located, opened, made, rfl⟩
  · rintro ⟨location, loaded, located, opened, made, rfl⟩
    have found : (do
        let setup ← Setup.loadAs platform.format files globals
        return (setup, ← setup.location)) = Except.ok (workplace.setup, location) :=
      bind_eq_ok_iff.mpr ⟨_, loaded, bind_eq_ok_iff.mpr ⟨_, located, rfl⟩⟩
    dsimp only [Platform.prepare]
    simp only [found, opened, made]

/-- The runner has the migrations of the setup, read once the database is open. -/
theorem offer_of_prepare (prepared : platform.prepare files globals = (.ok workplace, left)) :
    workplace.runner.offer = workplace.setup.offer left := by
  obtain ⟨_, -, -, -, made, -⟩ := prepare_eq_ok_iff.mp prepared
  rw [Setup.runner] at made
  split at made
  · rename_i runner known
    obtain rfl := Except.ok.inj made
    exact (Runner.forDialect_eq_ok_iff.mp known).2.2
  · cases made

/-- The program prints where migrations stand when the command is set up and its runner finds
that out. -/
theorem run_status_iff
    (asked : platform.arguments environment arguments = .ok ⟨globals, .status false⟩) :
    (platform.run files environment arguments).code = 0 ∧
        (platform.run files environment arguments).output = output ↔
      ∃ workplace left statuses, platform.prepare files globals = (.ok workplace, left) ∧
        (platform.hold workplace (workplace.runner.status [])).1 = .ok statuses ∧
        output = linesText (statusTable statuses) := by
  rw [Platform.run, asked]
  dsimp only [Platform.perform, Platform.status]
  cases platform.prepare files globals with
  | mk made left =>
    cases made with
    | error failure => simp [Performance.exit]
    | ok workplace =>
      cases held : platform.hold workplace (workplace.runner.status []) with
      | mk found after =>
        cases found with
        | error failure => simp [Performance.exit, held]
        | ok statuses => simp [Performance.exit, held, eq_comm]

end Program

/-- **The table of a status.** Take any source and any way in which the calls of a status may
be answered. A runner that remembers nothing, if its status succeeds, shows the scripts of
its source, each of them once and in ascending order, as applied or as pending; and if there
is one, this is printed as a table. Each row has the name, and from the same column on, two
characters behind the width, the state, and from the same column on the time, and so has the
head, whatever the names are written in. The two numbers below add up to the rows.

On any platform the program prints such a table whenever it is asked for a status and ends
with no error, for any files that it sees: the table of the runner that it has set up, with
the migrations of its setup. Its lines are lines of the output unless the tracking table holds
a time with a line feed in it. -/
theorem tables_of_status :
    (∀ (runner : Runner) {σ : Type} (answering : Answering σ) (database : σ)
        (statuses : List MigrationStatus),
      ((runner.status []).hold answering [] database).1 = .ok statuses →
      Surveys runner statuses ∧
        (statuses ≠ [] → ∃ table : TableOf statuses, statusTable statuses = table.lines)) ∧
    ∀ {σ : Type} (platform : Platform σ) (files : FileTree) (environment : Environment)
        (arguments : List String) (globals : GlobalOptions),
      platform.arguments environment arguments = .ok ⟨globals, .status false⟩ →
      (platform.run files environment arguments).code = 0 →
      ∃ workplace left statuses, platform.prepare files globals = (.ok workplace, left) ∧
        (platform.hold workplace (workplace.runner.status [])).1 = .ok statuses ∧
        workplace.runner.offer = workplace.setup.offer left ∧
        Surveys workplace.runner statuses ∧
        (statuses ≠ [] → ∃ table : TableOf statuses,
          (platform.run files environment arguments).output = linesText table.lines ∧
          ((∀ status ∈ statuses, ∀ time, status.appliedAt = some time → '\n' ∉ time.toList) →
            (linesText table.lines).toList.splitOn '\n' =
              table.lines.map String.toList ++ [[]])) := by
  have general (runner : Runner) {σ : Type} (answering : Answering σ) (database : σ)
      (statuses : List MigrationStatus)
      (found : ((runner.status []).hold answering [] database).1 = .ok statuses) :
      Surveys runner statuses ∧
        (statuses ≠ [] → ∃ table : TableOf statuses, statusTable statuses = table.lines) := by
    have dialogue := Session.dialogue_exchanges answering (runner.status []) [] database
    rw [found] at dialogue
    have surveys := surveys_of_dialogue dialogue
    exact ⟨surveys, fun nonempty => exists_tableOf nonempty surveys.fresh⟩
  refine ⟨general, fun platform files environment arguments globals asked succeeded => ?_⟩
  obtain ⟨workplace, left, statuses, prepared, found, printed⟩ :=
    (run_status_iff asked).mp ⟨succeeded, rfl⟩
  obtain ⟨surveys, shown⟩ :=
    general workplace.runner platform.answer workplace.database statuses found
  refine ⟨workplace, left, statuses, prepared, found, offer_of_prepare prepared, surveys,
    fun nonempty => ?_⟩
  obtain ⟨table, same⟩ := shown nonempty
  exact ⟨table, printed.trans (congrArg linesText same), table.splitOn_linesText⟩

/-- A name with a letter of two bytes. -/
def accentedName : MigrationName := ⟨"001_é.sql", by decide⟩

/-- A runner over two scripts, the later one first. -/
def accented : Runner :=
  { Runner.single ⟨accentedName, ""⟩ with
    offer := .ok [⟨Runner.laterName, ""⟩, ⟨accentedName, ""⟩] }

/-- A database that has these rows to list and carries everything out. -/
def rowsAlone (rows : List (List String)) : Answering Unit
  | _, _, .connect | _, _, .batch _ => (.ok (), ())
  | _, _, .execute _ _ => (.ok 0, ())
  | _, _, .count _ _ => (.ok 0, ())
  | _, _, .rows _ _ => (.ok rows, ())

/-- A row bears the first name and none the second. -/
def accentedStatuses : List MigrationStatus :=
  [⟨accentedName, .applied, some "now"⟩, ⟨Runner.laterName, .pending, none⟩]

theorem status_accented :
    ((accented.status []).hold (rowsAlone [["id", "001_é.sql", "now"]]) [] ()).1 =
      .ok accentedStatuses := by
  have after : Migration.notAfter ⟨Runner.laterName, ""⟩ ⟨accentedName, ""⟩ = false := by
    decide +kernel
  have scripts : accented.scripts [⟨Runner.laterName, ""⟩, ⟨accentedName, ""⟩] =
      [⟨Runner.laterName, ""⟩, ⟨accentedName, ""⟩] := by decide +kernel
  have known : accented.recognized =
      .ok ([⟨accentedName, ""⟩, ⟨Runner.laterName, ""⟩], []) := by
    refine Runner.recognized_eq_ok_iff.mpr ⟨_, rfl, by decide +kernel, ?_, by decide +kernel⟩
    rw [scripts]
    simp [Migration.sort, List.mergeSort, List.MergeSort.Internal.splitInTwo, after]
  rw [Runner.status, known]
  decide +kernel

/-- No files at all. -/
def nowhere : FileTree := ⟨[], []⟩

/-- What a command works with where there are no files: the bundled migrations and a new
database in memory. -/
def bare : Workplace (Engine.Store.Client × Option (List String)) where
  setup := ⟨{}, [], []⟩
  runner := { Runner.single ⟨accentedName, ""⟩ with offer := Source.bundled }
  database := ({ store := (Engine.Database.inMemory ⟨0, 0⟩).store },
    (Engine.Database.inMemory ⟨0, 0⟩).place)
  files := nowhere

theorem prepare_nowhere : (platform ⟨0, 0⟩).prepare nowhere {} = (.ok bare, nowhere) := by
  have loaded : Setup.loadAs .yaml nowhere {} = .ok bare.setup := by decide +kernel
  have located : bare.setup.location = .ok .memory := by decide +kernel
  exact prepare_eq_ok_iff.mpr ⟨.memory, loaded, located, rfl, rfl, rfl⟩

/-- Nothing was applied to the new database. -/
def bundledStatuses : List MigrationStatus :=
  Bundled.migrations.map fun migration => ⟨migration.name, .pending, none⟩

theorem status_bare :
    ((platform ⟨0, 0⟩).hold bare (bare.runner.status [])).1 = .ok bundledStatuses := by
  have scripts : bare.runner.scripts Bundled.migrations = Bundled.migrations :=
    List.filter_eq_self.mpr (by decide +kernel)
  have sorted : Bundled.migrations.Pairwise fun a b => a.notAfter b = true := by
    decide +kernel
  have known : bare.runner.recognized = .ok (Bundled.migrations, []) := by
    refine Runner.recognized_eq_ok_iff.mpr ⟨_, rfl, by decide +kernel, ?_, by decide +kernel⟩
    rw [scripts, Migration.sort, List.mergeSort_of_pairwise sorted]
  rw [Runner.status, known]
  decide +kernel

/-- A name of nine characters and ten bytes, and the program where there are no files. -/
theorem tables_of_status_accented :
    (∃ table : TableOf accentedStatuses, statusTable accentedStatuses = table.lines ∧
      table.width = 10 ∧ table.applied = 1 ∧ table.pending = 1) ∧
    (run nowhere ⟨0, 0⟩ [] ["status"]).code = 0 ∧
      ∃ table : TableOf bundledStatuses,
        (run nowhere ⟨0, 0⟩ [] ["status"]).output = linesText table.lines ∧
        (linesText table.lines).toList.splitOn '\n' = table.lines.map String.toList ++ [[]] ∧
        table.applied = 0 ∧ table.pending = 7 := by
  obtain ⟨general, program⟩ := tables_of_status
  constructor
  · obtain ⟨table, same⟩ := (general accented _ () _ status_accented).2 (by decide)
    have room : "001_é.sql".utf8ByteSize ≤ table.width := table.isWidth.room _ (by decide +kernel)
    obtain ⟨text, member, tight⟩ := table.isWidth.tight
    have narrow : ∀ text ∈ "MIGRATION" :: accentedStatuses.map fun status => status.name.text,
        text.utf8ByteSize ≤ 10 := by decide
    have width := Nat.le_antisymm (tight ▸ narrow text member) room
    exact ⟨table, same, width, table.applied_eq, table.pending_eq⟩
  · have asked : Arguments.parse [] ["status"] = .ok ⟨{}, .status false⟩ := by decide +kernel
    obtain ⟨succeeded, -⟩ := (@run_status_iff _ (platform ⟨0, 0⟩) nowhere _ _ _ _ asked).mpr
      ⟨bare, nowhere, bundledStatuses, prepare_nowhere, status_bare, rfl⟩
    obtain ⟨workplace, left, statuses, prepared, found, -, -, shown⟩ :=
      program (platform ⟨0, 0⟩) nowhere [] ["status"] {} asked succeeded
    obtain ⟨same, -⟩ := Prod.mk.inj (prepared.symm.trans prepare_nowhere)
    obtain rfl := Except.ok.inj same
    obtain rfl := Except.ok.inj (found.symm.trans status_bare)
    obtain ⟨table, printed, lines⟩ := shown (by decide)
    have plain : ∀ status ∈ bundledStatuses, ∀ time, status.appliedAt = some time →
        '\n' ∉ time.toList := by simp [bundledStatuses]
    exact ⟨succeeded, table, printed, lines plain, table.applied_eq, table.pending_eq⟩

end MigrationLedger.CommandLine
