/-
# What sources offer

Entries that are given directly are offered as they are. Directories are described
without the order in which they are read: every directory is read on its own, and what is
offered depends on the lists of scripts that come out. The base directories may not
repeat a name, and a script of an override directory takes the place of one with its
name. Names are all that decides which scripts stay, so a selection of scripts by name can
be made before or after the layers are put together.
-/

import Mathlib.Data.List.Forall2
import MigrationLedger.Migration.Source
import MigrationLedger.Proofs.Runner.Recognition
import MigrationLedger.Proofs.Source.Tree

namespace MigrationLedger

/-- A step that may fail, and another one with its result. -/
theorem bind_eq_ok_iff {α β ε : Type} {first : Except ε α} {next : α → Except ε β} {result : β} :
    (first >>= next) = .ok result ↔ ∃ value, first = .ok value ∧ next value = .ok result := by
  cases first with
  | error failure => simp [bind, Except.bind]
  | ok value => simp [bind, Except.bind]

/-- All values can be mapped when each of them can. -/
theorem mapM_eq_ok_iff {α β ε : Type} {f : α → Except ε β} {values : List α} {results : List β} :
    values.mapM f = .ok results ↔
      List.Forall₂ (fun value result => f value = .ok result) values results := by
  induction values generalizing results with
  | nil => simp [pure, Except.pure, eq_comm]
  | cons value rest ih =>
      simp only [List.mapM_cons, bind_eq_ok_iff, pure, Except.pure, Except.ok.injEq]
      constructor
      · rintro ⟨first, mapped, others, later, rfl⟩
        exact .cons mapped (ih.mp later)
      · rintro (_ | ⟨mapped, later⟩)
        exact ⟨_, mapped, _, ih.mpr later, rfl⟩

/-- A mapping goes through when it does for each of the values. -/
theorem exists_mapM_eq_ok {α β ε : Type} {f : α → Except ε β} {values : List α}
    (each : ∀ value ∈ values, ∃ result, f value = .ok result) :
    ∃ results, values.mapM f = .ok results := by
  simp only [mapM_eq_ok_iff]
  induction values with
  | nil => exact ⟨[], .nil⟩
  | cons value rest ih =>
      rw [List.forall_mem_cons] at each
      obtain ⟨first, mapped⟩ := each.1
      obtain ⟨others, later⟩ := ih each.2
      exact ⟨first :: others, .cons mapped later⟩

namespace MigrationName

theorem text_of_parse {text : String} {name : MigrationName} (parsed : parse text = .ok name) :
    name.text = text := by
  unfold parse at parsed
  split at parsed
  · cases parsed
    rfl
  · cases parsed

theorem parse_text (name : MigrationName) : parse name.text = .ok name := by
  unfold parse
  split
  · rfl
  · rename_i problem found
    rw [name.sound] at found
    cases found

end MigrationName

namespace Source

/-! ## Entries given directly -/

/-- A migration as an entry that is given directly. -/
def entryOf (migration : Migration) : String × String := (migration.name.text, migration.script)

theorem entryOf_injective : Function.Injective entryOf := by
  rintro ⟨first, _⟩ ⟨second, _⟩ same
  obtain ⟨names, rfl⟩ := Prod.mk.inj same
  obtain rfl := MigrationName.text_injective names
  rfl

/-- What is offered are the entries themselves, in the order given. -/
theorem entries_eq_ok_iff {given : List (String × String)} {offered : List Migration} :
    entries given = .ok offered ↔ offered.map entryOf = given := by
  have same : List.Forall₂ (fun entry migration => entry = entryOf migration) given offered ↔
      offered.map entryOf = given := by
    rw [← List.forall₂_map_right_iff (R := Eq), List.forall₂_eq_eq_eq, eq_comm]
  rw [← same, entries, mapM_eq_ok_iff]
  constructor
  · intro listed
    refine listed.imp fun entry migration read => ?_
    split at read
    · rename_i name parsed
      cases read
      rw [entryOf, MigrationName.text_of_parse parsed]
    · cases read
  · intro listed
    refine listed.imp fun entry migration same => ?_
    rw [same, entryOf, MigrationName.parse_text]

/-- Entries with names that migrations can have are offered. -/
theorem exists_entries {given : List (String × String)}
    (sound : ∀ entry ∈ given, MigrationName.problem? entry.1 = none) :
    ∃ offered, entries given = .ok offered := by
  refine ⟨given.pmap (fun entry sound => ⟨⟨entry.1, sound⟩, entry.2⟩) sound, ?_⟩
  rw [entries_eq_ok_iff, List.map_pmap]
  simp [entryOf]

/-! ## One directory -/

variable {tree : FileTree} {found entries all : List Found} {layers : List (List Found)}
  {entry : Found} {name : MigrationName} {base overrides : List String} {directory : String}
  {offered : List Migration} {file : String × FileNode}

/-- The names of scripts that were found. -/
def names (found : List Found) : List MigrationName := found.map fun entry => entry.migration.name

@[simp]
theorem names_append (found entries : List Found) :
    names (found ++ entries) = names found ++ names entries :=
  List.map_append

/-- A file is read as a script exactly when its name can be that of a migration and its
bytes are a text. -/
theorem script_eq_ok_iff : script directory file = .ok entry ↔
    ∃ name text, MigrationName.parse file.1 = .ok name ∧ file.2.text? = some text ∧
      entry = ⟨Path.join directory file.1, ⟨name, text⟩⟩ := by
  rw [script]
  cases MigrationName.parse file.1 with
  | error error => simp
  | ok name => cases file.2.text? <;> simp [eq_comm]

theorem scripts_eq_ok_iff : scripts tree directory = .ok entries ↔
    ∃ files, tree.files? directory = some files ∧
      List.Forall₂ (fun file entry => script directory file = .ok entry) files entries := by
  rw [scripts]
  cases tree.files? directory with
  | none => simp
  | some files => simp [mapM_eq_ok_iff]

/-- The names that are read in a directory are those of its files. -/
theorem mem_names_of_scripts (read : scripts tree directory = .ok entries) :
    name ∈ names entries ↔ tree.Lists directory name.text := by
  obtain ⟨files, listed, each⟩ := scripts_eq_ok_iff.mp read
  simp only [FileTree.Lists, listed, Option.some.injEq, exists_eq_left']
  clear listed read
  induction each with
  | nil => simp [names]
  | @cons file entry _ _ first _ ih =>
      obtain ⟨found, text, parsed, -, rfl⟩ := script_eq_ok_iff.mp first
      have here : file.1 = name.text ↔ name = found := by
        rw [← MigrationName.text_of_parse parsed]
        exact ⟨fun same => MigrationName.text_injective same.symm, fun same => by rw [same]⟩
      change name ∈ found :: names _ ↔ _
      simp only [List.mem_cons, exists_eq_or_imp, here, ih]

/-! ## Several directories -/

/-- Each of the directories that are read is read. -/
theorem exists_scripts_of_mem (read : base.mapM (scripts tree) = .ok layers)
    (member : directory ∈ base) : ∃ entries ∈ layers, scripts tree directory = .ok entries := by
  rw [mapM_eq_ok_iff] at read
  induction read with
  | nil => cases member
  | cons first _ ih =>
      rcases List.mem_cons.mp member with rfl | later
      · exact ⟨_, List.mem_cons_self, first⟩
      · obtain ⟨entries, listed, read⟩ := ih later
        exact ⟨entries, List.mem_cons_of_mem _ listed, read⟩

/-- The names that are read in several directories are those of their files. -/
theorem mem_names_flatten_iff (read : base.mapM (scripts tree) = .ok layers) :
    name ∈ names layers.flatten ↔ ∃ directory ∈ base, tree.Lists directory name.text := by
  rw [mapM_eq_ok_iff] at read
  induction read with
  | nil => simp [names]
  | cons first _ ih =>
      rw [List.flatten_cons, names_append, List.mem_append, ih, mem_names_of_scripts first]
      simp only [List.mem_cons, exists_eq_or_imp]

/-- When no name repeats, a name is listed in one directory only. -/
theorem eq_of_lists (read : base.mapM (scripts tree) = .ok layers)
    (distinct : (names layers.flatten).Nodup) {other : String} (member : directory ∈ base)
    (member' : other ∈ base) (listed : tree.Lists directory name.text)
    (listed' : tree.Lists other name.text) : directory = other := by
  rw [mapM_eq_ok_iff] at read
  induction read with
  | nil => cases member
  | @cons head _ _ _ first later ih =>
      rw [List.flatten_cons, names_append, List.nodup_append] at distinct
      obtain ⟨-, once, apart⟩ := distinct
      have alone : ∀ behind ∈ _, tree.Lists head name.text → ¬ tree.Lists behind name.text :=
        fun behind further listed listed' =>
          apart name ((mem_names_of_scripts first).mpr listed) name
            ((mem_names_flatten_iff (mapM_eq_ok_iff.mpr later)).mpr ⟨behind, further, listed'⟩) rfl
      rcases List.mem_cons.mp member with rfl | behind <;>
        rcases List.mem_cons.mp member' with same | behind'
      · exact same.symm
      · exact absurd listed' (alone _ behind' listed)
      · subst same
        exact absurd listed (alone _ behind listed')
      · exact ih once behind behind'

/-! ## Base directories -/

theorem named?_eq_none_iff : named? found name = none ↔ name ∉ names found := by
  simp [named?, names]

theorem addBase_eq_ok_iff (distinct : (names found).Nodup) :
    addBase found entries = .ok all ↔
      all = found ++ entries ∧ (names (found ++ entries)).Nodup := by
  induction entries generalizing found with
  | nil => simp [addBase, distinct, eq_comm]
  | cons entry rest ih =>
      rw [addBase]
      cases known : named? found entry.migration.name with
      | some first =>
          have repeated : entry.migration.name ∈ names found := by
            by_contra fresh
            rw [named?_eq_none_iff.mpr fresh] at known
            cases known
          simp only [reduceCtorEq, false_iff]
          rintro ⟨_, apart⟩
          rw [names_append, List.nodup_append] at apart
          exact apart.2.2 _ repeated _ List.mem_cons_self rfl
      | none =>
          have fresh := named?_eq_none_iff.mp known
          have longer : (names (found ++ [entry])).Nodup := by
            rw [names_append]
            exact List.nodup_append.mpr ⟨distinct, List.nodup_singleton _, by
              rintro a member b here rfl
              rw [names, List.map_singleton, List.mem_singleton] at here
              exact fresh (here ▸ member)⟩
          rw [ih longer, List.append_assoc, List.singleton_append]

/-- The base directories can be read when each of them can and no name repeats. -/
theorem readBase_eq_ok_iff (distinct : (names found).Nodup) :
    readBase tree found base = .ok all ↔
      ∃ layers, base.mapM (scripts tree) = .ok layers ∧ all = found ++ layers.flatten ∧
        (names all).Nodup := by
  induction base generalizing found with
  | nil =>
      simp only [readBase, List.mapM_nil, pure, Except.pure, Except.ok.injEq, exists_eq_left']
      constructor
      · rintro rfl
        simpa using distinct
      · rintro ⟨rfl, -⟩
        simp
  | cons directory rest ih =>
      simp only [readBase, List.mapM_cons, bind_eq_ok_iff, pure, Except.pure, Except.ok.injEq]
      constructor
      · rintro ⟨entries, read, added, adds, later⟩
        obtain ⟨rfl, apart⟩ := (addBase_eq_ok_iff distinct).mp adds
        obtain ⟨layers, mapped, rfl, once⟩ := (ih apart).mp later
        exact ⟨entries :: layers, ⟨entries, read, layers, mapped, rfl⟩, by simp, once⟩
      · rintro ⟨_, ⟨entries, read, layers, mapped, rfl⟩, rfl, once⟩
        have flat : found ++ (entries :: layers).flatten = found ++ entries ++ layers.flatten := by
          simp
        have apart : (names (found ++ entries)).Nodup := by
          rw [flat, names_append] at once
          exact (List.nodup_append.mp once).1
        exact ⟨entries, read, _, (addBase_eq_ok_iff distinct).mpr ⟨rfl, apart⟩,
          (ih apart).mpr ⟨layers, mapped, flat, once⟩⟩

/-! ## Override directories -/

theorem names_override (found : List Found) (entry : Found) :
    names (override found entry) =
      (names found).filter (· != entry.migration.name) ++ [entry.migration.name] := by
  rw [override, names_append]
  simp [names, List.filter_map, Function.comp_def]

theorem nodup_names_foldl_override (distinct : (names found).Nodup) (entries : List Found) :
    (names (entries.foldl override found)).Nodup := by
  induction entries generalizing found with
  | nil => exact distinct
  | cons entry rest ih =>
      refine ih ?_
      rw [names_override]
      refine List.nodup_append.mpr ⟨distinct.filter _, List.nodup_singleton _, ?_⟩
      rintro a kept b here rfl
      rw [List.mem_singleton] at here
      simpa [here] using (List.mem_filter.mp kept).2

theorem mem_names_foldl_override (found entries : List Found) :
    name ∈ names (entries.foldl override found) ↔ name ∈ names found ∨ name ∈ names entries := by
  induction entries generalizing found with
  | nil => simp [names]
  | cons entry rest ih =>
      have both : name ∈ names (entry :: rest) ↔ name = entry.migration.name ∨ name ∈ names rest :=
        List.mem_cons
      rw [List.foldl_cons, ih, names_override, List.mem_append, List.mem_filter,
        List.mem_singleton, bne_iff_ne, both]
      tauto

/-- Selecting scripts by name commutes with overriding. -/
theorem filter_foldl_override (keep : MigrationName → Bool) (found entries : List Found) :
    (entries.foldl override found).filter (fun other => keep other.migration.name) =
      (entries.filter fun other => keep other.migration.name).foldl override
        (found.filter fun other => keep other.migration.name) := by
  induction entries generalizing found with
  | nil => rfl
  | cons entry rest ih =>
      rw [List.foldl_cons, ih, List.filter_cons]
      split_ifs with kept
      · rw [List.foldl_cons, override, override, List.filter_append, List.filter_filter,
          List.filter_filter]
        simp [kept, Bool.and_comm]
      · -- Whatever the entry replaces is not selected either.
        have same : (override found entry).filter (fun other => keep other.migration.name) =
            found.filter fun other => keep other.migration.name := by
          have replaced : ∀ other ∈ found, (keep other.migration.name &&
              (other.migration.name != entry.migration.name)) = keep other.migration.name := by
            intro other _
            by_cases one : other.migration.name = entry.migration.name
            · simp [one, kept]
            · simp [one]
          rw [override, List.filter_append, List.filter_filter, List.filter_congr replaced]
          simp [kept]
        rw [same]

theorem readOverrides_eq_ok_iff : readOverrides tree found overrides = .ok all ↔
    ∃ layers, overrides.mapM (scripts tree) = .ok layers ∧
      all = layers.flatten.foldl override found := by
  induction overrides generalizing found with
  | nil => simp [readOverrides, pure, Except.pure, eq_comm]
  | cons directory rest ih =>
      simp only [readOverrides, List.mapM_cons, bind_eq_ok_iff, pure, Except.pure,
        Except.ok.injEq, ih]
      constructor
      · rintro ⟨entries, read, layers, mapped, rfl⟩
        exact ⟨entries :: layers, ⟨entries, read, layers, mapped, rfl⟩, by simp⟩
      · rintro ⟨_, ⟨entries, read, layers, mapped, rfl⟩, rfl⟩
        exact ⟨entries, read, layers, mapped, by simp⟩

/-- What base and override directories offer: all directories can be read, the base
directories do not repeat a name, and the scripts of the override directories take the
places of those with their names. -/
theorem directories_eq_ok_iff : directories tree base overrides = .ok offered ↔
    ∃ lower upper, base.mapM (scripts tree) = .ok lower ∧
      overrides.mapM (scripts tree) = .ok upper ∧ (names lower.flatten).Nodup ∧
      offered = Migration.sort
        ((upper.flatten.foldl override lower.flatten).map Found.migration) := by
  have none : (names []).Nodup := List.nodup_nil
  simp only [directories, bind_eq_ok_iff, pure, Except.pure, Except.ok.injEq,
    readBase_eq_ok_iff none, readOverrides_eq_ok_iff, List.nil_append]
  constructor
  · rintro ⟨_, ⟨lower, readLower, rfl, once⟩, _, ⟨upper, readUpper, rfl⟩, rfl⟩
    exact ⟨lower, upper, readLower, readUpper, once, rfl⟩
  · rintro ⟨lower, upper, readLower, readUpper, once, rfl⟩
    exact ⟨_, ⟨lower, readLower, rfl, once⟩, _, ⟨upper, readUpper, rfl⟩, rfl⟩

/-- The names that scripts are offered under. -/
theorem perm_names_sort (found : List Found) :
    ((Migration.sort (found.map Found.migration)).map Migration.name).Perm (names found) := by
  rw [names, ← Function.comp_def Migration.name Found.migration, ← List.map_map]
  exact (Migration.perm_sort _).map _

/-- Directories offer each name once. -/
theorem nodup_names_of_directories (read : directories tree base overrides = .ok offered) :
    (offered.map Migration.name).Nodup := by
  obtain ⟨lower, upper, -, -, distinct, rfl⟩ := directories_eq_ok_iff.mp read
  exact (perm_names_sort _).nodup_iff.mpr (nodup_names_foldl_override distinct _)

end Source

end MigrationLedger
