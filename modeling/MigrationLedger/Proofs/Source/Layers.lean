/-
# Layers of directories

Base directories share their names out among them: a name that two of them list is an
error. Override directories are laid on top, one after another, and each of them hides what
lies below it. The module says what is left to be seen. A name has the script of the last
override directory that lists it, or else that of its base directory, and every name that is
listed anywhere has one.

A directory may list its files in any order. What is offered is decided by which directory
holds what, so neither that order nor the order of the base directories can be told from it.
-/

import MigrationLedger.Proofs.Runner.Success
import MigrationLedger.Proofs.Source.Offers
import MigrationLedger.Proofs.Text.ByteOrder

namespace MigrationLedger

namespace FileTree

variable {tree other : FileTree} {directory name text : String} {place : List String}

/-! ## Directories of scripts -/

/-- A directory holds a file of this name with this text. -/
def Holds (tree : FileTree) (directory name text : String) : Prop :=
  ∃ files, tree.files? directory = some files ∧
    ∃ file ∈ files, file.1 = name ∧ file.2.text? = some text

/-- The directory can be read. It has one file of a name, and its files can be migrations:
their names are fit, and they hold texts. -/
def HoldsScripts (tree : FileTree) (directory : String) : Prop :=
  ∃ files, tree.files? directory = some files ∧ (files.map Prod.fst).Nodup ∧
    ∀ file ∈ files, MigrationName.problem? file.1 = none ∧ ∃ text, file.2.text? = some text

/-- The other tree lists the same files in a directory, in some order. -/
def Relists (other tree : FileTree) (directory : String) : Prop :=
  ∃ files relisted, tree.files? directory = some files ∧
    other.files? directory = some relisted ∧ relisted.Perm files

namespace Relists

theorem lists_iff (relists : other.Relists tree directory) :
    other.Lists directory name ↔ tree.Lists directory name := by
  obtain ⟨files, relisted, listed, again, perm⟩ := relists
  simp [Lists, listed, again, perm.mem_iff]

theorem holds_iff (relists : other.Relists tree directory) :
    other.Holds directory name text ↔ tree.Holds directory name text := by
  obtain ⟨files, relisted, listed, again, perm⟩ := relists
  simp [Holds, listed, again, perm.mem_iff]

theorem holdsScripts (relists : other.Relists tree directory)
    (scripts : tree.HoldsScripts directory) : other.HoldsScripts directory := by
  obtain ⟨files, relisted, listed, again, perm⟩ := relists
  obtain ⟨_, same, distinct, fit⟩ := scripts
  obtain rfl := Option.some.inj (listed.symm.trans same)
  exact ⟨relisted, again, ((perm.map _).nodup_iff).mpr distinct,
    fun file member => fit file (perm.mem_iff.mp member)⟩

end Relists

/-! ## One file of a name -/

/-- No place has two nodes. -/
def Unambiguous (tree : FileTree) : Prop := (tree.nodes.map Prod.fst).Nodup

theorem eq_of_fileIn? {directory : List String} {entry : List String × FileNode}
    {file : String × FileNode} (found : fileIn? directory entry = some file) :
    entry.1 = directory ++ [file.1] := by
  rw [fileIn?] at found
  split at found
  · rename_i name last
    obtain ⟨inside, same⟩ := Option.ite_none_right_eq_some.mp found
    obtain ⟨-, within⟩ := Bool.and_eq_true_iff.mp inside
    rw [← Option.some.inj same, ← eq_of_beq within]
    exact (List.dropLast_append_getLast? _ last).symm
  · cases found

/-- In such a tree a directory has one file of a name. -/
theorem Unambiguous.nodup_files (single : tree.Unambiguous)
    {files : List (String × FileNode)} (listed : tree.files? directory = some files) :
    (files.map Prod.fst).Nodup := by
  obtain ⟨place, -, -, rfl⟩ := files?_eq_some_iff.mp listed
  refine List.pairwise_map.mpr (List.pairwise_filterMap.mpr ?_)
  refine (List.pairwise_map.mp single).imp ?_
  intro first second apart file found file' found' same
  exact apart (by rw [eq_of_fileIn? found, eq_of_fileIn? found', same])

/-- The directories on the way to a place are shorter and shorter. -/
theorem nodup_ancestors (place : List String) : (ancestors place).Nodup := by
  rw [ancestors]
  refine List.pairwise_filterMap.mpr (List.pairwise_lt_range.imp_of_mem ?_)
  intro short long below within less shorter taken longer taken' same
  rw [List.mem_range] at below within
  split_ifs at taken taken'
  have lengths := congrArg List.length
    ((Option.some.inj taken).trans (same.trans (Option.some.inj taken').symm))
  rw [List.length_take, List.length_take] at lengths
  omega

theorem length_of_mem_ancestors {shorter : List String} (member : shorter ∈ ancestors place) :
    0 < shorter.length ∧ shorter.length < place.length := by
  rw [ancestors, List.mem_filterMap] at member
  obtain ⟨n, below, taken⟩ := member
  rw [List.mem_range] at below
  split_ifs at taken
  rw [← Option.some.inj taken, List.length_take]
  omega

/-- A tree that is put together node by node stays unambiguous. -/
theorem Unambiguous.put (single : tree.Unambiguous) (place : List String) (node : FileNode) :
    (tree.put place node).Unambiguous := by
  have missing : ((((ancestors place).filter fun place => (tree.node? place).isNone).map
      (·, FileNode.directory)).map Prod.fst) =
        (ancestors place).filter fun place => (tree.node? place).isNone := by
    simp [Function.comp_def]
  rw [Unambiguous, FileTree.put, List.map_append, List.map_append, missing, List.map_singleton]
  refine List.nodup_append.mpr ⟨List.nodup_append.mpr ⟨?_, (nodup_ancestors place).filter _, ?_⟩,
    List.nodup_singleton _, ?_⟩
  · exact single.sublist (List.filter_sublist.map _)
  · -- What is missing on the way did not stand there.
    rintro stood member absent free rfl
    obtain ⟨entry, kept, rfl⟩ := List.mem_map.mp member
    obtain ⟨-, none⟩ := List.mem_filter.mp free
    exact ne_of_node?_eq_none (Option.isNone_iff_eq_none.mp none) (List.mem_filter.mp kept).1 rfl
  · rintro stood member _ here rfl
    rw [List.mem_singleton] at here
    rcases List.mem_append.mp member with kept | way
    · obtain ⟨entry, stays, same⟩ := List.mem_map.mp kept
      simpa [same, here] using (List.mem_filter.mp stays).2
    · have shorter := (length_of_mem_ancestors (List.mem_filter.mp way).1).2
      rw [here] at shorter
      exact Nat.lt_irrefl _ shorter

end FileTree

namespace Source

variable {tree other : FileTree} {found entries all : List Found} {layers : List (List Found)}
  {entry : Found} {name : MigrationName} {base overrides reordered : List String}
  {directory text : String} {offered : List Migration} {migration : Migration} {failure : Failure}

/-! ## One directory -/

theorem exists_scripts (fit : tree.HoldsScripts directory) :
    ∃ entries, scripts tree directory = .ok entries := by
  obtain ⟨files, listed, -, fit⟩ := fit
  rw [scripts, listed]
  refine exists_mapM_eq_ok fun file member => ?_
  obtain ⟨sound, text, holds⟩ := fit file member
  exact ⟨_, script_eq_ok_iff.mpr ⟨⟨file.1, sound⟩, text, MigrationName.parse_text ⟨file.1, sound⟩,
    holds, rfl⟩⟩

theorem exists_layers (fit : ∀ directory ∈ base, tree.HoldsScripts directory) :
    ∃ layers, base.mapM (scripts tree) = .ok layers :=
  exists_mapM_eq_ok fun directory member => exists_scripts (fit directory member)

/-- Scripts are read with the names of their files. -/
theorem texts_of_scripts {files : List (String × FileNode)}
    (listed : tree.files? directory = some files) (read : scripts tree directory = .ok entries) :
    (names entries).map MigrationName.text = files.map Prod.fst := by
  obtain ⟨_, same, each⟩ := scripts_eq_ok_iff.mp read
  obtain rfl := Option.some.inj (listed.symm.trans same)
  clear listed same read
  induction each with
  | nil => rfl
  | cons first _ ih =>
      obtain ⟨found, text, parsed, -, rfl⟩ := script_eq_ok_iff.mp first
      rw [names, List.map_cons, List.map_cons, List.map_cons, ← MigrationName.text_of_parse parsed]
      exact congrArg _ ih

theorem nodup_names_of_scripts (fit : tree.HoldsScripts directory)
    (read : scripts tree directory = .ok entries) : (names entries).Nodup := by
  obtain ⟨files, listed, distinct, -⟩ := fit
  rw [← texts_of_scripts listed read] at distinct
  exact distinct.of_map _

/-- What is read in a directory is what it holds. -/
theorem exists_mem_iff_holds (read : scripts tree directory = .ok entries) :
    (∃ entry ∈ entries, entry.migration = migration) ↔
      tree.Holds directory migration.name.text migration.script := by
  obtain ⟨files, listed, each⟩ := scripts_eq_ok_iff.mp read
  simp only [FileTree.Holds, listed, Option.some.injEq, exists_eq_left']
  clear listed read
  induction each with
  | nil => simp
  | @cons file entry _ _ first _ ih =>
      obtain ⟨found, text, parsed, holds, rfl⟩ := script_eq_ok_iff.mp first
      have here : file.1 = migration.name.text ∧ file.2.text? = some migration.script ↔
          (⟨found, text⟩ : Migration) = migration := by
        obtain ⟨name, script⟩ := migration
        rw [← MigrationName.text_of_parse parsed, MigrationName.text_injective.eq_iff, holds]
        simp
      simp only [List.mem_cons, exists_eq_or_imp, ih, here]

/-! ## Names in two places -/

/-- Two places among the directories list one name. -/
def Repeats (tree : FileTree) (base : List String) : Prop :=
  ∃ (i j : Nat) (first second : String) (name : MigrationName), i < j ∧ base[i]? = some first ∧
    base[j]? = some second ∧ tree.Lists first name.text ∧ tree.Lists second name.text

/-- The directories list no name together. -/
def Apart (tree : FileTree) (first second : String) : Prop :=
  ∀ name : MigrationName, tree.Lists first name.text → ¬ tree.Lists second name.text

theorem not_repeats_iff : ¬ Repeats tree base ↔ base.Pairwise (Apart tree) := by
  rw [List.pairwise_iff_getElem]
  constructor
  · intro once i j below within before name listed again
    exact once ⟨i, j, _, _, name, before, List.getElem?_eq_getElem below,
      List.getElem?_eq_getElem within, listed, again⟩
  · rintro apart ⟨i, j, first, second, name, before, at_i, at_j, listed, again⟩
    obtain ⟨below, rfl⟩ := List.getElem?_eq_some_iff.mp at_i
    obtain ⟨within, rfl⟩ := List.getElem?_eq_some_iff.mp at_j
    exact apart i j below within before name listed again

/-- The names that are read repeat exactly when two places list one. -/
theorem nodup_names_flatten_iff (read : base.mapM (scripts tree) = .ok layers)
    (fit : ∀ directory ∈ base, tree.HoldsScripts directory) :
    (names layers.flatten).Nodup ↔ ¬ Repeats tree base := by
  rw [not_repeats_iff]
  rw [mapM_eq_ok_iff] at read
  induction read with
  | nil => simp [names]
  | @cons directory entries rest later first mapped ih =>
      rw [List.forall_mem_cons] at fit
      have once := nodup_names_of_scripts fit.1 first
      have disjoint : (∀ name ∈ names entries, ∀ again ∈ names later.flatten, name ≠ again) ↔
          ∀ behind ∈ rest, Apart tree directory behind := by
        simp only [mem_names_of_scripts first, mem_names_flatten_iff (mapM_eq_ok_iff.mpr mapped)]
        constructor
        · intro distinct behind member name listed again
          exact distinct name listed name ⟨behind, member, again⟩ rfl
        · rintro apart name listed _ ⟨behind, member, again⟩ rfl
          exact apart behind member name listed again
      rw [List.flatten_cons, names_append, List.nodup_append, List.pairwise_cons, disjoint,
        ih fit.2]
      exact ⟨fun all => ⟨all.2.2, all.2.1⟩, fun all => ⟨once, all.2, all.1⟩⟩

/-! ## Base directories that cannot be put together -/

theorem exists_duplicate_of_addBase (fails : addBase found entries = .error failure) :
    ∃ name first second, failure = .duplicate name first second := by
  induction entries generalizing found with
  | nil => cases fails
  | cons entry rest ih =>
      rw [addBase] at fails
      cases known : named? found entry.migration.name with
      | some first =>
          rw [known] at fails
          cases fails
          exact ⟨_, _, _, rfl⟩
      | none =>
          rw [known] at fails
          exact ih fails

/-- Base directories that can each be read fail together for a duplicate only. -/
theorem exists_duplicate_of_readBase (read : base.mapM (scripts tree) = .ok layers)
    (fails : readBase tree found base = .error failure) :
    ∃ name first second, failure = .duplicate name first second := by
  rw [mapM_eq_ok_iff] at read
  induction read generalizing found with
  | nil => cases fails
  | cons first _ ih =>
      rw [readBase, first] at fails
      simp only [bind, Except.bind] at fails
      split at fails
      · rename_i adds
        cases fails
        exact exists_duplicate_of_addBase adds
      · exact ih fails

/-- Directories that can each be read fail together for a duplicate only. -/
theorem exists_duplicate_of_directories
    (fit : ∀ directory ∈ base ++ overrides, tree.HoldsScripts directory)
    (fails : directories tree base overrides = .error failure) :
    ∃ name first second, failure = .duplicate name first second := by
  rw [List.forall_mem_append] at fit
  obtain ⟨lower, readLower⟩ := exists_layers fit.1
  obtain ⟨upper, readUpper⟩ := exists_layers fit.2
  rw [directories] at fails
  cases built : readBase tree [] base with
  | error reason =>
      rw [built] at fails
      cases fails
      exact exists_duplicate_of_readBase readLower built
  | ok found =>
      have covered : readOverrides tree found overrides =
          .ok (upper.flatten.foldl override found) :=
        readOverrides_eq_ok_iff.mpr ⟨upper, readUpper, rfl⟩
      rw [built] at fails
      simp only [bind, Except.bind, covered] at fails
      cases fails

/-- Directories that can each be read are put together unless a name repeats. -/
theorem exists_directories_iff
    (fit : ∀ directory ∈ base ++ overrides, tree.HoldsScripts directory) :
    (∃ offered, directories tree base overrides = .ok offered) ↔ ¬ Repeats tree base := by
  have both := List.forall_mem_append.mp fit
  obtain ⟨lower, readLower⟩ := exists_layers both.1
  obtain ⟨upper, readUpper⟩ := exists_layers both.2
  rw [← nodup_names_flatten_iff readLower both.1]
  constructor
  · rintro ⟨offered, read⟩
    obtain ⟨_, _, again, -, once, -⟩ := directories_eq_ok_iff.mp read
    obtain rfl := Except.ok.inj (readLower.symm.trans again)
    exact once
  · intro once
    exact ⟨_, directories_eq_ok_iff.mpr ⟨lower, upper, readLower, readUpper, once, rfl⟩⟩

/-! ## What is left to be seen -/

/-- One layer on top: its scripts are seen, and of those below the ones it does not name. -/
theorem mem_foldl_override_iff (once : (names entries).Nodup) :
    entry ∈ entries.foldl override found ↔
      entry ∈ entries ∨ entry ∈ found ∧ entry.migration.name ∉ names entries := by
  induction entries generalizing found with
  | nil => simp [names]
  | cons top rest ih =>
      have cut : names (top :: rest) = top.migration.name :: names rest := rfl
      rw [cut, List.nodup_cons] at once
      have below : entry ∈ override found top ↔
          entry ∈ found ∧ entry.migration.name ≠ top.migration.name ∨ entry = top := by
        simp [override]
      rw [List.foldl_cons, ih once.2, below, cut, List.mem_cons, List.mem_cons, not_or]
      constructor
      · rintro (later | ⟨⟨seen, other⟩ | rfl, hidden⟩)
        · exact .inl (.inr later)
        · exact .inr ⟨seen, other, hidden⟩
        · exact .inl (.inl rfl)
      · rintro ((rfl | later) | ⟨seen, other, hidden⟩)
        · exact .inr ⟨.inr rfl, once.1⟩
        · exact .inl later
        · exact .inr ⟨.inl ⟨seen, other⟩, hidden⟩

/-- The directory is the last of several that lists a name. -/
def LastLists (tree : FileTree) (overrides : List String) (directory name : String) : Prop :=
  ∃ front back, overrides = front ++ directory :: back ∧ tree.Lists directory name ∧
    ∀ later ∈ back, ¬ tree.Lists later name

theorem LastLists.mem {name : String} (last : LastLists tree overrides directory name) :
    directory ∈ overrides := by
  obtain ⟨front, back, rfl, -⟩ := last
  exact List.mem_append_right _ List.mem_cons_self

theorem lastLists_cons_iff {first : String} {name : String} :
    LastLists tree (first :: overrides) directory name ↔
      (directory = first ∧ tree.Lists first name ∧ ∀ later ∈ overrides, ¬ tree.Lists later name) ∨
        LastLists tree overrides directory name := by
  constructor
  · rintro ⟨_ | ⟨_, front⟩, back, split, listed, last⟩
    · cases split
      exact .inl ⟨rfl, listed, last⟩
    · cases split
      exact .inr ⟨front, back, rfl, listed, last⟩
  · rintro (⟨rfl, listed, last⟩ | ⟨front, back, rfl, listed, last⟩)
    · exact ⟨[], overrides, rfl, listed, last⟩
    · exact ⟨first :: front, back, rfl, listed, last⟩

/-- Several layers on top: each name is seen as the last directory that lists it has it. -/
theorem mem_foldl_override_flatten_iff (read : overrides.mapM (scripts tree) = .ok layers)
    (fit : ∀ directory ∈ overrides, tree.HoldsScripts directory) :
    entry ∈ layers.flatten.foldl override found ↔
      (∃ directory entries, LastLists tree overrides directory entry.migration.name.text ∧
        scripts tree directory = .ok entries ∧ entry ∈ entries) ∨
      entry ∈ found ∧
        ∀ directory ∈ overrides, ¬ tree.Lists directory entry.migration.name.text := by
  rw [mapM_eq_ok_iff] at read
  induction read generalizing found with
  | nil => simp [LastLists]
  | @cons first entries rest later mapped _ ih =>
      rw [List.forall_mem_cons] at fit
      have once := nodup_names_of_scripts fit.1 mapped
      rw [List.flatten_cons, List.foldl_append, ih fit.2, mem_foldl_override_iff once,
        mem_names_of_scripts mapped]
      simp only [lastLists_cons_iff, List.forall_mem_cons]
      constructor
      · rintro (⟨directory, read, last, same, member⟩ | ⟨here | ⟨below, hidden⟩, unlisted⟩)
        · exact .inl ⟨directory, read, .inr last, same, member⟩
        · have listed := (mem_names_of_scripts mapped).mp (List.mem_map_of_mem here)
          exact .inl ⟨first, entries, .inl ⟨rfl, listed, unlisted⟩, mapped, here⟩
        · exact .inr ⟨below, hidden, unlisted⟩
      · rintro (⟨directory, read, ⟨rfl, -, unlisted⟩ | last, same, member⟩ |
          ⟨below, hidden, unlisted⟩)
        · obtain rfl := Except.ok.inj (mapped.symm.trans same)
          exact .inr ⟨.inl member, unlisted⟩
        · exact .inl ⟨directory, read, last, same, member⟩
        · exact .inr ⟨.inr ⟨below, hidden⟩, unlisted⟩

/-- Where the script of a name comes from: the last override directory that lists the name,
or a base directory when none of them does. -/
inductive Stands (tree : FileTree) (base overrides : List String) (name text : String) : Prop
  | above {directory : String} (last : LastLists tree overrides directory name)
      (holds : tree.Holds directory name text) : Stands tree base overrides name text
  | below {directory : String} (member : directory ∈ base)
      (holds : tree.Holds directory name text)
      (bare : ∀ above ∈ overrides, ¬ tree.Lists above name) : Stands tree base overrides name text

/-- What is read in several directories is what one of them holds. -/
theorem exists_mem_flatten_iff (read : base.mapM (scripts tree) = .ok layers) :
    (∃ entry ∈ layers.flatten, entry.migration = migration) ↔
      ∃ directory ∈ base, tree.Holds directory migration.name.text migration.script := by
  rw [mapM_eq_ok_iff] at read
  induction read with
  | nil => simp
  | cons first _ ih =>
      simp only [List.flatten_cons, List.mem_append, or_and_right, exists_or, List.mem_cons,
        exists_eq_left, exists_mem_iff_holds first, ih]

/-- What is offered is what stands. -/
theorem mem_directories_iff
    (fit : ∀ directory ∈ base ++ overrides, tree.HoldsScripts directory)
    (read : directories tree base overrides = .ok offered) :
    migration ∈ offered ↔
      Stands tree base overrides migration.name.text migration.script := by
  rw [List.forall_mem_append] at fit
  obtain ⟨lower, upper, readLower, readUpper, -, rfl⟩ := directories_eq_ok_iff.mp read
  rw [(Migration.perm_sort _).mem_iff, List.mem_map]
  simp only [mem_foldl_override_flatten_iff readUpper fit.2]
  constructor
  · rintro ⟨entry, ⟨directory, entries, last, same, member⟩ | ⟨member, bare⟩, rfl⟩
    · exact .above last ((exists_mem_iff_holds same).mp ⟨entry, member, rfl⟩)
    · obtain ⟨directory, inside, holds⟩ :=
        (exists_mem_flatten_iff readLower).mp ⟨entry, member, rfl⟩
      exact .below inside holds bare
  · intro stands
    cases stands with
    | @above directory last holds =>
      obtain ⟨entries, same⟩ := exists_scripts (fit.2 directory last.mem)
      obtain ⟨entry, member, rfl⟩ := (exists_mem_iff_holds same).mpr holds
      exact ⟨entry, .inl ⟨directory, entries, last, same, member⟩, rfl⟩
    | below member holds bare =>
      obtain ⟨entry, inside, rfl⟩ := (exists_mem_flatten_iff readLower).mpr ⟨_, member, holds⟩
      exact ⟨entry, .inr ⟨inside, bare⟩, rfl⟩

/-- Every name that is listed anywhere is offered. -/
theorem mem_names_directories_iff (read : directories tree base overrides = .ok offered) :
    name ∈ offered.map Migration.name ↔
      ∃ directory ∈ base ++ overrides, tree.Lists directory name.text := by
  obtain ⟨lower, upper, readLower, readUpper, -, rfl⟩ := directories_eq_ok_iff.mp read
  rw [(perm_names_sort _).mem_iff, mem_names_foldl_override, mem_names_flatten_iff readLower,
    mem_names_flatten_iff readUpper]
  simp only [List.mem_append, or_and_right, exists_or]

/-- What is offered stands in strictly ascending order. -/
theorem pairwise_before_of_directories (read : directories tree base overrides = .ok offered) :
    offered.Pairwise Migration.Before := by
  obtain ⟨lower, upper, -, -, distinct, rfl⟩ := directories_eq_ok_iff.mp read
  have once := nodup_names_foldl_override distinct upper.flatten
  rw [names, ← Function.comp_def Migration.name Found.migration, ← List.map_map] at once
  exact Migration.pairwise_before_sort once

/-! ## The same directories in another order -/

theorem not_repeats_of_relists (relists : ∀ directory ∈ base, other.Relists tree directory)
    (perm : reordered.Perm base) (once : ¬ Repeats tree base) : ¬ Repeats other reordered := by
  rw [not_repeats_iff] at once ⊢
  have symmetric {first second : String} (apart : Apart other first second) :
      Apart other second first :=
    fun name listed again => apart name again listed
  rw [perm.pairwise_iff symmetric]
  refine once.imp_of_mem fun {first second} inFirst inSecond apart name listed again => ?_
  exact apart name ((relists first inFirst).lists_iff.mp listed)
    ((relists second inSecond).lists_iff.mp again)

theorem lastLists_iff_of_relists {name : String}
    (relists : ∀ directory ∈ overrides, other.Relists tree directory) :
    LastLists other overrides directory name ↔ LastLists tree overrides directory name := by
  refine exists_congr fun front => exists_congr fun back => and_congr_right ?_
  rintro rfl
  rw [List.forall_mem_append, List.forall_mem_cons] at relists
  exact and_congr relists.2.1.lists_iff
    (forall₂_congr fun later member => not_congr (relists.2.2 later member).lists_iff)

theorem stands_iff_of_relists {name : String}
    (relists : ∀ directory ∈ base ++ overrides, other.Relists tree directory)
    (perm : reordered.Perm base) :
    Stands other reordered overrides name text ↔ Stands tree base overrides name text := by
  rw [List.forall_mem_append] at relists
  have bare : (∀ above ∈ overrides, ¬ other.Lists above name) ↔
      ∀ above ∈ overrides, ¬ tree.Lists above name :=
    forall₂_congr fun above member => not_congr (relists.2 above member).lists_iff
  constructor
  · intro stands
    cases stands with
    | above last holds =>
      exact .above ((lastLists_iff_of_relists relists.2).mp last)
        ((relists.2 _ last.mem).holds_iff.mp holds)
    | below member holds unlisted =>
      rw [perm.mem_iff] at member
      exact .below member ((relists.1 _ member).holds_iff.mp holds) (bare.mp unlisted)
  · intro stands
    cases stands with
    | above last holds =>
      exact .above ((lastLists_iff_of_relists relists.2).mpr last)
        ((relists.2 _ last.mem).holds_iff.mpr holds)
    | below member holds unlisted =>
      exact .below (perm.mem_iff.mpr member) ((relists.1 _ member).holds_iff.mpr holds)
        (bare.mpr unlisted)

/-- Neither the order of files in directories nor that of base directories matters. -/
theorem directories_of_relists
    (fit : ∀ directory ∈ base ++ overrides, tree.HoldsScripts directory)
    (relists : ∀ directory ∈ base ++ overrides, other.Relists tree directory)
    (perm : reordered.Perm base) (read : directories tree base overrides = .ok offered) :
    directories other reordered overrides = .ok offered := by
  have both := perm.append_right overrides
  have fitOther : ∀ directory ∈ reordered ++ overrides, other.HoldsScripts directory :=
    fun directory member =>
      have inside := both.mem_iff.mp member
      (relists directory inside).holdsScripts (fit directory inside)
  have once := not_repeats_of_relists (List.forall_mem_append.mp relists).1 perm
    ((exists_directories_iff fit).mp ⟨offered, read⟩)
  obtain ⟨again, readOther⟩ := (exists_directories_iff fitOther).mpr once
  rw [readOther, Migration.eq_of_pairwise_before (pairwise_before_of_directories readOther)
    (pairwise_before_of_directories read) fun migration => ?_]
  rw [mem_directories_iff fitOther readOther, mem_directories_iff fit read,
    stands_iff_of_relists relists perm]

/-- **Layers of directories.** Take base and override directories that can be read and hold
scripts, one of each name. They fail together, for a duplicate, exactly when two places in
the list of base directories have a name in common. Otherwise they offer the names that any
of them lists, each once and in ascending order, and each with the script that stands: that
of the last override directory with the name, or that of the base directory with it when no
override directory has it. Neither the order in which directories list their files nor that
of the base directories makes a difference. -/
theorem directories_layered
    (fit : ∀ directory ∈ base ++ overrides, tree.HoldsScripts directory) :
    ((∃ name first second,
        directories tree base overrides = .error (.duplicate name first second)) ↔
      Repeats tree base) ∧
    (¬ Repeats tree base → ∃ offered, directories tree base overrides = .ok offered ∧
      (offered.Pairwise fun a b => Text.bytes a.name.text < Text.bytes b.name.text) ∧
      (∀ name, name ∈ offered.map Migration.name ↔
        ∃ directory ∈ base ++ overrides, tree.Lists directory name.text) ∧
      ∀ migration, migration ∈ offered ↔
        Stands tree base overrides migration.name.text migration.script) ∧
    ∀ (other : FileTree) (reordered : List String) (offered : List Migration),
      (∀ directory ∈ base ++ overrides, other.Relists tree directory) → reordered.Perm base →
      directories tree base overrides = .ok offered →
      directories other reordered overrides = .ok offered := by
  refine ⟨⟨?_, fun repeats => ?_⟩, fun once => ?_, fun other reordered offered relists perm read =>
    directories_of_relists fit relists perm read⟩
  · rintro ⟨name, first, second, fails⟩
    by_contra once
    obtain ⟨offered, read⟩ := (exists_directories_iff fit).mpr once
    cases fails.symm.trans read
  · cases read : directories tree base overrides with
    | error failure =>
      obtain ⟨name, first, second, rfl⟩ := exists_duplicate_of_directories fit read
      exact ⟨name, first, second, rfl⟩
    | ok offered => exact absurd repeats ((exists_directories_iff fit).mp ⟨offered, read⟩)
  · obtain ⟨offered, read⟩ := (exists_directories_iff fit).mpr once
    refine ⟨offered, read, ?_, fun name => mem_names_directories_iff read,
      fun migration => mem_directories_iff fit read⟩
    exact (pairwise_before_of_directories read).imp Text.bytes_lt_bytes_iff.mpr

open Runner (scriptName laterName)

/-- A file that holds the text `--`, and one that holds `;`. -/
def plain : FileNode := .file ⟨#[45, 45]⟩

@[inherit_doc plain]
def changed : FileNode := .file ⟨#[59]⟩

/-- Two directories without a common name, one that changes both of their scripts and one
that changes the first script back. -/
def cabinet : FileTree :=
  (((((⟨[], []⟩ : FileTree).put ["a", "001.sql"] plain).put ["b", "002.sql"] plain).put
    ["o", "001.sql"] changed).put ["o", "002.sql"] changed).put ["p", "001.sql"] plain

theorem unambiguous_cabinet : cabinet.Unambiguous := by
  have empty : (⟨[], []⟩ : FileTree).Unambiguous := List.nodup_nil
  exact ((((empty.put _ _).put _ _).put _ _).put _ _).put _ _

/-- The same files, put the other way round. -/
def refilled : FileTree :=
  (((((⟨[], []⟩ : FileTree).put ["p", "001.sql"] plain).put ["o", "002.sql"] changed).put
    ["o", "001.sql"] changed).put ["b", "002.sql"] plain).put ["a", "001.sql"] plain

theorem files_cabinet :
    cabinet.files? "a" = some [("001.sql", plain)] ∧
      cabinet.files? "b" = some [("002.sql", plain)] ∧
      cabinet.files? "o" = some [("001.sql", changed), ("002.sql", changed)] ∧
      cabinet.files? "p" = some [("001.sql", plain)] := by
  refine ⟨?_, ?_, ?_, ?_⟩ <;> rfl

theorem holdsScripts_cabinet :
    ∀ directory ∈ ["a", "b"] ++ ["o", "p"], cabinet.HoldsScripts directory := by
  obtain ⟨a, b, o, p⟩ := files_cabinet
  have first : MigrationName.problem? "001.sql" = none := by decide
  have second : MigrationName.problem? "002.sql" = none := by decide
  have texts : (∃ text, plain.text? = some text) ∧ ∃ text, changed.text? = some text :=
    ⟨⟨"--", by rfl⟩, ⟨";", by rfl⟩⟩
  simp only [List.cons_append, List.nil_append, List.forall_mem_cons]
  refine ⟨⟨_, a, unambiguous_cabinet.nodup_files a, ?_⟩,
    ⟨_, b, unambiguous_cabinet.nodup_files b, ?_⟩,
    ⟨_, o, unambiguous_cabinet.nodup_files o, ?_⟩,
    ⟨_, p, unambiguous_cabinet.nodup_files p, ?_⟩, by simp⟩ <;>
    simp [first, second, texts]

theorem relists_refilled :
    ∀ directory ∈ ["a", "b"] ++ ["o", "p"], refilled.Relists cabinet directory := by
  obtain ⟨a, b, o, p⟩ := files_cabinet
  simp only [List.cons_append, List.nil_append, List.forall_mem_cons]
  exact ⟨⟨_, _, a, rfl, .refl _⟩, ⟨_, _, b, rfl, .refl _⟩, ⟨_, _, o, rfl, .swap _ _ _⟩,
    ⟨_, _, p, rfl, .refl _⟩, by simp⟩

theorem directories_cabinet : directories cabinet ["a", "b"] ["o", "p"] =
    .ok [⟨scriptName, "--"⟩, ⟨laterName, ";"⟩] := by
  have lower : ["a", "b"].mapM (scripts cabinet) = .ok
      [[⟨"a/001.sql", ⟨scriptName, "--"⟩⟩], [⟨"b/002.sql", ⟨laterName, "--"⟩⟩]] := by rfl
  have upper : ["o", "p"].mapM (scripts cabinet) = .ok
      [[⟨"o/001.sql", ⟨scriptName, ";"⟩⟩, ⟨"o/002.sql", ⟨laterName, ";"⟩⟩],
        [⟨"p/001.sql", ⟨scriptName, "--"⟩⟩]] := by rfl
  have left : ([[⟨"o/001.sql", ⟨scriptName, ";"⟩⟩, ⟨"o/002.sql", ⟨laterName, ";"⟩⟩],
      [⟨"p/001.sql", ⟨scriptName, "--"⟩⟩]].flatten.foldl override
        [[⟨"a/001.sql", ⟨scriptName, "--"⟩⟩], [⟨"b/002.sql", ⟨laterName, "--"⟩⟩]].flatten).map
          Found.migration = [⟨laterName, ";"⟩, ⟨scriptName, "--"⟩] := by decide +kernel
  have after : Migration.notAfter ⟨laterName, ";"⟩ ⟨scriptName, "--"⟩ = false := by
    decide +kernel
  refine directories_eq_ok_iff.mpr ⟨_, _, lower, upper, by decide +kernel, ?_⟩
  rw [left]
  simp [Migration.sort, List.mergeSort, List.MergeSort.Internal.splitInTwo, after]

/-- A cabinet that is filled and read in another order offers the same. A drawer that is
opened twice spoils it. -/
theorem directories_layered_cabinet :
    (∀ directory ∈ ["a", "b"] ++ ["o", "p"], cabinet.HoldsScripts directory) ∧
      Stands cabinet ["a", "b"] ["o", "p"] "001.sql" "--" ∧
      Stands cabinet ["a", "b"] ["o", "p"] "002.sql" ";" ∧
      directories refilled ["b", "a"] ["o", "p"] =
        .ok [⟨scriptName, "--"⟩, ⟨laterName, ";"⟩] ∧
      Repeats cabinet ["a", "b", "a"] := by
  have read := directories_cabinet
  obtain ⟨fails, offers, again⟩ := directories_layered holdsScripts_cabinet
  have once : ¬ Repeats cabinet ["a", "b"] := fun repeats => by
    obtain ⟨name, first, second, spoiled⟩ := fails.mpr repeats
    cases spoiled.symm.trans read
  obtain ⟨offered, same, -, -, stands⟩ := offers once
  obtain rfl := Except.ok.inj (read.symm.trans same)
  have more : ∀ directory ∈ ["a", "b", "a"] ++ ["o", "p"], cabinet.HoldsScripts directory := by
    have each := holdsScripts_cabinet
    simp only [List.cons_append, List.nil_append, List.forall_mem_cons] at each ⊢
    exact ⟨each.1, each.2.1, each.1, each.2.2⟩
  exact ⟨holdsScripts_cabinet, (stands ⟨scriptName, "--"⟩).mp (by simp),
    (stands ⟨laterName, ";"⟩).mp (by simp),
    again refilled ["b", "a"] _ relists_refilled (.swap _ _ _) read,
    (directories_layered more).1.mp ⟨scriptName, "a/001.sql", "a/001.sql",
      by decide +kernel⟩⟩

end Source

end MigrationLedger
