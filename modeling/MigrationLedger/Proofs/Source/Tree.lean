/-
# Adding a file to a tree

A file that is put where nothing stood changes little: every path that led somewhere
leads to the same place, and a directory lists the same files as before, with the new
one behind them if it is the directory of the new file.
-/

import Mathlib.Data.List.Basic
import MigrationLedger.FileTree

namespace MigrationLedger.FileTree

variable {tree larger : FileTree} {place : List String} {path name : String} {bytes : ByteArray}
  {files : List (String × FileNode)}

/-! ## Larger trees -/

/-- The other tree has the same nodes, and possibly more. -/
structure Extends (larger tree : FileTree) : Prop where
  workingDirectory : larger.workingDirectory = tree.workingDirectory
  node? : ∀ {place node}, tree.node? place = some node → larger.node? place = some node

namespace Extends

theorem isDirectory (h : larger.Extends tree) (directory : tree.isDirectory place = true) :
    larger.isDirectory place = true := by
  rw [FileTree.isDirectory] at directory ⊢
  cases stands : tree.node? place with
  | none => simp [stands] at directory
  | some node =>
      rw [h.node? stands]
      rwa [stands] at directory

theorem follow (h : larger.Extends tree) {parts : List String} {last : List String}
    (leads : tree.follow place parts = some last) : larger.follow place parts = some last := by
  induction parts generalizing place with
  | nil => exact leads
  | cons part rest ih =>
      rw [FileTree.follow] at leads ⊢
      split_ifs at leads with noDirectory stays up stands
      · have directory := h.isDirectory (by simpa using noDirectory)
        rw [if_neg (by simp [directory]), if_pos stays]
        exact ih leads
      · have directory := h.isDirectory (by simpa using noDirectory)
        rw [if_neg (by simp [directory]), if_neg stays, if_pos up]
        exact ih leads
      · have directory := h.isDirectory (by simpa using noDirectory)
        obtain ⟨node, found⟩ := Option.isSome_iff_exists.mp stands
        rw [if_neg (by simp [directory]), if_neg stays, if_neg up,
          if_pos (by rw [h.node? found]; rfl)]
        exact ih leads

theorem place? (h : larger.Extends tree) (leads : tree.place? path = some place) :
    larger.place? path = some place := by
  rw [FileTree.place?] at leads ⊢
  rw [h.workingDirectory]
  split_ifs at leads ⊢
  · exact h.follow leads
  · exact h.follow leads

end Extends

/-! ## Putting a node where nothing stands -/

/-- A place where nothing stands is not the place of any entry. -/
theorem ne_of_node?_eq_none (free : tree.node? place = none) {entry : List String × FileNode}
    (member : entry ∈ tree.nodes) : entry.1 ≠ place := by
  rw [node?] at free
  split_ifs at free
  have other := List.lookup_eq_none_iff.mp free entry member
  exact (bne_iff_ne.mp other).symm

theorem nodes_put (free : tree.node? place = none) (node : FileNode) :
    (tree.put place node).nodes = tree.nodes ++
      ((ancestors place).filter fun place => (tree.node? place).isNone).map (·, .directory) ++
      [(place, node)] := by
  have kept : tree.nodes.filter (fun entry => entry.1 != place) = tree.nodes :=
    List.filter_eq_self.mpr fun entry member => by
      simpa using ne_of_node?_eq_none free member
  rw [put]
  simp only [kept]

theorem extends_put (free : tree.node? place = none) (node : FileNode) :
    (tree.put place node).Extends tree where
  workingDirectory := rfl
  node? := by
    intro at_ stood found
    rw [FileTree.node?] at found ⊢
    split_ifs at found ⊢ with root
    · exact found
    · rw [nodes_put free, List.append_assoc, List.lookup_append, found, Option.some_or]

theorem node?_put_self (free : tree.node? place = none) (node : FileNode) :
    (tree.put place node).node? place = some node := by
  have inside : ¬ place.isEmpty := by
    intro root
    rw [node?, if_pos root] at free
    cases free
  -- The directories on the way have shorter places.
  have apart : ∀ entry ∈ ((ancestors place).filter fun place => (tree.node? place).isNone).map
      (·, FileNode.directory), (place != entry.1) = true := by
    simp only [ancestors, List.mem_map, List.mem_filter, List.mem_filterMap, List.mem_range]
    rintro _ ⟨shorter, ⟨⟨n, below, taken⟩, -⟩, rfl⟩
    split_ifs at taken
    obtain rfl := Option.some.inj taken
    refine bne_iff_ne.mpr fun same => ?_
    have long := congrArg List.length same
    rw [List.length_take] at long
    omega
  have absent : tree.nodes.lookup place = none := by rwa [node?, if_neg inside] at free
  rw [node?, if_neg inside, nodes_put free, List.lookup_append, List.lookup_append, absent,
    List.lookup_eq_none_iff.mpr apart]
  simp

/-- The file that an entry stands for in a directory. -/
def fileIn? (directory : List String) (entry : List String × FileNode) :
    Option (String × FileNode) :=
  match entry.1.getLast? with
  | some name =>
    if entry.2.isFile && entry.1.dropLast == directory then some (name, entry.2) else none
  | none => none

theorem files?_eq_some_iff : tree.files? path = some files ↔
    ∃ directory, tree.place? path = some directory ∧ tree.isDirectory directory = true ∧
      files = tree.nodes.filterMap (fileIn? directory) := by
  rw [files?, Option.bind_eq_bind, Option.bind_eq_some_iff]
  refine exists_congr fun directory => and_congr_right fun _ => ?_
  rw [Option.ite_none_right_eq_some, Option.some.injEq]
  exact and_congr_right fun _ => eq_comm

theorem fileIn?_directory (directory place : List String) :
    fileIn? directory (place, .directory) = none := by
  rw [fileIn?]
  cases place.getLast? <;> rfl

theorem fileIn?_file (directory place : List String) (name : String) (bytes : ByteArray) :
    fileIn? directory (place ++ [name], .file bytes) =
      if place = directory then some (name, .file bytes) else none := by
  simp [fileIn?, FileNode.isFile]

/-- The files in a directory are listed as before. A new file stands behind those of its
own directory. -/
theorem files?_put (free : tree.node? (place ++ [name]) = none)
    (listed : tree.files? path = some files) :
    (tree.put (place ++ [name]) (.file bytes)).files? path =
      some (files ++ if tree.place? path = some place then [(name, .file bytes)] else []) := by
  have larger := extends_put free (.file bytes)
  obtain ⟨directory, leads, stands, rfl⟩ := files?_eq_some_iff.mp listed
  refine files?_eq_some_iff.mpr ⟨directory, larger.place? leads, larger.isDirectory stands, ?_⟩
  -- Directories on the way are no files.
  have way : (((ancestors (place ++ [name])).filter fun place => (tree.node? place).isNone).map
      (·, .directory)).filterMap (fileIn? directory) = [] := by
    rw [List.filterMap_map]
    exact List.filterMap_eq_nil_iff.mpr fun place _ => fileIn?_directory directory place
  rw [nodes_put free, List.filterMap_append, List.filterMap_append, way, List.append_nil,
    List.filterMap_cons, fileIn?_file, leads, List.filterMap_nil]
  simp only [Option.some.injEq, eq_comm]
  split_ifs <;> rfl

/-- A directory holds a file of this name. -/
def Lists (tree : FileTree) (path name : String) : Prop :=
  ∃ files, tree.files? path = some files ∧ ∃ file ∈ files, file.1 = name

/-- Files that were listed stay listed. -/
theorem Lists.put {other : String} (listed : tree.Lists path other)
    (free : tree.node? (place ++ [name]) = none) :
    (tree.put (place ++ [name]) (.file bytes)).Lists path other := by
  obtain ⟨files, listed, file, member, same⟩ := listed
  exact ⟨_, files?_put free listed, file, List.mem_append_left _ member, same⟩

/-- A new file is listed in its directory. -/
theorem lists_put_self (bytes : ByteArray) (free : tree.node? (place ++ [name]) = none)
    (listed : tree.files? path = some files) (leads : tree.place? path = some place) :
    (tree.put (place ++ [name]) (.file bytes)).Lists path name := by
  refine ⟨_, files?_put free listed, (name, .file bytes), ?_, rfl⟩
  rw [if_pos leads]
  exact List.mem_append_right _ List.mem_cons_self

/-! ## Several files of one name -/

/-- The larger tree has new files of one name in the directories. They were put there one
after the other, each where nothing stood. -/
inductive Added (directories : List String) (name : String) :
    FileTree → List (List String × ByteArray) → FileTree → Prop
  | nil (tree : FileTree) : Added directories name tree [] tree
  | cons {tree larger : FileTree} {directory : String} {place : List String} {bytes : ByteArray}
      {more : List (List String × ByteArray)} (member : directory ∈ directories)
      (leads : tree.place? directory = some place) (free : tree.node? (place ++ [name]) = none)
      (rest : Added directories name (tree.put (place ++ [name]) (.file bytes)) more larger) :
      Added directories name tree ((place, bytes) :: more) larger

theorem Lists.added {directories : List String} {added : List (List String × ByteArray)}
    {other : String} (listed : tree.Lists path other)
    (more : Added directories name tree added larger) : larger.Lists path other := by
  induction more with
  | nil => exact listed
  | cons _ _ free _ ih => exact ih (listed.put free)

end MigrationLedger.FileTree
