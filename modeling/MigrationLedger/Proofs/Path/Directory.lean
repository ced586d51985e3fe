/-
# The directory of a file

The directory of a path is its text without the last part, and without what stands in
front of that part and names nothing: further slashes, and the current directory after a
slash. Such parts make no difference to where a path leads, as long as something follows
them. So whatever a tree holds, the last part of the path of a file, looked up in the
directory, is the file.
-/

import Mathlib.Data.List.TakeWhile
import MigrationLedger.FileTree
import MigrationLedger.Proofs.Text.Occurrence

namespace MigrationLedger

/-- A part of a path that names nothing: it stands between two slashes, or for the current
directory. -/
def Path.IsSkipped (part : String) : Prop := part = "" ∨ part = "."

/-- Two lists of parts lead to the same place when something follows them. -/
def Path.SameWay (parts others : List String) : Prop :=
  ∀ (tree : FileTree) (place rest : List String), rest ≠ [] →
    tree.follow place (parts ++ rest) = tree.follow place (others ++ rest)

/-- The directory holds what stands at the path: its text stands in front, and a last part
leads from there to the same place. Only a path without slashes is held by the current
directory without a name. -/
structure FileTree.HeldBy (tree : FileTree) (path directory : String) : Prop where
  front : directory.toList <+: path.toList
  unnamed : directory = "" → '/' ∉ path.toList
  last : ∃ name, name ≠ "" ∧ '/' ∉ name.toList ∧
    tree.place? (Path.join directory name) = tree.place? path

/-! ## Following parts -/

namespace FileTree

variable {tree : FileTree} {place last : List String} {part : String} {rest : List String}

theorem follow_skipped (skipped : Path.IsSkipped part) :
    tree.follow place (part :: rest) =
      if tree.isDirectory place then tree.follow place rest else none := by
  rw [follow]
  by_cases directory : tree.isDirectory place = true
  · rw [if_neg (by simp [directory]), if_pos directory, if_pos]
    rcases skipped with rfl | rfl <;> simp
  · rw [if_pos (by simp [directory]), if_neg directory]

/-- Nothing but a directory can be followed further. -/
theorem follow_of_not_isDirectory (file : tree.isDirectory place ≠ true) (more : rest ≠ []) :
    tree.follow place rest = none := by
  cases rest with
  | nil => exact absurd rfl more
  | cons part rest => rw [follow, if_pos (by simpa using file)]

theorem follow_append (front back : List String) :
    tree.follow place (front ++ back) =
      (tree.follow place front).bind fun place => tree.follow place back := by
  induction front generalizing place with
  | nil => rfl
  | cons part rest ih =>
      rw [List.cons_append, follow, follow]
      split_ifs
      · rfl
      · exact ih
      · exact ih
      · exact ih
      · rfl

end FileTree

namespace Path

open FileTree

variable {way other : List String} {part name path directory : String} {text read : List Char}

theorem SameWay.symm (same : SameWay way other) : SameWay other way :=
  fun tree place rest more => (same tree place rest more).symm

theorem SameWay.trans {third : List String} (first : SameWay way other)
    (second : SameWay other third) : SameWay way third := fun tree place rest more =>
  (first tree place rest more).trans (second tree place rest more)

/-- A skipped part may be left out. -/
theorem sameWay_skipped (skipped : IsSkipped part) (way : List String) :
    SameWay (way ++ [part]) way := by
  intro tree place rest more
  rw [List.append_assoc, follow_append, follow_append]
  refine congrArg (Option.bind _) (funext fun place => ?_)
  rw [List.singleton_append, follow_skipped skipped]
  split_ifs with directory
  · rfl
  · exact (follow_of_not_isDirectory directory more).symm

/-! ## The parts of a text -/

theorem go_append_slash (front back : List Char) :
    parts.go read (front ++ '/' :: back) = parts.go read front ++ parts.go [] back := by
  induction front generalizing read with
  | nil => simp [parts.go]
  | cons c rest ih =>
      by_cases slash : c = '/'
      · simp [parts.go, slash, ih]
      · simp [parts.go, slash, ih]

theorem go_of_not_mem (plain : '/' ∉ text) :
    parts.go read text = [String.ofList (read.reverse ++ text)] := by
  induction text generalizing read with
  | nil => simp [parts.go]
  | cons c rest ih =>
      obtain ⟨other, plain⟩ := not_or.mp (mt List.mem_cons.mpr plain)
      rw [parts.go, if_neg (Ne.symm other), ih plain]
      simp

/-- A slash divides the parts in front of it from those behind it. -/
theorem parts_append_slash (front back : List Char) :
    parts (String.ofList (front ++ '/' :: back)) =
      parts (String.ofList front) ++ parts (String.ofList back) := by
  simp only [parts, String.toList_ofList, go_append_slash]

/-- A text without slashes is one part. -/
theorem parts_of_not_mem (plain : '/' ∉ text) :
    parts (String.ofList text) = [String.ofList text] := by
  rw [parts, String.toList_ofList, go_of_not_mem plain]
  rfl

/-! ## What a directory leaves out -/

/-- The parts that are followed before those of a path seen from a directory. The root is
one part, though its text has a slash at its end. -/
def partsBefore (directory : String) : List String :=
  if directory = "/" then [""] else parts directory

theorem dropEmptyEnd_suffix (text : List Char) : dropEmptyEnd text <:+ text := by
  fun_induction dropEmptyEnd text with
  | case1 rest empty => exact ⟨[], by simp [List.isEmpty_iff.mp empty]⟩
  | case2 rest _ ih => exact ih.trans (List.suffix_cons _ _)
  | case3 rest empty => exact ⟨['.'], by simp [List.isEmpty_iff.mp empty]⟩
  | case4 rest _ ih => exact ih.trans ((List.suffix_cons _ _).trans (List.suffix_cons _ _))
  | case5 => exact List.suffix_refl _

theorem dropEmptyEnd_ne_nil (held : text ≠ []) : dropEmptyEnd text ≠ [] := by
  fun_induction dropEmptyEnd text with
  | case1 => simp
  | case2 rest more ih => exact ih (by simpa using more)
  | case3 => simp
  | case4 rest more ih => exact ih (by simpa using more)
  | case5 => exact held

/-- Only the root keeps a slash at its end. -/
theorem dropEmptyEnd_eq_root_or (text : List Char) :
    dropEmptyEnd text = ['/'] ∨ (dropEmptyEnd text).head? ≠ some '/' := by
  fun_induction dropEmptyEnd text with
  | case1 => exact .inl rfl
  | case2 _ _ ih => exact ih
  | case3 => exact .inl rfl
  | case4 _ _ ih => exact ih
  | case5 text plain _ =>
      refine .inr fun begins => ?_
      obtain ⟨rest, rfl⟩ := List.head?_eq_some_iff.mp begins
      exact plain rest rfl

theorem partsBefore_of_ne_root (held : directory.toList ≠ ['/']) :
    partsBefore directory = parts directory := by
  refine if_neg fun root => held ?_
  rw [root]
  rfl

/-- What is left out of a directory makes no difference to what stands in it. -/
theorem sameWay_dropEmptyEnd (held : text ≠ []) :
    SameWay (parts (String.ofList text.reverse))
      (partsBefore (String.ofList (dropEmptyEnd text).reverse)) := by
  have slash : IsSkipped (String.ofList []) := .inl rfl
  have point : IsSkipped (String.ofList ['.']) := .inr rfl
  fun_induction dropEmptyEnd text with
  | case1 rest empty =>
      obtain rfl := List.isEmpty_iff.mp empty
      exact sameWay_skipped slash [""]
  | case2 rest more ih =>
      rw [List.reverse_cons, parts_append_slash, parts_of_not_mem List.not_mem_nil]
      exact (sameWay_skipped slash _).trans (ih (by simpa using more))
  | case3 rest empty =>
      obtain rfl := List.isEmpty_iff.mp empty
      exact sameWay_skipped point [""]
  | case4 rest more ih =>
      rw [List.reverse_cons, List.reverse_cons, List.append_assoc, List.singleton_append,
        parts_append_slash, @parts_of_not_mem ['.'] (by decide)]
      exact (sameWay_skipped point _).trans (ih (by simpa using more))
  | case5 text plain _ =>
      have other : (String.ofList text.reverse).toList ≠ ['/'] := by
        rw [String.toList_ofList, ne_eq, List.reverse_eq_iff]
        exact plain []
      rw [partsBefore_of_ne_root other]
      exact fun _ _ _ _ => rfl

/-- The directory in front of a slash is followed like its text. -/
theorem sameWay_partsBefore {front : List Char}
    (dropped : directory.toList.reverse = dropEmptyEnd ('/' :: front.reverse)) :
    SameWay (parts (String.ofList front)) (partsBefore directory) := by
  have way := sameWay_dropEmptyEnd (List.cons_ne_nil '/' front.reverse)
  -- The slash makes an empty part behind those of the text in front of it.
  rw [List.reverse_cons, List.reverse_reverse, parts_append_slash, ← dropped,
    List.reverse_reverse, String.ofList_toList, parts_of_not_mem List.not_mem_nil] at way
  exact (sameWay_skipped (.inl rfl) _).symm.trans way

/-! ## Seen from a directory -/

theorem isAbsolute_iff : isAbsolute path = true ↔ ['/'] <+: path.toList := by
  rw [isAbsolute, Text.startsWith, List.isPrefixOf_iff_prefix]
  rfl

theorem isAbsolute_of_not_mem (plain : '/' ∉ name.toList) : isAbsolute name = false := by
  rw [Bool.eq_false_iff, ne_eq, isAbsolute_iff]
  exact fun begins => plain (begins.subset List.mem_cons_self)

/-- A path without a slash is seen from the directory. -/
theorem parts_join (held : directory ≠ "") (plain : '/' ∉ name.toList)
    (ends : directory = "/" ∨ directory.toList.getLast? ≠ some '/') :
    parts (join directory name) = partsBefore directory ++ [name] := by
  have relative := isAbsolute_of_not_mem plain
  have own : parts name = [name] := by
    have one := parts_of_not_mem plain
    rwa [String.ofList_toList] at one
  by_cases root : directory = "/"
  · have joined : join directory name = String.ofList ([] ++ '/' :: name.toList) := by
      rw [join, relative, root]
      simp [← String.toList_inj, Text.endsWith]
    rw [joined, parts_append_slash, String.ofList_toList, own, partsBefore, if_pos root]
    rfl
  · have goesOn : Text.endsWith directory "/" = false := by
      rw [Bool.eq_false_iff, Text.endsWith, ne_eq, List.isSuffixOf_iff_suffix]
      rintro ⟨front, same⟩
      exact ends.resolve_left root (by simp [← same])
    have joined : join directory name = String.ofList (directory.toList ++ '/' :: name.toList) := by
      rw [join, relative, goesOn]
      simp [← String.toList_inj, held]
    rw [joined, parts_append_slash, String.ofList_toList, String.ofList_toList, own, partsBefore,
      if_neg root]

/-- A path is absolute when what stands in front of it is. -/
theorem isAbsolute_of_begins {front : String} (begins : front.toList <+: path.toList)
    (held : front ≠ "") : isAbsolute path = isAbsolute front := by
  obtain ⟨back, same⟩ := begins
  rw [Bool.eq_iff_iff, isAbsolute_iff, isAbsolute_iff, ← same]
  cases spelled : front.toList with
  | nil => exact absurd (by simpa using spelled) held
  | cons c rest => simp [List.cons_prefix_cons]

theorem isEmpty_of_begins {front : String} (begins : front.toList <+: path.toList)
    (held : front ≠ "") : path.isEmpty = false := by
  refine Bool.eq_false_iff.mpr fun empty => held (String.toList_inj.mp ?_)
  rw [String.isEmpty_iff.mp empty] at begins
  exact List.prefix_nil.mp begins

/-- A directory stands in front of what is seen from it. -/
theorem prefix_join (relative : isAbsolute name = false) (directory : String) :
    directory.toList <+: (join directory name).toList := by
  rw [join, relative, Bool.false_or]
  split_ifs with empty
  · rw [String.isEmpty_iff.mp empty]
    exact List.nil_prefix
  · rw [String.toList_append]
    exact List.prefix_append _ _
  · rw [String.append_assoc, String.toList_append]
    exact List.prefix_append _ _

/-- What is seen from a directory that is named in full is named in full. -/
theorem isAbsolute_join (absolute : isAbsolute directory = true) (path : String) :
    isAbsolute (join directory path) = true := by
  have held : directory ≠ "" := by
    rintro rfl
    cases absolute
  cases full : isAbsolute path with
  | true => rwa [join, full, Bool.true_or, if_pos rfl]
  | false => rwa [isAbsolute_of_begins (prefix_join full directory) held]

theorem join_empty (name : String) : join "" name = name := by
  simp [join]

/-- The last part of a path, from the last slash on. -/
def lastPart (path : String) : List Char :=
  (path.toList.reverse.takeWhile (· != '/')).reverse

theorem not_mem_lastPart (path : String) : '/' ∉ lastPart path := by
  intro member
  have other := List.mem_takeWhile_imp (List.mem_reverse.mp member)
  simp at other

/-- A path is its last part, or has a slash in front of it. -/
theorem exists_front (path : String) :
    (path.toList.reverse.dropWhile (· != '/') = [] ∧ path.toList = lastPart path) ∨
      ∃ front, path.toList.reverse.dropWhile (· != '/') = '/' :: front.reverse ∧
        path.toList = front ++ '/' :: lastPart path := by
  have whole : path.toList =
      (path.toList.reverse.dropWhile (· != '/')).reverse ++ lastPart path := by
    rw [lastPart, ← List.reverse_append, List.takeWhile_append_dropWhile, List.reverse_reverse]
  cases spelled : path.toList.reverse.dropWhile (· != '/') with
  | nil =>
      rw [spelled] at whole
      exact .inl ⟨rfl, whole⟩
  | cons c rest =>
      have slash := List.head?_dropWhile_not (· != '/') path.toList.reverse
      rw [spelled] at slash
      obtain rfl : c = '/' := by simpa using slash
      rw [spelled] at whole
      exact .inr ⟨rest.reverse, by simp, by simpa using whole⟩

/-- The last part is followed last. -/
theorem exists_parts (path : String) :
    ∃ way, parts path = way ++ [String.ofList (lastPart path)] := by
  have one := parts_of_not_mem (not_mem_lastPart path)
  rcases exists_front path with ⟨-, whole⟩ | ⟨front, -, whole⟩
  · rw [← whole, String.ofList_toList] at one
    exact ⟨[], by rw [one, ← whole, String.ofList_toList]; rfl⟩
  · refine ⟨parts (String.ofList front), ?_⟩
    rw [← one, ← parts_append_slash, ← whole, String.ofList_toList]

/-- A path with a last part that names something has a directory: what stands in front of
the last part, without what may be left out. -/
theorem parent?_eq_some (held : lastPart path ≠ []) (other : lastPart path ≠ ['.']) :
    parent? path = some (String.ofList
      (dropEmptyEnd (path.toList.reverse.dropWhile (· != '/'))).reverse) := by
  have kept : dropEmptyEnd path.toList.reverse = path.toList.reverse := by
    rw [lastPart] at held other
    unfold dropEmptyEnd
    split
    · rename_i spelled
      simp [spelled] at held
    · rename_i spelled
      simp [spelled] at other
    · rfl
  rw [parent?, kept]
  split
  · rename_i empty
    simp [lastPart, empty] at held
  · rename_i root
    simp [lastPart, root] at held
  · rfl

end Path

namespace FileTree

open MigrationLedger.Path

variable {tree : FileTree} {path directory text : String}

theorem text?_eq_some_iff : tree.text? path = some text ↔
    ∃ place node, tree.place? path = some place ∧ tree.node? place = some node ∧
      node.text? = some text := by
  simp only [text?, Option.bind_eq_bind, Option.bind_eq_some_iff]
  tauto

/-- A path that leads to a file ends with a part that names something. -/
theorem lastPart_of_text? (found : tree.text? path = some text) :
    ¬ IsSkipped (String.ofList (lastPart path)) := by
  intro skipped
  obtain ⟨place, node, leads, stands, read⟩ := text?_eq_some_iff.mp found
  obtain ⟨way, whole⟩ := exists_parts path
  rw [place?] at leads
  split_ifs at leads
  all_goals
    rw [whole, follow_append, Option.bind_eq_some_iff] at leads
    obtain ⟨before, -, leads⟩ := leads
    rw [follow_skipped skipped, Option.ite_none_right_eq_some] at leads
    obtain ⟨directory, same⟩ := leads
    obtain rfl := Option.some.inj same
    rw [isDirectory, stands] at directory
    cases node with
    | directory => cases read
    | file => cases directory

/-- What is seen from the directory of a path leads where the path leads. -/
theorem place?_join_directory {front : List Char}
    (whole : path.toList = front ++ '/' :: lastPart path)
    (dropped : directory.toList.reverse = dropEmptyEnd ('/' :: front.reverse)) :
    tree.place? (join directory (String.ofList (lastPart path))) = tree.place? path := by
  have held : directory ≠ "" := by
    rintro rfl
    exact dropEmptyEnd_ne_nil (List.cons_ne_nil _ _) dropped.symm
  have ends : directory = "/" ∨ directory.toList.getLast? ≠ some '/' := by
    rw [← List.head?_reverse, dropped]
    refine (dropEmptyEnd_eq_root_or _).imp_left fun root => String.toList_inj.mp ?_
    rw [← List.reverse_reverse directory.toList, dropped, root]
    rfl
  have plain : '/' ∉ (String.ofList (lastPart path)).toList := by
    rw [String.toList_ofList]
    exact not_mem_lastPart path
  have begins : directory.toList <+: path.toList := by
    have ends := dropEmptyEnd_suffix ('/' :: front.reverse)
    rw [← dropped, ← List.reverse_prefix, List.reverse_reverse] at ends
    refine ends.trans ⟨lastPart path, ?_⟩
    rw [whole]
    simp
  have parted : parts path = parts (String.ofList front) ++ [String.ofList (lastPart path)] := by
    rw [← parts_of_not_mem (not_mem_lastPart path), ← parts_append_slash, ← whole,
      String.ofList_toList]
  have joined := prefix_join (isAbsolute_of_not_mem plain) directory
  rw [place?, place?, isEmpty_of_begins begins held, isEmpty_of_begins joined held,
    isAbsolute_of_begins begins held, isAbsolute_of_begins joined held,
    parts_join held plain ends, parted]
  simp only [Bool.false_eq_true, if_false]
  exact (sameWay_partsBefore dropped tree _ _ (List.cons_ne_nil _ _)).symm

/-- The directory of a file holds the file. -/
theorem exists_heldBy (found : tree.text? path = some text) :
    ∃ directory, parent? path = some directory ∧ tree.HeldBy path directory := by
  obtain ⟨held, other⟩ := not_or.mp (lastPart_of_text? found)
  have parent := parent?_eq_some (fun empty => held (by rw [empty])) fun point =>
    other (by rw [point])
  refine ⟨_, parent, ?_, ?_, _, held, ?_, ?_⟩
  · have ends := (dropEmptyEnd_suffix (path.toList.reverse.dropWhile (· != '/'))).trans
      (List.dropWhile_suffix _)
    rw [String.toList_ofList]
    simpa using List.reverse_prefix.mpr ends
  · rcases exists_front path with ⟨none, whole⟩ | ⟨front, more, -⟩
    · exact fun _ => whole ▸ not_mem_lastPart path
    · rw [more]
      intro empty
      exact absurd (by simpa using empty) (dropEmptyEnd_ne_nil (List.cons_ne_nil '/' front.reverse))
  · rw [String.toList_ofList]
    exact not_mem_lastPart path
  · rcases exists_front path with ⟨none, whole⟩ | ⟨front, more, whole⟩
    · rw [none, ← whole, String.ofList_toList]
      exact congrArg tree.place? (join_empty path)
    · rw [more]
      exact place?_join_directory whole (by simp)

/-- A directory is named in full when what it holds is. -/
theorem HeldBy.isAbsolute (held : tree.HeldBy path directory)
    (absolute : Path.isAbsolute path = true) : Path.isAbsolute directory = true := by
  have slash : '/' ∈ path.toList := (isAbsolute_iff.mp absolute).subset List.mem_cons_self
  rw [← isAbsolute_of_begins held.front fun unnamed => held.unnamed unnamed slash]
  exact absolute

end FileTree

end MigrationLedger
