/-
# File trees

The files that a command can see: what stands at each path, and the directory
that relative paths begin at. Looking a path up follows the parts of its text,
so a path through a missing directory or through a file leads nowhere, even when
it comes back by `..`.
-/

import MigrationLedger.Path

namespace MigrationLedger

/-- What stands at a path. -/
inductive FileNode
  | directory
  | file (bytes : ByteArray)

/-- The text of a file, if it is one and holds UTF-8. -/
def FileNode.text? : FileNode → Option String
  | .directory => none
  | .file bytes => String.fromUTF8? bytes

/-- A node other than a directory. -/
def FileNode.isFile : FileNode → Bool
  | .directory => false
  | .file _ => true

/-- What stands where, and the current directory. Places are lists of parts from
the root on; the root itself is always there. -/
structure FileTree where
  nodes : List (List String × FileNode)
  workingDirectory : List String

namespace FileTree

/-- The full path of the current directory. -/
def workingPath (tree : FileTree) : String :=
  "/" ++ "/".intercalate tree.workingDirectory

/-- The directories on the way to a place, the root left out. -/
def ancestors (place : List String) : List (List String) :=
  (List.range place.length).filterMap fun n => if n = 0 then none else some (place.take n)

/-- What stands at a place. -/
def node? (tree : FileTree) (place : List String) : Option FileNode :=
  if place.isEmpty then some .directory else tree.nodes.lookup place

/-- A directory stands at the place. -/
def isDirectory (tree : FileTree) (place : List String) : Bool :=
  match tree.node? place with
  | some .directory => true
  | _ => false

/-- Put a node at a place, and directories on the way to it. -/
def put (tree : FileTree) (place : List String) (node : FileNode) : FileTree :=
  let missing := (ancestors place).filter fun place => (tree.node? place).isNone
  { tree with
    nodes := tree.nodes.filter (fun entry => entry.1 != place) ++
      missing.map (·, .directory) ++ [(place, node)] }

/-- Follow parts from a place on. -/
def follow (tree : FileTree) (place : List String) : List String → Option (List String)
  | [] => some place
  | part :: rest =>
    if !tree.isDirectory place then none
    else if part.isEmpty || part == "." then tree.follow place rest
    else if part == ".." then tree.follow place.dropLast rest
    else if (tree.node? (place ++ [part])).isSome then tree.follow (place ++ [part]) rest
    else none

/-- The place that a path leads to. -/
def place? (tree : FileTree) (path : String) : Option (List String) :=
  if path.isEmpty then none
  else tree.follow (if Path.isAbsolute path then [] else tree.workingDirectory) (Path.parts path)

/-- The place that a path leads to or would lead to if its last part stood in
the directory that the parts before lead to. -/
def placeToBe? (tree : FileTree) (path : String) : Option (List String) :=
  match tree.place? path with
  | some place => some place
  | none =>
    let last := (Path.parts path).getLast?.getD ""
    if path.isEmpty || last.isEmpty || last == "." || last == ".." then none
    else
      match tree.follow (if Path.isAbsolute path then [] else tree.workingDirectory)
          (Path.parts path).dropLast with
      | some place => if tree.isDirectory place then some (place ++ [last]) else none
      | none => none

/-- Something stands at a path. -/
def pathExists (tree : FileTree) (path : String) : Bool :=
  (tree.place? path).isSome

/-- The text of the file at a path, if it is one and holds UTF-8. -/
def text? (tree : FileTree) (path : String) : Option String := do
  (← tree.node? (← tree.place? path)).text?

/-- The files in the directory at a path, by name. -/
def files? (tree : FileTree) (path : String) : Option (List (String × FileNode)) := do
  let place ← tree.place? path
  if tree.isDirectory place then
    some (tree.nodes.filterMap fun entry =>
      match entry.1.getLast? with
      | some name =>
        if entry.2.isFile && entry.1.dropLast == place then some (name, entry.2) else none
      | none => none)
  else none

end FileTree

end MigrationLedger
