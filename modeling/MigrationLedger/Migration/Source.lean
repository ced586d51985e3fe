/-
# Sources of migrations

A source offers migrations or says why it cannot. Entries that are given
directly are offered in the order in which they are given. Directories are read
in layers: a name may occur once among the base directories, and a script in an
override directory takes the place of a script of the same name.
-/

import MigrationLedger.FileTree
import MigrationLedger.Migration.Bundled
import MigrationLedger.Runner

namespace MigrationLedger.Source

/-- Entries given directly. The first name that no migration can have spoils the
offer. -/
def entries (given : List (String × String)) : Offer :=
  given.mapM fun entry =>
    match MigrationName.parse entry.1 with
    | .ok name => .ok ⟨name, entry.2⟩
    | .error error => .error (.invalidName error)

/-- A script found in a directory, and its path. -/
structure Found where
  path : String
  migration : Migration

/-- A file as a script: its name has to be the name of a migration, and its bytes
have to be UTF-8. -/
def script (directory : String) (file : String × FileNode) : Except Failure Found :=
  match MigrationName.parse file.1 with
  | .error error => .error (.invalidName error)
  | .ok name =>
    let path := Path.join directory file.1
    match file.2.text? with
    | some text => .ok ⟨path, ⟨name, text⟩⟩
    | none => .error (.source path)

/-- The scripts in a directory. -/
def scripts (tree : FileTree) (directory : String) : Except Failure (List Found) :=
  match tree.files? directory with
  | none => .error (.source directory)
  | some files => files.mapM (script directory)

/-- The script of this name among those found. -/
def named? (found : List Found) (name : MigrationName) : Option Found :=
  found.find? fun entry => entry.migration.name == name

/-- Add scripts of a base directory. No name may be there already. -/
def addBase (found : List Found) : List Found → Except Failure (List Found)
  | [] => .ok found
  | entry :: rest =>
    match named? found entry.migration.name with
    | some first => .error (.duplicate entry.migration.name first.path entry.path)
    | none => addBase (found ++ [entry]) rest

/-- Add a script of an override directory in place of one with the same name. -/
def override (found : List Found) (entry : Found) : List Found :=
  found.filter (fun other => other.migration.name != entry.migration.name) ++ [entry]

/-- All base directories in order. -/
def readBase (tree : FileTree) (found : List Found) :
    List String → Except Failure (List Found)
  | [] => .ok found
  | directory :: rest => do
    let found ← addBase found (← scripts tree directory)
    readBase tree found rest

/-- All override directories in order. -/
def readOverrides (tree : FileTree) (found : List Found) :
    List String → Except Failure (List Found)
  | [] => .ok found
  | directory :: rest => do
    let found := (← scripts tree directory).foldl override found
    readOverrides tree found rest

/-- The scripts of base directories and override directories, in order of
application. -/
def directories (tree : FileTree) (base overrides : List String) : Offer := do
  let found ← readBase tree [] base
  let found ← readOverrides tree found overrides
  return Migration.sort (found.map Found.migration)

/-- The bundled migrations. -/
def bundled : Offer := .ok Bundled.migrations

end MigrationLedger.Source
