/-
# Configuration files

A configuration is loaded from a file: one that is named, or the first of the
usual names that stands in a directory. What is loaded has passed the check of
its values. In which format the file is written makes no difference to this.
-/

import MigrationLedger.Config
import MigrationLedger.FileTree

namespace MigrationLedger

/-- Why a configuration cannot be loaded. -/
inductive ConfigFailure
  | notFound (path : String)
  | unreadable (path : String)
  | malformed
  | invalid (problem : ConfigProblem)
  deriving DecidableEq, Repr

namespace ConfigFailure

/-- What lies behind a failure, in words. -/
def cause? : ConfigFailure → Option String
  | .unreadable _ => some "the file cannot be read as text"
  | .malformed => some "the document is not a configuration"
  | .notFound _ | .invalid _ => none

/-- The words for a failure. -/
def message (failure : ConfigFailure) : String :=
  let cause := failure.cause?.getD ""
  match failure with
  | .notFound path => "[E001] Config file not found: " ++ path
  | .invalid problem => "[E002] Invalid config: " ++ problem.message
  | .unreadable path => "[E003] Failed to read '" ++ path ++ "': " ++ cause
  | .malformed => "[E004] Config parse error: " ++ cause

end ConfigFailure

namespace Config

/-- The names under which a configuration is looked for, the preferred first. -/
def fileNames : List String :=
  ["tablekeeper.yml", "tablekeeper.yaml"]

/-- The path of the configuration in a directory. -/
def findIn? (files : FileTree) (directory : String) : Option String :=
  (fileNames.map (Path.join directory)).find? files.pathExists

/-- A way to write configurations as texts. -/
structure Format where
  /-- The configuration that a text stands for. -/
  read? : String → Option Config

namespace Format

variable (format : Format)

/-- Load the file at a path. -/
def load (files : FileTree) (path : String) : Except ConfigFailure Config :=
  if !files.pathExists path then .error (.notFound path)
  else
    match files.text? path with
    | none => .error (.unreadable path)
    | some text =>
      match format.read? text with
      | none => .error .malformed
      | some config =>
        match config.problem? with
        | some problem => .error (.invalid problem)
        | none => .ok config

/-- Load the configuration in a directory. -/
def loadFromDirectory (files : FileTree) (directory : String) : Except ConfigFailure Config :=
  match findIn? files directory with
  | some path => format.load files path
  | none => .error (.notFound (Path.join directory "tablekeeper.yml"))

/-- Load the configuration in a directory. Without one everything takes its
default. -/
def loadOrDefault (files : FileTree) (directory : String) : Except ConfigFailure Config :=
  match findIn? files directory with
  | some path => format.load files path
  | none => .ok {}

end Format

end Config

end MigrationLedger
