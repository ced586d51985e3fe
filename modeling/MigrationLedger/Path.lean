/-
# Paths

Paths are texts; a slash separates their parts and a slash in front makes them
absolute. Joining keeps the texts of both sides, so a path is shown the way it
was given.
-/

import MigrationLedger.Text.Search

namespace MigrationLedger.Path

/-- The path begins at the root. -/
def isAbsolute (path : String) : Bool :=
  Text.startsWith path "/"

/-- `path` seen from the directory `base`. An absolute path replaces the base,
and an empty one leaves a slash at its end. -/
def join (base path : String) : String :=
  if isAbsolute path || base.isEmpty then path
  else if Text.endsWith base "/" then base ++ path
  else base ++ "/" ++ path

/-- The parts of a text between slashes. -/
def parts (path : String) : List String :=
  go [] path.toList
where
  /-- The parts of the rest, when `part` has been read last character first. -/
  go (part : List Char) : List Char → List String
    | [] => [String.ofList part.reverse]
    | c :: rest =>
      if c = '/' then String.ofList part.reverse :: go [] rest else go (c :: part) rest

/-- Leave out what stands at the end without naming anything: slashes, and the
current directory after a slash. Characters are listed last first. -/
def dropEmptyEnd : List Char → List Char
  | '/' :: rest => if rest.isEmpty then ['/'] else dropEmptyEnd rest
  | '.' :: '/' :: rest => if rest.isEmpty then ['/'] else dropEmptyEnd rest
  | path => path

/-- The directory that holds the last part of a path: the path without that
part. The root and the empty path have none. -/
def parent? (path : String) : Option String :=
  match dropEmptyEnd path.toList.reverse with
  | [] => none
  | ['/'] => none
  | kept => some (String.ofList (dropEmptyEnd (kept.dropWhile (· != '/'))).reverse)

end MigrationLedger.Path
