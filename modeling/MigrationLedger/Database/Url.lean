/-
# Database addresses

An address names a database in memory or in a file. Besides a bare path it may
carry the scheme of the engine, and in front of that the scheme of a driver
manager. The scheme of any other engine is refused, so that no file is created
under the name of a foreign address.
-/

import MigrationLedger.Database.Error
import MigrationLedger.Text.Blank
import MigrationLedger.Text.Letter

namespace MigrationLedger

/-- Where a database is kept. -/
inductive DatabaseUrl
  | memory
  | file (path : String)
  deriving DecidableEq, Repr

namespace DatabaseUrl

/-- What a scheme may hold after its first letter. -/
def isSchemePart (c : Char) : Bool :=
  Text.isAsciiLetter c || Text.isAsciiDigit c || c == '+' || c == '-' || c == '.'

/-- The scheme of an address: at least two characters before the first colon,
the first of them a letter. A single letter names a drive, not a scheme. -/
def scheme? (url : List Char) : Option (List Char) :=
  if url.contains ':' then
    match url.takeWhile (· != ':') with
    | first :: second :: rest =>
      if Text.isAsciiLetter first && (second :: rest).all isSchemePart then
        some (first :: second :: rest)
      else none
    | _ => none
  else none

/-- The name of the database in memory. -/
def memoryName : List Char := ":memory:".toList

/-- An address without the scheme of a driver manager. -/
def withoutManager (url : List Char) : List Char :=
  (Text.dropStart? "jdbc:".toList url).getD url

/-- Where the database is that an address without surrounding blanks and
without the scheme of a driver manager names. -/
def locate (url : List Char) : Except DbError DatabaseUrl :=
  if url = memoryName then .ok .memory
  else
    match Text.dropStart? "duckdb:".toList url with
    | some rest =>
      if rest = [] ∨ rest = memoryName then .ok .memory else .ok (.file (String.ofList rest))
    | none =>
      match scheme? url with
      | some scheme => .error (.notImplemented (String.ofList scheme) "connections")
      | none => .ok (.file (String.ofList url))

/-- Read an address. Surrounding blanks do not count. -/
def parse (url : String) : Except DbError DatabaseUrl :=
  let url := Text.trim url.toList
  if url = [] then .error (.connection "connection URL is empty")
  else locate (withoutManager url)

end DatabaseUrl

end MigrationLedger
