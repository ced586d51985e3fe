/-
# Opening databases

A database is opened in memory or from a file. A file that is not there is made
at once, in a directory that has to be there; a file that holds something else is
left alone. What is committed is written back when the database is closed.
-/

import MigrationLedger.Engine.File

namespace MigrationLedger.Engine

/-- A database that is open, and where its file stands. -/
structure Database where
  store : Store
  place : Option (List String)

/-- What the engine takes from outside when a database is opened: the current
moment, and a number that no other opening has. -/
structure Occasion where
  now : Int
  seed : Nat
  deriving DecidableEq, Repr

namespace Database

/-- A store for a catalog. -/
def storeOf (occasion : Occasion) (catalog : Catalog) : Store :=
  { committed := catalog
    nextRow := (catalogRecords catalog).length
    seed := occasion.seed
    now := occasion.now }

/-- A new database in memory. -/
def inMemory (occasion : Occasion) : Database := ⟨storeOf occasion {}, none⟩

/-- The word in front of the first colon of a path, if it can name a kind of
database: two or more letters, digits and underscores, with no address behind the
colon. -/
def kindOfPath? (path : List Char) : Option (List Char) :=
  let word := path.takeWhile (· != ':')
  let rest := path.dropWhile (· != ':')
  if rest = [] ∨ word.length < 2 ∨ ['/', '/'].isPrefixOf (rest.drop 1) then none
  else if word.all fun c => Text.isAsciiLetter c || Text.isAsciiDigit c || c == '_' then some word
  else none

/-- The path of a file without the name of the engine's own kind of database in
front; nothing if another kind is named. -/
def filePath? (path : String) : Option String :=
  match kindOfPath? path.toList with
  | none => some path
  | some word =>
    if String.ofList (word.map Char.toLower) == "duckdb" then
      some (String.ofList (path.toList.drop (word.length + 1)))
    else none

/-- The error for a file that cannot be opened. -/
def refusal (path : String) : DbError :=
  .connection ("IO Error: Cannot open \"" ++ path ++ "\" as a database: " ++ path)

/-- Open a file, and make it if it is not there. -/
def openFile (files : FileTree) (occasion : Occasion) (path : String) :
    Except DbError (Database × FileTree) :=
  match filePath? path with
  | none => .error (refusal path)
  | some file =>
    if file.isEmpty then .ok (inMemory occasion, files)
    else
      match files.place? file with
      | some place =>
        match files.node? place with
        | some (.file bytes) =>
          match catalogOfFile? bytes with
          | some catalog =>
            .ok (⟨storeOf occasion catalog, some place⟩, files.put place (.file (fileOf catalog)))
          | none => .error (refusal path)
        | _ => .error (refusal path)
      | none =>
        match files.placeToBe? file with
        | some place =>
          .ok (⟨storeOf occasion {}, some place⟩, files.put place (.file (fileOf {})))
        | none => .error (refusal path)

/-- Open a database. -/
def openAt (files : FileTree) (occasion : Occasion) :
    DatabaseUrl → Except DbError (Database × FileTree)
  | .memory => .ok (inMemory occasion, files)
  | .file path => openFile files occasion path

/-- Open the database at a path, of which one stands for a database in memory. -/
def openPath (files : FileTree) (occasion : Occasion) (path : String) :
    Except DbError (Database × FileTree) :=
  if path.toList = DatabaseUrl.memoryName then .ok (inMemory occasion, files)
  else openFile files occasion path

/-- Write back what is committed. -/
def close (database : Database) (files : FileTree) : FileTree :=
  match database.place with
  | some place => files.put place (.file (fileOf database.store.committed))
  | none => files

/-- Hold a session with a database. -/
def hold {α : Type} (database : Database) (states : RunStates) (session : Session α) :
    α × Database :=
  let (value, store) := database.store.hold states session
  (value, { database with store })

end Database

end MigrationLedger.Engine
