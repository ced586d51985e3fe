/-
# Database files

What is committed is kept in a file between two uses of a database. The file is
a list of records and a record a list of fields; a field is a text after its
length, or a mark for the field that says nothing, so every text can be a field
and a record is read back as it was written. The file begins with a byte that no
text begins with, so it is never taken for one, and a file that begins otherwise
is no database.
-/

import MigrationLedger.Database.Url
import MigrationLedger.Engine.Store
import MigrationLedger.FileTree

namespace MigrationLedger.Engine

/-! ### Records -/

/-- A field of a record. -/
abbrev Field := Option String

/-- Write a field. -/
def writeField : Field → List Char
  | none => ['-']
  | some content => (toString content.length).toList ++ ':' :: content.toList

/-- Write a record. -/
def writeRecord (fields : List Field) : List Char :=
  fields.flatMap writeField ++ ['.']

/-- Read the fields of a record up to its end. -/
def readFields? : Nat → List Char → Option (List Field × List Char)
  | 0, _ => none
  | _, [] => none
  | _ + 1, '.' :: rest => some ([], rest)
  | bound + 1, '-' :: rest => do
    let (fields, rest) ← readFields? bound rest
    return (none :: fields, rest)
  | bound + 1, text => do
    let digits := text.takeWhile Text.isAsciiDigit
    let length := Decimal.digitsValue 0 digits
    match text.drop digits.length with
    | ':' :: rest =>
      if rest.length < length then none
      else
        let (fields, after) ← readFields? bound (rest.drop length)
        return (some (String.ofList (rest.take length)) :: fields, after)
    | _ => none

/-- Read records to the end of a text. -/
def readRecords? : Nat → List Char → Option (List (List Field))
  | _, [] => some []
  | 0, _ => none
  | bound + 1, text => do
    let (fields, rest) ← readFields? (text.length + 1) text
    return fields :: (← readRecords? bound rest)

/-! ### Catalogs -/

/-- The field for a value. -/
def fieldOf (value : Value) : Field :=
  if value.isNull then none else some value.toText

/-- The word for a truth value in a record. -/
def flagField (flag : Bool) : Field := some (if flag then "yes" else "no")

/-- The records of a table. -/
def tableRecords (place : Place) (table : Table) : List (List Field) :=
  let here : List Field := [some place.schema, some place.name]
  [some "table" :: here] ++
    table.columns.map (fun column =>
      some "column" :: here ++ [some column.name, some column.type.title,
        flagField column.notNull, fieldOf column.fallback]) ++
    table.keys.map (fun key => some "key" :: here ++ key.map some) ++
    table.rows.map fun row => some "row" :: here ++ row.values.map fieldOf

/-- The records of a relation. -/
def relationRecords (place : Place) : Relation → List (List Field)
  | .table table => tableRecords place table
  | .view view =>
    [some "view" :: some place.schema :: some place.name :: some view.source ::
      view.columns.flatMap fun (name, type) => [some name, some type.title]]

/-- The records of a catalog. -/
def catalogRecords (catalog : Catalog) : List (List Field) :=
  catalog.schemas.map (fun schema => [some "schema", some schema]) ++
    catalog.relations.flatMap (fun (place, relation) => relationRecords place relation) ++
    catalog.indexes.map fun (place, index) =>
      some "index" :: some place.schema :: some place.name :: some index.table ::
        flagField index.unique :: index.columns.map some

/-- The type with a title. -/
def typeOfTitle (title : String) : DataType :=
  let name := String.ofList (title.toList.takeWhile (· != '('))
  let arguments := ((title.toList.dropWhile (· != '(')).drop 1).takeWhile (· != ')')
  let numbers := ((String.ofList arguments).splitOn ",").filterMap String.toNat?
  match (DataType.ofName? name).bind fun type => type.withArguments? numbers with
  | some type => type
  | none => .other title

/-- The value of a column that a field stands for. -/
def valueOf (type : DataType) : Field → Value
  | none => .null
  | some content => ((Value.text content).castTo? type).getD .null

/-- The texts of fields. -/
def texts (fields : List Field) : List String := fields.filterMap id

/-- Names and titles of types that follow each other. -/
def columnPairs : List String → List (String × DataType)
  | name :: title :: rest => (name, typeOfTitle title) :: columnPairs rest
  | _ => []

/-- The query of a view, from the text of its definition. -/
def viewQuery? (source : String) : Option Query :=
  match read source with
  | .ok ⟨.createView _ _ _ query _, _⟩ => some query
  | _ => none

/-- Change the table that was read last. -/
def changeLast (catalog : Catalog) (place : Place) (change : Table → Table) : Catalog :=
  { catalog with
    relations := catalog.relations.map fun entry =>
      match entry with
      | (spot, .table table) => if spot = place then (spot, .table (change table)) else entry
      | _ => entry }

/-- The row that fields stand for. -/
def rowOf (number : Nat) (table : Table) (fields : List Field) : Row :=
  ⟨number, (table.columns.zip fields).map fun (column, field) => valueOf column.type field⟩

/-- Add what a record tells to a catalog. `number` is given to a row. -/
def addRecord (catalog : Catalog) (number : Nat) : List Field → Option Catalog
  | [some "schema", some schema] =>
    some { catalog with schemas := catalog.schemas ++ [schema] }
  | some "table" :: some schema :: some name :: [] =>
    some { catalog with
      relations := catalog.relations ++ [(⟨schema, name⟩, .table ⟨[], [], []⟩)] }
  | [some "column", some schema, some name, some column, some type, some notNull, fallback] =>
    let type := typeOfTitle type
    let column : Column := ⟨column, type, notNull == "yes", valueOf type fallback⟩
    some (changeLast catalog ⟨schema, name⟩ fun table =>
      { table with columns := table.columns ++ [column] })
  | some "key" :: some schema :: some name :: key =>
    some (changeLast catalog ⟨schema, name⟩ fun table =>
      { table with keys := table.keys ++ [texts key] })
  | some "row" :: some schema :: some name :: fields =>
    some (changeLast catalog ⟨schema, name⟩ fun table =>
      { table with rows := table.rows ++ [rowOf number table fields] })
  | some "view" :: some schema :: some name :: some source :: columns => do
    let query ← viewQuery? source
    let view : View := ⟨columnPairs (texts columns), query, source⟩
    return { catalog with relations := catalog.relations ++ [(⟨schema, name⟩, .view view)] }
  | some "index" :: some schema :: some name :: some table :: some unique :: columns =>
    let index := ⟨table, texts columns, unique == "yes"⟩
    some { catalog with indexes := catalog.indexes ++ [(⟨schema, name⟩, index)] }
  | _ => none

/-- The catalog that records tell of. -/
def catalogOfRecords? (records : List (List Field)) : Option Catalog :=
  (records.zipIdx).foldlM (fun catalog (record, number) => addRecord catalog number record)
    { schemas := [] }

/-! ### Files -/

/-- The bytes that a database file begins with. -/
def fileHeader : List UInt8 := [0xFF, 0x4C, 0x44, 0x47, 0x52, 0x01]

/-- The file of a catalog. -/
def fileOf (catalog : Catalog) : ByteArray :=
  let text := String.ofList ((catalogRecords catalog).flatMap writeRecord)
  ⟨(fileHeader ++ text.toUTF8.toList).toArray⟩

/-- The catalog of a file. A file without a byte holds a new database. -/
def catalogOfFile? (file : ByteArray) : Option Catalog := do
  if file.isEmpty then return {}
  let bytes := file.toList
  if !fileHeader.isPrefixOf bytes then none
  else
    let text ← String.fromUTF8? ⟨(bytes.drop fileHeader.length).toArray⟩
    let records ← readRecords? (text.length + 1) text.toList
    catalogOfRecords? records

end MigrationLedger.Engine
