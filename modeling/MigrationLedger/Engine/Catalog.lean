/-
# Catalogs

A catalog holds all that a database keeps: schemas, the tables and views in
them, and the indexes of tables. Everything that a statement does to a database
is a list of effects on its catalog, and an effect that breaks a rule of the
catalog is refused. The same effects are applied twice: to what a transaction
sees when the statement is executed, and to what everyone sees when the
transaction is committed.

The rows of a table bear numbers, which no other row of the database bears, so
that an effect on a row means the same row wherever it is applied.
-/

import MigrationLedger.Engine.Cast
import MigrationLedger.Engine.Statement

namespace MigrationLedger.Engine

/-- A name with its ASCII letters in lower case. Names that differ in nothing
else are the same name. -/
def foldName (name : String) : String :=
  String.ofList (name.toList.map Char.toLower)

/-- The schema that names without one belong to. -/
def mainSchema : String := "main"

/-- The full name of something in a schema. Both parts are folded. -/
structure Place where
  schema : String
  name : String
  deriving DecidableEq, Repr

/-- A column of a table. -/
structure Column where
  name : String
  type : DataType
  notNull : Bool
  fallback : Value
  deriving DecidableEq, Repr

/-- A row with its number. -/
structure Row where
  number : Nat
  values : List Value
  deriving DecidableEq, Repr

/-- A table. No two of its rows agree in all columns of a key, which are given by
their folded names. -/
structure Table where
  columns : List Column
  keys : List (List String)
  rows : List Row
  deriving DecidableEq, Repr

/-- A view: a query, its text, and the columns that it had when it was made. -/
structure View where
  columns : List (String × DataType)
  query : Query
  source : String
  deriving DecidableEq, Repr

/-- What can be queried. -/
inductive Relation
  | table (table : Table)
  | view (view : View)
  deriving DecidableEq, Repr

/-- An index of a table of the same schema. -/
structure Index where
  table : String
  columns : List String
  unique : Bool
  deriving DecidableEq, Repr

/-- All that a database keeps. -/
structure Catalog where
  schemas : List String := [mainSchema]
  relations : List (Place × Relation) := []
  indexes : List (Place × Index) := []
  deriving DecidableEq, Repr

/-- One change of a catalog. -/
inductive Effect
  | createSchema (name : String)
  | dropSchema (name : String)
  | createRelation (place : Place) (relation : Relation)
  | dropRelation (place : Place)
  | createIndex (place : Place) (index : Index)
  | dropIndex (place : Place)
  | addColumn (place : Place) (column : Column)
  | insert (place : Place) (rows : List Row)
  | replace (place : Place) (row : Row)
  | remove (place : Place) (numbers : List Nat)
  deriving DecidableEq, Repr

namespace Relation

/-- The kind of a relation. -/
def kind : Relation → EntryKind
  | .table _ => .table
  | .view _ => .view

end Relation

namespace Table

/-- Where a column with a folded name stands. -/
def position? (table : Table) (name : String) : Option Nat :=
  table.columns.findIdx? fun column => foldName column.name == name

/-- The values of a row in some columns; nothing if one of them is null, since
null agrees with nothing. -/
def keyOf? (table : Table) (columns : List String) (row : Row) : Option (List Value) :=
  let values := columns.map fun name =>
    ((table.position? name).bind fun n => row.values[n]?).getD .null
  if values.any Value.isNull then none else some values

/-- Two lists of values are equal. -/
def sameKey : List Value → List Value → Bool
  | [], [] => true
  | a :: rest, b :: others => a.order b == .eq && sameKey rest others
  | _, _ => false

/-- No two of some rows agree in all of some columns. -/
def agreeNowhere (table : Table) (columns : List String) : List Row → Bool
  | [] => true
  | row :: rest =>
    (match table.keyOf? columns row with
      | none => true
      | some key =>
        !rest.any fun other => (table.keyOf? columns other).any (sameKey key)) &&
      table.agreeNowhere columns rest

/-- The column that may not be null but is null in a row. -/
def missingValue? (table : Table) (row : Row) : Option Column :=
  ((table.columns.zip row.values).find? fun (column, value) =>
    column.notNull && value.isNull).map (·.1)

end Table

namespace Catalog

/-- The relation at a place. -/
def relation? (catalog : Catalog) (place : Place) : Option Relation :=
  catalog.relations.lookup place

/-- The table at a place. -/
def table? (catalog : Catalog) (place : Place) : Option Table :=
  match catalog.relation? place with
  | some (.table table) => some table
  | _ => none

/-- The indexes of the table at a place. -/
def indexesOf (catalog : Catalog) (place : Place) : List Index :=
  (catalog.indexes.filter fun (spot, index) =>
    spot.schema == place.schema && index.table == place.name).map (·.2)

/-- The sets of columns of a table in which no two rows may agree. -/
def keysOf (catalog : Catalog) (place : Place) (table : Table) : List (List String) :=
  table.keys ++ (catalog.indexesOf place).filterMap fun index =>
    if index.unique then some index.columns else none

/-- Something is kept in a schema. -/
def isUsed (catalog : Catalog) (schema : String) : Bool :=
  catalog.relations.any fun entry => entry.1.schema == schema

/-- Put a table that is there already in order again: every row has a value for
each column, none is null that may not be, and the rows agree in no key. -/
def setTable (catalog : Catalog) (place : Place) (table : Table) :
    Except EngineError Catalog :=
  if table.rows.any fun row => row.values.length != table.columns.length then
    .error (.conflict place.name)
  else
    match table.rows.findSome? table.missingValue? with
    | some column => .error (.nullNotAllowed column.name)
    | none =>
      if (catalog.keysOf place table).all fun columns => table.agreeNowhere columns table.rows then
        .ok { catalog with
          relations := catalog.relations.map fun entry =>
            if entry.1 = place then (place, .table table) else entry }
      else .error (.duplicateKey place.name)

/-- Change the table at a place. -/
def changeTable (catalog : Catalog) (place : Place) (change : Table → Table) :
    Except EngineError Catalog :=
  match catalog.table? place with
  | some table => catalog.setTable place (change table)
  | none => .error (.missing .table place.name)

/-- Carry out an effect. -/
def apply (catalog : Catalog) : Effect → Except EngineError Catalog
  | .createSchema name =>
    if catalog.schemas.contains name then .error (.existing .schema name)
    else .ok { catalog with schemas := catalog.schemas ++ [name] }
  | .dropSchema name =>
    if !catalog.schemas.contains name then .error (.missing .schema name)
    else if name == mainSchema || catalog.isUsed name then .error (.inUse name)
    else .ok { catalog with schemas := catalog.schemas.filter (· != name) }
  | .createRelation place relation =>
    if !catalog.schemas.contains place.schema then .error (.missing .schema place.schema)
    else if (catalog.relation? place).isSome then .error (.existing relation.kind place.name)
    else .ok { catalog with relations := catalog.relations ++ [(place, relation)] }
  | .dropRelation place =>
    if (catalog.relation? place).isNone then .error (.missing .table place.name)
    else
      .ok { catalog with
        relations := catalog.relations.filter fun entry => entry.1 != place
        indexes := catalog.indexes.filter fun (spot, index) =>
          !(spot.schema == place.schema && index.table == place.name) }
  | .createIndex place index => do
    if (catalog.indexes.lookup place).isSome then throw (.existing .index place.name)
    let added := { catalog with indexes := catalog.indexes ++ [(place, index)] }
    added.changeTable ⟨place.schema, index.table⟩ id
  | .dropIndex place =>
    if (catalog.indexes.lookup place).isNone then .error (.missing .index place.name)
    else .ok { catalog with indexes := catalog.indexes.filter fun entry => entry.1 != place }
  | .addColumn place column =>
    match catalog.table? place with
    | none => .error (.missing .table place.name)
    | some table =>
      if (table.position? (foldName column.name)).isSome then
        .error (.existing .column column.name)
      else
        catalog.changeTable place fun table =>
          { table with
            columns := table.columns ++ [column]
            rows := table.rows.map fun row =>
              { row with values := row.values ++ [column.fallback] } }
  | .insert place rows =>
    catalog.changeTable place fun table => { table with rows := table.rows ++ rows }
  | .replace place row =>
    catalog.changeTable place fun table =>
      { table with
        rows := table.rows.map fun old => if old.number = row.number then row else old }
  | .remove place numbers =>
    catalog.changeTable place fun table =>
      { table with rows := table.rows.filter fun row => !numbers.contains row.number }

/-- Carry out effects one after another. -/
def applyAll (catalog : Catalog) (effects : List Effect) : Except EngineError Catalog :=
  effects.foldlM apply catalog

end Catalog

namespace Effect

/-- The row that an effect changes or removes. -/
def rowsChanged : Effect → Option (Place × List Nat)
  | .replace place row => some (place, [row.number])
  | .remove place numbers => some (place, numbers)
  | _ => none

/-- What an effect defines, changes the definition of, or drops. -/
def defined? : Effect → Option (EntryKind × Place)
  | .createSchema name | .dropSchema name => some (.schema, ⟨name, ""⟩)
  | .createRelation place _ | .dropRelation place | .addColumn place _ => some (.table, place)
  | .createIndex place _ | .dropIndex place => some (.index, place)
  | _ => none

/-- The table whose rows an effect changes. -/
def changed? : Effect → Option Place
  | .insert place _ | .replace place _ | .remove place _ => some place
  | _ => none

/-- The table that an effect gives another column. -/
def altered? : Effect → Option Place
  | .addColumn place _ => some place
  | _ => none

/-- An effect cannot stand beside an effect of another transaction that it does
not see: both define the same thing, both change the same row, or one changes
rows of a table that the other alters. -/
def conflicts (effect other : Effect) : Bool :=
  (effect.defined?.isSome && effect.defined? == other.defined?) ||
    (match effect.rowsChanged, other.rowsChanged with
      | some (place, numbers), some (otherPlace, others) =>
        place == otherPlace && numbers.any others.contains
      | _, _ => false) ||
    (effect.changed?.isSome && effect.changed? == other.altered?)

end Effect

end MigrationLedger.Engine
