/-
# Statements of the engine

The part of the language that the engine carries out: the definition of schemas,
tables, views and indexes, the change of rows, and queries of one table or view
at a time. Names keep their spelling; that it does not matter in which case a
name is written is decided where names are looked up.
-/

import MigrationLedger.Engine.Error
import MigrationLedger.Engine.Value

namespace MigrationLedger.Engine

/-- How two values are compared. -/
inductive Comparison
  | equal
  | different
  | less
  | atMost
  | greater
  | atLeast
  deriving DecidableEq, Repr

/-- The comparison holds of values in this order. -/
def Comparison.holds : Comparison → Ordering → Bool
  | .equal, order => order == .eq
  | .different, order => order != .eq
  | .less, order => order == .lt
  | .atMost, order => order != .gt
  | .greater, order => order == .gt
  | .atLeast, order => order != .lt

/-- An expression. A column is named by its parts, the last of which is its own
name; parameters are counted from zero. -/
inductive Expr
  | constant (value : Value)
  | parameter (index : Nat)
  | column (name : List String)
  | currentTimestamp
  | countRows
  | count (operand : Expr)
  | minus (operand : Expr)
  | cast (type : DataType) (operand : Expr)
  | compare (comparison : Comparison) (left right : Expr)
  | isNull (operand : Expr)
  | not (operand : Expr)
  | and (left right : Expr)
  | or (left right : Expr)
  deriving DecidableEq, Repr

/-- What is selected: all columns, of the table with a name if one is given, or
an expression under an optional name. -/
inductive Selection
  | all (table : Option String)
  | item (expression : Expr) (label : Option String)
  deriving DecidableEq, Repr

/-- A table or view that is queried, by the parts of its name. -/
structure Origin where
  name : List String
  label : Option String
  deriving DecidableEq, Repr

/-- A query of at most one table. -/
structure Select where
  selections : List Selection
  origin : Option Origin
  condition : Option Expr
  deriving DecidableEq, Repr

/-- What rows are ordered by. -/
structure SortKey where
  expression : Expr
  descending : Bool
  nullsFirst : Bool
  deriving DecidableEq, Repr

/-- The rows of several queries one after another, in some order. -/
structure Query where
  first : Select
  others : List Select
  keys : List SortKey
  deriving DecidableEq, Repr

/-- A column that is defined, with its value where none is given. -/
structure ColumnDefinition where
  name : String
  type : DataType
  notNull : Bool
  fallback : Expr
  deriving DecidableEq, Repr

/-- A set of columns in which no two rows agree. The columns of a primary key are
never null either. -/
structure KeyDefinition where
  primary : Bool
  columns : List String
  deriving DecidableEq, Repr

/-- What a new row is taken from. -/
inductive RowSource
  | values (rows : List (List (Option Expr)))
  | query (query : Query)
  deriving DecidableEq, Repr

/-- What is done when the thing to be made is there, or the thing to be dropped
is not. -/
inductive Otherwise
  | fail
  | ignore
  deriving DecidableEq, Repr

/-- A statement. Schemas, tables, views and indexes are named by the parts of
their names; a new index belongs to the schema of its table. -/
inductive Statement
  | createSchema (otherwise : Otherwise) (name : List String)
  | createTable (otherwise : Otherwise) (name : List String)
      (columns : List ColumnDefinition) (keys : List KeyDefinition)
  | createView (otherwise : Otherwise) (name : List String) (columns : List String)
      (query : Query) (source : String)
  | createIndex (otherwise : Otherwise) (unique : Bool) (name : String)
      (table : List String) (columns : List String)
  | drop (kind : EntryKind) (otherwise : Otherwise) (cascade : Bool) (name : List String)
  | addColumn (table : List String) (otherwise : Otherwise) (column : ColumnDefinition)
  | insert (table : List String) (columns : Option (List String)) (source : RowSource)
  | update (table : List String) (changes : List (String × Option Expr))
      (condition : Option Expr)
  | delete (table : List String) (condition : Option Expr)
  | select (query : Query)
  | beginTransaction
  | commit
  | rollback
  deriving DecidableEq, Repr

end MigrationLedger.Engine
