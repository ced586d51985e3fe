/-
# Failures of the engine

Every failure of a statement has a cause. The engine hands on nothing but words,
and its callers recognise a missing table by them, so the words for each cause
are part of its behaviour: a table that is to be created although it is there
already is reported in words that a missing table is reported in too.
-/

import MigrationLedger.Database.Error

namespace MigrationLedger.Engine

/-- The kinds of things that a database keeps under a name. -/
inductive EntryKind
  | table
  | view
  | schema
  | index
  | column
  | type
  deriving DecidableEq, Repr

/-- The name of a kind. -/
def EntryKind.title : EntryKind → String
  | .table => "Table"
  | .view => "View"
  | .schema => "Schema"
  | .index => "Index"
  | .column => "Column"
  | .type => "Type"

/-- Why a statement fails. -/
inductive EngineError
  | syntaxError (near : String)
  | nothingToExecute
  | missing (kind : EntryKind) (name : String)
  | existing (kind : EntryKind) (name : String)
  | wrongKind (name : String)
  | inUse (name : String)
  | ambiguous (name : String)
  | unknownColumn (name : String)
  | valueCount (expected given : Nat)
  | parameterCount (expected given : Nat)
  | incomparable (left right : String)
  | notConvertible (text type : String)
  | mixedAggregate
  | misplacedAggregate
  | changedView (name : String)
  | nestedView (name : String)
  | severalPrimaryKeys (table : String)
  | duplicateKey (table : String)
  | nullNotAllowed (column : String)
  | conflict (name : String)
  | commitFailed
  | transactionOpen
  | noTransaction
  | transactionAborted
  | noRow
  | noNumber (text : String)
  deriving DecidableEq, Repr

namespace EngineError

/-- The words for a failure. -/
def message : EngineError → String
  | .syntaxError near => "Parser Error: syntax error at or near \"" ++ near ++ "\""
  | .nothingToExecute => "No statement to execute"
  | .missing kind name =>
    "Catalog Error: " ++ kind.title ++ " with name " ++ name ++ " does not exist!"
  | .existing kind name =>
    "Catalog Error: " ++ kind.title ++ " with name \"" ++ name ++ "\" already exists!"
  | .wrongKind name => "Catalog Error: " ++ name ++ " is an object of another kind"
  | .inUse name =>
    "Dependency Error: Cannot drop entry \"" ++ name ++
      "\" because there are entries that depend on it"
  | .ambiguous name => "Binder Error: Duplicate column name \"" ++ name ++ "\""
  | .unknownColumn name =>
    "Binder Error: Referenced column \"" ++ name ++ "\" was not found"
  | .valueCount expected given =>
    "Binder Error: " ++ toString expected ++ " columns but " ++ toString given ++
      " values were supplied"
  | .parameterCount expected given =>
    "Wrong number of parameters passed to query. Got " ++ toString given ++ ", needed " ++
      toString expected
  | .incomparable left right =>
    "Binder Error: Cannot compare values of type " ++ left ++ " and type " ++ right ++
      " - an explicit cast is required"
  | .notConvertible text type =>
    "Conversion Error: Could not convert '" ++ text ++ "' to " ++ type
  | .mixedAggregate =>
    "Binder Error: column must appear in the GROUP BY clause or be used in an aggregate function"
  | .misplacedAggregate => "Binder Error: aggregates are not allowed here"
  | .changedView name =>
    "Binder Error: Contents of view \"" ++ name ++ "\" were altered: types don't match!"
  | .nestedView name => "Binder Error: infinite recursion in view \"" ++ name ++ "\""
  | .severalPrimaryKeys table =>
    "Parser Error: \"" ++ table ++ "\" has more than one primary key"
  | .duplicateKey table =>
    "Constraint Error: Duplicate key violates a unique constraint of \"" ++ table ++ "\""
  | .nullNotAllowed column => "Constraint Error: NOT NULL constraint failed: " ++ column
  | .conflict name => "TransactionContext Error: Conflict with another transaction on " ++ name
  | .commitFailed => "TransactionContext Error: Failed to commit"
  | .transactionOpen =>
    "TransactionContext Error: cannot start a transaction within a transaction"
  | .noTransaction => "TransactionContext Error: no transaction is active"
  | .transactionAborted =>
    "TransactionContext Error: Current transaction is aborted (please ROLLBACK)"
  | .noRow => "Query returned no rows"
  | .noNumber text => "Conversion error: " ++ text ++ " is no number of 64 bits"

/-- The failure as an error of the statement that it ends. -/
def toDbError (error : EngineError) (sql : String) : DbError :=
  (DbError.ofEngineMessage error.message).withStatement sql

end EngineError

end MigrationLedger.Engine
