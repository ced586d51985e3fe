/-
# The dialect of DuckDB

Statements are cut by the lexer and understood by the grammar of this project.
-/

import MigrationLedger.Sql.Grammar.Statement
import MigrationLedger.Sql.Qualifier

namespace MigrationLedger.Sql

/-- How statements for DuckDB are read. -/
def Dialect.duckDb : Dialect where
  lexemes := Sql.lexemes
  mentions? := Sql.mentions?

/-- A statement for DuckDB with the schema in front of each table of the job
store. -/
def Qualifier.qualify (q : Qualifier) (statement : String) : Except QualifyError String :=
  Dialect.duckDb.qualify q statement

end MigrationLedger.Sql
