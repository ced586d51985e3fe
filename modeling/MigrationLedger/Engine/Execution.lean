/-
# Executing statements

A statement is executed against a catalog and answers with effects; it changes
nothing itself. Finding out what a statement means can fail, and so can carrying
it out. The two are told apart, since a statement is given its parameters in
between.
-/

import MigrationLedger.Engine.Query

namespace MigrationLedger.Engine

/-- What a statement answers. -/
inductive Answer
  | done
  | changed (count : Nat)
  | rows (rows : List (List Value))
  deriving DecidableEq, Repr

/-- What carrying out a statement comes to. -/
structure Outcome where
  effects : List Effect := []
  answer : Answer := .done
  deriving DecidableEq, Repr

/-- A statement that is understood: what carrying it out comes to, or how that
fails. -/
abbrev Prepared := Except EngineError Outcome

/-- What a statement is executed with beside its parameters: the number of the
next new row. -/
structure Execution where
  catalog : Catalog
  context : Context
  nextRow : Nat

namespace Execution

/-- The name at the first place that stands at a second place too, if names are
folded. -/
def repeated? : List String → Option String
  | [] => none
  | name :: rest =>
    if rest.any fun other => foldName other == foldName name then some name else repeated? rest

/-- Fail if a name is repeated. -/
def distinct (names : List String) : Except EngineError Unit :=
  match repeated? names with
  | some name => .error (.ambiguous name)
  | none => .ok ()

/-- The table with a name, and its place. -/
def table (e : Execution) (name : List String) : Except EngineError (Place × Table) := do
  match ← e.catalog.relation name with
  | (place, .table table) => return (place, table)
  | (place, .view _) => throw (.wrongKind place.name)

/-- The names that the columns of a table are called by. -/
def scopeOf (place : Place) (table : Table) : Scope :=
  ⟨some place.schema, some place.name,
    table.columns.map fun column => (column.name, column.type)⟩

/-- The value that a definition gives where none is given. -/
def fallback (e : Execution) (definition : ColumnDefinition) : Except EngineError Value := do
  if definition.fallback.isAggregate then throw .misplacedAggregate
  let (term, _) ← definition.fallback.bind e.context .empty
  (← term.eval [] []).castTo definition.type

/-- The column of a definition. -/
def column (e : Execution) (keys : List KeyDefinition) (definition : ColumnDefinition) :
    Except EngineError Column := do
  let primary := keys.any fun key =>
    key.primary && key.columns.any fun name => foldName name == foldName definition.name
  return {
    name := definition.name
    type := definition.type
    notNull := definition.notNull || primary
    fallback := ← e.fallback definition }

/-- Define a table. -/
def createTable (e : Execution) (otherwise : Otherwise) (name : List String)
    (columns : List ColumnDefinition) (keys : List KeyDefinition) :
    Except EngineError Prepared := do
  let place ← e.catalog.resolve .table name
  if columns.isEmpty then throw (.syntaxError place.name)
  distinct (columns.map (·.name))
  if 1 < (keys.filter (·.primary)).length then throw (.severalPrimaryKeys place.name)
  for key in keys do
    distinct key.columns
    for name in key.columns do
      if !columns.any fun column => foldName column.name == foldName name then
        throw (.unknownColumn name)
  let columns ← columns.mapM (e.column keys)
  if otherwise = .ignore && (e.catalog.relation? place).isSome then return .ok {}
  let table : Table := ⟨columns, keys.map fun key => key.columns.map foldName, []⟩
  return .ok { effects := [.createRelation place (.table table)] }

/-- Define a view. -/
def createView (e : Execution) (otherwise : Otherwise) (name : List String)
    (names : List String) (query : Query) (source : String) : Except EngineError Prepared := do
  let place ← e.catalog.resolve .view name
  let result ← e.catalog.query e.context query
  if result.columns.length < names.length then
    throw (.valueCount result.columns.length names.length)
  let titles := names ++ (result.columns.map (·.1)).drop names.length
  let columns := titles.zip (result.columns.map fun column => column.2.settled)
  if otherwise = .ignore && (e.catalog.relation? place).isSome then return .ok {}
  return .ok { effects := [.createRelation place (.view ⟨columns, query, source⟩)] }

/-- Define an index. -/
def createIndex (e : Execution) (otherwise : Otherwise) (unique : Bool) (name : String)
    (table : List String) (columns : List String) : Except EngineError Prepared := do
  let (place, table) ← e.table table
  for column in columns do
    if (table.position? (foldName column)).isNone then throw (.unknownColumn column)
  let index : Place := ⟨place.schema, foldName name⟩
  if otherwise = .ignore && (e.catalog.indexes.lookup index).isSome then return .ok {}
  return .ok { effects := [.createIndex index ⟨place.name, columns.map foldName, unique⟩] }

/-- Drop a schema, and with `cascade` what is in it. -/
def dropSchema (e : Execution) (otherwise : Otherwise) (cascade : Bool) (name : List String) :
    Except EngineError Prepared :=
  let schema := foldName (name.getLast?.getD "")
  if name.length ≠ 1 || !e.catalog.schemas.contains schema then
    if otherwise = .ignore then .ok (.ok {}) else .error (.missing .schema schema)
  else
    let places := (e.catalog.relations.map (·.1)).filter fun place => place.schema == schema
    let contents := if cascade && schema != mainSchema then places.map Effect.dropRelation else []
    .ok (.ok { effects := contents ++ [.dropSchema schema] })

/-- Drop a schema, a table, a view or an index. -/
def drop (e : Execution) (kind : EntryKind) (otherwise : Otherwise) (cascade : Bool)
    (name : List String) : Except EngineError Prepared :=
  if kind = .schema then e.dropSchema otherwise cascade name
  else
    match e.catalog.resolve kind name with
    | .error error => if otherwise = .ignore then .ok (.ok {}) else .error error
    | .ok place =>
      let missing : Except EngineError Prepared :=
        if otherwise = .ignore then .ok (.ok {}) else .error (.missing kind place.name)
      if kind = .index then
        if (e.catalog.indexes.lookup place).isSome then
          .ok (.ok { effects := [.dropIndex place] })
        else missing
      else
        match e.catalog.relation? place with
        | none => missing
        | some relation =>
          if relation.kind = kind then .ok (.ok { effects := [.dropRelation place] })
          else .error (.wrongKind place.name)

/-- Give a table another column. -/
def addColumn (e : Execution) (name : List String) (otherwise : Otherwise)
    (definition : ColumnDefinition) : Except EngineError Prepared := do
  let (place, table) ← e.table name
  let column ← e.column [] definition
  if otherwise = .ignore && (table.position? (foldName column.name)).isSome then return .ok {}
  return .ok { effects := [.addColumn place column] }

/-- The positions of columns with names. -/
def positions (table : Table) (names : List String) : Except EngineError (List Nat) := do
  distinct names
  names.mapM fun name =>
    match table.position? (foldName name) with
    | some position => .ok position
    | none => .error (.unknownColumn name)

/-- The values of a new row, from values for some columns. -/
def newValues (table : Table) (positions : List Nat) (given : List (Option Value)) :
    Except EngineError (List Value) :=
  table.columns.mapIdx (fun n column => (n, column)) |>.mapM fun (n, column) =>
    match (positions.zip given).lookup n with
    | some (some value) => value.castTo column.type
    | _ => .ok column.fallback

/-- Insert rows, with values for some columns. -/
def insertRows (e : Execution) (place : Place) (table : Table) (positions : List Nat)
    (given : List (List (Option Value))) : Prepared := do
  let rows ← given.mapM (newValues table positions)
  let rows := rows.mapIdx fun n values => ⟨e.nextRow + n, values⟩
  return { effects := [.insert place rows], answer := .changed rows.length }

/-- Insert rows. -/
def insert (e : Execution) (name : List String) (columns : Option (List String))
    (source : RowSource) : Except EngineError Prepared := do
  let (place, table) ← e.table name
  let positions ← match columns with
    | none => pure (List.range table.columns.length)
    | some names => positions table names
  let checkWidth := fun width : Nat =>
    if width = positions.length then .ok ()
    else (.error (.valueCount positions.length width) : Except EngineError Unit)
  match source with
  | .values rows =>
    let bound ← rows.mapM fun row => do
      checkWidth row.length
      row.mapM fun value =>
        match value with
        | none => .ok none
        | some expression => do
          if expression.isAggregate then throw .misplacedAggregate
          return some (← expression.bind e.context .empty).1
    return do
      let given ← bound.mapM fun row => row.mapM fun value =>
        match value with
        | none => .ok none
        | some term => some <$> Term.eval [] [] term
      e.insertRows place table positions given
  | .query query =>
    let result ← e.catalog.query e.context query
    checkWidth result.columns.length
    return do
      e.insertRows place table positions ((← result.rows).map fun row => row.map some)

/-- The rows of a table for which a condition is true. -/
def matching (condition : Term) (table : Table) : Except EngineError (List Row) :=
  table.rows.filterM fun row => condition.holds row.values

/-- Change rows. A row that is changed in a column of a key or an index gives way
to a new one. -/
def update (e : Execution) (name : List String) (changes : List (String × Option Expr))
    (condition : Option Expr) : Except EngineError Prepared := do
  let (place, table) ← e.table name
  let scope := scopeOf place table
  let positions ← positions table (changes.map (·.1))
  let terms ← changes.mapM fun (_, value) =>
    match value with
    | none => .ok none
    | some expression => do
      if expression.isAggregate then throw .misplacedAggregate
      return some (← expression.bind e.context scope).1
  let condition ← Expr.bindCondition e.context scope condition
  let indexed := (table.keys ++ (e.catalog.indexesOf place).map (·.columns)).flatten
  let moves := changes.any fun (name, _) => indexed.contains (foldName name)
  return do
    let old ← matching condition table
    let new ← old.mapM fun row => do
      let values ← table.columns.mapIdx (fun n column => (n, column)) |>.mapM fun (n, column) =>
        match (positions.zip terms).lookup n with
        | none => .ok (row.values[n]?.getD .null)
        | some none => .ok column.fallback
        | some (some term) => do (← term.eval [] row.values).castTo column.type
      return { row with values }
    let effects :=
      if old.isEmpty then []
      else if moves then
        [.remove place (old.map (·.number)),
          .insert place (new.mapIdx fun n row => { row with number := e.nextRow + n })]
      else new.map (Effect.replace place)
    return { effects, answer := .changed old.length }

/-- Remove rows. -/
def delete (e : Execution) (name : List String) (condition : Option Expr) :
    Except EngineError Prepared := do
  let (place, table) ← e.table name
  let condition ← Expr.bindCondition e.context (scopeOf place table) condition
  return do
    let rows ← matching condition table
    let effects := if rows.isEmpty then [] else [.remove place (rows.map (·.number))]
    return { effects, answer := .changed rows.length }

/-- Answer a query. -/
def select (e : Execution) (query : Query) : Except EngineError Prepared := do
  let result ← e.catalog.query e.context query
  return do return { answer := .rows (← result.rows) }

/-- Execute a statement that is not about transactions. -/
def statement (e : Execution) : Statement → Except EngineError Prepared
  | .createSchema otherwise name =>
    match name with
    | [name] =>
      if otherwise = .ignore && e.catalog.schemas.contains (foldName name) then .ok (.ok {})
      else .ok (.ok { effects := [.createSchema (foldName name)] })
    | _ => .error (.missing .schema (".".intercalate name))
  | .createTable otherwise name columns keys => e.createTable otherwise name columns keys
  | .createView otherwise name columns query source =>
    e.createView otherwise name columns query source
  | .createIndex otherwise unique name table columns =>
    e.createIndex otherwise unique name table columns
  | .drop kind otherwise cascade name => e.drop kind otherwise cascade name
  | .addColumn table otherwise column => e.addColumn table otherwise column
  | .insert table columns source => e.insert table columns source
  | .update table changes condition => e.update table changes condition
  | .delete table condition => e.delete table condition
  | .select query => e.select query
  | .beginTransaction | .commit | .rollback => .ok (.ok {})

end Execution

end MigrationLedger.Engine
