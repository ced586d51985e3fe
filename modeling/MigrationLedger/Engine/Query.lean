/-
# Queries

An expression is bound before it is evaluated: its names are replaced by the
positions of columns and its parameters by their texts, and it is checked that
what it compares can be compared. So a query that cannot be right is refused
even when no row would ever show it.

Nothing is compared with a null value and nothing follows from one: a condition
is true, false or null, and only the rows for which it is true are kept.
-/

import MigrationLedger.Engine.Catalog

namespace MigrationLedger.Engine

/-- What a statement is executed with: the texts of its parameters and the
current moment. -/
structure Context where
  parameters : List String
  now : Int
  deriving DecidableEq, Repr

/-- What is known of the type of an expression. A text that stands in the
statement or comes from a parameter takes the type that is asked of it. -/
inductive Kind
  | nothing
  | wording
  | typed (type : DataType)
  deriving DecidableEq, Repr

/-- The type of an expression of which nothing else is asked. -/
def Kind.settled : Kind → DataType
  | .nothing => .int32
  | .wording => .text
  | .typed type => type

/-- An expression whose names are resolved. -/
inductive Term
  | constant (value : Value)
  | column (position : Nat)
  | countRows
  | count (operand : Term)
  | minus (operand : Term)
  | cast (type : DataType) (operand : Term)
  | compare (comparison : Comparison) (left right : Term)
  | isNull (operand : Term)
  | not (operand : Term)
  | and (left right : Term)
  | or (left right : Term)
  deriving DecidableEq, Repr

/-! ### Evaluation -/

/-- The conjunction of two conditions, of which null is one that may be true. -/
def bothHold : Option Bool → Option Bool → Option Bool
  | some false, _ | _, some false => some false
  | some true, some true => some true
  | _, _ => none

/-- The truth value of a value. -/
def truthOf : Value → Option Bool
  | .boolean value => some value
  | _ => none

/-- The value of a truth value. -/
def ofTruth : Option Bool → Value
  | some value => .boolean value
  | none => .null

/-- The number with the other sign. -/
def Value.minus : Value → Value
  | .integer value => .integer (-value)
  | .decimal units scale => .decimal (-units) scale
  | .binary format value => .binary format value.negate
  | _ => .null

namespace Term

/-- The value of a term for one of the rows of a group. -/
def eval (group : List (List Value)) (row : List Value) : Term → Except EngineError Value
  | .constant value => .ok value
  | .column position => .ok (row[position]?.getD .null)
  | .countRows => .ok (.integer group.length)
  | .count operand => do
    let values ← group.mapM fun row => operand.eval group row
    return .integer (values.countP fun value => !value.isNull)
  | .minus operand => do return (← operand.eval group row).minus
  | .cast type operand => do (← operand.eval group row).castTo type
  | .compare comparison left right => do
    let left ← left.eval group row
    let right ← right.eval group row
    if left.isNull || right.isNull then return .null
    else return .boolean (comparison.holds (left.order right))
  | .isNull operand => do return .boolean (← operand.eval group row).isNull
  | .not operand => do
    return ofTruth ((truthOf (← operand.eval group row)).map fun value => !value)
  | .and left right => do
    let left := truthOf (← left.eval group row)
    return ofTruth (bothHold left (truthOf (← right.eval group row)))
  | .or left right => do
    let left := (truthOf (← left.eval group row)).map fun value => !value
    let right := (truthOf (← right.eval group row)).map fun value => !value
    return ofTruth ((bothHold left right).map fun value => !value)

/-- The condition is true of a row. -/
def holds (condition : Term) (row : List Value) : Except EngineError Bool := do
  return truthOf (← condition.eval [] row) == some true

end Term

/-! ### Binding -/

/-- The columns that a name can stand for, and what the table that they belong to
is called. -/
structure Scope where
  schema : Option String
  table : Option String
  columns : List (String × DataType)
  deriving DecidableEq, Repr

namespace Scope

/-- No columns. -/
def empty : Scope := ⟨none, none, []⟩

/-- The table of a scope has a name. -/
def isTable (scope : Scope) (name : String) : Bool :=
  scope.table == some (foldName name)

/-- Where the column with a name stands, and its type. -/
def column (scope : Scope) (name : List String) : Except EngineError (Nat × DataType) :=
  let find := fun column : String =>
    match scope.columns.findIdx? fun entry => foldName entry.1 == foldName column with
    | some position =>
      .ok (position, ((scope.columns[position]?).map (·.2)).getD .int32)
    | none => .error (.unknownColumn column)
  match name with
  | [column] => find column
  | [table, column] => if scope.isTable table then find column else .error (.unknownColumn column)
  | [schema, table, column] =>
    if scope.schema == some (foldName schema) && scope.isTable table then find column
    else .error (.unknownColumn column)
  | _ => .error (.unknownColumn (".".intercalate name))

end Scope

namespace Expr

/-- The expression counts rows. -/
def isAggregate : Expr → Bool
  | .countRows | .count _ => true
  | .constant _ | .parameter _ | .column _ | .currentTimestamp => false
  | .minus operand | .cast _ operand | .isNull operand | .not operand => operand.isAggregate
  | .compare _ left right | .and left right | .or left right =>
    left.isAggregate || right.isAggregate

/-- The expression needs the value of a column of a single row. -/
def needsRow : Expr → Bool
  | .column _ => true
  | .countRows | .count _ | .constant _ | .parameter _ | .currentTimestamp => false
  | .minus operand | .cast _ operand | .isNull operand | .not operand => operand.needsRow
  | .compare _ left right | .and left right | .or left right => left.needsRow || right.needsRow

/-- The bound operands of a comparison, made comparable. -/
def matched : Term × Kind → Term × Kind → Except EngineError (Term × Term)
  | (left, .wording), (right, .typed type) => .ok (.cast type left, right)
  | (left, .typed type), (right, .wording) => .ok (left, .cast type right)
  | (left, .typed type), (right, .typed other) =>
    if type.comparable other then .ok (left, right)
    else .error (.incomparable type.title other.title)
  | (left, _), (right, _) => .ok (left, right)

/-- A bound expression as a condition. -/
def asCondition : Term × Kind → Except EngineError Term
  | (term, .typed .boolean) | (term, .nothing) => .ok term
  | (term, .wording) => .ok (.cast .boolean term)
  | (term, .typed type) =>
    if type.isNumeric then .ok (.cast .boolean term)
    else .error (.incomparable type.title DataType.boolean.title)

/-- The kind of a value that stands in a statement. -/
def constantKind : Value → Kind
  | .null => .nothing
  | .boolean _ => .typed .boolean
  | .integer value =>
    .typed (if value < Nat.pow 2 31 then .int32 else if value < Nat.pow 2 63 then .int64
      else .integer true 128)
  | .decimal units scale => .typed (.decimal (max (toString units.natAbs).length scale) scale)
  | .binary format _ => .typed (.binary format)
  | .text _ => .wording
  | .date _ => .typed .date
  | .time _ => .typed .time
  | .timestamp _ => .typed .timestamp
  | .other _ => .typed (.other "OTHER")

/-- Resolve the names of an expression. -/
def bind (context : Context) (scope : Scope) : Expr → Except EngineError (Term × Kind)
  | .constant value => .ok (.constant value, constantKind value)
  | .parameter index =>
    .ok (.constant (.text (context.parameters[index]?.getD "")), .wording)
  | .column name => do
    let (position, type) ← scope.column name
    return (.column position, .typed type)
  | .currentTimestamp => .ok (.constant (.timestamp context.now), .typed .timestamp)
  | .countRows => .ok (.countRows, .typed .int64)
  | .count operand => do
    if operand.isAggregate then throw .misplacedAggregate
    let (operand, _) ← operand.bind context scope
    return (.count operand, .typed .int64)
  | .minus operand => do
    match ← operand.bind context scope with
    | (operand, .typed type) =>
      if type.isNumeric then return (.minus operand, .typed type)
      else throw (.incomparable "-" type.title)
    | (operand, .nothing) => return (operand, .nothing)
    | (_, .wording) => throw (.incomparable "-" DataType.text.title)
  | .cast type operand => do
    let (operand, _) ← operand.bind context scope
    return (.cast type operand, .typed type)
  | .compare comparison left right => do
    let left ← left.bind context scope
    let right ← right.bind context scope
    let (left, right) ← matched left right
    return (.compare comparison left right, .typed .boolean)
  | .isNull operand => do
    let (operand, _) ← operand.bind context scope
    return (.isNull operand, .typed .boolean)
  | .not operand => do
    return (.not (← asCondition (← operand.bind context scope)), .typed .boolean)
  | .and left right => do
    let left ← asCondition (← left.bind context scope)
    let right ← asCondition (← right.bind context scope)
    return (.and left right, .typed .boolean)
  | .or left right => do
    let left ← asCondition (← left.bind context scope)
    let right ← asCondition (← right.bind context scope)
    return (.or left right, .typed .boolean)

/-- Resolve the names of a condition on rows. Without a condition every row is
kept. -/
def bindCondition (context : Context) (scope : Scope) : Option Expr → Except EngineError Term
  | none => .ok (.constant (.boolean true))
  | some condition => do
    if condition.isAggregate then throw .misplacedAggregate
    asCondition (← condition.bind context scope)

/-- The name of a column that shows an expression. -/
def title : Expr → String
  | .column name => name.getLast?.getD ""
  | .countRows => "count_star()"
  | .cast _ operand => operand.title
  | _ => ""

end Expr

/-! ### Queries of one table -/

/-- A table or view as a query sees it. -/
structure Source where
  scope : Scope
  rows : List (List Value)
  deriving DecidableEq, Repr

/-- A source without columns that has one row, for queries that name no table. -/
def Source.single : Source := ⟨.empty, [[]]⟩

/-- How the tables and views that a query names are read. -/
abbrev SourceReader := List String → Except EngineError Source

/-- A table of results, or the failure to compute its rows. -/
structure Result where
  columns : List (String × Kind)
  rows : Except EngineError (List (List Value))

namespace Select

/-- The expressions that are selected, with their names. -/
def expressions (scope : Scope) : List Selection → Except EngineError (List (String × Expr))
  | [] => .ok []
  | .all table :: rest => do
    if scope.columns.isEmpty then throw (.unknownColumn "*")
    match table with
    | some table => if !scope.isTable table then throw (.missing .table table)
    | none => pure ()
    let columns := scope.columns.map fun (name, _) => (name, Expr.column [name])
    return columns ++ (← expressions scope rest)
  | .item expression label :: rest => do
    return (label.getD expression.title, expression) :: (← expressions scope rest)

/-- The source of a query. A label hides the name of the table. -/
def source (read : SourceReader) (select : Select) : Except EngineError Source :=
  match select.origin with
  | none => .ok .single
  | some origin => do
    let source ← read origin.name
    match origin.label with
    | none => return source
    | some label =>
      return { source with
        scope := { source.scope with schema := none, table := some (foldName label) } }

/-- A query that is bound: its source, what is shown of each row, and which rows
are. -/
structure Bound where
  source : Source
  columns : List (String × Kind)
  terms : List Term
  condition : Term
  isAggregate : Bool

/-- Resolve the names of a query. -/
def bind (read : SourceReader) (context : Context) (select : Select) :
    Except EngineError Bound := do
  let source ← select.source read
  let shown ← expressions source.scope select.selections
  let condition ← Expr.bindCondition context source.scope select.condition
  let isAggregate := shown.any fun (_, expression) => expression.isAggregate
  if isAggregate && shown.any fun (_, expression) => expression.needsRow then
    throw .mixedAggregate
  let bound ← shown.mapM fun (name, expression) => do
    let (term, kind) ← expression.bind context source.scope
    return (term, name, kind)
  return { source, columns := bound.map (·.2), terms := bound.map (·.1), condition, isAggregate }

/-- The rows that a query shows, each with the row that it is taken from. -/
def Bound.rows (bound : Bound) : Except EngineError (List (List Value × List Value)) := do
  let kept ← bound.source.rows.filterM bound.condition.holds
  if bound.isAggregate then
    let values ← bound.terms.mapM (Term.eval kept [])
    return [(values, [])]
  else
    kept.mapM fun row => do
      let values ← bound.terms.mapM (Term.eval [] row)
      return (values, row)

end Select

/-! ### Order and union -/

namespace Query

/-- What a row is ordered by: one of its columns, or a term for the row that it is
taken from. -/
inductive KeyTerm
  | shown (position : Nat)
  | hidden (term : Term)
  deriving DecidableEq, Repr

/-- Resolve a key of an order. A number means the column at that position and the
name of a shown column means that column. -/
def bindKey (context : Context) (columns : List (String × Kind)) (hidden : Option Scope)
    (expression : Expr) : Except EngineError KeyTerm :=
  let other : Except EngineError KeyTerm :=
    match hidden with
    | some scope => do
      if expression.isAggregate then throw .misplacedAggregate
      return .hidden (← expression.bind context scope).1
    | none => .error (.unknownColumn expression.title)
  match expression with
  | .constant (.integer position) =>
    if 1 ≤ position ∧ position ≤ columns.length then .ok (.shown (position.toNat - 1))
    else .error (.unknownColumn (toString position))
  | .column [name] =>
    match columns.findIdx? fun column => foldName column.1 == foldName name with
    | some position => .ok (.shown position)
    | none => other
  | _ => other

/-- The value of a key for a row. -/
def keyValue (row : List Value × List Value) : KeyTerm → Except EngineError Value
  | .shown position => .ok (row.1[position]?.getD .null)
  | .hidden term => term.eval [] row.2

/-- The first of two lists of keys does not come after the second. -/
def inOrder : List SortKey → List Value → List Value → Bool
  | key :: keys, a :: rest, b :: others =>
    if a.isNull && b.isNull then inOrder keys rest others
    else if a.isNull then key.nullsFirst
    else if b.isNull then !key.nullsFirst
    else
      match a.order b with
      | .eq => inOrder keys rest others
      | .lt => !key.descending
      | .gt => key.descending
  | _, _, _ => true

/-- Put rows in order. Rows with equal keys keep their order. -/
def sort (keys : List SortKey) (terms : List KeyTerm) (rows : List (List Value × List Value)) :
    Except EngineError (List (List Value × List Value)) := do
  let keyed ← rows.mapM fun row => do
    return (← terms.mapM (keyValue row), row)
  return (keyed.mergeSort fun a b => inOrder keys a.1 b.1).map (·.2)

/-- The type of a column that holds values of two types. -/
def join? (a b : DataType) : Option DataType :=
  if a = b then some a
  else if a.isText || b.isText then some .text
  else
    match a, b with
    | .boolean, other | other, .boolean => if other.isNumeric then some other else none
    | .binary _, other | other, .binary _ =>
      if other.isNumeric then some (.binary .double) else none
    | .decimal width scale, other | other, .decimal width scale =>
      if other.isNumeric then some (.decimal width scale) else none
    | .integer signed bits, .integer other width =>
      some (.integer (signed || other) (max bits width))
    | .date, .timestamp | .timestamp, .date => some .timestamp
    | _, _ => none

/-- The kind of a column that holds values of two kinds. -/
def joinKind (a b : Kind) : Except EngineError Kind :=
  match a, b with
  | .nothing, other | other, .nothing => .ok other
  | a, b =>
    match join? a.settled b.settled with
    | some type => .ok (.typed type)
    | none => .error (.incomparable a.settled.title b.settled.title)

/-- A value of a column with a kind. Numbers that no text, truth value or binary
number is among stay as they are. -/
def widen (kind : Kind) (value : Value) : Except EngineError Value :=
  match kind with
  | .typed (.decimal _ _) | .typed (.integer _ _) =>
    match value with
    | .boolean flag => .ok (.integer (if flag then 1 else 0))
    | value => .ok value
  | .typed type => value.castTo type
  | _ => .ok value

/-- The columns of two results one above the other. -/
def joinColumns (a b : List (String × Kind)) : Except EngineError (List (String × Kind)) :=
  if a.length ≠ b.length then .error (.valueCount a.length b.length)
  else (a.zip b).mapM fun ((name, kind), _, other) => do return (name, ← joinKind kind other)

/-- Resolve the names of a query and compute its rows. -/
def run (read : SourceReader) (context : Context) (query : Query) : Except EngineError Result := do
  let first ← query.first.bind read context
  let others ← query.others.mapM (Select.bind read context)
  let columns ← others.foldlM (fun columns other => joinColumns columns other.columns)
    first.columns
  let hidden := if others.isEmpty && !first.isAggregate then some first.source.scope else none
  let terms ← query.keys.mapM fun key => bindKey context columns hidden key.expression
  let rows : Except EngineError (List (List Value)) := do
    let parts ← (first :: others).mapM Select.Bound.rows
    let widened ← parts.flatten.mapM fun (shown, row) => do
      if others.isEmpty then return (shown, row)
      else return (← (columns.zip shown).mapM fun ((_, kind), value) => widen kind value, row)
    return (← sort query.keys terms widened).map (·.1)
  return { columns, rows }

end Query

/-! ### Reading tables and views -/

namespace Catalog

/-- The place that the parts of a name mean. -/
def placeOf (name : List String) : Option Place :=
  match name with
  | [name] => some ⟨mainSchema, foldName name⟩
  | [schema, name] => some ⟨foldName schema, foldName name⟩
  | _ => none

/-- The place that a name means, in a schema that exists. -/
def resolve (catalog : Catalog) (kind : EntryKind) (name : List String) :
    Except EngineError Place :=
  match placeOf name with
  | none => .error (.missing kind (".".intercalate name))
  | some place =>
    if catalog.schemas.contains place.schema then .ok place
    else .error (.missing .schema place.schema)

/-- The relation with a name, and its place. -/
def relation (catalog : Catalog) (name : List String) :
    Except EngineError (Place × Relation) := do
  let place ← catalog.resolve .table name
  match catalog.relation? place with
  | some relation => return (place, relation)
  | none => throw (.missing .table place.name)

/-- Read a table or a view. A view is computed from the tables that are there
now, and has to have the columns that it had when it was made. `bound` is the
greatest number of views that may stand one upon another. -/
def source (catalog : Catalog) (context : Context) : Nat → SourceReader
  | 0, name => .error (.nestedView (".".intercalate name))
  | bound + 1, name => do
    let (place, relation) ← catalog.relation name
    match relation with
    | .table table =>
      let columns := table.columns.map fun column => (column.name, column.type)
      return ⟨⟨some place.schema, some place.name, columns⟩, table.rows.map (·.values)⟩
    | .view view =>
      let result ← view.query.run (catalog.source context bound) context
      if result.columns.map (fun column => column.2.settled) ≠ view.columns.map (·.2) then
        throw (.changedView place.name)
      return ⟨⟨some place.schema, some place.name, view.columns⟩, ← result.rows⟩

/-- The number of views that can stand one upon another. -/
def depth (catalog : Catalog) : Nat := catalog.relations.length + 1

/-- Compute a query. -/
def query (catalog : Catalog) (context : Context) (query : Query) : Except EngineError Result :=
  query.run (catalog.source context catalog.depth) context

end Catalog

end MigrationLedger.Engine
