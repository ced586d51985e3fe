/-
# Recognising statements

A statement is recognised for one purpose: to learn which names in it stand for
tables. A recogniser therefore returns no syntax tree. It walks over the tokens
and leaves a *mention* for each name whose role matters. Failing recognisers
give their tokens and mentions back, so the mentions of an accepted statement
belong to the reading that was accepted.

Recognisers know the lexemes of the whole statement by their type. A mention can
only be made of a name that one of these lexemes spells, and it keeps the lexeme,
so every mention has a place in the statement.

Repetition is bounded by the number of tokens of the whole text: every turn of a
loop reads at least one of them.
-/

import MigrationLedger.Sql.Lexer

namespace MigrationLedger.Sql

/-- A token as a recogniser sees it: blanks are gone, but it is known whether
one stood in front. An operator of two closing brackets can be read by halves. -/
structure Item where
  lexeme : Lexeme
  keyword : String
  joined : Bool
  halved : Bool

namespace Item

/-- Drop the blanks of a statement. -/
def ofLexemes : Bool → List Lexeme → List Item
  | _, [] => []
  | joined, lexeme :: rest =>
    match lexeme.token with
    | .blank => ofLexemes false rest
    | .word word => ⟨lexeme, word.keyword, joined, false⟩ :: ofLexemes true rest
    | _ => ⟨lexeme, "", joined, false⟩ :: ofLexemes true rest

/-- The token, or what is left of it. -/
def token (item : Item) : Token :=
  if item.halved then .symbol ">" else item.lexeme.token

/-- The token is this operator or punctuation. -/
def isSymbol (item : Item) (text : String) : Bool :=
  item.token == .symbol text

/-- The token is a word. -/
def isWord (item : Item) : Bool :=
  match item.token with
  | .word _ => true
  | _ => false

/-- The items of a statement are made from its lexemes. -/
theorem lexeme_mem {item : Item} {joined : Bool} {lexemes : List Lexeme}
    (member : item ∈ ofLexemes joined lexemes) : item.lexeme ∈ lexemes := by
  induction lexemes generalizing joined with
  | nil => cases member
  | cons lexeme rest ih =>
      rw [ofLexemes] at member
      split at member
      · exact List.mem_cons_of_mem _ (ih member)
      all_goals
        rcases List.mem_cons.mp member with rfl | later
        · exact List.mem_cons_self
        · exact List.mem_cons_of_mem _ (ih later)

/-- What is left of an operator spells no name. -/
theorem lexeme_identifier? {item : Item} {name : String}
    (spelled : item.token.identifier? = some name) :
    item.lexeme.token.identifier? = some name := by
  rw [token] at spelled
  split at spelled
  · cases spelled
  · exact spelled

end Item

/-- An item that comes from a given statement. -/
structure Occurrence (whole : List Lexeme) extends Item where
  written : lexeme ∈ whole

namespace Occurrence

variable {whole : List Lexeme}

/-- The items of a statement. -/
def ofLexemes (whole : List Lexeme) : List (Occurrence whole) :=
  (Item.ofLexemes false whole).pmap Occurrence.mk fun _ => Item.lexeme_mem

/-- The name that an item spells. -/
def identifier (item : Occurrence whole) {name : String}
    (spelled : item.token.identifier? = some name) : Identifier whole :=
  ⟨name, item.lexeme, item.written, Item.lexeme_identifier? spelled⟩

/-- The name that an item spells, if it is a word or a plain literal. -/
def identifier? (item : Occurrence whole) : Option (Identifier whole) :=
  match spelled : item.token.identifier? with
  | some _ => some (item.identifier spelled)
  | none => none

/-- The name that an item spells, if it is a word. -/
def word? (item : Occurrence whole) : Option (Identifier whole) :=
  if item.isWord then item.identifier? else none

end Occurrence

/-- What a recogniser walks over, and what it has found. -/
structure Cursor (whole : List Lexeme) where
  items : List (Occurrence whole)
  mentions : List (Mention whole)
  /-- Inside the options of a column `NOT NULL` ends an expression and begins
  the next option. -/
  inColumn : Bool
  /-- More than the tokens of the whole text, so that no loop that reads a token
  in each turn is cut short. -/
  turns : Nat

/-- At the beginning of a text, with nothing found. -/
def Cursor.start (whole : List Lexeme) : Cursor whole :=
  let items := Occurrence.ofLexemes whole
  ⟨items, [], false, items.length + 1⟩

/-- Why a recogniser stops. Nesting beyond the limit ends recognition as a
whole, while a mismatch lets another reading be tried. -/
inductive ParseFailure
  | mismatch
  | tooDeep
  deriving DecidableEq, Repr

/-- A recogniser of parts of a statement. -/
abbrev Parse (whole : List Lexeme) := StateT (Cursor whole) (Except ParseFailure)

namespace Parse

variable {whole : List Lexeme} {α : Type}

/-- This reading does not fit. -/
def mismatch : Parse whole α := fun _ => .error .mismatch

/-- The nesting is too deep for any reading. -/
def tooDeep : Parse whole α := fun _ => .error .tooDeep

/-- The token `n` places ahead. -/
def peekAt (n : Nat) : Parse whole (Option (Occurrence whole)) := fun cursor =>
  .ok (cursor.items[n]?, cursor)

/-- The next token. -/
def peek : Parse whole (Option (Occurrence whole)) := peekAt 0

/-- The next token without what else is known of it. -/
def peekToken : Parse whole (Option Token) := do
  return (← peek).map fun item => item.token

/-- The keyword `n` places ahead; the empty text stands for any other token. -/
def keywordAt (n : Nat) : Parse whole (Option String) := do
  return (← peekAt n).map fun item => item.keyword

/-- Pass over one token, if there is one. -/
def skip : Parse whole Unit := modify fun cursor => { cursor with items := cursor.items.drop 1 }

/-- Read the next token, if there is one. -/
def next? : Parse whole (Option (Occurrence whole)) := do
  let item ← peek
  skip
  return item

/-- Read the next token without what else is known of it. -/
def nextToken? : Parse whole (Option Token) := do
  return (← next?).map fun item => item.token

/-- Read `p`, or nothing when it does not fit. -/
def attempt (p : Parse whole α) : Parse whole (Option α) := fun cursor =>
  match p cursor with
  | .ok (a, after) => .ok (some a, after)
  | .error .mismatch => .ok (none, cursor)
  | .error .tooDeep => .error .tooDeep

/-- Read `p`, or report its failure, whichever it is, and read nothing. -/
def outcome (p : Parse whole α) : Parse whole (Except ParseFailure α) := fun cursor =>
  match p cursor with
  | .ok (a, after) => .ok (.ok a, after)
  | .error failure => .ok (.error failure, cursor)

/-- Read `p`, or `q` when `p` does not fit. -/
def either (p q : Parse whole α) : Parse whole α := do
  match ← attempt p with
  | some a => return a
  | none => q

/-- Require that a reading fits. -/
def require (p : Parse whole Bool) : Parse whole Unit := do
  if ← p then return () else mismatch

/-- The next token is this operator or punctuation. -/
def peekSymbol (text : String) : Parse whole Bool := do
  return (← peek).any (·.isSymbol text)

/-- Read this operator or punctuation if it is next. -/
def symbol (text : String) : Parse whole Bool := do
  if ← peekSymbol text then skip; return true else return false

/-- Read these operators or punctuation if they are next. -/
def symbols (texts : List String) : Parse whole Bool := do
  let items := (← get).items.take texts.length
  if items.length = texts.length ∧ (items.zip texts).all fun pair => pair.1.isSymbol pair.2 then
    modify fun cursor => { cursor with items := cursor.items.drop texts.length }
    return true
  else
    return false

/-- Read one of these operators or punctuation if one is next. -/
def oneSymbol (texts : List String) : Parse whole Bool := do
  if (← peek).any fun item => texts.any item.isSymbol then skip; return true else return false

/-- Read this operator or punctuation. -/
def expect (text : String) : Parse whole Unit := require (symbol text)

/-- The next token is this keyword. -/
def peekKeyword (name : String) : Parse whole Bool := do
  return (← peek).any (·.keyword == name)

/-- The next token is one of these keywords. -/
def peekOneOf (names : List String) : Parse whole Bool := do
  return (← peek).any fun item => names.contains item.keyword

/-- Read this keyword if it is next. -/
def keyword (name : String) : Parse whole Bool := do
  if ← peekKeyword name then skip; return true else return false

/-- Read these keywords if all of them are next. -/
def keywords (names : List String) : Parse whole Bool := do
  let items := (← get).items.take names.length
  if items.length = names.length ∧ (items.zip names).all fun pair => pair.1.keyword == pair.2 then
    modify fun cursor => { cursor with items := cursor.items.drop names.length }
    return true
  else
    return false

/-- Read one of these keywords if one is next. -/
def oneOf (names : List String) : Parse whole (Option String) := do
  match ← peek with
  | some item =>
    if names.contains item.keyword then skip; return some item.keyword else return none
  | none => return none

/-- Read one of these keywords if one is next, and forget which. -/
def optional (names : List String) : Parse whole Unit := do
  let _ ← oneOf names

/-- Read this keyword. -/
def expectKeyword (name : String) : Parse whole Unit := require (keyword name)

/-- Read these keywords. -/
def expectKeywords (names : List String) : Parse whole Unit := names.forM expectKeyword

/-- Read one of these keywords. -/
def expectOneOf (names : List String) : Parse whole String := do
  match ← oneOf names with
  | some name => return name
  | none => mismatch

/-- Read `p` after this keyword, if the keyword is next. -/
def after (name : String) (p : Parse whole Unit) : Parse whole Unit := do
  if ← keyword name then p

/-- Read `p` after these keywords, if they are next. -/
def afterAll (names : List String) (p : Parse whole Unit) : Parse whole Unit := do
  if ← keywords names then p

/-- A bound on the turns of a loop. -/
def turns : Parse whole Nat := do return (← get).turns

/-- Turns of `step` until it answers `false`, at most `fuel` of them. -/
def loopFor (step : Parse whole Bool) : Nat → Parse whole Unit
  | 0 => return ()
  | fuel + 1 => do if ← step then loopFor step fuel

/-- Repeat `step` until it answers `false`. -/
def loop (step : Parse whole Bool) : Parse whole Unit := do
  loopFor step (← turns)

/-- The recogniser that `body` describes in terms of itself, unrolled `fuel`
times. -/
def unroll (body : Parse whole α → Parse whole α) : Nat → Parse whole α
  | 0 => mismatch
  | fuel + 1 => fun cursor => body (unroll body fuel) cursor

/-- The recogniser that `body` describes in terms of itself. A token has to be
read before each nested use, so the number of tokens bounds the nesting. -/
def recursive (body : Parse whole α → Parse whole α) : Parse whole α := fun cursor =>
  unroll body cursor.turns cursor

/-- Keywords that cannot be the name of a column without `AS`. -/
def reservedForColumn : List String :=
  ["WITH", "EXPLAIN", "ANALYZE", "SELECT", "WHERE", "GROUP", "SORT", "HAVING", "ORDER", "TOP",
    "LATERAL", "VIEW", "LIMIT", "OFFSET", "FETCH", "UNION", "EXCEPT", "EXCLUDE", "INTERSECT",
    "MINUS", "CLUSTER", "DISTRIBUTE", "RETURNING", "VALUES", "FROM", "INTO", "END"]

/-- Keywords that cannot be the name of a table without `AS`. -/
def reservedForTable : List String :=
  ["WITH", "EXPLAIN", "ANALYZE", "SELECT", "WHERE", "GROUP", "SORT", "HAVING", "ORDER", "PIVOT",
    "UNPIVOT", "TOP", "LATERAL", "VIEW", "LIMIT", "OFFSET", "FETCH", "UNION", "EXCEPT",
    "INTERSECT", "MINUS", "ON", "JOIN", "INNER", "CROSS", "FULL", "LEFT", "RIGHT", "NATURAL",
    "USING", "CLUSTER", "DISTRIBUTE", "GLOBAL", "ANTI", "SEMI", "RETURNING", "ASOF",
    "MATCH_CONDITION", "OUTER", "SET", "QUALIFY", "WINDOW", "END", "FOR", "PARTITION",
    "PREWHERE", "SETTINGS", "FORMAT", "START", "CONNECT", "MATCH_RECOGNIZE", "SAMPLE",
    "TABLESAMPLE", "FROM", "OPEN"]

/-- A list ends where no comma follows. A comma may also trail: nothing that
could be another member comes after it. -/
def listEnds : Parse whole Bool := do
  if ← symbol "," then
    match ← peek with
    | none => return true
    | some item =>
      return reservedForColumn.contains item.keyword ||
        [")", ";", "]", "\x7d"].any item.isSymbol
  else
    return true

/-- One or more `p`, separated by commas. -/
def commaList (p : Parse whole Unit) : Parse whole Unit := do
  p
  loop do
    if ← listEnds then return false
    p
    return true

/-- One or more `p`, separated by commas, with no comma at the end. -/
def strictCommaList (p : Parse whole Unit) : Parse whole Unit := do
  p
  loop do
    if ← symbol "," then p; return true else return false

/-- A list of `p`, possibly empty, up to the symbol `close`, which is left. -/
def commaListUntil (p : Parse whole Unit) (close : String) : Parse whole Unit := do
  if ← peekSymbol close then return ()
  if (← peekSymbol ",") && (← peekAt 1).any (·.isSymbol close) then skip else commaList p

/-- `p` between parentheses. -/
def parenthesized (p : Parse whole α) : Parse whole α := do
  expect "("
  let a ← p
  expect ")"
  return a

/-- Read `p` with column options told apart from expressions, or not. -/
def within (inColumn : Bool) (p : Parse whole α) : Parse whole α := do
  let outer := (← get).inColumn
  modify fun cursor => { cursor with inColumn }
  let a ← p
  modify fun cursor => { cursor with inColumn := outer }
  return a

/-- Leave a mention. -/
def mention (role : Role) (first : Identifier whole) (later : List String) : Parse whole Unit :=
  modify fun cursor => { cursor with mentions := ⟨role, first, later⟩ :: cursor.mentions }

/-- Read a statement that is part of another one. Only the outermost statement
drops tables and declares foreign keys for itself. -/
def nested (p : Parse whole α) : Parse whole α := do
  let before := (← get).mentions.length
  let a ← p
  modify fun cursor =>
    let fresh := cursor.mentions.length - before
    { cursor with
      mentions := (cursor.mentions.take fresh).map (fun m =>
        match m.role with
        | .dropTarget => { m with role := .aside }
        | .foreignKey => { m with role := .otherForeignKey }
        | _ => m) ++ cursor.mentions.drop fresh }
  return a

end Parse

end MigrationLedger.Sql
