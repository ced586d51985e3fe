/-
# Reading YAML tokens

The end of a block collection is told by indentation, and that something is a
key is known only when the colon after it is reached. The lexer therefore keeps
the indentation of the open block collections, and for each level of nesting the
place of the last token that may turn out to be a key. Tokens are only ever
appended; what a later colon puts in front of an earlier token is noted apart
and spliced in at the end.
-/

import MigrationLedger.Yaml.Property

namespace MigrationLedger.Yaml

/-- A token that may turn out to begin a key. -/
structure PossibleKey where
  /-- How many tokens precede it. -/
  position : Nat
  /-- It stands where only a key can stand. -/
  required : Bool
  index : Nat
  line : Nat
  column : Nat

/-- The lexer between two tokens. -/
structure Lexer where
  cursor : Cursor
  /-- The tokens read so far, last first. -/
  tokens : List Token := []
  /-- What to put in front of earlier tokens, by their positions. -/
  insertions : List (Nat × List Token) := []
  /-- The next token may begin a key. -/
  keyAllowed : Bool := true
  /-- The last token of this level that may be a key. -/
  possibleKey : Option PossibleKey := none
  /-- The same for the levels around each open flow collection. -/
  outerKeys : List (Option PossibleKey) := []
  /-- The first column inside the innermost open block collection. -/
  base : Nat := 0
  /-- The same for the collections around it. -/
  outerBases : List Nat := []

namespace Lexer

/-- A flow collection is open. -/
def inFlow (lexer : Lexer) : Bool :=
  !lexer.outerKeys.isEmpty

/-- Append a token. -/
def emit (lexer : Lexer) (token : Token) : Lexer :=
  { lexer with tokens := token :: lexer.tokens }

/-- Append a token and go on at a later place. -/
def emitAt (lexer : Lexer) (token : Token) (cursor : Cursor) : Lexer :=
  { lexer.emit token with cursor }

/-- Close the block collections that a token in this column cannot belong to. -/
def closeTo (column : Nat) : List Nat → Lexer → Lexer
  | [], lexer => lexer
  | outer :: more, lexer =>
    if column < lexer.base then
      closeTo column more { lexer.emit .blockEnd with base := outer, outerBases := more }
    else lexer

/-- Close block collections unless a flow collection is open. Those whose first
column is `column` or less stay open. -/
def close (lexer : Lexer) (column : Nat) : Lexer :=
  if lexer.inFlow then lexer else closeTo column lexer.outerBases lexer

/-- Open a block collection at a column, unless one is open there or a flow
collection is open. The tokens to begin it with come back. -/
def openBlock (lexer : Lexer) (column : Nat) (token : Token) : List Token × Lexer :=
  if lexer.inFlow || column < lexer.base then ([], lexer)
  else
    ([token], { lexer with base := column + 1, outerBases := lexer.base :: lexer.outerBases })

/-- A key is too far away from the place where its colon would be: on an earlier
line, or more than 1024 characters before. -/
def isStale (cursor : Cursor) (key : PossibleKey) : Bool :=
  key.line < cursor.line || key.index + 1024 < cursor.index

/-- Give up a possible key. Where only a key can stand it cannot be given up. -/
def giveUp? : Option PossibleKey → Option (Option PossibleKey)
  | some key => if key.required then none else some none
  | none => some none

/-- Give up the possible keys that are too far away. -/
def dropStale? (lexer : Lexer) : Option Lexer := do
  let check (key : Option PossibleKey) : Option (Option PossibleKey) :=
    if key.any (isStale lexer.cursor) then giveUp? key else some key
  return { lexer with
    possibleKey := ← check lexer.possibleKey
    outerKeys := ← lexer.outerKeys.mapM check }

/-- Give up the possible key of this level. -/
def dropKey? (lexer : Lexer) : Option Lexer := do
  return { lexer with possibleKey := ← giveUp? lexer.possibleKey }

/-- Note that the next token may be a key, if keys are allowed here. -/
def noteKey? (lexer : Lexer) : Option Lexer := do
  if lexer.keyAllowed then
    let lexer ← lexer.dropKey?
    let cursor := lexer.cursor
    return { lexer with
      possibleKey := some {
        position := lexer.tokens.length
        required := !lexer.inFlow && cursor.column + 1 == lexer.base
        index := cursor.index
        line := cursor.line
        column := cursor.column } }
  else return lexer

/-- Pass blanks, comments and line breaks. Tabs count as blanks where no key can
begin, and a byte order mark may begin a line. -/
def passGap : Nat → Lexer → Lexer
  | 0, lexer => lexer
  | fuel + 1, lexer =>
    let cursor := lexer.cursor
    let cursor := if cursor.column == 0 && cursor.sees '\ufeff' then cursor.skip 1 else cursor
    let tabs := lexer.inFlow || !lexer.keyAllowed
    let cursor := (cursor.skipWhile fun c => c == ' ' || (tabs && c == '\t')).skipComment
    if cursor.seesAny isBreak then
      passGap fuel { lexer with
        cursor := cursor.skipBreak
        keyAllowed := lexer.keyAllowed || !lexer.inFlow }
    else { lexer with cursor }

/-- A token that ends all block collections and stands alone. -/
def standAlone? (lexer : Lexer) : Option Lexer := do
  let lexer ← (lexer.close 0).dropKey?
  return { lexer with keyAllowed := false }

/-- Begin a flow collection. It may be a key as a whole. -/
def openFlow? (lexer : Lexer) (token : Token) : Option Lexer := do
  let lexer ← lexer.noteKey?
  return { lexer.emitAt token (lexer.cursor.skip 1) with
    keyAllowed := true
    possibleKey := none
    outerKeys := lexer.possibleKey :: lexer.outerKeys }

/-- End a flow collection. -/
def closeFlow? (lexer : Lexer) (token : Token) : Option Lexer := do
  let lexer ← lexer.dropKey?
  let lexer := { lexer.emitAt token (lexer.cursor.skip 1) with keyAllowed := false }
  match lexer.outerKeys with
  | key :: outer => return { lexer with possibleKey := key, outerKeys := outer }
  | [] => return lexer

/-- The comma between the entries of a flow collection. -/
def flowEntry? (lexer : Lexer) : Option Lexer := do
  let lexer ← lexer.dropKey?
  return { lexer.emitAt .flowEntry (lexer.cursor.skip 1) with keyAllowed := true }

/-- An indicator that may begin a block collection at its own column. -/
def indicator? (lexer : Lexer) (collection token : Token) : Option Lexer := do
  if !lexer.inFlow && !lexer.keyAllowed then none
  let (opening, lexer) := lexer.openBlock lexer.cursor.column collection
  let lexer ← (opening.foldl emit lexer).dropKey?
  return lexer.emitAt token (lexer.cursor.skip 1)

/-- The hyphen in front of an entry of a block sequence. -/
def blockEntry? (lexer : Lexer) : Option Lexer := do
  return { ← lexer.indicator? .blockSequenceStart .blockEntry with keyAllowed := true }

/-- The question mark in front of a key. -/
def key? (lexer : Lexer) : Option Lexer := do
  let lexer ← lexer.indicator? .blockMappingStart .key
  return { lexer with keyAllowed := !lexer.inFlow }

/-- The colon in front of a value. If a possible key precedes it, then that is
its key. -/
def value? (lexer : Lexer) : Option Lexer := do
  match lexer.possibleKey with
  | some key =>
    let (opening, lexer) := lexer.openBlock key.column .blockMappingStart
    return { lexer.emitAt .value (lexer.cursor.skip 1) with
      insertions := (key.position, opening ++ [.key]) :: lexer.insertions
      possibleKey := none
      keyAllowed := false }
  | none =>
    let lexer ← lexer.indicator? .blockMappingStart .value
    return { lexer with keyAllowed := !lexer.inFlow }

/-- A token that may be a key, read by `read`. -/
def content? (lexer : Lexer) (read : Cursor → Option (Token × Cursor)) : Option Lexer := do
  let lexer ← lexer.noteKey?
  let (token, cursor) ← read lexer.cursor
  return { lexer.emitAt token cursor with keyAllowed := false }

/-- A plain scalar. After a line break that follows it a key is allowed. -/
def plain? (lexer : Lexer) : Option Lexer := do
  let lexer ← lexer.noteKey?
  let (text, broken, cursor) ← Scalar.plain? lexer.inFlow lexer.base lexer.cursor
  return { lexer.emitAt (.scalar .plain text) cursor with keyAllowed := broken }

/-- A block scalar. It is no key, but the next line may begin with one. -/
def block? (lexer : Lexer) (style : ScalarStyle) : Option Lexer := do
  let lexer ← lexer.dropKey?
  let (text, cursor) ← Scalar.block? (style == .folded) lexer.base lexer.cursor
  return { lexer.emitAt (.scalar style text) cursor with keyAllowed := true }

/-- A plain scalar may begin with any character that is no indicator, and with
the indicators that need a gap after them if none follows. -/
def plainBegins (lexer : Lexer) (c : Char) : Bool :=
  let cursor := lexer.cursor
  if c == '-' then !(cursor.rest[1]?.any isBlank)
  else if c == '?' || c == ':' then !lexer.inFlow && !cursor.gapAt 1
  else
    isDark c && !(",[]\x7b\x7d#&*!|>'\"%@`".toList.contains c)

/-- Read the token that begins with the character `c`. -/
def token? (lexer : Lexer) (c : Char) : Option Lexer :=
  let cursor := lexer.cursor
  let gapFollows := cursor.gapAt 1
  if cursor.column == 0 && c == '%' then do
    let lexer ← lexer.standAlone?
    let (token, cursor) ← Property.directive? cursor
    return lexer.emitAt token cursor
  else if cursor.atMark '-' then
    lexer.standAlone?.map (·.emitAt .documentStart (cursor.skip 3))
  else if cursor.atMark '.' then
    lexer.standAlone?.map (·.emitAt .documentEnd (cursor.skip 3))
  else if c == '[' then lexer.openFlow? .flowSequenceStart
  else if c == '\x7b' then lexer.openFlow? .flowMappingStart
  else if c == ']' then lexer.closeFlow? .flowSequenceEnd
  else if c == '\x7d' then lexer.closeFlow? .flowMappingEnd
  else if c == ',' then lexer.flowEntry?
  else if c == '-' && gapFollows then lexer.blockEntry?
  else if c == '?' && (lexer.inFlow || gapFollows) then lexer.key?
  else if c == ':' && (lexer.inFlow || gapFollows) then lexer.value?
  else if c == '*' then
    lexer.content? fun cursor => (Property.name? cursor).map fun (name, cursor) =>
      (.reference name, cursor)
  else if c == '&' then
    lexer.content? fun cursor => (Property.name? cursor).map fun (name, cursor) =>
      (.anchor name, cursor)
  else if c == '!' then lexer.content? (Property.tag? lexer.inFlow)
  else if c == '|' && !lexer.inFlow then lexer.block? .literal
  else if c == '>' && !lexer.inFlow then lexer.block? .folded
  else if c == '\'' || c == '"' then
    lexer.content? fun cursor => (Scalar.quoted? c cursor).map fun (text, cursor) =>
      (.scalar .quoted text, cursor)
  else if lexer.plainBegins c then lexer.plain?
  else none

/-- Read all tokens. Every token has at least one character. -/
def run? : Nat → Lexer → Option Lexer
  | 0, _ => none
  | fuel + 1, lexer => do
    let lexer ← (passGap (lexer.cursor.rest.length + 1) lexer).dropStale?
    match lexer.cursor.rest with
    | [] => lexer.standAlone?
    | c :: _ => run? fuel (← (lexer.close (lexer.cursor.column + 1)).token? c)

/-- Tokens with the insertions put in front of those that they belong to. The
positions of the insertions ascend; `position` is that of the first token. -/
def splice : Nat → List (Nat × List Token) → List Token → List Token
  | _, insertions, [] => insertions.flatMap (·.2)
  | position, [], token :: rest => token :: splice (position + 1) [] rest
  | position, insertion :: more, token :: rest =>
    if insertion.1 == position then
      insertion.2 ++ token :: splice (position + 1) more rest
    else token :: splice (position + 1) (insertion :: more) rest

end Lexer

/-- The tokens of a text. -/
def Token.ofText? (text : String) : Option (List Token) := do
  let characters := text.toList
  if !characters.all isPrintable then none
  let lexer ← Lexer.run? (characters.length + 1) { cursor := { rest := characters } }
  let insertions := lexer.insertions.mergeSort fun a b => a.1 ≤ b.1
  return Lexer.splice 0 insertions lexer.tokens.reverse

end MigrationLedger.Yaml
