/-
# Places in a YAML text

YAML gives meaning to the column at which something stands, so a reader carries
its place along with the text that is left. The characters that YAML calls
blanks and line breaks are defined here, and what a line break inside a text is
written as.
-/

namespace MigrationLedger.Yaml

/-- A character that may stand in a document: a tab, a line break, or a
character that can be printed. -/
def isPrintable (c : Char) : Bool :=
  let code := c.toNat
  code == 0x09 || code == 0x0A || code == 0x0D || (0x20 ≤ code && code ≤ 0x7E) ||
    code == 0x85 || (0xA0 ≤ code && code ≤ 0xFFFD) || 0x10000 ≤ code

/-- A space or a tab. -/
def isBlank (c : Char) : Bool :=
  c == ' ' || c == '\t'

/-- A line break, or the first half of one. -/
def isBreak (c : Char) : Bool :=
  c == '\n' || c == '\r' || c == '\u0085' || c == '\u2028' || c == '\u2029'

/-- Neither blank nor break. -/
def isDark (c : Char) : Bool :=
  !isBlank c && !isBreak c

/-- What the names of anchors, handles and directives are made of. -/
def isNameCharacter (c : Char) : Bool :=
  c.isAlphanum || c == '_' || c == '-'

/-- The text that is left, and how many characters, lines and characters of the
line have been passed. -/
structure Cursor where
  rest : List Char
  index : Nat := 0
  line : Nat := 0
  column : Nat := 0

namespace Cursor

/-- The character `n` places ahead is this one. -/
def seesAt (cursor : Cursor) (n : Nat) (c : Char) : Bool :=
  cursor.rest[n]? == some c

/-- The next character is this one. -/
def sees (cursor : Cursor) (c : Char) : Bool :=
  cursor.seesAt 0 c

/-- The next character has a property. -/
def seesAny (cursor : Cursor) (property : Char → Bool) : Bool :=
  cursor.rest.head?.any property

/-- A blank, a break or the end stands `n` places ahead. -/
def gapAt (cursor : Cursor) (n : Nat) : Bool :=
  !(cursor.rest[n]?.any isDark)

/-- Pass `n` characters that break no line. -/
def skip (cursor : Cursor) (n : Nat) : Cursor :=
  { cursor with
    rest := cursor.rest.drop n
    index := cursor.index + n
    column := cursor.column + n }

/-- The characters of the next line break, as a text keeps them: the two
separators of Unicode stay, any other break is a line feed. -/
def breakText (cursor : Cursor) : List Char :=
  match cursor.rest with
  | c :: _ =>
    if c == '\u2028' || c == '\u2029' then [c] else if isBreak c then ['\n'] else []
  | [] => []

/-- Pass a line break, if one is next. Carriage return and line feed together
are one break. -/
def skipBreak (cursor : Cursor) : Cursor :=
  match cursor.rest with
  | '\r' :: '\n' :: rest => ⟨rest, cursor.index + 2, cursor.line + 1, 0⟩
  | c :: rest => if isBreak c then ⟨rest, cursor.index + 1, cursor.line + 1, 0⟩ else cursor
  | [] => cursor

/-- The next characters with a property that no line break has, and what
follows them. -/
def span (cursor : Cursor) (property : Char → Bool) : List Char × Cursor :=
  let taken := cursor.rest.takeWhile property
  (taken, cursor.skip taken.length)

/-- Pass the next characters with a property that no line break has. -/
def skipWhile (cursor : Cursor) (property : Char → Bool) : Cursor :=
  (cursor.span property).2

/-- Pass a comment, if one is next. -/
def skipComment (cursor : Cursor) : Cursor :=
  if cursor.sees '#' then cursor.skipWhile fun c => !isBreak c else cursor

/-- A line begins with three of these characters and then a gap. -/
def atMark (cursor : Cursor) (c : Char) : Bool :=
  cursor.column == 0 && cursor.seesAt 0 c && cursor.seesAt 1 c && cursor.seesAt 2 c &&
    cursor.gapAt 3

/-- A line begins with the mark of the beginning or the end of a document. -/
def atDocumentMark (cursor : Cursor) : Bool :=
  cursor.atMark '-' || cursor.atMark '.'

/-- Pass the blanks and the comment at the end of a line, and its break. Nothing
else may stand there. -/
def finishLine? (cursor : Cursor) : Option Cursor :=
  let cursor := (cursor.skipWhile isBlank).skipComment
  if cursor.rest.isEmpty || cursor.seesAny isBreak then some cursor.skipBreak else none

end Cursor

end MigrationLedger.Yaml
