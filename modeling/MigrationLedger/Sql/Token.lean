/-
# Tokens of a statement

A statement is read as a list of lexemes: a token, the characters it was read
from and the place where they begin. Blanks and comments are tokens too, so the
characters of all lexemes together are the statement itself, and a name can be
changed in place without touching anything around it.
-/

import MigrationLedger.Text.Search

namespace MigrationLedger.Sql

/-- A place in a text: line and column of a character, both counted from one.
Lines end at line feeds and columns count characters. -/
structure Location where
  line : Nat
  column : Nat
  deriving DecidableEq, Repr

namespace Location

/-- The place of the first character of a text. -/
def start : Location := ⟨1, 1⟩

/-- The place that follows a character. -/
def next (place : Location) (c : Char) : Location :=
  if c = '\n' then ⟨place.line + 1, 1⟩ else ⟨place.line, place.column + 1⟩

/-- The place that follows a run of characters. -/
def advance (place : Location) (text : List Char) : Location :=
  text.foldl next place

end Location

/-- A word: a bare name or keyword, or a name in quotes. The value of a quoted
word is the text between its quotes as it was written, doubled quotes
included. -/
structure Word where
  value : String
  quote : Option Char
  deriving DecidableEq, Repr

/-- How a text literal was written. -/
inductive LiteralKind
  | plain
  | national
  | hexadecimal
  | dollar
  deriving DecidableEq, Repr

/-- One token. `symbol` holds operators, punctuation and any other character
that begins no other token. -/
inductive Token
  | word (word : Word)
  | number (digits : String) (long : Bool)
  | literal (kind : LiteralKind) (body : String)
  | placeholder (name : String)
  | blank
  | symbol (text : String)
  deriving DecidableEq, Repr

/-- Blanks and comments separate tokens and mean nothing. -/
def Token.isBlank : Token → Bool
  | .blank => true
  | _ => false

/-- A token with the characters it was read from and their place. -/
structure Lexeme where
  token : Token
  text : List Char
  location : Location
  deriving DecidableEq, Repr

/-- Every other of two adjacent quotes: the text that a quoted name or literal
with the given body stands for. -/
def undouble (quote : Char) : List Char → List Char
  | [] => []
  | [c] => [c]
  | a :: b :: rest =>
    if a = quote ∧ b = quote then quote :: undouble quote rest
    else a :: undouble quote (b :: rest)

/-- The name that a word stands for. -/
def Word.name (word : Word) : String :=
  match word.quote with
  | none => word.value
  | some quote => String.ofList (undouble quote word.value.toList)

/-- The name that a token spells when it stands for an identifier: a word or a
plain literal. -/
def Token.identifier? : Token → Option String
  | .word spelled => some spelled.name
  | .literal .plain body => some (String.ofList (undouble '\'' body.toList))
  | _ => none

/-- Capital letters of a character, where they are ASCII. A few letters outside
ASCII have ASCII capitals, so a keyword can be written with them. -/
def asciiCapitals (c : Char) : List Char :=
  if 'a' ≤ c ∧ c ≤ 'z' then [Char.ofNat (c.toNat - 32)]
  else if c.toNat < 128 then [c]
  else
    match c.toNat with
    | 0xDF => ['S', 'S']
    | 0x131 => ['I']
    | 0x17F => ['S']
    | 0xFB00 => ['F', 'F']
    | 0xFB01 => ['F', 'I']
    | 0xFB02 => ['F', 'L']
    | 0xFB03 => ['F', 'F', 'I']
    | 0xFB04 => ['F', 'F', 'L']
    | 0xFB05 => ['S', 'T']
    | 0xFB06 => ['S', 'T']
    | _ => [c]

/-- The keyword that a bare word spells, in capitals. Quoted words are never
keywords and give the empty text. -/
def Word.keyword (word : Word) : String :=
  match word.quote with
  | none => String.ofList (word.value.toList.flatMap asciiCapitals)
  | some _ => ""

end MigrationLedger.Sql
