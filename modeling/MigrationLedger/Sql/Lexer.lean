/-
# Reading lexemes

`lexemes` cuts a statement into lexemes. Each step looks at the first character
and decides how many of the following characters belong to the same token, so
the texts of the lexemes are consecutive pieces of the statement by
construction. The only failures are literals, quoted names and block comments
that are never closed, and a name that begins with an underscore right after a
point that follows no word.
-/

import MigrationLedger.Sql.Dialect
import MigrationLedger.Text.Blank
import MigrationLedger.Text.Letter

namespace MigrationLedger.Sql

/-- Why a statement cannot be cut into tokens. -/
inductive LexProblem
  | openLiteral
  | openName (quote : Char)
  | openComment
  | openDollar
  | openTaggedDollar
  | strayUnderscore
  deriving DecidableEq, Repr

/-- The words for a problem. -/
def LexProblem.message : LexProblem → String
  | .openLiteral => "Unterminated string literal"
  | .openName quote =>
    "Expected close delimiter '" ++ String.singleton quote ++ "' before EOF."
  | .openComment => "Unexpected EOF while in a multi-line comment"
  | .openDollar => "Unterminated dollar-quoted string"
  | .openTaggedDollar => "Unterminated dollar-quoted, expected $"
  | .strayUnderscore => "Unexpected character '_'"

/-- A problem met while reading one token, and how many characters after the
beginning of the token it lies. -/
structure LexFault where
  problem : LexProblem
  after : Nat

namespace Lexer

/-- Characters up to and including the first occurrence of `mark`. -/
def through (mark : List Char) : List Char → Option Nat
  | [] => none
  | c :: rest =>
    if mark.isPrefixOf (c :: rest) then some mark.length
    else (through mark rest).map (· + 1)

/-- Characters up to and including the quote that closes a quoted text. A quote
written twice does not close it. -/
def closing (quote : Char) : List Char → Option Nat
  | [] => none
  | [c] => if c = quote then some 1 else none
  | a :: b :: rest =>
    if a = quote then
      if b = quote then (closing quote rest).map (· + 2) else some 1
    else (closing quote (b :: rest)).map (· + 1)

/-- What a bare name begins with. -/
def isNameStart (c : Char) : Bool :=
  Text.isLetter c || c == '_'

/-- What a bare name goes on with. -/
def isNamePart (c : Char) : Bool :=
  Text.isLetter c || Text.isAsciiDigit c || c == '$' || c == '_'

/-- Operators of more than one character, the longer before the shorter that
begin them. -/
def operators : List String :=
  ["!~~*", "!~~", "!~*", "!~", "!=", "!!", "->>", "->", "||/", "||", "|/", "=>", "==",
    "<=>", "<=", "<>", "<<", "<@", ">=", ">>", "::", ":=", "&&", "^@", "#>>", "#>", "#-",
    "~~*", "~~", "~*", "@@", "@>", "@?", "//"]

/-- The operator or single character that begins a text. -/
def symbol (c : Char) (rest : List Char) : Token × Nat :=
  match operators.find? fun operator => operator.toList.isPrefixOf (c :: rest) with
  | some operator => (.symbol operator, operator.length - 1)
  | none => (.symbol (String.singleton c), 0)

/-- An exponent: a letter, an optional sign and at least one digit. -/
def exponent (text : List Char) : List Char :=
  match text with
  | e :: sign :: digit :: rest =>
    if e == 'e' || e == 'E' then
      if (sign == '+' || sign == '-') && Text.isAsciiDigit digit then
        e :: sign :: digit :: rest.takeWhile Text.isAsciiDigit
      else if Text.isAsciiDigit sign then
        e :: sign :: (digit :: rest).takeWhile Text.isAsciiDigit
      else []
    else []
  | [e, digit] =>
    if (e == 'e' || e == 'E') && Text.isAsciiDigit digit then text else []
  | _ => []

/-- The number that begins a text, or the point that begins it when no digit
follows; with the count of its characters. -/
def number (text : List Char) : Token × Nat :=
  let whole := text.takeWhile Text.isAsciiDigit
  let rest := text.drop whole.length
  match whole, rest with
  | ['0'], 'x' :: more =>
    let digits := more.takeWhile Text.isHexDigit
    (.literal .hexadecimal (String.ofList digits), digits.length + 2)
  | _, _ =>
    let point := rest.takeWhile (· == '.') |>.take 1
    let fraction := (rest.drop point.length).takeWhile Text.isAsciiDigit
    let body := whole ++ point ++ fraction
    if body = ['.'] then (.symbol ".", 1)
    else
      let digits := body ++ exponent (text.drop body.length)
      let long := (text.drop digits.length).head? == some 'L'
      (.number (String.ofList digits) long, digits.length + if long then 1 else 0)

/-- A quoted text whose opening quote has been read and stands `before`
characters into the token. -/
def quoted (quote : Char) (problem : LexProblem) (before : Nat) (rest : List Char)
    (token : String → Token) : Except LexFault (Token × Nat) :=
  match closing quote rest with
  | some count => .ok (token (String.ofList (rest.take (count - 1))), before + count)
  | none => .error ⟨problem, before⟩

/-- A bare word. -/
def word (c : Char) (rest : List Char) : Token × Nat :=
  let more := rest.takeWhile isNamePart
  (.word ⟨String.ofList (c :: more), none⟩, more.length)

/-- What a dollar sign begins: text between two pairs of dollar signs, text
between two equal tags, or a placeholder. -/
def dollar (rest : List Char) : Except LexFault (Token × Nat) :=
  match rest with
  | '$' :: body =>
    match through ['$', '$'] body with
    | some count => .ok (.literal .dollar (String.ofList (body.take (count - 2))), count + 1)
    | none => .error ⟨.openDollar, rest.length + 1⟩
  | _ =>
    let tag := rest.takeWhile fun c => Text.isLetter c || Text.isNumeral c || c == '_'
    match rest.drop tag.length with
    | '$' :: body =>
      let mark := '$' :: tag ++ ['$']
      match through mark body with
      | some count =>
        .ok (.literal .dollar (String.ofList (body.take (count - mark.length))),
          tag.length + 1 + count)
      | none => .error ⟨.openTaggedDollar, rest.length + 1⟩
    | _ => .ok (.placeholder (String.ofList ('$' :: tag)), tag.length)

/-- The token that begins with `c`, and how many of the characters `rest`
belong to it. `previous` is the token before, blanks included. -/
def scan (previous : Option Token) (c : Char) (rest : List Char) :
    Except LexFault (Token × Nat) :=
  let next := rest.head?
  if c == '\r' then .ok (.blank, if next == some '\n' then 1 else 0)
  else if Text.isBlank c then .ok (.blank, 0)
  else if (c == 'n' || c == 'N') && next == some '\'' then
    quoted '\'' .openLiteral 1 (rest.drop 1) (.literal .national)
  else if (c == 'x' || c == 'X') && next == some '\'' then
    quoted '\'' .openLiteral 1 (rest.drop 1) (.literal .hexadecimal)
  else if c == '\'' then quoted c .openLiteral 0 rest (.literal .plain)
  else if c == '"' || c == '`' then
    quoted c (.openName c) 0 rest fun value => .word ⟨value, some c⟩
  else if c == '.' && next == some '_' then
    match previous with
    | some (.word _) => .ok (.symbol ".", 0)
    | _ => .error ⟨.strayUnderscore, 0⟩
  else if Text.isAsciiDigit c || c == '.' then
    let (token, count) := number (c :: rest)
    .ok (token, count - 1)
  else if c == '-' && next == some '-' then
    .ok (.blank, (through ['\n'] rest).getD rest.length)
  else if c == '/' && next == some '*' then
    match through ['*', '/'] (rest.drop 1) with
    | some count => .ok (.blank, count + 1)
    | none => .error ⟨.openComment, rest.length + 1⟩
  else if isNameStart c then .ok (word c rest)
  else if c == '$' then dollar rest
  else if c == '?' then
    let digits := rest.takeWhile Text.isNumeral
    .ok (.placeholder (String.ofList (c :: digits)), digits.length)
  else .ok (symbol c rest)

/-- The lexemes of a text that begins at `place` after the token `previous`. -/
def lexemesFrom (previous : Option Token) (place : Location) :
    List Char → Except LexError (List Lexeme)
  | [] => .ok []
  | c :: rest =>
    match scan previous c rest with
    | .error fault =>
      .error ⟨fault.problem.message, place.advance ((c :: rest).take fault.after)⟩
    | .ok (token, count) =>
      let text := c :: rest.take count
      match lexemesFrom (some token) (place.advance text) (rest.drop count) with
      | .error error => .error error
      | .ok lexemes => .ok (⟨token, text, place⟩ :: lexemes)
termination_by text => text.length
decreasing_by all_goals (simp only [List.length_cons, List.length_drop]; omega)

end Lexer

/-- Cut a statement into lexemes. -/
def lexemes (statement : String) : Except LexError (List Lexeme) :=
  Lexer.lexemesFrom none .start statement.toList

end MigrationLedger.Sql
