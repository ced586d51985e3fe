/-
# The ways to read one token

The lexer looks at the first character of a text, sometimes at the second one too, and
decides by a chain of tests how the token is read. `Scans` lists what can come of it, one
constructor for each way, with the facts that the tests have established by then. Later
modules argue by these cases and do not look at the chain again.
-/

import MigrationLedger.Sql.Lexer

namespace MigrationLedger.Sql.Lexer

variable {text rest : List Char} {c : Char} {previous : Option Token} {token : Token}
  {count : Nat}

/-- A character of the tag between two dollar signs. -/
def isTagPart (c : Char) : Bool := Text.isLetter c || Text.isNumeral c || c == '_'

/-- The token that begins with `c`, and how many of the characters behind it belong to
it. -/
inductive Scans : Char → List Char → Token → Nat → Prop
  | /-- A carriage return and a line feed are one blank. -/
    lineEnd (others : List Char) : Scans '\r' ('\n' :: others) .blank 1
  | /-- Any other blank is a token of its own. -/
    blank {c : Char} {rest : List Char} (isBlank : Text.isBlank c = true) : Scans c rest .blank 0
  | /-- A letter may tell the kind of the quoted text behind it. -/
    prefixed {c : Char} {others : List Char} {inside : Nat} (kind : LiteralKind)
      (letter : c ∈ ['n', 'N', 'x', 'X']) (closed : closing '\'' others = some inside) :
      Scans c ('\'' :: others) (.literal kind (String.ofList (others.take (inside - 1))))
        (1 + inside)
  | /-- Text between single quotes. -/
    literal {rest : List Char} {inside : Nat} (closed : closing '\'' rest = some inside) :
      Scans '\'' rest (.literal .plain (String.ofList (rest.take (inside - 1)))) inside
  | /-- A name between quotes of another kind. -/
    name {quote : Char} {rest : List Char} {inside : Nat} (isQuote : quote = '"' ∨ quote = '`')
      (closed : closing quote rest = some inside) :
      Scans quote rest (.word ⟨String.ofList (rest.take (inside - 1)), some quote⟩) inside
  | /-- A point in front of a name that begins with an underscore. -/
    point (others : List Char) : Scans '.' ('_' :: others) (.symbol ".") 0
  | /-- A number, or a point. -/
    number {c : Char} {rest : List Char} (starts : (Text.isAsciiDigit c || c == '.') = true) :
      Scans c rest (number (c :: rest)).1 ((number (c :: rest)).2 - 1)
  | /-- A comment up to the end of its line. -/
    lineComment (others : List Char) :
      Scans '-' ('-' :: others) .blank ((through ['\n'] others).getD others.length + 1)
  | /-- A comment up to its closing. -/
    blockComment {others : List Char} {inside : Nat}
      (closed : through ['*', '/'] others = some inside) :
      Scans '/' ('*' :: others) .blank (inside + 1)
  | /-- A bare word. -/
    word {c : Char} {rest : List Char} (starts : isNameStart c = true) :
      Scans c rest (word c rest).1 (word c rest).2
  | /-- Text between dollar signs, with or without a tag. -/
    dollar {rest : List Char} {count : Nat} (body : String) :
      Scans '$' rest (.literal .dollar body) count
  | /-- A placeholder with a name. -/
    tag (rest : List Char) :
      Scans '$' rest (.placeholder (String.ofList ('$' :: rest.takeWhile isTagPart)))
        (rest.takeWhile isTagPart).length
  | /-- A placeholder with a number. -/
    placeholder (rest : List Char) :
      Scans '?' rest (.placeholder (String.ofList ('?' :: rest.takeWhile Text.isNumeral)))
        (rest.takeWhile Text.isNumeral).length
  | /-- An operator of several characters. -/
    operator {c : Char} {rest : List Char} {operator : String} (member : operator ∈ operators)
      (begins : operator.toList <+: c :: rest) :
      Scans c rest (.symbol operator) (operator.length - 1)
  | /-- Any other character. It opens neither a quoted text nor a comment. -/
    single {c : Char} {rest : List Char} (noText : c ≠ '\'') (noName : c ≠ '"')
      (noLine : ¬ (c = '-' ∧ rest.head? = some '-'))
      (noBlock : ¬ (c = '/' ∧ rest.head? = some '*')) :
      Scans c rest (.symbol (String.singleton c)) 0

theorem exists_of_quoted {quote : Char} {problem : LexProblem} {before : Nat}
    {make : String → Token}
    (read : quoted quote problem before text make = .ok (token, count)) :
    ∃ inside, closing quote text = some inside ∧
      token = make (String.ofList (text.take (inside - 1))) ∧ count = before + inside := by
  rw [quoted] at read
  split at read
  · cases read
    exact ⟨_, ‹_›, rfl, rfl⟩
  · cases read

theorem scans_of_prefixed {problem : LexProblem} {kind : LiteralKind}
    (letter : c ∈ ['n', 'N', 'x', 'X']) (opened : rest.head? = some '\'')
    (read : quoted '\'' problem 1 (rest.drop 1) (.literal kind) = .ok (token, count)) :
    Scans c rest token count := by
  obtain ⟨others, rfl⟩ := List.head?_eq_some_iff.mp opened
  obtain ⟨inside, closed, rfl, rfl⟩ := exists_of_quoted read
  exact .prefixed kind letter closed

/-- A dollar sign begins a literal, or a placeholder with the letters and digits behind
it. -/
theorem scans_of_dollar (read : dollar rest = .ok (token, count)) : Scans '$' rest token count := by
  unfold dollar at read
  dsimp only at read
  split at read
  · split at read <;> cases read
    exact .dollar _
  · split at read
    · split at read <;> cases read
      exact .dollar _
    · cases read
      exact .tag rest

/-- What is no other token is an operator or a single character. -/
theorem scans_symbol (noText : c ≠ '\'') (noName : c ≠ '"')
    (noLine : ¬ (c = '-' ∧ rest.head? = some '-'))
    (noBlock : ¬ (c = '/' ∧ rest.head? = some '*')) :
    Scans c rest (symbol c rest).1 (symbol c rest).2 := by
  rw [symbol]
  split
  · rename_i operator found
    have begins := List.find?_some found
    exact .operator (List.mem_of_find?_eq_some found) (List.isPrefixOf_iff_prefix.mp begins)
  · exact .single noText noName noLine noBlock

/-- Every token that is read is read in one of these ways. -/
theorem scans_of_scan (scanned : scan previous c rest = .ok (token, count)) :
    Scans c rest token count := by
  unfold scan at scanned
  dsimp only at scanned
  by_cases isReturn : (c == '\r') = true
  · rw [if_pos isReturn] at scanned
    obtain rfl := beq_iff_eq.mp isReturn
    cases scanned
    by_cases lineFeed : (rest.head? == some '\n') = true
    · rw [if_pos lineFeed]
      obtain ⟨others, rfl⟩ := List.head?_eq_some_iff.mp (beq_iff_eq.mp lineFeed)
      exact .lineEnd others
    · rw [if_neg lineFeed]
      exact .blank rfl
  rw [if_neg isReturn] at scanned
  by_cases isBlank : Text.isBlank c = true
  · rw [if_pos isBlank] at scanned
    cases scanned
    exact .blank isBlank
  rw [if_neg isBlank] at scanned
  by_cases isNational : ((c == 'n' || c == 'N') && rest.head? == some '\'') = true
  · rw [if_pos isNational] at scanned
    simp only [Bool.and_eq_true, Bool.or_eq_true, beq_iff_eq] at isNational
    obtain ⟨letter, opened⟩ := isNational
    exact scans_of_prefixed (by rcases letter with rfl | rfl <;> simp) opened scanned
  rw [if_neg isNational] at scanned
  by_cases isHexadecimal : ((c == 'x' || c == 'X') && rest.head? == some '\'') = true
  · rw [if_pos isHexadecimal] at scanned
    simp only [Bool.and_eq_true, Bool.or_eq_true, beq_iff_eq] at isHexadecimal
    obtain ⟨letter, opened⟩ := isHexadecimal
    exact scans_of_prefixed (by rcases letter with rfl | rfl <;> simp) opened scanned
  rw [if_neg isHexadecimal] at scanned
  by_cases isLiteral : (c == '\'') = true
  · rw [if_pos isLiteral] at scanned
    obtain rfl := beq_iff_eq.mp isLiteral
    obtain ⟨inside, closed, rfl, rfl⟩ := exists_of_quoted scanned
    rw [Nat.zero_add]
    exact .literal closed
  rw [if_neg isLiteral] at scanned
  by_cases isName : (c == '"' || c == '`') = true
  · rw [if_pos isName] at scanned
    obtain ⟨inside, closed, rfl, rfl⟩ := exists_of_quoted scanned
    rw [Nat.zero_add]
    exact .name (by simpa using isName) closed
  rw [if_neg isName] at scanned
  by_cases isPoint : (c == '.' && rest.head? == some '_') = true
  · rw [if_pos isPoint] at scanned
    simp only [Bool.and_eq_true, beq_iff_eq] at isPoint
    obtain ⟨rfl, opened⟩ := isPoint
    obtain ⟨others, rfl⟩ := List.head?_eq_some_iff.mp opened
    split at scanned <;> cases scanned
    exact .point others
  rw [if_neg isPoint] at scanned
  by_cases isNumber : (Text.isAsciiDigit c || c == '.') = true
  · rw [if_pos isNumber] at scanned
    cases scanned
    exact .number isNumber
  rw [if_neg isNumber] at scanned
  by_cases isLine : (c == '-' && rest.head? == some '-') = true
  · rw [if_pos isLine] at scanned
    simp only [Bool.and_eq_true, beq_iff_eq] at isLine
    obtain ⟨rfl, again⟩ := isLine
    obtain ⟨others, rfl⟩ := List.head?_eq_some_iff.mp again
    cases scanned
    -- The second dash is no line feed, so it only adds one to the count.
    have size : (through ['\n'] ('-' :: others)).getD ('-' :: others).length =
        (through ['\n'] others).getD others.length + 1 := by
      rw [through, if_neg (by simp)]
      cases through ['\n'] others <;> rfl
    rw [size]
    exact .lineComment others
  rw [if_neg isLine] at scanned
  by_cases isBlock : (c == '/' && rest.head? == some '*') = true
  · rw [if_pos isBlock] at scanned
    simp only [Bool.and_eq_true, beq_iff_eq] at isBlock
    obtain ⟨rfl, star⟩ := isBlock
    obtain ⟨others, rfl⟩ := List.head?_eq_some_iff.mp star
    split at scanned <;> cases scanned
    exact .blockComment ‹_›
  rw [if_neg isBlock] at scanned
  by_cases startsName : isNameStart c = true
  · rw [if_pos startsName] at scanned
    cases scanned
    exact .word startsName
  rw [if_neg startsName] at scanned
  by_cases isDollar : (c == '$') = true
  · rw [if_pos isDollar] at scanned
    obtain rfl := beq_iff_eq.mp isDollar
    exact scans_of_dollar scanned
  rw [if_neg isDollar] at scanned
  by_cases isPlaceholder : (c == '?') = true
  · rw [if_pos isPlaceholder] at scanned
    obtain rfl := beq_iff_eq.mp isPlaceholder
    cases scanned
    exact .placeholder rest
  rw [if_neg isPlaceholder] at scanned
  simp only [Bool.or_eq_true, beq_iff_eq, not_or] at isLiteral isName
  simp only [Bool.and_eq_true, beq_iff_eq] at isLine isBlock
  have scans := scans_symbol isLiteral isName.1 isLine isBlock
  rwa [Except.ok.inj scanned] at scans

end MigrationLedger.Sql.Lexer
