/-
# How tokens are spelled

What a dialect is asked to say of the characters of its tokens. Most tokens hold no quote,
no semicolon and no beginning of a comment. The others are comments, texts and names in
quotes of some kind, semicolons, and four operators that end with a dash or a slash.

The splitter passes over all of these as the dialect does, with three exceptions: text
between dollar signs and names between backticks mean nothing to it, and it sees a comment
where one of the four operators is followed by a dash or a star.
-/

import MigrationLedger.Proofs.Sql.Passing
import MigrationLedger.Sql.Dialect

namespace MigrationLedger.Sql

open Script

/-! ## Spellings -/

/-- The characters of a token that has `following` behind it. -/
inductive Spelled (following : List Char) : Token → List Char → Prop
  | semicolon : Spelled following (.symbol ";") [';']
  | /-- An operator with an end that may make a comment with what follows. -/
    operator {operator : String} (member : operator ∈ ["#-", "||/", "|/", "//"]) :
      Spelled following (.symbol operator) operator.toList
  | /-- Any other token that is written without quotes and is no comment. -/
    unmarked {token : Token} {text : List Char} (other : token ≠ .symbol ";")
      (free : Unmarked text following) : Spelled following token text
  | /-- A comment up to the end of its line. -/
    lineComment {body : List Char} (ends : EndsAtFirst ['\n'] body following) :
      Spelled following .blank ('-' :: '-' :: body)
  | /-- A comment up to its closing. -/
    blockComment {body : List Char} (ends : EndsAtFirst ['*', '/'] body following) :
      Spelled following .blank ('/' :: '*' :: body)
  | /-- Text between single quotes, with letters in front that tell its kind. -/
    literal {kind : LiteralKind} {value : String} {letters body : List Char}
      (free : Unmarked letters ['\'']) (quoted : Quoted '\'' body) :
      Spelled following (.literal kind value) (letters ++ '\'' :: body)
  | /-- A name between double quotes. -/
    name {value : String} {body : List Char} (quoted : Quoted '"' body) :
      Spelled following (.word ⟨value, some '"'⟩) ('"' :: body)
  | /-- A name between backticks. -/
    backticks {value : String} {body : List Char} (quoted : Quoted '`' body) :
      Spelled following (.word ⟨value, some '`'⟩) ('`' :: body)
  | /-- Text between dollar signs, with or without a tag. -/
    dollar {value : String} {body : List Char} :
      Spelled following (.literal .dollar value) ('$' :: body)

/-- Each lexeme is spelled as its token is in front of those behind it. -/
def AllSpelled : List Lexeme → Prop
  | [] => True
  | lexeme :: ls => Spelled (ls.flatMap Lexeme.text) lexeme.token lexeme.text ∧ AllSpelled ls

/-- The lexemes of a statement are spelled as their tokens are. -/
def Dialect.Spells (dialect : Dialect) : Prop :=
  ∀ ⦃statement : String⦄ ⦃ls : List Lexeme⦄, dialect.lexemes statement = .ok ls → AllSpelled ls

/-! ## What the splitter makes of a token -/

/-- What the splitter needs of a lexeme in front of `following`, to come over it as the
dialect does. Text between dollar signs and names between backticks have no meaning to the
splitter, so they must hold no delimiter outside of what it takes for quoted, and leave
nothing open; and four operators must not make a comment with what follows them. -/
def Lexeme.IsSpared (lexeme : Lexeme) (following : List Char) : Prop :=
  match lexeme.token with
  | .literal .dollar _ | .word ⟨_, some '`'⟩ => Passes (lexeme.text ++ following) following
  | .symbol operator =>
    (operator = "#-" → following.head? ≠ some '-') ∧
      (operator ∈ ["||/", "|/", "//"] → following.head? ≠ some '*')
  | _ => True

namespace Script

variable {text rest body later following : List Char} {c : Char} {token : Token}
  {lexeme : Lexeme}

theorem passes_of_unmarked (free : Unmarked text following) :
    Passes (text ++ following) following :=
  passes_of_isHarmless (unmarked_iff_isHarmless.mp free)

/-- An operator opens a comment at most together with what follows it. -/
theorem isHarmless_operator {operator : String} (member : operator ∈ ["#-", "||/", "|/", "//"])
    (noLine : operator = "#-" → following.head? ≠ some '-')
    (noBlock : operator ∈ ["||/", "|/", "//"] → following.head? ≠ some '*') :
    isHarmless operator.toList following.head? = true := by
  simp only [List.mem_cons, List.not_mem_nil, or_false] at member noBlock
  rcases member with rfl | rfl | rfl | rfl
  · simpa [isHarmless, opensNothing] using noLine
  all_goals simpa [isHarmless, opensNothing] using noBlock

/-- What the splitter does where the dialect reads one token: a semicolon is a delimiter,
everything else is passed over. -/
def Follows (token : Token) (text rest : List Char) : Prop :=
  if token = .symbol ";" then text = ';' :: rest else Passes text rest

theorem follows_of_passes (other : token ≠ .symbol ";") (passes : Passes text rest) :
    Follows token text rest := by
  rwa [Follows, if_neg other]

/-- The splitter follows the dialect over every lexeme that is spared. -/
theorem follows_of_spelled (spelled : Spelled following lexeme.token lexeme.text)
    (spared : lexeme.IsSpared following) :
    Follows lexeme.token (lexeme.text ++ following) following := by
  obtain ⟨token, text, place⟩ := lexeme
  rw [Lexeme.IsSpared] at spared
  dsimp only at spelled spared ⊢
  cases spelled with
  | semicolon => rfl
  | @operator operator member =>
      have other : operator ≠ ";" := by
        rintro rfl
        simp at member
      exact follows_of_passes (by simpa using other)
        (passes_of_isHarmless (isHarmless_operator member spared.1 spared.2))
  | unmarked other free => exact follows_of_passes other (passes_of_unmarked free)
  | lineComment ends => exact follows_of_passes (by simp) (passes_enclosed .lineComment ends)
  | blockComment ends => exact follows_of_passes (by simp) (passes_enclosed .blockComment ends)
  | @literal kind value letters body free quoted =>
      have harmless : isHarmless letters (some '\'') = true := unmarked_iff_isHarmless.mp free
      have front : Passes (letters ++ '\'' :: (body ++ following)) ('\'' :: (body ++ following)) :=
        passes_of_isHarmless harmless
      have quotes := quoted.passes .quotedText rfl rfl following
      rw [List.append_assoc, List.cons_append]
      exact follows_of_passes (by simp) (front.trans quotes)
  | name quoted => exact follows_of_passes (by simp) (quoted.passes .quotedName rfl rfl following)
  | backticks => exact follows_of_passes (by simp) spared
  | dollar => exact follows_of_passes (by simp) spared

end Script

end MigrationLedger.Sql
