/-
# The lexer spells its tokens

For each way in which the lexer reads a token, how the characters of the token are spelled.
A token that is no operator holds no dash and no slash, except in the sign of an exponent.
Of the operators only four end with a dash or a slash.
-/

import Mathlib.Data.List.TakeWhile
import MigrationLedger.Proofs.Sql.DuckDb.Numerals
import MigrationLedger.Proofs.Sql.DuckDb.Reading
import MigrationLedger.Proofs.Sql.DuckDb.Scanning
import MigrationLedger.Proofs.Sql.Spelling

namespace MigrationLedger.Sql

namespace Script

open Lexer

variable {text rest following : List Char} {c : Char} {next : Option Char} {count : Nat}

/-! ## Texts that open nothing -/

/-- The characters that a semicolon or an opening begins with. -/
def loud : List Char := [';', '\'', '"', '-', '/']

/-- A character that opens nothing, whatever follows. -/
def isCalm (c : Char) : Bool := !loud.contains c

theorem opensNothing_of_isCalm (calm : isCalm c = true) : opensNothing c next = true := by
  simp [isCalm, loud] at calm
  simp [opensNothing, calm]

/-- A class of characters is calm if none of the loud ones is in it. -/
theorem isCalm_of {p : Char → Bool} (without : loud.any p = false) (here : p c = true) :
    isCalm c = true := by
  rw [isCalm, Bool.not_eq_true', ← Bool.not_eq_true, List.contains_iff_mem]
  intro member
  rw [List.any_eq_false] at without
  exact without c member here

theorem isHarmless_of_isCalm (calm : ∀ c ∈ text, isCalm c = true) :
    isHarmless text next = true := by
  induction text with
  | nil => rfl
  | cons c text ih =>
      rw [isHarmless, opensNothing_of_isCalm (calm c List.mem_cons_self), Bool.true_and]
      exact ih fun d member => calm d (List.mem_cons_of_mem c member)

theorem isCalm_of_isAsciiDigit (digit : Text.isAsciiDigit c = true) : isCalm c = true :=
  isCalm_of (by decide) digit

/-- The text opens nothing, whatever follows it. -/
def Quiet (text : List Char) : Prop := ∀ next, isHarmless text next = true

namespace Quiet

theorem nil : Quiet [] := fun _ => rfl

theorem append {more : List Char} (first : Quiet text) (second : Quiet more) :
    Quiet (text ++ more) := by
  intro next
  rw [isHarmless_append, first, second, Bool.and_self]

theorem of_isCalm (calm : ∀ c ∈ text, isCalm c = true) : Quiet text :=
  fun _ => isHarmless_of_isCalm calm

theorem cons (calm : isCalm c = true) (more : Quiet rest) : Quiet (c :: rest) :=
  (of_isCalm (List.forall_mem_singleton.mpr calm)).append more

theorem takeWhile {p : Char → Bool} (without : loud.any p = false) (text : List Char) :
    Quiet (text.takeWhile p) :=
  of_isCalm fun _ member => isCalm_of without (List.mem_takeWhile_imp member)

theorem digits (text : List Char) : Quiet (text.takeWhile Text.isAsciiDigit) :=
  takeWhile (by decide) text

theorem unmarked (quiet : Quiet text) : Unmarked text following :=
  unmarked_iff_isHarmless.mpr (quiet _)

/-- A text that opens nothing at the end of a script opens nothing in front of other text
either, if it ends with no dash and no slash. -/
theorem of_last (alone : isHarmless text none = true) (noDash : text.getLast? ≠ some '-')
    (noSlash : text.getLast? ≠ some '/') : Quiet text := by
  intro next
  induction text with
  | nil => rfl
  | cons c rest ih =>
      rw [isHarmless, Bool.and_eq_true] at alone ⊢
      cases rest with
      | cons d rest => exact ⟨alone.1, ih alone.2 noDash noSlash⟩
      | nil =>
          have isDash : c ≠ '-' := fun same => noDash (congrArg some same)
          have isSlash : c ≠ '/' := fun same => noSlash (congrArg some same)
          refine ⟨?_, rfl⟩
          simpa [opensNothing, isDash, isSlash] using alone.1

end Quiet

/-! ## Numbers -/

/-- The sign of an exponent opens no comment, because a digit follows it. -/
theorem opensNothing_of_digit {sign digit : Char} (isSign : (sign == '+' || sign == '-') = true)
    (isDigit : Text.isAsciiDigit digit = true) : opensNothing sign (some digit) = true := by
  have calm := isCalm_of_isAsciiDigit isDigit
  simp only [Bool.or_eq_true, beq_iff_eq] at isSign
  simp [isCalm, loud] at calm
  rcases isSign with rfl | rfl <;> simp [opensNothing, calm]

theorem quiet_exponent (text : List Char) : Quiet (exponent text) := by
  have calmLetter {e : Char} (letter : (e == 'e' || e == 'E') = true) : isCalm e = true :=
    isCalm_of (p := fun e => e == 'e' || e == 'E') (by decide) letter
  fun_cases exponent text with
  | case1 e sign digit rest letter signed =>
      obtain ⟨isSign, isDigit⟩ := Bool.and_eq_true_iff.mp signed
      have digits : Quiet (digit :: rest.takeWhile Text.isAsciiDigit) :=
        .cons (isCalm_of_isAsciiDigit isDigit) (.digits rest)
      refine .cons (calmLetter letter) fun next => ?_
      rw [isHarmless, digits, Bool.and_true]
      exact opensNothing_of_digit isSign isDigit
  | case2 e sign digit rest letter _ isDigit =>
      exact .cons (calmLetter letter) (.cons (isCalm_of_isAsciiDigit isDigit) (.digits _))
  | case5 e digit both =>
      obtain ⟨letter, isDigit⟩ := Bool.and_eq_true_iff.mp both
      exact .cons (calmLetter letter) (.cons (isCalm_of_isAsciiDigit isDigit) .nil)
  | case3 | case4 | case6 | case7 => exact .nil

theorem quiet_fraction (text : List Char) : Quiet (fraction text) := by
  unfold fraction
  split
  · exact .cons (by decide) (.digits _)
  · exact .nil

theorem quiet_mantissa (text : List Char) : Quiet (mantissa text) :=
  (Quiet.digits text).append (quiet_fraction _)

/-- What begins a text and what begins the rest of it. -/
theorem append_isPrefix {front back : List Char} (first : front <+: text)
    (second : back <+: text.drop front.length) : front ++ back <+: text := by
  obtain ⟨others, rfl⟩ := first
  rw [List.drop_left] at second
  exact (List.prefix_append_right_inj front).mpr second

/-- The characters of a number open nothing. -/
theorem exists_isPrefix_number (text : List Char) :
    ∃ read, read <+: text ∧ (number text).2 = read.length ∧ Quiet read := by
  by_cases hexadecimal : ['0', 'x'] <+: text
  · obtain ⟨more, rfl⟩ := hexadecimal
    refine ⟨'0' :: 'x' :: more.takeWhile Text.isHexDigit, ?_, rfl, ?_⟩
    · exact (List.prefix_append_right_inj ['0', 'x']).mpr (List.takeWhile_prefix _)
    · exact .cons (by decide) (.cons (by decide) (.takeWhile (by decide) more))
  rw [number_eq_decimal hexadecimal, decimal]
  dsimp only
  have begins : mantissa text ++ exponent (text.drop (mantissa text).length) <+: text :=
    append_isPrefix (mantissa_isPrefix text) (exponent_isPrefix _)
  have quiet : Quiet (mantissa text ++ exponent (text.drop (mantissa text).length)) :=
    (quiet_mantissa text).append (quiet_exponent _)
  generalize mantissa text ++ exponent (text.drop (mantissa text).length) = digits
    at begins quiet
  split_ifs with lone long
  · exact ⟨['.'], lone ▸ mantissa_isPrefix text, rfl, .cons (by decide) .nil⟩
  · obtain ⟨others, same⟩ := List.head?_eq_some_iff.mp (beq_iff_eq.mp long)
    have letter : Quiet ['L'] := .cons (by decide) .nil
    exact ⟨digits ++ ['L'], append_isPrefix begins ⟨others, same.symm⟩, by simp,
      quiet.append letter⟩
  · exact ⟨digits, begins, rfl, quiet⟩

/-- The characters of a token that `number` reads, the lone point included. -/
theorem quiet_number (calm : isCalm c = true) (rest : List Char) :
    Quiet (c :: rest.take ((number (c :: rest)).2 - 1)) := by
  obtain ⟨read, begins, size, quiet⟩ := exists_isPrefix_number (c :: rest)
  rw [size]
  cases read with
  | nil => exact .cons calm .nil
  | cons d more =>
      obtain ⟨rfl, within⟩ := List.cons_prefix_cons.mp begins
      rw [List.length_cons, Nat.add_sub_cancel, ← List.prefix_iff_eq_take.mp within]
      exact quiet

theorem number_ne_semicolon (text : List Char) : (number text).1 ≠ .symbol ";" := by
  rcases number_token text with ⟨digits, same⟩ | same | ⟨digits, long, same⟩ <;> simp [same]

/-! ## Operators -/

/-- Of the operators four end with a dash or a slash, and the others open nothing. -/
theorem quiet_of_mem_operators {operator : String} (member : operator ∈ operators)
    (other : operator ∉ ["#-", "||/", "|/", "//"]) : Quiet operator.toList := by
  have calm : ∀ operator ∈ operators, operator ∉ ["#-", "||/", "|/", "//"] →
      isHarmless operator.toList none = true ∧ operator.toList.getLast? ≠ some '-' ∧
        operator.toList.getLast? ≠ some '/' := by decide
  obtain ⟨alone, noDash, noSlash⟩ := calm operator member other
  exact .of_last alone noDash noSlash

theorem ne_of_mem_operators {operator : String} (member : operator ∈ operators) :
    operator.toList ≠ [] ∧ operator ≠ ";" := by
  revert member operator
  decide

theorem singleton_ne_semicolon (other : c ≠ ';') : String.singleton c ≠ ";" := by
  intro spelled
  have characters := congrArg String.toList spelled
  simp [other] at characters

/-! ## Quoted text and comments -/

/-- Reading through a mark stops at the first one, or at the end. -/
theorem endsAtFirst_through {mark : List Char} (nonempty : mark ≠ []) (text : List Char) :
    EndsAtFirst mark (text.take ((through mark text).getD text.length))
      (text.drop ((through mark text).getD text.length)) := by
  induction text with
  | nil => exact (endsAtFirst_nil_iff nonempty).mpr rfl
  | cons c text ih =>
      rw [through]
      split_ifs with begins
      · obtain ⟨rest, same⟩ := List.isPrefixOf_iff_prefix.mp begins
        rw [Option.getD_some, ← same, List.take_left, List.drop_left]
        obtain ⟨d, others, rfl⟩ := List.exists_cons_of_ne_nil nonempty
        exact (endsAtFirst_cons_iff nonempty).mpr (.inl rfl)
      · have size : ((through mark text).map (· + 1)).getD (c :: text).length =
            (through mark text).getD text.length + 1 := by
          cases through mark text <;> rfl
        rw [size, List.take_succ_cons, List.drop_succ_cons, endsAtFirst_cons_iff nonempty,
          List.take_append_drop, ← List.isPrefixOf_iff_prefix]
        exact .inr ⟨begins, ih⟩

/-- A text up to its closing quote is quoted. -/
theorem quoted_of_closing {quote : Char} (closed : closing quote text = some count) :
    Quoted quote (text.take count) := by
  induction text using closing.induct quote generalizing count with
  | case1 => simp [closing] at closed
  | case2 =>
      simp only [closing, if_true, Option.some.injEq] at closed
      subst closed
      exact .closed
  | case3 c other => simp [closing, other] at closed
  | case4 rest ih =>
      simp only [closing, if_true, Option.map_eq_some_iff] at closed
      obtain ⟨count, closed, rfl⟩ := closed
      exact .doubled (ih closed)
  | case5 d rest other =>
      simp only [closing, if_true, if_neg other, Option.some.injEq] at closed
      subst closed
      exact .closed
  | case6 c d rest other ih =>
      simp only [closing, if_neg other, Option.map_eq_some_iff] at closed
      obtain ⟨count, closed, rfl⟩ := closed
      exact .plain other (ih closed)

end Script

/-! ## Every token -/

namespace Lexer

open Script

variable {text rest : List Char} {c : Char} {previous : Option Token} {token : Token}
  {count : Nat} {place : Location} {ls : List Lexeme}

theorem spelled_of_calm {p : Char → Bool} (without : loud.any p = false)
    (calm : isCalm c = true) (other : token ≠ .symbol ";") :
    Spelled (rest.drop (rest.takeWhile p).length) token
      (c :: rest.take (rest.takeWhile p).length) := by
  rw [← List.prefix_iff_eq_take.mp (List.takeWhile_prefix p)]
  exact .unmarked other (Quiet.cons calm (.takeWhile without rest)).unmarked

/-- Whatever the lexer reads is spelled as its token is. -/
theorem spelled_of_scans (scans : Scans c rest token count) :
    Spelled (rest.drop count) token (c :: rest.take count) := by
  cases scans with
  | lineEnd others =>
      exact .unmarked (by simp) (Quiet.cons (by decide) (.cons (by decide) .nil)).unmarked
  | blank isBlank =>
      have calm := isCalm_of (by decide) isBlank
      exact .unmarked (by simp) (Quiet.cons calm .nil).unmarked
  | prefixed kind letter closed =>
      have calm : isCalm c = true :=
        isCalm_of (p := fun c => ['n', 'N', 'x', 'X'].contains c) (by decide)
          (by simpa using letter)
      rw [Nat.add_comm]
      exact .literal (Quiet.cons calm .nil).unmarked (quoted_of_closing closed)
  | literal closed => exact .literal (unmarked_nil _) (quoted_of_closing closed)
  | name isQuote closed =>
      rcases isQuote with rfl | rfl
      · exact .name (quoted_of_closing closed)
      · exact .backticks (quoted_of_closing closed)
  | point others => exact .unmarked (by simp) (Quiet.cons (by decide) .nil).unmarked
  | number starts =>
      have calm : isCalm c = true :=
        isCalm_of (p := fun c => Text.isAsciiDigit c || c == '.') (by decide) starts
      exact .unmarked (number_ne_semicolon _) (quiet_number calm rest).unmarked
  | lineComment others =>
      rw [List.take_succ_cons, List.drop_succ_cons]
      exact .lineComment (endsAtFirst_through (List.cons_ne_nil '\n' []) others)
  | @blockComment others inside closed =>
      have ends := endsAtFirst_through (List.cons_ne_nil '*' ['/']) others
      rw [closed, Option.getD_some] at ends
      exact .blockComment ends
  | word starts => exact spelled_of_calm (by decide) (isCalm_of (by decide) starts) (by simp [word])
  | dollar body => exact .dollar
  | tag => exact spelled_of_calm (by decide) (by decide) (by simp)
  | placeholder => exact spelled_of_calm (by decide) (by decide) (by simp)
  | @operator _ _ operator member begins =>
      obtain ⟨nonempty, other⟩ := ne_of_mem_operators member
      have whole : c :: rest.take (operator.length - 1) = operator.toList := by
        obtain ⟨d, more, spelled⟩ := List.exists_cons_of_ne_nil nonempty
        have size : operator.length - 1 = more.length := by
          rw [← String.length_toList, spelled, List.length_cons, Nat.add_sub_cancel]
        rw [spelled] at begins
        obtain ⟨rfl, within⟩ := List.cons_prefix_cons.mp begins
        rw [size, ← List.prefix_iff_eq_take.mp within, spelled]
      rw [whole]
      by_cases ends : operator ∈ ["#-", "||/", "|/", "//"]
      · exact .operator ends
      · exact .unmarked (by simpa using other) (quiet_of_mem_operators member ends).unmarked
  | single noText noName noLine noBlock =>
      by_cases isSemicolon : c = ';'
      · rw [isSemicolon]
        exact .semicolon
      · refine .unmarked (by simpa using singleton_ne_semicolon isSemicolon) ?_
        refine unmarked_cons_iff.mpr ⟨?_, unmarked_nil _⟩
        simp [opensNothing, isSemicolon, noText, noName, Decidable.not_and_iff_not_or_not.mp noLine,
          Decidable.not_and_iff_not_or_not.mp noBlock]

theorem allSpelled_of_lexemesFrom (read : lexemesFrom previous place text = .ok ls) :
    AllSpelled ls := by
  induction ls generalizing previous place text with
  | nil => trivial
  | cons lexeme ls ih =>
      cases text with
      | nil =>
          rw [lexemesFrom] at read
          cases read
      | cons c rest =>
          obtain ⟨token, count, later, scanned, continued, same⟩ :=
            lexemesFrom_cons_eq_ok_iff.mp read
          obtain ⟨rfl, rfl⟩ := List.cons.inj same
          refine ⟨?_, ih continued⟩
          rw [(tiling_of_lexemesFrom continued).flatMap_text]
          exact spelled_of_scans (scans_of_scan scanned)

end Lexer

theorem spells_duckDb : Dialect.duckDb.Spells :=
  fun _ _ read => Lexer.allSpelled_of_lexemesFrom read

end MigrationLedger.Sql
