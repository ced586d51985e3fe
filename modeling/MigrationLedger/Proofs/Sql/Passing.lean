/-
# What the splitter passes over

The splitter and a dialect read the same characters. This module says what the splitter, in
code at the first character of a text, makes of texts as tokens are spelled: a text in which
no quote, no semicolon and no comment begins is passed over character by character, quoted
text and comments are stretches, and a quote that is written twice closes one stretch and
opens the next.
-/

import Mathlib.Tactic.MkIffOfInductiveProp
import MigrationLedger.Proofs.Sql.Pieces

namespace MigrationLedger.Sql.Script

variable {text rest body later following : List Char} {c : Char} {next : Option Char}

/-! ## Passing -/

/-- The splitter comes from the beginning of a text to a rest without a cut, and is in
code at both places. -/
def Passes (text rest : List Char) : Prop :=
  ∃ pieces, Reads [';'] text pieces rest ∧ Piece.delimiter ∉ pieces

namespace Passes

theorem refl (text : List Char) : Passes text text := ⟨[], .done text, List.not_mem_nil⟩

theorem trans (first : Passes text later) (second : Passes later rest) : Passes text rest := by
  obtain ⟨pieces, reads, free⟩ := first
  obtain ⟨others, more, free'⟩ := second
  exact ⟨pieces ++ others, reads.append more, by simp [free, free']⟩

end Passes

theorem not_atDelimiter_cons (other : c ≠ ';') : ¬ AtDelimiter [';'] (c :: rest) := by
  rintro ⟨-, begins⟩
  exact other (List.cons_prefix_cons.mp begins).1.symm

/-- A stretch is passed over as a whole. -/
theorem passes_enclosed (enclosure : Enclosure) (ends : EndsAtFirst enclosure.closing body later) :
    Passes (enclosure.opening ++ (body ++ later)) later := by
  have free : ¬ AtDelimiter [';'] (enclosure.opening ++ (body ++ later)) := by
    cases enclosure <;> exact not_atDelimiter_cons (by decide)
  exact ⟨[.enclosed enclosure body], .cons (.enclosed free rfl ends) (.done later), by simp⟩

/-! ## Texts that open nothing -/

/-- In front of `next`, the character is no delimiter and opens no stretch. -/
def opensNothing (c : Char) (next : Option Char) : Bool :=
  c != ';' && c != '\'' && c != '"' && !(c == '-' && next == some '-') &&
    !(c == '/' && next == some '*')

theorem passes_cons (harmless : opensNothing c rest.head? = true) : Passes (c :: rest) rest := by
  simp only [opensNothing, Bool.and_eq_true, bne_iff_ne, Bool.not_eq_true', Bool.and_eq_false_iff,
    beq_eq_false_iff_ne] at harmless
  obtain ⟨⟨⟨⟨noDelimiter, noText⟩, noName⟩, noLine⟩, noBlock⟩ := harmless
  have plain : ∀ enclosure : Enclosure, ¬ enclosure.opening <+: c :: rest := by
    intro enclosure opened
    cases enclosure with
    | quotedText => exact noText (List.cons_prefix_cons.mp opened).1.symm
    | quotedName => exact noName (List.cons_prefix_cons.mp opened).1.symm
    | lineComment =>
        obtain ⟨rfl, second⟩ := List.cons_prefix_cons.mp opened
        obtain ⟨others, rfl⟩ := second
        simp at noLine
    | blockComment =>
        obtain ⟨rfl, second⟩ := List.cons_prefix_cons.mp opened
        obtain ⟨others, rfl⟩ := second
        simp at noBlock
  exact ⟨[.code c], .cons (.code (not_atDelimiter_cons noDelimiter) plain rfl) (.done rest),
    by simp⟩

/-- No character of the text opens anything, where `next` follows the text. -/
def isHarmless : List Char → Option Char → Bool
  | [], _ => true
  | c :: rest, next => opensNothing c (rest.head?.or next) && isHarmless rest next

theorem isHarmless_append (text more : List Char) (next : Option Char) :
    isHarmless (text ++ more) next =
      (isHarmless text (more.head?.or next) && isHarmless more next) := by
  induction text with
  | nil => rfl
  | cons c text ih =>
      rw [List.cons_append, isHarmless, isHarmless, ih, List.head?_append, Option.or_assoc,
        Bool.and_assoc]

theorem passes_of_isHarmless (harmless : isHarmless text following.head? = true) :
    Passes (text ++ following) following := by
  induction text with
  | nil => exact .refl following
  | cons c text ih =>
      rw [isHarmless, Bool.and_eq_true, ← List.head?_append] at harmless
      exact (passes_cons harmless.1).trans (ih harmless.2)

theorem singleton_isPrefix_iff : [c] <+: text ↔ text.head? = some c := by
  cases text <;> simp [eq_comm]

/-- Two characters stand next to each other at the beginning, or later. -/
theorem pair_isInfix_cons_iff {a b : Char} :
    [a, b] <:+: c :: text ↔ (c = a ∧ text.head? = some b) ∨ [a, b] <:+: text := by
  rw [List.infix_cons_iff, List.cons_prefix_cons, singleton_isPrefix_iff, eq_comm]

/-- No semicolon and no quote stands in the text, and no comment begins in it, where
`following` stands behind it. -/
@[mk_iff]
structure Unmarked (text following : List Char) : Prop where
  noSemicolon : ';' ∉ text
  noQuote : '\'' ∉ text ∧ '"' ∉ text
  noLine : ¬ ['-', '-'] <:+: text ++ following.take 1
  noBlock : ¬ ['/', '*'] <:+: text ++ following.take 1

theorem unmarked_nil (following : List Char) : Unmarked [] following := by
  have outside {a b : Char} : ¬ [a, b] <:+: [] ++ following.take 1 := by
    intro inside
    have long : 2 ≤ (following.take 1).length := inside.length_le
    have short : (following.take 1).length ≤ 1 := List.length_take_le 1 following
    omega
  exact ⟨by simp, by simp, outside, outside⟩

theorem unmarked_cons_iff : Unmarked (c :: text) following ↔
    opensNothing c (text.head?.or following.head?) = true ∧ Unmarked text following := by
  have next : (text ++ following.take 1).head? = text.head?.or following.head? := by
    rw [List.head?_append]
    cases following <;> rfl
  rw [unmarked_iff, unmarked_iff, List.cons_append, pair_isInfix_cons_iff, pair_isInfix_cons_iff,
    next]
  simp only [opensNothing, Bool.and_eq_true, bne_iff_ne, Bool.not_eq_true', Bool.and_eq_false_iff,
    beq_eq_false_iff_ne, List.mem_cons, not_or]
  grind

/-- The texts without marks are those whose characters open nothing. -/
theorem unmarked_iff_isHarmless :
    Unmarked text following ↔ isHarmless text following.head? = true := by
  induction text with
  | nil => exact iff_of_true (unmarked_nil following) rfl
  | cons c text ih => rw [unmarked_cons_iff, ih, isHarmless, Bool.and_eq_true]

/-! ## Quoted text -/

/-- What stands behind the opening quote of a quoted text: a quote within it is written
twice, and the last one closes it. -/
inductive Quoted (quote : Char) : List Char → Prop
  | closed : Quoted quote [quote]
  | doubled {body : List Char} (more : Quoted quote body) : Quoted quote (quote :: quote :: body)
  | plain {c : Char} {body : List Char} (other : c ≠ quote) (more : Quoted quote body) :
      Quoted quote (c :: body)

/-- Quoted text begins with what ends at the first quote, and the splitter passes over the
rest of it. -/
theorem Quoted.exists_endsAtFirst (enclosure : Enclosure) {quote : Char}
    (opens : enclosure.opening = [quote]) (closes : enclosure.closing = [quote])
    (quoted : Quoted quote body) (following : List Char) :
    ∃ front later, body ++ following = front ++ later ∧ EndsAtFirst [quote] front later ∧
      Passes later following := by
  have nonempty : [quote] ≠ [] := List.cons_ne_nil quote []
  have one (rest : List Char) : EndsAtFirst [quote] [quote] rest :=
    (endsAtFirst_cons_iff nonempty).mpr (.inl rfl)
  induction quoted with
  | closed => exact ⟨[quote], following, rfl, one _, .refl _⟩
  | doubled more ih =>
      obtain ⟨front, later, same, ends, passes⟩ := ih
      refine ⟨[quote], quote :: (front ++ later), by simp [same], one _, ?_⟩
      have whole := passes_enclosed enclosure (closes ▸ ends)
      rw [opens] at whole
      exact whole.trans passes
  | @plain c body other more ih =>
      obtain ⟨front, later, same, ends, passes⟩ := ih
      refine ⟨c :: front, later, by rw [List.cons_append, same, List.cons_append], ?_, passes⟩
      refine (endsAtFirst_cons_iff nonempty).mpr (.inr ⟨fun begins => ?_, ends⟩)
      exact other (List.cons_prefix_cons.mp begins).1.symm

/-- A quoted text whose quotes the splitter knows is passed over. -/
theorem Quoted.passes (enclosure : Enclosure) {quote : Char}
    (opens : enclosure.opening = [quote]) (closes : enclosure.closing = [quote])
    (quoted : Quoted quote body) (following : List Char) :
    Passes (quote :: (body ++ following)) following := by
  obtain ⟨front, later, same, ends, passes⟩ :=
    quoted.exists_endsAtFirst enclosure opens closes following
  have whole := passes_enclosed enclosure (closes ▸ ends)
  rw [opens, ← same] at whole
  exact whole.trans passes

end MigrationLedger.Sql.Script
