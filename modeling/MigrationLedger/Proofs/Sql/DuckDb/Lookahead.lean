/-
# How far the lexer looks ahead

Where a token ends depends on what stands behind it. Mostly one character decides. An
operator goes on as long as characters of operators follow, and an exponent is only taken
with its digit, so it can take three characters to refuse one.

Two texts agree when no token in front of them can tell them apart. What was read up to one
of them is then read up to the other, and as the same token. This is proved for each way of
reading and then for the lexer as a whole.
-/

import Mathlib.Data.List.Find
import Mathlib.Data.List.Induction
import Mathlib.Data.List.Infix
import MigrationLedger.Sql.Lexer

namespace MigrationLedger.Sql.Lexer

variable {text text' front : List Char} {c : Char} {count : Nat} {token : Token}
  {previous : Option Token}

/-- A character of an operator that has several. -/
def isOperatorPart (c : Char) : Bool := operators.any fun operator => operator.toList.contains c

/-- No token that stands in front of the two texts can tell them apart. -/
structure Agree (text text' : List Char) : Prop where
  head : text.head? = text'.head?
  operators : text.takeWhile isOperatorPart = text'.takeWhile isOperatorPart
  exponents : exponent text = [] ↔ exponent text' = []

/-! ## Parts of tokens -/

theorem head?_append_of_head? (front : List Char) (head : text.head? = text'.head?) :
    (front ++ text).head? = (front ++ text').head? := by
  rw [List.head?_append, List.head?_append, head]

/-- What begins a text and is not longer than its front begins the front. -/
theorem exists_of_isPrefix_append {first : List Char} (begins : first <+: front ++ text)
    (within : first.length ≤ front.length) : ∃ others, front = first ++ others := by
  obtain ⟨others, same⟩ := (List.isPrefix_append_of_length within).mp begins
  exact ⟨others, same.symm⟩

theorem takeWhile_eq_nil_of_head? {p : Char → Bool} (head : text.head? = text'.head?)
    (none : text.takeWhile p = []) : text'.takeWhile p = [] := by
  cases text' with
  | nil => rfl
  | cons d text' =>
      obtain ⟨others, rfl⟩ := List.head?_eq_some_iff.mp head
      rw [List.takeWhile_cons] at none ⊢
      split_ifs at none ⊢
      rfl

/-- What is taken stops within the text in front, or right behind it. -/
theorem takeWhile_append_of_head? {p : Char → Bool} (head : text.head? = text'.head?)
    (within : ((front ++ text).takeWhile p).length ≤ front.length) :
    (front ++ text').takeWhile p = (front ++ text).takeWhile p := by
  rw [List.takeWhile_append] at within ⊢
  rw [List.takeWhile_append]
  split_ifs at within ⊢ with whole
  · have none : text.takeWhile p = [] := by
      rw [← List.length_eq_zero_iff]
      rw [List.length_append] at within
      omega
    rw [none, takeWhile_eq_nil_of_head? head none]
  · rfl

theorem length_le_of_through {mark : List Char} (found : through mark text = some count) :
    mark.length ≤ count := by
  induction text generalizing count with
  | nil => cases found
  | cons c text ih =>
      rw [through] at found
      split_ifs at found with begins
      · cases found
        exact Nat.le_refl _
      · obtain ⟨later, first, rfl⟩ := Option.map_eq_some_iff.mp found
        exact Nat.le_succ_of_le (ih first)

/-- A mark that ends within the text in front is found there. -/
theorem through_append {mark : List Char} (nonempty : mark ≠ [])
    (found : through mark (front ++ text) = some count) (within : count ≤ front.length)
    (text' : List Char) : through mark (front ++ text') = some count := by
  induction front generalizing count with
  | nil =>
      have fits := Nat.le_trans (length_le_of_through found) within
      exact absurd (List.length_eq_zero_iff.mp (Nat.le_zero.mp fits)) nonempty
  | cons c front ih =>
      have fits := Nat.le_trans (length_le_of_through found) within
      have begins (text : List Char) : mark.isPrefixOf (c :: (front ++ text)) =
          mark.isPrefixOf (c :: front) := by
        rw [Bool.eq_iff_iff, List.isPrefixOf_iff_prefix, List.isPrefixOf_iff_prefix,
          ← List.cons_append, List.isPrefix_append_of_length fits]
      rw [List.cons_append, through, begins] at found ⊢
      split_ifs at found ⊢ with here
      · exact found
      · obtain ⟨later, first, rfl⟩ := Option.map_eq_some_iff.mp found
        rw [ih first (Nat.le_of_succ_le_succ within)]
        rfl

theorem one_le_of_closing {quote : Char} (closed : closing quote text = some count) :
    1 ≤ count := by
  fun_induction closing quote text generalizing count with
  | case1 => cases closed
  | case2 => cases closed; exact Nat.le_refl _
  | case3 => cases closed
  | case4 rest _ =>
      obtain ⟨later, -, rfl⟩ := Option.map_eq_some_iff.mp closed
      exact Nat.succ_pos _
  | case5 => cases closed; exact Nat.le_refl _
  | case6 a b rest _ _ =>
      obtain ⟨later, -, rfl⟩ := Option.map_eq_some_iff.mp closed
      exact Nat.succ_pos _

/-- A quoted text that is closed within the text in front is closed there. The quote that
closes it must not be written twice, so one more character matters. -/
theorem closing_append {quote : Char} (head : text.head? = text'.head?)
    (closed : closing quote (front ++ text) = some count) (within : count ≤ front.length) :
    closing quote (front ++ text') = some count := by
  induction front using List.twoStepInduction generalizing count with
  | nil => exact absurd (one_le_of_closing closed) (Nat.not_le_of_gt (Nat.lt_succ_of_le within))
  | singleton a =>
      cases text with
      | nil =>
          cases text' with
          | nil => exact closed
          | cons d text' => cases head
      | cons b text =>
          obtain ⟨text', rfl⟩ := List.head?_eq_some_iff.mp head.symm
          rw [List.singleton_append, closing] at closed ⊢
          split_ifs at closed ⊢
          · obtain ⟨later, -, rfl⟩ := Option.map_eq_some_iff.mp closed
            simp at within
          · exact closed
          · obtain ⟨later, more, rfl⟩ := Option.map_eq_some_iff.mp closed
            have := one_le_of_closing more
            simp at within
            omega
  | cons_cons a b front twice once =>
      rw [List.cons_append, List.cons_append, closing] at closed ⊢
      split_ifs at closed ⊢
      · obtain ⟨later, more, rfl⟩ := Option.map_eq_some_iff.mp closed
        rw [twice more (Nat.le_of_add_le_add_right within)]
        rfl
      · exact closed
      · obtain ⟨later, more, rfl⟩ := Option.map_eq_some_iff.mp closed
        rw [← List.cons_append, once b more (Nat.le_of_succ_le_succ within)]
        rfl

/-! ## Operators -/

theorem isPrefix_takeWhile_iff {p : Char → Bool} {mark : List Char}
    (parts : ∀ c ∈ mark, p c = true) :
    mark <+: text.takeWhile p ↔ mark <+: text := by
  induction mark generalizing text with
  | nil => simp
  | cons c mark ih =>
      rw [List.forall_mem_cons] at parts
      cases text with
      | nil => simp
      | cons d text =>
          rw [List.takeWhile_cons]
          split_ifs with part
          · rw [List.cons_prefix_cons, List.cons_prefix_cons, ih parts.2]
          · rw [List.cons_prefix_cons]
            constructor
            · intro none
              cases List.prefix_nil.mp none
            · rintro ⟨rfl, -⟩
              exact absurd parts.1 part

/-- An operator that reaches over the text in front is made of operator characters. -/
theorem isPrefix_append_iff (agree : Agree text text') {mark : List Char}
    (parts : ∀ c ∈ mark, isOperatorPart c = true) :
    mark <+: front ++ text ↔ mark <+: front ++ text' := by
  induction front generalizing mark with
  | nil =>
      rw [List.nil_append, List.nil_append, ← isPrefix_takeWhile_iff parts, agree.operators,
        isPrefix_takeWhile_iff parts]
  | cons c front ih =>
      cases mark with
      | nil => simp
      | cons d mark =>
          rw [List.forall_mem_cons] at parts
          rw [List.cons_append, List.cons_append, List.cons_prefix_cons, List.cons_prefix_cons,
            ih parts.2]

theorem symbol_append (agree : Agree text text') (c : Char) (front : List Char) :
    symbol c (front ++ text') = symbol c (front ++ text) := by
  have same : operators.find? (fun operator => operator.toList.isPrefixOf (c :: (front ++ text'))) =
      operators.find? (fun operator => operator.toList.isPrefixOf (c :: (front ++ text))) := by
    refine List.find?_congr fun operator member => ?_
    have parts : ∀ d ∈ operator.toList, isOperatorPart d = true := fun d inside =>
      List.any_eq_true.mpr ⟨operator, member, List.contains_iff_mem.mpr inside⟩
    rw [Bool.eq_iff_iff, List.isPrefixOf_iff_prefix, List.isPrefixOf_iff_prefix,
      ← List.cons_append, ← List.cons_append, isPrefix_append_iff agree parts]
  rw [symbol, symbol, same]

end MigrationLedger.Sql.Lexer
