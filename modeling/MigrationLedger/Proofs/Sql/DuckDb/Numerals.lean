/-
# Where a number ends

A number has up to four parts: digits, a point with digits, an exponent and the letter of a
long number. Each of them is optional and taken as a whole. So a number that was read up to
some text is read up to every text that agrees with it: no part begins there, and no part
goes on.
-/

import MigrationLedger.Proofs.Sql.DuckDb.Lookahead

namespace MigrationLedger.Sql.Lexer

variable {text text' front : List Char} {c : Char}

/-- An exponent is next: its letter and a digit, possibly with a sign between them. -/
def beginsExponent : List Char → Bool
  | e :: sign :: more =>
    (e == 'e' || e == 'E') &&
      (Text.isAsciiDigit sign || (sign == '+' || sign == '-') && more.head?.any Text.isAsciiDigit)
  | _ => false

theorem exponent_eq (text : List Char) :
    exponent text =
      if beginsExponent text then text.take 2 ++ (text.drop 2).takeWhile Text.isAsciiDigit
      else [] := by
  match text with
  | [] => rfl
  | [_] => rfl
  | [e, digit] => simp [exponent, beginsExponent]
  | e :: sign :: digit :: more =>
      simp only [exponent, beginsExponent, List.head?_cons, Option.any_some]
      by_cases mark : (e == 'e' || e == 'E') = true
      · by_cases follows : Text.isAsciiDigit digit = true
        · by_cases signed : sign = '+' ∨ sign = '-' <;> simp [mark, signed, follows]
        · simp [mark, follows]
      · simp [mark]

theorem two_le_length_of_beginsExponent (begins : beginsExponent text = true) :
    2 ≤ text.length := by
  match text, begins with
  | _ :: _ :: _, _ => simp

theorem exponent_eq_nil_iff : exponent text = [] ↔ beginsExponent text = false := by
  rw [exponent_eq]
  match text with
  | [] => simp [beginsExponent]
  | [_] => simp [beginsExponent]
  | e :: sign :: more => simp

theorem exponent_isPrefix (text : List Char) : exponent text <+: text := by
  fun_cases exponent text with
  | case1 e sign digit rest _ _ =>
      exact (List.prefix_append_right_inj [e, sign, digit]).mpr (List.takeWhile_prefix _)
  | case2 e sign digit rest _ _ _ =>
      exact (List.prefix_append_right_inj [e, sign]).mpr
        (List.takeWhile_prefix (l := digit :: rest) Text.isAsciiDigit)
  | case5 e digit => exact List.prefix_refl [e, digit]
  | case3 | case4 | case6 | case7 => exact List.nil_prefix

/-- A point and the digits behind it. -/
def fraction : List Char → List Char
  | '.' :: more => '.' :: more.takeWhile Text.isAsciiDigit
  | _ => []

/-- A number up to its exponent. -/
def mantissa (text : List Char) : List Char :=
  let whole := text.takeWhile Text.isAsciiDigit
  whole ++ fraction (text.drop whole.length)

/-- A number that is not hexadecimal, or a point. -/
def decimal (text : List Char) : Token × Nat :=
  let body := mantissa text
  if body = ['.'] then (.symbol ".", 1)
  else
    let digits := body ++ exponent (text.drop body.length)
    let long := (text.drop digits.length).head? == some 'L'
    (.number (String.ofList digits) long, digits.length + if long then 1 else 0)

theorem number_hexadecimal (more : List Char) :
    number ('0' :: 'x' :: more) =
      (.literal .hexadecimal (String.ofList (more.takeWhile Text.isHexDigit)),
        (more.takeWhile Text.isHexDigit).length + 2) := rfl

theorem fraction_eq_nil (other : text.head? ≠ some '.') : fraction text = [] := by
  unfold fraction
  split
  · exact absurd rfl other
  · rfl

theorem not_isAsciiDigit_of_drop {rest : List Char}
    (behind : text.drop (text.takeWhile Text.isAsciiDigit).length = c :: rest) :
    Text.isAsciiDigit c = false := by
  have split := congrArg (List.drop (text.takeWhile Text.isAsciiDigit).length)
    (List.takeWhile_append_dropWhile (p := Text.isAsciiDigit) (l := text))
  rw [List.drop_left, behind] at split
  have head := List.head?_dropWhile_not Text.isAsciiDigit text
  rwa [split] at head

/-- The point is optional, and only behind it there are more digits. -/
theorem mantissa_eq (text : List Char) :
    mantissa text =
      let whole := text.takeWhile Text.isAsciiDigit
      let rest := text.drop whole.length
      let point := rest.takeWhile (· == '.') |>.take 1
      whole ++ point ++ (rest.drop point.length).takeWhile Text.isAsciiDigit := by
  dsimp only [mantissa]
  rw [List.append_assoc]
  congr 1
  cases behind : text.drop (text.takeWhile Text.isAsciiDigit).length with
  | nil => rfl
  | cons c more =>
      by_cases point : c = '.'
      · simp [point, fraction]
      · simp [point, fraction, not_isAsciiDigit_of_drop behind]

theorem number_eq_decimal (other : ¬ ['0', 'x'] <+: text) : number text = decimal text := by
  unfold number decimal
  rw [mantissa_eq]
  dsimp only
  split
  · rename_i more whole rest
    have prefixed := List.takeWhile_prefix (l := text) Text.isAsciiDigit
    rw [List.prefix_iff_eq_append] at prefixed
    rw [whole] at rest prefixed
    rw [rest] at prefixed
    exact absurd ⟨more, prefixed⟩ other
  · rfl

/-- What the token of a number is. -/
theorem number_token (text : List Char) :
    (∃ digits, (number text).1 = .literal .hexadecimal digits) ∨ (number text).1 = .symbol "." ∨
      ∃ digits long, (number text).1 = .number digits long := by
  by_cases hexadecimal : ['0', 'x'] <+: text
  · obtain ⟨more, rfl⟩ := hexadecimal
    exact .inl ⟨_, congrArg Prod.fst (number_hexadecimal more)⟩
  rw [number_eq_decimal hexadecimal, decimal]
  dsimp only
  split
  · exact .inr (.inl rfl)
  · exact .inr (.inr ⟨_, _, rfl⟩)

theorem fraction_append (head : text.head? = text'.head?)
    (within : (fraction (front ++ text)).length ≤ front.length) :
    fraction (front ++ text') = fraction (front ++ text) := by
  by_cases point : (front ++ text).head? = some '.'
  · cases front with
    | nil =>
        obtain ⟨more, rfl⟩ := List.head?_eq_some_iff.mp point
        simp [fraction] at within
    | cons c front =>
        obtain rfl := Option.some.inj point
        simp only [List.cons_append, fraction, List.length_cons, Nat.add_le_add_iff_right]
          at within ⊢
        rw [takeWhile_append_of_head? head within]
  · rw [fraction_eq_nil point, fraction_eq_nil (head?_append_of_head? front head ▸ point)]

theorem fraction_isPrefix (text : List Char) : fraction text <+: text := by
  unfold fraction
  split
  · exact List.cons_prefix_cons.mpr ⟨rfl, List.takeWhile_prefix _⟩
  · exact List.nil_prefix

theorem mantissa_isPrefix (text : List Char) : mantissa text <+: text := by
  dsimp only [mantissa]
  obtain ⟨rest, split⟩ := List.takeWhile_prefix (l := text) Text.isAsciiDigit
  generalize text.takeWhile Text.isAsciiDigit = whole at split
  subst split
  rw [List.drop_left, List.prefix_append_right_inj]
  exact fraction_isPrefix rest

theorem mantissa_append (head : text.head? = text'.head?)
    (within : (mantissa (front ++ text)).length ≤ front.length) :
    mantissa (front ++ text') = mantissa (front ++ text) := by
  dsimp only [mantissa] at within ⊢
  rw [List.length_append] at within
  have short := Nat.le_trans (Nat.le_add_right _ _) within
  obtain ⟨behind, split⟩ := exists_of_isPrefix_append (List.takeWhile_prefix _) short
  rw [takeWhile_append_of_head? head short]
  generalize (front ++ text).takeWhile Text.isAsciiDigit = whole at split within
  subst split
  simp only [List.append_assoc, List.drop_left, List.length_append, Nat.add_le_add_iff_left]
    at within ⊢
  rw [fraction_append head within]

theorem beginsExponent_append (head : text.head? = text'.head?) (long : 2 ≤ front.length) :
    beginsExponent (front ++ text') = beginsExponent (front ++ text) := by
  match front, long with
  | e :: sign :: front, _ =>
      simp only [List.cons_append, beginsExponent, head?_append_of_head? front head]

/-- An exponent is taken as a whole, so it is only refused where the number ends or where
the letter of a long number follows. -/
theorem exponent_append (agree : Agree text text')
    (within : (exponent (front ++ text)).length ≤ front.length)
    (refused : exponent (front ++ text) = [] → front = [] ∨ front = ['L']) :
    exponent (front ++ text') = exponent (front ++ text) := by
  by_cases none : exponent (front ++ text) = []
  · rw [none]
    rcases refused none with rfl | rfl
    · exact agree.exponents.mp none
    · cases text' <;> exact exponent_eq_nil_iff.mpr rfl
  · have begins := exponent_eq_nil_iff.not.mp none
    rw [Bool.not_eq_false] at begins
    rw [exponent_eq, if_pos begins] at within
    have long : 2 ≤ front.length := by
      refine Nat.le_trans (Nat.le_trans ?_ (List.length_append ▸ Nat.le_add_right _ _)) within
      rw [List.length_take_of_le (two_le_length_of_beginsExponent begins)]
    rw [List.take_append_of_le_length long, List.drop_append_of_le_length long, List.length_append,
      List.length_take_of_le long] at within
    rw [exponent_eq, exponent_eq, beginsExponent_append agree.head long, if_pos begins,
      if_pos begins, List.take_append_of_le_length long, List.take_append_of_le_length long,
      List.drop_append_of_le_length long, List.drop_append_of_le_length long,
      takeWhile_append_of_head? agree.head]
    rw [List.length_drop]
    omega

/-- The letter of a long number is next. -/
def isLong (text : List Char) : Bool := text.head? == some 'L'

/-- What stands behind the mantissa of a number: an exponent and the letter of a long
number, both optional. -/
theorem exponent_isLong_append (agree : Agree text text')
    (whole : (exponent (front ++ text)).length +
      (if isLong ((front ++ text).drop (exponent (front ++ text)).length) then 1 else 0) =
        front.length) :
    exponent (front ++ text') = exponent (front ++ text) ∧
      isLong ((front ++ text').drop (exponent (front ++ text)).length) =
        isLong ((front ++ text).drop (exponent (front ++ text)).length) := by
  have within : (exponent (front ++ text)).length ≤ front.length := by omega
  refine ⟨exponent_append agree within fun none => ?_, ?_⟩
  · rw [none, List.length_nil, List.drop_zero, Nat.zero_add] at whole
    split_ifs at whole with long
    · obtain ⟨c, rfl⟩ := List.length_eq_one_iff.mp whole.symm
      obtain rfl : c = 'L' := by simpa [isLong] using long
      exact .inr rfl
    · exact .inl (List.length_eq_zero_iff.mp whole.symm)
  · rw [List.drop_append_of_le_length within, List.drop_append_of_le_length within, isLong, isLong,
      head?_append_of_head? _ agree.head]

theorem decimal_append (agree : Agree text text')
    (whole : (decimal (front ++ text)).2 = front.length) :
    decimal (front ++ text') = decimal (front ++ text) := by
  dsimp only [decimal] at whole ⊢
  by_cases point : mantissa (front ++ text) = ['.']
  · rw [if_pos point] at whole
    have short : (mantissa (front ++ text)).length ≤ front.length := by rw [point, ← whole]; rfl
    rw [mantissa_append agree.head short, if_pos point, if_pos point]
  · rw [if_neg point] at whole
    have short : (mantissa (front ++ text)).length ≤ front.length := by
      rw [List.length_append, Nat.add_assoc] at whole
      omega
    rw [mantissa_append agree.head short, if_neg point, if_neg point]
    obtain ⟨behind, split⟩ := exists_of_isPrefix_append (mantissa_isPrefix _) short
    generalize mantissa (front ++ text) = body at split whole
    subst split
    simp only [List.append_assoc, List.drop_left, List.length_append, List.drop_length_add_append,
      Nat.add_assoc, Nat.add_left_cancel_iff] at whole ⊢
    obtain ⟨same, long⟩ := exponent_isLong_append agree whole
    simp only [isLong] at long
    rw [same, long]

theorem mantissa_ne_nil (starts : (Text.isAsciiDigit c || c == '.') = true) (text : List Char) :
    mantissa (c :: text) ≠ [] := by
  rw [Bool.or_eq_true, beq_iff_eq] at starts
  rcases starts with digit | rfl
  · simp [mantissa, digit]
  · simp [mantissa, fraction, show Text.isAsciiDigit '.' = false by decide]

theorem one_le_number (starts : (Text.isAsciiDigit c || c == '.') = true) (text : List Char) :
    1 ≤ (number (c :: text)).2 := by
  by_cases hexadecimal : ['0', 'x'] <+: c :: text
  · obtain ⟨more, same⟩ := hexadecimal
    rw [← same]
    exact Nat.succ_pos _
  · rw [number_eq_decimal hexadecimal, decimal]
    dsimp only
    split
    · exact Nat.le_refl 1
    · have := List.length_pos_iff.mpr (mantissa_ne_nil starts text)
      rw [List.length_append]
      omega

theorem isHexadecimal_iff : ['0', 'x'] <+: c :: text ↔ c = '0' ∧ text.head? = some 'x' := by
  rw [List.cons_prefix_cons, eq_comm, List.head?_eq_some_iff]
  exact and_congr_right fun _ => exists_congr fun _ => eq_comm

theorem number_append (agree : Agree text text')
    (whole : (number (c :: (front ++ text))).2 = front.length + 1) :
    number (c :: (front ++ text')) = number (c :: (front ++ text)) := by
  have head := head?_append_of_head? front agree.head
  by_cases hexadecimal : ['0', 'x'] <+: c :: (front ++ text)
  · obtain ⟨rfl, next⟩ := isHexadecimal_iff.mp hexadecimal
    cases front with
    | nil =>
        obtain ⟨more, same⟩ := List.head?_eq_some_iff.mp next
        rw [same, number_hexadecimal] at whole
        simp at whole
    | cons d front =>
        obtain rfl := Option.some.inj next
        rw [List.cons_append, number_hexadecimal, List.length_cons] at whole
        rw [List.cons_append, List.cons_append, number_hexadecimal, number_hexadecimal,
          takeWhile_append_of_head? agree.head (by omega)]
  · have other := hexadecimal
    rw [isHexadecimal_iff, head, ← isHexadecimal_iff] at other
    rw [number_eq_decimal hexadecimal, ← List.cons_append] at whole
    rw [number_eq_decimal hexadecimal, number_eq_decimal other, ← List.cons_append,
      ← List.cons_append, decimal_append agree whole]

end MigrationLedger.Sql.Lexer
