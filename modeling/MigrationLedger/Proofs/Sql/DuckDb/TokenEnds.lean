/-
# Where a token ends

For each way of reading a token: what was read as one token up to some text is read as the
same token up to every text that agrees with it. Two texts agree when they begin alike and
go on with letters where they differ, since neither an operator nor an exponent reaches
over a letter.
-/

import MigrationLedger.Proofs.Sql.DuckDb.Numerals
import MigrationLedger.Proofs.Sql.DuckDb.Scanning

namespace MigrationLedger.Sql.Lexer

variable {text text' front : List Char} {c : Char} {count : Nat} {token : Token}
  {previous : Option Token}

/-! ## Dollar signs -/

/-- Text up to a mark, as a literal. `before` characters of the token stand in front of
it. -/
def dollarBody (mark : List Char) (before : Nat) (problem : LexFault) (body : List Char) :
    Except LexFault (Token × Nat) :=
  match through mark body with
  | some count =>
    .ok (.literal .dollar (String.ofList (body.take (count - mark.length))), before + count)
  | none => .error problem

theorem dollar_dollar (body : List Char) :
    dollar ('$' :: body) =
      dollarBody ['$', '$'] 1 ⟨.openDollar, ('$' :: body).length + 1⟩ body := by
  rw [dollar, dollarBody]
  cases through ['$', '$'] body with
  | none => rfl
  | some count =>
      dsimp only
      rw [Nat.add_comm count 1]
      rfl

/-- A tag is not ended. -/
theorem dollar_tag {tag rest : List Char} (single : text.head? ≠ some '$')
    (tagged : text.takeWhile isTagPart = tag) (behind : text.drop tag.length = rest)
    (ends : rest.head? ≠ some '$') :
    dollar text = .ok (.placeholder (String.ofList ('$' :: tag)), tag.length) := by
  subst tagged behind
  unfold dollar
  split
  · exact absurd rfl single
  · dsimp only
    split
    · rename_i body same
      exact absurd (congrArg List.head? same) ends
    · rfl

/-- A tag is ended by a dollar sign. -/
theorem dollar_tag_dollar {tag body : List Char} (single : text.head? ≠ some '$')
    (tagged : text.takeWhile isTagPart = tag) (behind : text.drop tag.length = '$' :: body) :
    dollar text = dollarBody ('$' :: tag ++ ['$']) (tag.length + 1)
      ⟨.openTaggedDollar, text.length + 1⟩ body := by
  subst tagged
  unfold dollar
  split
  · exact absurd rfl single
  · dsimp only
    split
    · rename_i others same
      obtain rfl := (List.cons.inj (same.symm.trans behind)).2
      rfl
    · rename_i other
      exact absurd behind (other body)

theorem exists_of_dollarBody {mark : List Char} {before : Nat} {problem : LexFault}
    (read : dollarBody mark before problem text = .ok (token, count)) :
    ∃ inside, through mark text = some inside ∧ count = before + inside ∧
      token = .literal .dollar (String.ofList (text.take (inside - mark.length))) := by
  unfold dollarBody at read
  split at read
  · cases read
    exact ⟨_, ‹_›, rfl, rfl⟩
  · cases read

theorem dollarBody_append {mark : List Char} (nonempty : mark ≠ []) {before : Nat}
    {problem : LexFault}
    (read : dollarBody mark before problem (front ++ text) = .ok (token, count))
    (within : count ≤ before + front.length) (text' : List Char) (problem' : LexFault) :
    dollarBody mark before problem' (front ++ text') = .ok (token, count) := by
  obtain ⟨inside, found, rfl, rfl⟩ := exists_of_dollarBody read
  have short := Nat.le_of_add_le_add_left within
  rw [dollarBody, through_append nonempty found short text']
  dsimp only
  rw [List.take_append_of_le_length (by omega), List.take_append_of_le_length (by omega)]

theorem dollar_append (head : text.head? = text'.head?)
    (read : dollar (front ++ text) = .ok (token, front.length)) :
    dollar (front ++ text') = .ok (token, front.length) := by
  by_cases opened : (front ++ text).head? = some '$'
  · cases front with
    | nil =>
        obtain ⟨body, rfl⟩ := List.head?_eq_some_iff.mp opened
        rw [List.nil_append, dollar_dollar] at read
        obtain ⟨inside, -, size, -⟩ := exists_of_dollarBody read
        rw [List.length_nil] at size
        omega
    | cons d front =>
        obtain rfl := Option.some.inj opened
        rw [List.cons_append, dollar_dollar] at read ⊢
        exact dollarBody_append (List.cons_ne_nil _ _) read (by simp [Nat.add_comm]) _ _
  · have single : (front ++ text').head? ≠ some '$' := head?_append_of_head? front head ▸ opened
    -- The tag ends within the text in front, whatever it is followed by.
    have short : ((front ++ text).takeWhile isTagPart).length ≤ front.length := by
      by_cases ended :
          ((front ++ text).drop ((front ++ text).takeWhile isTagPart).length).head? = some '$'
      · obtain ⟨body, behind⟩ := List.head?_eq_some_iff.mp ended
        rw [dollar_tag_dollar opened rfl behind] at read
        obtain ⟨inside, -, size, -⟩ := exists_of_dollarBody read
        omega
      · rw [dollar_tag opened rfl rfl ended] at read
        exact Nat.le_of_eq (congrArg Prod.snd (Except.ok.inj read))
    have tagged := takeWhile_append_of_head? head short
    obtain ⟨behind, split⟩ := exists_of_isPrefix_append (List.takeWhile_prefix _) short
    generalize same : (front ++ text).takeWhile isTagPart = tag at tagged split
    have rest (text : List Char) : (front ++ text).drop tag.length = behind ++ text := by
      rw [split, List.append_assoc, List.drop_left]
    by_cases ended : (behind ++ text).head? = some '$'
    · cases behind with
      | nil =>
          obtain ⟨body, dollar⟩ := List.head?_eq_some_iff.mp ended
          rw [dollar_tag_dollar opened same ((rest text).trans dollar)] at read
          obtain ⟨inside, -, size, -⟩ := exists_of_dollarBody read
          rw [split, List.append_nil] at size
          omega
      | cons d behind =>
          obtain rfl := Option.some.inj ended
          rw [dollar_tag_dollar opened same (rest text)] at read
          rw [dollar_tag_dollar single tagged (rest text')]
          refine dollarBody_append (List.cons_ne_nil _ _) read ?_ _ _
          rw [split, List.length_append, List.length_cons]
          omega
    · rw [dollar_tag opened same (rest text) ended] at read
      rw [dollar_tag single tagged (rest text') (head?_append_of_head? behind head ▸ ended), ← read]

/-! ## Tokens -/

theorem quoted_append (head : text.head? = text'.head?) {quote : Char} {problem : LexProblem}
    {before : Nat} {make : String → Token}
    (read : quoted quote problem before (front ++ text) make = .ok (token, count))
    (within : count ≤ before + front.length) :
    quoted quote problem before (front ++ text') make = .ok (token, count) := by
  obtain ⟨inside, closed, rfl, rfl⟩ := exists_of_quoted read
  have short := Nat.le_of_add_le_add_left within
  rw [quoted, closing_append head closed short]
  dsimp only
  rw [List.take_append_of_le_length (by omega), List.take_append_of_le_length (by omega)]

/-- The same when the quote stands behind the first character. -/
theorem quotedBehind_append (head : text.head? = text'.head?) {quote : Char}
    {problem : LexProblem} {make : String → Token}
    (read : quoted quote problem 1 ((front ++ text).drop 1) make = .ok (token, front.length)) :
    quoted quote problem 1 ((front ++ text').drop 1) make = .ok (token, front.length) := by
  cases front with
  | nil =>
      obtain ⟨inside, -, -, size⟩ := exists_of_quoted read
      rw [List.length_nil] at size
      omega
  | cons d front => exact quoted_append head read (Nat.add_comm _ _).le

theorem lineComment_append (head : text.head? = text'.head?)
    (read : (Except.ok (.blank, (through ['\n'] (front ++ text)).getD (front ++ text).length) :
      Except LexFault (Token × Nat)) = .ok (token, front.length)) :
    (Except.ok (.blank, (through ['\n'] (front ++ text')).getD (front ++ text').length) :
      Except LexFault (Token × Nat)) = .ok (token, front.length) := by
  have size := congrArg Prod.snd (Except.ok.inj read)
  dsimp only at size
  cases found : through ['\n'] (front ++ text) with
  | none =>
      rw [found, Option.getD_none, List.length_append] at size
      obtain rfl : text = [] := List.length_eq_zero_iff.mp (by omega)
      obtain rfl : text' = [] := List.head?_eq_none_iff.mp head.symm
      exact read
  | some count =>
      rw [found] at size read
      rw [through_append (List.cons_ne_nil _ _) found size.le]
      exact read

theorem blockComment_append
    (read : (match through ['*', '/'] ((front ++ text).drop 1) with
      | some count => .ok (.blank, count + 1)
      | none => .error ⟨.openComment, (front ++ text).length + 1⟩ :
        Except LexFault (Token × Nat)) = .ok (token, front.length)) :
    (match through ['*', '/'] ((front ++ text').drop 1) with
      | some count => .ok (.blank, count + 1)
      | none => .error ⟨.openComment, (front ++ text').length + 1⟩ :
        Except LexFault (Token × Nat)) = .ok (token, front.length) := by
  split at read
  · rename_i count found
    have size := congrArg Prod.snd (Except.ok.inj read)
    cases front with
    | nil => cases size
    | cons d front =>
        rw [List.cons_append, List.drop_one, List.tail_cons] at found ⊢
        rw [through_append (List.cons_ne_nil _ _) found (Nat.le_of_eq (Nat.succ.inj size))]
        exact read
  · cases read

/-- Two choices by one condition have one result if their branches have. -/
theorem ite_eq_of_ite_eq {α : Type} {p : Prop} [Decidable p] {a b a' b' result : α}
    (chosen : (if p then a else b) = result) (here : p → a = result → a' = result)
    (other : ¬ p → b = result → b' = result) : (if p then a' else b') = result := by
  by_cases holds : p
  · rw [if_pos holds] at chosen ⊢
    exact here holds chosen
  · rw [if_neg holds] at chosen ⊢
    exact other holds chosen

/-- **A token is told by what agrees.** What is read as one token in front of a text is read
as the same token in front of every text that agrees with it. -/
theorem scan_append (agree : Agree text text')
    (scanned : scan previous c (front ++ text) = .ok (token, front.length)) :
    scan previous c (front ++ text') = .ok (token, front.length) := by
  unfold scan at scanned ⊢
  dsimp only at scanned ⊢
  -- Which way it is read is told by its first character and the one behind that.
  rw [← head?_append_of_head? front agree.head]
  refine ite_eq_of_ite_eq scanned (fun isReturn read => read) fun _ scanned => ?_
  refine ite_eq_of_ite_eq scanned (fun isBlank read => read) fun _ scanned => ?_
  refine ite_eq_of_ite_eq scanned (fun isNational read => quotedBehind_append agree.head read)
    fun _ scanned => ?_
  refine ite_eq_of_ite_eq scanned (fun isHexadecimal read => quotedBehind_append agree.head read)
    fun _ scanned => ?_
  refine ite_eq_of_ite_eq scanned
    (fun isLiteral read => quoted_append agree.head read (Nat.zero_add _).ge) fun _ scanned => ?_
  refine ite_eq_of_ite_eq scanned
    (fun isName read => quoted_append agree.head read (Nat.zero_add _).ge) fun _ scanned => ?_
  refine ite_eq_of_ite_eq scanned (fun isPoint read => read) fun _ scanned => ?_
  refine ite_eq_of_ite_eq scanned (fun isNumber read => ?_) fun _ scanned => ?_
  · have size := congrArg Prod.snd (Except.ok.inj read)
    have := one_le_number isNumber (front ++ text)
    dsimp only at size
    rwa [number_append agree (by omega)]
  refine ite_eq_of_ite_eq scanned (fun isLine read => lineComment_append agree.head read)
    fun _ scanned => ?_
  refine ite_eq_of_ite_eq scanned (fun isBlock read => blockComment_append read)
    fun _ scanned => ?_
  refine ite_eq_of_ite_eq scanned (fun startsName read => ?_) fun _ scanned => ?_
  · have size := congrArg Prod.snd (Except.ok.inj read)
    rw [word] at read ⊢
    rwa [takeWhile_append_of_head? agree.head size.le]
  refine ite_eq_of_ite_eq scanned (fun isDollar read => dollar_append agree.head read)
    fun _ scanned => ?_
  refine ite_eq_of_ite_eq scanned (fun isPlaceholder read => ?_) fun _ read => ?_
  · have size := congrArg Prod.snd (Except.ok.inj read)
    rwa [takeWhile_append_of_head? agree.head size.le]
  · rwa [symbol_append agree]

/-! ## Texts that agree -/

/-- A character that neither an operator nor an exponent goes on with. -/
def isInert (c : Char) : Bool := !Text.isAsciiDigit c && !isOperatorPart c && c != '+'

/-- A text is empty or begins with an inert character. -/
def BeginsInert (text : List Char) : Prop := ∀ c ∈ text.head?, isInert c = true

theorem beginsExponent_of_beginsInert {e : Char} (inert : BeginsInert text) :
    beginsExponent (e :: text) = false := by
  cases text with
  | nil => rfl
  | cons c text =>
      have here := inert c rfl
      have minus : isOperatorPart '-' = true := by decide +kernel
      simp only [isInert, Bool.and_eq_true, Bool.not_eq_true', bne_iff_ne] at here
      have noMinus : c ≠ '-' := by
        rintro rfl
        simp [minus] at here
      simp [beginsExponent, here, noMinus]

theorem takeWhile_isOperatorPart_of_beginsInert (inert : BeginsInert text) :
    text.takeWhile isOperatorPart = [] := by
  cases text with
  | nil => rfl
  | cons c text =>
      have here := inert c rfl
      simp only [isInert, Bool.and_eq_true, Bool.not_eq_true'] at here
      simp [here]

/-- Texts agree when they begin alike and go on with inert characters. -/
theorem agree_append (nonempty : front ≠ []) (first : BeginsInert text)
    (second : BeginsInert text') : Agree (front ++ text) (front ++ text') where
  head := by
    obtain ⟨c, front, rfl⟩ := List.exists_cons_of_ne_nil nonempty
    rfl
  operators := by
    rw [List.takeWhile_append, List.takeWhile_append,
      takeWhile_isOperatorPart_of_beginsInert first,
      takeWhile_isOperatorPart_of_beginsInert second]
  exponents := by
    rw [exponent_eq_nil_iff, exponent_eq_nil_iff]
    match front, nonempty with
    | [e], _ =>
        exact iff_of_true (beginsExponent_of_beginsInert first)
          (beginsExponent_of_beginsInert second)
    | [e, sign], _ =>
        have none {text : List Char} (inert : BeginsInert text) :
            text.head?.any Text.isAsciiDigit = false := by
          rw [Option.any_eq_false]
          intro c member
          have here := inert c member
          simp only [isInert, Bool.and_eq_true, Bool.not_eq_true'] at here
          simp [here]
        simp only [List.cons_append, List.nil_append, beginsExponent, none first, none second]
    | e :: sign :: c :: front, _ => rfl

theorem isInert_of_isNameStart (starts : isNameStart c = true) : isInert c = true := by
  have low : ∀ code < 128, isNameStart (Char.ofNat code) = true →
      isInert (Char.ofNat code) = true := by decide +kernel
  by_cases ascii : c.toNat < 128
  · have here := low c.toNat ascii
    rw [Char.ofNat_toNat] at here
    exact here starts
  · have parts : operators.all (fun operator => operator.toList.all (·.toNat < 128)) = true := by
      decide +kernel
    have noPart : isOperatorPart c = false := by
      refine Bool.eq_false_iff.mpr fun part => ascii ?_
      obtain ⟨operator, member, inside⟩ := List.any_eq_true.mp part
      simpa using List.all_eq_true.mp (List.all_eq_true.mp parts operator member) c
        (List.contains_iff_mem.mp inside)
    have noDigit : Text.isAsciiDigit c = false := by
      refine Bool.eq_false_iff.mpr fun digit => ascii ?_
      simp only [Text.isAsciiDigit, Bool.and_eq_true, decide_eq_true_eq, Char.le_def,
        UInt32.le_iff_toNat_le] at digit
      exact Nat.lt_of_le_of_lt digit.2 (by decide)
    have noPlus : c ≠ '+' := by
      rintro rfl
      exact ascii (by decide)
    simp [isInert, noDigit, noPart, noPlus]

end MigrationLedger.Sql.Lexer
