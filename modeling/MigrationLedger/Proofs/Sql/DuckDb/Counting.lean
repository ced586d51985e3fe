/-
# How the question for the number of rows is read

For a plain identifier the question is always cut into the same ten lexemes, and the
recognisers find one relation in it, the table. Two names are taken for the beginning of
something else after `FROM`, and then the statement is not understood.

The name is not known, so the recognisers are followed step by step. Each step is a
computation as long as it only meets the fixed tokens; the keyword that the name spells
is asked for in one place, by the recogniser of a single table.
-/

import MigrationLedger.Proofs.Sql.Counting
import MigrationLedger.Proofs.Sql.DuckDb.Reading

namespace MigrationLedger.Sql

variable {c : Char} {more after : List Char} {previous : Option Token} {place next : Location}
  {ls : List Lexeme} {table : String}

/-! ## Cutting into tokens -/

namespace Lexer

/-- The characters that begin an identifier begin a word and no other token. -/
theorem isNameStart_of_isIdentifierStart (starts : isIdentifierStart c = true) :
    isNameStart c = true ∧ Text.isBlank c = false ∧ Text.isAsciiDigit c = false ∧
      c ∉ ['\r', '\'', '"', '`', '.', '-', '/'] := by
  have below : c.toNat < 128 := by
    simp only [isIdentifierStart, Text.isAsciiLetter, Bool.or_eq_true, Bool.and_eq_true,
      decide_eq_true_eq, beq_iff_eq, Char.le_def, UInt32.le_iff_toNat_le] at starts
    rcases starts with (⟨_, small⟩ | ⟨_, capital⟩) | rfl
    · exact lt_of_le_of_lt small (by decide)
    · exact lt_of_le_of_lt capital (by decide)
    · decide
  have all : ∀ code < 128, isIdentifierStart (Char.ofNat code) = true →
      isNameStart (Char.ofNat code) = true ∧ Text.isBlank (Char.ofNat code) = false ∧
        Text.isAsciiDigit (Char.ofNat code) = false ∧
        Char.ofNat code ∉ ['\r', '\'', '"', '`', '.', '-', '/'] := by decide +kernel
  have here := all c.toNat below
  rw [Char.ofNat_toNat] at here
  exact here starts

theorem isNamePart_of_isIdentifierPart (part : isIdentifierPart c = true) :
    isNamePart c = true := by
  rw [isIdentifierPart, Bool.or_eq_true] at part
  rcases part with starts | digit
  · have name := (isNameStart_of_isIdentifierStart starts).1
    rw [isNameStart, Bool.or_eq_true] at name
    rcases name with letter | underscore
    · simp [isNamePart, letter]
    · simp [isNamePart, underscore]
  · simp [isNamePart, digit]

/-- An identifier is read as one word when the text behind it does not go on with it. -/
theorem scan_identifier (starts : isIdentifierStart c = true)
    (goesOn : more.all isIdentifierPart = true)
    (ends : after.head?.any (fun d => isNamePart d || d == '\'') = false) :
    scan previous c (more ++ after) =
      .ok (.word ⟨String.ofList (c :: more), none⟩, more.length) := by
  obtain ⟨name, noBlank, noDigit, other⟩ := isNameStart_of_isIdentifierStart starts
  simp only [List.mem_cons, List.not_mem_nil, or_false, not_or] at other
  have parts : ∀ d ∈ more, isNamePart d = true := fun d member =>
    isNamePart_of_isIdentifierPart (List.all_eq_true.mp goesOn d member)
  have unquoted : (more ++ after).head? ≠ some '\'' := by
    intro quote
    cases more with
    | nil =>
        rw [List.nil_append] at quote
        simp [quote] at ends
    | cons d more =>
        obtain rfl := Option.some.inj quote
        exact absurd (parts _ List.mem_cons_self) (by decide)
  have whole : (more ++ after).takeWhile isNamePart = more := by
    rw [List.takeWhile_append_of_pos parts]
    cases after with
    | nil => simp
    | cons d after =>
        simp only [List.head?_cons, Option.any_some, Bool.or_eq_false_iff] at ends
        rw [List.takeWhile_cons_of_neg (by simp [ends.1]), List.append_nil]
  unfold scan
  dsimp only
  rw [if_neg (by simp [other]), if_neg (by simp [noBlank]),
    if_neg fun both => unquoted (by simpa using (Bool.and_eq_true_iff.mp both).2),
    if_neg fun both => unquoted (by simpa using (Bool.and_eq_true_iff.mp both).2),
    if_neg (by simp [other]), if_neg (by simp [other]), if_neg (by simp [other]),
    if_neg (by simp [noDigit, other]), if_neg (by simp [other]), if_neg (by simp [other]),
    if_pos name, word, whole]

/-- A character that begins no operator is a symbol of its own. -/
theorem symbol_single
    (alone : operators.all (fun operator => operator.toList.head?.any (· != c)) = true) :
    symbol c after = (.symbol (String.singleton c), 0) := by
  have none : operators.find? (fun operator => operator.toList.isPrefixOf (c :: after)) = none := by
    refine List.find?_eq_none.mpr fun operator member begins => ?_
    have other := List.all_eq_true.mp alone operator member
    cases spelled : operator.toList with
    | nil => simp [spelled] at other
    | cons d rest =>
        simp only [spelled, List.head?_cons, Option.any_some, bne_iff_ne] at other
        rw [spelled, List.isPrefixOf_cons_cons, Bool.and_eq_true, beq_iff_eq] at begins
        exact other begins.1
  rw [symbol, none]

/-- An identifier at the beginning of a text. -/
theorem lexemesFrom_word {word : String} (plain : isPlainIdentifier word = true)
    (ends : after.head?.any (fun d => isNamePart d || d == '\'') = false)
    (reached : place.advance word.toList = next)
    (later : lexemesFrom (some (.word ⟨word, none⟩)) next after = .ok ls) :
    lexemesFrom previous place (word.toList ++ after) =
      .ok (⟨.word ⟨word, none⟩, word.toList, place⟩ :: ls) := by
  obtain ⟨c, more, spelled, starts, goesOn⟩ := exists_cons_of_isPlainIdentifier plain
  have scanned : scan previous c (more ++ after) = _ := scan_identifier starts goesOn ends
  rw [← spelled, String.ofList_toList] at scanned
  rw [spelled, List.cons_append]
  refine lexemesFrom_cons_eq_ok_iff.mpr ⟨_, _, ls, scanned, ?_, by rw [List.take_left]⟩
  rwa [List.take_left, List.drop_left, ← spelled, reached]

/-- A space at the beginning of a text. -/
theorem lexemesFrom_space
    (later : lexemesFrom (some .blank) (place.advance [' ']) after = .ok ls) :
    lexemesFrom previous place (' ' :: after) = .ok (⟨.blank, [' '], place⟩ :: ls) :=
  lexemesFrom_cons_eq_ok_iff.mpr ⟨.blank, 0, ls, rfl, later, rfl⟩

/-- A parenthesis or a star at the beginning of a text. -/
theorem lexemesFrom_single (single : c ∈ ['(', '*', ')'])
    (later : lexemesFrom (some (.symbol (String.singleton c))) (place.advance [c]) after =
      .ok ls) :
    lexemesFrom previous place (c :: after) =
      .ok (⟨.symbol (String.singleton c), [c], place⟩ :: ls) := by
  have alone : ['(', '*', ')'].all (fun d =>
      operators.all fun operator => operator.toList.head?.any (· != d)) = true := by
    decide +kernel
  have scanned : scan previous c after = .ok (symbol c after) := by
    simp only [List.mem_cons, List.not_mem_nil, or_false] at single
    rcases single with rfl | rfl | rfl <;> rfl
  exact lexemesFrom_cons_eq_ok_iff.mpr
    ⟨_, 0, ls, scanned.trans (congrArg _ (symbol_single (List.all_eq_true.mp alone c single))),
      later, rfl⟩

end Lexer

namespace Counting

theorem lexemes_question (plain : isPlainIdentifier table = true) :
    lexemes ("SELECT COUNT(*) FROM " ++ table) = .ok (tokens table) := by
  have front : "SELECT COUNT(*) FROM ".toList = "SELECT".toList ++ ' ' :: ("COUNT".toList ++
      '(' :: '*' :: ')' :: ' ' :: ("FROM".toList ++ [' '])) := by decide +kernel
  have last : Lexer.lexemesFrom (some .blank) ⟨1, 22⟩ (table.toList ++ []) =
      .ok [⟨.word ⟨table, none⟩, table.toList, ⟨1, 22⟩⟩] :=
    Lexer.lexemesFrom_word plain rfl rfl (by rw [Lexer.lexemesFrom])
  rw [lexemes, String.toList_append, front]
  simp only [List.append_assoc, List.cons_append, List.nil_append]
  rw [← List.append_nil table.toList]
  exact Lexer.lexemesFrom_word (by decide) rfl (by decide) <|
    Lexer.lexemesFrom_space <|
    Lexer.lexemesFrom_word (by decide) rfl (by decide) <|
    Lexer.lexemesFrom_single (by decide) <|
    Lexer.lexemesFrom_single (by decide) <|
    Lexer.lexemesFrom_single (by decide) <|
    Lexer.lexemesFrom_space <|
    Lexer.lexemesFrom_word (by decide) rfl (by decide) <|
    Lexer.lexemesFrom_space last

end Counting

/-! ## Steps of recognisers -/

namespace Parse

variable {whole : List Lexeme} {α β : Type} {before : Cursor whole} {item : Occurrence whole}
  {rest : List (Occurrence whole)} {name : String}

theorem bind_apply (p : Parse whole α) (f : α → Parse whole β) (before : Cursor whole) :
    (p >>= f) before =
      match p before with
      | .ok (a, after) => f a after
      | .error failure => .error failure := by
  change (p before >>= fun read => f read.1 read.2) = _
  cases p before <;> rfl

theorem pure_apply (a : α) (before : Cursor whole) :
    (pure a : Parse whole α) before = .ok (a, before) := rfl

/-- A keyword is read when it is next. -/
theorem keyword_apply_of_eq (next : before.items = item :: rest) (same : item.keyword = name) :
    keyword name before = .ok (true, { before with items := rest }) := by
  have seen : peekKeyword name before = .ok (true, before) := by
    simp only [peekKeyword, peek, peekAt, bind_apply, next, List.getElem?_cons_zero,
      Option.any_some, same, beq_self_eq_true]
    rfl
  rw [keyword, bind_apply, seen]
  change Except.ok (true, { before with items := before.items.drop 1 }) = _
  rw [next]
  rfl

/-- Nothing is read when another keyword is next. -/
theorem keyword_apply_of_ne (next : before.items = item :: rest) (other : item.keyword ≠ name) :
    keyword name before = .ok (false, before) := by
  have apart : (item.keyword == name) = false := beq_eq_false_iff_ne.mpr other
  have seen : peekKeyword name before = .ok (false, before) := by
    simp only [peekKeyword, peek, peekAt, bind_apply, next, List.getElem?_cons_zero,
      Option.any_some, apart]
    rfl
  rw [keyword, bind_apply, seen]
  rfl

end Parse

/-! ## Recognising the question -/

namespace Counting

open Parse

/-- The table, mentioned as a relation. -/
def mentioned (table : String) : Mention (tokens table) where
  role := .relation
  first := ⟨table, ⟨.word ⟨table, none⟩, table.toList, ⟨1, 22⟩⟩, by simp [tokens], rfl⟩
  later := []

/-- The recognisers have passed over some tokens of the question and have found these
mentions. -/
def cursor (table : String) (passed : Nat) (mentions : List (Mention (tokens table))) :
    Cursor (tokens table) :=
  { Cursor.start (tokens table) with
    items := (Occurrence.ofLexemes (tokens table)).drop passed, mentions }

/-- The recognisers have passed over the whole question. -/
def finish (table : String) : Cursor (tokens table) := cursor table 7 [mentioned table]

/-- Where the recognisers end: behind the name, with one mention, or nowhere. -/
def outcome (table : String) : Except ParseFailure (Unit × Cursor (tokens table)) :=
  if IsFactorKeyword table then .error .mismatch else .ok ((), finish table)

theorem outcome_cases (table : String) :
    outcome table = .error .mismatch ∨ outcome table = .ok ((), finish table) := by
  rw [outcome]
  split
  · exact .inl rfl
  · exact .inr rfl

variable (g : Grammar (tokens table))

/-- The only place where the name matters. -/
theorem tableFactorBody_eq : tableFactorBody g (cursor table 6 []) =
    if IsFactorKeyword table then .error .mismatch
    else .ok (.single, finish table) := by
  have next : (cursor table 6 []).items =
      [⟨⟨⟨.word ⟨table, none⟩, table.toList, ⟨1, 22⟩⟩, (Word.mk table none).keyword, false,
        false⟩, by simp [tokens]⟩] := rfl
  by_cases isLateral : (Word.mk table none).keyword = "LATERAL"
  · have lateral := keyword_apply_of_eq next isLateral
    rw [if_pos (by simp [IsFactorKeyword, isLateral]), tableFactorBody, bind_apply, lateral]
    rfl
  have lateral := keyword_apply_of_ne next isLateral
  by_cases isTable : (Word.mk table none).keyword = "TABLE"
  · have function := keyword_apply_of_eq next isTable
    rw [if_pos (by simp [IsFactorKeyword, isTable])]
    simp only [tableFactorBody, bind_apply, lateral, function, Bool.false_eq_true, if_false,
      if_true]
    rfl
  have function := keyword_apply_of_ne next isTable
  rw [if_neg (by simp [IsFactorKeyword, isLateral, isTable])]
  have parenthesis : symbol "(" (cursor table 6 []) = .ok (false, cursor table 6 []) := rfl
  have name : named .relation (cursor table 6 []) = .ok ((), finish table) := rfl
  -- Nothing is left behind the name.
  have arguments : symbol "(" (finish table) = .ok (false, finish table) := rfl
  have ordinality :
      keywords ["WITH", "ORDINALITY"] (finish table) = .ok (false, finish table) := rfl
  have named : tableAlias (finish table) = .ok ((), finish table) := rfl
  have hints : peekKeyword "WITH" (finish table) = .ok (false, finish table) := rfl
  have behind : peekAt 1 (finish table) = .ok (none, finish table) := rfl
  have sample : tableSample g (finish table) = .ok ((), finish table) := rfl
  have pivot : pivots g (finish table) = .ok ((), finish table) := rfl
  simp only [tableFactorBody, bind_apply, pure_apply, lateral, function, parenthesis, name,
    arguments, ordinality, named, hints, behind, sample, pivot, Bool.false_eq_true, if_false,
    Bool.false_and]

theorem tables_eq : tables (Grammar.deeper g) (cursor table 6 []) = outcome table := by
  have factor : (Grammar.deeper g).tableFactor (cursor table 6 []) = _ := tableFactorBody_eq g
  have alone : joins (Grammar.deeper g) (finish table) = .ok (false, finish table) := rfl
  rw [tables, strictCommaList, bind_apply, bind_apply, tableAndJoins, bind_apply, factor, outcome]
  by_cases other : IsFactorKeyword table
  · rw [if_pos other, if_pos other]
  · rw [if_neg other, if_neg other]
    simp only [bind_apply, alone]
    rfl

theorem selection_eq : selection (Grammar.deeper g) (cursor table 0 []) = outcome table := by
  have early : keyword "FROM" (cursor table 0 []) = .ok (false, cursor table 0 []) := rfl
  have seen : peekKeyword "SELECT" (cursor table 0 []) = .ok (true, cursor table 0 []) := rfl
  have read : expectKeyword "SELECT" (cursor table 0 []) = .ok ((), cursor table 1 []) := rfl
  have all : distinct (Grammar.deeper g) (cursor table 1 []) = .ok ((), cursor table 1 []) := rfl
  have every : top (Grammar.deeper g) (cursor table 1 []) = .ok ((), cursor table 1 []) := rfl
  have count : commaList (selectItem (Grammar.deeper g)) (cursor table 1 []) =
      .ok ((), cursor table 5 []) := rfl
  have into : selectInto (cursor table 5 []) = .ok ((), cursor table 5 []) := rfl
  have source : keyword "FROM" (cursor table 5 []) = .ok (true, cursor table 6 []) := rfl
  have sources : Parse.after "FROM" (tables (Grammar.deeper g)) (cursor table 5 []) =
      outcome table := by
    simp only [Parse.after, bind_apply, source, if_true, tables_eq]
  simp only [selection, bind_apply, early, seen, read, all, every, count, into, sources,
    Bool.false_and, Bool.false_eq_true, if_false, Bool.not_false, if_true]
  rcases outcome_cases table with ended | ended <;> rw [ended]
  rfl

theorem queryBody_eq : queryBody (Grammar.deeper g) 8 0 (cursor table 0 []) = outcome table := by
  have seen : peekOneOf ["SELECT", "FROM"] (cursor table 0 []) =
      .ok (true, cursor table 0 []) := rfl
  have term : queryTerm (Grammar.deeper g) (cursor table 0 []) = outcome table := by
    simp only [queryTerm, bind_apply, seen, if_true, selection_eq]
  rw [queryBody, bind_apply, term]
  rcases outcome_cases table with ended | ended <;> rw [ended]
  rfl

theorem queryOrChange_eq :
    queryOrChange (Grammar.deeper g) (cursor table 0 []) = outcome table := by
  have common (p : Parse (tokens table) Unit) :
      Parse.after "WITH" p (cursor table 0 []) = .ok ((), cursor table 0 []) := rfl
  have noChange : oneOf ["INSERT", "UPDATE", "DELETE", "MERGE"] (cursor table 0 []) =
      .ok (none, cursor table 0 []) := rfl
  have bound : turns (cursor table 0 []) = .ok (8, cursor table 0 []) := rfl
  simp only [queryOrChange, bind_apply, common, noChange, bound, queryBody_eq]
  rcases outcome_cases table with ended | ended <;> rw [ended]
  rfl

theorem statementBody_eq : statementBody (Grammar.deeper (Grammar.deeper g)) (cursor table 0 []) =
    match outcome table with
    | .ok (_, after) => .ok (.ordinary, after)
    | .error failure => .error failure := by
  have seen : peek (cursor table 0 []) =
      .ok ((cursor table 0 []).items.head?, cursor table 0 []) := rfl
  have query : (Grammar.deeper (Grammar.deeper g)).query (cursor table 0 []) = outcome table :=
    queryOrChange_eq g
  rw [statementBody, bind_apply, seen]
  change ((Grammar.deeper (Grammar.deeper g)).query >>= fun _ => pure StatementKind.ordinary)
    (cursor table 0 []) = _
  rw [bind_apply, query]
  cases outcome table <;> rfl

theorem statements_eq : Grammar.statements (Cursor.start (tokens table)) = outcome table := by
  have semicolon : symbol ";" (cursor table 0 []) = .ok (false, cursor table 0 []) := rfl
  have bound : turns (cursor table 0 []) = .ok (8, cursor table 0 []) := rfl
  have seen : peek (cursor table 0 []) =
      .ok ((cursor table 0 []).items.head?, cursor table 0 []) := rfl
  have more : (cursor table 0 []).items.head?.isNone = false := rfl
  have statement : (Grammar.ofDepth Grammar.depthLimit).statement (cursor table 0 []) = _ :=
    statementBody_eq (Grammar.ofDepth 47)
  change Grammar.statements (cursor table 0 []) = _
  simp only [Grammar.statements, Parse.loop, loopFor, bind_apply, pure_apply, semicolon, bound,
    seen, more, statement, Bool.false_eq_true, if_false]
  rcases outcome_cases table with ended | ended <;> rw [ended]
  rfl

/-- The question mentions the table and nothing else, if it is understood. -/
theorem mentions?_tokens (table : String) : mentions? (tokens table) =
    if IsFactorKeyword table then none else some [mentioned table] := by
  rw [mentions?, statements_eq, outcome]
  split_ifs <;> rfl

end Counting

theorem readsCounts_duckDb : Dialect.duckDb.ReadsCounts where
  cuts _ plain := Counting.lexemes_question plain
  mentions table _ mentions understood := by
    change mentions? (Counting.tokens table) = some mentions at understood
    rw [Counting.mentions?_tokens] at understood
    split_ifs at understood
    obtain rfl := Option.some.inj understood
    exact ⟨⟨_, List.mem_singleton_self _, rfl, rfl, rfl⟩, by simp [Counting.mentioned]⟩
  unread table _ unknown := by
    change mentions? (Counting.tokens table) = none at unknown
    rw [Counting.mentions?_tokens] at unknown
    by_contra other
    rw [if_neg other] at unknown
    cases unknown

end MigrationLedger.Sql
