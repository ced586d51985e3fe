/-
# The lexer reads on behind a schema

The lexer reads a token in front of a word as before when a name and a point are put in in
front of the word, since no token can tell the first character of a word from that of
another. A token that stands directly in front is the exception, and it is asked to end there.
-/

import MigrationLedger.Proofs.Sql.DuckDb.Counting
import MigrationLedger.Proofs.Sql.DuckDb.TokenEnds
import MigrationLedger.Proofs.Sql.Respelling

namespace MigrationLedger.Sql

variable {name : String} {before after rest ls : List Lexeme} {lexeme : Lexeme}
  {text : List Char} {place : Location} {previous : Option Token} {word : Word}

namespace Lexer

variable {c : Char} {count : Nat} {token : Token} {result : Token × Nat}

/-- Only a point is read with regard to the token in front. -/
theorem scan_previous (other : c ≠ '.') (previous previous' : Option Token) (text : List Char) :
    scan previous c text = scan previous' c text := by
  unfold scan
  simp only [beq_eq_false_iff_ne.mpr other, Bool.false_and]
  rfl

theorem scan_point (previous : Option Token) {text : List Char} (plain : text.head? ≠ some '_') :
    scan previous '.' text = .ok ((number ('.' :: text)).1, (number ('.' :: text)).2 - 1) := by
  unfold scan
  simp [show Text.isBlank '.' = false by decide, plain]

/-- An underscore behind a point wants a word in front. -/
theorem scan_point_underscore {text : List Char} (underscore : text.head? = some '_') :
    scan none '.' text = .error ⟨.strayUnderscore, 0⟩ ∧
      ∀ word, scan (some (.word word)) '.' text = .ok (.symbol ".", 0) := by
  unfold scan
  simp [show Text.isBlank '.' = false by decide, underscore]

/-- What is read behind no token is read so behind any. -/
theorem scan_of_none (scanned : scan none c text = .ok result) (previous : Option Token) :
    scan previous c text = .ok result := by
  by_cases point : c = '.'
  · subst point
    by_cases underscore : text.head? = some '_'
    · rw [(scan_point_underscore underscore).1] at scanned
      cases scanned
    · rwa [scan_point previous underscore, ← scan_point none underscore]
  · rwa [scan_previous point previous none]

theorem number_ne_word (text : List Char) (word : Word) : (number text).1 ≠ .word word := by
  rcases number_token text with ⟨digits, same⟩ | same | ⟨digits, long, same⟩ <;> simp [same]

/-- A word is bare or in quotes. -/
theorem opens_of_scan_word (scanned : scan previous c text = .ok (.word word, count)) :
    isNameStart c = true ∨ c = '"' ∨ c = '`' := by
  generalize same : Token.word word = token at scanned
  cases scans_of_scan scanned with
  | name isQuote _ => exact .inr isQuote
  | word starts => exact .inl starts
  | number starts => exact absurd same.symm (number_ne_word _ word)
  | _ => cases same

/-- Neither an operator nor an exponent goes on with a word. -/
theorem isInert_of_scan_word (scanned : scan previous c text = .ok (.word word, count)) :
    isInert c = true := by
  rcases opens_of_scan_word scanned with starts | rfl | rfl
  · exact isInert_of_isNameStart starts
  · decide +kernel
  · decide +kernel

/-- A point in front of a word is read alone. -/
theorem scan_point_word {schema : Word} (scanned : scan previous c text = .ok (.word word, count)) :
    scan (some (.word schema)) '.' (c :: text) = .ok (.symbol ".", 0) := by
  by_cases underscore : (c :: text).head? = some '_'
  · exact (scan_point_underscore underscore).2 schema
  · have inert := isInert_of_scan_word scanned
    simp only [isInert, Bool.and_eq_true, Bool.not_eq_true'] at inert
    have alone : mantissa ('.' :: c :: text) = ['.'] := by
      simp [mantissa, fraction, inert, show Text.isAsciiDigit '.' = false by decide]
    rw [scan_point _ underscore, number_eq_decimal (by simp), decimal, if_pos alone]
    rfl

theorem ne_point_of_scan_word (scanned : scan previous c text = .ok (.word word, count)) :
    c ≠ '.' := by
  rintro rfl
  rcases opens_of_scan_word scanned with starts | isQuote
  · exact absurd starts (by decide +kernel)
  · exact absurd isQuote (by decide)

end Lexer

/-- Some lexemes are what is read from their own texts behind a token, wherever these
stand. -/
inductive ScansAs : Option Token → List Lexeme → Prop
  | nil {previous : Option Token} : ScansAs previous []
  | cons {previous : Option Token} {lexeme : Lexeme} {rest : List Lexeme} {c : Char}
      {more : List Char} {count : Nat} (spelled : lexeme.text = c :: more)
      (scanned : Lexer.scan previous c (more ++ rest.flatMap Lexeme.text) =
        .ok (lexeme.token, count))
      (taken : (more ++ rest.flatMap Lexeme.text).take count = more)
      (later : ScansAs (some lexeme.token) rest) : ScansAs previous (lexeme :: rest)

/-- Usually it is known where the token ends. -/
theorem ScansAs.cons_of_length {c : Char} {more : List Char} (spelled : lexeme.text = c :: more)
    (scanned : Lexer.scan previous c (more ++ rest.flatMap Lexeme.text) =
      .ok (lexeme.token, more.length))
    (later : ScansAs (some lexeme.token) rest) : ScansAs previous (lexeme :: rest) :=
  .cons spelled scanned List.take_left later

theorem scansAs_of_lexemesFrom (read : Lexer.lexemesFrom previous place text = .ok ls) :
    ScansAs previous ls := by
  induction ls generalizing previous place text with
  | nil => exact .nil
  | cons lexeme rest ih =>
      cases text with
      | nil =>
          rw [Lexer.lexemesFrom] at read
          cases read
      | cons c text =>
          obtain ⟨token, count, later, scanned, continued, same⟩ :=
            Lexer.lexemesFrom_cons_eq_ok_iff.mp read
          obtain ⟨rfl, rfl⟩ := List.cons.inj same
          have whole : text.take count ++ rest.flatMap Lexeme.text = text := by
            rw [(Lexer.tiling_of_lexemesFrom continued).flatMap_text, List.take_append_drop]
          exact .cons rfl (whole.symm ▸ scanned) (by rw [whole]) (ih continued)

/-- They are read from every place on. -/
theorem ScansAs.lexemesFrom_eq (reads : ScansAs previous ls) (place : Location) :
    Lexer.lexemesFrom previous place (ls.flatMap Lexeme.text) = .ok (placed place ls) := by
  induction reads generalizing place with
  | nil => rw [List.flatMap_nil, Lexer.lexemesFrom, placed]
  | @cons previous lexeme rest c more count spelled scanned taken _ ih =>
      have behind : (more ++ rest.flatMap Lexeme.text).drop count = rest.flatMap Lexeme.text := by
        have whole := List.take_append_drop count (more ++ rest.flatMap Lexeme.text)
        rw [taken] at whole
        exact List.append_cancel_left whole
      rw [List.flatMap_cons, spelled, List.cons_append]
      refine Lexer.lexemesFrom_cons_eq_ok_iff.mpr
        ⟨_, count, placed (place.advance (c :: more)) rest, scanned, ?_, ?_⟩
      · rw [taken, behind, ih]
      · rw [taken, placed, spelled]

theorem ScansAs.text_ne_nil (reads : ScansAs previous ls) (member : lexeme ∈ ls) :
    lexeme.text ≠ [] := by
  induction reads with
  | nil => cases member
  | cons spelled _ _ _ ih =>
      rcases List.mem_cons.mp member with rfl | later
      · exact spelled ▸ List.cons_ne_nil _ _
      · exact ih later

/-- Where lexemes stood makes no difference. -/
theorem scansAs_of_placed (scans : ScansAs previous (placed place ls)) : ScansAs previous ls := by
  induction ls generalizing previous place with
  | nil => exact .nil
  | cons lexeme rest ih =>
      rw [placed] at scans
      obtain _ | ⟨spelled, scanned, taken, later⟩ := scans
      rw [flatMap_text_placed] at scanned taken
      exact .cons spelled scanned taken (ih later)

theorem readsAs_duckDb_iff : Dialect.duckDb.ReadsAs ls ↔ ScansAs none ls := by
  rw [Dialect.ReadsAs]
  change lexemes _ = _ ↔ _
  rw [lexemes, String.toList_ofList]
  exact ⟨fun read => scansAs_of_placed (scansAs_of_lexemesFrom read),
    fun scans => scans.lexemesFrom_eq .start⟩

/-! ### Putting a name in -/

theorem ScansAs.of_append (scans : ScansAs previous (before ++ after)) :
    ∃ previous', ScansAs previous' after := by
  induction before generalizing previous with
  | nil => exact ⟨previous, scans⟩
  | cons first before ih =>
      obtain _ | ⟨-, -, -, later⟩ := scans
      exact ih later

theorem ScansAs.beginsInert (scans : ScansAs previous (lexeme :: rest))
    (token : lexeme.token = .word word) (text : List Char) :
    Lexer.BeginsInert (lexeme.text ++ text) := by
  cases scans with
  | cons spelled scanned =>
      rw [token] at scanned
      rw [spelled]
      intro d here
      obtain rfl := Option.some.inj here
      exact Lexer.isInert_of_scan_word scanned

theorem beginsInert_name (plain : isPlainIdentifier name = true) (text : List Char) :
    Lexer.BeginsInert (name.toList ++ text) := by
  obtain ⟨c, more, spelled, starts, -⟩ := exists_cons_of_isPlainIdentifier plain
  rw [spelled]
  intro d here
  obtain rfl := Option.some.inj here
  exact Lexer.isInert_of_isNameStart (Lexer.isNameStart_of_isIdentifierStart starts).1

/-- A token that ends in front of a name ends there too when a point follows the name. -/
theorem agree_name (plain : isPlainIdentifier name = true) (text : List Char) :
    Lexer.Agree name.toList (name.toList ++ '.' :: text) := by
  obtain ⟨c, more, spelled, -⟩ := exists_cons_of_isPlainIdentifier plain
  have nonempty : name.toList ≠ [] := spelled ▸ List.cons_ne_nil _ _
  have point : Lexer.isInert '.' = true := by decide +kernel
  have agree : Lexer.Agree (name.toList ++ []) (name.toList ++ '.' :: text) :=
    Lexer.agree_append nonempty (by simp [Lexer.BeginsInert])
      (by simpa [Lexer.BeginsInert] using point)
  rwa [List.append_nil] at agree

/-- A name and a point in front of a word are two tokens. -/
theorem scansAs_inserted (plain : isPlainIdentifier name = true) (place : Location)
    (token : lexeme.token = .word word) (scans : ScansAs previous (lexeme :: rest)) :
    ScansAs previous (inserted name place ++ lexeme :: rest) := by
  obtain ⟨d, others, same, starts, goesOn⟩ := exists_cons_of_isPlainIdentifier plain
  cases scans with
  | @cons _ _ _ c more count spelled scanned taken later =>
      rw [token] at scanned
      have point : Lexer.scan (some (.word ⟨name, none⟩)) '.'
          (c :: (more ++ rest.flatMap Lexeme.text)) = .ok (.symbol ".", 0) :=
        Lexer.scan_point_word scanned
      have ends : ('.' :: c :: (more ++ rest.flatMap Lexeme.text)).head?.any
          (fun d => Lexer.isNamePart d || d == '\'') = false := by
        rw [List.head?_cons, Option.any_some]
        decide +kernel
      have bare : Lexer.scan previous d (others ++ '.' :: c :: (more ++ rest.flatMap Lexeme.text)) =
          .ok (.word ⟨name, none⟩, others.length) := by
        rw [Lexer.scan_identifier starts goesOn ends, ← same, String.ofList_toList]
      have unmoved := Lexer.scan_previous (Lexer.ne_point_of_scan_word scanned)
        (some (.symbol ".")) previous
      have word : ScansAs (some (.symbol ".")) (lexeme :: rest) :=
        .cons spelled ((unmoved _).trans (token ▸ scanned)) taken later
      have written : (lexeme :: rest).flatMap Lexeme.text =
          c :: (more ++ rest.flatMap Lexeme.text) := by
        rw [List.flatMap_cons, spelled, List.cons_append]
      rw [← written] at bare point
      exact ScansAs.cons_of_length same bare (ScansAs.cons_of_length rfl point word)

/-- A token in front of other text ends where that begins. -/
theorem eq_length_of_take {more behind : List Char} {count : Nat} (nonempty : behind ≠ [])
    (taken : (more ++ behind).take count = more) : count = more.length := by
  have size := congrArg List.length taken
  have := List.length_pos_iff.mpr nonempty
  rw [List.length_take, List.length_append] at size
  omega

/-- A token that ends in front of a name is read there whatever is read in front of it. -/
theorem scan_of_endsBefore {c : Char} {more : List Char} (plain : isPlainIdentifier name = true)
    (ends : lexeme.EndsBefore .duckDb name) (spelled : lexeme.text = c :: more)
    (previous : Option Token) :
    Lexer.scan previous c (more ++ name.toList) = .ok (lexeme.token, more.length) := by
  obtain ⟨d, others, same, -⟩ := exists_cons_of_isPlainIdentifier plain
  obtain _ | ⟨spelled', scanned, taken, -⟩ := readsAs_duckDb_iff.mp ends
  obtain ⟨rfl, rfl⟩ := List.cons.inj (spelled.symm.trans spelled')
  have written : [(⟨.word ⟨name, none⟩, name.toList, .start⟩ : Lexeme)].flatMap Lexeme.text =
      name.toList := by simp
  rw [written] at scanned taken
  have size := eq_length_of_take (same ▸ List.cons_ne_nil d others) taken
  exact Lexer.scan_of_none (size ▸ scanned) previous

/-- A token in front of a name that is put in is read as before: directly in front since it
ends there, and farther in front since the texts begin alike. -/
theorem scan_inserted {first : Lexeme} {c : Char} {more : List Char} {count : Nat}
    (plain : isPlainIdentifier name = true) (place : Location)
    (token : lexeme.token = .word word) (spelled : first.text = c :: more)
    (scanned : Lexer.scan previous c (more ++ (before ++ lexeme :: after).flatMap Lexeme.text) =
      .ok (first.token, count))
    (taken : (more ++ (before ++ lexeme :: after).flatMap Lexeme.text).take count = more)
    (later : ScansAs (some first.token) (before ++ lexeme :: after))
    (ends : before = [] → first.EndsBefore .duckDb name) :
    Lexer.scan previous c
        (more ++ (before ++ (inserted name place ++ lexeme :: after)).flatMap Lexeme.text) =
      .ok (first.token, more.length) := by
  have put : (before ++ (inserted name place ++ lexeme :: after)).flatMap Lexeme.text =
      before.flatMap Lexeme.text ++
        (name.toList ++ '.' :: (lexeme :: after).flatMap Lexeme.text) := by
    simp [flatMap_text_inserted]
  rw [put]
  cases before with
  | nil =>
      exact Lexer.scan_append (agree_name plain _) (scan_of_endsBefore plain (ends rfl) spelled _)
  | cons second before =>
      have nonempty : (second :: before).flatMap Lexeme.text ≠ [] :=
        List.append_ne_nil_of_left_ne_nil (later.text_ne_nil List.mem_cons_self) _
      obtain ⟨previous', word⟩ := later.of_append
      rw [List.flatMap_append] at scanned taken
      obtain rfl := eq_length_of_take (List.append_ne_nil_of_left_ne_nil nonempty _) taken
      refine Lexer.scan_append (Lexer.agree_append nonempty ?_ (beginsInert_name plain _)) scanned
      exact word.beginsInert token (after.flatMap Lexeme.text)

/-- The lexemes with a name and a point put in are what is read from their texts. -/
theorem scansAs_append_inserted (plain : isPlainIdentifier name = true) (place : Location)
    (token : lexeme.token = .word word)
    (ends : ∀ last ∈ before.getLast?, last.EndsBefore .duckDb name)
    (scans : ScansAs previous (before ++ lexeme :: after)) :
    ScansAs previous (before ++ (inserted name place ++ lexeme :: after)) := by
  induction before generalizing previous with
  | nil => exact scansAs_inserted plain place token scans
  | cons first before ih =>
      obtain _ | ⟨spelled, scanned, taken, later⟩ := scans
      refine .cons_of_length spelled
        (scan_inserted plain place token spelled scanned taken later ?_) (ih ?_ later)
      · rintro rfl
        exact ends first rfl
      · intro last member
        exact ends last (by simp_all [List.getLast?_cons])

theorem rereads_duckDb : Dialect.duckDb.Rereads := by
  intro name plain before lexeme after word reads token ends
  rw [readsAs_duckDb_iff] at reads ⊢
  exact scansAs_append_inserted plain _ token ends reads

end MigrationLedger.Sql
