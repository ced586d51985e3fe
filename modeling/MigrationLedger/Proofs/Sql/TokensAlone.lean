/-
# By the tokens alone

A statement that is not understood is qualified by its tokens. The loop over them carries
two things from token to token: the last token that is no blank, and whether a name that
comes next is that of an index or a constraint. The two change at different tokens, and
some words pass the second one on, also over punctuation.

In closed form each of them asks for one token in front of the name: the nearest one that
is no blank, and the nearest word that is none of `IF`, `NOT` and `EXISTS`. So what
becomes of a name is settled by the tokens in front of it, and nothing behind it matters.
Which statements have tokens, and which of these are not understood, is left to the
dialect: all that is asked of it is that the tokens tile the statement.
-/

import MigrationLedger.Proofs.Sql.Qualification

namespace MigrationLedger.Sql

/-! ## What stands in front of a name -/

namespace Word

/-- The word may stand between `INDEX` and the name of the index. -/
def isPassedOver (word : Word) : Bool := ["IF", "NOT", "EXISTS"].contains word.keyword

/-- The name behind the word is that of an index or a constraint. -/
def announcesLabel (word : Word) : Bool := ["INDEX", "CONSTRAINT"].contains word.keyword

/-- A word in quotes is no keyword, whatever stands between its quotes. -/
theorem plain_of_quoted {word : Word} (quoted : word.quote ≠ none) :
    word.isPassedOver = false ∧ word.announcesLabel = false := by
  obtain ⟨quote, quoted⟩ := Option.ne_none_iff_exists'.mp quoted
  have keyword : word.keyword = "" := by simp only [Word.keyword, quoted]
  simp [isPassedOver, announcesLabel, keyword]

end Word

/-- The word that a lexeme is, if it is one. -/
def Lexeme.word? (lexeme : Lexeme) : Option Word :=
  match lexeme.token with
  | .word word => some word
  | _ => none

/-- The nearest token in front that is no blank and no comment. -/
def tokenBefore (before : List Lexeme) : Option Token :=
  ((before.map Lexeme.token).filter fun token => !token.isBlank).getLast?

/-- The nearest word in front that is none of `IF`, `NOT` and `EXISTS`. -/
def wordBefore (before : List Lexeme) : Option Word :=
  ((before.filterMap Lexeme.word?).filter fun word => !word.isPassedOver).getLast?

variable {before front : List Lexeme} {lexeme : Lexeme} {word : Word} {ls : List Lexeme}

theorem lastToken_append (previous : Option Token) (first second : List Lexeme) :
    lastToken previous (first ++ second) = lastToken (lastToken previous first) second :=
  List.foldl_append

theorem namingFrom_append (naming : Bool) (first second : List Lexeme) :
    namingFrom naming (first ++ second) = namingFrom (namingFrom naming first) second :=
  List.foldl_append

theorem lastToken_eq_tokenBefore (before : List Lexeme) :
    lastToken none before = tokenBefore before := by
  induction before using List.reverseRecOn with
  | nil => rfl
  | append_singleton before lexeme ih =>
      rw [lastToken_append, ih]
      cases blank : lexeme.token.isBlank <;> simp [lastToken, tokenBefore, blank]

/-- A word that is passed over leaves what comes next as it was. Any other one decides
it. -/
theorem namingAfter_eq (word : Word) (naming : Bool) :
    Qualifier.namingAfter word naming =
      if word.isPassedOver then naming else word.announcesLabel := by
  rw [Qualifier.namingAfter]
  by_cases announces : word.announcesLabel = true
  · have other : word.isPassedOver = false := by
      simp only [Word.announcesLabel, List.contains_iff_mem, List.mem_cons, List.not_mem_nil,
        or_false] at announces
      rcases announces with keyword | keyword <;> simp [Word.isPassedOver, keyword]
    rw [other, announces]
    exact if_pos announces
  · rw [Bool.eq_false_iff.mpr announces]
    exact if_neg announces

/-- Whether a name is that of an index or a constraint is told by one word in front. -/
theorem namingFrom_eq_wordBefore (before : List Lexeme) :
    namingFrom false before = (wordBefore before).any Word.announcesLabel := by
  induction before using List.reverseRecOn with
  | nil => rfl
  | append_singleton before lexeme ih =>
      rw [namingFrom_append, ih]
      cases token : lexeme.token with
      | word word =>
          cases passed : word.isPassedOver <;>
            simp [namingFrom, wordBefore, Lexeme.word?, token, namingAfter_eq, passed]
      | _ => simp [namingFrom, wordBefore, Lexeme.word?, token]

/-! ## The names that get the schema -/

/-- The tokens of a statement that is not understood. -/
structure Unknown (dialect : Dialect) (statement : String) where
  ls : List Lexeme
  read : dialect.lexemes statement = .ok ls
  unknown : dialect.mentions? ls = none

/-- The tokens of a statement, if it has some and is not understood. -/
def Unknown.of? (dialect : Dialect) (statement : String) : Option (Unknown dialect statement) :=
  match read : dialect.lexemes statement with
  | .error _ => none
  | .ok ls =>
    match unknown : dialect.mentions? ls with
    | none => some ⟨ls, read, unknown⟩
    | some _ => none

namespace Qualifier

/-- A word is a name of the job store, as far as this can be told by what stands in front
of it: no point does, and it is not announced as the name of an index or a constraint. -/
structure TakesByTokens (q : Qualifier) (before : List Lexeme) (word : Word) : Prop where
  owned : q.tablePrefix.toList <+: word.value.toList
  leads : tokenBefore before ≠ some (.symbol ".")
  free : ∀ near ∈ wordBefore before, near.announcesLabel = false

variable {dialect : Dialect} {q : Qualifier} {statement : String} {points : List Nat}

/-- In a statement that is not understood, the words that are chosen after no point are
those that are taken by the tokens in front of them. -/
theorem chosen_iff_takesByTokens (unknown : dialect.mentions? ls = none)
    (here : LeadingWord ls) :
    dialect.chooses q ls (namingFrom false here.before) here.word = true ↔
      q.TakesByTokens here.before here.word := by
  have leads := here.leads
  rw [lastToken_eq_tokenBefore] at leads
  simp only [Dialect.chooses, unknown, namingFrom_eq_wordBefore, Bool.and_eq_true,
    Bool.not_eq_true', Option.any_eq_false, owns_iff]
  constructor
  · rintro ⟨free, owned⟩
    exact ⟨owned, leads, by simpa using free⟩
  · rintro ⟨owned, _, free⟩
    exact ⟨by simpa using free, owned⟩

/-- Some lexemes have a name of the job store with so many bytes in front of it. -/
def NameAt (q : Qualifier) (ls : List Lexeme) (point : Nat) : Prop :=
  ∃ before lexeme after word, ls = before ++ lexeme :: after ∧ lexeme.token = .word word ∧
    q.TakesByTokens before word ∧ point = Text.byteLength (before.flatMap Lexeme.text)

/-- The insertion points in a statement that is not understood. -/
theorem mem_points_iff_nameAt (tiles : dialect.Tiles) (unread : Unknown dialect statement)
    (found : dialect.insertionPoints q statement = .ok points) {point : Nat} :
    point ∈ points ↔ q.NameAt unread.ls point := by
  obtain ⟨others, same, -, words⟩ := exists_insertionPoints (q := q) tiles unread.read
  obtain rfl := Except.ok.inj (found.symm.trans same)
  rw [words]
  constructor
  · rintro ⟨here, chosen, rfl⟩
    exact ⟨here.before, here.lexeme, here.after, here.word, here.whole, here.isWord,
      (chosen_iff_takesByTokens unread.unknown here).mp chosen, rfl⟩
  · rintro ⟨before, lexeme, after, word, whole, isWord, taken, rfl⟩
    have leads : lastToken none before ≠ some (.symbol ".") := by
      rw [lastToken_eq_tokenBefore]
      exact taken.leads
    exact ⟨⟨before, lexeme, after, word, whole, isWord, leads⟩,
      (chosen_iff_takesByTokens unread.unknown _).mpr taken, rfl⟩

/-- The names within the beginning of a statement are those of the beginning alone. -/
theorem nameAt_append_iff {back : List Lexeme} {point : Nat}
    (within : point < Text.byteLength (front.flatMap Lexeme.text)) :
    q.NameAt (front ++ back) point ↔ q.NameAt front point := by
  constructor
  · rintro ⟨before, lexeme, after, word, split, isWord, taken, rfl⟩
    rcases List.append_eq_append_iff.mp split with ⟨rest, rfl, -⟩ | ⟨rest, rfl, tail⟩
    · rw [List.flatMap_append, Text.byteLength_append] at within
      omega
    · cases rest with
      | nil =>
          rw [List.append_nil] at within
          omega
      | cons first rest =>
          obtain ⟨rfl, -⟩ := List.cons.inj tail
          exact ⟨before, lexeme, rest, word, rfl, isWord, taken, rfl⟩
  · rintro ⟨before, lexeme, after, word, rfl, isWord, taken, rfl⟩
    exact ⟨before, lexeme, after ++ back, word, by simp, isWord, taken, rfl⟩

/-- **Qualifying by the tokens alone.** Take any dialect whose lexemes tile the statements
that they are read from. A statement that it can cut into tokens and does not understand is
qualified. The schema, if there is one, is put in exactly in front of the words that belong
to the job store, follow no point, and are not announced by `INDEX` or `CONSTRAINT`: the
nearest word in front that is none of `IF`, `NOT` and `EXISTS` is neither of the two, and
words in quotes are none of the five. Another such statement that begins with the same
tokens gets the schema at the same places among them, whatever follows. -/
theorem insertionPoints_of_unknown {dialect : Dialect} (tiles : dialect.Tiles) (q : Qualifier)
    (unread : Unknown dialect statement) :
    ∃ points rewritten, dialect.insertionPoints q statement = .ok points ∧
      dialect.qualify q statement = .ok rewritten ∧
      (∀ schema ∈ q.schema,
        Spliced (schema ++ ".").toList statement.toList points rewritten.toList) ∧
      (q.schema = none → rewritten = statement) ∧
      (∀ point, point ∈ points ↔ q.NameAt unread.ls point) ∧
      (∀ word : Word, word.quote ≠ none →
        word.isPassedOver = false ∧ word.announcesLabel = false) ∧
      ∀ (other : String) (unread' : Unknown dialect other) (front back back' : List Lexeme)
        (points' : List Nat), unread.ls = front ++ back → unread'.ls = front ++ back' →
        dialect.insertionPoints q other = .ok points' →
        ∀ point < Text.byteLength (front.flatMap Lexeme.text),
          point ∈ points' ↔ point ∈ points := by
  obtain ⟨points, found, -⟩ := exists_insertionPoints (q := q) tiles unread.read
  have named (point : Nat) : point ∈ points ↔ q.NameAt unread.ls point :=
    mem_points_iff_nameAt tiles unread found
  have alike : ∀ (other : String) (unread' : Unknown dialect other)
      (front back back' : List Lexeme) (points' : List Nat), unread.ls = front ++ back →
      unread'.ls = front ++ back' → dialect.insertionPoints q other = .ok points' →
      ∀ point < Text.byteLength (front.flatMap Lexeme.text),
        point ∈ points' ↔ point ∈ points := by
    intro other unread' front back back' points' first second found' point within
    rw [mem_points_iff_nameAt tiles unread' found', named, first, second,
      nameAt_append_iff within, nameAt_append_iff within]
  cases schema : q.schema with
  | none =>
      have kept : dialect.qualify q statement = .ok statement := by
        simp only [Dialect.qualify, schema]
      exact ⟨points, statement, found, kept, by simp, fun _ => rfl, named,
        fun _ => Word.plain_of_quoted, alike⟩
  | some schema =>
      obtain ⟨others, rewritten, qualified, again, spliced, -⟩ :=
        exists_spliced schema tiles unread.read
      obtain rfl := Except.ok.inj (found.symm.trans again)
      exact ⟨points, rewritten, found, qualified, by simpa using spliced, by simp, named,
        fun _ => Word.plain_of_quoted, alike⟩

/-- An index is announced over a word and a comma, a quoted word announces nothing, and a
name behind a point is left. -/
def frobnication : Unknown .duckDb
    "FROBNICATE INDEX IF, jobrunr_a ON jobrunr_b \"INDEX\" jobrunr_c, x. jobrunr_d" :=
  (Unknown.of? _ _).get (by decide +kernel)

/-- Two of four names get the schema, and they do so by what stands in front of them. -/
theorem insertionPoints_of_frobnication :
    Dialect.duckDb.Tiles ∧
      Dialect.duckDb.insertionPoints (make (some "app") "jobrunr_")
          "FROBNICATE INDEX IF, jobrunr_a ON jobrunr_b \"INDEX\" jobrunr_c, x. jobrunr_d" =
        .ok [34, 52] ∧
      (make (some "app") "jobrunr_").NameAt frobnication.ls 34 ∧
      ¬ (make (some "app") "jobrunr_").NameAt frobnication.ls 21 := by
  obtain ⟨points, _, found, _, _, _, named, _⟩ :=
    insertionPoints_of_unknown tiles_duckDb (make (some "app") "jobrunr_") frobnication
  have computed : Dialect.duckDb.insertionPoints (make (some "app") "jobrunr_")
      "FROBNICATE INDEX IF, jobrunr_a ON jobrunr_b \"INDEX\" jobrunr_c, x. jobrunr_d" =
      .ok [34, 52] := by decide +kernel
  obtain rfl := Except.ok.inj (computed.symm.trans found)
  exact ⟨tiles_duckDb, found, (named 34).mp (by decide),
    fun taken => absurd ((named 21).mpr taken) (by decide)⟩

end Qualifier

end MigrationLedger.Sql
