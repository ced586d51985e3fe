/-
# Qualifying what was qualified

A statement that has its schemas is qualified once more. A word that got a schema follows a
point now and is never taken again. What can be taken are the schemas themselves, which
look like any other word, and the words that were left. Whether they are depends on the
second reading: a schema may turn a statement that was understood into one that is not, and
the other way round, and the two kinds of statements are judged by different rules.

So the second run changes nothing exactly when it takes no schema and none of the words that
were left. It does so for every statement in which all names of the job store are tables,
when the schema itself is no such name.
-/

import MigrationLedger.Proofs.Sql.DuckDb.Respelling

namespace MigrationLedger.Sql

variable {dialect : Dialect} {schema statement : String} {chosen chosen' : Bool → Word → Bool}
  {before after rest ls : List Lexeme} {lexeme : Lexeme} {place : Location}
  {previous : Option Token} {naming : Bool}

/-! ## Statements that stay as they are -/

theorem length_respelled (schema : String) (chosen : Bool → Word → Bool)
    (before after : List Lexeme) :
    ((respelled schema chosen before after).flatMap Lexeme.text).length =
      (after.flatMap Lexeme.text).length + (schema.toList.length + 1) *
        (Qualifier.places chosen (lastToken none before) (namingFrom false before)
          after).length := by
  induction after generalizing before with
  | nil => rfl
  | cons lexeme rest ih =>
      rw [places_cons, respelled]
      split_ifs
      · simp only [List.flatMap_append, List.flatMap_cons, List.length_append, ih,
          flatMap_text_inserted, List.length_singleton, Nat.mul_add, Nat.mul_one]
        omega
      · rw [List.nil_append, List.nil_append, List.flatMap_cons, List.flatMap_cons,
          List.length_append, List.length_append, ih, Nat.add_assoc]

theorem respelled_eq_self (none : Qualifier.places chosen (lastToken none before)
    (namingFrom false before) after = []) : respelled schema chosen before after = after := by
  induction after generalizing before with
  | nil => rfl
  | cons lexeme rest ih =>
      rw [places_cons, List.append_eq_nil_iff] at none
      split_ifs at none with taken
      · cases none.1
      · rw [respelled, if_neg taken, List.nil_append, ih none.2]

/-- A statement stays as it is when none of its words are chosen. -/
theorem qualify_eq_self_iff {q : Qualifier} (tiles : dialect.Tiles)
    (named : q.schema = some schema) (read : dialect.lexemes statement = .ok ls) :
    dialect.qualify q statement = .ok statement ↔
      Qualifier.places (dialect.chooses q ls) none false ls = [] := by
  have whole := (tiles read).flatMap_text
  rw [qualify_eq_respelled tiles named read, Except.ok.injEq, String.ext_iff, String.toList_ofList,
    ← whole]
  constructor
  · intro same
    have size := length_respelled schema (dialect.chooses q ls) [] ls
    rw [same] at size
    have none := Nat.mul_eq_zero.mp (Nat.left_eq_add.mp size)
    exact List.length_eq_zero_iff.mp (none.resolve_left (Nat.succ_ne_zero _))
  · intro none
    rw [respelled_eq_self none]

/-! ## The second run -/

theorem places_cons_eq_nil_iff :
    Qualifier.places chosen previous naming (lexeme :: rest) = [] ↔
      (∀ word, lexeme.token = .word word → previous ≠ some (.symbol ".") →
        chosen naming word = false) ∧
      Qualifier.places chosen (lastToken previous [lexeme]) (namingFrom naming [lexeme]) rest =
        [] := by
  obtain ⟨token, text, location⟩ := lexeme
  cases token with
  | word word =>
      rw [Qualifier.places_word_cons, List.append_eq_nil_iff]
      refine and_congr ?_ Iff.rfl
      simp
  | _ => simp [Qualifier.places, lastToken, namingFrom, Token.isBlank]

/-- What holds at all places of a list holds at the first one and at all later ones. -/
theorem forall_split_cons_iff {α : Type} {a : α} {items : List α} {p : List α → α → Prop} :
    (∀ between item later, a :: items = between ++ item :: later → p between item) ↔
      p [] a ∧ ∀ between item later, items = between ++ item :: later → p (a :: between) item := by
  constructor
  · intro all
    exact ⟨all [] a items rfl, fun between item later split =>
      all (a :: between) item later (by rw [split, List.cons_append])⟩
  · rintro ⟨first, others⟩ between item later split
    rcases List.cons_eq_append_iff.mp split with ⟨rfl, same⟩ | ⟨more, rfl, same⟩
    · obtain ⟨rfl, -⟩ := List.cons.inj same
      exact first
    · exact others more item later same

/-- The first word of the name that a word begins, when a schema has been put in front of the
words that are chosen. -/
def headWord (schema : String) (chosen : Bool → Word → Bool) (before : List Lexeme) (word : Word) :
    Word :=
  if chosen (namingFrom false before) word then ⟨schema, none⟩ else word

theorem chosen_eq_false_of_not_isTaken {word : Word} (kept : ¬ lexeme.isTaken chosen before = true)
    (token : lexeme.token = .word word) (leads : lastToken none before ≠ some (.symbol ".")) :
    chosen (namingFrom false before) word = false := by
  unfold Lexeme.isTaken at kept
  rw [token] at kept
  simpa [leads] using kept

theorem lastToken_word {word : Word} (token : lexeme.token = .word word)
    (previous : Option Token) : lastToken previous [lexeme] = some (.word word) := by
  simp [lastToken, token, Token.isBlank]

/-- Of a schema, its point and the word behind it only the schema can be taken. -/
theorem places_inserted_eq_nil_iff {word : Word} (token : lexeme.token = .word word)
    (leads : previous ≠ some (.symbol ".")) (place : Location) :
    Qualifier.places chosen previous naming (inserted schema place ++ lexeme :: rest) = [] ↔
      chosen naming ⟨schema, none⟩ = false ∧
        Qualifier.places chosen (some (.word word))
          (namingFrom naming (inserted schema place ++ [lexeme])) rest = [] := by
  rw [inserted, List.cons_append, List.cons_append, List.nil_append, places_cons_eq_nil_iff,
    places_cons_eq_nil_iff, places_cons_eq_nil_iff, lastToken_word token]
  constructor
  · rintro ⟨first, -, -, later⟩
    exact ⟨first _ rfl leads, later⟩
  · rintro ⟨first, later⟩
    refine ⟨?_, ?_, ?_, later⟩
    · rintro _ same -
      obtain rfl := Token.word.inj same
      exact first
    · intro _ point
      cases point
    · exact fun _ _ behind => absurd rfl behind

/-- A second choice takes nothing exactly when it takes none of the words that begin names
now, each seen behind what stands in front of it now. -/
theorem places_respelled_eq_nil_iff (schema : String) (chosen chosen' : Bool → Word → Bool)
    (before after : List Lexeme) (naming : Bool) :
    Qualifier.places chosen' (lastToken none before) naming
        (respelled schema chosen before after) = [] ↔
      ∀ between lexeme later, after = between ++ lexeme :: later →
        ∀ word, lexeme.token = .word word →
          lastToken none (before ++ between) ≠ some (.symbol ".") →
          chosen' (namingFrom naming (respelled schema chosen before between))
            (headWord schema chosen (before ++ between) word) = false := by
  induction after generalizing before naming with
  | nil => simp [respelled, Qualifier.places]
  | cons lexeme rest ih =>
      have later (naming : Bool) := ih (before ++ [lexeme]) naming
      simp only [List.append_assoc, List.singleton_append] at later
      rw [forall_split_cons_iff]
      by_cases taken : lexeme.isTaken chosen before = true
      · obtain ⟨word, token, leads, isChosen⟩ := exists_word_of_isTaken taken
        rw [lastToken_append, lastToken_word token] at later
        simp only [respelled, if_pos taken, List.append_nil]
        rw [places_inserted_eq_nil_iff token leads, later]
        have split (between : List Lexeme) : namingFrom naming
            (inserted schema lexeme.location ++
              lexeme :: respelled schema chosen (before ++ [lexeme]) between) =
            namingFrom (namingFrom naming (inserted schema lexeme.location ++ [lexeme]))
              (respelled schema chosen (before ++ [lexeme]) between) := by
          rw [← namingFrom_append, List.append_assoc, List.singleton_append]
        simp only [split]
        refine and_congr ?_ Iff.rfl
        have head (other : Word) (same : lexeme.token = .word other) :
            headWord schema chosen before other = ⟨schema, none⟩ := by
          obtain rfl := Token.word.inj (token.symm.trans same)
          rw [headWord, if_pos isChosen]
        constructor
        · intro first other same _
          rw [head other same]
          exact first
        · intro all
          have first := all word token leads
          rwa [head word token] at first
      · simp only [respelled, if_neg taken, List.nil_append, List.append_nil]
        rw [places_cons_eq_nil_iff, ← lastToken_append, later]
        refine and_congr ?_ Iff.rfl
        refine forall_congr' fun word => forall_congr' fun token => forall_congr' fun leads => ?_
        rw [headWord, chosen_eq_false_of_not_isTaken taken token leads]
        rfl

/-- Places do not matter for what is taken. -/
theorem places_placed_eq_nil_iff (place : Location) :
    Qualifier.places chosen previous naming (placed place ls) = [] ↔
      Qualifier.places chosen previous naming ls = [] := by
  induction ls generalizing previous naming place with
  | nil => rfl
  | cons lexeme rest ih =>
      rw [placed, places_cons_eq_nil_iff, places_cons_eq_nil_iff]
      exact and_congr Iff.rfl (ih _)

/-! ## By the tokens both times -/

theorem namingFrom_word {word : Word} (token : lexeme.token = .word word) (naming : Bool) :
    namingFrom naming [lexeme] = if word.isPassedOver then naming else word.announcesLabel := by
  rw [← namingAfter_eq]
  simp [namingFrom, token]

/-- A name that is announced is still announced when no schema is put in behind an
announcement. -/
theorem namingFrom_respelled (schema : String) (quiet : ∀ word, chosen true word = false)
    (before after : List Lexeme) (naming : Bool)
    (kept : namingFrom false before = true → naming = true)
    (announced : namingFrom false (before ++ after) = true) :
    namingFrom naming (respelled schema chosen before after) = true := by
  induction after generalizing before naming with
  | nil =>
      rw [List.append_nil] at announced
      exact kept announced
  | cons lexeme rest ih =>
      rw [← List.singleton_append, ← List.append_assoc] at announced
      rw [respelled, ← List.singleton_append, ← List.append_assoc, namingFrom_append]
      refine ih _ _ ?_ announced
      rw [namingFrom_append, namingFrom_append]
      intro here
      cases token : lexeme.token with
      | word word =>
          rw [namingFrom_word token] at here ⊢
          by_cases passed : word.isPassedOver = true
          · rw [if_pos passed] at here ⊢
            -- Behind an announcement nothing is taken, so it is still the nearest one.
            have free : ¬ lexeme.isTaken chosen before = true := fun taken => by
              obtain ⟨other, -, -, isChosen⟩ := exists_word_of_isTaken taken
              rw [here, quiet] at isChosen
              cases isChosen
            rw [if_neg free]
            exact kept here
          · rwa [if_neg passed] at here ⊢
      | _ =>
          have same (naming : Bool) : namingFrom naming [lexeme] = naming := by
            simp [namingFrom, token]
          have free : ¬ lexeme.isTaken chosen before = true := by simp [Lexeme.isTaken, token]
          rw [same] at here ⊢
          rw [if_neg free]
          exact kept here

/-- The first word that is taken has nothing put in in front of it. -/
theorem exists_first_taken (schema : String) (chosen : Bool → Word → Bool)
    (before after : List Lexeme) (some : Qualifier.places chosen (lastToken none before)
      (namingFrom false before) after ≠ []) :
    ∃ between lexeme later, after = between ++ lexeme :: later ∧
      lexeme.isTaken chosen (before ++ between) = true ∧
      respelled schema chosen before between = between := by
  induction after generalizing before with
  | nil => exact absurd rfl some
  | cons lexeme rest ih =>
      by_cases taken : lexeme.isTaken chosen before = true
      · exact ⟨[], lexeme, rest, rfl, by rwa [List.append_nil], rfl⟩
      · rw [places_cons, if_neg taken] at some
        obtain ⟨between, first, later, rfl, here, same⟩ := ih _ some
        refine ⟨lexeme :: between, first, later, rfl, ?_, ?_⟩
        · rwa [List.append_assoc] at here
        · rw [respelled, if_neg taken, List.nil_append, same]

namespace Qualifier

variable {q : Qualifier}

/-- The word gets the schema. -/
def Gets (dialect : Dialect) (q : Qualifier) (here : LeadingWord ls) : Prop :=
  dialect.chooses q ls (namingFrom false here.before) here.word = true

/-- What stands in front of a word after one run. -/
def front (dialect : Dialect) (q : Qualifier) (schema : String) (here : LeadingWord ls) :
    List Lexeme :=
  respelled schema (dialect.chooses q ls) [] here.before

/-- The first word of the name that a word begins after one run: the schema, or the word
that was left. -/
def head (dialect : Dialect) (q : Qualifier) (schema : String) (here : LeadingWord ls) : Word :=
  headWord schema (dialect.chooses q ls) here.before here.word

/-- The lexemes of a statement after one run. -/
def requalified (dialect : Dialect) (q : Qualifier) (schema : String) (ls : List Lexeme) :
    List Lexeme :=
  placed .start (respelled schema (dialect.chooses q ls) [] ls)

/-- The second run changes nothing exactly when it takes no word that begins a name. -/
theorem qualify_requalified_iff {out : String} (tiles : dialect.Tiles)
    (named : q.schema = some schema)
    (again : dialect.lexemes out = .ok (requalified dialect q schema ls)) :
    dialect.qualify q out = .ok out ↔ ∀ here : LeadingWord ls,
      dialect.chooses q (requalified dialect q schema ls)
        (namingFrom false (front dialect q schema here)) (head dialect q schema here) = false := by
  rw [qualify_eq_self_iff tiles named again]
  generalize dialect.chooses q (requalified dialect q schema ls) = chosen'
  rw [requalified, places_placed_eq_nil_iff]
  refine (places_respelled_eq_nil_iff schema (dialect.chooses q ls) chosen' [] ls false).trans ?_
  constructor
  · intro all here
    exact all here.before here.lexeme here.after here.whole here.word here.isWord here.leads
  · intro all before lexeme after whole word isWord leads
    exact all ⟨before, lexeme, after, word, whole, isWord, leads⟩

/-- In a statement that is understood, the words that are written like a table are
chosen. -/
theorem chooses_eq_false_iff_of_understood {mentions : List (Mention ls)}
    (understood : dialect.mentions? ls = some mentions) (naming : Bool) (word : Word) :
    dialect.chooses q ls naming word = false ↔
      ¬ MentionsTable q.tablePrefix mentions word.value := by
  simp [Dialect.chooses, understood, mem_tableNames_iff]

/-- In one that is not, those that belong to the job store and are not announced. -/
theorem chooses_of_unknown (unknown : dialect.mentions? ls = none) (naming : Bool) (word : Word) :
    dialect.chooses q ls naming word = (!naming && q.owns word.value) := by
  simp [Dialect.chooses, unknown]

theorem chooses_eq_false_iff_of_unknown (unknown : dialect.mentions? ls = none)
    (front : List Lexeme) (word : Word) :
    dialect.chooses q ls (namingFrom false front) word = false ↔
      (q.tablePrefix.toList <+: word.value.toList →
        ∃ near ∈ wordBefore front, near.announcesLabel = true) := by
  rw [← owns_iff]
  simp only [Option.mem_def]
  rw [chooses_of_unknown unknown, namingFrom_eq_wordBefore, ← Option.any_eq_true]
  cases q.owns word.value <;> cases (wordBefore front).any Word.announcesLabel <;> simp

/-- Whatever is chosen begins with the prefix. -/
theorem begins_of_chooses {word : Word} (isChosen : dialect.chooses q ls naming word = true) :
    q.tablePrefix.toList <+: word.value.toList := by
  cases read : dialect.mentions? ls with
  | none =>
      rw [chooses_of_unknown read, Bool.and_eq_true] at isChosen
      exact owns_iff.mp isChosen.2
  | some mentions =>
      by_contra foreign
      have unnamed : ¬ MentionsTable q.tablePrefix mentions word.value :=
        fun mentioned => foreign mentioned.1
      rw [(chooses_eq_false_iff_of_understood read naming word).mpr unnamed] at isChosen
      cases isChosen

/-- Without the parser both times, the second run takes the schema or nothing. -/
theorem qualify_again_of_unknown {out : String} (tiles : dialect.Tiles)
    (named : q.schema = some schema) (read : dialect.lexemes statement = .ok ls)
    (first : dialect.qualify q statement = .ok out)
    (again : dialect.lexemes out = .ok (requalified dialect q schema ls))
    (unknown : dialect.mentions? ls = none)
    (unknown' : dialect.mentions? (requalified dialect q schema ls) = none) :
    dialect.qualify q out = .ok out ↔
      out = statement ∨ ¬ q.tablePrefix.toList <+: schema.toList := by
  rw [← owns_iff, Bool.not_eq_true]
  constructor
  · intro same
    by_cases none : places (dialect.chooses q ls) none false ls = []
    · rw [(qualify_eq_self_iff tiles named read).mpr none] at first
      exact .inl (Except.ok.inj first).symm
    · obtain ⟨before, lexeme, after, whole, taken, kept⟩ :=
        exists_first_taken schema (dialect.chooses q ls) [] ls none
      obtain ⟨word, isWord, leads, isChosen⟩ := exists_word_of_isTaken taken
      rw [List.nil_append] at leads isChosen
      let here : LeadingWord ls := ⟨before, lexeme, after, word, whole, isWord, leads⟩
      have left := (qualify_requalified_iff tiles named again).mp same here
      rw [front, kept, head, headWord, if_pos isChosen, chooses_of_unknown unknown'] at left
      rw [chooses_of_unknown unknown, Bool.and_eq_true] at isChosen
      rw [isChosen.1, Bool.true_and] at left
      exact .inr left
  · rintro (rfl | foreign)
    · exact first
    · rw [qualify_requalified_iff tiles named again]
      intro here
      rw [chooses_of_unknown unknown', head, headWord]
      split_ifs with isChosen
      · rw [foreign, Bool.and_false]
      · -- A word that was left is foreign too, or announced, and then it still is.
        rw [chooses_of_unknown unknown, Bool.and_eq_true, not_and_or, Bool.not_eq_true,
          Bool.not_eq_false'] at isChosen
        rcases isChosen with announced | other
        · have quiet (word : Word) : dialect.chooses q ls true word = false :=
            chooses_of_unknown unknown true word
          have still : namingFrom false (front dialect q schema here) = true :=
            namingFrom_respelled schema quiet [] here.before false id announced
          rw [still]
          rfl
        · rw [Bool.eq_false_iff.mpr other, Bool.and_false]

/-- What is not chosen both times: a foreign schema and foreign words. -/
theorem qualify_again_of_foreign {out : String} (tiles : dialect.Tiles)
    (named : q.schema = some schema)
    (again : dialect.lexemes out = .ok (requalified dialect q schema ls))
    (foreign : ¬ q.tablePrefix.toList <+: schema.toList)
    (complete : ∀ here : LeadingWord ls, q.tablePrefix.toList <+: here.word.value.toList →
      Gets dialect q here) :
    dialect.qualify q out = .ok out := by
  rw [qualify_requalified_iff tiles named again]
  intro here
  rw [Bool.eq_false_iff]
  intro isChosen
  have begins := begins_of_chooses isChosen
  rw [head, headWord] at begins
  split_ifs at begins with got
  · exact foreign begins
  · exact got (complete here begins)

/-! ## When it is stable -/

/-- **Qualifying twice.** Take any dialect whose lexemes tile the statements that they are read
from, and which reads a name and a point that are put in front of a word as two tokens more.
The second run reads the tokens of the statement, with a schema and a point in front of the
words that got the schema, and it changes nothing exactly when none of the schemas and of the
words that were left is taken now. If the result is understood, these are the ones that are
written like a table it mentions. If it is not, they are the ones that belong to the job store
and are not announced. -/
theorem qualify_again {dialect : Dialect} (tiles : dialect.Tiles) (rereads : dialect.Rereads)
    (named : q.schema = some schema) (plain : isPlainIdentifier schema = true)
    (read : dialect.lexemes statement = .ok ls)
    (apart : Apart dialect schema (dialect.chooses q ls) ls) :
    ∃ out, dialect.qualify q statement = .ok out ∧
      dialect.lexemes out = .ok (requalified dialect q schema ls) ∧
      (∀ mentions, dialect.mentions? (requalified dialect q schema ls) = some mentions →
        (dialect.qualify q out = .ok out ↔
          ∀ here : LeadingWord ls,
            ¬ MentionsTable q.tablePrefix mentions (head dialect q schema here).value)) ∧
      (dialect.mentions? (requalified dialect q schema ls) = none →
        (dialect.qualify q out = .ok out ↔
          ∀ here : LeadingWord ls,
            q.tablePrefix.toList <+: (head dialect q schema here).value.toList →
            ∃ near ∈ wordBefore (front dialect q schema here), near.announcesLabel = true)) ∧
      (dialect.mentions? ls = none → dialect.mentions? (requalified dialect q schema ls) = none →
        (dialect.qualify q out = .ok out ↔
          out = statement ∨ ¬ q.tablePrefix.toList <+: schema.toList)) ∧
      (¬ q.tablePrefix.toList <+: schema.toList →
        (∀ here : LeadingWord ls, q.tablePrefix.toList <+: here.word.value.toList →
          Gets dialect q here) →
          dialect.qualify q out = .ok out) := by
  have first := qualify_eq_respelled tiles named read
  have again := lexemes_respelled tiles rereads plain apart read
  refine ⟨_, first, again, fun mentions understood => ?_, fun unknown => ?_,
    qualify_again_of_unknown tiles named read first again,
    qualify_again_of_foreign tiles named again⟩
  · rw [qualify_requalified_iff tiles named again]
    exact forall_congr' fun _ => chooses_eq_false_iff_of_understood understood _ _
  · rw [qualify_requalified_iff tiles named again]
    exact forall_congr' fun _ => chooses_eq_false_iff_of_unknown unknown _ _

/-- A query of one table that has its schema. -/
def qualifiedQuery : Reading .duckDb "SELECT id FROM app.jobrunr_jobs" :=
  (Reading.of? _ _).get (by decide +kernel)

/-- The table of a query keeps its schema. -/
theorem qualify_again_tableQuery :
    Dialect.duckDb.Tiles ∧ Dialect.duckDb.Rereads ∧
      (make (some "app") "jobrunr_").schema = some "app" ∧ isPlainIdentifier "app" = true ∧
      Apart .duckDb "app" (Dialect.duckDb.chooses (make (some "app") "jobrunr_") tableQuery.ls)
        tableQuery.ls ∧
      Dialect.duckDb.qualify (make (some "app") "jobrunr_") "SELECT id FROM jobrunr_jobs" =
        .ok "SELECT id FROM app.jobrunr_jobs" ∧
      Dialect.duckDb.qualify (make (some "app") "jobrunr_") "SELECT id FROM app.jobrunr_jobs" =
        .ok "SELECT id FROM app.jobrunr_jobs" := by
  have named : (make (some "app") "jobrunr_").schema = some "app" := rfl
  have plain : isPlainIdentifier "app" = true := by decide +kernel
  have apart : Apart .duckDb "app"
      (Dialect.duckDb.chooses (make (some "app") "jobrunr_") tableQuery.ls) tableQuery.ls :=
    apart_of_isChain (by decide +kernel)
  have first : Dialect.duckDb.qualify (make (some "app") "jobrunr_")
      "SELECT id FROM jobrunr_jobs" = .ok "SELECT id FROM app.jobrunr_jobs" := by decide +kernel
  refine ⟨tiles_duckDb, rereads_duckDb, named, plain, apart, first, ?_⟩
  obtain ⟨out, written, again, understood, -⟩ :=
    qualify_again tiles_duckDb rereads_duckDb named plain tableQuery.read apart
  obtain rfl := Except.ok.inj (written.symm.trans first)
  have same := Except.ok.inj (again.symm.trans qualifiedQuery.read)
  rw [same] at understood
  refine (understood qualifiedQuery.mentions qualifiedQuery.understood).mpr fun here => ?_
  have inSchema : ∀ m ∈ qualifiedQuery.mentions, m.later ≠ [] ∨ m.role = .column := by
    decide +kernel
  rintro ⟨-, m, mentioned, -, single, role⟩
  rcases inSchema m mentioned with several | column
  · exact several single
  · rw [column] at role
    simp at role

/-! ## When it is not -/

/-- What one run gives, and another run over that. -/
def twice (dialect : Dialect) (q : Qualifier) (statement : String) :
    Except QualifyError (String × String) := do
  let once ← dialect.qualify q statement
  let again ← dialect.qualify q once
  return (once, again)

/-- The tokens of a statement that nobody understands. -/
def frobnicate : List Lexeme :=
  [⟨.word ⟨"FROBNICATE", none⟩, "FROBNICATE".toList, ⟨1, 1⟩⟩, ⟨.blank, [' '], ⟨1, 11⟩⟩,
    ⟨.word ⟨"jobrunr_jobs", none⟩, "jobrunr_jobs".toList, ⟨1, 12⟩⟩]

/-- The same with a schema. -/
def frobnicateInSchema : List Lexeme :=
  [⟨.word ⟨"FROBNICATE", none⟩, "FROBNICATE".toList, ⟨1, 1⟩⟩, ⟨.blank, [' '], ⟨1, 11⟩⟩,
    ⟨.word ⟨"jobrunr_app", none⟩, "jobrunr_app".toList, ⟨1, 12⟩⟩, ⟨.symbol ".", ['.'], ⟨1, 23⟩⟩,
    ⟨.word ⟨"jobrunr_jobs", none⟩, "jobrunr_jobs".toList, ⟨1, 24⟩⟩]

/-- What a dialect has to say of this statement, without and with a schema: it has these tokens
and is not understood. -/
structure ReadsFrobnication (dialect : Dialect) : Prop where
  bare : dialect.lexemes "FROBNICATE jobrunr_jobs" = .ok frobnicate
  bareUnknown : dialect.mentions? frobnicate = none
  inSchema : dialect.lexemes "FROBNICATE jobrunr_app.jobrunr_jobs" = .ok frobnicateInSchema
  inSchemaUnknown : dialect.mentions? frobnicateInSchema = none

theorem twice_of_readsFrobnication (reads : ReadsFrobnication dialect) :
    twice dialect (make (some "jobrunr_app") "jobrunr_") "FROBNICATE jobrunr_jobs" =
      .ok ("FROBNICATE jobrunr_app.jobrunr_jobs",
        "FROBNICATE jobrunr_app.jobrunr_app.jobrunr_jobs") := by
  have once : dialect.qualify (make (some "jobrunr_app") "jobrunr_") "FROBNICATE jobrunr_jobs" =
      .ok "FROBNICATE jobrunr_app.jobrunr_jobs" := by
    simp only [Dialect.qualify, Dialect.insertionPoints, Dialect.chooses, reads.bare,
      reads.bareUnknown]
    decide +kernel
  have again : dialect.qualify (make (some "jobrunr_app") "jobrunr_")
      "FROBNICATE jobrunr_app.jobrunr_jobs" =
      .ok "FROBNICATE jobrunr_app.jobrunr_app.jobrunr_jobs" := by
    simp only [Dialect.qualify, Dialect.insertionPoints, Dialect.chooses, reads.inSchema,
      reads.inSchemaUnknown]
    decide +kernel
  rw [twice, once]
  change (dialect.qualify _ _ >>= _) = _
  rw [again]
  rfl

/-- Qualifying twice is not the same as once. A schema can belong to the job store itself. A
reading can change with the schemas: a query is not understood any more, or only now, or
mentions another table. And a number can take the first letters of a schema. -/
theorem not_qualify_again :
    ["jobrunr_app", "app", "Lex"].all isPlainIdentifier = true ∧
      (∀ dialect : Dialect, ReadsFrobnication dialect →
        twice dialect (make (some "jobrunr_app") "jobrunr_") "FROBNICATE jobrunr_jobs" =
          .ok ("FROBNICATE jobrunr_app.jobrunr_jobs",
            "FROBNICATE jobrunr_app.jobrunr_app.jobrunr_jobs")) ∧
      ReadsFrobnication .duckDb ∧
      twice .duckDb (make (some "app") "jobrunr_")
          "SELECT jobrunr_note AS jobrunr_jobs FROM jobrunr_jobs" =
        .ok ("SELECT jobrunr_note AS app.jobrunr_jobs FROM app.jobrunr_jobs",
          "SELECT app.jobrunr_note AS app.jobrunr_jobs FROM app.jobrunr_jobs") ∧
      twice .duckDb (make (some "app") "ex") "SELECT exists FROM index, extra" =
        .ok ("SELECT app.exists FROM index, extra", "SELECT app.exists FROM index, app.extra") ∧
      twice .duckDb (make (some "app") "job")
          "SELECT 1 FROM job UNION TABLE job;;END;DROP TABLE jobs" =
        .ok ("SELECT 1 FROM app.job UNION TABLE app.job;;END;DROP TABLE jobs",
          "SELECT 1 FROM app.job UNION TABLE app.job;;END;DROP TABLE app.jobs") ∧
      twice .duckDb (make (some "Lex") "ex") "FROBNICATE 1extra" =
        .ok ("FROBNICATE 1Lex.extra", "FROBNICATE 1LLex.ex.extra") := by
  refine ⟨by decide +kernel, fun _ => twice_of_readsFrobnication, ?_, ?_⟩
  · exact ⟨by decide +kernel, by decide +kernel, by decide +kernel, by decide +kernel⟩
  · decide +kernel

end Qualifier

end MigrationLedger.Sql
