/-
# Where a schema is put in

A qualifier finds words, turns their places into byte offsets and splices the schema in
there. The three steps fit: every place belongs to a lexeme, the lexemes tile the
statement, and so each place has an offset, later places have larger ones, and each
offset is that of a character. A statement that can be cut into tokens is therefore
always qualified, and the result is the statement with nothing but insertions. This holds
for any dialect whose lexemes tile what they are read from.

Which words are chosen plays no part in this; that a word follows no point does.
-/

import MigrationLedger.Proofs.Sql.DuckDb.Reading
import MigrationLedger.Proofs.Sql.Splicing

namespace MigrationLedger.Sql

variable {ls : List Lexeme} {lexeme : Lexeme} {text : List Char} {place : Location}

/-! ## Words that follow no point -/

/-- The last token of some lexemes that is no blank; `previous` if there is none. -/
def lastToken (previous : Option Token) (before : List Lexeme) : Option Token :=
  before.foldl
    (fun previous lexeme => if lexeme.token.isBlank then previous else some lexeme.token) previous

/-- Whether a name that follows some lexemes names an index or a constraint, given
whether one in front of them does. -/
def namingFrom (naming : Bool) (before : List Lexeme) : Bool :=
  before.foldl (fun naming lexeme =>
    match lexeme.token with
    | .word word => Qualifier.namingAfter word naming
    | _ => naming) naming

/-- A word of a statement that follows no point, blanks and comments aside: it begins
whatever name it belongs to. -/
structure LeadingWord (ls : List Lexeme) where
  before : List Lexeme
  lexeme : Lexeme
  after : List Lexeme
  word : Word
  whole : ls = before ++ lexeme :: after
  isWord : lexeme.token = .word word
  leads : lastToken none before ≠ some (.symbol ".")

/-- The number of bytes in front of a word. -/
def LeadingWord.offset (here : LeadingWord ls) : Nat :=
  Text.byteLength (here.before.flatMap Lexeme.text)

theorem LeadingWord.lexeme_mem (here : LeadingWord ls) : here.lexeme ∈ ls := by
  simp [here.whole]

namespace Tiling

theorem byteOffset?_leadingWord (tiling : Tiling .start text ls) (here : LeadingWord ls) :
    here.lexeme.location.byteOffset? text = some here.offset := by
  rw [here.whole] at tiling
  exact tiling.byteOffset?_eq

theorem isBoundary (tiling : Tiling .start text ls) (here : LeadingWord ls) :
    IsBoundary 0 text here.offset := by
  obtain ⟨c, rest, first⟩ := List.exists_cons_of_ne_nil (tiling.text_ne_nil here.lexeme_mem)
  refine ⟨here.before.flatMap Lexeme.text, c, rest ++ here.after.flatMap Lexeme.text, ?_,
    (Nat.zero_add _).symm⟩
  calc text = (here.before ++ here.lexeme :: here.after).flatMap Lexeme.text :=
        tiling.flatMap_text.symm.trans (congrArg _ here.whole)
    _ = _ := by rw [List.flatMap_append, List.flatMap_cons, first, List.cons_append]

/-- A word that stands behind others has a larger offset. -/
theorem offset_lt (tiling : Tiling .start text ls) {here there : LeadingWord ls}
    {between : List Lexeme} (nonempty : between ≠ [])
    (behind : there.before = here.before ++ between) : here.offset < there.offset := by
  obtain ⟨lexeme, rest, rfl⟩ := List.exists_cons_of_ne_nil nonempty
  have member : lexeme ∈ ls := by simp [there.whole, behind]
  rw [LeadingWord.offset, LeadingWord.offset, behind]
  exact byteLength_flatMap_lt (tiling.text_ne_nil member) _ _

/-- Different words have different offsets. -/
theorem word_eq_of_offset_eq (tiling : Tiling .start text ls) {here there : LeadingWord ls}
    (same : here.offset = there.offset) :
    here.lexeme = there.lexeme ∧ here.word = there.word := by
  suffices one : here.lexeme = there.lexeme by
    have tokens := here.isWord.symm.trans ((congrArg Lexeme.token one).trans there.isWord)
    exact ⟨one, Token.word.inj tokens⟩
  have split := here.whole.symm.trans there.whole
  rcases List.append_eq_append_iff.mp split with ⟨between, behind, tail⟩ | ⟨between, behind, tail⟩
  · cases between with
    | nil => exact (List.cons.inj tail).1
    | cons lexeme rest => exact absurd same (tiling.offset_lt (List.cons_ne_nil _ _) behind).ne
  · cases between with
    | nil => exact (List.cons.inj tail).1.symm
    | cons lexeme rest =>
        exact absurd same.symm (tiling.offset_lt (List.cons_ne_nil _ _) behind).ne

end Tiling

/-- Both places have byte offsets, and the first has the smaller one. -/
def Location.Before (text : List Char) (a b : Location) : Prop :=
  ∃ x y, a.byteOffset? text = some x ∧ b.byteOffset? text = some y ∧ x < y

/-- The places of lexemes have ascending byte offsets. -/
theorem Tiling.pairwise_before (tiling : Tiling .start text ls) :
    (ls.map Lexeme.location).Pairwise (Location.Before text) := by
  rw [List.pairwise_map, List.pairwise_iff_forall_sublist]
  intro a b both
  obtain ⟨front, back, rfl, left, right⟩ := List.cons_sublist_iff.mp both
  obtain ⟨before, between, rfl⟩ := List.append_of_mem left
  obtain ⟨more, after, rfl⟩ := List.append_of_mem (List.singleton_sublist.mp right)
  have first : a.text ≠ [] := tiling.text_ne_nil (by simp)
  have atA : a.location.byteOffset? text = some (Text.byteLength (before.flatMap Lexeme.text)) := by
    rw [List.append_assoc, List.cons_append] at tiling
    exact tiling.byteOffset?_eq
  have atB : b.location.byteOffset? text = some (Text.byteLength
      ((before ++ a :: (between ++ more)).flatMap Lexeme.text)) := by
    rw [← List.append_assoc, List.append_assoc before, List.cons_append] at tiling
    exact tiling.byteOffset?_eq
  exact ⟨_, _, atA, atB, byteLength_flatMap_lt first before (between ++ more)⟩

namespace Qualifier

variable {q : Qualifier} {statement : String} {chosen : Bool → Word → Bool}
  {previous : Option Token} {naming : Bool} {places : List Location} {points : List Nat}

/-! ## Places -/

theorem places_word_cons (word : Word) (text : List Char) (location : Location) :
    Qualifier.places chosen previous naming (⟨.word word, text, location⟩ :: ls) =
      (if previous ≠ some (.symbol ".") ∧ chosen naming word then [location] else []) ++
        Qualifier.places chosen (some (.word word)) (namingAfter word naming) ls := by
  rw [Qualifier.places]
  dsimp only
  split <;> rfl

/-- The first lexeme gives a place if it is a chosen word after no point. The others are
judged with what is known after it. -/
theorem mem_places_cons_iff :
    place ∈ Qualifier.places chosen previous naming (lexeme :: ls) ↔
      (∃ word, lexeme.token = .word word ∧ previous ≠ some (.symbol ".") ∧
        chosen naming word = true ∧ place = lexeme.location) ∨
      place ∈ Qualifier.places chosen (lastToken previous [lexeme])
        (namingFrom naming [lexeme]) ls := by
  obtain ⟨token, text, location⟩ := lexeme
  cases token with
  | word word =>
      simp only [places_word_cons, List.mem_append, List.mem_ite_nil_right, List.mem_singleton]
      simp [lastToken, namingFrom, Token.isBlank, and_assoc]
  | _ => simp [Qualifier.places, lastToken, namingFrom, Token.isBlank]

/-- The places are those of the chosen words after no point. -/
theorem mem_places_iff_exists_split :
    place ∈ Qualifier.places chosen previous naming ls ↔
      ∃ before lexeme after word, ls = before ++ lexeme :: after ∧ lexeme.token = .word word ∧
        lastToken previous before ≠ some (.symbol ".") ∧
        chosen (namingFrom naming before) word = true ∧ place = lexeme.location := by
  induction ls generalizing previous naming with
  | nil => simp [Qualifier.places]
  | cons first rest ih =>
      rw [mem_places_cons_iff, ih]
      constructor
      · rintro (⟨word, token, leads, marked, same⟩ | ⟨before, lexeme, after, word, rfl, found⟩)
        · exact ⟨[], first, rest, word, rfl, token, leads, marked, same⟩
        · exact ⟨first :: before, lexeme, after, word, rfl, found⟩
      · rintro ⟨before, lexeme, after, word, split, found⟩
        rcases List.cons_eq_append_iff.mp split with ⟨rfl, here⟩ | ⟨later, rfl, remaining⟩
        · obtain ⟨rfl, rfl⟩ := List.cons.inj here
          exact .inl ⟨word, found⟩
        · exact .inr ⟨later, lexeme, after, word, remaining, found⟩

theorem mem_places_iff :
    place ∈ Qualifier.places chosen none false ls ↔
      ∃ here : LeadingWord ls, chosen (namingFrom false here.before) here.word = true ∧
        place = here.lexeme.location := by
  rw [mem_places_iff_exists_split]
  constructor
  · rintro ⟨before, lexeme, after, word, whole, token, leads, marked, same⟩
    exact ⟨⟨before, lexeme, after, word, whole, token, leads⟩, marked, same⟩
  · rintro ⟨here, marked, same⟩
    exact ⟨here.before, here.lexeme, here.after, here.word, here.whole, here.isWord, here.leads,
      marked, same⟩

/-- Places are listed in the order of their lexemes. -/
theorem places_sublist :
    (Qualifier.places chosen previous naming ls).Sublist (ls.map Lexeme.location) := by
  induction ls generalizing previous naming with
  | nil => exact List.Sublist.refl _
  | cons lexeme rest ih =>
      obtain ⟨token, text, location⟩ := lexeme
      cases token with
      | word word =>
          rw [places_word_cons]
          split_ifs
          · exact ih.cons_cons location
          · exact ih.cons location
      | _ => exact ih.cons location

/-! ## Offsets -/

/-- Offsets are found for all places at once or for none. -/
theorem offsets_eq_ok_iff :
    offsets text places = .ok points ↔
      places.map (·.byteOffset? text) = points.map some := by
  induction places generalizing points with
  | nil => cases points <;> simp [offsets]
  | cons place places ih =>
      rw [offsets, List.map_cons]
      cases place.byteOffset? text with
      | none => cases points <;> simp
      | some offset =>
          cases points with
          | nil => cases offsets text places <;> simp
          | cons point points =>
              rw [List.map_cons, List.cons.injEq, ← ih]
              cases offsets text places <;> simp

theorem exists_offsets (inside : ∀ place ∈ places, ∃ offset, place.byteOffset? text = some offset) :
    ∃ points, offsets text places = .ok points := by
  induction places with
  | nil => exact ⟨[], rfl⟩
  | cons place places ih =>
      obtain ⟨offset, found⟩ := inside place List.mem_cons_self
      obtain ⟨later, rest⟩ := ih fun other member => inside other (List.mem_cons_of_mem _ member)
      exact ⟨offset :: later, by rw [offsets, found, rest]⟩

/-! ## Insertion points -/

/-- The places of chosen words have offsets, which ascend. -/
theorem exists_offsets_of_tiling (chosen : Bool → Word → Bool) (tiling : Tiling .start text ls) :
    ∃ points, offsets text (Qualifier.places chosen none false ls) = .ok points ∧
      points.Pairwise (· < ·) ∧
      ∀ point, point ∈ points ↔ ∃ here : LeadingWord ls,
        chosen (namingFrom false here.before) here.word = true ∧ here.offset = point := by
  have at_word := tiling.byteOffset?_leadingWord
  have inside : ∀ place ∈ Qualifier.places chosen none false ls,
      ∃ offset, place.byteOffset? text = some offset := fun place member => by
    obtain ⟨here, -, rfl⟩ := mem_places_iff.mp member
    exact ⟨here.offset, at_word here⟩
  obtain ⟨points, found⟩ := exists_offsets inside
  have mapped := offsets_eq_ok_iff.mp found
  refine ⟨points, found, ?_, fun point => ?_⟩
  · have ordered : (points.map some).Pairwise fun p q =>
        ∃ x y, p = some x ∧ q = some y ∧ x < y := by
      rw [← mapped, List.pairwise_map]
      exact tiling.pairwise_before.sublist places_sublist
    refine (List.pairwise_map.mp ordered).imp ?_
    rintro p q ⟨x, y, first, second, before⟩
    rwa [Option.some.inj first, Option.some.inj second]
  · have here_iff : some point ∈ points.map some ↔ point ∈ points := by simp
    rw [← here_iff, ← mapped, List.mem_map]
    constructor
    · rintro ⟨place, member, found⟩
      obtain ⟨here, marked, rfl⟩ := mem_places_iff.mp member
      exact ⟨here, marked, Option.some.inj ((at_word here).symm.trans found)⟩
    · rintro ⟨here, marked, rfl⟩
      exact ⟨_, mem_places_iff.mpr ⟨here, marked, rfl⟩, at_word here⟩

variable {dialect : Dialect}

theorem exists_insertionPoints (tiles : dialect.Tiles) (read : dialect.lexemes statement = .ok ls) :
    ∃ points, dialect.insertionPoints q statement = .ok points ∧ points.Pairwise (· < ·) ∧
      ∀ point, point ∈ points ↔ ∃ here : LeadingWord ls,
        dialect.chooses q ls (namingFrom false here.before) here.word = true ∧
          here.offset = point := by
  obtain ⟨points, found, properties⟩ :=
    exists_offsets_of_tiling (dialect.chooses q ls) (tiles read)
  refine ⟨points, ?_, properties⟩
  rw [Dialect.insertionPoints, read]
  exact found

/-! ## Qualification -/

/-- The names of the job store are those that begin with the prefix. -/
theorem owns_iff {name : String} : q.owns name = true ↔ q.tablePrefix.toList <+: name.toList :=
  List.isPrefixOf_iff_prefix

/-- A schema that is not empty is kept. -/
theorem schema_make {schema : String} (tablePrefix : String) (named : schema ≠ "") :
    (make (some schema) tablePrefix).schema = some schema := by
  simp [make, named]

/-- The schema is put in at the insertion points, and nothing else happens. -/
theorem exists_spliced {schema : String} (named : q.schema = some schema) (tiles : dialect.Tiles)
    (read : dialect.lexemes statement = .ok ls) :
    ∃ points rewritten, dialect.qualify q statement = .ok rewritten ∧
      dialect.insertionPoints q statement = .ok points ∧
      Spliced (schema ++ ".").toList statement.toList points rewritten.toList ∧
      ∀ point, point ∈ points ↔ ∃ here : LeadingWord ls,
        dialect.chooses q ls (namingFrom false here.before) here.word = true ∧
          here.offset = point := by
  obtain ⟨points, found, ascending, words⟩ := exists_insertionPoints tiles read
  refine ⟨points, String.ofList (splice (schema.toList ++ ['.']) 0 points statement.toList), ?_,
    found, ?_, words⟩
  · simp only [Dialect.qualify, named, found]
  · rw [String.toList_ofList, String.toList_append]
    refine spliced_splice ascending fun point member => ?_
    obtain ⟨here, -, rfl⟩ := (words point).mp member
    exact (tiles read).isBoundary here

/-- **Qualifying splices.** Take any dialect whose lexemes tile the statements that they are
read from, each with the place of its first character. With a schema that is not empty, a
statement fails to be qualified exactly when it cannot be cut into tokens, and for that
reason. Otherwise the result is the statement with the schema and a point put in at strictly
ascending byte offsets: those of the words that follow no point, blanks and comments aside,
and are chosen. -/
theorem qualify_splices {dialect : Dialect} (tiles : dialect.Tiles)
    (schema tablePrefix statement : String) (named : schema ≠ "") :
    (∀ error, dialect.qualify (make (some schema) tablePrefix) statement = .error error ↔
      ∃ cause, dialect.lexemes statement = .error cause ∧ error = .lexical cause) ∧
    ∀ ls, dialect.lexemes statement = .ok ls →
      ∃ points rewritten, dialect.qualify (make (some schema) tablePrefix) statement =
          .ok rewritten ∧
        Spliced (schema ++ ".").toList statement.toList points rewritten.toList ∧
        ∀ point, point ∈ points ↔ ∃ here : LeadingWord ls,
          dialect.chooses (make (some schema) tablePrefix) ls (namingFrom false here.before)
            here.word = true ∧ here.offset = point := by
  have kept := schema_make tablePrefix named
  refine ⟨fun error => ?_, fun ls read => ?_⟩
  · cases read : dialect.lexemes statement with
    | error cause => simp [Dialect.qualify, kept, Dialect.insertionPoints, read, eq_comm]
    | ok ls =>
        obtain ⟨_, rewritten, qualified, _⟩ := exists_spliced kept tiles read
        simp [qualified]
  · obtain ⟨points, rewritten, qualified, _, spliced, words⟩ := exists_spliced kept tiles read
    exact ⟨points, rewritten, qualified, spliced, words⟩

/-- A statement of two lines, the first with a letter of two bytes. -/
theorem qualify_twoLines :
    Dialect.duckDb.Tiles ∧
      Dialect.duckDb.qualify (make (some "app") "jobrunr_") "-- für\nDELETE FROM jobrunr_jobs" =
        .ok "-- für\nDELETE FROM app.jobrunr_jobs" ∧
      ∃ points, Spliced "app.".toList "-- für\nDELETE FROM jobrunr_jobs".toList points
        "-- für\nDELETE FROM app.jobrunr_jobs".toList := by
  have rewrites : Dialect.duckDb.qualify (make (some "app") "jobrunr_")
      "-- für\nDELETE FROM jobrunr_jobs" = .ok "-- für\nDELETE FROM app.jobrunr_jobs" := by
    decide +kernel
  have law := qualify_splices tiles_duckDb "app" "jobrunr_" "-- für\nDELETE FROM jobrunr_jobs"
    (by decide)
  cases read : Dialect.duckDb.lexemes "-- für\nDELETE FROM jobrunr_jobs" with
  | error cause =>
      rw [(law.1 (.lexical cause)).mpr ⟨cause, read, rfl⟩] at rewrites
      cases rewrites
  | ok ls =>
      obtain ⟨points, rewritten, qualified, spliced, -⟩ := law.2 ls read
      obtain rfl := Except.ok.inj (rewrites.symm.trans qualified)
      exact ⟨tiles_duckDb, rewrites, points, spliced⟩

end Qualifier

end MigrationLedger.Sql
