/-
# The tokens of a qualified statement

Qualifying puts texts in, and a text means nothing before the dialect has read it. Here the
tokens of the result are found: those of the statement, with the schema and a point as two
tokens more in front of each word that was taken.

What is asked of the dialect for this is about one name that is put in with a point in front
of one word: the text is read as before, with the two tokens more. There is one exception. A
token that stands directly in front of the word may go on with letters of the name, as a
number does with an exponent. That this does not happen is asked of the statement.
-/

import Mathlib.Data.List.Chain
import MigrationLedger.Name
import MigrationLedger.Proofs.Sql.TokensAlone

namespace MigrationLedger.Sql

variable {schema : String} {chosen : Bool → Word → Bool} {before after ls : List Lexeme}
  {lexeme : Lexeme} {text first : List Char} {place : Location} {previous : Option Token}
  {points : List Nat} {dialect : Dialect}

/-! ## Splicing up to an offset -/

theorem splice_nil (insertion : List Char) (passed : Nat) (text : List Char) :
    splice insertion passed [] text = text := by
  cases text <;> rfl

/-- A text in front of all offsets is left as it is. -/
theorem splice_append_of_le (insertion : List Char) {offsets : List Nat} {passed : Nat}
    (lower : ∀ offset ∈ offsets, passed + Text.byteLength first ≤ offset) (text : List Char) :
    splice insertion passed offsets (first ++ text) =
      first ++ splice insertion (passed + Text.byteLength first) offsets text := by
  induction first generalizing passed with
  | nil => rfl
  | cons c first ih =>
      rw [Text.byteLength, ← Nat.add_assoc] at lower ⊢
      rw [List.cons_append, List.cons_append, ← ih lower]
      cases offsets with
      | nil => rw [splice_nil, splice_nil]
      | cons offset offsets =>
          have ahead : offset ≠ passed := by
            have := lower offset List.mem_cons_self
            have := c.utf8Size_pos
            omega
          rw [splice, if_neg ahead]

/-! ## Words that are taken -/

/-- Behind some lexemes, a lexeme is a word that is chosen and follows no point. -/
def Lexeme.isTaken (chosen : Bool → Word → Bool) (before : List Lexeme) (lexeme : Lexeme) : Bool :=
  match lexeme.token with
  | .word word =>
    lastToken none before != some (.symbol ".") && chosen (namingFrom false before) word
  | _ => false

theorem exists_word_of_isTaken (taken : lexeme.isTaken chosen before = true) :
    ∃ word, lexeme.token = .word word ∧ lastToken none before ≠ some (.symbol ".") ∧
      chosen (namingFrom false before) word = true := by
  unfold Lexeme.isTaken at taken
  split at taken
  · rename_i word token
    rw [Bool.and_eq_true, bne_iff_ne] at taken
    exact ⟨word, token, taken⟩
  · cases taken

theorem places_cons (chosen : Bool → Word → Bool) (before : List Lexeme) (lexeme : Lexeme)
    (rest : List Lexeme) :
    Qualifier.places chosen (lastToken none before) (namingFrom false before) (lexeme :: rest) =
      (if lexeme.isTaken chosen before then [lexeme.location] else []) ++
        Qualifier.places chosen (lastToken none (before ++ [lexeme]))
          (namingFrom false (before ++ [lexeme])) rest := by
  obtain ⟨token, text, location⟩ := lexeme
  rw [lastToken_append, namingFrom_append]
  cases token with
  | word word =>
      rw [Qualifier.places_word_cons]
      congr 1
      simp [Lexeme.isTaken]
  | _ => rfl

/-! ## The tokens with those that are put in -/

/-- The tokens of a schema and the point behind it. -/
def inserted (schema : String) (place : Location) : List Lexeme :=
  [⟨.word ⟨schema, none⟩, schema.toList, place⟩, ⟨.symbol ".", ['.'], place⟩]

/-- The lexemes of a statement with a schema in front of the words that are taken. Those in
`before` have been passed. Each of the new tokens has the place of the word behind it. -/
def respelled (schema : String) (chosen : Bool → Word → Bool) (before : List Lexeme) :
    List Lexeme → List Lexeme
  | [] => []
  | lexeme :: rest =>
    (if lexeme.isTaken chosen before then inserted schema lexeme.location else []) ++
      lexeme :: respelled schema chosen (before ++ [lexeme]) rest

/-- Some lexemes one behind the other, the first one at this place. -/
def placed (place : Location) : List Lexeme → List Lexeme
  | [] => []
  | lexeme :: rest =>
    ⟨lexeme.token, lexeme.text, place⟩ :: placed (place.advance lexeme.text) rest

theorem flatMap_text_inserted (schema : String) (place : Location) :
    (inserted schema place).flatMap Lexeme.text = schema.toList ++ ['.'] := by
  simp [inserted]

theorem flatMap_text_placed (place : Location) (ls : List Lexeme) :
    (placed place ls).flatMap Lexeme.text = ls.flatMap Lexeme.text := by
  induction ls generalizing place with
  | nil => rfl
  | cons lexeme rest ih => rw [placed, List.flatMap_cons, List.flatMap_cons, ih]

/-- The offsets of places behind some lexemes are not smaller than theirs. -/
theorem le_of_mem_offsets (tiling : Tiling .start text (before ++ after))
    {naming : Bool} (found : Qualifier.offsets text
      (Qualifier.places chosen previous naming after) = .ok points) :
    ∀ point ∈ points, Text.byteLength (before.flatMap Lexeme.text) ≤ point := by
  intro point member
  have mapped := Qualifier.offsets_eq_ok_iff.mp found
  have inside : some point ∈ points.map some := List.mem_map_of_mem member
  rw [← mapped] at inside
  obtain ⟨place, listed, at_point⟩ := List.mem_map.mp inside
  obtain ⟨lexeme, behind, rfl⟩ := List.mem_map.mp (Qualifier.places_sublist.subset listed)
  obtain ⟨between, rest, rfl⟩ := List.append_of_mem behind
  rw [← List.append_assoc] at tiling
  rw [tiling.byteOffset?_eq, Option.some.injEq] at at_point
  rw [← at_point, List.flatMap_append, Text.byteLength_append]
  exact Nat.le_add_right _ _

/-- Splicing writes the respelled lexemes. -/
theorem splice_eq_respelled (schema : String) (tiling : Tiling .start text (before ++ after))
    (found : Qualifier.offsets text (Qualifier.places chosen (lastToken none before)
      (namingFrom false before) after) = .ok points) :
    splice (schema.toList ++ ['.']) (Text.byteLength (before.flatMap Lexeme.text)) points
        (after.flatMap Lexeme.text) =
      (respelled schema chosen before after).flatMap Lexeme.text := by
  induction after generalizing before points with
  | nil => rfl
  | cons lexeme rest ih =>
      rw [places_cons] at found
      have tiling' : Tiling .start text ((before ++ [lexeme]) ++ rest) := by
        rwa [List.append_assoc, List.singleton_append]
      have passed : Text.byteLength ((before ++ [lexeme]).flatMap Lexeme.text) =
          Text.byteLength (before.flatMap Lexeme.text) + Text.byteLength lexeme.text := by
        simp
      rw [respelled, List.flatMap_append, List.flatMap_cons, List.flatMap_cons]
      split_ifs at found ⊢ with taken
      · rw [List.singleton_append, Qualifier.offsets_eq_ok_iff, List.map_cons,
          tiling.byteOffset?_eq] at found
        obtain ⟨point, later, rfl, here, same⟩ := List.map_eq_cons_iff.mp found.symm
        obtain rfl := Option.some.inj here
        replace found := Qualifier.offsets_eq_ok_iff.mpr same.symm
        have lower := le_of_mem_offsets tiling' found
        obtain ⟨c, first, spelled⟩ := List.exists_cons_of_ne_nil
          (tiling.text_ne_nil (List.mem_append_right _ List.mem_cons_self))
        have written := ih tiling' found
        rw [passed, spelled, Text.byteLength, ← Nat.add_assoc] at lower written
        rw [flatMap_text_inserted, spelled, List.cons_append, List.cons_append, splice, if_pos rfl,
          splice_append_of_le _ lower, written]
      · rw [List.nil_append] at found
        have lower := le_of_mem_offsets tiling' found
        rw [passed] at lower
        rw [splice_append_of_le _ lower, ← passed, ih tiling' found]
        rfl

/-- A statement that can be cut into tokens is qualified by writing its respelled lexemes. -/
theorem qualify_eq_respelled {q : Qualifier} {statement : String} (tiles : dialect.Tiles)
    (named : q.schema = some schema) (read : dialect.lexemes statement = .ok ls) :
    dialect.qualify q statement = .ok (String.ofList
      ((respelled schema (dialect.chooses q ls) [] ls).flatMap Lexeme.text)) := by
  have tiling : Tiling .start statement.toList ([] ++ ls) := tiles read
  have chosen : dialect.insertionPoints q statement = Qualifier.offsets statement.toList
      (Qualifier.places (dialect.chooses q ls) none false ls) := by
    rw [Dialect.insertionPoints, read]
  obtain ⟨points, found, -⟩ := Qualifier.exists_insertionPoints (q := q) tiles read
  have written := splice_eq_respelled schema tiling (chosen.symm.trans found)
  have whole : ls.flatMap Lexeme.text = statement.toList := tiling.flatMap_text
  rw [whole] at written
  simp only [Dialect.qualify, named, found]
  rw [← written]
  rfl

/-! ## Reading them -/

/-- Some lexemes are what the dialect reads from their own texts, wherever these stood. -/
def Dialect.ReadsAs (dialect : Dialect) (ls : List Lexeme) : Prop :=
  dialect.lexemes (String.ofList (ls.flatMap Lexeme.text)) = .ok (placed .start ls)

instance (dialect : Dialect) (ls : List Lexeme) : Decidable (dialect.ReadsAs ls) :=
  inferInstanceAs (Decidable (_ = _))

/-- A token is not gone on with when a name stands directly behind it. -/
def Lexeme.EndsBefore (dialect : Dialect) (name : String) (lexeme : Lexeme) : Prop :=
  dialect.ReadsAs [lexeme, ⟨.word ⟨name, none⟩, name.toList, .start⟩]

instance (dialect : Dialect) (name : String) (lexeme : Lexeme) :
    Decidable (lexeme.EndsBefore dialect name) :=
  inferInstanceAs (Decidable (dialect.ReadsAs _))

/-- What a dialect says of a plain name that is put in with a point in front of a word: if the
token directly in front ends there, all is read as before, and the name and the point as two
tokens more. -/
def Dialect.Rereads (dialect : Dialect) : Prop :=
  ∀ ⦃name : String⦄, isPlainIdentifier name = true →
    ∀ ⦃before : List Lexeme⦄ ⦃lexeme : Lexeme⦄ ⦃after : List Lexeme⦄ ⦃word : Word⦄,
      dialect.ReadsAs (before ++ lexeme :: after) → lexeme.token = .word word →
      (∀ last ∈ before.getLast?, last.EndsBefore dialect name) →
      dialect.ReadsAs (before ++ (inserted name lexeme.location ++ lexeme :: after))

/-- Lexemes that tile a text stand where they are. -/
theorem Tiling.placed_eq (tiling : Tiling place text ls) : placed place ls = ls := by
  induction tiling with
  | nil => rfl
  | cons _ _ ih => rw [placed, ih]

theorem readsAs_of_lexemes (tiles : dialect.Tiles) {statement : String}
    (read : dialect.lexemes statement = .ok ls) : dialect.ReadsAs ls := by
  have tiling := tiles read
  rw [Dialect.ReadsAs, tiling.flatMap_text, String.ofList_toList, tiling.placed_eq, read]

/-- No word is taken directly behind a token that would go on with the schema. -/
def Apart (dialect : Dialect) (schema : String) (chosen : Bool → Word → Bool)
    (ls : List Lexeme) : Prop :=
  ∀ before first second after, ls = before ++ first :: second :: after →
    second.isTaken chosen (before ++ [first]) = true → first.EndsBefore dialect schema

/-- It is enough to look at neighbours. -/
theorem apart_of_isChain (chain : ls.IsChain fun first second =>
    second.word?.isSome = true → first.EndsBefore dialect schema) :
    Apart dialect schema chosen ls := by
  rintro before first second after rfl taken
  obtain ⟨word, token, -⟩ := exists_word_of_isTaken taken
  exact (List.isChain_append_cons_cons.mp chain).2.1 (by simp [Lexeme.word?, token])

/-- In front of a word that is taken the last token ends. -/
theorem Apart.endsBefore (apart : Apart dialect schema chosen (before ++ lexeme :: after))
    (taken : lexeme.isTaken chosen before = true) :
    ∀ last ∈ before.getLast?, last.EndsBefore dialect schema := by
  intro last member
  obtain ⟨others, rfl⟩ := List.getLast?_eq_some_iff.mp member
  exact apart others last lexeme after (by simp) taken

/-- With some lexemes respelled in front already, the others can be respelled too: a schema is
put in at one word after the other. -/
theorem readsAs_respelled (rereads : dialect.Rereads) (plain : isPlainIdentifier schema = true)
    (front before after : List Lexeme) (last : front.getLast? = before.getLast?)
    (apart : Apart dialect schema chosen (before ++ after))
    (reads : dialect.ReadsAs (front ++ after)) :
    dialect.ReadsAs (front ++ respelled schema chosen before after) := by
  induction after generalizing before front with
  | nil => exact reads
  | cons lexeme rest ih =>
      have apart' : Apart dialect schema chosen ((before ++ [lexeme]) ++ rest) := by
        rwa [List.append_assoc, List.singleton_append]
      have later (front : List Lexeme) :=
        ih (front ++ [lexeme]) (before ++ [lexeme]) (by simp) apart'
      simp only [List.append_assoc, List.singleton_append] at later
      rw [respelled]
      split_ifs with taken
      · obtain ⟨word, token, -⟩ := exists_word_of_isTaken taken
        have ends := apart.endsBefore taken
        rw [← last] at ends
        have once := rereads plain reads token ends
        rw [← List.append_assoc] at once ⊢
        exact later _ once
      · exact later front reads

/-- **The tokens of a qualified statement.** -/
theorem lexemes_respelled {statement : String} (tiles : dialect.Tiles) (rereads : dialect.Rereads)
    (plain : isPlainIdentifier schema = true) (apart : Apart dialect schema chosen ls)
    (read : dialect.lexemes statement = .ok ls) :
    dialect.lexemes (String.ofList ((respelled schema chosen [] ls).flatMap Lexeme.text)) =
      .ok (placed .start (respelled schema chosen [] ls)) :=
  readsAs_respelled rereads plain [] [] ls rfl apart (readsAs_of_lexemes tiles read)

end MigrationLedger.Sql
