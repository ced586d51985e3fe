/-
# The question for the number of rows

A table is asked for its number of rows by one fixed statement with the name of the table
at its end. What a dialect is asked to say of it: it is cut into ten lexemes, and the
table is the one relation that it mentions. Two names begin another kind of table after
`FROM`, and only with these the statement need not be understood.

What the qualifier makes of the question follows from that. The words in front of the table
are the same for all tables, so its offset is always 21.
-/

import MigrationLedger.Name
import MigrationLedger.Proofs.Sql.Relations

namespace MigrationLedger.Sql

theorem exists_cons_of_isPlainIdentifier {text : String} (plain : isPlainIdentifier text = true) :
    ∃ c more, text.toList = c :: more ∧ isIdentifierStart c = true ∧
      more.all isIdentifierPart = true := by
  unfold isPlainIdentifier at plain
  split at plain
  · cases plain
  · rename_i c more spelled
    exact ⟨c, more, spelled, Bool.and_eq_true_iff.mp plain⟩

namespace Counting

/-- The lexemes of the question for the number of rows. -/
def tokens (table : String) : List Lexeme :=
  [⟨.word ⟨"SELECT", none⟩, "SELECT".toList, ⟨1, 1⟩⟩, ⟨.blank, [' '], ⟨1, 7⟩⟩,
    ⟨.word ⟨"COUNT", none⟩, "COUNT".toList, ⟨1, 8⟩⟩, ⟨.symbol "(", ['('], ⟨1, 13⟩⟩,
    ⟨.symbol "*", ['*'], ⟨1, 14⟩⟩, ⟨.symbol ")", [')'], ⟨1, 15⟩⟩, ⟨.blank, [' '], ⟨1, 16⟩⟩,
    ⟨.word ⟨"FROM", none⟩, "FROM".toList, ⟨1, 17⟩⟩, ⟨.blank, [' '], ⟨1, 21⟩⟩,
    ⟨.word ⟨table, none⟩, table.toList, ⟨1, 22⟩⟩]

/-- A name that begins another kind of table after `FROM`. -/
def IsFactorKeyword (table : String) : Prop :=
  (Word.mk table none).keyword ∈ ["LATERAL", "TABLE"]

instance (table : String) : Decidable (IsFactorKeyword table) :=
  inferInstanceAs (Decidable (_ ∈ _))

end Counting

open Counting in
/-- What a dialect says of the question for the number of rows, whatever plain name stands at
its end. -/
structure Dialect.ReadsCounts (dialect : Dialect) : Prop where
  /-- The question is cut into ten lexemes, the last of which is the name. -/
  cuts : ∀ table, isPlainIdentifier table = true →
    dialect.lexemes ("SELECT COUNT(*) FROM " ++ table) = .ok (tokens table)
  /-- If it is understood, the table is a relation, and nothing else is stored. -/
  mentions : ∀ table, isPlainIdentifier table = true → ∀ mentions,
    dialect.mentions? (tokens table) = some mentions →
      (∃ m ∈ mentions, m.role = .relation ∧ m.first.name = table ∧ m.later = []) ∧
      ∀ m ∈ mentions, m.role.isStored = true → m.first.name = table
  /-- It is understood unless the name begins another kind of table. -/
  unread : ∀ table, isPlainIdentifier table = true →
    dialect.mentions? (tokens table) = none → IsFactorKeyword table

namespace Qualifier

open Counting

variable {dialect : Dialect} {q : Qualifier} {schema table : String}

theorem isStored_of_isTable {role : Role}
    (isTable : role = .relation ∨ role = .dropTarget ∨ role = .foreignKey) :
    role.isStored = true := by
  rcases isTable with rfl | rfl | rfl <;> rfl

/-- A word of the question is chosen if it is the table and belongs to the job store. Where
the question is not understood, all words of the job store are chosen. -/
theorem chooses_tokens (reads : dialect.ReadsCounts) (q : Qualifier)
    (plain : isPlainIdentifier table = true) :
    (∀ word, dialect.chooses q (tokens table) false ⟨word, none⟩ =
        (q.owns table && word == table)) ∨
      IsFactorKeyword table ∧
        ∀ word, dialect.chooses q (tokens table) false ⟨word, none⟩ = q.owns word := by
  cases understood : dialect.mentions? (tokens table) with
  | none =>
      refine .inr ⟨reads.unread table plain understood, fun word => ?_⟩
      simp [Dialect.chooses, understood]
  | some mentions =>
      obtain ⟨⟨m, mentioned, role, name, single⟩, only⟩ :=
        reads.mentions table plain mentions understood
      refine .inl fun word => ?_
      simp only [Dialect.chooses, understood]
      rw [Bool.eq_iff_iff, List.contains_iff_mem, mem_tableNames_iff, Bool.and_eq_true, beq_iff_eq,
        owns_iff]
      constructor
      · rintro ⟨begins, other, member, rfl, -, isTable⟩
        have same := only other member (isStored_of_isTable isTable)
        exact ⟨same ▸ begins, same⟩
      · rintro ⟨begins, rfl⟩
        exact ⟨begins, m, mentioned, name, single, .inl role⟩

/-- The byte offsets of the words of the question that are chosen. -/
def chosenOffsets (chosen : Bool → Word → Bool) (table : String) : List Nat :=
  (if chosen false ⟨"SELECT", none⟩ then [0] else []) ++
    (if chosen false ⟨"COUNT", none⟩ then [7] else []) ++
    (if chosen false ⟨"FROM", none⟩ then [16] else []) ++
    (if chosen false ⟨table, none⟩ then [21] else [])

theorem places_tokens (chosen : Bool → Word → Bool) (table : String) :
    Qualifier.places chosen none false (tokens table) =
      (if chosen false ⟨"SELECT", none⟩ then [⟨1, 1⟩] else []) ++
        ((if chosen false ⟨"COUNT", none⟩ then [⟨1, 8⟩] else []) ++
        ((if chosen false ⟨"FROM", none⟩ then [⟨1, 17⟩] else []) ++
        (if chosen false ⟨table, none⟩ then [⟨1, 22⟩] else []))) := by
  have blank (previous : Option Token) (location : Location) (ls : List Lexeme) :
      Qualifier.places chosen previous false (⟨.blank, [' '], location⟩ :: ls) =
        Qualifier.places chosen previous false ls := rfl
  have symbol (previous : Option Token) (text : String) (location : Location)
      (ls : List Lexeme) (read : List Char) :
      Qualifier.places chosen previous false (⟨.symbol text, read, location⟩ :: ls) =
        Qualifier.places chosen (some (.symbol text)) false ls := rfl
  have select : namingAfter ⟨"SELECT", none⟩ false = false := by decide
  have count : namingAfter ⟨"COUNT", none⟩ false = false := by decide
  have source : namingAfter ⟨"FROM", none⟩ false = false := by decide
  have last : Qualifier.places chosen (some (.word ⟨table, none⟩))
      (namingAfter ⟨table, none⟩ false) [] = [] := rfl
  simp only [tokens, places_word_cons, blank, symbol, select, count, source, last]
  simp

theorem insertionPoints_question (reads : dialect.ReadsCounts)
    (plain : isPlainIdentifier table = true) :
    dialect.insertionPoints q ("SELECT COUNT(*) FROM " ++ table) =
      .ok (chosenOffsets (dialect.chooses q (tokens table)) table) := by
  obtain ⟨c, more, spelled, -⟩ := exists_cons_of_isPlainIdentifier plain
  have front : "SELECT COUNT(*) FROM ".toList = ['S', 'E', 'L', 'E', 'C', 'T', ' ', 'C', 'O', 'U',
      'N', 'T', '(', '*', ')', ' ', 'F', 'R', 'O', 'M', ' '] := by decide +kernel
  rw [Dialect.insertionPoints, reads.cuts table plain]
  dsimp only
  generalize dialect.chooses q (tokens table) = chosen
  rw [places_tokens, String.toList_append, front, spelled, chosenOffsets]
  cases chosen false ⟨"SELECT", none⟩ <;> cases chosen false ⟨"COUNT", none⟩ <;>
    cases chosen false ⟨"FROM", none⟩ <;> cases chosen false ⟨table, none⟩ <;> rfl

/-- The names that are not understood after `FROM` have another beginning than the words in
front of it, so no prefix is common to both. -/
theorem owns_eq_false_of_isFactorKeyword (special : IsFactorKeyword table)
    (nonempty : q.tablePrefix ≠ "") (owned : q.owns table = true) {word : String}
    (member : word ∈ ["SELECT", "COUNT", "FROM"]) : q.owns word = false := by
  obtain ⟨p, ps, spelled⟩ := List.exists_cons_of_ne_nil
    (mt String.toList_eq_nil_iff.mp nonempty)
  rw [owns, Text.startsWith, spelled, List.isPrefixOf_iff_prefix] at owned
  obtain ⟨rest, begins⟩ := owned
  by_contra both
  rw [Bool.not_eq_false, owns, Text.startsWith, spelled, List.isPrefixOf_iff_prefix] at both
  obtain ⟨others, shared⟩ := both
  have capitals : (Word.mk table none).keyword =
      String.ofList (asciiCapitals p ++ (ps ++ rest).flatMap asciiCapitals) := by
    rw [Word.keyword]
    dsimp only
    rw [← begins, List.cons_append, List.flatMap_cons]
  have first : p = 'S' ∨ p = 'C' ∨ p = 'F' := by
    have heads : ["SELECT", "COUNT", "FROM"].map (·.toList.head?) =
        [some 'S', some 'C', some 'F'] := by decide +kernel
    have head : some p ∈ ["SELECT", "COUNT", "FROM"].map (·.toList.head?) :=
      List.mem_map.mpr ⟨word, member, by rw [← shared]; rfl⟩
    simpa [heads] using head
  have capital : asciiCapitals p = [p] ∧ p ≠ 'L' ∧ p ≠ 'T' := by
    rcases first with rfl | rfl | rfl <;> decide +kernel
  obtain ⟨same, notL, notT⟩ := capital
  rw [IsFactorKeyword, capitals, same] at special
  have heads : ["LATERAL", "TABLE"].map (·.toList.head?) = [some 'L', some 'T'] := by
    decide +kernel
  have head : some p ∈ ["LATERAL", "TABLE"].map (·.toList.head?) :=
    List.mem_map.mpr ⟨_, special, by rw [String.toList_ofList]; rfl⟩
  have either : p = 'L' ∨ p = 'T' := by simpa [heads] using head
  exact either.elim notL notT

/-- The question with the schema at a table of the job store. -/
theorem qualify_question_of_owns (reads : dialect.ReadsCounts) (named : q.schema = some schema)
    (plain : isPlainIdentifier table = true) (nonempty : q.tablePrefix ≠ "")
    (owned : q.owns table = true) (apart : table ∉ ["SELECT", "COUNT", "FROM"]) :
    dialect.qualify q ("SELECT COUNT(*) FROM " ++ table) =
      .ok ("SELECT COUNT(*) FROM " ++ (schema ++ "." ++ table)) := by
  obtain ⟨c, more, spelled, -⟩ := exists_cons_of_isPlainIdentifier plain
  have here : dialect.chooses q (tokens table) false ⟨table, none⟩ = true := by
    rcases chooses_tokens reads q plain with same | ⟨-, same⟩ <;> simp [same, owned]
  have others (word : String) (member : word ∈ ["SELECT", "COUNT", "FROM"]) :
      dialect.chooses q (tokens table) false ⟨word, none⟩ = false := by
    rcases chooses_tokens reads q plain with same | ⟨special, same⟩
    · have distinct : word ≠ table := fun same => apart (same ▸ member)
      simp [same, distinct]
    · rw [same]
      exact owns_eq_false_of_isFactorKeyword special nonempty owned member
  have only : chosenOffsets (dialect.chooses q (tokens table)) table =
      [0 + Text.byteLength "SELECT COUNT(*) FROM ".toList] := by
    rw [chosenOffsets, here, others _ (by decide), others _ (by decide), others _ (by decide)]
    decide +kernel
  have text : ("SELECT COUNT(*) FROM " ++ (schema ++ "." ++ table)).toList =
      "SELECT COUNT(*) FROM ".toList ++ (schema.toList ++ ['.']) ++ c :: more := by
    simp [String.toList_append, spelled]
  simp only [Dialect.qualify, named, insertionPoints_question reads plain, only,
    String.toList_append, spelled, splice_append_cons]
  rw [← text, String.ofList_toList]

/-- A table that does not belong to the job store is left without the schema. -/
theorem qualify_question_ne (reads : dialect.ReadsCounts) (named : q.schema = some schema)
    (plain : isPlainIdentifier table = true) (other : q.owns table = false) :
    dialect.qualify q ("SELECT COUNT(*) FROM " ++ table) ≠
      .ok ("SELECT COUNT(*) FROM " ++ (schema ++ "." ++ table)) := by
  have here : dialect.chooses q (tokens table) false ⟨table, none⟩ = false := by
    rcases chooses_tokens reads q plain with same | ⟨-, same⟩ <;> simp [same, other]
  have front : "SELECT COUNT(*) FROM ".toList = "SELECT COUNT(*) FROM".toList ++ [' '] := by
    decide +kernel
  have lower : ∀ offset ∈ chosenOffsets (dialect.chooses q (tokens table)) table,
      offset < 0 + Text.byteLength "SELECT COUNT(*) FROM".toList := by
    have size : Text.byteLength "SELECT COUNT(*) FROM".toList = 20 := by decide +kernel
    rw [size]
    simp only [chosenOffsets, here, List.mem_append, List.mem_ite_nil_right, List.mem_singleton,
      Bool.false_eq_true, false_and, or_false]
    rintro offset ((⟨-, rfl⟩ | ⟨-, rfl⟩) | ⟨-, rfl⟩) <;> decide
  obtain ⟨before, kept⟩ := exists_splice_append (schema.toList ++ ['.'])
    "SELECT COUNT(*) FROM".toList (' ' :: table.toList) lower
  intro same
  simp only [Dialect.qualify, named, insertionPoints_question reads plain, String.toList_append,
    front, List.append_assoc, List.singleton_append, kept] at same
  have texts := congrArg String.toList (Except.ok.inj same)
  -- In front of the name stands a space here, and the point of the full name there.
  have point : ("SELECT COUNT(*) FROM " ++ (schema ++ "." ++ table)).toList =
      ("SELECT COUNT(*) FROM ".toList ++ schema.toList) ++ '.' :: table.toList := by
    simp [String.toList_append]
  rw [String.toList_ofList, point] at texts
  have ends := List.append_inj_right' texts (by simp)
  exact absurd (List.cons.inj ends).1 (by decide)

end Qualifier

end MigrationLedger.Sql
