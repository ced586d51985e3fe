/-
# Where the splitter and the tokens disagree

A script is cut into statements before a statement is cut into tokens, so the two
readers look at the same text, each with its own idea of what is quoted. They agree on
plain literals, names in double quotes and comments, and everything else that a token
is made of opens nothing for the splitter, with the three exceptions of the spellings.

So the cuts are the semicolon tokens as long as the splitter passes over these lexemes
without a cut and is in code behind them. The first one in which it does cut is where
the two disagree. Of the dialect it is only used that its lexemes tile the script and are
spelled as their tokens are.
-/

import MigrationLedger.Proofs.Sql.DuckDb.Spelling
import MigrationLedger.Proofs.Sql.Segmentation

namespace MigrationLedger.Sql

/-- A semicolon between statements. -/
def Lexeme.isSemicolon (lexeme : Lexeme) : Bool := lexeme.token == .symbol ";"

namespace Script

variable {text body delimiter : List Char} {lexeme : Lexeme} {ls before after : List Lexeme}
  {pieces front : List Piece}

/-! ## Along the lexemes -/

/-- Cutting the text from code gives the texts between the semicolons. -/
def CutsAtSemicolons (text : List Char) (ls : List Lexeme) : Prop :=
  (segmentsFrom [';'] .code [] false text).map Segment.text =
    textsBetween Lexeme.isSemicolon Lexeme.text ls

/-- Every lexeme is spared, where `following` stands behind the last one. -/
def AllSpared : List Lexeme → List Char → Prop
  | [], _ => True
  | lexeme :: ls, following =>
    lexeme.IsSpared (ls.flatMap Lexeme.text ++ following) ∧ AllSpared ls following

theorem map_text_segmentsFrom (reads : Reads delimiter text pieces []) :
    (segmentsFrom delimiter .code [] false text).map Segment.text =
      textsBetween Piece.isDelimiter (Piece.text delimiter) pieces := by
  obtain ⟨first, others, split⟩ := List.exists_cons_of_ne_nil
    (List.splitOnP_ne_nil Piece.isDelimiter pieces)
  rw [segmentsFrom_eq reads, textsBetween, parts, split]
  simp [segmentOf, textOf, Function.comp_def]

theorem isDelimiter_eq_false (free : Piece.delimiter ∉ front) :
    ∀ piece ∈ front, piece.isDelimiter = false := by
  intro piece member
  cases piece with
  | delimiter => exact absurd member free
  | code c | enclosed enclosure body => rfl

theorem modifyHead_append_inj {texts others : List (List Char)} :
    texts.modifyHead (body ++ ·) = others.modifyHead (body ++ ·) ↔ texts = others := by
  cases texts <;> cases others <;> simp

/-- A lexeme that the splitter follows changes nothing in whether it cuts at the
semicolons. -/
theorem cutsAtSemicolons_cons_iff (lexeme : Lexeme)
    (follows : Follows lexeme.token (lexeme.text ++ text) text) :
    CutsAtSemicolons (lexeme.text ++ text) (lexeme :: ls) ↔ CutsAtSemicolons text ls := by
  obtain ⟨pieces, reads⟩ := exists_reads [';'] text
  rw [CutsAtSemicolons, CutsAtSemicolons, map_text_segmentsFrom reads]
  rw [Follows] at follows
  split_ifs at follows with semicolon
  · have cut : lexeme.isSemicolon = true := by rw [Lexeme.isSemicolon, semicolon, beq_self_eq_true]
    have begins : Begins [';'] (lexeme.text ++ text) .delimiter text :=
      .delimiter (List.cons_ne_nil _ _) follows
    rw [map_text_segmentsFrom (.cons begins reads), textsBetween_cons_of_cut cut,
      textsBetween_cons_of_cut rfl, List.cons.injEq]
    simp
  · have uncut : lexeme.isSemicolon = false := by
      rw [Lexeme.isSemicolon, beq_eq_false_iff_ne]
      exact semicolon
    obtain ⟨front, passes, free⟩ := follows
    have spelled : lexeme.text = front.flatMap (Piece.text [';']) :=
      List.append_cancel_right passes.eq_append
    rw [map_text_segmentsFrom (passes.append reads),
      textsBetween_append (isDelimiter_eq_false free), textsBetween_cons_of_not uncut,
      ← spelled, modifyHead_append_inj]

/-- Behind lexemes that are spared the splitter is in code, with the same cuts. -/
theorem cutsAtSemicolons_append_iff (spelled : AllSpelled (before ++ after))
    (spared : AllSpared before (after.flatMap Lexeme.text)) :
    CutsAtSemicolons ((before ++ after).flatMap Lexeme.text) (before ++ after) ↔
      CutsAtSemicolons (after.flatMap Lexeme.text) after := by
  induction before with
  | nil => exact Iff.rfl
  | cons lexeme before ih =>
      obtain ⟨here, spelled⟩ := spelled
      obtain ⟨free, spared⟩ := spared
      rw [← List.flatMap_append] at free
      rw [← ih spelled spared]
      exact cutsAtSemicolons_cons_iff lexeme (follows_of_spelled here free)

end Script

open Script in
/-- The splitter, in code where the lexeme begins, comes to a semicolon inside it. -/
def Lexeme.IsCut (lexeme : Lexeme) (following : List Char) : Prop :=
  lexeme.isSemicolon = false ∧
    ∃ pieces inside, Reads [';'] (lexeme.text ++ following) pieces (';' :: (inside ++ following)) ∧
      Piece.delimiter ∉ pieces

namespace Script

variable {text : List Char} {lexeme : Lexeme} {ls before after : List Lexeme}
  {dialect : Dialect} {script : String}

/-- Once a lexeme is cut the two readers disagree. -/
theorem not_cutsAtSemicolons_cons (cut : lexeme.IsCut text) :
    ¬ CutsAtSemicolons (lexeme.text ++ text) (lexeme :: ls) := by
  obtain ⟨uncut, front, inside, passes, free⟩ := cut
  obtain ⟨pieces, reads⟩ := exists_reads [';'] (inside ++ text)
  have begins : Begins [';'] (';' :: (inside ++ text)) .delimiter (inside ++ text) :=
    .delimiter (List.cons_ne_nil _ _) rfl
  have spelled : lexeme.text = front.flatMap (Piece.text [';']) ++ ';' :: inside := by
    have whole := passes.eq_append
    rw [← List.cons_append, ← List.append_assoc] at whole
    exact List.append_cancel_right whole
  intro agree
  rw [CutsAtSemicolons, map_text_segmentsFrom (passes.append (.cons begins reads)),
    textsBetween_append (isDelimiter_eq_false free), textsBetween_cons_of_cut rfl,
    textsBetween_cons_of_not uncut, spelled] at agree
  obtain ⟨first, others, same⟩ := List.exists_cons_of_ne_nil
    (textsBetween_ne_nil Lexeme.isSemicolon Lexeme.text ls)
  rw [same] at agree
  simp at agree

/-- **Cuts and semicolon tokens.** Take any dialect whose lexemes tile the script that they
are read from and are spelled as their tokens are. A script that it reads as lexemes is cut
exactly at the semicolon tokens if every lexeme is spared. A lexeme that the splitter cuts,
behind others that are spared, is where the two readers disagree. -/
theorem segments_eq_textsBetween {dialect : Dialect} (tiles : dialect.Tiles)
    (spells : dialect.Spells) {script : String} (read : dialect.lexemes script = .ok ls) :
    (AllSpared ls [] → (segments script ";").map Segment.text =
        textsBetween Lexeme.isSemicolon Lexeme.text ls) ∧
      ∀ before lexeme after, ls = before ++ lexeme :: after →
        AllSpared before ((lexeme :: after).flatMap Lexeme.text) →
        lexeme.IsCut (after.flatMap Lexeme.text) →
        (segments script ";").map Segment.text ≠
          textsBetween Lexeme.isSemicolon Lexeme.text ls := by
  have spelled := spells read
  have whole : (segments script ";").map Segment.text =
        textsBetween Lexeme.isSemicolon Lexeme.text ls ↔
      CutsAtSemicolons (ls.flatMap Lexeme.text) ls := by
    rw [(tiles read).flatMap_text]
    exact Iff.rfl
  constructor
  · intro spared
    rw [whole]
    rw [← List.append_nil ls] at spelled ⊢
    refine (cutsAtSemicolons_append_iff spelled spared).mpr ?_
    rw [CutsAtSemicolons, List.flatMap_nil, segmentsFrom_nil]
    rfl
  · rintro before lexeme after rfl spared cut agree
    exact not_cutsAtSemicolons_cons cut
      ((cutsAtSemicolons_append_iff spelled spared).mp (whole.mp agree))

/-- What stands in front of the literal in the two queries below. -/
def selecting : List Lexeme :=
  [⟨.word ⟨"SELECT", none⟩, ['S', 'E', 'L', 'E', 'C', 'T'], ⟨1, 1⟩⟩, ⟨.blank, [' '], ⟨1, 7⟩⟩]

/-- A semicolon behind a text between dollar signs is a cut of both readers, one in it
is a cut of the splitter only. -/
theorem segments_dollarQuery :
    Dialect.duckDb.Tiles ∧ Dialect.duckDb.Spells ∧
      (∃ ls, Dialect.duckDb.lexemes "SELECT $$a$$;" = .ok ls ∧
        (segments "SELECT $$a$$;" ";").map Segment.text =
          textsBetween Lexeme.isSemicolon Lexeme.text ls) ∧
      ∃ ls, Dialect.duckDb.lexemes "SELECT $$a;b$$" = .ok ls ∧
        (segments "SELECT $$a;b$$" ";").map Segment.text ≠
          textsBetween Lexeme.isSemicolon Lexeme.text ls := by
  refine ⟨tiles_duckDb, spells_duckDb, ?_, ?_⟩
  · have read : Dialect.duckDb.lexemes "SELECT $$a$$;" = .ok (selecting ++
        [⟨.literal .dollar "a", ['$', '$', 'a', '$', '$'], ⟨1, 8⟩⟩,
          ⟨.symbol ";", [';'], ⟨1, 13⟩⟩]) := by decide +kernel
    have passed : Passes (['$', '$', 'a', '$', '$'] ++ [';']) [';'] := passes_of_isHarmless rfl
    have behind : Lexeme.IsSpared ⟨.symbol ";", [';'], ⟨1, 13⟩⟩ [] := ⟨by simp, by simp⟩
    exact ⟨_, read, (segments_eq_textsBetween tiles_duckDb spells_duckDb read).1
      ⟨trivial, trivial, passed, behind, trivial⟩⟩
  · have read : Dialect.duckDb.lexemes "SELECT $$a;b$$" = .ok (selecting ++
        [⟨.literal .dollar "a;b", ['$', '$', 'a', ';', 'b', '$', '$'], ⟨1, 8⟩⟩]) := by
      decide +kernel
    obtain ⟨pieces, reads, free⟩ : Passes (['$', '$', 'a'] ++ [';', 'b', '$', '$'])
      [';', 'b', '$', '$'] := passes_of_isHarmless rfl
    refine ⟨_, read, (segments_eq_textsBetween tiles_duckDb spells_duckDb read).2 _ _ _ rfl
      ⟨trivial, trivial, trivial⟩ ?_⟩
    exact ⟨rfl, pieces, ['b', '$', '$'], reads, free⟩

/-! ## Scripts on which they disagree -/

/-- The script can be read as lexemes, but it is not cut at its semicolon tokens. -/
def Disagree (dialect : Dialect) (script : String) : Prop :=
  ∃ ls, dialect.lexemes script = .ok ls ∧ (segments script ";").map Segment.text ≠
    textsBetween Lexeme.isSemicolon Lexeme.text ls

/-- The script can be read as lexemes, so many of which are semicolons. -/
def ReadsSemicolons (dialect : Dialect) (script : String) (count : Nat) : Prop :=
  ∃ ls, dialect.lexemes script = .ok ls ∧ ls.countP Lexeme.isSemicolon = count

instance (dialect : Dialect) (script : String) (count : Nat) :
    Decidable (ReadsSemicolons dialect script count) :=
  decidable_of_iff
    ((dialect.lexemes script).toOption.map (List.countP Lexeme.isSemicolon) = some count) <| by
      rw [ReadsSemicolons]
      cases dialect.lexemes script with
      | error problem => simp [Except.toOption]
      | ok ls => simp [Except.toOption]

/-- The readers agree on no script with another number of cuts than of semicolon tokens. -/
theorem disagree_of_count {count : Nat} (reads : ReadsSemicolons dialect script count)
    (other : (segments script ";").length ≠ count + 1) : Disagree dialect script := by
  obtain ⟨ls, read, rfl⟩ := reads
  refine ⟨ls, read, fun agree => other ?_⟩
  have lengths := congrArg List.length agree
  rwa [List.length_map, textsBetween, List.length_map, length_splitOnP] at lengths

/-- What a dialect has to say of three scripts: text between dollar signs and a name between
backticks hold no semicolon token, and two slashes are an operator, behind which a star opens
no comment. -/
structure ReadsQuotes (dialect : Dialect) : Prop where
  dollars : ReadsSemicolons dialect "SELECT $$a;b$$" 0
  backticks : ReadsSemicolons dialect "SELECT `a;b`" 0
  slashes : ReadsSemicolons dialect "SELECT 1 //* 2; SELECT 3" 1

theorem readsQuotes_duckDb : ReadsQuotes .duckDb :=
  ⟨by decide +kernel, by decide +kernel, by decide +kernel⟩

/-- Being read as lexemes is not enough. Text between dollar signs and a name between
backticks are cut at a semicolon in them, and a slash that an operator ends with hides the
semicolon behind it, because the splitter takes it for the opening of a comment. -/
theorem disagree_dollar_backtick_operator :
    (∀ dialect : Dialect, ReadsQuotes dialect → Disagree dialect "SELECT $$a;b$$" ∧
        Disagree dialect "SELECT `a;b`" ∧ Disagree dialect "SELECT 1 //* 2; SELECT 3") ∧
      ReadsQuotes .duckDb := by
  refine ⟨fun dialect reads => ⟨?_, ?_, ?_⟩, readsQuotes_duckDb⟩
  · exact disagree_of_count reads.dollars (by decide +kernel)
  · exact disagree_of_count reads.backticks (by decide +kernel)
  · exact disagree_of_count reads.slashes (by decide +kernel)

end Script

end MigrationLedger.Sql
