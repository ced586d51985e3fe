/-
# Lexemes tile the statement

What is asked of a dialect for splicing is that the lexemes of a statement are its text, cut
into pieces of at least one character, each of which knows the place where it begins. Nothing
is left out between two pieces. No other fact about the reading of lexemes is needed, and
none about what is understood.
-/

import MigrationLedger.Proofs.Sql.Offset

namespace MigrationLedger.Sql

/-- The lexemes cover a text that begins at a place: one after the other, without gaps,
none of them empty. -/
inductive Tiling : Location → List Char → List Lexeme → Prop
  | nil {place : Location} : Tiling place [] []
  | cons {text : List Char} {lexeme : Lexeme} {rest : List Lexeme} (nonempty : lexeme.text ≠ [])
      (later : Tiling (lexeme.location.advance lexeme.text) text rest) :
      Tiling lexeme.location (lexeme.text ++ text) (lexeme :: rest)

/-- The lexemes of a statement tile it: together they are its text, and each is at the line
and the column of its first character. -/
def Dialect.Tiles (dialect : Dialect) : Prop :=
  ∀ ⦃statement : String⦄ ⦃ls : List Lexeme⦄, dialect.lexemes statement = .ok ls →
    Tiling .start statement.toList ls

variable {place : Location} {text : List Char} {ls before after : List Lexeme} {lexeme : Lexeme}

/-! ## What a tiling says about each lexeme -/

namespace Tiling

theorem flatMap_text (tiling : Tiling place text ls) : ls.flatMap Lexeme.text = text := by
  induction tiling with
  | nil => rfl
  | cons _ _ ih => rw [List.flatMap_cons, ih]

theorem text_ne_nil (tiling : Tiling place text ls) (member : lexeme ∈ ls) :
    lexeme.text ≠ [] := by
  induction tiling with
  | nil => cases member
  | cons nonempty _ ih => exact (List.mem_cons.mp member).elim (· ▸ nonempty) ih

/-- A lexeme lies at the place that follows the text of those in front of it. -/
theorem location_eq (tiling : Tiling place text (before ++ lexeme :: after)) :
    lexeme.location = place.advance (before.flatMap Lexeme.text) := by
  induction before generalizing place text with
  | nil => cases tiling; rfl
  | cons first before ih =>
      cases tiling with
      | cons _ later => rw [ih later, List.flatMap_cons, Location.advance_append]

/-- The place of a lexeme leads to the number of bytes in front of it. -/
theorem byteOffset?_eq (tiling : Tiling .start text (before ++ lexeme :: after)) :
    lexeme.location.byteOffset? text = some (Text.byteLength (before.flatMap Lexeme.text)) := by
  obtain ⟨c, rest, first⟩ := List.exists_cons_of_ne_nil
    (tiling.text_ne_nil (List.mem_append_right _ List.mem_cons_self))
  rw [tiling.location_eq, ← tiling.flatMap_text, List.flatMap_append, List.flatMap_cons, first]
  exact Location.byteOffset?_advance_start _ _ _

end Tiling

/-- A lexeme with a text adds to the bytes in front of those behind it. -/
theorem byteLength_flatMap_lt (nonempty : lexeme.text ≠ []) (before between : List Lexeme) :
    Text.byteLength (before.flatMap Lexeme.text) <
      Text.byteLength ((before ++ lexeme :: between).flatMap Lexeme.text) := by
  have := Text.byteLength_pos nonempty
  simp only [List.flatMap_append, List.flatMap_cons, Text.byteLength_append]
  omega

end MigrationLedger.Sql
