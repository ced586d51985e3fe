/-
# The lexer reads its text in pieces

The lexer takes a token from the front of a text and goes on with what is left. So its
lexemes tile the statement, as is asked of a dialect.
-/

import MigrationLedger.Proofs.Sql.Tiling
import MigrationLedger.Sql.DuckDb

namespace MigrationLedger.Sql

variable {place : Location} {text : List Char} {ls : List Lexeme}

namespace Lexer

/-- One step of the reading: a first token, and the lexemes of what it leaves. -/
theorem lexemesFrom_cons_eq_ok_iff {previous : Option Token} {c : Char} :
    lexemesFrom previous place (c :: text) = .ok ls ↔
      ∃ token count later, scan previous c text = .ok (token, count) ∧
        lexemesFrom (some token) (place.advance (c :: text.take count)) (text.drop count) =
          .ok later ∧
        ls = ⟨token, c :: text.take count, place⟩ :: later := by
  rw [lexemesFrom]
  cases scan previous c text with
  | error fault => simp
  | ok scanned =>
      obtain ⟨token, count⟩ := scanned
      dsimp only
      cases continued : lexemesFrom (some token) (place.advance (c :: text.take count))
          (text.drop count) with
      | error error => simp [continued]
      | ok later => simp [continued, eq_comm]

/-- Whatever is read as lexemes is tiled by them. -/
theorem tiling_of_lexemesFrom {previous : Option Token}
    (read : lexemesFrom previous place text = .ok ls) : Tiling place text ls := by
  induction size : text.length using Nat.strong_induction_on
    generalizing previous place text ls with
  | h bound ih =>
      cases text with
      | nil =>
          rw [lexemesFrom] at read
          cases read
          exact .nil
      | cons c rest =>
          obtain ⟨token, count, later, -, continued, rfl⟩ := lexemesFrom_cons_eq_ok_iff.mp read
          have shorter : (rest.drop count).length < bound := by
            rw [← size, List.length_cons, List.length_drop]
            omega
          have tiled : c :: rest = (c :: rest.take count) ++ rest.drop count := by
            rw [List.cons_append, List.take_append_drop]
          rw [tiled]
          exact @Tiling.cons (rest.drop count) ⟨token, c :: rest.take count, place⟩ later
            (List.cons_ne_nil _ _) (ih _ shorter continued rfl)

end Lexer

theorem tiles_duckDb : Dialect.duckDb.Tiles := fun _ _ read => Lexer.tiling_of_lexemesFrom read

end MigrationLedger.Sql
