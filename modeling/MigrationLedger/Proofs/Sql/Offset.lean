/-
# Places and byte offsets

A place names a character by its line and its column; splicing needs the number of
bytes in front of it. The way from one to the other counts line feeds first and
characters of the last line after that. It is exact: the place that follows some text
has the bytes of this text in front of it, whatever comes next.
-/

import Mathlib.Data.List.DropRight
import MigrationLedger.Sql.Qualifier

namespace MigrationLedger

namespace Text

@[simp]
theorem byteLength_append (a b : List Char) :
    byteLength (a ++ b) = byteLength a + byteLength b := by
  induction a with
  | nil => simp [byteLength]
  | cons c rest ih => simp [byteLength, ih, Nat.add_assoc]

theorem byteLength_pos {text : List Char} (nonempty : text ≠ []) : 0 < byteLength text := by
  obtain ⟨c, rest, rfl⟩ := List.exists_cons_of_ne_nil nonempty
  have := c.utf8Size_pos
  rw [byteLength]
  omega

/-- The characters behind the last line feed. -/
def lastLine (text : List Char) : List Char := text.rtakeWhile (· ≠ '\n')

/-- The lines in front of the last one, each with its line feed. -/
def fullLines (text : List Char) : List Char := text.rdropWhile (· ≠ '\n')

theorem fullLines_append_lastLine (text : List Char) : fullLines text ++ lastLine text = text :=
  List.rdropWhile_append_rtakeWhile

theorem getLast_fullLines (text : List Char) (nonempty : fullLines text ≠ []) :
    (fullLines text).getLast nonempty = '\n' := by
  simpa [fullLines] using List.rdropWhile_last_not _ _ nonempty

theorem lastLine_concat (text : List Char) (c : Char) :
    lastLine (text ++ [c]) = if c = '\n' then [] else lastLine text ++ [c] := by
  simp only [lastLine, List.rtakeWhile_concat, decide_eq_true_eq]
  split <;> simp_all

theorem count_lastLine (text : List Char) : (lastLine text).count '\n' = 0 := by
  refine List.count_eq_zero.mpr fun member => ?_
  simpa using List.mem_rtakeWhile_imp member

theorem count_fullLines (text : List Char) :
    (fullLines text).count '\n' = text.count '\n' := by
  conv_rhs => rw [← fullLines_append_lastLine text, List.count_append, count_lastLine]
  simp

end Text

namespace Sql

namespace Location

@[simp]
theorem advance_append (place : Location) (a b : List Char) :
    place.advance (a ++ b) = (place.advance a).advance b :=
  List.foldl_append

/-- The place that follows a text: one line more than it has line feeds, and one column
more than its last line has characters. -/
theorem advance_start (text : List Char) :
    start.advance text = ⟨text.count '\n' + 1, (Text.lastLine text).length + 1⟩ := by
  induction text using List.reverseRecOn with
  | nil => rfl
  | append_singleton text c ih =>
      rw [advance_append, ih, Text.lastLine_concat, List.count_append]
      by_cases feed : c = '\n' <;> simp [advance, next, feed]

/-- Walking over full lines counts their bytes. -/
theorem lineStart?_append {lines : List Char} (rest : List Char) (passed : Nat)
    (full : ∀ nonempty : lines ≠ [], lines.getLast nonempty = '\n') :
    lineStart? (lines.count '\n') passed (lines ++ rest) =
      some (passed + Text.byteLength lines, rest) := by
  induction lines generalizing passed with
  | nil => simp [lineStart?, Text.byteLength]
  | cons c lines ih =>
      have later : ∀ nonempty : lines ≠ [], lines.getLast nonempty = '\n' := fun nonempty => by
        rw [← List.getLast_cons nonempty]
        exact full (List.cons_ne_nil c lines)
      have step (skip : Nat) : lineStart? (skip + 1) passed (c :: (lines ++ rest)) =
          lineStart? (if c = '\n' then skip else skip + 1) (passed + c.utf8Size)
            (lines ++ rest) := rfl
      rw [List.cons_append, Text.byteLength, ← Nat.add_assoc, ← ih _ later]
      by_cases feed : c = '\n'
      · rw [feed, List.count_cons_self, ← feed, step, if_pos feed]
      · -- The line goes on, so its line feed is still ahead.
        have ahead : '\n' ∈ lines := by
          have last := full (List.cons_ne_nil c lines)
          have member := List.getLast_mem (List.cons_ne_nil c lines)
          rw [last] at member
          exact (List.mem_cons.mp member).resolve_left fun same => feed same.symm
        obtain ⟨skip, counted⟩ := Nat.exists_eq_succ_of_ne_zero
          (List.count_pos_iff.mpr ahead).ne'
        rw [List.count_cons_of_ne feed, counted, step, if_neg feed]

theorem columnStart?_append (before rest : List Char) (c : Char) (passed : Nat) :
    columnStart? before.length passed (before ++ c :: rest) =
      some (passed + Text.byteLength before) := by
  induction before generalizing passed with
  | nil => rfl
  | cons b before ih =>
      rw [List.length_cons, List.cons_append, columnStart?, ih, Text.byteLength, Nat.add_assoc]

/-- The character that follows some text has the bytes of this text in front of it. -/
theorem byteOffset?_advance_start (before rest : List Char) (c : Char) :
    (start.advance before).byteOffset? (before ++ c :: rest) = some (Text.byteLength before) := by
  have lines := lineStart?_append (Text.lastLine before ++ c :: rest) 0
    (Text.getLast_fullLines before)
  rw [Text.count_fullLines, ← List.append_assoc, Text.fullLines_append_lastLine] at lines
  rw [advance_start, byteOffset?, if_neg (by simp), Nat.add_sub_cancel, lines]
  simp only [Nat.add_sub_cancel, columnStart?_append, Nat.zero_add, ← Text.byteLength_append,
    Text.fullLines_append_lastLine]

end Location

end Sql

end MigrationLedger
