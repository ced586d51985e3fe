/-
# What trimming leaves

Trimming a text drops blanks at both ends and nothing else. The module says this
without the function: what is left stands in the text between blanks, and is either
empty or begins and ends with characters that are no blanks. There is exactly one
such part of a text.
-/

import Mathlib.Data.List.DropRight
import MigrationLedger.Text.Blank

namespace MigrationLedger.Text

variable {text trimmed : List Char}

/-- `trimmed` is `text` without the blanks at its ends. -/
structure Trims (text trimmed : List Char) : Prop where
  between : ∃ front back, text = front ++ trimmed ++ back ∧ ∀ c ∈ front ++ back, isBlank c = true
  first : ∀ c ∈ trimmed.head?, isBlank c = false
  last : ∀ c ∈ trimmed.getLast?, isBlank c = false

theorem trim_eq_rdropWhile (text : List Char) :
    trim text = (text.dropWhile isBlank).rdropWhile isBlank := rfl

/-- Trimming drops the blanks at both ends. -/
theorem trims_trim (text : List Char) : Trims text (trim text) where
  between := by
    refine ⟨text.takeWhile isBlank, (text.dropWhile isBlank).rtakeWhile isBlank, ?_, ?_⟩
    · rw [trim_eq_rdropWhile, List.append_assoc, List.rdropWhile_append_rtakeWhile,
        List.takeWhile_append_dropWhile]
    · intro c member
      rcases List.mem_append.mp member with member | member
      · exact List.mem_takeWhile_imp member
      · exact List.mem_rtakeWhile_imp member
  first := by
    intro c begins
    have kept : c ∈ (text.dropWhile isBlank).head? := by
      obtain ⟨rest, same⟩ := List.rdropWhile_prefix isBlank (text.dropWhile isBlank)
      rw [← same, ← trim_eq_rdropWhile, List.head?_append, Option.mem_def.mp begins]
      rfl
    have stops := List.head?_dropWhile_not isBlank text
    rw [Option.mem_def.mp kept] at stops
    simpa using stops
  last := by
    intro c ends
    have nonempty : (text.dropWhile isBlank).rdropWhile isBlank ≠ [] := by
      intro none
      rw [trim_eq_rdropWhile, none] at ends
      cases ends
    have stops := List.rdropWhile_last_not isBlank _ nonempty
    rw [trim_eq_rdropWhile, List.getLast?_eq_some_getLast nonempty] at ends
    rw [← Option.some.inj ends]
    simpa using stops

/-- Only one part of a text is what trimming leaves. -/
theorem Trims.eq_trim (trims : Trims text trimmed) : trimmed = trim text := by
  obtain ⟨front, back, rfl, blank⟩ := trims.between
  have frontBlank : ∀ c ∈ front, isBlank c = true := fun c member =>
    blank c (List.mem_append_left _ member)
  have backBlank : ∀ c ∈ back, isBlank c = true := fun c member =>
    blank c (List.mem_append_right _ member)
  rw [trim_eq_rdropWhile, List.append_assoc, List.dropWhile_append_of_pos frontBlank]
  cases trimmed with
  | nil =>
      have gone : back.dropWhile isBlank = [] := List.dropWhile_eq_nil_iff.mpr backBlank
      rw [List.nil_append, gone, List.rdropWhile_nil]
  | cons c rest =>
      have starts : isBlank c = false := trims.first c rfl
      have stops : isBlank ((c :: rest).getLast (List.cons_ne_nil _ _)) = false :=
        trims.last _ (List.getLast?_eq_some_getLast _)
      have begun : (c :: rest ++ back).dropWhile isBlank = c :: rest ++ back := by
        rw [List.cons_append, List.dropWhile_cons_of_neg (by simp [starts])]
      have ended : (c :: rest ++ back).rdropWhile isBlank = c :: rest := by
        rw [List.rdropWhile, List.reverse_append,
          List.dropWhile_append_of_pos (fun d member => backBlank d (List.mem_reverse.mp member))]
        exact List.rdropWhile_eq_self_iff.mpr fun _ => by simp [stops]
      rw [begun, ended]

theorem trims_iff : Trims text trimmed ↔ trimmed = trim text :=
  ⟨Trims.eq_trim, fun same => same ▸ trims_trim text⟩

/-- A text of its own in front keeps the end of a text free of blanks. -/
theorem Trims.append {front : List Char} (trims : Trims front front) (held : front ≠ [])
    (last : ∀ c ∈ text.getLast?, isBlank c = false) : Trims (front ++ text) (front ++ text) := by
  refine ⟨⟨[], [], by simp⟩, fun c begins => ?_, fun c ends => ?_⟩
  · rw [List.head?_append_of_ne_nil _ held] at begins
    exact trims.first c begins
  · rw [List.getLast?_append] at ends
    cases behind : text.getLast? with
    | none => exact trims.last c (by simpa [behind] using ends)
    | some d => exact last c (by simpa [behind] using ends)

end MigrationLedger.Text
