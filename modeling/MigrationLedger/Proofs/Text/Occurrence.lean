/-
# Texts within texts

A text occurs in another when the other is made of something in front, the text and
something behind. The search agrees with this, and dropping a start leaves what stands
behind it. Messages are put together from fixed
words and names, with a quote on either side of a name; a text without quotes that
occurs in such a message occurs in one of the stretches between the quotes.
-/

import Mathlib.Data.List.Infix
import MigrationLedger.Text.Search

namespace MigrationLedger.Text

/-- `part` stands somewhere in `text`. -/
structure Occurs (part text : String) : Prop where
  between : ∃ front back, text = front ++ part ++ back

theorem occurs_iff {part text : String} : Occurs part text ↔ part.toList <:+: text.toList := by
  constructor
  · rintro ⟨front, back, rfl⟩
    exact ⟨front.toList, back.toList, by simp⟩
  · rintro ⟨front, back, same⟩
    refine ⟨String.ofList front, String.ofList back, ?_⟩
    rw [← String.toList_inj]
    simpa using same.symm

theorem occursIn_iff {part text : List Char} : occursIn part text = true ↔ part <:+: text := by
  induction text with
  | nil => simp [occursIn]
  | cons c rest ih =>
      rw [occursIn, Bool.or_eq_true, List.isPrefixOf_iff_prefix, ih, List.infix_cons_iff]

theorem contains_iff {part text : String} : contains text part = true ↔ Occurs part text :=
  occursIn_iff.trans occurs_iff.symm

instance (part text : String) : Decidable (Occurs part text) :=
  decidable_of_iff _ contains_iff

/-- What begins behind a separator and holds none is empty. -/
theorem eq_nil_of_prefix_cons {part rest : List Char} {separator : Char}
    (begins : part <+: separator :: rest) (free : separator ∉ part) : part = [] := by
  cases part with
  | nil => rfl
  | cons c part =>
      obtain rfl := (List.cons_prefix_cons.mp begins).1
      exact absurd List.mem_cons_self free

/-- A part without a separator stands in front of it or behind it. -/
theorem infix_append_cons_iff {part front back : List Char} {separator : Char}
    (free : separator ∉ part) :
    part <:+: front ++ separator :: back ↔ part <:+: front ∨ part <:+: back := by
  constructor
  · rw [List.infix_append_iff, List.infix_cons_iff]
    rintro (before | (begins | behind) | ⟨left, right, rfl, ends, begins⟩)
    · exact .inl before
    · exact .inl (eq_nil_of_prefix_cons begins free ▸ List.nil_infix)
    · exact .inr behind
    · have none : right = [] :=
        eq_nil_of_prefix_cons begins fun member => free (List.mem_append_right _ member)
      exact .inl (by simpa [none] using ends.isInfix)
  · rintro (before | behind)
    · exact List.infix_append_of_infix_left before
    · exact List.infix_append_of_infix_right (List.infix_cons behind)

/-- A part without quotes that stands in a message with a quoted name stands in the name
or in the words on either side of it. -/
theorem occurs_quoted_iff {part front name back : String} (free : '"' ∉ part.toList) :
    Occurs part (front ++ "\"" ++ name ++ "\"" ++ back) ↔
      Occurs part front ∨ Occurs part name ∨ Occurs part back := by
  have spelled : (front ++ "\"" ++ name ++ "\"" ++ back).toList =
      front.toList ++ '"' :: (name.toList ++ '"' :: back.toList) := by simp
  rw [occurs_iff, spelled, infix_append_cons_iff free, infix_append_cons_iff free]
  simp only [occurs_iff]

/-- What stands behind a start is what is left when it is dropped. -/
theorem dropStart?_eq_some_iff {start text rest : List Char} :
    dropStart? start text = some rest ↔ text = start ++ rest := by
  rw [dropStart?]
  split
  · rename_i begins
    obtain ⟨behind, rfl⟩ := List.isPrefixOf_iff_prefix.mp begins
    simp
  · rename_i begins
    refine iff_of_false nofun fun same => begins ?_
    exact List.isPrefixOf_iff_prefix.mpr ⟨rest, same.symm⟩

theorem dropStart?_eq_none_iff {start text : List Char} :
    dropStart? start text = none ↔ ¬ start <+: text := by
  rw [dropStart?, ← List.isPrefixOf_iff_prefix]
  split <;> simp [*]

end MigrationLedger.Text
