/-
# What splicing does to a text

Splicing reads the text once, from left to right, and looks only at the next byte
offset. When the offsets ascend strictly and each is the offset of a character of the
text, nothing is missed: the text falls into pieces that meet at these offsets, and the
result is the same pieces with the insertion between them. Leaving the insertions out
gives the text back.
-/

import MigrationLedger.Proofs.Sql.Offset

namespace MigrationLedger.Sql

/-- The byte offsets at which consecutive pieces of a text meet. The first piece begins
`passed` bytes into the whole. -/
def joints (passed : Nat) : List (List Char) → List Nat
  | [] => []
  | [_] => []
  | piece :: next :: rest =>
    (passed + Text.byteLength piece) :: joints (passed + Text.byteLength piece) (next :: rest)

/-- A text is rewritten by putting `insertion` in front of the characters that have the
given byte offsets, and by nothing else. -/
structure Spliced (insertion text : List Char) (points : List Nat) (rewritten : List Char) :
    Prop where
  ascending : points.Pairwise (· < ·)
  pieces : ∃ pieces, pieces.flatten = text ∧ joints 0 pieces = points ∧
    rewritten = insertion.intercalate pieces

/-- An offset at which a character of a text begins, in a whole of which `passed` bytes
stand in front of the text. -/
def IsBoundary (passed : Nat) (text : List Char) (offset : Nat) : Prop :=
  ∃ before c after, text = before ++ c :: after ∧ offset = passed + Text.byteLength before

variable {insertion text rest : List Char} {offsets : List Nat} {offset passed : Nat} {c : Char}

theorem IsBoundary.le (boundary : IsBoundary passed text offset) : passed ≤ offset := by
  obtain ⟨before, c, after, -, rfl⟩ := boundary
  exact Nat.le_add_right _ _

/-- A boundary behind the first character is one of the remaining text. -/
theorem IsBoundary.tail (boundary : IsBoundary passed (c :: rest) offset)
    (ahead : passed ≠ offset) : IsBoundary (passed + c.utf8Size) rest offset := by
  obtain ⟨before, d, after, split, rfl⟩ := boundary
  rcases List.cons_eq_append_iff.mp split with ⟨rfl, -⟩ | ⟨later, rfl, remaining⟩
  · exact absurd rfl ahead
  · exact ⟨later, d, after, remaining, by rw [Text.byteLength, Nat.add_assoc]⟩

theorem joints_cons_cons (piece : List Char) (pieces : List (List Char)) :
    joints passed ((c :: piece) :: pieces) = joints (passed + c.utf8Size) (piece :: pieces) := by
  cases pieces with
  | nil => rfl
  | cons next pieces => rw [joints, joints, Text.byteLength, Nat.add_assoc]

theorem intercalate_cons_cons_char (piece : List Char) (pieces : List (List Char)) :
    insertion.intercalate ((c :: piece) :: pieces) =
      c :: insertion.intercalate (piece :: pieces) := by
  cases pieces with
  | nil => simp
  | cons next pieces => simp [List.intercalate_cons_cons]

/-- Splicing takes a text apart at some of the offsets, and at all of them when they ascend
and are those of characters. There is always a first piece, which is empty when the insertion
comes first. -/
theorem exists_pieces (insertion text : List Char) (passed : Nat) (offsets : List Nat) :
    ∃ first later, (first :: later).flatten = text ∧
      splice insertion passed offsets text = insertion.intercalate (first :: later) ∧
      (joints passed (first :: later)).Pairwise (· < ·) ∧
      (∀ joint ∈ joints passed (first :: later), passed ≤ joint) ∧
      (offsets.Pairwise (· < ·) → (∀ offset ∈ offsets, IsBoundary passed text offset) →
        joints passed (first :: later) = offsets) := by
  induction text generalizing passed offsets with
  | nil =>
      refine ⟨[], [], rfl, by simp [splice], List.Pairwise.nil, by simp [joints],
        fun _ inside => ?_⟩
      cases offsets with
      | nil => rfl
      | cons offset offsets =>
          obtain ⟨before, c, after, split, -⟩ := inside offset List.mem_cons_self
          simp at split
  | cons c rest ih =>
      have size : 0 < c.utf8Size := c.utf8Size_pos
      cases offsets with
      | nil =>
          exact ⟨c :: rest, [], by simp, by simp [splice], .nil, by simp [joints],
            fun _ _ => rfl⟩
      | cons offset offsets =>
          by_cases here : offset = passed
          · obtain ⟨first, later, flat, spliced, ascending, lower, exact⟩ :=
              ih (passed + c.utf8Size) offsets
            have split : joints passed ([] :: (c :: first) :: later) =
                passed :: joints (passed + c.utf8Size) (first :: later) := by
              rw [joints, joints_cons_cons, Text.byteLength, Nat.add_zero]
            refine ⟨[], (c :: first) :: later, by simpa using flat, ?_, ?_, ?_,
              fun rising inside => ?_⟩
            · rw [splice, if_pos here, spliced, List.intercalate_cons_cons,
                intercalate_cons_cons_char, List.nil_append]
            · rw [split]
              exact List.pairwise_cons.mpr
                ⟨fun joint member => by have := lower joint member; omega, ascending⟩
            · rw [split]
              exact List.forall_mem_cons.mpr
                ⟨Nat.le_refl _, fun joint member => by have := lower joint member; omega⟩
            · have behind : ∀ other ∈ offsets, offset < other := (List.pairwise_cons.mp rising).1
              rw [split, exact rising.of_cons fun other member =>
                (inside other (List.mem_cons_of_mem _ member)).tail (here ▸ behind other member).ne,
                here]
          · obtain ⟨first, later, flat, spliced, ascending, lower, exact⟩ :=
              ih (passed + c.utf8Size) (offset :: offsets)
            refine ⟨c :: first, later, by simpa using flat, ?_, ?_, ?_, fun rising inside => ?_⟩
            · rw [splice, if_neg here, spliced, intercalate_cons_cons_char]
            · rwa [joints_cons_cons]
            · rw [joints_cons_cons]
              exact fun joint member => by have := lower joint member; omega
            · have behind : ∀ other ∈ offsets, offset < other := (List.pairwise_cons.mp rising).1
              have reached : passed ≤ offset := (inside offset List.mem_cons_self).le
              rw [joints_cons_cons, exact rising fun other member => (inside other member).tail (by
                rcases List.mem_cons.mp member with rfl | member
                · exact Ne.symm here
                · exact (lt_of_le_of_lt reached (behind other member)).ne)]

/-- Splicing at ascending offsets of characters inserts there and nowhere else. -/
theorem spliced_splice (ascending : offsets.Pairwise (· < ·))
    (boundaries : ∀ offset ∈ offsets, IsBoundary 0 text offset) :
    Spliced insertion text offsets (splice insertion 0 offsets text) := by
  obtain ⟨first, later, flat, spliced, -, -, exact⟩ := exists_pieces insertion text 0 offsets
  exact ⟨ascending, first :: later, flat, exact ascending boundaries, spliced⟩

/-- Splicing at any offsets inserts in some places, and does nothing else. -/
theorem exists_spliced_splice (insertion text : List Char) (offsets : List Nat) :
    ∃ points, Spliced insertion text points (splice insertion 0 offsets text) := by
  obtain ⟨first, later, flat, spliced, ascending, -, -⟩ := exists_pieces insertion text 0 offsets
  exact ⟨_, ascending, first :: later, flat, rfl, spliced⟩

/-! ## Splicing at one offset, and in front of a text -/

/-- Splicing at one offset. -/
theorem splice_append_cons (insertion before after : List Char) (c : Char) (passed : Nat) :
    splice insertion passed [passed + Text.byteLength before] (before ++ c :: after) =
      before ++ insertion ++ c :: after := by
  induction before generalizing passed with
  | nil =>
      have rest : splice insertion (passed + c.utf8Size) [] after = after := by
        cases after <;> rfl
      rw [Text.byteLength, Nat.add_zero, List.nil_append, splice, if_pos rfl, rest,
        List.nil_append]
  | cons b before ih =>
      have ahead : passed + Text.byteLength (b :: before) ≠ passed := by
        have := Text.byteLength_pos (List.cons_ne_nil b before)
        omega
      rw [List.cons_append, splice, if_neg ahead, Text.byteLength, ← Nat.add_assoc, ih]
      rfl

/-- Offsets that were passed do nothing. -/
theorem splice_of_lt (insertion text : List Char) (lower : ∀ offset ∈ offsets, offset < passed) :
    splice insertion passed offsets text = text := by
  induction text generalizing passed with
  | nil => rw [splice]
  | cons c rest ih =>
      cases offsets with
      | nil => rfl
      | cons offset offsets =>
          rw [splice, if_neg (lower offset List.mem_cons_self).ne,
            ih fun other member => (lower other member).trans_le (Nat.le_add_right _ _)]

/-- A text behind all offsets is left as it is. -/
theorem exists_splice_append (insertion before after : List Char)
    (lower : ∀ offset ∈ offsets, offset < passed + Text.byteLength before) :
    ∃ front, splice insertion passed offsets (before ++ after) = front ++ after := by
  induction before generalizing passed offsets with
  | nil => exact ⟨[], splice_of_lt insertion after lower⟩
  | cons b before ih =>
      have later (others : List Nat) (subset : others ⊆ offsets) :
          ∃ front, splice insertion (passed + b.utf8Size) others (before ++ after) =
            front ++ after :=
        ih fun other member => by
          rw [Nat.add_assoc]
          exact lower other (subset member)
      cases offsets with
      | nil => exact ⟨b :: before, rfl⟩
      | cons offset offsets =>
          rw [List.cons_append, splice]
          split
          · obtain ⟨front, rest⟩ := later offsets (List.subset_cons_self _ _)
            exact ⟨insertion ++ b :: front, by rw [rest]; simp⟩
          · obtain ⟨front, rest⟩ := later (offset :: offsets) (List.Subset.refl _)
            exact ⟨b :: front, by rw [rest]; rfl⟩

end MigrationLedger.Sql
