/-
# Statements that hold nothing

A segment is kept when it holds a character outside comments that is no ASCII blank, and
trimmed of all blanks afterwards. There are more blanks than ASCII blanks: a segment of
such blanks and comments is kept, and the statement that comes of it is empty or a mere
comment. The main statement says that this is the only way in which a statement can hold
nothing: every other statement shows all that was visible in its segment.
-/

import MigrationLedger.Proofs.Sql.Rereading

namespace MigrationLedger.Sql.Script

/-- A text holds a character outside comments that is no blank. -/
def HoldsVisible (text delimiter : String) : Prop :=
  ∃ pieces, Reads delimiter.toList text.toList pieces [] ∧
    ∃ c ∈ outside pieces, Text.isBlank c = false

/-- No statement of a script is empty, and each of them holds a character outside
comments that is no blank. -/
def NoneBlank (script delimiter : String) : Prop :=
  ∀ statement ∈ statements script delimiter,
    statement ≠ "" ∧ HoldsVisible statement delimiter

variable {text script delimiter : String} {pieces part : List Piece}

theorem holdsVisible_iff (reads : Reads delimiter.toList text.toList pieces []) :
    HoldsVisible text delimiter ↔ visible pieces ≠ [] := by
  rw [visible_ne_nil_iff]
  constructor
  · rintro ⟨others, other, seen⟩
    rwa [other.unique reads] at seen
  · exact fun seen => ⟨pieces, reads, seen⟩

theorem HoldsVisible.ne_empty (holds : HoldsVisible text delimiter) : text ≠ "" := by
  rintro rfl
  obtain ⟨pieces, reads, c, member, -⟩ := holds
  rw [reads.unique (.done [])] at member
  cases member

/-- A statement holds something visible when its part of the script does. -/
theorem holdsVisible_part_iff (reads : Reads delimiter.toList script.toList pieces [])
    (member : part ∈ parts pieces) :
    HoldsVisible (String.ofList (Text.trim (textOf delimiter.toList part))) delimiter ↔
      visible part ≠ [] := by
  obtain ⟨own, again, -, same⟩ := exists_reads_of_mem_parts reads member
  rw [← same]
  exact holdsVisible_iff (by rwa [String.toList_ofList])

/-- **The statements that hold nothing.** A script has one reading. Its statements stand,
in order, for the parts with a character outside comments that is no ASCII blank, and
what is visible in a statement is what is visible in its part. So no statement is empty or
without a visible character outside comments exactly when each part of the script that has
only blanks outside comments has only ASCII blanks there. -/
theorem noneBlank_iff (script delimiter : String) :
    ∃ pieces, (∀ others, Reads delimiter.toList script.toList others [] ↔ others = pieces) ∧
      List.Forall₂ (fun part (statement : String) =>
          ∃ own, Reads delimiter.toList statement.toList own [] ∧ visible own = visible part)
        ((parts pieces).filter fun part => (outside part).any fun c => !Text.isAsciiBlank c)
        (statements script delimiter) ∧
      (NoneBlank script delimiter ↔
        ∀ part ∈ parts pieces, (∀ c ∈ outside part, Text.isBlank c = true) →
          ∀ c ∈ outside part, Text.isAsciiBlank c = true) := by
  obtain ⟨pieces, reads⟩ := exists_reads delimiter.toList script.toList
  have kept : (fun part => (outside part).any fun c => !Text.isAsciiBlank c) = holdsCode := by
    funext part
    rw [Bool.eq_iff_iff, holdsCode_iff]
    simp
  refine ⟨pieces, fun others => ⟨fun other => other.unique reads, ?_⟩, ?_, ?_⟩
  · rintro rfl
    exact reads
  · rw [kept, statements_eq reads, List.forall₂_map_right_iff, List.forall₂_same]
    intro part member
    obtain ⟨own, again, -, same⟩ := exists_reads_of_mem_parts reads (List.mem_filter.mp member).1
    exact ⟨own, by rwa [String.toList_ofList], same⟩
  · have noneBlank_iff_visible : NoneBlank script delimiter ↔
        ∀ part ∈ parts pieces, holdsCode part = true → visible part ≠ [] := by
      rw [NoneBlank, statements_eq reads, List.forall_mem_map]
      simp only [List.mem_filter, and_imp]
      refine forall₂_congr fun part member => forall_congr' fun _ => ?_
      rw [← holdsVisible_part_iff reads member]
      exact ⟨And.right, fun holds => ⟨holds.ne_empty, holds⟩⟩
    rw [noneBlank_iff_visible]
    refine forall₂_congr fun part _ => ?_
    rw [← not_imp_not, visible_ne_nil_iff, holdsCode_iff]
    simp

/-- A script that is one vertical tab has an empty statement. -/
theorem not_noneBlank_verticalTab :
    statements "\x0b" ";" = [""] ∧ ¬ NoneBlank "\x0b" ";" := by
  have only : statements "\x0b" ";" = [""] := by cbv
  refine ⟨only, fun none => ?_⟩
  exact (none "" (only ▸ List.mem_cons_self)).1 rfl

end MigrationLedger.Sql.Script
