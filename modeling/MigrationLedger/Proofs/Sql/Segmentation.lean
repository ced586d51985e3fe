/-
# Where a script is cut

Cutting a script agrees with its reading in pieces: the segments are what lies between
the delimiters of the reading, and a segment holds code when one of its pieces does.
So the script is its segments with delimiters between them, and its statements are
the segments with code, trimmed. Nothing else is lost, and nothing is moved.

The scanner knows a segment by its last characters first and by a flag, and walks
through a stretch one character at a time. One step of the reading is matched with
the steps that the scanner takes for it; everything else is an induction over the
reading.
-/

import Mathlib.Data.List.Forall2
import MigrationLedger.Proofs.Sql.Pieces
import MigrationLedger.Proofs.Text.ByteOrder
import MigrationLedger.Proofs.Text.Trimming

namespace MigrationLedger

namespace Text

/-- A byte that is an ASCII blank: space, tab, line feed, form feed or carriage
return. -/
def isBlankByte (byte : UInt8) : Bool :=
  byte == 0x20 || byte == 0x09 || byte == 0x0A || byte == 0x0C || byte == 0x0D

theorem isBlankByte_iff (byte : UInt8) :
    isBlankByte byte = true ↔ byte.toNat ∈ [0x20, 0x09, 0x0A, 0x0C, 0x0D] := by
  simp only [isBlankByte, Bool.or_eq_true, beq_iff_eq, ← UInt8.toNat_inj, or_assoc]
  simp

theorem isAsciiBlank_iff (c : Char) :
    isAsciiBlank c = true ↔ c.val.toNat ∈ [0x20, 0x09, 0x0A, 0x0C, 0x0D] := by
  simp [isAsciiBlank, Char.ext_iff, ← UInt32.toNat_inj, or_assoc]

/-- A character is an ASCII blank unless one of its bytes is none. -/
theorem any_byte_iff (c : Char) :
    ((String.utf8EncodeChar c).any fun byte => !isBlankByte byte) = !isAsciiBlank c := by
  have bounded : c.val.toNat < 0x110000 := by
    rcases c.valid with low | ⟨_, high⟩ <;> omega
  rw [Bool.eq_iff_iff]
  simp only [List.any_eq_true, Bool.not_eq_true', ← Bool.not_eq_true, isBlankByte_iff,
    isAsciiBlank_iff]
  unfold String.utf8EncodeChar
  dsimp only
  -- A character below 128 is its only byte. All bytes of another one are at least 128.
  split_ifs
  · have same : (UInt8.ofNat c.val.toNat).toNat = c.val.toNat := by
      rw [UInt8.toNat_ofNat']
      omega
    simp only [List.mem_singleton, exists_eq_left, same]
  all_goals
    simp [UInt8.toNat_ofNat', -Char.toNat_val]
    omega

end Text

/-! ## Texts between cuts -/

section Cuts

variable {α : Type} {cuts : α → Bool} {text : α → List Char} {mark : List Char}
  {item : α} {items : List α}

/-- The texts between those items that cut. -/
def textsBetween (cuts : α → Bool) (text : α → List Char) (items : List α) : List (List Char) :=
  (items.splitOnP cuts).map fun part => part.flatMap text

theorem textsBetween_ne_nil (cuts : α → Bool) (text : α → List Char) (items : List α) :
    textsBetween cuts text items ≠ [] := by
  simp [textsBetween, List.splitOnP_ne_nil]

theorem textsBetween_cons_of_cut (here : cuts item = true) :
    textsBetween cuts text (item :: items) = [] :: textsBetween cuts text items := by
  rw [textsBetween, List.splitOnP_cons_eq_if_modifyHead, if_pos here]
  rfl

theorem textsBetween_cons_of_not (here : cuts item = false) :
    textsBetween cuts text (item :: items) =
      (textsBetween cuts text items).modifyHead (text item ++ ·) := by
  rw [textsBetween, List.splitOnP_cons_eq_if_modifyHead, if_neg (by simp [here]), textsBetween]
  cases items.splitOnP cuts <;> rfl

/-- Items that do not cut belong to the first text. -/
theorem textsBetween_append {front : List α} (without : ∀ item ∈ front, cuts item = false) :
    textsBetween cuts text (front ++ items) =
      (textsBetween cuts text items).modifyHead (front.flatMap text ++ ·) := by
  induction front with
  | nil => cases same : textsBetween cuts text items <;> simp [same]
  | cons item front ih =>
      have later := ih fun other member => without other (List.mem_cons_of_mem _ member)
      rw [List.cons_append, textsBetween_cons_of_not (without item List.mem_cons_self), later,
        List.modifyHead_modifyHead]
      simp [Function.comp_def]

/-- Putting the mark between the texts again gives all items back. -/
theorem intercalate_textsBetween (marks : ∀ item ∈ items, cuts item = true → text item = mark) :
    mark.intercalate (textsBetween cuts text items) = items.flatMap text := by
  induction items with
  | nil => rfl
  | cons item items ih =>
      have later := ih fun other member => marks other (List.mem_cons_of_mem _ member)
      obtain ⟨first, others, same⟩ := List.exists_cons_of_ne_nil
        (textsBetween_ne_nil cuts text items)
      rw [List.flatMap_cons, ← later]
      cases here : cuts item with
      | true =>
          rw [textsBetween_cons_of_cut here, same, List.intercalate_cons_cons,
            marks item List.mem_cons_self here, List.nil_append]
      | false =>
          rw [textsBetween_cons_of_not here, same, List.modifyHead_cons]
          cases others <;> simp [List.intercalate_cons_cons]

/-- There is one text more than there are cuts. -/
theorem length_splitOnP (items : List α) :
    (items.splitOnP cuts).length = items.countP cuts + 1 := by
  induction items with
  | nil => rfl
  | cons item items ih =>
      rw [List.splitOnP_cons_eq_if_modifyHead, List.countP_cons]
      cases here : cuts item with
      | true => simp [ih]
      | false => simp [ih]

end Cuts

namespace Sql.Script

/-- A delimiter cuts. -/
def Piece.isDelimiter : Piece → Bool
  | .delimiter => true
  | .code _ | .enclosed _ _ => false

/-- The piece is code: a character with a byte that is no ASCII blank, or what an
opening quote begins. -/
def Piece.isCode : Piece → Bool
  | .delimiter => false
  | .code c => (String.utf8EncodeChar c).any fun byte => !Text.isBlankByte byte
  | .enclosed enclosure _ => enclosure.isQuoted

/-- What a script is cut into: the pieces between delimiters. -/
def parts (pieces : List Piece) : List (List Piece) := pieces.splitOnP Piece.isDelimiter

/-- The characters of some pieces. -/
def textOf (delimiter : List Char) (pieces : List Piece) : List Char :=
  pieces.flatMap (Piece.text delimiter)

/-- One of the pieces is code. -/
def holdsCode (pieces : List Piece) : Bool := pieces.any Piece.isCode

/-- The segment that some pieces make up. -/
def segmentOf (delimiter : List Char) (pieces : List Piece) : Segment :=
  ⟨textOf delimiter pieces, holdsCode pieces⟩

variable {delimiter text later body rest current : List Char} {hasCode : Bool} {c : Char}
  {piece : Piece} {pieces : List Piece} {enclosure : Enclosure}

/-! ## Steps of the scanner -/

/-- The region that a scanner is in within a stretch. -/
def Enclosure.region : Enclosure → Region
  | .quotedText => .quotedText
  | .quotedName => .quotedName
  | .lineComment => .lineComment
  | .blockComment => .blockComment

theorem segmentsFrom_nil (region : Region) :
    segmentsFrom delimiter region current hasCode [] = [⟨current.reverse, hasCode⟩] := by
  rw [segmentsFrom]

/-- Within a stretch the scanner looks for the closing and nothing else. -/
theorem segmentsFrom_region_cons (enclosure : Enclosure) (c : Char) (rest : List Char) :
    segmentsFrom delimiter enclosure.region current hasCode (c :: rest) =
      if enclosure.closing <+: c :: rest then
        segmentsFrom delimiter .code (enclosure.closing.reverse ++ current) hasCode
          ((c :: rest).drop enclosure.closing.length)
      else segmentsFrom delimiter enclosure.region (c :: current) hasCode rest := by
  cases enclosure with
  | quotedText | quotedName | lineComment =>
      rw [Enclosure.region, segmentsFrom]
      simp only [Enclosure.closing, List.cons_prefix_cons, List.nil_prefix, and_true,
        eq_comm (a := c)]
      split_ifs with closed
      · subst closed
        rfl
      · rfl
  | blockComment =>
      rw [Enclosure.region, segmentsFrom]
      cases rest with
      | nil => simp [Enclosure.closing]
      | cons d rest =>
          simp only [Enclosure.closing, List.cons_prefix_cons, List.nil_prefix, and_true,
            eq_comm (a := c), List.head?_cons, Option.some.injEq, eq_comm (a := d)]
          split_ifs with closed
          · obtain ⟨rfl, rfl⟩ := closed
            rfl
          · rfl

/-- The scanner leaves a stretch behind its first closing. -/
theorem segmentsFrom_region (enclosure : Enclosure)
    (ends : EndsAtFirst enclosure.closing body later) :
    segmentsFrom delimiter enclosure.region current hasCode (body ++ later) =
      segmentsFrom delimiter .code (body.reverse ++ current) hasCode later := by
  induction body generalizing current with
  | nil =>
      obtain rfl := (endsAtFirst_nil_iff enclosure.closing_ne_nil).mp ends
      simp [segmentsFrom_nil]
  | cons c body ih =>
      rw [List.cons_append, segmentsFrom_region_cons]
      rcases (endsAtFirst_cons_iff enclosure.closing_ne_nil).mp ends with closed | ⟨open_, ends⟩
      · rw [closed, if_pos ⟨later, rfl⟩, ← List.cons_append, List.drop_left]
      · rw [if_neg open_, ih ends, List.reverse_cons, List.append_assoc]
        rfl

theorem atDelimiter_iff :
    AtDelimiter delimiter text ↔ delimiter ≠ [] ∧ delimiter.isPrefixOf text = true := by
  rw [AtDelimiter, List.isPrefixOf_iff_prefix]

/-- An opening leads into its stretch. -/
theorem segmentsFrom_opening (enclosure : Enclosure)
    (free : ¬ AtDelimiter delimiter (enclosure.opening ++ rest)) :
    segmentsFrom delimiter .code current hasCode (enclosure.opening ++ rest) =
      segmentsFrom delimiter enclosure.region (enclosure.opening.reverse ++ current)
        (hasCode || enclosure.isQuoted) rest := by
  rw [atDelimiter_iff] at free
  cases enclosure with
  | quotedText | quotedName =>
      rw [Enclosure.opening, List.singleton_append] at free ⊢
      rw [segmentsFrom, if_neg free, if_neg (by simp), if_neg (by simp)]
      rfl
  | lineComment =>
      rw [Enclosure.opening, List.cons_append, List.singleton_append] at free ⊢
      rw [segmentsFrom, if_neg free, if_pos ⟨rfl, rfl⟩, Enclosure.isQuoted, Bool.or_false]
      rfl
  | blockComment =>
      rw [Enclosure.opening, List.cons_append, List.singleton_append] at free ⊢
      rw [segmentsFrom, if_neg free, if_neg (by simp), if_pos ⟨rfl, rfl⟩, Enclosure.isQuoted,
        Bool.or_false]
      rfl

/-- A character that opens nothing is one step. -/
theorem segmentsFrom_code (free : ¬ AtDelimiter delimiter (c :: rest))
    (plain : ∀ enclosure : Enclosure, ¬ enclosure.opening <+: c :: rest) :
    segmentsFrom delimiter .code current hasCode (c :: rest) =
      segmentsFrom delimiter .code (c :: current) (hasCode || !Text.isAsciiBlank c) rest := by
  rw [atDelimiter_iff] at free
  have noQuote : Region.afterCode c = .code := by
    have text := plain .quotedText
    have name := plain .quotedName
    simp only [Enclosure.opening, List.cons_prefix_cons, List.nil_prefix, and_true] at text name
    rw [Region.afterCode, if_neg (Ne.symm text), if_neg (Ne.symm name)]
  have noLine : ¬ (c = '-' ∧ rest.head? = some '-') := by
    rintro ⟨rfl, next⟩
    obtain ⟨others, rfl⟩ := List.head?_eq_some_iff.mp next
    exact plain .lineComment ⟨others, rfl⟩
  have noBlock : ¬ (c = '/' ∧ rest.head? = some '*') := by
    rintro ⟨rfl, next⟩
    obtain ⟨others, rfl⟩ := List.head?_eq_some_iff.mp next
    exact plain .blockComment ⟨others, rfl⟩
  rw [segmentsFrom, if_neg free, if_neg noLine, if_neg noBlock, noQuote]

/-- One piece of the reading is so many steps of the scanner. -/
theorem segmentsFrom_of_begins (begins : Begins delimiter text piece later) :
    segmentsFrom delimiter .code current hasCode text =
      if piece.isDelimiter then
        ⟨current.reverse, hasCode⟩ :: segmentsFrom delimiter .code [] false later
      else
        segmentsFrom delimiter .code ((piece.text delimiter).reverse ++ current)
          (hasCode || piece.isCode) later := by
  cases begins with
  | delimiter nonempty split =>
      obtain ⟨d, others, rfl⟩ := List.exists_cons_of_ne_nil nonempty
      rw [split, List.cons_append, segmentsFrom, if_pos (by simp)]
      simp [Piece.isDelimiter]
  | @enclosed enclosure _ _ free split ends =>
      rw [split] at free ⊢
      rw [segmentsFrom_opening enclosure free, segmentsFrom_region enclosure ends,
        if_neg (by simp [Piece.isDelimiter]), Piece.text, Piece.isCode, List.reverse_append,
        List.append_assoc]
  | code free plain split =>
      rw [split] at free plain ⊢
      rw [segmentsFrom_code free plain, if_neg (by simp [Piece.isDelimiter]), Piece.text,
        Piece.isCode, Text.any_byte_iff]
      rfl

/-! ## The whole script -/

theorem parts_cons (piece : Piece) (pieces : List Piece) :
    parts (piece :: pieces) =
      if piece.isDelimiter then [] :: parts pieces
      else (parts pieces).modifyHead (piece :: ·) := by
  rw [parts, List.splitOnP_cons_eq_if_modifyHead]
  rfl

/-- A character of the segment so far may as well be read with what follows. -/
theorem segmentOf_cons (piece : Piece) (pieces : List Piece) :
    segmentOf delimiter (piece :: pieces) =
      ⟨piece.text delimiter ++ (segmentOf delimiter pieces).text,
        piece.isCode || (segmentOf delimiter pieces).hasCode⟩ := rfl

/-- From code, the segments of a script are those of its reading, and what was read
before belongs to the first one. -/
theorem segmentsFrom_eq (reads : Reads delimiter text pieces []) :
    segmentsFrom delimiter .code current hasCode text =
      ((parts pieces).map (segmentOf delimiter)).modifyHead fun segment =>
        ⟨current.reverse ++ segment.text, hasCode || segment.hasCode⟩ := by
  induction pieces generalizing text current hasCode with
  | nil =>
      cases reads
      simp [segmentsFrom_nil, parts, segmentOf, textOf, holdsCode]
  | cons piece pieces ih =>
      obtain _ | ⟨begins, more⟩ := reads
      obtain ⟨first, others, same⟩ := List.exists_cons_of_ne_nil
        (List.splitOnP_ne_nil Piece.isDelimiter pieces)
      rw [segmentsFrom_of_begins begins, parts_cons, ih more, ih more, parts, same]
      split_ifs with cut
      · simp [segmentOf, textOf, holdsCode]
      · simp [segmentOf_cons, Bool.or_assoc]

theorem segments_eq {script delimiter : String}
    (reads : Reads delimiter.toList script.toList pieces []) :
    segments script delimiter = (parts pieces).map (segmentOf delimiter.toList) := by
  rw [segments, segmentsFrom_eq reads]
  obtain ⟨first, others, same⟩ := List.exists_cons_of_ne_nil
    (List.splitOnP_ne_nil Piece.isDelimiter pieces)
  rw [parts, same]
  simp

/-- The statements of a script are the parts with code, trimmed. -/
theorem statements_eq {script delimiter : String}
    (reads : Reads delimiter.toList script.toList pieces []) :
    statements script delimiter =
      ((parts pieces).filter holdsCode).map fun part =>
        String.ofList (Text.trim (textOf delimiter.toList part)) := by
  rw [statements, segments_eq reads, List.filter_map, List.map_map]
  rfl

/-- Only a delimiter is a cut, so the texts of the parts with the delimiter between
them are the text that was read. -/
theorem intercalate_parts (reads : Reads delimiter text pieces []) :
    delimiter.intercalate ((parts pieces).map (textOf delimiter)) = text := by
  have marks : ∀ piece ∈ pieces, piece.isDelimiter = true → piece.text delimiter = delimiter := by
    intro piece _ cut
    cases piece with
    | delimiter => rfl
    | code c | enclosed enclosure body => cases cut
  have whole := reads.eq_append
  rw [List.append_nil] at whole
  rw [whole]
  exact intercalate_textsBetween marks

theorem length_parts (pieces : List Piece) :
    (parts pieces).length = pieces.count .delimiter + 1 := by
  have same : (fun piece : Piece => piece.isDelimiter) = (· == .delimiter) := by
    funext piece
    cases piece <;> rfl
  rw [parts, length_splitOnP, List.count, ← same]

/-- A script has exactly one reading. Its parts with the delimiter between them are the
script, there is one part more than there are delimiters (and none is read where the
delimiter is empty), and the statements are, in order, the parts that hold code
without the blanks at their ends. -/
theorem exists_reading_of_statements (script delimiter : String) :
    ∃ pieces, (∀ others, Reads delimiter.toList script.toList others [] ↔ others = pieces) ∧
      delimiter.toList.intercalate ((parts pieces).map (textOf delimiter.toList)) =
        script.toList ∧
      (parts pieces).length = pieces.count .delimiter + 1 ∧
      (delimiter = "" → Piece.delimiter ∉ pieces) ∧
      List.Forall₂ (fun part (statement : String) =>
          Text.Trims (textOf delimiter.toList part) statement.toList)
        ((parts pieces).filter holdsCode) (statements script delimiter) := by
  obtain ⟨pieces, reads⟩ := exists_reads delimiter.toList script.toList
  refine ⟨pieces, fun others => ⟨fun other => other.unique reads, ?_⟩,
    intercalate_parts reads, length_parts pieces, ?_, ?_⟩
  · rintro rfl
    exact reads
  · rintro rfl
    exact reads.delimiter_not_mem
  · rw [statements_eq reads, List.forall₂_map_right_iff, List.forall₂_same]
    intro part _
    rw [String.toList_ofList]
    exact Text.trims_trim _

/-- A delimiter is tried before a comment and before a quote. -/
example : statements "SELECT 1--;SELECT ';--' --" "--" = ["SELECT 1", ";SELECT ';--'"] := by
  cbv

end Sql.Script

end MigrationLedger
