/-
# Reading a statement again

A statement is cut out of its script, and what stood around it is gone: the delimiter or
the end of the script behind it, and the blanks at its ends. The module shows that this
changes nothing about how it is read. A part of a script is read alone as it is read in
its place, since a stretch that reaches over the end of the part would have taken the
delimiter in. Blanks in front are code and open nothing. Blanks at the end can only be
code or belong to the last stretch, which is then never closed.

So splitting a statement cuts nothing. It gives the statement back, or nothing at all
when the blanks that were trimmed away were all that made it code.
-/

import MigrationLedger.Proofs.Sql.Segmentation

namespace MigrationLedger.Sql.Script

variable {delimiter text rest later front back : List Char} {c : Char} {piece : Piece}
  {pieces part : List Piece}

/-! ## Characters outside comments -/

/-- The characters of a piece that stand outside comments. A delimiter belongs to no
part of a script. -/
def Piece.outside : Piece → List Char
  | .delimiter => []
  | .code c => [c]
  | .enclosed enclosure body => if enclosure.isQuoted then enclosure.opening ++ body else []

/-- The characters of some pieces that stand outside comments. -/
def outside (pieces : List Piece) : List Char := pieces.flatMap Piece.outside

/-- The characters outside comments that trimming would not remove. -/
def visible (pieces : List Piece) : List Char :=
  (outside pieces).filter fun c => !Text.isBlank c

theorem outside_cons (piece : Piece) (pieces : List Piece) :
    outside (piece :: pieces) = piece.outside ++ outside pieces := rfl

theorem visible_cons (piece : Piece) (pieces : List Piece) :
    visible (piece :: pieces) =
      (piece.outside.filter fun c => !Text.isBlank c) ++ visible pieces := by
  rw [visible, outside_cons, List.filter_append, visible]

theorem visible_ne_nil_iff :
    visible pieces ≠ [] ↔ ∃ c ∈ outside pieces, Text.isBlank c = false := by
  simp [visible, List.filter_eq_nil_iff]

/-- No opening has a blank in it. -/
theorem Enclosure.isBlank_of_mem_opening {enclosure : Enclosure} (member : c ∈ enclosure.opening) :
    Text.isBlank c = false := by
  have none : enclosure.opening.all (fun c => !Text.isBlank c) = true := by
    cases enclosure <;> rfl
  simpa using List.all_eq_true.mp none c member

/-- A piece is code when it has a character outside comments that is no ASCII blank. -/
theorem Piece.isCode_iff :
    piece.isCode = true ↔ ∃ c ∈ piece.outside, Text.isAsciiBlank c = false := by
  cases piece with
  | delimiter => simp [isCode, outside]
  | code c => simp [isCode, outside, Text.any_byte_iff]
  | enclosed enclosure body =>
      cases enclosure <;>
        simp [isCode, outside, Enclosure.isQuoted, Enclosure.opening, Text.isAsciiBlank]

theorem holdsCode_iff :
    holdsCode pieces = true ↔ ∃ c ∈ outside pieces, Text.isAsciiBlank c = false := by
  simp only [holdsCode, List.any_eq_true, Piece.isCode_iff, outside, List.mem_flatMap]
  constructor
  · rintro ⟨piece, member, c, inside, notBlank⟩
    exact ⟨c, ⟨piece, member, inside⟩, notBlank⟩
  · rintro ⟨c, ⟨piece, member, inside⟩, notBlank⟩
    exact ⟨piece, member, c, inside, notBlank⟩

/-- What is visible is code. -/
theorem holdsCode_of_visible (seen : visible pieces ≠ []) : holdsCode pieces = true := by
  obtain ⟨c, member, notBlank⟩ := visible_ne_nil_iff.mp seen
  refine holdsCode_iff.mpr ⟨c, member, ?_⟩
  rw [← Bool.not_eq_true] at notBlank ⊢
  exact fun blank => notBlank (Text.isBlank_of_isAsciiBlank blank)

theorem Piece.outside_subset_text : piece.outside ⊆ piece.text delimiter := by
  cases piece with
  | delimiter => exact List.nil_subset _
  | code c => exact List.Subset.refl _
  | enclosed enclosure body =>
      rw [outside]
      split
      · exact List.Subset.refl _
      · exact List.nil_subset _

/-- In blanks nothing is visible. -/
theorem Reads.visible_eq_nil (reads : Reads delimiter text pieces [])
    (blank : ∀ c ∈ text, Text.isBlank c = true) : visible pieces = [] := by
  have whole := reads.eq_append
  rw [List.append_nil] at whole
  rw [visible, List.filter_eq_nil_iff]
  intro c member
  obtain ⟨piece, inside, outside⟩ := List.mem_flatMap.mp member
  have within : c ∈ text := by
    rw [whole]
    exact List.mem_flatMap.mpr ⟨piece, inside, Piece.outside_subset_text outside⟩
  simp [blank c within]

/-! ## A part without what follows it -/

theorem AtDelimiter.append (here : AtDelimiter delimiter text) :
    AtDelimiter delimiter (text ++ rest) :=
  ⟨here.1, here.2.trans (List.prefix_append text rest)⟩

/-- A piece that ends before the rest begins the text without the rest. -/
theorem Begins.of_append (begins : Begins delimiter (text ++ rest) piece (later ++ rest))
    (other : piece ≠ .delimiter) : Begins delimiter text piece later := by
  cases begins with
  | delimiter => exact absurd rfl other
  | enclosed free split ends =>
      refine .enclosed (mt AtDelimiter.append free) ?_
        ⟨ends.ends.imp_right fun none => (List.append_eq_nil_iff.mp none).1, ends.first⟩
      rw [← List.append_assoc, ← List.append_assoc] at split
      rw [← List.append_assoc]
      exact List.append_cancel_right split
  | code free plain split =>
      refine .code (mt AtDelimiter.append free) (fun enclosure opened => ?_) ?_
      · exact plain enclosure (opened.trans (List.prefix_append text rest))
      · exact List.append_cancel_right (split.trans (List.cons_append).symm)

/-- Pieces without a delimiter are read in the same way when the rest is cut off. -/
theorem Reads.of_append (reads : Reads delimiter (text ++ rest) pieces rest)
    (uncut : .delimiter ∉ pieces) : Reads delimiter text pieces [] := by
  induction pieces generalizing text with
  | nil =>
      have whole := reads.eq_append
      rw [List.flatMap_nil, List.nil_append, List.append_left_eq_self] at whole
      rw [whole]
      exact .done []
  | cons piece pieces ih =>
      rw [List.mem_cons, not_or] at uncut
      obtain _ | ⟨begins, more⟩ := reads
      rw [more.eq_append] at begins more
      exact .cons (begins.of_append (Ne.symm uncut.1)) (ih more uncut.2)

/-- A reading in two parts is two readings. -/
theorem Reads.exists_middle {first second : List Piece}
    (reads : Reads delimiter text (first ++ second) rest) :
    ∃ middle, Reads delimiter text first middle ∧ Reads delimiter middle second rest := by
  induction first generalizing text with
  | nil => exact ⟨text, .done text, reads⟩
  | cons piece first ih =>
      obtain _ | ⟨begins, more⟩ := reads
      obtain ⟨middle, before, after⟩ := ih more
      exact ⟨middle, .cons begins before, after⟩

/-- The parts stand in the pieces, the first one at their beginning, and none of them has
a delimiter. -/
theorem isInfix_of_mem_parts (pieces : List Piece) :
    (∀ first ∈ (parts pieces).head?, first <+: pieces) ∧
      ∀ part ∈ parts pieces, part <:+: pieces ∧ .delimiter ∉ part := by
  induction pieces with
  | nil => simp [parts]
  | cons piece pieces ih =>
      obtain ⟨first, others, same⟩ := List.exists_cons_of_ne_nil
        (List.splitOnP_ne_nil Piece.isDelimiter pieces)
      rw [← parts] at same
      rw [same] at ih
      obtain ⟨atHead, inside⟩ := ih
      have later : ∀ part ∈ first :: others, part <:+: piece :: pieces ∧ .delimiter ∉ part :=
        fun part member => ⟨List.infix_cons (inside part member).1, (inside part member).2⟩
      rw [parts_cons, same]
      split_ifs with cut
      · refine ⟨by simp, fun part member => ?_⟩
        rcases List.mem_cons.mp member with rfl | member
        · exact ⟨List.nil_infix, List.not_mem_nil⟩
        · exact later part member
      · have extended : piece :: first <+: piece :: pieces :=
          List.cons_prefix_cons.mpr ⟨rfl, atHead first rfl⟩
        rw [List.modifyHead_cons]
        refine ⟨by simpa using extended, fun part member => ?_⟩
        rcases List.mem_cons.mp member with rfl | member
        · refine ⟨extended.isInfix, ?_⟩
          rw [List.mem_cons, not_or]
          refine ⟨?_, (later first List.mem_cons_self).2⟩
          rintro rfl
          exact cut rfl
        · exact later part (List.mem_cons_of_mem _ member)

/-- A part of a script is read alone as it is read in the script. -/
theorem reads_part (reads : Reads delimiter text pieces []) (member : part ∈ parts pieces) :
    Reads delimiter (textOf delimiter part) part [] ∧ .delimiter ∉ part := by
  obtain ⟨⟨before, after, rfl⟩, uncut⟩ := (isInfix_of_mem_parts pieces).2 part member
  obtain ⟨middle, upTo, _⟩ := reads.exists_middle
  obtain ⟨start, _, here⟩ := upTo.exists_middle
  have whole := here.eq_append
  rw [whole] at here
  exact ⟨here.of_append uncut, uncut⟩

/-! ## A part without the blanks at its ends -/

/-- Blanks in front are read as code. -/
theorem Reads.exists_of_blank_front (blank : ∀ c ∈ front, Text.isBlank c = true)
    (reads : Reads delimiter (front ++ text) pieces []) (uncut : .delimiter ∉ pieces) :
    ∃ others, Reads delimiter text others [] ∧ .delimiter ∉ others ∧
      visible others = visible pieces := by
  induction front generalizing pieces with
  | nil => exact ⟨pieces, reads, uncut, rfl⟩
  | cons c front ih =>
      rw [List.forall_mem_cons] at blank
      obtain _ | ⟨begins, more⟩ := reads
      rw [List.mem_cons, not_or] at uncut
      cases begins with
      | delimiter => exact absurd rfl uncut.1
      | @enclosed enclosure body later free split ends =>
          obtain ⟨opened, others, same⟩ := List.exists_cons_of_ne_nil enclosure.opening_ne_nil
          rw [same, List.cons_append, List.cons_append, List.cons.injEq] at split
          have notBlank : Text.isBlank opened = false :=
            Enclosure.isBlank_of_mem_opening (same ▸ List.mem_cons_self)
          rw [← split.1, blank.1] at notBlank
          cases notBlank
      | code free plain split =>
          obtain ⟨rfl, rfl⟩ := List.cons.inj split
          obtain ⟨others, again, uncut, seen⟩ := ih blank.2 more uncut.2
          exact ⟨others, again, uncut, by rw [seen, visible_cons]; simp [Piece.outside, blank.1]⟩

/-- An opening does not reach into blanks. -/
theorem exists_of_opening_append {enclosure : Enclosure} {inside : List Char}
    (blank : ∀ c ∈ back, Text.isBlank c = true)
    (split : text ++ back = enclosure.opening ++ inside) :
    ∃ within, text = enclosure.opening ++ within ∧ within ++ back = inside := by
  rcases List.append_eq_append_iff.mp split with ⟨beyond, opening, rfl⟩ | ⟨within, rfl, rfl⟩
  · cases beyond with
    | nil => exact ⟨[], by simpa using opening.symm, rfl⟩
    | cons c beyond =>
        have inOpening : c ∈ enclosure.opening := by
          rw [opening]
          simp
        have notBlank := Enclosure.isBlank_of_mem_opening inOpening
        rw [blank c (by simp)] at notBlank
        cases notBlank
  · exact ⟨within, rfl, rfl⟩

/-- A stretch that loses its end is not closed any more. -/
theorem EndsAtFirst.of_append {mark body beyond : List Char}
    (ends : EndsAtFirst mark (body ++ beyond) rest) : EndsAtFirst mark body [] where
  ends := .inr rfl
  first := by
    intro front within ending
    have whole := ends.first front (within.trans (List.prefix_append body beyond)) ending
    refine within.eq_of_length_le ?_
    rw [whole, List.length_append]
    exact Nat.le_add_right _ _

/-- A stretch that ends within blanks behind a text is the last one of the text, and shows
the same there. -/
theorem reads_of_broken {enclosure : Enclosure} {within beyond : List Char}
    (blank : ∀ c ∈ beyond, Text.isBlank c = true)
    (free : ¬ AtDelimiter delimiter (enclosure.opening ++ within))
    (ends : EndsAtFirst enclosure.closing (within ++ beyond) rest) :
    Reads delimiter (enclosure.opening ++ within) [.enclosed enclosure within] [] ∧
      visible [.enclosed enclosure within] = visible [.enclosed enclosure (within ++ beyond)] := by
  constructor
  · exact .cons (.enclosed free (by simp) ends.of_append) (.done [])
  · have lost : beyond.filter (fun c => !Text.isBlank c) = [] :=
      List.filter_eq_nil_iff.mpr fun c member => by simp [blank c member]
    rw [visible_cons, visible_cons, Piece.outside, Piece.outside]
    split <;> simp [lost]

/-- Blanks at the end are read as code, or they belong to the last stretch. -/
theorem Reads.exists_of_blank_back (blank : ∀ c ∈ back, Text.isBlank c = true)
    (reads : Reads delimiter (text ++ back) pieces []) (uncut : .delimiter ∉ pieces) :
    ∃ others, Reads delimiter text others [] ∧ .delimiter ∉ others ∧
      visible others = visible pieces := by
  induction pieces generalizing text with
  | nil =>
      have empty := (List.append_eq_nil_iff.mp reads.eq_append).1
      rw [empty]
      exact ⟨[], .done [], List.not_mem_nil, rfl⟩
  | cons piece pieces ih =>
      by_cases empty : text = []
      · subst empty
        exact ⟨[], .done [], List.not_mem_nil, (reads.visible_eq_nil blank).symm⟩
      · obtain _ | ⟨begins, more⟩ := reads
        rw [List.mem_cons, not_or] at uncut
        cases begins with
        | delimiter => exact absurd rfl uncut.1
        | code free plain split =>
            obtain ⟨c, within, rfl⟩ := List.exists_cons_of_ne_nil empty
            obtain ⟨rfl, rfl⟩ := List.cons.inj split
            obtain ⟨others, again, still, seen⟩ := ih more uncut.2
            have first : Begins delimiter (c :: within) (.code c) within :=
              Begins.of_append (.code free plain rfl) (Ne.symm uncut.1)
            exact ⟨.code c :: others, .cons first again, by simp [still],
              by rw [visible_cons, visible_cons, seen]⟩
        | @enclosed enclosure body later free split ends =>
            obtain ⟨within, rfl, inside⟩ := exists_of_opening_append blank split
            rcases List.append_eq_append_iff.mp inside with
              ⟨beyond, rfl, behind⟩ | ⟨middle, rfl, rfl⟩
            · -- The stretch ends within the blanks, and so does everything behind it.
              rw [behind, List.forall_mem_append] at blank
              obtain ⟨alone, seen⟩ := reads_of_broken blank.1 (mt AtDelimiter.append free) ends
              refine ⟨_, alone, by simp, ?_⟩
              rw [seen, visible_cons, visible_cons, more.visible_eq_nil blank.2]
              rfl
            · obtain ⟨others, again, still, seen⟩ := ih more uncut.2
              have whole : Begins delimiter (enclosure.opening ++ (body ++ middle) ++ back)
                  (.enclosed enclosure body) (middle ++ back) := .enclosed free (by simp) ends
              have first := whole.of_append (Ne.symm uncut.1)
              exact ⟨.enclosed enclosure body :: others, .cons first again, by simp [still],
                by rw [visible_cons, visible_cons, seen]⟩

/-- A text without a delimiter has none when it is trimmed, and what is visible in it
stays. -/
theorem Reads.exists_of_trim (reads : Reads delimiter text pieces [])
    (uncut : .delimiter ∉ pieces) :
    ∃ others, Reads delimiter (Text.trim text) others [] ∧ .delimiter ∉ others ∧
      visible others = visible pieces := by
  obtain ⟨front, back, split, blank⟩ := (Text.trims_trim text).between
  rw [List.forall_mem_append] at blank
  rw [split, List.append_assoc] at reads
  obtain ⟨middle, reads, uncut, seen⟩ := reads.exists_of_blank_front blank.1 uncut
  obtain ⟨others, reads, uncut, same⟩ := reads.exists_of_blank_back blank.2 uncut
  exact ⟨others, reads, uncut, same.trans seen⟩

/-! ## Splitting again -/

theorem parts_of_uncut (uncut : .delimiter ∉ pieces) : parts pieces = [pieces] := by
  refine List.splitOnP_eq_singleton fun piece member => ?_
  cases piece with
  | delimiter => exact absurd member uncut
  | code c | enclosed enclosure body => rfl

/-- A part of a script that is cut out and trimmed is still read without a delimiter, and
what is visible in it stays. -/
theorem exists_reads_of_mem_parts (reads : Reads delimiter text pieces [])
    (member : part ∈ parts pieces) :
    ∃ own, Reads delimiter (Text.trim (textOf delimiter part)) own [] ∧ .delimiter ∉ own ∧
      visible own = visible part := by
  obtain ⟨alone, uncut⟩ := reads_part reads member
  exact alone.exists_of_trim uncut

/-- A trimmed text that is read without a delimiter is its only statement or has none. -/
theorem statements_of_uncut {statement delimiter : String}
    (reads : Reads delimiter.toList statement.toList pieces []) (uncut : .delimiter ∉ pieces)
    (trimmed : Text.trim statement.toList = statement.toList) :
    statements statement delimiter = if holdsCode pieces then [statement] else [] := by
  have whole := reads.eq_append
  rw [List.append_nil] at whole
  rw [statements_eq reads, parts_of_uncut uncut, List.filter_singleton, Bool.cond_eq_ite]
  split
  · rw [List.map_singleton, textOf, ← whole, trimmed, String.ofList_toList]
  · rfl

theorem trim_trim (text : List Char) : Text.trim (Text.trim text) = Text.trim text := by
  have trims := Text.trims_trim text
  exact (Text.trims_iff.mp ⟨⟨[], [], by simp, by simp⟩, trims.first, trims.last⟩).symm

/-- **Statements are stable under splitting.** A statement of a script has one reading, in
which no delimiter is read. Split with the same delimiter it gives itself or nothing: it
gives nothing exactly when all its characters outside comments are ASCII blanks, and itself
whenever one of them is no blank at all. -/
theorem statements_of_statement {script delimiter statement : String}
    (member : statement ∈ statements script delimiter) :
    ∃ pieces, (∀ others, Reads delimiter.toList statement.toList others [] ↔ others = pieces) ∧
      .delimiter ∉ pieces ∧
      (statements statement delimiter = [statement] ∨ statements statement delimiter = []) ∧
      (statements statement delimiter = [] ↔
        ∀ c ∈ outside pieces, Text.isAsciiBlank c = true) ∧
      ((∃ c ∈ outside pieces, Text.isBlank c = false) →
        statements statement delimiter = [statement]) := by
  obtain ⟨whole, reads⟩ := exists_reads delimiter.toList script.toList
  rw [statements_eq reads, List.mem_map] at member
  obtain ⟨part, kept, rfl⟩ := member
  obtain ⟨pieces, again, uncut, -⟩ := exists_reads_of_mem_parts reads (List.mem_filter.mp kept).1
  rw [← @String.toList_ofList (Text.trim _)] at again
  have split := statements_of_uncut again uncut (by rw [String.toList_ofList, trim_trim])
  refine ⟨pieces, fun others => ⟨fun other => other.unique again, ?_⟩, uncut, ?_, ?_, ?_⟩
  · rintro rfl
    exact again
  · rw [split]
    split
    · exact .inl rfl
    · exact .inr rfl
  · simp [split, holdsCode_iff]
  · intro seen
    rw [split, if_pos (holdsCode_of_visible (visible_ne_nil_iff.mpr seen))]

/-- A statement in front of a blank one, with a delimiter that begins like a comment and
blanks that end a comment. -/
theorem statements_of_dashed :
    "SELECT 1 -- ';" ∈ statements "SELECT 1 -- ';\n\t -;\x0b-;" "-;" ∧
      statements "SELECT 1 -- ';" "-;" = ["SELECT 1 -- ';"] := by
  have member : "SELECT 1 -- ';" ∈ statements "SELECT 1 -- ';\n\t -;\x0b-;" "-;" := by
    have all : statements "SELECT 1 -- ';\n\t -;\x0b-;" "-;" = ["SELECT 1 -- ';", ""] := by cbv
    rw [all]
    exact List.mem_cons_self
  obtain ⟨pieces, -, -, same | none, empty_iff, -⟩ := statements_of_statement member
  · exact ⟨member, same⟩
  · have some : statements "SELECT 1 -- ';" "-;" ≠ [] := by cbv; simp
    exact absurd none some

end MigrationLedger.Sql.Script
