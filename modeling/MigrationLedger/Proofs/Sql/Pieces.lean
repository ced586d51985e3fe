/-
# The pieces of a script

What a script is made of, described without the scanner that cuts it: delimiters,
single characters of code, and stretches in which a delimiter does not count. A
stretch begins with its opening and lasts up to the first of its closings, or to the
end of the script if it is never closed. In code the delimiter is looked for first,
then the openings.

Every text begins with exactly one piece, so a script is read in exactly one way. A
reading may stop in the middle of a script, so that readings of parts can be joined.
-/

import MigrationLedger.Sql.Script

namespace MigrationLedger.Sql.Script

/-- The kinds of stretches in which a delimiter does not count. -/
inductive Enclosure
  | quotedText
  | quotedName
  | lineComment
  | blockComment
  deriving DecidableEq, Repr

namespace Enclosure

/-- What a stretch begins with. -/
def opening : Enclosure → List Char
  | .quotedText => ['\'']
  | .quotedName => ['"']
  | .lineComment => ['-', '-']
  | .blockComment => ['/', '*']

/-- What a stretch ends with. -/
def closing : Enclosure → List Char
  | .quotedText => ['\'']
  | .quotedName => ['"']
  | .lineComment => ['\n']
  | .blockComment => ['*', '/']

/-- The stretch is opened by a quote, which is code. -/
def isQuoted : Enclosure → Bool
  | .quotedText | .quotedName => true
  | .lineComment | .blockComment => false

theorem opening_ne_nil (enclosure : Enclosure) : enclosure.opening ≠ [] := by
  cases enclosure <;> exact List.cons_ne_nil _ _

theorem closing_ne_nil (enclosure : Enclosure) : enclosure.closing ≠ [] := by
  cases enclosure <;> exact List.cons_ne_nil _ _

/-- No opening begins with another one. -/
theorem eq_of_opening_isPrefix {a b : Enclosure} {text : List Char}
    (first : a.opening <+: text) (second : b.opening <+: text) : a = b := by
  obtain ⟨_, rfl⟩ := first
  cases a <;> cases b <;> simp [opening] at second ⊢

end Enclosure

/-- One piece of a script. The closing of a stretch belongs to its body. -/
inductive Piece
  | delimiter
  | code (c : Char)
  | enclosed (enclosure : Enclosure) (body : List Char)
  deriving DecidableEq, Repr

/-- The characters of a piece. -/
def Piece.text (delimiter : List Char) : Piece → List Char
  | .delimiter => delimiter
  | .code c => [c]
  | .enclosed enclosure body => enclosure.opening ++ body

/-- Of a text that goes on with `rest`, `body` is everything up to and including the
first `mark`: nothing shorter ends with the mark. Without a mark it is everything. -/
structure EndsAtFirst (mark body rest : List Char) : Prop where
  ends : mark <:+ body ∨ rest = []
  first : ∀ front, front <+: body → mark <:+ front → front = body

/-- A delimiter stands at the beginning of the text. An empty one stands nowhere. -/
def AtDelimiter (delimiter text : List Char) : Prop :=
  delimiter ≠ [] ∧ delimiter <+: text

/-- The first piece of a text that is read from code, and the text behind it. -/
inductive Begins (delimiter text : List Char) : Piece → List Char → Prop
  | /-- The delimiter is tried before anything else. -/
    delimiter {later : List Char} (nonempty : delimiter ≠ []) (split : text = delimiter ++ later) :
      Begins delimiter text .delimiter later
  | /-- An opening begins a stretch up to the first closing. -/
    enclosed {enclosure : Enclosure} {body later : List Char} (free : ¬ AtDelimiter delimiter text)
      (split : text = enclosure.opening ++ (body ++ later))
      (ends : EndsAtFirst enclosure.closing body later) :
      Begins delimiter text (.enclosed enclosure body) later
  | /-- Any other character stands for itself. -/
    code {c : Char} {later : List Char} (free : ¬ AtDelimiter delimiter text)
      (plain : ∀ enclosure : Enclosure, ¬ enclosure.opening <+: text) (split : text = c :: later) :
      Begins delimiter text (.code c) later

/-- A text is read as some pieces up to a rest. -/
inductive Reads (delimiter : List Char) : List Char → List Piece → List Char → Prop
  | /-- Nothing more is read. -/
    done (rest : List Char) : Reads delimiter rest [] rest
  | /-- The first piece, then those of the text behind it. -/
    cons {text later rest : List Char} {piece : Piece} {pieces : List Piece}
      (begins : Begins delimiter text piece later) (more : Reads delimiter later pieces rest) :
      Reads delimiter text (piece :: pieces) rest

variable {mark body rest text later delimiter : List Char} {c : Char}
  {piece : Piece} {pieces : List Piece}

/-! ## Up to the first mark -/

theorem endsAtFirst_nil_iff (nonempty : mark ≠ []) : EndsAtFirst mark [] rest ↔ rest = [] := by
  constructor
  · intro here
    exact here.ends.resolve_left fun ending => nonempty (List.suffix_nil.mp ending)
  · rintro rfl
    exact ⟨.inr rfl, fun front within _ => List.prefix_nil.mp within⟩

/-- A text ends at its first mark if it is the mark, or if no mark stands at its
beginning and what follows its first character ends at the first mark. -/
theorem endsAtFirst_cons_iff (nonempty : mark ≠ []) :
    EndsAtFirst mark (c :: body) rest ↔
      mark = c :: body ∨ ¬ mark <+: c :: (body ++ rest) ∧ EndsAtFirst mark body rest := by
  constructor
  · intro here
    by_cases begins : mark <+: c :: (body ++ rest)
    · have within : mark <+: c :: body := by
        rcases here.ends with ending | rfl
        · exact List.prefix_of_prefix_length_le begins
            (List.prefix_append (c :: body) rest) ending.length_le
        · rwa [List.append_nil] at begins
      exact .inl (here.first mark within (List.suffix_refl mark))
    · refine .inr ⟨begins, ?_, fun front within ending => ?_⟩
      · refine here.ends.imp_left fun ending => ?_
        refine (List.suffix_cons_iff.mp ending).resolve_left fun whole => begins ?_
        rw [whole]
        exact List.prefix_append (c :: body) rest
      · have longer := here.first (c :: front) (List.cons_prefix_cons.mpr ⟨rfl, within⟩)
          (List.suffix_cons_iff.mpr (.inr ending))
        exact (List.cons.inj longer).2
  · rintro (rfl | ⟨before, here⟩)
    · exact ⟨.inl (List.suffix_refl _), fun front within ending =>
        within.eq_of_length_le ending.length_le⟩
    · refine ⟨here.ends.imp_left fun ending => List.suffix_cons_iff.mpr (.inr ending), ?_⟩
      intro front within ending
      cases front with
      | nil => exact absurd (List.suffix_nil.mp ending) nonempty
      | cons d front =>
          obtain ⟨rfl, inside⟩ := List.cons_prefix_cons.mp within
          rcases List.suffix_cons_iff.mp ending with rfl | ending
          · exact absurd (within.trans (List.prefix_append (d :: body) rest)) before
          · rw [here.first front inside ending]

/-- Every text has a part up to its first mark. -/
theorem exists_endsAtFirst (nonempty : mark ≠ []) (text : List Char) :
    ∃ body rest, text = body ++ rest ∧ EndsAtFirst mark body rest := by
  induction text with
  | nil => exact ⟨[], [], rfl, (endsAtFirst_nil_iff nonempty).mpr rfl⟩
  | cons c text ih =>
      by_cases begins : mark <+: c :: text
      · obtain ⟨rest, same⟩ := begins
        obtain ⟨d, body, rfl⟩ := List.exists_cons_of_ne_nil nonempty
        exact ⟨d :: body, rest, same.symm, (endsAtFirst_cons_iff nonempty).mpr (.inl rfl)⟩
      · obtain ⟨body, rest, rfl, ends⟩ := ih
        exact ⟨c :: body, rest, rfl, (endsAtFirst_cons_iff nonempty).mpr (.inr ⟨begins, ends⟩)⟩

/-- A part that ends with the mark, or with the text, is the longest beginning that
ends at the first mark. -/
theorem EndsAtFirst.eq_of_isPrefix {body' : List Char} (here : EndsAtFirst mark body rest)
    (there : EndsAtFirst mark body' later) (same : body ++ rest = body' ++ later)
    (within : body <+: body') : body = body' := by
  rcases here.ends with ending | rfl
  · exact there.first body within ending
  · refine within.eq_of_length_le ?_
    have := congrArg List.length same
    simp only [List.append_nil, List.length_append] at this
    omega

/-- There is only one such part. -/
theorem EndsAtFirst.unique {body' : List Char} (here : EndsAtFirst mark body rest)
    (there : EndsAtFirst mark body' later) (same : body ++ rest = body' ++ later) :
    body = body' ∧ rest = later := by
  have parts : body = body' := by
    rcases List.append_eq_append_iff.mp same with ⟨more, longer, _⟩ | ⟨more, longer, _⟩
    · exact here.eq_of_isPrefix there same ⟨more, longer.symm⟩
    · exact (there.eq_of_isPrefix here same.symm ⟨more, longer.symm⟩).symm
  subst parts
  exact ⟨rfl, List.append_cancel_left same⟩

/-! ## The first piece -/

theorem Begins.eq_append (begins : Begins delimiter text piece later) :
    text = piece.text delimiter ++ later := by
  cases begins with
  | delimiter _ split => exact split
  | enclosed _ split _ => rw [split, Piece.text, List.append_assoc]
  | code _ _ split => exact split

/-- A piece has at least one character. -/
theorem Begins.text_ne_nil (begins : Begins delimiter text piece later) :
    piece.text delimiter ≠ [] := by
  cases begins with
  | delimiter nonempty _ => exact nonempty
  | @enclosed enclosure body _ _ _ _ =>
      exact List.append_ne_nil_of_left_ne_nil enclosure.opening_ne_nil body
  | code _ _ _ => exact List.cons_ne_nil _ _

theorem Begins.length_lt (begins : Begins delimiter text piece later) :
    later.length < text.length := by
  rw [begins.eq_append, List.length_append]
  exact Nat.lt_add_of_pos_left (List.length_pos_iff.mpr begins.text_ne_nil)

/-- Every text but the empty one begins with a piece. -/
theorem exists_begins (delimiter : List Char) (c : Char) (text : List Char) :
    ∃ piece later, Begins delimiter (c :: text) piece later := by
  by_cases cut : AtDelimiter delimiter (c :: text)
  · obtain ⟨nonempty, later, same⟩ := cut
    exact ⟨.delimiter, later, .delimiter nonempty same.symm⟩
  · by_cases opened : ∃ enclosure : Enclosure, enclosure.opening <+: c :: text
    · obtain ⟨enclosure, inside, same⟩ := opened
      obtain ⟨body, later, rfl, ends⟩ := exists_endsAtFirst enclosure.closing_ne_nil inside
      exact ⟨.enclosed enclosure body, later, .enclosed cut same.symm ends⟩
    · exact ⟨.code c, text, .code cut (not_exists.mp opened) rfl⟩

/-- A text begins with one piece only. -/
theorem Begins.unique {piece' : Piece} {later' : List Char}
    (first : Begins delimiter text piece later) (second : Begins delimiter text piece' later') :
    piece = piece' ∧ later = later' := by
  cases first with
  | delimiter nonempty split =>
      have cut : AtDelimiter delimiter text := ⟨nonempty, later, split.symm⟩
      cases second with
      | delimiter _ split' => exact ⟨rfl, List.append_cancel_left (split.symm.trans split')⟩
      | enclosed free _ _ | code free _ _ => exact absurd cut free
  | enclosed free split ends =>
      cases second with
      | delimiter nonempty split' => exact absurd ⟨nonempty, later', split'.symm⟩ free
      | enclosed _ split' ends' =>
          obtain rfl := Enclosure.eq_of_opening_isPrefix ⟨_, split.symm⟩ ⟨_, split'.symm⟩
          have same := List.append_cancel_left (split.symm.trans split')
          obtain ⟨rfl, rfl⟩ := ends.unique ends' same
          exact ⟨rfl, rfl⟩
      | code _ plain _ => exact absurd ⟨_, split.symm⟩ (plain _)
  | code free plain split =>
      cases second with
      | delimiter nonempty split' => exact absurd ⟨nonempty, later', split'.symm⟩ free
      | enclosed _ split' _ => exact absurd ⟨_, split'.symm⟩ (plain _)
      | code _ _ split' =>
          obtain ⟨rfl, rfl⟩ := List.cons.inj (split.symm.trans split')
          exact ⟨rfl, rfl⟩

/-! ## Readings -/

namespace Reads

/-- Readings of two parts make a reading of the whole. -/
theorem append {middle : List Char} {others : List Piece}
    (first : Reads delimiter text pieces middle) (second : Reads delimiter middle others rest) :
    Reads delimiter text (pieces ++ others) rest := by
  induction first with
  | done => exact second
  | cons begins _ ih => exact .cons begins (ih second)

/-- A reading loses no character and adds none. -/
theorem eq_append (reads : Reads delimiter text pieces rest) :
    text = pieces.flatMap (Piece.text delimiter) ++ rest := by
  induction reads with
  | done => rfl
  | cons begins _ ih => rw [begins.eq_append, ih, List.flatMap_cons, List.append_assoc]

/-- There is one reading up to the end. -/
theorem unique {others : List Piece} (first : Reads delimiter text pieces [])
    (second : Reads delimiter text others []) : pieces = others := by
  induction pieces generalizing text others with
  | nil =>
      cases first
      cases second with
      | done => rfl
      | cons begins _ => exact absurd begins.length_lt (Nat.not_lt_zero _)
  | cons piece pieces ih =>
      obtain _ | ⟨begins, more⟩ := first
      cases second with
      | done => exact absurd begins.length_lt (Nat.not_lt_zero _)
      | cons begins' more' =>
          obtain ⟨rfl, rfl⟩ := begins.unique begins'
          rw [ih more more']

/-- Without a delimiter nothing is read as one. -/
theorem delimiter_not_mem (reads : Reads [] text pieces rest) : Piece.delimiter ∉ pieces := by
  induction reads with
  | done => exact List.not_mem_nil
  | cons begins _ ih =>
      cases begins with
      | delimiter nonempty _ => exact absurd rfl nonempty
      | enclosed _ _ _ | code _ _ _ => simpa using ih

end Reads

/-- Every script can be read to its end. -/
theorem exists_reads (delimiter text : List Char) : ∃ pieces, Reads delimiter text pieces [] := by
  induction size : text.length using Nat.strongRecOn generalizing text with
  | ind bound ih =>
      cases text with
      | nil => exact ⟨[], .done []⟩
      | cons c text =>
          obtain ⟨piece, later, begins⟩ := exists_begins delimiter c text
          obtain ⟨pieces, more⟩ := ih later.length (size ▸ begins.length_lt) later rfl
          exact ⟨piece :: pieces, .cons begins more⟩

end MigrationLedger.Sql.Script
