/-
# Scanning a script by its bytes

A script can be cut without decoding it: the scanner looks at one byte after the other,
compares raw bytes with the delimiter, and remembers offsets. Only the slices that it cuts
in the end have to be texts again, and cutting within a character would have no result.

It is safe because UTF-8 tells the first byte of a character from the others. A delimiter,
an opening and a closing all begin with a first byte, so none of them is found within a
character. The bytes of one character are therefore passed together, and the scan by
bytes cuts where the scan by characters does.
-/

import MigrationLedger.Proofs.Sql.Offset
import MigrationLedger.Proofs.Sql.Segmentation

namespace MigrationLedger

/-! ## First bytes of characters -/

namespace Text

/-- The bytes of some characters in UTF-8. -/
def encode (text : List Char) : List UInt8 := text.flatMap String.utf8EncodeChar

theorem encode_cons (c : Char) (text : List Char) :
    encode (c :: text) = String.utf8EncodeChar c ++ encode text := List.flatMap_cons

theorem encode_append (first second : List Char) :
    encode (first ++ second) = encode first ++ encode second := List.flatMap_append

theorem length_encode (text : List Char) : (encode text).length = byteLength text :=
  length_flatMap_utf8EncodeChar text

theorem byteLength_reverse (text : List Char) : byteLength text.reverse = byteLength text := by
  induction text with
  | nil => rfl
  | cons c text ih =>
      rw [List.reverse_cons, byteLength_append, ih]
      simp [byteLength, Nat.add_comm]

theorem encode_ne_nil_iff {text : List Char} : encode text ≠ [] ↔ text ≠ [] := by
  cases text with
  | nil => simp [encode]
  | cons c text => simp [encode_cons, String.utf8EncodeChar_ne_nil]

/-- A character has one first byte, and it stands in front of the others. -/
theorem exists_first_byte (c : Char) :
    ∃ first others, String.utf8EncodeChar c = first :: others ∧ first.IsUTF8FirstByte ∧
      ∀ byte ∈ others, ¬ byte.IsUTF8FirstByte := by
  obtain ⟨first, others, encoded⟩ := List.exists_cons_of_ne_nil
    (String.utf8EncodeChar_ne_nil (c := c))
  have told (i : Nat) (within : i < (first :: others).length) :
      ((first :: others)[i]).IsUTF8FirstByte ↔ i = 0 := by
    have law := @UInt8.isUTF8FirstByte_getElem_utf8EncodeChar c i (encoded ▸ within)
    simpa only [encoded] using law
  refine ⟨first, others, encoded, (told 0 (Nat.zero_lt_succ _)).mpr rfl, fun byte member => ?_⟩
  obtain ⟨i, within, rfl⟩ := List.getElem_of_mem member
  have later := told (i + 1) (Nat.succ_lt_succ within)
  rw [List.getElem_cons_succ] at later
  exact fun isFirst => absurd (later.mp isFirst) (Nat.succ_ne_zero i)

/-- No text begins within a character. -/
theorem not_encode_isPrefix_of_within {mark : List Char} {byte : UInt8} {rest : List UInt8}
    (nonempty : mark ≠ []) (within : ¬ byte.IsUTF8FirstByte) :
    ¬ encode mark <+: byte :: rest := by
  obtain ⟨c, mark, rfl⟩ := List.exists_cons_of_ne_nil nonempty
  obtain ⟨first, others, encoded, isFirst, -⟩ := exists_first_byte c
  rw [encode_cons, encoded, List.cons_append, List.cons_prefix_cons]
  rintro ⟨rfl, -⟩
  exact within isFirst

/-- The bytes of two characters are the same only if the characters are. -/
theorem utf8EncodeChar_append_inj {c d : Char} {s t : List UInt8}
    (same : String.utf8EncodeChar c ++ s = String.utf8EncodeChar d ++ t) : c = d := by
  rcases lt_trichotomy c d with less | equal | more
  · exact absurd (utf8EncodeChar_append_lt less s t) (same ▸ List.lt_irrefl _)
  · exact equal
  · exact absurd (utf8EncodeChar_append_lt more t s) (same ▸ List.lt_irrefl _)

/-- A text begins another one exactly when its bytes do. -/
theorem encode_isPrefix_iff {mark text : List Char} :
    encode mark <+: encode text ↔ mark <+: text := by
  induction mark generalizing text with
  | nil => simp [encode]
  | cons c mark ih =>
      cases text with
      | nil => simp [encode, String.utf8EncodeChar_ne_nil]
      | cons d text =>
          rw [encode_cons, encode_cons, List.cons_prefix_cons, ← ih]
          constructor
          · rintro ⟨rest, same⟩
            rw [List.append_assoc] at same
            obtain rfl := utf8EncodeChar_append_inj same
            exact ⟨rfl, rest, List.append_cancel_left same⟩
          · rintro ⟨rfl, rest, same⟩
            exact ⟨rest, by rw [List.append_assoc, same]⟩

end Text

namespace Sql.Script

/-! ## The scan -/

/-- Two byte offsets of a script between which it is sliced, and whether code was seen
there. -/
structure Slice where
  start : Nat
  stop : Nat
  hasCode : Bool
  deriving DecidableEq, Repr

/-- The slices of a script whose present slice begins at `start` and whose next byte is
that at `index`. Each step passes one byte, two bytes or a delimiter. -/
def slicesFrom (bytes delimiter : List UInt8) (region : Region) (start index : Nat)
    (hasCode : Bool) : List Slice :=
  match _ahead : bytes.drop index with
  | [] => [⟨start, bytes.length, hasCode⟩]
  | byte :: rest =>
    match region with
    | .code =>
      if cut : delimiter ≠ [] ∧ delimiter <+: byte :: rest then
        ⟨start, index, hasCode⟩ ::
          slicesFrom bytes delimiter .code (index + delimiter.length) (index + delimiter.length)
            false
      else if Text.bytes "--" <+: byte :: rest then
        slicesFrom bytes delimiter .lineComment start (index + 2) hasCode
      else if Text.bytes "/*" <+: byte :: rest then
        slicesFrom bytes delimiter .blockComment start (index + 2) hasCode
      else
        slicesFrom bytes delimiter
          (if byte = '\''.toUInt8 then .quotedText
            else if byte = '"'.toUInt8 then .quotedName else .code)
          start (index + 1) (hasCode || !Text.isBlankByte byte)
    | .quotedText =>
      slicesFrom bytes delimiter (if byte = '\''.toUInt8 then .code else .quotedText) start
        (index + 1) hasCode
    | .quotedName =>
      slicesFrom bytes delimiter (if byte = '"'.toUInt8 then .code else .quotedName) start
        (index + 1) hasCode
    | .lineComment =>
      slicesFrom bytes delimiter (if byte = '\n'.toUInt8 then .code else .lineComment) start
        (index + 1) hasCode
    | .blockComment =>
      if Text.bytes "*/" <+: byte :: rest then
        slicesFrom bytes delimiter .code start (index + 2) hasCode
      else slicesFrom bytes delimiter .blockComment start (index + 1) hasCode
termination_by bytes.length - index
decreasing_by
  all_goals
    have here := congrArg List.length _ahead
    simp only [List.length_drop, List.length_cons] at here
  · have := List.length_pos_iff.mpr cut.1
    omega
  all_goals omega

/-- The slices of a script. -/
def slices (script delimiter : String) : List Slice :=
  slicesFrom (Text.bytes script) (Text.bytes delimiter) .code 0 0 false

/-- The offsets of a slice are in order, within the script and between two of its
characters, or at its end. -/
def Slice.IsValid (slice : Slice) (script : String) : Prop :=
  slice.start ≤ slice.stop ∧ slice.stop ≤ script.utf8ByteSize ∧
    String.Pos.Raw.IsValid script ⟨slice.start⟩ ∧ String.Pos.Raw.IsValid script ⟨slice.stop⟩

/-- The text of a slice. There is none unless both offsets are those of the beginning of a
character or of the end of the script, and in order. -/
def Slice.text? (slice : Slice) (script : String) : Option String :=
  if slice.start ≤ slice.stop ∧ String.Pos.Raw.isValid script ⟨slice.start⟩ ∧
      String.Pos.Raw.isValid script ⟨slice.stop⟩ then
    String.fromUTF8? (script.toByteArray.extract slice.start slice.stop)
  else none

/-- The segment that a slice makes up, if it can be sliced. -/
def Slice.segment? (slice : Slice) (script : String) : Option Segment :=
  (slice.text? script).map fun text => ⟨text.toList, slice.hasCode⟩

/-- The statements of a script, if all of its slices can be sliced. -/
def statementsByBytes? (script delimiter : String) : Option (List String) :=
  ((slices script delimiter).mapM (Slice.segment? · script)).map fun segments =>
    (segments.filter (·.hasCode)).map fun segment => String.ofList (Text.trim segment.text)

open Text (encode)

variable {bytes more delimiter : List UInt8} {start index : Nat} {hasCode : Bool}
  {byte : UInt8} {enclosure : Enclosure}

/-! ## Steps by bytes -/

/-- A delimiter stands at the beginning of some bytes. -/
def Cuts (delimiter text : List UInt8) : Prop := delimiter ≠ [] ∧ delimiter <+: text

instance (delimiter text : List UInt8) : Decidable (Cuts delimiter text) :=
  inferInstanceAs (Decidable (_ ∧ _))

theorem slicesFrom_nil (region : Region) (ahead : bytes.drop index = []) :
    slicesFrom bytes delimiter region start index hasCode =
      [⟨start, bytes.length, hasCode⟩] := by
  rw [slicesFrom]
  split
  · rfl
  · simp_all

/-- One step in code: a delimiter is looked for first, then the openings. -/
theorem slicesFrom_code_cons (ahead : bytes.drop index = byte :: more) :
    slicesFrom bytes delimiter .code start index hasCode =
      if Cuts delimiter (byte :: more) then
        ⟨start, index, hasCode⟩ :: slicesFrom bytes delimiter .code (index + delimiter.length)
          (index + delimiter.length) false
      else if encode Enclosure.lineComment.opening <+: byte :: more then
        slicesFrom bytes delimiter .lineComment start (index + 2) hasCode
      else if encode Enclosure.blockComment.opening <+: byte :: more then
        slicesFrom bytes delimiter .blockComment start (index + 2) hasCode
      else if encode Enclosure.quotedText.opening <+: byte :: more then
        slicesFrom bytes delimiter .quotedText start (index + 1) true
      else if encode Enclosure.quotedName.opening <+: byte :: more then
        slicesFrom bytes delimiter .quotedName start (index + 1) true
      else
        slicesFrom bytes delimiter .code start (index + 1)
          (hasCode || !Text.isBlankByte byte) := by
  have quote : encode Enclosure.quotedText.opening <+: byte :: more ↔ byte = '\''.toUInt8 := by
    rw [eq_comm]
    exact (List.cons_prefix_cons.trans (and_iff_left List.nil_prefix))
  have name : encode Enclosure.quotedName.opening <+: byte :: more ↔ byte = '"'.toUInt8 := by
    rw [eq_comm]
    exact (List.cons_prefix_cons.trans (and_iff_left List.nil_prefix))
  rw [slicesFrom]
  split
  · simp_all
  · rename_i _ _ same
    obtain ⟨rfl, rfl⟩ := List.cons.inj (ahead.symm.trans same)
    simp only [Text.bytes_eq_flatMap, quote, name]
    by_cases cut : Cuts delimiter (byte :: more)
    · rw [if_pos cut]
      exact dif_pos cut
    · rw [if_neg cut]
      refine (dif_neg cut).trans ?_
      refine if_congr Iff.rfl rfl (if_congr Iff.rfl rfl ?_)
      split_ifs with isQuote isName
      · rw [isQuote, show Text.isBlankByte '\''.toUInt8 = false by decide, Bool.not_false,
          Bool.or_true]
      · rw [isName, show Text.isBlankByte '"'.toUInt8 = false by decide, Bool.not_false,
          Bool.or_true]
      · rfl

/-- Within a stretch the bytes of the closing are looked for and nothing else. -/
theorem slicesFrom_region_cons (enclosure : Enclosure) (ahead : bytes.drop index = byte :: more) :
    slicesFrom bytes delimiter enclosure.region start index hasCode =
      if encode enclosure.closing <+: byte :: more then
        slicesFrom bytes delimiter .code start (index + enclosure.closing.length) hasCode
      else slicesFrom bytes delimiter enclosure.region start (index + 1) hasCode := by
  have single (c : Char) : [c.toUInt8] <+: byte :: more ↔ byte = c.toUInt8 := by
    rw [eq_comm]
    exact (List.cons_prefix_cons.trans (and_iff_left List.nil_prefix))
  rw [slicesFrom.eq_def]
  split
  · simp_all
  · rename_i _ _ same
    obtain ⟨rfl, rfl⟩ := List.cons.inj (ahead.symm.trans same)
    cases enclosure with
    | quotedText | quotedName | lineComment =>
        refine Eq.trans ?_ (if_congr (single _).symm rfl rfl)
        exact apply_ite
          (fun region => slicesFrom bytes delimiter region start (index + 1) hasCode) _ _ _
    | blockComment =>
        simp only [Enclosure.region, Text.bytes_eq_flatMap]
        rfl

/-! ## Steps by characters -/

variable {delim text : List Char} {c : Char}

theorem drop_add_length {front : List UInt8} (ahead : bytes.drop index = front ++ more) :
    bytes.drop (index + front.length) = more := by
  rw [← List.drop_drop, ahead, List.drop_left]

theorem drop_succ (ahead : bytes.drop index = byte :: more) : bytes.drop (index + 1) = more := by
  rw [← List.drop_drop, ahead, List.drop_one, List.tail_cons]

theorem cuts_encode_iff : Cuts (encode delim) (encode text) ↔ AtDelimiter delim text := by
  rw [Cuts, AtDelimiter, Text.encode_ne_nil_iff, Text.encode_isPrefix_iff]

/-- An opening leads into its stretch. -/
theorem slicesFrom_opening (enclosure : Enclosure)
    (ahead : bytes.drop index = encode (enclosure.opening ++ text))
    (free : ¬ AtDelimiter delim (enclosure.opening ++ text)) :
    slicesFrom bytes (encode delim) .code start index hasCode =
      slicesFrom bytes (encode delim) enclosure.region start (index + enclosure.opening.length)
        (hasCode || enclosure.isQuoted) := by
  obtain ⟨byte, rest, first⟩ := List.exists_cons_of_ne_nil (Text.encode_ne_nil_iff.mpr
    (List.append_ne_nil_of_left_ne_nil enclosure.opening_ne_nil text))
  have opens (other : Enclosure) : encode other.opening <+: byte :: rest ↔ other = enclosure := by
    rw [← first, Text.encode_isPrefix_iff]
    constructor
    · exact fun begins => Enclosure.eq_of_opening_isPrefix begins (List.prefix_append _ _)
    · rintro rfl
      exact List.prefix_append _ _
  rw [← cuts_encode_iff, first] at free
  rw [slicesFrom_code_cons (ahead.trans first), if_neg free]
  simp only [opens]
  cases enclosure <;> simp [Enclosure.region, Enclosure.isQuoted, Enclosure.opening]

/-- Behind the first byte of a character nothing begins. The rest of the character is passed
in code. -/
theorem slicesFrom_code_others {others : List UInt8}
    (within : ∀ byte ∈ others, ¬ byte.IsUTF8FirstByte) (ahead : bytes.drop index = others ++ more) :
    slicesFrom bytes (encode delim) .code start index hasCode =
      slicesFrom bytes (encode delim) .code start (index + others.length)
        (hasCode || others.any fun byte => !Text.isBlankByte byte) := by
  induction others generalizing index hasCode with
  | nil => simp
  | cons byte others ih =>
      rw [List.forall_mem_cons] at within
      have none (mark : List Char) (nonempty : mark ≠ []) :
          ¬ encode mark <+: byte :: (others ++ more) :=
        Text.not_encode_isPrefix_of_within nonempty within.1
      have free : ¬ Cuts (encode delim) (byte :: (others ++ more)) := fun cut =>
        none delim (Text.encode_ne_nil_iff.mp cut.1) cut.2
      rw [List.cons_append] at ahead
      rw [slicesFrom_code_cons ahead, if_neg free, if_neg (none _ (Enclosure.opening_ne_nil _)),
        if_neg (none _ (Enclosure.opening_ne_nil _)), if_neg (none _ (Enclosure.opening_ne_nil _)),
        if_neg (none _ (Enclosure.opening_ne_nil _)), ih within.2 (drop_succ ahead), List.any_cons,
        List.length_cons, Bool.or_assoc, Nat.add_assoc, Nat.add_comm 1]

/-- A character that begins neither a delimiter nor a stretch is passed with all its
bytes. -/
theorem slicesFrom_code (ahead : bytes.drop index = encode (c :: text))
    (free : ¬ AtDelimiter delim (c :: text))
    (plain : ∀ enclosure : Enclosure, ¬ enclosure.opening <+: c :: text) :
    slicesFrom bytes (encode delim) .code start index hasCode =
      slicesFrom bytes (encode delim) .code start (index + c.utf8Size)
        (hasCode || (Piece.code c).isCode) := by
  obtain ⟨first, others, encoded, -, within⟩ := Text.exists_first_byte c
  have size : c.utf8Size = others.length + 1 := by
    rw [← String.length_utf8EncodeChar, encoded, List.length_cons]
  have split : encode (c :: text) = first :: (others ++ encode text) := by
    rw [Text.encode_cons, encoded, List.cons_append]
  rw [← cuts_encode_iff, split] at free
  simp only [← Text.encode_isPrefix_iff, split] at plain
  rw [split] at ahead
  rw [slicesFrom_code_cons ahead, if_neg free, if_neg (plain _), if_neg (plain _),
    if_neg (plain _), if_neg (plain _), slicesFrom_code_others within (drop_succ ahead),
    Piece.isCode, encoded, List.any_cons, size, Bool.or_assoc, Nat.add_assoc, Nat.add_comm 1]

/-- The same within a stretch. -/
theorem slicesFrom_region_others (enclosure : Enclosure) {others : List UInt8}
    (within : ∀ byte ∈ others, ¬ byte.IsUTF8FirstByte) (ahead : bytes.drop index = others ++ more) :
    slicesFrom bytes delimiter enclosure.region start index hasCode =
      slicesFrom bytes delimiter enclosure.region start (index + others.length) hasCode := by
  induction others generalizing index with
  | nil => rfl
  | cons byte others ih =>
      rw [List.forall_mem_cons] at within
      rw [List.cons_append] at ahead
      rw [slicesFrom_region_cons enclosure ahead, if_neg (Text.not_encode_isPrefix_of_within
        enclosure.closing_ne_nil within.1), ih within.2 (drop_succ ahead), List.length_cons,
        Nat.add_assoc, Nat.add_comm 1]

/-- A closing has one byte for each of its characters. -/
theorem byteLength_closing (enclosure : Enclosure) :
    Text.byteLength enclosure.closing = enclosure.closing.length := by
  cases enclosure <;> rfl

/-- A stretch is left behind its first closing. -/
theorem slicesFrom_region (enclosure : Enclosure) {body later : List Char}
    (ends : EndsAtFirst enclosure.closing body later)
    (ahead : bytes.drop index = encode (body ++ later)) :
    slicesFrom bytes delimiter enclosure.region start index hasCode =
      slicesFrom bytes delimiter .code start (index + Text.byteLength body) hasCode := by
  induction body generalizing index with
  | nil =>
      obtain rfl := (endsAtFirst_nil_iff enclosure.closing_ne_nil).mp ends
      rw [slicesFrom_nil _ ahead, Text.byteLength, Nat.add_zero, slicesFrom_nil _ ahead]
  | cons c body ih =>
      obtain ⟨first, others, encoded, -, within⟩ := Text.exists_first_byte c
      have size : c.utf8Size = 1 + others.length := by
        rw [← String.length_utf8EncodeChar, encoded, List.length_cons, Nat.add_comm]
      have split : encode (c :: (body ++ later)) = first :: (others ++ encode (body ++ later)) := by
        rw [Text.encode_cons, encoded, List.cons_append]
      rw [List.cons_append, split] at ahead
      rw [slicesFrom_region_cons enclosure ahead, ← split]
      simp only [Text.encode_isPrefix_iff]
      rcases (endsAtFirst_cons_iff enclosure.closing_ne_nil).mp ends with closed | ⟨open_, ends⟩
      · rw [if_pos ⟨later, by rw [closed, List.cons_append]⟩, ← byteLength_closing, closed]
      · rw [if_neg open_, slicesFrom_region_others enclosure within (drop_succ ahead),
          ih ends (drop_add_length (drop_succ ahead)), Text.byteLength, size]
        simp only [Nat.add_assoc]

/-- One piece of the reading is so many steps of the scan. -/
theorem slicesFrom_of_begins {piece : Piece} {later : List Char}
    (begins : Begins delim text piece later) (ahead : bytes.drop index = encode text) :
    slicesFrom bytes (encode delim) .code start index hasCode =
      if piece.isDelimiter then
        ⟨start, index, hasCode⟩ :: slicesFrom bytes (encode delim) .code
          (index + Text.byteLength delim) (index + Text.byteLength delim) false
      else
        slicesFrom bytes (encode delim) .code start
          (index + Text.byteLength (piece.text delim)) (hasCode || piece.isCode) := by
  cases begins with
  | delimiter nonempty split =>
      obtain ⟨byte, rest, first⟩ := List.exists_cons_of_ne_nil (Text.encode_ne_nil_iff.mpr
        (split ▸ List.append_ne_nil_of_left_ne_nil nonempty later))
      have cut : Cuts (encode delim) (byte :: rest) := by
        rw [← first, cuts_encode_iff, split]
        exact ⟨nonempty, List.prefix_append _ _⟩
      rw [slicesFrom_code_cons (ahead.trans first), if_pos cut, Text.length_encode]
      rfl
  | @enclosed enclosure body _ free split ends =>
      rw [split] at free ahead
      have opened : bytes.drop (index + enclosure.opening.length) = encode (body ++ later) := by
        rw [Text.encode_append] at ahead
        have := drop_add_length ahead
        cases enclosure <;> exact this
      rw [slicesFrom_opening enclosure ahead free, slicesFrom_region enclosure ends opened,
        if_neg (by simp [Piece.isDelimiter]), Piece.text, Piece.isCode, Text.byteLength_append,
        Nat.add_assoc]
      cases enclosure <;> rfl
  | code free plain split =>
      rw [split] at free plain ahead
      rw [slicesFrom_code ahead free plain, if_neg (by simp [Piece.isDelimiter])]
      rfl

/-! ## The whole script -/

/-- The slices that some segments take up, one behind the other, when a delimiter of
`width` bytes stands between them and the first one begins at `start`. -/
def located (width start : Nat) : List Segment → List Slice
  | [] => []
  | segment :: segments =>
    let stop := start + Text.byteLength segment.text
    ⟨start, stop, segment.hasCode⟩ :: located width (stop + width) segments

/-- From code, the slices are where the segments are. The index is that of the text which is
left, and the bytes since the start of the slice are those of its characters so far. -/
theorem slicesFrom_eq {pieces : List Piece} {current : List Char}
    (reads : Reads delim text pieces []) (ahead : bytes.drop index = encode text)
    (whole : index + Text.byteLength text = bytes.length)
    (passed : index = start + Text.byteLength current) :
    slicesFrom bytes (encode delim) .code start index hasCode =
      located (Text.byteLength delim) start
        (segmentsFrom delim .code current hasCode text) := by
  induction pieces generalizing text current hasCode index start with
  | nil =>
      cases reads
      rw [slicesFrom_nil _ ahead, segmentsFrom_nil, ← whole, passed]
      simp [located, Text.byteLength, Text.byteLength_reverse]
  | cons piece pieces ih =>
      obtain _ | ⟨begins, more⟩ := reads
      have same := begins.eq_append
      have later := ahead
      rw [same, Text.encode_append] at later
      replace later := drop_add_length later
      rw [Text.length_encode] at later
      rw [same, Text.byteLength_append, ← Nat.add_assoc] at whole
      rw [slicesFrom_of_begins begins ahead, segmentsFrom_of_begins begins]
      split_ifs with cut
      · cases piece with
        | delimiter =>
            rw [located, Text.byteLength_reverse, ← passed]
            exact congrArg _ (ih more later whole rfl)
        | code c | enclosed enclosure body => cases cut
      · refine ih more later whole ?_
        rw [Text.byteLength_append, Text.byteLength_reverse, passed]
        omega

theorem slices_eq (script delimiter : String) :
    slices script delimiter =
      located (Text.byteLength delimiter.toList) 0 (segments script delimiter) := by
  obtain ⟨pieces, reads⟩ := exists_reads delimiter.toList script.toList
  rw [slices, Text.bytes_eq_flatMap, Text.bytes_eq_flatMap]
  refine slicesFrom_eq reads (List.drop_zero ..) ?_ rfl
  rw [Nat.zero_add, ← Text.length_encode, encode]

/-- The slice is cut out of the script between two characters, and what it takes is the
segment. -/
def Slice.Marks (slice : Slice) (script : String) (segment : Segment) : Prop :=
  ∃ front back, script.toList = front ++ (segment.text ++ back) ∧
    slice = ⟨Text.byteLength front, Text.byteLength front + Text.byteLength segment.text,
      segment.hasCode⟩

section Marks

variable {script : String} {slice : Slice} {segment : Segment} {segments : List Segment}

theorem Slice.Marks.isValid (marks : slice.Marks script segment) : slice.IsValid script := by
  obtain ⟨front, back, split, rfl⟩ := marks
  have starts := Text.isValid_of_split split
  rw [← List.append_assoc] at split
  have stops := Text.isValid_of_split split
  rw [Text.byteLength_append] at stops
  exact ⟨Nat.le_add_right _ _, stops.le_rawEndPos, starts, stops⟩

/-- What is cut between characters is a text. -/
theorem Slice.Marks.segment?_eq (marks : slice.Marks script segment) :
    slice.segment? script = some segment := by
  obtain ⟨ordered, -, starts, stops⟩ := marks.isValid
  obtain ⟨front, back, split, rfl⟩ := marks
  have taken : script.toByteArray.extract (Text.byteLength front)
      (Text.byteLength front + Text.byteLength segment.text) =
        (String.ofList segment.text).toByteArray := by
    rw [← String.ofList_toList (s := script), split, String.ofList_append, String.ofList_append,
      String.toByteArray_append, String.toByteArray_append, ← Text.utf8ByteSize_ofList,
      ← Text.utf8ByteSize_ofList, ← String.size_toByteArray, ← String.size_toByteArray,
      ← Nat.add_zero (String.ofList front).toByteArray.size, Nat.add_assoc,
      ByteArray.extract_append_size_add, Nat.zero_add, ByteArray.extract_append_eq_left rfl]
  rw [Slice.segment?, Slice.text?, if_pos ⟨ordered, String.Pos.Raw.isValid_eq_true_iff.mpr starts,
    String.Pos.Raw.isValid_eq_true_iff.mpr stops⟩, taken, String.fromUTF8?,
    dif_pos (String.isValidUTF8 _)]
  exact congrArg (fun text => some (Segment.mk text segment.hasCode)) (String.toList_ofList ..)

theorem mapM_segment?_eq {slices : List Slice}
    (marks : List.Forall₂ (Slice.Marks · script) slices segments) :
    slices.mapM (Slice.segment? · script) = some segments := by
  induction marks with
  | nil => rfl
  | cons here _ ih =>
      rw [List.mapM_cons, here.segment?_eq, ih]
      rfl

/-- The slices of segments with delimiters between them cut the segments out. -/
theorem marks_located {delimiter front : List Char}
    (split : script.toList = front ++ delimiter.intercalate (segments.map Segment.text)) :
    List.Forall₂ (Slice.Marks · script)
      (located (Text.byteLength delimiter) (Text.byteLength front) segments) segments := by
  induction segments generalizing front with
  | nil => exact .nil
  | cons segment segments ih =>
      cases segments with
      | nil =>
          refine .cons ⟨front, [], ?_, rfl⟩ .nil
          rw [split, List.append_nil]
          simp
      | cons next segments =>
          rw [List.map_cons, List.map_cons, List.intercalate_cons_cons] at split
          rw [List.append_assoc] at split
          refine .cons ⟨front, _, split, rfl⟩ ?_
          rw [← List.append_assoc, ← List.append_assoc] at split
          have later := ih split
          simp only [Text.byteLength_append] at later
          exact later

theorem le_start_of_located {width start : Nat} (member : slice ∈ located width start segments) :
    start ≤ slice.start := by
  induction segments generalizing start with
  | nil => cases member
  | cons segment segments ih =>
      rcases List.mem_cons.mp member with rfl | member
      · exact Nat.le_refl _
      · exact Nat.le_trans (by omega) (ih member)

/-- No slice begins before the one in front of it has ended. -/
theorem pairwise_located (width start : Nat) (segments : List Segment) :
    (located width start segments).Pairwise fun earlier later => earlier.stop ≤ later.start := by
  induction segments generalizing start with
  | nil => exact .nil
  | cons segment segments ih =>
      exact .cons (fun later member => Nat.le_trans (Nat.le_add_right _ _)
        (le_start_of_located member)) (ih _)

end Marks

/-- The slices of a script cut its segments out. -/
theorem marks_slices (script delimiter : String) :
    List.Forall₂ (Slice.Marks · script) (slices script delimiter)
      (segments script delimiter) := by
  obtain ⟨pieces, reads⟩ := exists_reads delimiter.toList script.toList
  have whole := intercalate_parts reads
  rw [slices_eq]
  have split : script.toList = [] ++ delimiter.toList.intercalate
      ((segments script delimiter).map Segment.text) := by
    rw [segments_eq reads, List.map_map]
    exact whole.symm
  exact marks_located split

/-- Each slice of the scan by bytes begins and ends within the script, between two of its
characters and behind the slice in front of it. So every one of them is a text, and the
statements are those of the scan by characters. -/
theorem statements_of_slices (script delimiter : String) :
    (∀ slice ∈ slices script delimiter, slice.IsValid script) ∧
      (slices script delimiter).Pairwise (fun earlier later => earlier.stop ≤ later.start) ∧
      (slices script delimiter).mapM (Slice.segment? · script) =
        some (segments script delimiter) ∧
      statementsByBytes? script delimiter = some (statements script delimiter) := by
  have marks := marks_slices script delimiter
  have sliced := mapM_segment?_eq marks
  have valid : ∀ slice ∈ slices script delimiter, slice.IsValid script :=
    ((List.forall₂_and_left _ _).mp (marks.imp fun _ _ here => ⟨here.isValid, here⟩)).1
  refine ⟨valid, ?_, sliced, ?_⟩
  · rw [slices_eq]
    exact pairwise_located _ _ _
  · rw [statementsByBytes?, sliced]
    rfl

/-- The second byte of `Ã` and that of `é` are passed, and `§` is looked for with both of its
bytes. -/
example : slices "Ã§é" "§" = [⟨0, 2, true⟩, ⟨4, 6, true⟩] := by cbv

end Sql.Script

end MigrationLedger
