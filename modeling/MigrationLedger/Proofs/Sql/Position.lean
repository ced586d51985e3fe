/-
# Which character a place stands for

A place is a line and a column, both counted from one. What it stands for is found in two
steps: whole lines are passed, and then single characters. Each step is described by what
it passes, so that a place has an offset exactly when the text can be taken apart in this
way. A column is not held up by the end of its line: it goes on counting in the lines
behind, up to the end of the text.

Every character has a place, which is the only one on its line that stands for it. The
offsets of characters ascend with them and lie between characters.
-/

import MigrationLedger.Proofs.Sql.Qualification
import MigrationLedger.Proofs.Text.ByteOrder

namespace MigrationLedger.Sql

namespace Location

variable {text rest : List Char} {place : Location} {skip passed reached offset index : Nat}

/-! ## Passing lines and characters -/

/-- Whole lines: a text that is empty or ends with a line feed. -/
def IsFull (lines : List Char) : Prop :=
  ∀ nonempty : lines ≠ [], lines.getLast nonempty = '\n'

theorem IsFull.cons_iff {c : Char} {lines : List Char} :
    IsFull (c :: lines) ↔ IsFull lines ∧ (lines = [] → c = '\n') := by
  cases lines with
  | nil => simp [IsFull]
  | cons d lines => simp [IsFull]

/-- What is passed are whole lines, as many as are to be skipped. -/
theorem lineStart?_eq_some_iff :
    lineStart? skip passed text = some (reached, rest) ↔
      ∃ lines, text = lines ++ rest ∧ IsFull lines ∧ lines.count '\n' = skip ∧
        reached = passed + Text.byteLength lines := by
  constructor
  · intro found
    fun_induction lineStart? skip passed text with
    | case1 passed text =>
        obtain ⟨rfl, rfl⟩ := Prod.mk.inj (Option.some.inj found)
        exact ⟨[], rfl, fun nonempty => absurd rfl nonempty, rfl, rfl⟩
    | case2 => cases found
    | case3 passed skip c text ih =>
        obtain ⟨lines, rfl, full, counted, rfl⟩ := ih found
        refine ⟨c :: lines, rfl, IsFull.cons_iff.mpr ⟨full, ?_⟩, ?_, ?_⟩
        · rintro rfl
          by_contra other
          rw [if_neg other] at counted
          cases counted
        · split_ifs at counted with feed
          · rw [feed, List.count_cons_self, counted]
          · rw [List.count_cons_of_ne feed, counted]
        · rw [Text.byteLength, Nat.add_assoc]
  · rintro ⟨lines, rfl, full, rfl, rfl⟩
    exact lineStart?_append rest passed full

/-- Lines cannot be skipped where there are fewer line feeds. -/
theorem lineStart?_eq_none_iff :
    lineStart? skip passed text = none ↔ text.count '\n' < skip := by
  induction text generalizing skip passed with
  | nil => cases skip <;> simp [lineStart?]
  | cons c text ih =>
      cases skip with
      | zero => simp [lineStart?]
      | succ skip =>
          rw [lineStart?, ih]
          by_cases feed : c = '\n'
          · rw [if_pos feed, feed, List.count_cons_self, Nat.succ_lt_succ_iff]
          · rw [if_neg feed, List.count_cons_of_ne feed]

/-- What is passed then are as many characters, and another one follows. -/
theorem columnStart?_eq_some_iff :
    columnStart? skip passed text = some reached ↔
      ∃ before c after, text = before ++ c :: after ∧ before.length = skip ∧
        reached = passed + Text.byteLength before := by
  constructor
  · intro found
    fun_induction columnStart? skip passed text with
    | case1 => cases found
    | case2 passed c text =>
        obtain rfl := Option.some.inj found
        exact ⟨[], c, text, rfl, rfl, rfl⟩
    | case3 passed skip b text ih =>
        obtain ⟨before, c, after, rfl, rfl, rfl⟩ := ih found
        exact ⟨b :: before, c, after, rfl, rfl, by rw [Text.byteLength, Nat.add_assoc]⟩
  · rintro ⟨before, c, after, rfl, rfl, rfl⟩
    exact columnStart?_append before after c passed

/-- Characters cannot be skipped where none is left behind them. -/
theorem columnStart?_eq_none_iff : columnStart? skip passed text = none ↔ text.length ≤ skip := by
  induction text generalizing skip passed with
  | nil => cases skip <;> simp [columnStart?]
  | cons c text ih =>
      cases skip with
      | zero => simp [columnStart?]
      | succ skip => rw [columnStart?, ih, List.length_cons, Nat.succ_le_succ_iff]

/-! ## Places -/

/-- A place stands for the character behind whole lines and some more characters, if the line
and the column are one more than there are of these. -/
theorem byteOffset?_eq_some_iff :
    place.byteOffset? text = some offset ↔
      ∃ lines before c after, text = lines ++ before ++ c :: after ∧ IsFull lines ∧
        place = ⟨lines.count '\n' + 1, before.length + 1⟩ ∧
        offset = Text.byteLength (lines ++ before) := by
  obtain ⟨line, column⟩ := place
  rw [byteOffset?]
  dsimp only
  constructor
  · intro found
    split_ifs at found with zero
    split at found
    · cases found
    · rename_i reached rest passed
      obtain ⟨lines, rfl, full, counted, rfl⟩ := lineStart?_eq_some_iff.mp passed
      obtain ⟨before, c, after, rfl, length, rfl⟩ := columnStart?_eq_some_iff.mp found
      refine ⟨lines, before, c, after, (List.append_assoc _ _ _).symm, full, ?_, ?_⟩
      · rw [counted, length, Nat.sub_one_add_one (by tauto), Nat.sub_one_add_one (by tauto)]
      · rw [Text.byteLength_append, Nat.zero_add]
  · rintro ⟨lines, before, c, after, rfl, full, same, rfl⟩
    obtain ⟨rfl, rfl⟩ := Location.mk.inj same
    rw [List.append_assoc, if_neg (by simp), Nat.add_sub_cancel, lineStart?_append _ _ full]
    simp only [Nat.add_sub_cancel, columnStart?_append, Text.byteLength_append, Nat.zero_add]

/-- A place stands for nothing when its line or its column is zero, when there is no such
line, and when fewer characters are left from its line on than its column asks for. -/
theorem byteOffset?_eq_none_iff :
    place.byteOffset? text = none ↔
      place.line = 0 ∨ place.column = 0 ∨ text.count '\n' + 1 < place.line ∨
        ∃ lines rest, text = lines ++ rest ∧ IsFull lines ∧ place.line = lines.count '\n' + 1 ∧
          rest.length < place.column := by
  obtain ⟨line, column⟩ := place
  rw [byteOffset?]
  dsimp only
  split_ifs with zero
  · simp only [true_iff]
    tauto
  · obtain ⟨line, rfl⟩ := Nat.exists_eq_succ_of_ne_zero fun none => zero (.inl none)
    obtain ⟨column, rfl⟩ := Nat.exists_eq_succ_of_ne_zero fun none => zero (.inr none)
    simp only [Nat.succ_eq_add_one, Nat.add_sub_cancel, false_or, Nat.add_one_ne_zero,
      Nat.lt_succ_iff, Nat.add_right_cancel_iff]
    split
    · rename_i missing
      exact iff_of_true rfl (.inl (lineStart?_eq_none_iff.mp missing))
    · rename_i reached rest found
      have present : ¬ text.count '\n' + 1 ≤ line := fun missing => by
        rw [lineStart?_eq_none_iff.mpr missing] at found
        cases found
      rw [columnStart?_eq_none_iff, or_iff_right present]
      constructor
      · intro short
        obtain ⟨lines, whole, full, counted, -⟩ := lineStart?_eq_some_iff.mp found
        exact ⟨lines, rest, whole, full, counted.symm, short⟩
      · rintro ⟨lines, other, rfl, full, rfl, short⟩
        -- Whole lines with so many line feeds are passed in one way only.
        have passed := (lineStart?_append other 0 full).symm.trans found
        obtain ⟨-, rfl⟩ := Prod.mk.inj (Option.some.inj passed)
        exact short

/-! ## Characters by their index -/

/-- The place of the character with an index: one line more than there are line feeds in
front of it, and one column more than there are characters behind the last of these. -/
def ofIndex (text : List Char) (index : Nat) : Location :=
  ⟨(text.take index).count '\n' + 1, (Text.lastLine (text.take index)).length + 1⟩

/-- The number of bytes in front of the character with an index. -/
def bytesBefore (text : List Char) (index : Nat) : Nat :=
  (String.ofList (text.take index)).utf8ByteSize

/-- A character is found at its place. -/
theorem byteOffset?_ofIndex (inside : index < text.length) :
    (ofIndex text index).byteOffset? text = some (bytesBefore text index) := by
  have exact := byteOffset?_advance_start (text.take index) (text.drop (index + 1)) text[index]
  rwa [List.getElem_cons_drop, List.take_append_drop, advance_start,
    ← Text.utf8ByteSize_ofList] at exact

/-- Characters have their offsets in their own order. -/
theorem bytesBefore_lt {first second : Nat} (before : first < second)
    (inside : second < text.length) : bytesBefore text first < bytesBefore text second := by
  obtain ⟨more, rfl⟩ := Nat.exists_eq_add_of_lt before
  rw [bytesBefore, bytesBefore, Text.utf8ByteSize_ofList, Text.utf8ByteSize_ofList, Nat.add_assoc,
    List.take_add, Text.byteLength_append]
  refine Nat.lt_add_of_pos_right (Text.byteLength_pos fun empty => ?_)
  have := congrArg List.length empty
  simp only [List.length_take, List.length_drop, List.length_nil] at this
  omega

/-- What follows whole lines without a line feed is the last line. -/
theorem IsFull.lastLine_append {lines before : List Char} (full : IsFull lines)
    (within : '\n' ∉ before) : Text.lastLine (lines ++ before) = before := by
  induction before using List.reverseRecOn with
  | nil =>
      rw [List.append_nil]
      by_cases empty : lines = []
      · rw [empty]
        rfl
      · rw [← List.dropLast_append_getLast empty, full empty, Text.lastLine_concat, if_pos rfl]
  | append_singleton before c ih =>
      rw [List.mem_append, List.mem_singleton, not_or] at within
      rw [← List.append_assoc, Text.lastLine_concat, if_neg (Ne.symm within.2), ih within.1]

/-- What a place stands for is a character, and the place is its own if that is on the line
that the place names. -/
theorem exists_index_of_byteOffset? (found : place.byteOffset? text = some offset) :
    ∃ index < text.length, offset = bytesBefore text index ∧
      (place.line = (ofIndex text index).line → place = ofIndex text index) := by
  obtain ⟨lines, before, c, after, rfl, full, rfl, rfl⟩ := byteOffset?_eq_some_iff.mp found
  have taken : (lines ++ before ++ c :: after).take (lines ++ before).length = lines ++ before :=
    List.take_left
  refine ⟨(lines ++ before).length, by simp, ?_, fun same => ?_⟩
  · rw [bytesBefore, taken, Text.utf8ByteSize_ofList]
  · rw [ofIndex, taken] at same ⊢
    rw [List.count_append] at same ⊢
    have within : before.count '\n' = 0 := by
      dsimp only at same
      omega
    rw [within, Nat.add_zero, full.lastLine_append (List.count_eq_zero.mp within)]

end Location

namespace Qualifier

open Location (IsFull ofIndex bytesBefore)

variable {text : List Char} {places : List Location} {error : QualifyError}

/-- The first place that stands for nothing is what is reported. -/
theorem offsets_eq_error_iff :
    offsets text places = .error error ↔
      ∃ place, (places.find? fun place => (place.byteOffset? text).isNone) = some place ∧
        error = .outside place := by
  induction places with
  | nil => simp [offsets]
  | cons first places ih =>
      rw [offsets, List.find?_cons]
      cases first.byteOffset? text with
      | none => simp [eq_comm]
      | some offset =>
          rw [Option.isNone_some, ← ih]
          cases offsets text places <;> simp

/-! ## Offsets of places -/

/-- **Places and byte offsets.** Give each character of a text its place: the line is one
more than the line feeds in front of it, and the column one more than the characters behind
the last of these. The place has an offset, the number of UTF-8 bytes in front of the
character, which lies between two characters of the text. Of two characters the later one
has the larger offset, and any list of places of characters is turned into their offsets. A
place has none exactly when its line or its column is zero, when its line is beyond the last
line feed and one more, or when fewer characters are left from its line on than its column
asks for; the first such place of a list is then what the error is about. Whatever offset a
place has is that of a character, and the place is this character's own if it names the line
that the character is on. -/
theorem offsets_exact (text : String) :
    let characters := text.toList
    (∀ index < characters.length,
      (ofIndex characters index).byteOffset? characters = some (bytesBefore characters index) ∧
        String.Pos.Raw.IsValid text ⟨bytesBefore characters index⟩) ∧
    (∀ first second, first < second → second < characters.length →
      bytesBefore characters first < bytesBefore characters second) ∧
    (∀ indices : List Nat, (∀ index ∈ indices, index < characters.length) →
      offsets characters (indices.map (ofIndex characters)) =
        .ok (indices.map (bytesBefore characters))) ∧
    (∀ place : Location, place.byteOffset? characters = none ↔
      place.line = 0 ∨ place.column = 0 ∨ characters.count '\n' + 1 < place.line ∨
        ∃ lines rest, characters = lines ++ rest ∧ IsFull lines ∧
          place.line = lines.count '\n' + 1 ∧ rest.length < place.column) ∧
    (∀ places error, offsets characters places = .error error ↔
      ∃ place, (places.find? fun place => (place.byteOffset? characters).isNone) = some place ∧
        error = .outside place) ∧
    ∀ (place : Location) offset, place.byteOffset? characters = some offset →
      ∃ index < characters.length, offset = bytesBefore characters index ∧
        (place.line = (ofIndex characters index).line → place = ofIndex characters index) := by
  intro characters
  refine ⟨fun index inside => ⟨Location.byteOffset?_ofIndex inside, ?_⟩,
    fun first second before inside => Location.bytesBefore_lt before inside,
    fun indices inside => ?_, fun place => Location.byteOffset?_eq_none_iff,
    fun places error => offsets_eq_error_iff,
    fun place offset found => Location.exists_index_of_byteOffset? found⟩
  · rw [bytesBefore, Text.utf8ByteSize_ofList]
    exact Text.isValid_of_split (List.take_append_drop index characters).symm
  · rw [offsets_eq_ok_iff, List.map_map, List.map_map]
    exact List.map_congr_left fun index member => Location.byteOffset?_ofIndex (inside index member)

/-- Letters of two bytes in front of an empty line and behind it. -/
theorem offsets_exact_blankLine :
    let characters := "é\n\nβc".toList
    (⟨3, 1⟩ : Location).byteOffset? characters = some 4 ∧
      (⟨3, 2⟩ : Location).byteOffset? characters = some 6 ∧
      String.Pos.Raw.IsValid "é\n\nβc" ⟨6⟩ ∧
      (⟨4, 1⟩ : Location).byteOffset? characters = none ∧
      offsets characters [⟨3, 2⟩, ⟨1, 1⟩] = .ok [6, 0] ∧
      offsets characters [⟨1, 1⟩, ⟨4, 1⟩] = .error (.outside ⟨4, 1⟩) := by
  intro characters
  obtain ⟨exact, -, all, missing, first, -⟩ := offsets_exact "é\n\nβc"
  obtain ⟨beta, -⟩ := exact 3 (by decide)
  obtain ⟨last, valid⟩ := exact 4 (by decide)
  refine ⟨beta, last, valid, ?_, all [4, 0] (by decide), ?_⟩
  · exact (missing ⟨4, 1⟩).mpr (.inr (.inr (.inl (by decide))))
  · exact (first _ _).mpr ⟨⟨4, 1⟩, by decide, rfl⟩

end Qualifier

end MigrationLedger.Sql
