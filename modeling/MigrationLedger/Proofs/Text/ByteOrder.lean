/-
# The order of texts is the order of their bytes

Texts are compared by their code points. UTF-8 is built so that comparing the
encoded bytes gives the same answer: the first character in which two texts
differ already decides between their encodings, because of two different
characters the smaller one has the smaller encoding, whatever follows. Orders
that are described by bytes can therefore be stated with the order of texts.
-/

import Mathlib.Data.String.Basic
import MigrationLedger.Text.Search

namespace MigrationLedger.Text

/-- The bytes of a text in UTF-8. -/
def bytes (text : String) : List UInt8 := text.toByteArray.data.toList

theorem bytes_eq_flatMap (text : String) :
    bytes text = text.toList.flatMap String.utf8EncodeChar := by
  rw [bytes, ← String.ofList_toList (s := text), String.toByteArray_ofList, List.utf8Encode]
  simp

theorem length_flatMap_utf8EncodeChar (text : List Char) :
    (text.flatMap String.utf8EncodeChar).length = byteLength text := by
  induction text with
  | nil => rfl
  | cons c rest ih => rw [List.flatMap_cons, List.length_append, ih, byteLength,
      String.length_utf8EncodeChar]

/-- `byteLength` counts the bytes of a text. -/
theorem length_bytes (text : String) : (bytes text).length = byteLength text.toList := by
  rw [bytes_eq_flatMap, length_flatMap_utf8EncodeChar]

theorem utf8ByteSize_ofList (text : List Char) :
    (String.ofList text).utf8ByteSize = byteLength text := by
  have counted := length_bytes (String.ofList text)
  rwa [String.toList_ofList] at counted

theorem byteLength_toList (text : String) : byteLength text.toList = text.utf8ByteSize := by
  rw [← utf8ByteSize_ofList, String.ofList_toList]

/-- A character takes at least one byte. -/
theorem length_le_byteLength (text : List Char) : text.length ≤ byteLength text := by
  induction text with
  | nil => exact Nat.le_refl 0
  | cons c rest ih =>
      have := c.utf8Size_pos
      rw [List.length_cons, byteLength]
      omega

/-- Behind the bytes of the first characters another one can begin. -/
theorem isValid_of_split {text : String} {front back : List Char}
    (split : text.toList = front ++ back) : String.Pos.Raw.IsValid text ⟨byteLength front⟩ := by
  refine String.Pos.Raw.isValid_iff_exists_append.mpr
    ⟨String.ofList front, String.ofList back, ?_, ?_⟩
  · rw [← String.ofList_append, ← split, String.ofList_toList]
  · rw [String.Pos.Raw.ext_iff, String.byteIdx_rawEndPos, utf8ByteSize_ofList]

/-- Of two different characters the smaller one has the smaller encoding, whatever
follows. -/
theorem utf8EncodeChar_append_lt {c d : Char} (before : c < d) (s t : List UInt8) :
    String.utf8EncodeChar c ++ s < String.utf8EncodeChar d ++ t := by
  have codes : c.val.toNat < d.val.toNat := before
  have bounded : d.val.toNat < 0x110000 := by
    rcases d.valid with low | ⟨_, high⟩ <;> omega
  -- The digits of a code are quotients by powers of 64, one taken from the other.
  have digits (code : Nat) :
      code / 4096 = code / 64 / 64 ∧ code / 262144 = code / 64 / 64 / 64 := by omega
  unfold String.utf8EncodeChar
  simp only [digits]
  split_ifs <;>
    simp only [List.cons_append, List.nil_append, List.cons_lt_cons_iff, UInt8.lt_iff_toNat_lt,
      ← UInt8.toNat_inj, UInt8.toNat_ofNat'] <;>
    omega

theorem flatMap_utf8EncodeChar_lt {a b : List Char} (before : a < b) :
    a.flatMap String.utf8EncodeChar < b.flatMap String.utf8EncodeChar := by
  induction before with
  | @nil d rest =>
      rw [List.flatMap_nil, List.flatMap_cons]
      obtain ⟨first, others, encoded⟩ := List.exists_cons_of_ne_nil
        (String.utf8EncodeChar_ne_nil (c := d))
      rw [encoded]
      exact .nil
  | cons _ ih => exact List.append_left_lt ih
  | rel smaller => exact utf8EncodeChar_append_lt smaller _ _

/-- Texts and their bytes are in the same order. -/
theorem bytes_lt_bytes_iff {a b : String} : bytes a < bytes b ↔ a < b := by
  have forward {a b : String} (before : a < b) : bytes a < bytes b := by
    rw [bytes_eq_flatMap, bytes_eq_flatMap]
    exact flatMap_utf8EncodeChar_lt (String.lt_iff_toList_lt.mp before)
  constructor
  · intro before
    rcases lt_trichotomy a b with less | same | more
    · exact less
    · exact absurd before (same ▸ List.lt_irrefl _)
    · exact absurd before (List.lt_asymm (forward more))
  · exact forward

theorem bytes_le_bytes_iff {a b : String} : bytes a ≤ bytes b ↔ a ≤ b := by
  rw [← List.not_lt, bytes_lt_bytes_iff, not_lt]

end MigrationLedger.Text
