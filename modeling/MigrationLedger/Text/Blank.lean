/-
# Blank and control characters

Two notions of blankness meet in a migration script. Statements are trimmed of
every character with the `White_Space` property, while a segment counts as code
as soon as it holds a character other than the five ASCII blanks. Both are
defined here, together with the control characters that no name may hold.
-/

namespace MigrationLedger.Text

/-- A character with the `White_Space` property. -/
def isBlank (c : Char) : Bool :=
  let code := c.toNat
  (9 ≤ code && code ≤ 13) || code == 0x20 || code == 0x85 || code == 0xA0 ||
    code == 0x1680 || (0x2000 ≤ code && code ≤ 0x200A) || code == 0x2028 ||
    code == 0x2029 || code == 0x202F || code == 0x205F || code == 0x3000

/-- Space, tab, line feed, form feed and carriage return: the characters that
do not turn a segment of a script into code. -/
def isAsciiBlank (c : Char) : Bool :=
  c == ' ' || c == '\t' || c == '\n' || c == '\x0c' || c == '\r'

/-- A control character: the two blocks below the printable characters of the
first two hundred and fifty-six code points, and delete. -/
def isControl (c : Char) : Bool :=
  c.toNat < 0x20 || (0x7F ≤ c.toNat && c.toNat ≤ 0x9F)

/-- Drop blanks at both ends. -/
def trim (text : List Char) : List Char :=
  ((text.dropWhile isBlank).reverse.dropWhile isBlank).reverse

/-- Drop blanks at both ends of a string. -/
def trimmed (text : String) : String :=
  String.ofList (trim text.toList)

/-- Nothing but blanks. -/
def isBlankText (text : String) : Bool :=
  text.toList.all isBlank

/-- Each ASCII blank is a blank. -/
theorem isBlank_of_isAsciiBlank {c : Char} (h : isAsciiBlank c = true) :
    isBlank c = true := by
  simp only [isAsciiBlank, Bool.or_eq_true, beq_iff_eq] at h
  rcases h with (((rfl | rfl) | rfl) | rfl) | rfl <;> decide

end MigrationLedger.Text
