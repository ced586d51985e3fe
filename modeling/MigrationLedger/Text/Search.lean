/-
# Finding texts in texts

Prefix, suffix and substring tests on strings, stated through the lists of
their characters so that facts about lists apply directly.
-/

namespace MigrationLedger.Text

/-- `text` begins with `start`. -/
def startsWith (text start : String) : Bool :=
  start.toList.isPrefixOf text.toList

/-- `text` ends with `ending`. -/
def endsWith (text ending : String) : Bool :=
  ending.toList.isSuffixOf text.toList

/-- `part` occurs somewhere in the characters `text`. -/
def occursIn (part : List Char) : List Char → Bool
  | [] => part.isEmpty
  | c :: rest => part.isPrefixOf (c :: rest) || occursIn part rest

/-- `part` occurs somewhere in `text`. -/
def contains (text part : String) : Bool :=
  occursIn part.toList text.toList

/-- What follows `start` at the beginning of `text`, if `text` begins so. -/
def dropStart? (start text : List Char) : Option (List Char) :=
  if start.isPrefixOf text then some (text.drop start.length) else none

/-- What follows `start` at the beginning of the string `text`. -/
def afterStart? (text start : String) : Option String :=
  (dropStart? start.toList text.toList).map String.ofList

/-- Number of bytes of a text in UTF-8. -/
def byteLength : List Char → Nat
  | [] => 0
  | c :: rest => c.utf8Size + byteLength rest

end MigrationLedger.Text
