/-
# YAML tokens

What a YAML text consists of, once indentation has been turned into brackets: a
block collection is opened and closed by tokens of its own, and each key is
announced by one.
-/

namespace MigrationLedger.Yaml

/-- How a scalar is written. It decides whether the text may stand for something
other than itself. -/
inductive ScalarStyle
  | plain
  | quoted
  | literal
  | folded
  deriving DecidableEq, Repr

/-- A token. The end of the text is the end of the list of tokens. -/
inductive Token
  | version (major minor : Nat)
  | handle (name expansion : String)
  | documentStart
  | documentEnd
  | blockSequenceStart
  | blockMappingStart
  | blockEnd
  | flowSequenceStart
  | flowSequenceEnd
  | flowMappingStart
  | flowMappingEnd
  | blockEntry
  | flowEntry
  | key
  | value
  | reference (name : String)
  | anchor (name : String)
  | tag (handle suffix : String)
  | scalar (style : ScalarStyle) (text : String)
  deriving DecidableEq, Repr

end MigrationLedger.Yaml
