/-
# Writing JSON

The text of a value with one member a line and two blanks a level. Texts are
quoted with the escapes that the format knows, and with the number of the
character where it knows none.
-/

import MigrationLedger.Json.Value

namespace MigrationLedger.Json

/-- The hexadecimal digit with a value. -/
def hexDigit (n : Nat) : Char :=
  if n < 10 then Char.ofNat ('0'.toNat + n) else Char.ofNat ('a'.toNat + n - 10)

/-- A character as it is written between quotes. -/
def escaped (c : Char) : List Char :=
  match c with
  | '"' => ['\\', '"']
  | '\\' => ['\\', '\\']
  | '\n' => ['\\', 'n']
  | '\r' => ['\\', 'r']
  | '\t' => ['\\', 't']
  | '\x08' => ['\\', 'b']
  | '\x0c' => ['\\', 'f']
  | c =>
    if c.toNat < 0x20 then
      ['\\', 'u', '0', '0', hexDigit (c.toNat / 16), hexDigit (c.toNat % 16)]
    else [c]

/-- A text between quotes. -/
def quoted (text : String) : String :=
  String.ofList ('"' :: text.toList.flatMap escaped ++ ['"'])

/-- A line end and the blanks in front of a member of a level. -/
def newLine (level : Nat) : String :=
  "\n" ++ String.ofList (List.replicate (2 * level) ' ')

/-- Members between two brackets, one a line. Without members the brackets stand
next to each other. -/
def block (opening closing : String) (level : Nat) (members : List String) : String :=
  if members.isEmpty then opening ++ closing
  else
    opening ++ String.join ((members.map (newLine (level + 1) ++ ·)).intersperse ",") ++
      newLine level ++ closing

namespace Value

/-- The text of a value on a level. -/
def prettyAt (level : Nat) : Value → String
  | .null => "null"
  | .bool value => if value then "true" else "false"
  | .number value => toString value
  | .string value => quoted value
  | .array items =>
    block "[" "]" level (items.attach.map fun ⟨item, _⟩ => item.prettyAt (level + 1))
  | .object members =>
    block "\x7b" "\x7d" level (members.attach.map fun ⟨(name, value), _⟩ =>
      quoted name ++ ": " ++ value.prettyAt (level + 1))
termination_by value => sizeOf value
decreasing_by
  · have := List.sizeOf_lt_of_mem ‹item ∈ items›
    simp only [Value.array.sizeOf_spec]
    omega
  · have := List.sizeOf_lt_of_mem ‹(name, value) ∈ members›
    simp only [Prod.mk.sizeOf_spec, Value.object.sizeOf_spec] at this ⊢
    omega

/-- The text of a value. -/
def pretty (value : Value) : String := value.prettyAt 0

end Value

end MigrationLedger.Json
