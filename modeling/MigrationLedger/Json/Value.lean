/-
# JSON values

The values that configuration and reports are exchanged in. Numbers are whole;
no other number has a meaning here. The members of an object keep their order.
-/

namespace MigrationLedger.Json

/-- A JSON value. -/
inductive Value
  | null
  | bool (value : Bool)
  | number (value : Int)
  | string (value : String)
  | array (items : List Value)
  | object (members : List (String × Value))
  deriving Inhabited

namespace Value

/-- The value is a string. -/
def text? : Value → Option String
  | .string value => some value
  | _ => none

/-- A string or nothing: `null` stands for nothing. -/
def optionalText? : Value → Option (Option String)
  | .null => some none
  | .string value => some (some value)
  | _ => none

/-- The value is a truth value. -/
def flag? : Value → Option Bool
  | .bool value => some value
  | _ => none

/-- The value is a list. -/
def items? : Value → Option (List Value)
  | .array items => some items
  | _ => none

/-- The values of named fields. They are the members of an object with these
names, or the items of a list in the order of the names, and any of them may be
missing. Members with other names are refused when the fields are `closed`, and
additional items of a list always are. -/
def fields? (closed : Bool) (names : List String) : Value → Option (List (Option Value))
  | .object members =>
    if closed && members.any fun entry => !names.contains entry.1 then none
    else some (names.map fun name => members.lookup name)
  | .array items =>
    if names.length < items.length then none
    else some (items.map some ++ List.replicate (names.length - items.length) none)
  | _ => none

/-- A string, or `null` for nothing. -/
def ofOptionalText : Option String → Value
  | none => .null
  | some value => .string value

end Value

end MigrationLedger.Json
