/-
# Tracking records

A tracking record says that a migration was applied: under which identifier and
when. It is exchanged as an object, or as a list of its three fields.
-/

import MigrationLedger.Json.Value
import MigrationLedger.Name

namespace MigrationLedger

/-- A migration that was applied. -/
structure MigrationRecord where
  id : String
  name : MigrationName
  appliedAt : String
  deriving DecidableEq, Repr

namespace MigrationRecord

/-- Read a record. Members that it does not know are ignored. -/
def ofJson? (value : Json.Value) : Option MigrationRecord := do
  match ← value.fields? false ["id", "name", "applied_at"] with
  | [some id, some name, some appliedAt] =>
    match MigrationName.parse (← name.text?) with
    | .ok name => some ⟨← id.text?, name, ← appliedAt.text?⟩
    | .error _ => none
  | _ => none

/-- Write a record as an object. -/
def toJson (record : MigrationRecord) : Json.Value :=
  .object [("id", .string record.id), ("name", .string record.name.text),
    ("applied_at", .string record.appliedAt)]

end MigrationRecord

end MigrationLedger
