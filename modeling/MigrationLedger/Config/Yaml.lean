/-
# Configurations in YAML

Which YAML nodes are read as texts, as truth values, as nothing, as lists and as
fields. Any scalar is a text, whatever else it could be read as; only a plain
scalar can stand for nothing; and where a list or fields are expected, a plain
scalar without text is an empty one.
-/

import MigrationLedger.Config.File
import MigrationLedger.Config.Notation
import MigrationLedger.Yaml.Node

namespace MigrationLedger.Yaml

/-- The tag of nothing. -/
def nothingTag : String := "tag:yaml.org,2002:null"

/-- The tag of truth values. -/
def flagTag : String := "tag:yaml.org,2002:bool"

namespace Document

variable (document : Document)

/-- Any scalar is a text. -/
def text? (node : Node) : Option String := do
  match ← document.resolve node with
  | .scalar _ _ text => return text
  | _ => none

/-- The spellings of nothing. -/
def spellsNothing (text : String) : Bool :=
  ["null", "Null", "NULL", "~"].contains text

/-- A plain scalar is nothing when it spells nothing or is empty. One that is
tagged as nothing has to spell it, and one with another tag never does. -/
def optionalText? (node : Node) : Option (Option String) := do
  match ← document.resolve node with
  | .scalar none .plain text =>
    return if text.isEmpty || spellsNothing text then none else some text
  | .scalar (some tag) .plain text =>
    if tag == nothingTag then if spellsNothing text then return none else none
    else return some text
  | .scalar _ _ text => return some text
  | _ => none

/-- The truth value that a text spells. -/
def spelledFlag? (text : String) : Option Bool :=
  if ["true", "True", "TRUE"].contains text then some true
  else if ["false", "False", "FALSE"].contains text then some false
  else none

/-- A plain scalar, or a literal one with the tag of truth values. -/
def flag? (node : Node) : Option Bool := do
  match ← document.resolve node with
  | .scalar _ .plain text => spelledFlag? text
  | .scalar (some tag) .literal text => if tag == flagTag then spelledFlag? text else none
  | _ => none

/-- A sequence, or an empty plain scalar. -/
def items? (node : Node) : Option (List Node) := do
  match ← document.resolve node with
  | .sequence items => return items
  | .scalar _ .plain "" => return []
  | _ => none

/-- The entries of a mapping whose keys are texts, each different. -/
def entries? (node : Node) : Option (List (String × Node)) := do
  match ← document.resolve node with
  | .mapping entries =>
    let entries ← entries.mapM fun (key, value) => (document.text? key).map (·, value)
    if entries.Pairwise fun a b => a.1 ≠ b.1 then return entries else none
  | .scalar _ .plain "" => return []
  | _ => none

/-- The values of exactly these fields, each of which may be missing. -/
def fields? (names : List String) (node : Node) : Option (List (Option Node)) := do
  let entries ← document.entries? node
  if entries.any fun entry => !names.contains entry.1 then none
  else return names.map fun name => entries.lookup name

/-- Reading from this document. -/
def reader : MigrationLedger.Document Node where
  text? := document.text?
  optionalText? := document.optionalText?
  flag? := document.flag?
  items? := document.items?
  fields? := document.fields?

end Document

end MigrationLedger.Yaml

namespace MigrationLedger.Config

/-- Read a configuration from the text of a YAML document. -/
def ofYaml? (text : String) : Option Config := do
  let document ← Yaml.Document.ofText? text
  document.reader.config? document.root

/-- Configurations are written in YAML. -/
def Format.yaml : Format := ⟨ofYaml?⟩

/-- Load the YAML file at a path. -/
def load (files : FileTree) (path : String) : Except ConfigFailure Config :=
  Format.yaml.load files path

/-- Load the YAML file in a directory. -/
def loadFromDirectory (files : FileTree) (directory : String) : Except ConfigFailure Config :=
  Format.yaml.loadFromDirectory files directory

/-- Load the YAML file in a directory, or else the defaults. -/
def loadOrDefault (files : FileTree) (directory : String) : Except ConfigFailure Config :=
  Format.yaml.loadOrDefault files directory

end MigrationLedger.Config
