/-
# YAML properties and directives

Names that a document gives to its nodes, tags that say what kind of node one
is, and the directives in front of a document that declare its version and
abbreviations for tags. The octets of an escaped tag are kept as characters of
the same number, which is enough to compare it with a tag of ASCII characters.
-/

import MigrationLedger.Yaml.Scalar
import MigrationLedger.Yaml.Token

namespace MigrationLedger.Yaml.Property

/-- Read the name of an anchor or alias, beginning at its indicator. A gap or
one of a few indicators has to follow it. -/
def name? (cursor : Cursor) : Option (String × Cursor) :=
  let (name, cursor) := (cursor.skip 1).span isNameCharacter
  let ends := cursor.gapAt 0 || cursor.seesAny fun c =>
    c == '?' || c == ':' || c == ',' || c == ']' || c == '\x7d' || c == '%' || c == '@' ||
    c == '\x60'
  if name.isEmpty || !ends then none else some (String.ofList name, cursor)

/-- Read a handle: exclamation mark, name, exclamation mark. The second mark may
be missing; then the handle is only the beginning of a tag. -/
def handle? (cursor : Cursor) : Option (List Char × Cursor) :=
  if cursor.sees '!' then
    let (name, cursor) := (cursor.skip 1).span isNameCharacter
    if cursor.sees '!' then some ('!' :: name ++ ['!'], cursor.skip 1)
    else some ('!' :: name, cursor)
  else none

/-- A character of a tag. Flow indicators are allowed where the end of the tag
is marked. -/
def isTagCharacter (inBrackets : Bool) (c : Char) : Bool :=
  isNameCharacter c || ";/?:@&=+$.%!~*'()".toList.contains c ||
    (inBrackets && (c == ',' || c == '[' || c == ']'))

/-- Number of octets of a character, told from the first. -/
def octets? (first : Nat) : Option Nat :=
  if first < 0x80 then some 1
  else if 0xC0 ≤ first && first < 0xE0 then some 2
  else if 0xE0 ≤ first && first < 0xF0 then some 3
  else if 0xF0 ≤ first && first < 0xF8 then some 4
  else none

/-- Read the characters of a tag. Escaped octets have to come in the groups that
UTF-8 makes of characters; `owed` octets of the last group are still missing. -/
def tagText? (inBrackets : Bool) : Nat → List Char → Option (List Char × List Char)
  | owed, '%' :: a :: b :: rest => do
    let octet ← Scalar.hexNumber? [a, b]
    let owed ←
      if owed == 0 then (octets? octet).map (· - 1)
      else if 0x80 ≤ octet && octet < 0xC0 then some (owed - 1)
      else none
    let (text, rest) ← tagText? inBrackets owed rest
    some (Char.ofNat octet :: text, rest)
  | 0, c :: rest =>
    if isTagCharacter inBrackets c then
      if c == '%' then none
      else (tagText? inBrackets 0 rest).map fun (text, rest) => (c :: text, rest)
    else some ([], c :: rest)
  | 0, [] => some ([], [])
  | _ + 1, _ => none

/-- Read the characters of a tag after those of `head`. There has to be at least
one of them together. -/
def tagOn? (inBrackets : Bool) (head : List Char) (cursor : Cursor) :
    Option (String × Cursor) := do
  let (text, rest) ← tagText? inBrackets 0 cursor.rest
  if head.isEmpty && text.isEmpty then none
  return (String.ofList (head.drop 1 ++ text), cursor.skip (cursor.rest.length - rest.length))

/-- Read a tag, beginning at its exclamation mark: in angle brackets, after a
handle, or on its own. A gap has to follow it, or a comma in a flow
collection. -/
def tag? (inFlow : Bool) (cursor : Cursor) : Option (Token × Cursor) := do
  let (token, cursor) ←
    if cursor.seesAt 1 '<' then do
      let (suffix, cursor) ← tagOn? true [] (cursor.skip 2)
      if cursor.sees '>' then some (Token.tag "" suffix, cursor.skip 1) else none
    else do
      let (handle, cursor) ← handle? cursor
      if 1 < handle.length && handle.getLast? == some '!' then do
        let (suffix, cursor) ← tagOn? false [] cursor
        some (Token.tag (String.ofList handle) suffix, cursor)
      else do
        let (suffix, cursor) ← tagOn? false handle cursor
        some (if suffix.isEmpty then Token.tag "" "!" else Token.tag "!" suffix, cursor)
  if cursor.gapAt 0 || (inFlow && cursor.sees ',') then some (token, cursor) else none

/-- Read a part of a version number: one to nine digits. -/
def versionPart? (cursor : Cursor) : Option (Nat × Cursor) :=
  let (digits, cursor) := cursor.span Char.isDigit
  if digits.isEmpty || 9 < digits.length then none
  else some (digits.foldl (fun value c => value * 10 + (c.toNat - 48)) 0, cursor)

/-- Read a directive, beginning at its percent sign. -/
def directive? (cursor : Cursor) : Option (Token × Cursor) := do
  let (name, cursor) := (cursor.skip 1).span isNameCharacter
  if !cursor.gapAt 0 then none
  let cursor := cursor.skipWhile isBlank
  match String.ofList name with
  | "YAML" =>
    let (major, cursor) ← versionPart? cursor
    if !cursor.sees '.' then none
    let (minor, cursor) ← versionPart? (cursor.skip 1)
    return (.version major minor, ← cursor.finishLine?)
  | "TAG" =>
    let (handle, cursor) ← handle? cursor
    if handle.length != 1 && handle.getLast? != some '!' then none
    if !cursor.seesAny isBlank then none
    let (expansion, cursor) ← tagOn? true [] (cursor.skipWhile isBlank)
    if !cursor.gapAt 0 then none
    return (.handle (String.ofList handle) expansion, ← cursor.finishLine?)
  | _ => none

end MigrationLedger.Yaml.Property
