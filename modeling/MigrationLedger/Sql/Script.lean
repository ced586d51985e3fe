/-
# Statements of a script

A script is cut into segments at its delimiter, which counts only in code: not
in quoted text, quoted names or comments. A segment becomes a statement when it
holds code, and is trimmed then; segments of blanks and comments are left out.
The delimiter is tried before anything else at each place of the code, so it
may itself begin with a quote or a dash.
-/

import MigrationLedger.Text.Blank

namespace MigrationLedger.Sql

/-- What a place in a script is part of. -/
inductive Region
  | code
  | quotedText
  | quotedName
  | lineComment
  | blockComment
  deriving DecidableEq, Repr

/-- What follows a character that was read in code. -/
def Region.afterCode (c : Char) : Region :=
  if c = '\'' then .quotedText else if c = '"' then .quotedName else .code

/-- A piece of a script between delimiters, and whether it holds code. -/
structure Segment where
  text : List Char
  hasCode : Bool
  deriving DecidableEq, Repr

namespace Script

/-- The segments of the rest of a script. `current` holds the characters of the
segment so far, the last one first. -/
def segmentsFrom (delimiter : List Char) (region : Region) (current : List Char)
    (hasCode : Bool) : List Char → List Segment
  | [] => [⟨current.reverse, hasCode⟩]
  | c :: rest =>
    match region with
    | .code =>
      if delimiter ≠ [] ∧ delimiter.isPrefixOf (c :: rest) then
        ⟨current.reverse, hasCode⟩ ::
          segmentsFrom delimiter .code [] false (rest.drop (delimiter.length - 1))
      else if c = '-' ∧ rest.head? = some '-' then
        segmentsFrom delimiter .lineComment ('-' :: c :: current) hasCode (rest.drop 1)
      else if c = '/' ∧ rest.head? = some '*' then
        segmentsFrom delimiter .blockComment ('*' :: c :: current) hasCode (rest.drop 1)
      else
        segmentsFrom delimiter (.afterCode c) (c :: current)
          (hasCode || !Text.isAsciiBlank c) rest
    | .quotedText =>
      segmentsFrom delimiter (if c = '\'' then .code else .quotedText) (c :: current) hasCode rest
    | .quotedName =>
      segmentsFrom delimiter (if c = '"' then .code else .quotedName) (c :: current) hasCode rest
    | .lineComment =>
      segmentsFrom delimiter (if c = '\n' then .code else .lineComment) (c :: current) hasCode rest
    | .blockComment =>
      if c = '*' ∧ rest.head? = some '/' then
        segmentsFrom delimiter .code ('/' :: c :: current) hasCode (rest.drop 1)
      else segmentsFrom delimiter .blockComment (c :: current) hasCode rest
termination_by script => script.length
decreasing_by all_goals (simp only [List.length_cons, List.length_drop]; omega)

/-- The segments of a script. An empty delimiter leaves it whole. -/
def segments (script delimiter : String) : List Segment :=
  segmentsFrom delimiter.toList .code [] false script.toList

/-- The statements of a script in order. -/
def statements (script delimiter : String) : List String :=
  ((segments script delimiter).filter (·.hasCode)).map fun segment =>
    String.ofList (Text.trim segment.text)

end Script

end MigrationLedger.Sql
