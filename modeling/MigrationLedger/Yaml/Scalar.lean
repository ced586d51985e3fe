/-
# YAML scalars

The text of a scalar is not the text that stands in the document. Line breaks
inside plain and quoted scalars fold into spaces, escapes stand for characters,
and the lines of a block scalar lose their indentation.

Loops are bounded by the number of characters left: every turn reads at least
one of them.
-/

import MigrationLedger.Yaml.Cursor

namespace MigrationLedger.Yaml

/-! ### Gaps -/

/-- The blanks and breaks between two parts of a scalar. After a break, blanks
are indentation and count for nothing. -/
structure Gap where
  blanks : List Char := []
  breaks : List Char := []
  broken : Bool := false
  /-- The first break was escaped, so it leaves no trace. -/
  escaped : Bool := false

namespace Gap

/-- What a gap becomes in the text. A single break becomes a space; of several,
the first is dropped. -/
def folded (gap : Gap) : List Char :=
  if !gap.broken then gap.blanks
  else if gap.escaped then gap.breaks
  else
    match gap.breaks with
    | ['\n'] => [' ']
    | '\n' :: more => more
    | breaks => breaks

/-- Read a gap on. Tabs may not stand in for indentation that reaches up to the
column `tabsFrom`. -/
def readOn? (tabsFrom : Nat) : Nat → Gap → Cursor → Option (Gap × Cursor)
  | 0, gap, cursor => some (gap, cursor)
  | fuel + 1, gap, cursor =>
    match cursor.rest.head? with
    | none => some (gap, cursor)
    | some c =>
      if isBlank c then
        if gap.broken then
          if c == '\t' && cursor.column < tabsFrom then none
          else readOn? tabsFrom fuel gap (cursor.skip 1)
        else readOn? tabsFrom fuel { gap with blanks := gap.blanks ++ [c] } (cursor.skip 1)
      else if isBreak c then
        readOn? tabsFrom fuel { gap with broken := true, breaks := gap.breaks ++ cursor.breakText }
          cursor.skipBreak
      else some (gap, cursor)

/-- Read a gap. -/
def read? (tabsFrom : Nat) (gap : Gap) (cursor : Cursor) : Option (Gap × Cursor) :=
  readOn? tabsFrom cursor.rest.length gap cursor

end Gap

namespace Scalar

/-! ### Plain scalars -/

/-- A character that has a meaning of its own inside flow collections. -/
def isFlowIndicator (c : Char) : Bool :=
  c == ',' || c == '[' || c == ']' || c == '\x7b' || c == '\x7d'

/-- The dark characters that go on a plain scalar. In a flow collection a colon
right before an indicator is refused. -/
def plainRun? (inFlow : Bool) : List Char → Option (List Char)
  | [] => some []
  | c :: rest =>
    let next := rest.head?
    if !isDark c then some []
    else if inFlow && c == ':' && next.any (fun d => d == '?' || isFlowIndicator d) then none
    else if c == ':' && !next.any isDark then some []
    else if inFlow && isFlowIndicator c then some []
    else (plainRun? inFlow rest).map (c :: ·)

/-- Read a plain scalar on, after the text `text` and the gap `gap`. The answer
also says whether the scalar was followed by a line break. -/
def plainOn? (inFlow : Bool) (base : Nat) :
    Nat → List Char → Gap → Cursor → Option (List Char × Bool × Cursor)
  | 0, text, gap, cursor => some (text, gap.broken, cursor)
  | fuel + 1, text, gap, cursor => do
    if cursor.atDocumentMark || cursor.sees '#' then return (text, gap.broken, cursor)
    let run ← plainRun? inFlow cursor.rest
    if run.isEmpty then return (text, gap.broken, cursor)
    let text := text ++ gap.folded ++ run
    let (gap, cursor) ← Gap.read? base {} (cursor.skip run.length)
    if !inFlow && cursor.column < base then return (text, gap.broken, cursor)
    plainOn? inFlow base fuel text gap cursor

/-- Read a plain scalar. Outside of flow collections its further lines begin at
the column `base` or beyond. -/
def plain? (inFlow : Bool) (base : Nat) (cursor : Cursor) :
    Option (String × Bool × Cursor) := do
  let (text, broken, cursor) ← plainOn? inFlow base (cursor.rest.length + 1) [] {} cursor
  return (String.ofList text, broken, cursor)

/-! ### Quoted scalars -/

/-- The value of a hexadecimal digit. -/
def hexDigit? (c : Char) : Option Nat :=
  if c.isDigit then some (c.toNat - 48)
  else if 'a' ≤ c && c ≤ 'f' then some (c.toNat - 87)
  else if 'A' ≤ c && c ≤ 'F' then some (c.toNat - 55)
  else none

/-- The number that hexadecimal digits stand for. -/
def hexNumber? (digits : List Char) : Option Nat :=
  digits.foldlM (fun value c => (hexDigit? c).map (value * 16 + ·)) 0

/-- Characters that stand for another after a backslash. -/
def escapes : List (Char × Char) :=
  [('0', '\x00'), ('a', '\x07'), ('b', '\x08'), ('t', '\t'), ('\t', '\t'), ('n', '\n'),
    ('v', '\x0b'), ('f', '\x0c'), ('r', '\r'), ('e', '\x1b'), (' ', ' '), ('"', '"'),
    ('/', '/'), ('\\', '\\'), ('N', '\u0085'), ('_', '\u00a0'), ('L', '\u2028'),
    ('P', '\u2029')]

/-- Letters that announce a number of hexadecimal digits after a backslash. -/
def numericEscapes : List (Char × Nat) :=
  [('x', 2), ('u', 4), ('U', 8)]

/-- The character that an escape stands for, and the length of the escape. What
follows the backslash is given. -/
def escape? : List Char → Option (Char × Nat)
  | [] => none
  | c :: rest =>
    match escapes.lookup c, numericEscapes.lookup c with
    | some meaning, _ => some (meaning, 2)
    | none, some count => do
      let digits := rest.take count
      if digits.length < count then none
      let code ← hexNumber? digits
      if h : code.isValidChar then some (Char.ofNatAux code h, 2 + count) else none
    | none, none => none

/-- Read a quoted scalar on. The text read so far is listed last character
first. -/
def quotedOn? (quote : Char) : Nat → List Char → Cursor → Option (List Char × Cursor)
  | 0, _, _ => none
  | fuel + 1, text, cursor =>
    let afterGap (gap : Gap) (cursor : Cursor) : Option (List Char × Cursor) := do
      let (gap, cursor) ← gap.read? 0 cursor
      if cursor.atDocumentMark then none
      quotedOn? quote fuel (gap.folded.reverse ++ text) cursor
    match cursor.rest with
    | [] => none
    | c :: rest =>
      if c == quote then
        if quote == '\'' && rest.head? == some quote then
          quotedOn? quote fuel (c :: text) (cursor.skip 2)
        else some (text, cursor.skip 1)
      else if !isDark c then afterGap {} cursor
      else if c == '\\' && quote == '"' then
        if rest.head?.any isBreak then
          afterGap { broken := true, escaped := true } (cursor.skip 1).skipBreak
        else
          match escape? rest with
          | some (meaning, length) => quotedOn? quote fuel (meaning :: text) (cursor.skip length)
          | none => none
      else quotedOn? quote fuel (c :: text) (cursor.skip 1)

/-- Read a quoted scalar, beginning at its opening quote. -/
def quoted? (quote : Char) (cursor : Cursor) : Option (String × Cursor) := do
  let (text, cursor) ← quotedOn? quote (cursor.rest.length + 1) [] (cursor.skip 1)
  return (String.ofList text.reverse, cursor)

/-! ### Block scalars -/

/-- What happens to the breaks at the end of a block scalar. -/
inductive Chomping
  | strip
  | clip
  | keep
  deriving DecidableEq, Repr

/-- The header of a block scalar: what happens to its end, and by how much it is
indented if that is given. The two stand in either order. -/
def blockHeader? (cursor : Cursor) : Option (Chomping × Nat × Cursor) :=
  let chomping (cursor : Cursor) : Chomping × Cursor :=
    if cursor.sees '+' then (.keep, cursor.skip 1)
    else if cursor.sees '-' then (.strip, cursor.skip 1)
    else (.clip, cursor)
  let increment? (cursor : Cursor) : Option (Nat × Cursor) :=
    match cursor.rest.head? with
    | some c =>
      if c == '0' then none
      else if c.isDigit then some (c.toNat - 48, cursor.skip 1)
      else some (0, cursor)
    | none => some (0, cursor)
  if cursor.sees '+' || cursor.sees '-' then do
    let (chomp, cursor) := chomping cursor
    let (increment, cursor) ← increment? cursor
    some (chomp, increment, cursor)
  else do
    let (increment, cursor) ← increment? cursor
    if increment == 0 then some (.clip, 0, cursor)
    else
      let (chomp, cursor) := chomping cursor
      some (chomp, increment, cursor)

/-- Pass indentation and empty lines, collecting the breaks. An indentation of
zero is not known yet; the widest one seen is kept for it. -/
def blockBreaks? (indentation : Nat) :
    Nat → Nat → List Char → Cursor → Option (Nat × List Char × Cursor)
  | 0, widest, breaks, cursor => some (widest, breaks, cursor)
  | fuel + 1, widest, breaks, cursor =>
    let spaces := (cursor.rest.takeWhile (· == ' ')).length
    let wanted := if indentation == 0 then spaces else min spaces (indentation - cursor.column)
    let cursor := cursor.skip wanted
    let widest := max widest cursor.column
    if cursor.sees '\t' && (indentation == 0 || cursor.column < indentation) then none
    else if cursor.seesAny isBreak then
      blockBreaks? indentation fuel widest (breaks ++ cursor.breakText) cursor.skipBreak
    else some (widest, breaks, cursor)

/-- What has been read of a block scalar: its text, the break of its last line,
the breaks after that, and whether the last line began with a blank. -/
structure BlockText where
  text : List Char := []
  lastBreak : List Char := []
  breaks : List Char
  indented : Bool := false

/-- Add a line. In a folded scalar the break between two lines that do not begin
with blanks becomes a space, or vanishes next to empty lines. -/
def BlockText.add (read : BlockText) (isFolded : Bool) (line lastBreak breaks : List Char) :
    BlockText :=
  let indented := line.head?.any isBlank
  let join :=
    if isFolded && read.lastBreak == ['\n'] && !read.indented && !indented then
      if read.breaks.isEmpty then [' '] else []
    else read.lastBreak
  ⟨read.text ++ join ++ read.breaks ++ line, lastBreak, breaks, indented⟩

/-- Read the lines of a block scalar. -/
def blockLines? (isFolded : Bool) (indentation : Nat) :
    Nat → BlockText → Cursor → Option (BlockText × Cursor)
  | 0, read, cursor => some (read, cursor)
  | fuel + 1, read, cursor => do
    if cursor.column != indentation || cursor.rest.isEmpty then return (read, cursor)
    let (line, cursor) := cursor.span fun c => !isBreak c
    let lastBreak := cursor.breakText
    let cursor := cursor.skipBreak
    let (_, breaks, cursor) ← blockBreaks? indentation (cursor.rest.length + 1) 0 [] cursor
    blockLines? isFolded indentation fuel (read.add isFolded line lastBreak breaks) cursor

/-- Read a block scalar, beginning at its indicator. Its lines are indented at
least up to the column `base`. -/
def block? (isFolded : Bool) (base : Nat) (cursor : Cursor) : Option (String × Cursor) := do
  let (chomping, increment, cursor) ← blockHeader? (cursor.skip 1)
  let cursor ← cursor.finishLine?
  let given := if increment == 0 then 0 else base - 1 + increment
  let (widest, breaks, cursor) ← blockBreaks? given (cursor.rest.length + 1) 0 [] cursor
  let indentation := if given == 0 then max widest (max base 1) else given
  let (read, cursor) ←
    blockLines? isFolded indentation (cursor.rest.length + 1) { breaks := breaks } cursor
  let ending := match chomping with
    | .strip => []
    | .clip => read.lastBreak
    | .keep => read.lastBreak ++ read.breaks
  return (String.ofList (read.text ++ ending), cursor)

end Scalar

end MigrationLedger.Yaml
