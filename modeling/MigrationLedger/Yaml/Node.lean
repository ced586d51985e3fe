/-
# YAML nodes

A document is one node: a scalar, a sequence or a mapping. A node can be named by
an anchor, and an alias stands for a node named before. Aliases are kept as
numbers, together with the nodes that the numbers stand for, because an anchor
may be used again while aliases to its old node exist.

Reading is bounded by the number of tokens: of two nested steps at least one
reads a token.
-/

import MigrationLedger.Yaml.Lexer

namespace MigrationLedger.Yaml

/-- A node. A mapping keeps its entries in order, duplicates included. -/
inductive Node
  | scalar (tag : Option String) (style : ScalarStyle) (text : String)
  | sequence (items : List Node)
  | mapping (entries : List (Node × Node))
  | reference (number : Nat)

/-- A node that nothing is written for. -/
def Node.empty : Node := .scalar none .plain ""

/-- A node and the nodes that its aliases stand for. -/
structure Document where
  root : Node
  named : List (Nat × Node)

/-- What reading nodes keeps track of. -/
structure Reading where
  tokens : List Token
  /-- The expansions of the handles of tags. -/
  handles : List (String × String)
  /-- The numbers of anchors, those given last first. -/
  anchors : List (String × Nat) := []
  /-- For each number the turn at which it was given, those given last first. -/
  turns : List (Nat × Nat) := []
  /-- The named nodes by the turns at which their names were given. -/
  nodes : List (Nat × Node) := []

/-- A reader of nodes. -/
abbrev Reader := StateT Reading Option

namespace Reader

/-- The next token. -/
def peek : Reader (Option Token) := do return (← get).tokens.head?

/-- Pass over one token. -/
def skip : Reader Unit := modify fun reading => { reading with tokens := reading.tokens.drop 1 }

/-- The next token is this one. -/
def sees (token : Token) : Reader Bool := do return (← peek) == some token

/-- The next token is one of these. -/
def seesAny (tokens : List Token) : Reader Bool := do return (← peek).any tokens.contains

/-- Pass over the next token, which has to be this one. -/
def expect (token : Token) : Reader Unit := do
  if ← sees token then skip else failure

/-- Pass over the next token if it is this one. -/
def accept (token : Token) : Reader Bool := do
  if ← sees token then
    skip
    return true
  else return false

/-- The full tag that a handle and a suffix stand for. -/
def expand (handle suffix : String) : Reader String := do
  if handle.isEmpty then return suffix
  match (← get).handles.lookup handle with
  | some expansion => return expansion ++ suffix
  | none => failure

/-- The anchor and the tag of a node, in either order. -/
def properties : Reader (Option String × Option String) := do
  match ← peek with
  | some (.anchor name) =>
    skip
    match ← peek with
    | some (.tag handle suffix) =>
      skip
      return (some name, some (← expand handle suffix))
    | _ => return (some name, none)
  | some (.tag handle suffix) =>
    skip
    match ← peek with
    | some (.anchor name) =>
      skip
      return (some name, some (← expand handle suffix))
    | _ => return (none, some (← expand handle suffix))
  | _ => return (none, none)

/-- Give a number to an anchor: how many different names there are so far. A name
that is used again adds no name, so the next new name takes its number over.
The answer is the turn at which the number was given. -/
def number (name : String) : Reader Nat := do
  let reading ← get
  let known := reading.anchors
  let turn := reading.turns.length
  let count := (known.map (·.1)).eraseDups.length
  set { reading with
    anchors := (name, count) :: known
    turns := (count, turn) :: reading.turns }
  return turn

/-- Read a node with its properties; `content` reads the rest of it, given the
tag and whether there is any property. -/
def named (content : Option String → Bool → Reader Node) : Reader Node := do
  let (anchor, tag) ← properties
  match anchor with
  | some name =>
    let turn ← number name
    let node ← content tag true
    modify fun reading => { reading with nodes := (turn, node) :: reading.nodes }
    return node
  | none => content tag tag.isSome

mutual

/-- Read a node. Block collections count only where `inBlock` says so, and a
sequence that is not indented only as a key or value of a block mapping. -/
def node (inBlock unindented : Bool) : Nat → Reader Node
  | 0 => failure
  | fuel + 1 => do
    match ← peek with
    | some (.reference name) =>
      skip
      match (← get).anchors.lookup name with
      | some number => return .reference number
      | none => failure
    | _ => named (content inBlock unindented fuel)

/-- Read a node after its properties. -/
def content (inBlock unindented : Bool) (fuel : Nat) (tag : Option String)
    (hasProperties : Bool) : Reader Node :=
  match fuel with
  | 0 => failure
  | fuel + 1 => do
    match ← peek with
    | some (.scalar style text) =>
      skip
      return .scalar (tag.filter (· != "!")) style text
    | some .blockEntry =>
      if unindented then return .sequence (← unindentedEntries fuel)
      else if hasProperties then return .scalar tag .plain ""
      else failure
    | some .flowSequenceStart =>
      skip
      return .sequence (← flowItems true fuel)
    | some .flowMappingStart =>
      skip
      return .mapping (← flowEntries true fuel)
    | some .blockSequenceStart =>
      if inBlock then
        skip
        return .sequence (← blockEntries fuel)
      else if hasProperties then return .scalar tag .plain ""
      else failure
    | some .blockMappingStart =>
      if inBlock then
        skip
        return .mapping (← blockPairs fuel)
      else if hasProperties then return .scalar tag .plain ""
      else failure
    | _ => if hasProperties then return .scalar tag .plain "" else failure

/-- Read a node unless one of these tokens is next; then nothing is written for
it. -/
def nodeUnless (stops : List Token) (inBlock unindented : Bool) (fuel : Nat) : Reader Node :=
  match fuel with
  | 0 => failure
  | fuel + 1 => do
    if ← seesAny stops then return .empty
    node inBlock unindented fuel

/-- The entries of a block sequence up to its end. -/
def blockEntries : Nat → Reader (List Node)
  | 0 => failure
  | fuel + 1 => do
    if ← accept .blockEnd then return []
    expect .blockEntry
    let item ← nodeUnless [.blockEntry, .blockEnd] true false fuel
    return item :: (← blockEntries fuel)

/-- The entries of a block sequence that is not indented. It ends with the last
of them. -/
def unindentedEntries : Nat → Reader (List Node)
  | 0 => failure
  | fuel + 1 => do
    if ← accept .blockEntry then
      let item ← nodeUnless [.blockEntry, .key, .value, .blockEnd] true false fuel
      return item :: (← unindentedEntries fuel)
    else return []

/-- The entries of a block mapping up to its end. -/
def blockPairs : Nat → Reader (List (Node × Node))
  | 0 => failure
  | fuel + 1 => do
    if ← accept .blockEnd then return []
    expect .key
    let stops := [Token.key, .value, .blockEnd]
    let key ← nodeUnless stops true true fuel
    let value ← if ← accept .value then nodeUnless stops true true fuel else pure .empty
    return (key, value) :: (← blockPairs fuel)

/-- The items of a flow sequence up to its end. A key makes a mapping of one
entry. -/
def flowItems (isFirst : Bool) : Nat → Reader (List Node)
  | 0 => failure
  | fuel + 1 => do
    if ← accept .flowSequenceEnd then return []
    if !isFirst then expect .flowEntry
    if ← accept .flowSequenceEnd then return []
    let item ←
      if ← accept .key then do
        let stops := [Token.flowEntry, .flowSequenceEnd]
        let key ← if ← accept .value then pure .empty else nodeUnless stops false false fuel
        let value ← if ← accept .value then nodeUnless stops false false fuel else pure .empty
        pure (.mapping [(key, value)])
      else node false false fuel
    return item :: (← flowItems false fuel)

/-- The entries of a flow mapping up to its end. -/
def flowEntries (isFirst : Bool) : Nat → Reader (List (Node × Node))
  | 0 => failure
  | fuel + 1 => do
    if ← accept .flowMappingEnd then return []
    if !isFirst then expect .flowEntry
    if ← accept .flowMappingEnd then return []
    let stops := [Token.flowEntry, .flowMappingEnd]
    let entry ←
      if ← accept .key then do
        let key ← nodeUnless (.value :: stops) false false fuel
        let value ← if ← accept .value then nodeUnless stops false false fuel else pure .empty
        pure (key, value)
      else do
        let key ← node false false fuel
        pure (key, .empty)
    return entry :: (← flowEntries false fuel)

end

end Reader

namespace Document

/-- The handles that every document knows. -/
def commonHandles : List (String × String) :=
  [("!", "!"), ("!!", "tag:yaml.org,2002:")]

/-- Read the directives in front of a document: at most one version, which has to
be 1.1 or 1.2, and different handles. The handles come back with the rest. -/
def directives? (seesVersion : Bool) (handles : List (String × String)) :
    List Token → Option (List (String × String) × List Token)
  | .version major minor :: rest =>
    if seesVersion || major != 1 || (minor != 1 && minor != 2) then none
    else directives? true handles rest
  | .handle name expansion :: rest =>
    if (handles.lookup name).isSome then none
    else directives? seesVersion ((name, expansion) :: handles) rest
  | tokens => some (handles, tokens)

/-- Read a document whose first token is `tokens.head`. Only marks of its end may
follow it. -/
def read? (handles : List (String × String)) (mayBeEmpty : Bool) (tokens : List Token) :
    Option Document := do
  let start : Reading := { tokens, handles := handles ++ commonHandles }
  let isEmpty := mayBeEmpty && (tokens.head?.isNone || tokens.head? == some .documentEnd)
  let (root, reading) ←
    if isEmpty then some (Node.empty, start)
    else (Reader.node true false (3 * tokens.length + 3)).run start
  if !reading.tokens.all (· == .documentEnd) then none
  let named := reading.turns.filterMap fun (number, turn) =>
    (reading.nodes.lookup turn).map (number, ·)
  return ⟨root, named⟩

/-- The only document of a text. Nothing at all is a document that holds nothing.
A document may begin with directives and a mark. -/
def ofTokens? (tokens : List Token) : Option Document := do
  match tokens with
  | [] => return ⟨.empty, []⟩
  | .version _ _ :: _ | .handle _ _ :: _ | .documentStart :: _ =>
    let (handles, tokens) ← directives? false [] tokens
    match tokens with
    | .documentStart :: tokens => read? handles true tokens
    | _ => none
  | _ => read? [] false tokens

/-- The only document of a text. -/
def ofText? (text : String) : Option Document := do
  ofTokens? (← Token.ofText? text)

/-- The node that a node stands for. -/
def resolve (document : Document) : Node → Option Node
  | .reference number => document.named.lookup number
  | node => some node

end Document

end MigrationLedger.Yaml
