/-
YAML documents.

A document is a tree of scalars, sequences and mappings.  An alias stands for
the node that carries its anchor; inside that node itself it stands for no
finite tree and is kept as `unfinished`.
-/

import HttpRouting.Yaml.Token

namespace HttpRouting

namespace Yaml

inductive Node where
  /-- A scalar, and whether it stands without quotes and block marks. -/
  | scalar (text : String) (plain : Bool)
  | sequence (elements : List Node)
  | mapping (entries : List (Node × Node))
  | unfinished
  deriving Repr, Inhabited

def Node.empty : Node :=
  .scalar "" true

/-- Tokens still to be read, the nodes of the anchors read so far with the
latest first, and the tag handles of the document. -/
structure Reading where
  tokens : List Token
  anchors : List (String × Node) := []
  handles : List String := []
  deriving Inhabited

namespace Reading

def skip (reading : Reading) : Reading :=
  { reading with tokens := reading.tokens.tail }

def nextIs (tokens : List Token) (reading : Reading) : Bool :=
  match reading.tokens with
  | [] => false
  | token :: _ => tokens.contains token

def define (name : String) (node : Node) (reading : Reading) : Reading :=
  { reading with anchors := (name, node) :: reading.anchors }

def skipTag (reading : Reading) : Option (Bool × Reading) :=
  match reading.tokens with
  | .tag handle :: _ =>
      if handle.all reading.handles.contains then some (true, reading.skip)
      else none
  | _ => some (false, reading)

def takeAnchor (reading : Reading) : Option String × Reading :=
  match reading.tokens with
  | .anchor name :: _ => (some name, reading.skip)
  | _ => (none, reading)

/-- The anchor of a node, whether it has an anchor or a tag, and the position
behind them; they stand in either order. -/
def takeProperties (reading : Reading) :
    Option (Option String × Bool × Reading) := do
  let (before, reading) := reading.takeAnchor
  let (tagged, reading) ← reading.skipTag
  let (after, reading) :=
    if before.isNone && tagged then reading.takeAnchor else (none, reading)
  let anchor := before.or after
  pure (anchor, tagged || anchor.isSome, reading)

end Reading

mutual

/-- A node.  Block collections begin only where `block` says so, and a
sequence without indentation only as a key or a value of a block mapping. -/
def readNode (block entries : Bool) :
    Nat → Reading → Option (Node × Reading)
  | 0, _ => none
  | fuel + 1, reading =>
      match reading.tokens with
      | .alias name :: _ =>
          (reading.anchors.lookup name).map (fun node => (node, reading.skip))
      | _ => do
          let (anchor, hasProperties, reading) ← reading.takeProperties
          let reading :=
            match anchor with
            | some name => reading.define name .unfinished
            | none => reading
          let (node, reading) ←
            readContent block entries hasProperties fuel reading
          match anchor with
          | some name => some (node, reading.define name node)
          | none => some (node, reading)

/-- A node behind its anchor and its tag; with one of them it may be left
out. -/
def readContent (block entries optional : Bool) :
    Nat → Reading → Option (Node × Reading)
  | 0, _ => none
  | fuel + 1, reading =>
      let missing := if optional then some (Node.empty, reading) else none
      match reading.tokens with
      | .scalar text plain :: _ => some (.scalar text plain, reading.skip)
      | .flowSequenceStart :: _ =>
          readFlowSequence true [] fuel reading.skip
      | .flowMappingStart :: _ => readFlowMapping true [] fuel reading.skip
      | .blockEntry :: _ =>
          if entries then readBlockEntries false [] fuel reading else missing
      | .blockSequenceStart :: _ =>
          if block then readBlockEntries true [] fuel reading.skip
          else missing
      | .blockMappingStart :: _ =>
          if block then readBlockMapping [] fuel reading.skip else missing
      | _ => missing

def readOptional (block : Bool) (before : List Token) :
    Nat → Reading → Option (Node × Reading)
  | 0, _ => none
  | fuel + 1, reading =>
      if reading.nextIs before then some (Node.empty, reading)
      else readNode block block fuel reading

/-- Entries of a block sequence, given those before them from last to first.
An indented sequence ends with a token of its own. -/
def readBlockEntries (indented : Bool) (elements : List Node) :
    Nat → Reading → Option (Node × Reading)
  | 0, _ => none
  | fuel + 1, reading =>
      match reading.tokens with
      | .blockEntry :: _ => do
          let reading := reading.skip
          let before :=
            if indented then [Token.blockEntry, .blockEnd]
            else [Token.blockEntry, .key, .value, .blockEnd]
          let (element, reading) ←
            if reading.nextIs before then some (Node.empty, reading)
            else readNode true false fuel reading
          readBlockEntries indented (element :: elements) fuel reading
      | token :: _ =>
          if !indented then some (.sequence elements.reverse, reading)
          else if token = .blockEnd then
            some (.sequence elements.reverse, reading.skip)
          else none
      | [] =>
          if indented then none
          else some (.sequence elements.reverse, reading)

def readBlockMapping (entries : List (Node × Node)) :
    Nat → Reading → Option (Node × Reading)
  | 0, _ => none
  | fuel + 1, reading =>
      match reading.tokens with
      | .key :: _ => do
          let before := [Token.key, .value, .blockEnd]
          let (key, reading) ← readOptional true before fuel reading.skip
          let (value, reading) ←
            if reading.nextIs [.value] then
              readOptional true before fuel reading.skip
            else some (Node.empty, reading)
          readBlockMapping ((key, value) :: entries) fuel reading
      | .blockEnd :: _ => some (.mapping entries.reverse, reading.skip)
      | _ => none

def readFlowValue (before : List Token) :
    Nat → Reading → Option (Node × Reading)
  | 0, _ => none
  | fuel + 1, reading =>
      if reading.nextIs [.value] then
        readOptional false before fuel reading.skip
      else some (Node.empty, reading)

def readFlowSequence (first : Bool) (elements : List Node) :
    Nat → Reading → Option (Node × Reading)
  | 0, _ => none
  | fuel + 1, reading =>
      if reading.nextIs [.flowSequenceEnd] then
        some (.sequence elements.reverse, reading.skip)
      else do
        let reading ←
          if first then some reading
          else if reading.nextIs [.flowEntry] then some reading.skip
          else none
        if reading.nextIs [.flowSequenceEnd] then
          some (.sequence elements.reverse, reading.skip)
        else
          let (element, reading) ←
            if reading.nextIs [.key] then readFlowPair fuel reading.skip
            else readNode false false fuel reading
          readFlowSequence false (element :: elements) fuel reading

/-- A mapping with one entry inside a flow sequence, from behind its key mark.
A token that stands in place of the key is passed over. -/
def readFlowPair : Nat → Reading → Option (Node × Reading)
  | 0, _ => none
  | fuel + 1, reading => do
      let (key, reading) ←
        if reading.nextIs [.value, .flowEntry, .flowSequenceEnd] then
          some (Node.empty, reading.skip)
        else readNode false false fuel reading
      let (value, reading) ←
        readFlowValue [.flowEntry, .flowSequenceEnd] fuel reading
      some (.mapping [(key, value)], reading)

def readFlowMapping (first : Bool) (entries : List (Node × Node)) :
    Nat → Reading → Option (Node × Reading)
  | 0, _ => none
  | fuel + 1, reading =>
      if reading.nextIs [.flowMappingEnd] then
        some (.mapping entries.reverse, reading.skip)
      else do
        let reading ←
          if first then some reading
          else if reading.nextIs [.flowEntry] then some reading.skip
          else none
        if reading.nextIs [.flowMappingEnd] then
          some (.mapping entries.reverse, reading.skip)
        else if reading.nextIs [.key] then
          let (key, reading) ←
            readOptional false [.value, .flowEntry, .flowMappingEnd] fuel
              reading.skip
          let (value, reading) ←
            readFlowValue [.flowEntry, .flowMappingEnd] fuel reading
          readFlowMapping false ((key, value) :: entries) fuel reading
        else
          let (key, reading) ← readNode false false fuel reading
          readFlowMapping false ((key, Node.empty) :: entries) fuel reading

end

/-! ### Documents -/

/-- Past the directives of a document: at most one version, and each tag
handle once. -/
def readDirectives (versioned : Bool) (handles : List String) :
    List Token → Option (List String × List Token)
  | .versionDirective :: rest =>
      if versioned then none else readDirectives true handles rest
  | .tagDirective handle :: rest =>
      if handles.contains handle then none
      else readDirectives versioned (handle :: handles) rest
  | tokens => some (handles, tokens)

def readRoot (handles : List String) (tokens : List Token) :
    Option (Node × List Token) :=
  let reading : Reading :=
    { tokens := tokens
      handles := handles }
  if tokens.isEmpty || reading.nextIs [.documentStart, .documentEnd] then
    some (Node.empty, tokens)
  else do
    let (root, after) ← readNode true false (4 * tokens.length + 4) reading
    some (root, after.tokens)

/-- The root of the only document of a text; an empty text has the empty
root. -/
def ofTokens? (tokens : List Token) : Option Node := do
  let (handles, afterDirectives) ← readDirectives false [] tokens
  let (root, rest) ←
    match afterDirectives with
    | [] => if tokens.isEmpty then some (Node.empty, []) else none
    | .documentStart :: rest => readRoot handles rest
    | first :: _ =>
        if first = .documentEnd || afterDirectives.length < tokens.length then
          none
        else readRoot [] afterDirectives
  if rest.all (· == .documentEnd) then some root else none

def parse? (text : String) : Option Node :=
  (tokens? text.toList).bind ofTokens?

end Yaml

end HttpRouting
