/-
The tokens of a YAML text.

Indentation becomes tokens that open and close block collections.  A key
without a question mark is known only from the colon behind it, so that the
places where such a key may have begun are remembered, one for each flow
collection around the position.
-/

import HttpRouting.Yaml.Scalar

namespace HttpRouting

namespace Yaml

inductive Token where
  | versionDirective
  | tagDirective (handle : String)
  | documentStart
  | documentEnd
  | blockSequenceStart
  | blockMappingStart
  | blockEnd
  | flowSequenceStart
  | flowSequenceEnd
  | flowMappingStart
  | flowMappingEnd
  | blockEntry
  | flowEntry
  | key
  | value
  | alias (name : String)
  | anchor (name : String)
  /-- The handle of a tag, if it needs a directive. -/
  | tag (handle : Option String)
  /-- A scalar, and whether it stands without quotes and block marks. -/
  | scalar (text : String) (plain : Bool)
  deriving DecidableEq, Repr, Inhabited

/-- A place where a key may have begun. -/
structure PossibleKey where
  /-- Nothing but a key can stand here. -/
  required : Bool
  tokenCount : Nat
  index : Nat
  line : Nat
  column : Nat
  deriving DecidableEq, Repr, Inhabited

structure Scanner where
  position : Position
  tokens : Array Token := #[]
  /-- The columns of the open block collections, innermost first. -/
  indents : List Nat := []
  /-- The possible key of each open flow collection, innermost first. -/
  flowKeys : List (Option PossibleKey) := []
  blockKey : Option PossibleKey := none
  keyAllowed : Bool := true
  deriving Inhabited

namespace Scanner

def inFlow (scanner : Scanner) : Bool :=
  !scanner.flowKeys.isEmpty

def emit (token : Token) (scanner : Scanner) : Scanner :=
  { scanner with tokens := scanner.tokens.push token }

def moveTo (position : Position) (scanner : Scanner) : Scanner :=
  { scanner with position := position }

def allowKey (allowed : Bool) (scanner : Scanner) : Scanner :=
  { scanner with keyAllowed := allowed }

def leastColumn (scanner : Scanner) : Nat :=
  match scanner.indents with
  | [] => 0
  | indent :: _ => indent + 1

/-! ### Possible keys -/

def possibleKey (scanner : Scanner) : Option PossibleKey :=
  match scanner.flowKeys with
  | [] => scanner.blockKey
  | key :: _ => key

def setPossibleKey (key : Option PossibleKey) (scanner : Scanner) : Scanner :=
  match scanner.flowKeys with
  | [] => { scanner with blockKey := key }
  | _ :: outer => { scanner with flowKeys := key :: outer }

def dropKey (scanner : Scanner) : Option Scanner :=
  match scanner.possibleKey with
  | some key =>
      if key.required then none else some (scanner.setPossibleKey none)
  | none => some scanner

def saveKey (scanner : Scanner) : Option Scanner :=
  if scanner.keyAllowed then do
    let position := scanner.position
    let required :=
      !scanner.inFlow && scanner.indents.head? == some position.column
    let scanner ← scanner.dropKey
    pure
      (scanner.setPossibleKey
        (some
          { required := required
            tokenCount := scanner.tokens.size
            index := position.index
            line := position.line
            column := position.column }))
  else some scanner

/-- A key stays on its line and is shorter than 1025 characters. -/
def isExpired (position : Position) (key : PossibleKey) : Bool :=
  key.line < position.line || key.index + 1024 < position.index

def expireKey (position : Position) :
    Option PossibleKey → Option (Option PossibleKey)
  | none => some none
  | some key =>
      if isExpired position key then
        if key.required then none else some none
      else some (some key)

def expireKeys (scanner : Scanner) : Option Scanner := do
  let blockKey ← expireKey scanner.position scanner.blockKey
  let flowKeys ← scanner.flowKeys.mapM (expireKey scanner.position)
  pure
    { scanner with
      blockKey := blockKey
      flowKeys := flowKeys }

/-! ### Indentation -/

/-- Opens a block collection at the column unless one is open there. -/
def openBlock (column tokenCount : Nat) (token : Token) (scanner : Scanner) :
    Scanner :=
  if scanner.inFlow || column < scanner.leastColumn then scanner
  else
    { scanner with
      indents := column :: scanner.indents
      tokens := scanner.tokens.insertIdxIfInBounds tokenCount token }

def closeBlocks (column : Nat) (scanner : Scanner) : Scanner :=
  if scanner.inFlow then scanner
  else
    let closing := scanner.indents.takeWhile (column < ·)
    { scanner with
      indents := scanner.indents.drop closing.length
      tokens :=
        scanner.tokens ++ Array.replicate closing.length Token.blockEnd }

def closeAllBlocks (scanner : Scanner) : Scanner :=
  if scanner.inFlow then scanner
  else
    { scanner with
      indents := []
      tokens :=
        scanner.tokens ++
          Array.replicate scanner.indents.length Token.blockEnd }

/-! ### Blanks and comments -/

def skipToToken : Nat → Scanner → Scanner
  | 0, scanner => scanner
  | fuel + 1, scanner =>
      let position := scanner.position
      let position :=
        if position.column == 0 && position.rest.head?.any isByteOrderMark then
          position.next
        else position
      let tabsAllowed := scanner.inFlow || !scanner.keyAllowed
      let (_, position) :=
        position.takeRun (fun c => c == ' ' || (tabsAllowed && c == '\t'))
      let position := skipComment position
      match position.rest with
      | character :: _ =>
          if isBreak character then
            let scanner := scanner.moveTo position.nextLine
            skipToToken fuel
              (if scanner.inFlow then scanner else scanner.allowKey true)
          else scanner.moveTo position
      | [] => scanner.moveTo position

/-! ### Single tokens -/

def takeMark (token : Token) (scanner : Scanner) : Scanner :=
  (scanner.moveTo scanner.position.next).emit token

def takeDocumentMark (token : Token) (scanner : Scanner) : Option Scanner := do
  let scanner ← scanner.closeAllBlocks.dropKey
  let scanner := scanner.allowKey false
  pure ((scanner.moveTo (scanner.position.skip 3)).emit token)

def openFlow (token : Token) (scanner : Scanner) : Option Scanner := do
  let scanner ← scanner.saveKey
  let scanner :=
    { scanner with
      flowKeys := none :: scanner.flowKeys
      keyAllowed := true }
  pure (scanner.takeMark token)

def closeFlow (token : Token) (scanner : Scanner) : Option Scanner := do
  let scanner ← scanner.dropKey
  let scanner :=
    { scanner with
      flowKeys := scanner.flowKeys.tail
      keyAllowed := false }
  pure (scanner.takeMark token)

def takeFlowEntry (scanner : Scanner) : Option Scanner := do
  let scanner ← scanner.dropKey
  pure ((scanner.allowKey true).takeMark .flowEntry)

def openBlockHere (token : Token) (scanner : Scanner) : Option Scanner :=
  if scanner.inFlow then some scanner
  else if scanner.keyAllowed then
    some
      (scanner.openBlock scanner.position.column scanner.tokens.size token)
  else none

def takeBlockEntry (scanner : Scanner) : Option Scanner := do
  let scanner ← scanner.openBlockHere .blockSequenceStart
  let scanner ← scanner.dropKey
  pure ((scanner.allowKey true).takeMark .blockEntry)

def takeKey (scanner : Scanner) : Option Scanner := do
  let scanner ← scanner.openBlockHere .blockMappingStart
  let scanner ← scanner.dropKey
  pure ((scanner.allowKey (!scanner.inFlow)).takeMark .key)

def takeValue (scanner : Scanner) : Option Scanner :=
  match scanner.possibleKey with
  | some key =>
      let scanner :=
        { scanner with
          tokens := scanner.tokens.insertIdxIfInBounds key.tokenCount .key }
      let scanner :=
        (scanner.openBlock key.column key.tokenCount
          .blockMappingStart).setPossibleKey none
      some ((scanner.allowKey false).takeMark .value)
  | none => do
      let scanner ← scanner.openBlockHere .blockMappingStart
      pure ((scanner.allowKey (!scanner.inFlow)).takeMark .value)

def takeName (make : String → Token) (scanner : Scanner) : Option Scanner := do
  let scanner ← scanner.saveKey
  let scanner := scanner.allowKey false
  let (name, position) := scanner.position.next.takeRun isNameCharacter
  let ended :=
    match position.rest with
    | [] => true
    | character :: _ =>
        isBlank character || isBreak character ||
          "?:,]\x7d%@\x60".toList.contains character
  if name.isEmpty || !ended then none
  else pure ((scanner.moveTo position).emit (make (String.ofList name)))

def isTagCharacter (character : Char) : Bool :=
  isNameCharacter character || ";/?:@&=+$.!~*'()%".toList.contains character

/-- A tag from its exclamation mark on; only a named handle is kept. -/
def readTag (position : Position) : Option (Option String × Position) :=
  match position.rest with
  | _ :: '<' :: _ =>
      let (tag, position) :=
        (position.skip 2).takeRun
          (fun c => isTagCharacter c || c == ',' || c == '[' || c == ']')
      if tag.isEmpty || position.rest.head? != some '>' then none
      else some (none, position.next)
  | _ =>
      let (name, afterName) := position.next.takeRun isNameCharacter
      if afterName.rest.head? == some '!' then
        let (tail, position) := afterName.next.takeRun isTagCharacter
        if tail.isEmpty then none
        else if name.isEmpty then some (none, position)
        else some (some (String.ofList name), position)
      else some (none, (afterName.takeRun isTagCharacter).2)

def takeTag (scanner : Scanner) : Option Scanner := do
  let scanner ← scanner.saveKey
  let scanner := scanner.allowKey false
  let (handle, position) ← readTag scanner.position
  let ended :=
    atGap position.rest ||
      (scanner.inFlow && position.rest.head? == some ',')
  if ended then pure ((scanner.moveTo position).emit (.tag handle)) else none

def takeBlockScalar (isFolded : Bool) (scanner : Scanner) :
    Option Scanner := do
  let scanner ← scanner.dropKey
  let (text, position) ←
    readBlock isFolded scanner.indents.head? scanner.position.next
  let token := Token.scalar (String.ofList text.reverse) false
  pure (((scanner.allowKey true).moveTo position).emit token)

def takeQuoted (quote : Char) (scanner : Scanner) : Option Scanner := do
  let scanner ← scanner.saveKey
  let start := scanner.position.next
  let (text, position) ← readQuoted quote (start.rest.length + 1) [] start
  let token := Token.scalar (String.ofList text.reverse) false
  pure (((scanner.allowKey false).moveTo position).emit token)

def takePlain (scanner : Scanner) : Option Scanner := do
  let scanner ← scanner.saveKey
  let start := scanner.position
  let (text, broken, position) ←
    readPlain scanner.inFlow scanner.leastColumn start.rest.length [] {} start
  let token := Token.scalar (String.ofList text.reverse) true
  pure (((scanner.allowKey broken).moveTo position).emit token)

/-! ### Directives -/

def readVersion (position : Position) : Option Position :=
  let (major, position) := position.takeRun Char.isDigit
  let (minor, afterMinor) := position.next.takeRun Char.isDigit
  if position.rest.head? == some '.' && major == ['1'] &&
      (minor == ['1'] || minor == ['2']) then some afterMinor
  else none

/-- The name in the handle of a tag directive, which a text to stand for
follows. -/
def readTagDirective (position : Position) : Option (String × Position) :=
  let (name, afterName) := position.next.takeRun isNameCharacter
  let closed := afterName.rest.head? == some '!'
  let afterHandle := if closed then afterName.next else afterName
  let (tail, position) := afterHandle.skipBlanks.takeRun isTagCharacter
  if (closed || name.isEmpty) && afterHandle.rest.head?.any isBlank &&
      !tail.isEmpty && atGap position.rest then
    some (String.ofList name, position)
  else none

def takeDirective (scanner : Scanner) : Option Scanner := do
  let scanner ← scanner.closeAllBlocks.dropKey
  let scanner := scanner.allowKey false
  let (name, position) := scanner.position.next.takeRun isNameCharacter
  if !atGap position.rest then none
  else
    let position := position.skipBlanks
    let (token, position) ←
      if name = "YAML".toList then
        (readVersion position).map (fun p => (Token.versionDirective, p))
      else if name = "TAG".toList then
        if position.rest.head? == some '!' then
          (readTagDirective position).map
            (fun read => (Token.tagDirective read.1, read.2))
        else none
      else none
    let position := skipComment position.skipBlanks
    if atBreak position.rest then
      pure ((scanner.moveTo position.nextLine).emit token)
    else none

/-! ### The whole text -/

def beginsPlain (inFlow : Bool) (character : Char) (rest : List Char) : Bool :=
  let indicator :=
    isBlank character || isBreak character || isFlowIndicator character ||
      "-?:#&*!|>'\"%@\x60".toList.contains character
  !indicator ||
    (character == '-' && !(rest.head?.any isBlank)) ||
    (!inFlow && (character == '?' || character == ':') && !atGap rest)

def take (character : Char) (rest : List Char) (scanner : Scanner) :
    Option Scanner :=
  let position := scanner.position
  let marks := scanner.inFlow || atGap rest
  if position.column == 0 && character == '%' then scanner.takeDirective
  else if position.atDocumentMark then
    scanner.takeDocumentMark
      (if character == '-' then .documentStart else .documentEnd)
  else if character == '[' then scanner.openFlow .flowSequenceStart
  else if character == '{' then scanner.openFlow .flowMappingStart
  else if character == ']' then scanner.closeFlow .flowSequenceEnd
  else if character == '}' then scanner.closeFlow .flowMappingEnd
  else if character == ',' then scanner.takeFlowEntry
  else if character == '-' && atGap rest then scanner.takeBlockEntry
  else if character == '?' && marks then scanner.takeKey
  else if character == ':' && marks then scanner.takeValue
  else if character == '*' then scanner.takeName .alias
  else if character == '&' then scanner.takeName .anchor
  else if character == '!' then scanner.takeTag
  else if character == '|' && !scanner.inFlow then
    scanner.takeBlockScalar false
  else if character == '>' && !scanner.inFlow then
    scanner.takeBlockScalar true
  else if character == '\'' || character == '"' then
    scanner.takeQuoted character
  else if beginsPlain scanner.inFlow character rest then scanner.takePlain
  else none

def takeAll : Nat → Scanner → Option (Array Token)
  | 0, _ => none
  | fuel + 1, scanner => do
      let scanner ←
        (scanner.skipToToken (scanner.position.rest.length + 1)).expireKeys
      match scanner.position.rest with
      | [] => pure (← scanner.closeAllBlocks.dropKey).tokens
      | character :: rest =>
          let scanner := scanner.closeBlocks scanner.position.column
          takeAll fuel (← scanner.take character rest)

end Scanner

def withoutByteOrderMark : List Char → List Char
  | [] => []
  | first :: rest => if isByteOrderMark first then rest else first :: rest

def tokens? (text : List Char) : Option (List Token) :=
  let text := withoutByteOrderMark text
  if text.all isAllowed then
    (Scanner.takeAll (text.length + 1) { position := { rest := text } }).map
      Array.toList
  else none

end Yaml

end HttpRouting
