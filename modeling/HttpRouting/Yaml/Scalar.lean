/-
The text of YAML scalars.

Scalars over several lines are folded: the gap between two words of different
lines becomes one blank, or as many line breaks as there are empty lines.  In
a block scalar only gaps between lines that do not begin with a blank fold.
-/

import HttpRouting.Json.Token
import HttpRouting.Yaml.Position

namespace HttpRouting

namespace Yaml

/-! ### Gaps between words -/

/-- Blanks and breaks between two words, from last to first. -/
structure Gap where
  blanks : List Char := []
  /-- The gap goes over the end of a line. -/
  broken : Bool := false
  firstBreak : Option Char := none
  moreBreaks : List Char := []
  deriving DecidableEq, Repr, Inhabited

namespace Gap

/-- The text that a gap folds to, from last to first. -/
def folded (gap : Gap) : List Char :=
  if gap.broken then
    match gap.firstBreak with
    | none => gap.moreBreaks
    | some '\n' =>
        if gap.moreBreaks = [] then [' '] else gap.moreBreaks
    | some separator => gap.moreBreaks ++ [separator]
  else gap.blanks

def addBlank (character : Char) (gap : Gap) : Gap :=
  if gap.broken then gap else { gap with blanks := character :: gap.blanks }

def addBreak (character : Char) (gap : Gap) : Gap :=
  if gap.broken then
    { gap with moreBreaks := character :: gap.moreBreaks }
  else
    { broken := true
      firstBreak := some character }

/-- Reads blanks and breaks to the next word.  At the start of a line a tab
before the given column is refused. -/
def read (column : Nat) : Nat → Gap → Position → Option (Gap × Position)
  | 0, gap, position => some (gap, position)
  | fuel + 1, gap, position =>
      match position.rest with
      | [] => some (gap, position)
      | character :: _ =>
          if isBlank character then
            if gap.broken && position.column < column &&
                character == '\t' then none
            else read column fuel (gap.addBlank character) position.next
          else if isBreak character then
            read column fuel (gap.addBreak position.breakCharacter)
              position.nextLine
          else some (gap, position)

end Gap

/-! ### Plain scalars -/

def isFlowIndicator (character : Char) : Bool :=
  ",[]\x7b\x7d".toList.contains character

def isStrayColon (inFlow : Bool) : List Char → Bool
  | ':' :: character :: _ =>
      inFlow && (character == '?' || isFlowIndicator character)
  | _ => false

def endsPlainWord (inFlow : Bool) : List Char → Bool
  | [] => true
  | character :: rest =>
      isBlank character || isBreak character ||
        (character == ':' && atGap rest) ||
        (inFlow && isFlowIndicator character)

def readPlainWord (inFlow : Bool) :
    Nat → List Char → Position → Option (List Char × Position)
  | 0, read, position => some (read, position)
  | fuel + 1, read, position =>
      match position.rest with
      | [] => some (read, position)
      | character :: rest =>
          if isStrayColon inFlow (character :: rest) then none
          else if endsPlainWord inFlow (character :: rest) then
            some (read, position)
          else readPlainWord inFlow fuel (character :: read) position.next

/-- A plain scalar: its text from last to first, whether a gap over the end of
a line follows it, and the position behind it. -/
def readPlain (inFlow : Bool) (column : Nat) :
    Nat → List Char → Gap → Position →
      Option (List Char × Bool × Position)
  | 0, read, gap, position => some (read, gap.broken, position)
  | fuel + 1, read, gap, position =>
      if position.atDocumentMark || position.rest.head? == some '#' then
        some (read, gap.broken, position)
      else if isStrayColon inFlow position.rest then none
      else if endsPlainWord inFlow position.rest then
        some (read, gap.broken, position)
      else do
        let (read, position) ←
          readPlainWord inFlow position.rest.length (gap.folded ++ read)
            position
        if atGap position.rest && !position.rest.isEmpty then
          let (gap, position) ←
            Gap.read column position.rest.length {} position
          if !inFlow && position.column < column then
            some (read, gap.broken, position)
          else readPlain inFlow column fuel read gap position
        else some (read, false, position)

/-! ### Quoted scalars -/

def shortEscape? : Char → Option Char
  | '0' => some '\x00'
  | 'a' => some '\x07'
  | 'b' => some '\x08'
  | 't' => some '\t'
  | '\t' => some '\t'
  | 'n' => some '\n'
  | 'v' => some '\x0b'
  | 'f' => some '\x0c'
  | 'r' => some '\r'
  | 'e' => some '\x1b'
  | ' ' => some ' '
  | '"' => some '"'
  | '/' => some '/'
  | '\\' => some '\\'
  | 'N' => some '\x85'
  | '_' => some '\xa0'
  | 'L' => some '\u2028'
  | 'P' => some '\u2029'
  | _ => none

def codeLength? : Char → Option Nat
  | 'x' => some 2
  | 'u' => some 4
  | 'U' => some 8
  | _ => none

def hexNumber? (digits : List Char) : Option Nat :=
  digits.foldlM
    (fun value digit => (Json.hexDigit? digit).map (value * 16 + ·)) 0

def characterOf? (code : Nat) : Option Char :=
  if h : code.isValidChar then some (Char.ofNatAux code h) else none

def readEscape (letter : Char) (position : Position) :
    Option (Char × Position) :=
  match codeLength? letter with
  | none => (shortEscape? letter).map (fun c => (c, position))
  | some count => do
      let digits := position.rest.take count
      if digits.length = count then
        let code ← hexNumber? digits
        let character ← characterOf? code
        some (character, position.skip count)
      else none

/-- A part of a quoted scalar without gaps.  The gap is broken when the part
ends with an escaped line break. -/
def readQuotedPart (quote : Char) :
    Nat → List Char → Position → Option (List Char × Gap × Position)
  | 0, read, position => some (read, {}, position)
  | fuel + 1, read, position =>
      match position.rest with
      | [] => some (read, {}, position)
      | character :: rest =>
          if isBlank character || isBreak character then
            some (read, {}, position)
          else if character == quote then
            if quote == '\'' && rest.head? == some '\'' then
              readQuotedPart quote fuel ('\'' :: read) (position.skip 2)
            else some (read, {}, position)
          else if quote == '"' && character == '\\' then
            match rest with
            | [] => none
            | letter :: _ =>
                if isBreak letter then
                  some (read, { broken := true }, position.next.nextLine)
                else
                  match readEscape letter (position.skip 2) with
                  | none => none
                  | some (spelled, position) =>
                      readQuotedPart quote fuel (spelled :: read) position
          else readQuotedPart quote fuel (character :: read) position.next

def readQuoted (quote : Char) :
    Nat → List Char → Position → Option (List Char × Position)
  | 0, _, _ => none
  | fuel + 1, read, position =>
      if position.atDocumentMark || position.rest.isEmpty then none
      else do
        let (read, gap, position) ←
          readQuotedPart quote position.rest.length read position
        if position.rest.head? == some quote then
          some (read, position.next)
        else
          let (gap, position) ← Gap.read 0 position.rest.length gap position
          readQuoted quote fuel (gap.folded ++ read) position

/-! ### Block scalars -/

/-- What becomes of the breaks at the end of a block scalar. -/
inductive Chomping where
  /-- None is kept. -/
  | strip
  /-- The first is kept. -/
  | clip
  /-- All are kept. -/
  | keep
  deriving DecidableEq, Repr, Inhabited

def chompingOf? : Char → Option Chomping
  | '-' => some .strip
  | '+' => some .keep
  | _ => none

/-- The indicators behind the mark of a block scalar, in either order: how its
end is treated and how far it is indented. -/
def readBlockIndicators (position : Position) :
    Option (Chomping × Option Nat × Position) :=
  let indentOf (digit : Char) : Nat := digit.toNat - '0'.toNat
  match position.rest with
  | first :: rest =>
      match chompingOf? first with
      | some chomping =>
          match rest with
          | digit :: _ =>
              if digit.isDigit then
                if digit == '0' then none
                else some (chomping, some (indentOf digit), position.skip 2)
              else some (chomping, none, position.next)
          | [] => some (chomping, none, position.next)
      | none =>
          if first.isDigit then
            if first == '0' then none
            else
              match rest.head?.bind chompingOf? with
              | some chomping =>
                  some (chomping, some (indentOf first), position.skip 2)
              | none => some (.clip, some (indentOf first), position.next)
          else some (.clip, none, position)
  | [] => some (.clip, none, position)

def skipComment (position : Position) : Position :=
  if position.rest.head? == some '#' then position.skipLine else position

/-- The lines before the next line of text: their breaks from last to first,
the greatest column, and the position where the text stands.  Without a known
indentation all blanks of a line are skipped. -/
def readBlockBreaks (indent : Option Nat) :
    Nat → List Char → Nat → Position → Option (List Char × Nat × Position)
  | 0, _, _, _ => none
  | fuel + 1, breaks, greatest, position =>
      let blanks := (position.rest.takeWhile (· == ' ')).length
      let skipped :=
        match indent with
        | none => blanks
        | some indent => min blanks (indent - position.column)
      let position := position.skip skipped
      let greatest := max greatest position.column
      let inIndent :=
        match indent with
        | none => true
        | some indent => position.column < indent
      match position.rest with
      | character :: _ =>
          if inIndent && character == '\t' then none
          else if isBreak character then
            readBlockBreaks indent fuel (position.breakCharacter :: breaks)
              greatest position.nextLine
          else some (breaks, greatest, position)
      | [] => some (breaks, greatest, position)

/-- Lines of a block scalar as they are joined: the text so far, the break
behind its last line and the breaks of empty lines, all from last to first. -/
structure BlockText where
  read : List Char := []
  lastBreak : List Char := []
  emptyLines : List Char := []
  /-- The last line begins with a blank. -/
  indented : Bool := false
  deriving Repr, Inhabited

def BlockText.joined (isFolded blankFirst : Bool) (text : BlockText) :
    List Char :=
  if isFolded && text.lastBreak == ['\n'] && !text.indented &&
      !blankFirst then
    if text.emptyLines = [] then ' ' :: text.read
    else text.emptyLines ++ text.read
  else text.emptyLines ++ (text.lastBreak ++ text.read)

def BlockText.finish (chomping : Chomping) (text : BlockText) : List Char :=
  match chomping with
  | .strip => text.read
  | .clip => text.lastBreak ++ text.read
  | .keep => text.emptyLines ++ (text.lastBreak ++ text.read)

def readBlockLines (isFolded : Bool) (indent : Nat) :
    Nat → BlockText → Position → Option (BlockText × Position)
  | 0, text, position => some (text, position)
  | fuel + 1, text, position =>
      if position.column ≠ indent || position.rest.isEmpty then
        some (text, position)
      else do
        let blankFirst :=
          match position.rest with
          | character :: _ => isBlank character
          | [] => false
        let (line, lineEnd) := position.takeRun (fun _ => true)
        let lastBreak :=
          if lineEnd.rest.isEmpty then [] else [lineEnd.breakCharacter]
        let following := lineEnd.nextLine
        let (emptyLines, _, position) ←
          readBlockBreaks (some indent) (following.rest.length + 1) [] 0
            following
        readBlockLines isFolded indent fuel
          { read := line.reverse ++ text.joined isFolded blankFirst
            lastBreak := lastBreak
            emptyLines := emptyLines
            indented := blankFirst }
          position

/-- A block scalar from behind its mark.  `outer` is the column of the block
around it, if there is one. -/
def readBlock (isFolded : Bool) (outer : Option Nat) (position : Position) :
    Option (List Char × Position) := do
  let (chomping, increment, position) ← readBlockIndicators position
  let position := skipComment position.skipBlanks
  if !atBreak position.rest then none
  else
    let position := position.nextLine
    let indent := increment.map (fun width => outer.getD 0 + width)
    let (emptyLines, greatest, position) ←
      readBlockBreaks indent (position.rest.length + 1) [] 0 position
    let least := (outer.map (· + 1)).getD 0
    let indent := indent.getD (max (max greatest least) 1)
    let (text, position) ←
      readBlockLines isFolded indent position.rest.length
        { emptyLines := emptyLines } position
    some (text.finish chomping, position)

end Yaml

end HttpRouting
