/-
Positions in a YAML text.

A position knows how many characters lie before it, its line and its column,
all counted from zero.  A carriage return with a line feed is one line break.
-/

namespace HttpRouting

namespace Yaml

/-! ### Characters -/

def isAllowed (character : Char) : Bool :=
  let code := character.toNat
  code == 0x09 || code == 0x0A || code == 0x0D ||
    (0x20 ≤ code && code ≤ 0x7E) || code == 0x85 ||
    (0xA0 ≤ code && code ≤ 0xFFFD) || 0x10000 ≤ code

def isByteOrderMark (character : Char) : Bool :=
  character.toNat == 0xFEFF

def isBlank (character : Char) : Bool :=
  character == ' ' || character == '\t'

def isBreak (character : Char) : Bool :=
  character == '\n' || character == '\r' || character.toNat == 0x85 ||
    character.toNat == 0x2028 || character.toNat == 0x2029

def isNameCharacter (character : Char) : Bool :=
  character.isAlphanum || character == '_' || character == '-'

def atGap : List Char → Bool
  | [] => true
  | character :: _ => isBlank character || isBreak character

def atBreak : List Char → Bool
  | [] => true
  | character :: _ => isBreak character

/-! ### Positions -/

structure Position where
  rest : List Char
  index : Nat := 0
  line : Nat := 0
  column : Nat := 0
  deriving DecidableEq, Repr, Inhabited

namespace Position

def next (position : Position) : Position :=
  { position with
    rest := position.rest.tail
    index := position.index + 1
    column := position.column + 1 }

def skip : Nat → Position → Position
  | 0, position => position
  | count + 1, position => skip count position.next

def nextLine (position : Position) : Position :=
  match position.rest with
  | '\r' :: '\n' :: rest =>
      { rest := rest
        index := position.index + 2
        line := position.line + 1 }
  | _ :: rest =>
      { rest := rest
        index := position.index + 1
        line := position.line + 1 }
  | [] => position

def breakCharacter (position : Position) : Char :=
  match position.rest with
  | character :: _ =>
      if character.toNat == 0x2028 || character.toNat == 0x2029 then character
      else '\n'
  | [] => '\n'

def takeRun (passes : Char → Bool) (position : Position) :
    List Char × Position :=
  let run :=
    position.rest.takeWhile (fun c => passes c && !isBreak c)
  (run, position.skip run.length)

def skipBlanks (position : Position) : Position :=
  (position.takeRun isBlank).2

def skipLine (position : Position) : Position :=
  (position.takeRun (fun _ => true)).2

/-- Three hyphens or three dots that begin a line and stand alone. -/
def atDocumentMark (position : Position) : Bool :=
  position.column == 0 &&
    (match position.rest with
    | '-' :: '-' :: '-' :: rest => atGap rest
    | '.' :: '.' :: '.' :: rest => atGap rest
    | _ => false)

end Position

end Yaml

end HttpRouting
