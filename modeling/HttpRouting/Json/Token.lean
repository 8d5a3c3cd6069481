/-
The tokens of a JSON text.

A text is read one character at a time.  A word (a number or one of the three
names) ends before the first character that cannot belong to one; a string
ends at its closing quote.
-/

import HttpRouting.Json.Basic

namespace HttpRouting

namespace Json

inductive Token where
  | openBrace
  | closeBrace
  | openBracket
  | closeBracket
  | colon
  | comma
  | scalar (value : Json)
  deriving Repr, Inhabited

/-! ### Strings -/

/-- A part of a string: a character, or one unit written as four hexadecimal
digits. -/
inductive Piece where
  | character (value : Char)
  | codeUnit (value : Nat)
  deriving DecidableEq, Repr, Inhabited

def isHighSurrogate (codeUnit : Nat) : Bool :=
  0xD800 ≤ codeUnit && codeUnit ≤ 0xDBFF

def isLowSurrogate (codeUnit : Nat) : Bool :=
  0xDC00 ≤ codeUnit && codeUnit ≤ 0xDFFF

def surrogatePair (high low : Nat) : Char :=
  Char.ofNat (0x10000 + (high - 0xD800) * 0x400 + (low - 0xDC00))

/-- The text of a string, whose pieces are given from last to first. -/
def textOfPieces (spelled : List Char) : List Piece → Option String
  | [] => some (String.ofList spelled)
  | .character value :: rest => textOfPieces (value :: spelled) rest
  | [.codeUnit value] =>
      if isHighSurrogate value || isLowSurrogate value then none
      else textOfPieces (Char.ofNat value :: spelled) []
  | .codeUnit value :: .codeUnit before :: rest =>
      if isLowSurrogate value then
        if isHighSurrogate before then
          textOfPieces (surrogatePair before value :: spelled) rest
        else none
      else if isHighSurrogate value then none
      else textOfPieces (Char.ofNat value :: spelled) (.codeUnit before :: rest)
  | .codeUnit value :: .character before :: rest =>
      if isHighSurrogate value || isLowSurrogate value then none
      else
        textOfPieces (Char.ofNat value :: spelled) (.character before :: rest)

def shortEscape? : Char → Option Char
  | '"' => some '"'
  | '\\' => some '\\'
  | '/' => some '/'
  | 'b' => some '\x08'
  | 'f' => some '\x0c'
  | 'n' => some '\n'
  | 'r' => some '\r'
  | 't' => some '\t'
  | _ => none

def hexDigit? (digit : Char) : Option Nat :=
  if digit.isDigit then some (digit.toNat - '0'.toNat)
  else if 'a' ≤ digit ∧ digit ≤ 'f' then some (digit.toNat - 'a'.toNat + 10)
  else if 'A' ≤ digit ∧ digit ≤ 'F' then some (digit.toNat - 'A'.toNat + 10)
  else none

/-! ### Words -/

def isWordCharacter (character : Char) : Bool :=
  character.isAlphanum || character == '+' || character == '-' ||
    character == '.'

/-- An optional exponent and then the end. -/
def isExponent : List Char → Bool
  | [] => true
  | mark :: rest =>
      (mark == 'e' || mark == 'E') &&
        (match rest with
        | '+' :: digits => !digits.isEmpty && digits.all Char.isDigit
        | '-' :: digits => !digits.isEmpty && digits.all Char.isDigit
        | digits => !digits.isEmpty && digits.all Char.isDigit)

def isFraction : List Char → Bool
  | '.' :: rest =>
      !(rest.takeWhile Char.isDigit).isEmpty &&
        isExponent (rest.dropWhile Char.isDigit)
  | rest => isExponent rest

/-- A number without its sign; a leading zero stands alone. -/
def isUnsignedNumber : List Char → Bool
  | '0' :: rest => isFraction rest
  | digits =>
      !(digits.takeWhile Char.isDigit).isEmpty &&
        isFraction (digits.dropWhile Char.isDigit)

def isNumber : List Char → Bool
  | '-' :: rest => isUnsignedNumber rest
  | word => isUnsignedNumber word

def ofWord? (word : List Char) : Option Json :=
  if word = "null".toList then some .null
  else if word = "true".toList then some (.bool true)
  else if word = "false".toList then some (.bool false)
  else if isNumber word then some (.number (String.ofList word))
  else none

/-! ### Tokens -/

/-- Where the reading stands; parts read so far are kept from last to first. -/
inductive ScanMode where
  | between
  | word (read : List Char)
  | quoted (read : List Piece)
  | escape (read : List Piece)
  | codeUnit (read : List Piece) (digits value : Nat)
  deriving Repr, Inhabited

structure Scan where
  tokens : List Token := []
  mode : ScanMode := .between
  deriving Inhabited

def isSpace (character : Char) : Bool :=
  character == ' ' || character == '\n' || character == '\t' ||
    character == '\r'

def punctuation? : Char → Option Token
  | '{' => some .openBrace
  | '}' => some .closeBrace
  | '[' => some .openBracket
  | ']' => some .closeBracket
  | ':' => some .colon
  | ',' => some .comma
  | _ => none

def Scan.begin (tokens : List Token) (character : Char) : Option Scan :=
  match punctuation? character with
  | some token => some { tokens := token :: tokens }
  | none =>
      if isSpace character then some { tokens := tokens }
      else if character = '"' then some { tokens := tokens, mode := .quoted [] }
      else if isWordCharacter character then
        some { tokens := tokens, mode := .word [character] }
      else none

def Scan.step (scan : Scan) (character : Char) : Option Scan :=
  match scan.mode with
  | .between => Scan.begin scan.tokens character
  | .word read =>
      if isWordCharacter character then
        some { scan with mode := .word (character :: read) }
      else
        match ofWord? read.reverse with
        | none => none
        | some value => Scan.begin (.scalar value :: scan.tokens) character
  | .quoted read =>
      if character = '"' then
        some { tokens := .scalar (.string (textOfPieces [] read)) :: scan.tokens }
      else if character = '\\' then some { scan with mode := .escape read }
      else if character.toNat < 0x20 then none
      else some { scan with mode := .quoted (.character character :: read) }
  | .escape read =>
      if character = 'u' then some { scan with mode := .codeUnit read 0 0 }
      else
        match shortEscape? character with
        | none => none
        | some value =>
            some { scan with mode := .quoted (.character value :: read) }
  | .codeUnit read digits value =>
      match hexDigit? character with
      | none => none
      | some digit =>
          let value := value * 16 + digit
          if digits = 3 then
            some { scan with mode := .quoted (.codeUnit value :: read) }
          else some { scan with mode := .codeUnit read (digits + 1) value }

def Scan.tokens? (scan : Scan) : Option (List Token) :=
  match scan.mode with
  | .between => some scan.tokens.reverse
  | .word read =>
      (ofWord? read.reverse).map
        (fun value => (Token.scalar value :: scan.tokens).reverse)
  | _ => none

def tokens? (text : List Char) : Option (List Token) :=
  (text.foldlM Scan.step {}).bind Scan.tokens?

end Json

end HttpRouting
