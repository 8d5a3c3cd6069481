/-
The values of a TOML text that are written without quotes.

These are the booleans, whole numbers, fractions, dates and times.  Only
whether a word is one of them matters here.
-/

import HttpRouting.Json.Token

namespace HttpRouting

namespace Toml

/-! ### Digits -/

/-- Digits, with underscores that stand between two of them. -/
def isDigitRun (isDigit : Char → Bool) : List Char → Bool
  | [] => false
  | [digit] => isDigit digit
  | digit :: '_' :: rest => isDigit digit && isDigitRun isDigit rest
  | digit :: rest => isDigit digit && isDigitRun isDigit rest

def isHexDigit (character : Char) : Bool :=
  (Json.hexDigit? character).isSome

def isOctalDigit (character : Char) : Bool :=
  '0' ≤ character && character ≤ '7'

def isBinaryDigit (character : Char) : Bool :=
  character == '0' || character == '1'

def digitsValue (base : Nat) (digits : List Char) : Nat :=
  digits.foldl
    (fun value digit =>
      match Json.hexDigit? digit with
      | some place => value * base + place
      | none => value)
    0

/-- Decimal digits without a leading zero, a lone zero excepted. -/
def isDecimalRun (digits : List Char) : Bool :=
  isDigitRun Char.isDigit digits &&
    (digits == ['0'] || digits.head? != some '0')

/-! ### Whole numbers -/

/-- The greatest whole number, and the greatest that may be negated. -/
def greatestInteger : Nat :=
  Nat.pow 2 128 - 1

def greatestNegated : Nat :=
  Nat.pow 2 127

def isPrefixedInteger : List Char → Bool
  | '0' :: 'x' :: digits =>
      isDigitRun isHexDigit digits && digitsValue 16 digits ≤ greatestInteger
  | '0' :: 'o' :: digits =>
      isDigitRun isOctalDigit digits && digitsValue 8 digits ≤ greatestInteger
  | '0' :: 'b' :: digits =>
      isDigitRun isBinaryDigit digits && digitsValue 2 digits ≤ greatestInteger
  | _ => false

def isInteger : List Char → Bool
  | '-' :: digits =>
      isDecimalRun digits && digitsValue 10 digits ≤ greatestNegated
  | '+' :: digits =>
      isDecimalRun digits && digitsValue 10 digits ≤ greatestInteger
  | digits =>
      isPrefixedInteger digits ||
        (isDecimalRun digits && digitsValue 10 digits ≤ greatestInteger)

/-! ### Fractions -/

def isRunCharacter (character : Char) : Bool :=
  character.isDigit || character == '_'

/-- The value of the digits, scaled by a power of ten, rounds to a finite
number of 64 bits.  Such numbers end halfway between `2 ^ 1024 - 2 ^ 971` and
`2 ^ 1024`. -/
def isFinite (digits : List Char) (exponent : Int) : Bool :=
  let value := digitsValue 10 digits
  let bound := Nat.pow 2 1024 - Nat.pow 2 970
  if value = 0 then true
  else if exponent + digits.length < 300 then true
  else if exponent > 310 then false
  else if exponent ≥ 0 then value * Nat.pow 10 exponent.toNat < bound
  else value < bound * Nat.pow 10 (-exponent).toNat

def exponent? : List Char → Option Int
  | '-' :: digits =>
      if isDigitRun Char.isDigit digits then
        some (-(digitsValue 10 digits : Int))
      else none
  | '+' :: digits =>
      if isDigitRun Char.isDigit digits then
        some (digitsValue 10 digits : Int)
      else none
  | digits =>
      if isDigitRun Char.isDigit digits then
        some (digitsValue 10 digits : Int)
      else none

def endsNumber (digits : List Char) (places : Nat) : List Char → Bool
  | [] => isFinite digits (-(places : Int))
  | mark :: rest =>
      (mark == 'e' || mark == 'E') &&
        (match exponent? rest with
        | some exponent => isFinite digits (exponent - places)
        | none => false)

def isUnsignedFraction (word : List Char) : Bool :=
  let whole := word.takeWhile isRunCharacter
  isDecimalRun whole &&
    (match word.dropWhile isRunCharacter with
    | '.' :: rest =>
        let fraction := rest.takeWhile isRunCharacter
        let digits := (whole ++ fraction).filter Char.isDigit
        isDigitRun Char.isDigit fraction &&
          endsNumber digits (fraction.filter Char.isDigit).length
            (rest.dropWhile isRunCharacter)
    | [] => false
    | rest => endsNumber (whole.filter Char.isDigit) 0 rest)

def isUnsignedFloat (word : List Char) : Bool :=
  word == "inf".toList || word == "nan".toList || isUnsignedFraction word

def isFloat : List Char → Bool
  | '-' :: word => isUnsignedFloat word
  | '+' :: word => isUnsignedFloat word
  | word => isUnsignedFloat word

/-! ### Dates and times -/

def twoDigits? : List Char → Option (Nat × List Char)
  | tens :: ones :: rest =>
      if tens.isDigit && ones.isDigit then
        some (digitsValue 10 [tens, ones], rest)
      else none
  | _ => none

def isLeapYear (year : Nat) : Bool :=
  year % 4 = 0 && (year % 100 ≠ 0 || year % 400 = 0)

def monthLength (year month : Nat) : Nat :=
  if month = 2 then (if isLeapYear year then 29 else 28)
  else if month = 4 || month = 6 || month = 9 || month = 11 then 30
  else 31

def afterDate? (word : List Char) : Option (List Char) := do
  let (century, word) ← twoDigits? word
  let (yearInCentury, word) ← twoDigits? word
  let year := century * 100 + yearInCentury
  let word ← afterMark? '-' word
  let (month, word) ← twoDigits? word
  let word ← afterMark? '-' word
  let (day, word) ← twoDigits? word
  if 1 ≤ month ∧ month ≤ 12 ∧ 1 ≤ day ∧ day ≤ monthLength year month then
    some word
  else none
where
  afterMark? (mark : Char) : List Char → Option (List Char)
    | first :: rest => if first = mark then some rest else none
    | [] => none

def afterSeconds? (word : List Char) : Option (List Char) :=
  match twoDigits? word with
  | none => none
  | some (second, word) =>
      if second > 60 then none
      else
        match word with
        | '.' :: rest =>
            if (rest.takeWhile Char.isDigit).isEmpty then none
            else some (rest.dropWhile Char.isDigit)
        | word => some word

/-- What follows a time; the seconds may be left out. -/
def afterTime? (word : List Char) : Option (List Char) :=
  match twoDigits? word with
  | some (hour, ':' :: word) =>
      match twoDigits? word with
      | some (minute, word) =>
          if hour > 23 || minute > 59 then none
          else
            match word with
            | ':' :: word => afterSeconds? word
            | word => some word
      | none => none
  | _ => none

def isOffset : List Char → Bool
  | [] => true
  | ['Z'] => true
  | ['z'] => true
  | sign :: word =>
      (sign == '+' || sign == '-') &&
        (match twoDigits? word with
        | some (hour, ':' :: word) =>
            match twoDigits? word with
            | some (minute, []) => hour ≤ 23 && minute ≤ 59
            | _ => false
        | _ => false)

def isDateTime (word : List Char) : Bool :=
  match afterDate? word with
  | some [] => true
  | some (separator :: time) =>
      (separator == 'T' || separator == 't' || separator == ' ') &&
        ((afterTime? time).any isOffset)
  | none => afterTime? word == some []

def isUnquoted (word : List Char) : Bool :=
  word == "true".toList || word == "false".toList || isInteger word ||
    isFloat word || isDateTime word

end Toml

end HttpRouting
