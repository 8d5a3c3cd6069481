/-
Reading TOML documents.

A document is a sequence of lines: comments, headers, and keys with values.
Arrays and inline tables may go over several lines and hold comments.
-/

import HttpRouting.Toml.Number
import HttpRouting.Toml.Table
import HttpRouting.Toml.Text

namespace HttpRouting

namespace Toml

/-! ### Blanks and comments -/

def skipComment : List Char → List Char
  | '#' :: rest => rest.dropWhile isText
  | text => text

def skipTrivia : Nat → List Char → List Char
  | 0, text => text
  | fuel + 1, text =>
      let text := skipComment (skipBlanks text)
      match afterNewline? text with
      | some rest => skipTrivia fuel rest
      | none => text

def afterLine? (text : List Char) : Option (List Char) :=
  match skipComment (skipBlanks text) with
  | [] => some []
  | rest => afterNewline? rest

/-! ### Keys -/

def isBareKeyCharacter (character : Char) : Bool :=
  character.isAlphanum || character == '_' || character == '-'

def readSimpleKey (text : List Char) : Option (String × List Char) :=
  match text with
  | '"' :: rest => readBasic (rest.length + 1) [] rest
  | '\'' :: rest => readLiteral [] rest
  | _ =>
      let bare := text.takeWhile isBareKeyCharacter
      if bare.isEmpty then none
      else some (String.ofList bare, text.drop bare.length)

/-- A dotted key as its path and its last part, and what follows it without
blanks. -/
def readKey : Nat → List String → List Char →
    Option (List String × String × List Char)
  | 0, _, _ => none
  | fuel + 1, path, text =>
      match readSimpleKey (skipBlanks text) with
      | none => none
      | some (key, rest) =>
          match skipBlanks rest with
          | '.' :: rest => readKey fuel (path ++ [key]) rest
          | rest => some (path, key, rest)

/-! ### Values -/

def isUnquotedCharacter (character : Char) : Bool :=
  character.isAlphanum || "+-_.:".toList.contains character

/-- The word of a value without quotes.  A date is joined to the time that
follows it after one blank. -/
def unquotedWord (text : List Char) : List Char :=
  let word := text.takeWhile isUnquotedCharacter
  match afterDate? word, text.drop word.length with
  | some [], ' ' :: rest =>
      if rest.head?.any Char.isDigit then
        word ++ ' ' :: rest.takeWhile isUnquotedCharacter
      else word
  | _, _ => word

def readUnquoted (text : List Char) : Option (Value × List Char) :=
  let word := unquotedWord text
  if isUnquoted word then
    some (.unquoted (String.ofList word), text.drop word.length)
  else none

def greatestDepth : Nat :=
  80

mutual

def readValue (depth : Nat) : Nat → List Char → Option (Value × List Char)
  | 0, _ => none
  | fuel + 1, text =>
      match text with
      | '"' :: _ => (readString text).map (fun r => (.text r.1, r.2))
      | '\'' :: _ => (readString text).map (fun r => (.text r.1, r.2))
      | '[' :: rest =>
          if depth < greatestDepth then readElements (depth + 1) [] fuel rest
          else none
      | '{' :: rest =>
          if depth < greatestDepth then readEntries (depth + 1) [] fuel rest
          else none
      | _ => readUnquoted text

/-- The rest of an array, given its elements so far from last to first. -/
def readElements (depth : Nat) (elements : List Value) :
    Nat → List Char → Option (Value × List Char)
  | 0, _ => none
  | fuel + 1, text =>
      match skipTrivia (text.length + 1) text with
      | ']' :: rest => some (.array elements.reverse, rest)
      | text => do
          let (element, rest) ← readValue depth fuel text
          let elements := element :: elements
          match skipTrivia (rest.length + 1) rest with
          | ']' :: rest => some (.array elements.reverse, rest)
          | ',' :: rest => readElements depth elements fuel rest
          | _ => none

def readEntries (depth : Nat) (entries : Entries) :
    Nat → List Char → Option (Value × List Char)
  | 0, _ => none
  | fuel + 1, text =>
      match skipTrivia (text.length + 1) text with
      | '}' :: rest => some (.table .inlined entries, rest)
      | text => do
          let (path, key, rest) ← readKey (text.length + 1) [] text
          match rest with
          | '=' :: rest =>
              let (value, rest) ← readValue depth fuel (skipBlanks rest)
              let entries ← addEntry path key value .header entries
              match skipTrivia (rest.length + 1) rest with
              | '}' :: rest => some (.table .inlined entries, rest)
              | ',' :: rest => readEntries depth entries fuel rest
              | _ => none
          | _ => none

end

/-! ### Lines -/

def afterHeader? (listed : Bool) : List Char → Option (List Char)
  | ']' :: ']' :: rest => if listed then some rest else none
  | ']' :: rest => if listed then none else some rest
  | _ => none

def readHeader (listed : Bool) (text : List Char) (document : Document) :
    Option (Document × List Char) := do
  let (path, key, rest) ← readKey (text.length + 1) [] text
  let rest ← afterHeader? listed rest
  let document ← document.openHeader listed path key
  some (document, rest)

def readEntry (text : List Char) (document : Document) :
    Option (Document × List Char) := do
  let (path, key, rest) ← readKey (text.length + 1) [] text
  match rest with
  | '=' :: rest =>
      let (value, rest) ← readValue 0 (2 * rest.length + 2) (skipBlanks rest)
      let document ← document.addEntry path key value
      some (document, rest)
  | _ => none

def readLine (text : List Char) (document : Document) :
    Option (Document × List Char) :=
  match skipBlanks text with
  | [] => some (document, [])
  | '#' :: rest => some (document, '#' :: rest)
  | '\n' :: rest => some (document, '\n' :: rest)
  | '\r' :: rest => some (document, '\r' :: rest)
  | '[' :: '[' :: rest => readHeader true rest document
  | '[' :: rest => readHeader false rest document
  | text => readEntry text document

def readDocument : Nat → List Char → Document → Option Document
  | 0, _, _ => none
  | fuel + 1, text, document =>
      match text with
      | [] => some document
      | text => do
          let (document, rest) ← readLine text document
          readDocument fuel (← afterLine? rest) document

def parse? (text : String) : Option Entries :=
  let characters :=
    match text.toList with
    | [] => []
    | first :: rest =>
        if first.toNat = 0xFEFF then rest else first :: rest
  (readDocument (characters.length + 1) characters {}).map Document.root

end Toml

end HttpRouting
