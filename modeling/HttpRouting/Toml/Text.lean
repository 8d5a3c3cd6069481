/-
The four kinds of TOML strings.

Basic strings stand in double quotes and know escapes, literal strings stand
in single quotes and know none; each kind may go over several lines between
three quotes.
-/

import HttpRouting.Json.Token

namespace HttpRouting

namespace Toml

/-! ### Characters -/

def isBlank (character : Char) : Bool :=
  character == ' ' || character == '\t'

def isText (character : Char) : Bool :=
  character == '\t' || (0x20 ≤ character.toNat && character.toNat ≠ 0x7F)

def skipBlanks (text : List Char) : List Char :=
  text.dropWhile isBlank

def afterNewline? : List Char → Option (List Char)
  | '\n' :: rest => some rest
  | '\r' :: '\n' :: rest => some rest
  | _ => none

/-! ### Escapes -/

def shortEscape? : Char → Option Char
  | 'b' => some '\x08'
  | 't' => some '\t'
  | 'n' => some '\n'
  | 'f' => some '\x0c'
  | 'r' => some '\r'
  | 'e' => some '\x1b'
  | '"' => some '"'
  | '\\' => some '\\'
  | _ => none

def codeLength? : Char → Option Nat
  | 'x' => some 2
  | 'u' => some 4
  | 'U' => some 8
  | _ => none

def characterOf? (code : Nat) : Option Char :=
  if h : code.isValidChar then some (Char.ofNatAux code h) else none

def readEscape : List Char → Option (Char × List Char)
  | [] => none
  | letter :: rest =>
      match codeLength? letter with
      | none => (shortEscape? letter).map (fun c => (c, rest))
      | some count => do
          let digits := rest.take count
          if digits.length = count then
            let code ←
              digits.foldlM
                (fun value digit =>
                  (Json.hexDigit? digit).map (value * 16 + ·))
                0
            let character ← characterOf? code
            some (character, rest.drop count)
          else none

/-! ### Strings on one line -/

/-- A basic string from behind its opening quote; what was read before is
given from last to first. -/
def readBasic : Nat → List Char → List Char → Option (String × List Char)
  | 0, _, _ => none
  | fuel + 1, read, text =>
      match text with
      | [] => none
      | '"' :: rest => some (String.ofList read.reverse, rest)
      | '\\' :: rest =>
          match readEscape rest with
          | some (character, rest) => readBasic fuel (character :: read) rest
          | none => none
      | character :: rest =>
          if isText character then readBasic fuel (character :: read) rest
          else none

def readLiteral : List Char → List Char → Option (String × List Char)
  | _, [] => none
  | read, character :: rest =>
      if character = '\'' then some (String.ofList read.reverse, rest)
      else if isText character then readLiteral (character :: read) rest
      else none

/-! ### Strings over several lines -/

/-- Past the blanks and line breaks behind a backslash; at least one line
break has to be among them. -/
def skipContinuation : Nat → Bool → List Char → Option (List Char)
  | 0, _, _ => none
  | fuel + 1, broken, text =>
      let text := skipBlanks text
      match afterNewline? text with
      | some rest => skipContinuation fuel true rest
      | none => if broken then some text else none

/-- The end of a string over several lines: the three closing quotes come
last in a run of at most five. -/
def closeLines (quote : Char) (read text : List Char) :
    Option (String × List Char) :=
  let quotes := (text.takeWhile (· == quote)).take 5
  if quotes.length < 3 then none
  else
    some
      (String.ofList (quotes.drop 3 ++ read).reverse,
        text.drop quotes.length)

def atClosing (quote : Char) : List Char → Bool
  | first :: second :: third :: _ =>
      first == quote && second == quote && third == quote
  | _ => false

/-- A string over several lines from behind its opening quotes and the line
break that may follow them. -/
def readLines (quote : Char) :
    Nat → List Char → List Char → Option (String × List Char)
  | 0, _, _ => none
  | fuel + 1, read, text =>
      if atClosing quote text then closeLines quote read text
      else
        match text with
        | [] => none
        | '\n' :: rest => readLines quote fuel ('\n' :: read) rest
        | '\r' :: '\n' :: rest =>
            readLines quote fuel ('\n' :: '\r' :: read) rest
        | character :: rest =>
            if quote == '"' && character == '\\' then
              if (skipBlanks rest).head?.any
                  (fun c => c == '\n' || c == '\r') then
                match skipContinuation (rest.length + 1) false rest with
                | some rest => readLines quote fuel read rest
                | none => none
              else
                match readEscape rest with
                | some (escaped, rest) =>
                    readLines quote fuel (escaped :: read) rest
                | none => none
            else if isText character then
              readLines quote fuel (character :: read) rest
            else none

def readString (text : List Char) : Option (String × List Char) :=
  match text with
  | quote :: rest =>
      if atClosing quote text then
        let body := rest.drop 2
        let body := (afterNewline? body).getD body
        readLines quote (body.length + 1) [] body
      else if quote = '"' then readBasic (rest.length + 1) [] rest
      else readLiteral [] rest
  | [] => none

end Toml

end HttpRouting
