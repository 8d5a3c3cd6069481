/-
JSON text.

The compact form has no blanks; the indented form puts each part of a
container that is not empty on a line of its own.
-/

import HttpRouting.Json.Basic

namespace HttpRouting

namespace Json

def hexDigit (value : Nat) : Char :=
  if value < 10 then Char.ofNat ('0'.toNat + value)
  else Char.ofNat ('a'.toNat + (value - 10))

def codeUnitEscape (value : Nat) : List Char :=
  ['\\', 'u', hexDigit (value / 4096 % 16), hexDigit (value / 256 % 16),
    hexDigit (value / 16 % 16), hexDigit (value % 16)]

def escapeCharacter (character : Char) : List Char :=
  match character with
  | '"' => ['\\', '"']
  | '\\' => ['\\', '\\']
  | '\x08' => ['\\', 'b']
  | '\x0c' => ['\\', 'f']
  | '\n' => ['\\', 'n']
  | '\r' => ['\\', 'r']
  | '\t' => ['\\', 't']
  | other =>
      if other.toNat < 0x20 then codeUnitEscape other.toNat else [other]

def quote (text : String) : String :=
  "\"" ++ String.ofList (text.toList.flatMap escapeCharacter) ++ "\""

/-- A string that spells no text is written as the replacement character. -/
def quoteOption (text : Option String) : String :=
  quote (text.getD "\ufffd")

mutual

def compact : Json → String
  | .null => "null"
  | .bool value => if value then "true" else "false"
  | .number text => text
  | .string text => quoteOption text
  | .array elements => "[" ++ ",".intercalate (compactEach elements) ++ "]"
  | .object members =>
      "\x7b" ++ ",".intercalate (compactMembers members) ++ "\x7d"

def compactEach : List Json → List String
  | [] => []
  | value :: rest => value.compact :: compactEach rest

def compactMembers : List (Option String × Json) → List String
  | [] => []
  | (key, value) :: rest =>
      (quoteOption key ++ ":" ++ value.compact) :: compactMembers rest

end

def indentation (level : Nat) : String :=
  String.ofList (List.replicate (2 * level) ' ')

def block (level : Nat) (opening closing : String) (parts : List String) :
    String :=
  match parts with
  | [] => opening ++ closing
  | _ =>
      opening ++ "\n" ++
        ",\n".intercalate
          (parts.map (fun part => indentation (level + 1) ++ part)) ++
        "\n" ++ indentation level ++ closing

mutual

def indentedAt (level : Nat) : Json → String
  | .array elements => block level "[" "]" (indentedEach (level + 1) elements)
  | .object members =>
      block level "\x7b" "\x7d" (indentedMembers (level + 1) members)
  | scalar => scalar.compact

def indentedEach (level : Nat) : List Json → List String
  | [] => []
  | value :: rest => value.indentedAt level :: indentedEach level rest

def indentedMembers (level : Nat) :
    List (Option String × Json) → List String
  | [] => []
  | (key, value) :: rest =>
      (quoteOption key ++ ": " ++ value.indentedAt level) ::
        indentedMembers level rest

end

def indented (value : Json) : String :=
  value.indentedAt 0

end Json

end HttpRouting
