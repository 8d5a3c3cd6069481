/-
Quoted texts.

A text between double quotes, in which quotes, backslashes and the characters
that do not show are escaped, so that it stays on one line.
-/

import HttpRouting.Text.Unprintable

namespace HttpRouting

namespace Quoted

def codeEscape (character : Char) : List Char :=
  ['\\', 'u', '{'] ++ Nat.toDigits 16 character.toNat ++ ['}']

def escape (character : Char) : List Char :=
  match character with
  | '\x00' => ['\\', '0']
  | '\t' => ['\\', 't']
  | '\r' => ['\\', 'r']
  | '\n' => ['\\', 'n']
  | '"' => ['\\', '"']
  | '\\' => ['\\', '\\']
  | other => if isUnprintable other then codeEscape other else [other]

end Quoted

def quoted (text : String) : String :=
  "\"" ++ String.ofList (text.toList.flatMap Quoted.escape) ++ "\""

def quotedList (texts : List String) : String :=
  "[" ++ ", ".intercalate (texts.map quoted) ++ "]"

end HttpRouting
