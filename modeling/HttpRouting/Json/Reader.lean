/-
JSON values from tokens.

The containers that are still open are kept on a list, innermost first, so
that a document may nest to any depth.
-/

import HttpRouting.Json.Token

namespace HttpRouting

namespace Json

/-- An open container with its finished parts from last to first. -/
inductive Frame where
  | array (elements : List Json)
  | object (members : List (Option String × Json))
  /-- An object whose member with this key waits for its value. -/
  | member (members : List (Option String × Json)) (key : Option String)
  deriving Repr, Inhabited

inductive Expectation where
  | value
  | firstElement
  | firstKey
  | key
  | colon
  /-- A comma or the end of the innermost container. -/
  | separator
  | done (value : Json)
  deriving Repr, Inhabited

structure Reading where
  frames : List Frame := []
  expected : Expectation := .value
  deriving Inhabited

namespace Reading

def complete (value : Json) : List Frame → Option Reading
  | [] => some { frames := [], expected := .done value }
  | .array elements :: outer =>
      some
        { frames := .array (value :: elements) :: outer
          expected := .separator }
  | .member members key :: outer =>
      some
        { frames := .object ((key, value) :: members) :: outer
          expected := .separator }
  | .object _ :: _ => none

def beginValue (frames : List Frame) : Token → Option Reading
  | .scalar value => complete value frames
  | .openBracket =>
      some { frames := .array [] :: frames, expected := .firstElement }
  | .openBrace =>
      some { frames := .object [] :: frames, expected := .firstKey }
  | _ => none

def closeArray : List Frame → Option Reading
  | .array elements :: outer => complete (.array elements.reverse) outer
  | _ => none

def closeObject : List Frame → Option Reading
  | .object members :: outer => complete (.object members.reverse) outer
  | _ => none

def beginMember (frames : List Frame) : Token → Option Reading
  | .scalar (.string key) =>
      match frames with
      | .object members :: outer =>
          some { frames := .member members key :: outer, expected := .colon }
      | _ => none
  | _ => none

def step (reading : Reading) (token : Token) : Option Reading :=
  match reading.expected, token with
  | .value, token => beginValue reading.frames token
  | .firstElement, .closeBracket => closeArray reading.frames
  | .firstElement, token => beginValue reading.frames token
  | .firstKey, .closeBrace => closeObject reading.frames
  | .firstKey, token => beginMember reading.frames token
  | .key, token => beginMember reading.frames token
  | .colon, .colon => some { reading with expected := .value }
  | .separator, .closeBracket => closeArray reading.frames
  | .separator, .closeBrace => closeObject reading.frames
  | .separator, .comma =>
      match reading.frames with
      | .array _ :: _ => some { reading with expected := .value }
      | .object _ :: _ => some { reading with expected := .key }
      | _ => none
  | _, _ => none

def value? (reading : Reading) : Option Json :=
  match reading.expected with
  | .done value => some value
  | _ => none

end Reading

def ofTokens? (tokens : List Token) : Option Json :=
  (tokens.foldlM Reading.step {}).bind Reading.value?

def parse? (text : String) : Option Json :=
  (tokens? text.toList).bind ofTokens?

end Json

end HttpRouting
