/-
Templates as JSON documents.

A segment without content is written as its name, any other as an object with
its name as the only key.  A template is an object with the keys `segments`
and `verb`, the content of a field one with the keys `path` and `segments`.
Reading also takes a segment without content as an object whose value is null,
a template or the content of a field as the array of its parts, and a template
without a verb.  Known keys come at most once, keys with another name are
skipped, and documents may be nested to any depth.

The array of a field's parts is only taken out of a text.  In a value that was
read before, the content of a field has to be an object.
-/

import HttpRouting.Json.Reader
import HttpRouting.Template.Basic

namespace HttpRouting

/-- A document is read piece by piece out of a text, or it is at hand as a
value that was read before. -/
inductive Json.Source where
  | text
  | value
  deriving DecidableEq, Repr

namespace Segment

/-! ### Writing -/

mutual

def toJson : Segment → Json
  | .literal text => Json.record [("literal", Json.text text)]
  | .wildcard => Json.text "wildcard"
  | .deepWildcard => Json.text "deep_wildcard"
  | .field path segments =>
      Json.record
        [("variable",
          Json.record
            [("path", Json.text path),
              ("segments", .array (toJsonEach segments))])]

def toJsonEach : List Segment → List Json
  | [] => []
  | segment :: rest => segment.toJson :: toJsonEach rest

end

/-! ### Reading -/

def ofName? (name : String) : Option Segment :=
  if name = "wildcard" then some .wildcard
  else if name = "deep_wildcard" then some .deepWildcard
  else none

mutual

def ofDocument? (source : Json.Source) : Json → Option Segment
  | .string (some name) => ofName? name
  | .object [(some name, .null)] => ofName? name
  | .object [(some name, .string (some text))] =>
      if name = "literal" then some (.literal text) else none
  | .object [(some name, .object members)] =>
      if name = "variable" ∧ Json.keysSpelled members then
        (Json.requiredText? "path" members).bind (fun path =>
          (segmentsOfMembers? source members).map (field path))
      else none
  | .object [(some name, .array [.string (some path), .array elements])] =>
      if name = "variable" ∧ source = .text then
        (ofDocumentEach? source elements).map (field path)
      else none
  | _ => none

def ofDocumentEach? (source : Json.Source) : List Json → Option (List Segment)
  | [] => some []
  | value :: rest =>
      match ofDocument? source value, ofDocumentEach? source rest with
      | some segment, some segments => some (segment :: segments)
      | _, _ => none

/-- The elements of the only member with the key `segments`. -/
def segmentsOfMembers? (source : Json.Source) :
    List (Option String × Json) → Option (List Segment)
  | [] => none
  | (key, .array elements) :: rest =>
      if key = some "segments" then
        if some "segments" ∈ rest.map Prod.fst then none
        else ofDocumentEach? source elements
      else segmentsOfMembers? source rest
  | (key, _) :: rest =>
      if key = some "segments" then none
      else segmentsOfMembers? source rest

end

end Segment

namespace Template

def toJson (template : Template) : Json :=
  Json.record
    [("segments", .array (Segment.toJsonEach template.segments)),
      ("verb", Json.text template.verb)]

def ofParts? (source : Json.Source) (segments verb : Json) :
    Option Template :=
  match segments, verb with
  | .array elements, .string (some verb) =>
      (Segment.ofDocumentEach? source elements).map
        (fun segments =>
          { segments := segments
            verb := verb })
  | _, _ => none

def ofDocument? (source : Json.Source) : Json → Option Template
  | .array [segments] => ofParts? source segments (Json.text "")
  | .array [segments, verb] => ofParts? source segments verb
  | .object members =>
      if Json.keysSpelled members then do
        let segments ← ← Json.uniqueMember? "segments" members
        let verb ← Json.uniqueMember? "verb" members
        ofParts? source segments (verb.getD (Json.text ""))
      else none
  | _ => none

def ofJson? (value : Json) : Option Template :=
  ofDocument? .value value

end Template

end HttpRouting
