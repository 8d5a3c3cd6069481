/-
The pattern text of a template.

A pattern is a slash, the texts of the segments joined by slashes, and a colon
with the verb when there is one.
-/

import HttpRouting.Template.Basic
import HttpRouting.Text.Slash

namespace HttpRouting

namespace Segment

mutual

/-- The text of one segment, without a slash before it.  A field without
segments is written as if it held one wildcard. -/
def render : Segment → String
  | .literal text => text
  | .wildcard => "*"
  | .deepWildcard => "**"
  | .field path [] => "\x7b" ++ path ++ "=*\x7d"
  | .field path (first :: rest) =>
      "\x7b" ++ path ++ "=" ++ slashJoin (first.render :: renderEach rest) ++
        "\x7d"

def renderEach : List Segment → List String
  | [] => []
  | segment :: rest => segment.render :: renderEach rest

end

theorem renderEach_eq_map (segments : List Segment) :
    renderEach segments = segments.map render := by
  induction segments with
  | nil =>
      rfl
  | cons segment rest inductionHypothesis =>
      rw [renderEach, inductionHypothesis, List.map_cons]

end Segment

namespace Template

def renderVerb (template : Template) : String :=
  if template.verb = "" then "" else ":" ++ template.verb

def render (template : Template) : String :=
  "/" ++ slashJoin (template.segments.map Segment.render) ++
    template.renderVerb

end Template

end HttpRouting
