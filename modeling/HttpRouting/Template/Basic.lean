/-
Path templates.

A template is the pattern of a route: segments in order and an optional verb.
A field segment binds the text matched by its own segments to a field path.
Segment trees may nest fields to any depth; the reader of patterns only ever
builds trees in which a field holds literals and wildcards.
-/

namespace HttpRouting

inductive Segment where
  /-- Matches one component that equals the text. -/
  | literal (text : String)
  /-- Matches any one component. -/
  | wildcard
  /-- Matches all the components that remain, possibly none. -/
  | deepWildcard
  /-- Binds the slash-joined values of its segments to a field path. -/
  | field (path : String) (segments : List Segment)
  deriving Repr, Inhabited

namespace Segment

/-! ### Equality of segment trees -/

mutual

def decideEq : (left right : Segment) → Decidable (left = right)
  | .literal leftText, .literal rightText =>
      if equal : leftText = rightText then
        .isTrue (by rw [equal])
      else
        .isFalse (fun same => equal (Segment.literal.inj same))
  | .wildcard, .wildcard => .isTrue rfl
  | .deepWildcard, .deepWildcard => .isTrue rfl
  | .field leftPath leftSegments, .field rightPath rightSegments =>
      if pathEq : leftPath = rightPath then
        match decideEqList leftSegments rightSegments with
        | .isTrue segmentsEq => .isTrue (by rw [pathEq, segmentsEq])
        | .isFalse segmentsNe =>
            .isFalse (fun same => segmentsNe (Segment.field.inj same).2)
      else
        .isFalse (fun same => pathEq (Segment.field.inj same).1)
  | .literal _, .wildcard => .isFalse nofun
  | .literal _, .deepWildcard => .isFalse nofun
  | .literal _, .field _ _ => .isFalse nofun
  | .wildcard, .literal _ => .isFalse nofun
  | .wildcard, .deepWildcard => .isFalse nofun
  | .wildcard, .field _ _ => .isFalse nofun
  | .deepWildcard, .literal _ => .isFalse nofun
  | .deepWildcard, .wildcard => .isFalse nofun
  | .deepWildcard, .field _ _ => .isFalse nofun
  | .field _ _, .literal _ => .isFalse nofun
  | .field _ _, .wildcard => .isFalse nofun
  | .field _ _, .deepWildcard => .isFalse nofun

def decideEqList :
    (left right : List Segment) → Decidable (left = right)
  | [], [] => .isTrue rfl
  | [], _ :: _ => .isFalse nofun
  | _ :: _, [] => .isFalse nofun
  | leftHead :: leftTail, rightHead :: rightTail =>
      match decideEq leftHead rightHead with
      | .isFalse headNe =>
          .isFalse (fun same => headNe (List.cons.inj same).1)
      | .isTrue headEq =>
          match decideEqList leftTail rightTail with
          | .isTrue tailEq => .isTrue (by rw [headEq, tailEq])
          | .isFalse tailNe =>
              .isFalse (fun same => tailNe (List.cons.inj same).2)

end

instance : DecidableEq Segment :=
  decideEq

/-! ### Parts of a segment -/

def isField : Segment → Bool
  | .field _ _ => true
  | _ => false

def fieldPath? : Segment → Option String
  | .field path _ => some path
  | _ => none

/-- The segments that take part in matching: a field stands for the segments
directly inside it, any other segment for itself. -/
def leaves : Segment → List Segment
  | .field _ segments => segments
  | simple => [simple]

end Segment

/-- A route pattern.  An empty verb means that there is none. -/
structure Template where
  segments : List Segment
  verb : String := ""
  deriving DecidableEq, Repr, Inhabited

namespace Template

def fieldPaths (template : Template) : List String :=
  template.segments.filterMap Segment.fieldPath?

def fieldCount (template : Template) : Nat :=
  template.segments.countP Segment.isField

/-- All segments with the top-level fields unwrapped. -/
def leaves (template : Template) : List Segment :=
  template.segments.flatMap Segment.leaves

theorem fieldPaths_length (template : Template) :
    template.fieldPaths.length = template.fieldCount := by
  cases template with
  | mk segments verb =>
      unfold fieldPaths fieldCount
      induction segments with
      | nil =>
          rfl
      | cons segment rest inductionHypothesis =>
          cases segment <;>
            simp_all [Segment.fieldPath?, Segment.isField,
              List.filterMap_cons, List.countP_cons]

end Template

end HttpRouting
