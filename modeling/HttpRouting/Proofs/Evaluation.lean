/-
The meaning of a template on its segment tree.

Segments are walked from left to right.  Each takes components from the front
of what is left, has the taken text as its value, and records its captures.  A
field evaluates its own segments and then captures their joined values.
-/

import HttpRouting.Template.Basic
import HttpRouting.Text.Slash

namespace HttpRouting

/-- What segments make of the components in front of them. -/
structure Evaluation (Value : Type) where
  value : Value
  captures : List (String × String)
  remaining : List String
  deriving DecidableEq, Repr

namespace Segment

def takeOne (components : List String) : Option (Evaluation String) :=
  match components with
  | [] => none
  | component :: rest =>
      some
        { value := component
          captures := []
          remaining := rest }

mutual

def evaluate : Segment → List String → Option (Evaluation String)
  | .literal text, components =>
      if components.head? = some text then takeOne components else none
  | .wildcard, components => takeOne components
  | .deepWildcard, components =>
      some
        { value := slashJoin components
          captures := []
          remaining := [] }
  | .field path segments, components =>
      match evaluateEach segments components with
      | none => none
      | some inner =>
          some
            { value := slashJoin inner.value
              captures := inner.captures ++ [(path, slashJoin inner.value)]
              remaining := inner.remaining }

def evaluateEach :
    List Segment → List String → Option (Evaluation (List String))
  | [], components =>
      some
        { value := []
          captures := []
          remaining := components }
  | segment :: rest, components =>
      match evaluate segment components with
      | none => none
      | some first =>
          match evaluateEach rest first.remaining with
          | none => none
          | some others =>
              some
                { value := first.value :: others.value
                  captures := first.captures ++ others.captures
                  remaining := others.remaining }

end

/-! ### Fields and other segments -/

theorem exists_eq_field (segment : Segment)
    (isField : segment.isField = true) :
    ∃ path segments, segment = .field path segments := by
  cases segment with
  | field path segments => exact ⟨path, segments, rfl⟩
  | _ => cases isField

theorem leaves_of_plain (segment : Segment)
    (plain : segment.isField = false) : segment.leaves = [segment] := by
  cases segment with
  | field path segments => cases plain
  | _ => rfl

/-! ### Small facts about evaluation -/

theorem evaluateEach_cons (segment : Segment) (rest : List Segment)
    (components : List String) :
    evaluateEach (segment :: rest) components =
      (evaluate segment components).bind (fun first =>
        (evaluateEach rest first.remaining).map (fun others =>
          { value := first.value :: others.value
            captures := first.captures ++ others.captures
            remaining := others.remaining })) := by
  rw [evaluateEach]
  cases evaluate segment components with
  | none =>
      rfl
  | some first =>
      simp only [Option.bind_some]
      cases evaluateEach rest first.remaining with
      | none => rfl
      | some others => rfl

theorem evaluateEach_cons_eq_some_iff (segment : Segment)
    (rest : List Segment) (components : List String)
    (result : Evaluation (List String)) :
    evaluateEach (segment :: rest) components = some result ↔
      ∃ first others,
        evaluate segment components = some first ∧
          evaluateEach rest first.remaining = some others ∧
            result =
              { value := first.value :: others.value
                captures := first.captures ++ others.captures
                remaining := others.remaining } := by
  rw [evaluateEach_cons]
  simp only [Option.bind_eq_some_iff, Option.map_eq_some_iff]
  constructor
  · rintro ⟨first, firstEq, others, othersEq, resultEq⟩
    exact ⟨first, others, firstEq, othersEq, resultEq.symm⟩
  · rintro ⟨first, others, firstEq, othersEq, resultEq⟩
    exact ⟨first, firstEq, others, othersEq, resultEq.symm⟩

theorem evaluateEach_value_length (segments : List Segment)
    (components : List String) (result : Evaluation (List String))
    (evaluated : evaluateEach segments components = some result) :
    result.value.length = segments.length := by
  induction segments generalizing components result with
  | nil =>
      cases evaluated
      rfl
  | cons segment rest inductionHypothesis =>
      obtain ⟨first, others, _, othersEq, rfl⟩ :=
        (evaluateEach_cons_eq_some_iff segment rest components
          result).mp evaluated
      rw [List.length_cons, inductionHypothesis _ _ othersEq,
        List.length_cons]

theorem evaluate_captures_eq_nil (segment : Segment)
    (plain : segment.isField = false) (components : List String)
    (result : Evaluation String)
    (evaluated : evaluate segment components = some result) :
    result.captures = [] := by
  cases segment with
  | literal text =>
      rw [evaluate] at evaluated
      split at evaluated
      · cases components with
        | nil => cases evaluated
        | cons component rest =>
            cases evaluated
            rfl
      · cases evaluated
  | wildcard =>
      cases components with
      | nil => cases evaluated
      | cons component rest =>
          cases evaluated
          rfl
  | deepWildcard =>
      cases evaluated
      rfl
  | field path segments =>
      cases plain

theorem evaluateEach_captures_eq_nil (segments : List Segment)
    (plain : ∀ segment ∈ segments, segment.isField = false)
    (components : List String) (result : Evaluation (List String))
    (evaluated : evaluateEach segments components = some result) :
    result.captures = [] := by
  induction segments generalizing components result with
  | nil =>
      cases evaluated
      rfl
  | cons segment rest inductionHypothesis =>
      obtain ⟨first, others, firstEq, othersEq, rfl⟩ :=
        (evaluateEach_cons_eq_some_iff segment rest components
          result).mp evaluated
      have firstPlain : segment.isField = false :=
        plain segment List.mem_cons_self
      have restPlain : ∀ other ∈ rest, other.isField = false :=
        fun other member => plain other (List.mem_cons_of_mem segment member)
      rw [evaluate_captures_eq_nil segment firstPlain _ _ firstEq,
        inductionHypothesis restPlain _ _ othersEq, List.append_nil]

end Segment

namespace Template

/-- No field stands directly inside a field. -/
def Unnested (template : Template) : Prop :=
  ∀ leaf ∈ template.leaves, leaf.isField = false

instance (template : Template) : Decidable template.Unnested :=
  inferInstanceAs
    (Decidable (∀ leaf ∈ template.leaves, leaf.isField = false))

theorem Unnested.segments (template : Template)
    (unnested : template.Unnested) :
    ∀ segment ∈ template.segments,
      ∀ leaf ∈ segment.leaves, leaf.isField = false :=
  fun segment member leaf leafMember =>
    unnested leaf (List.mem_flatMap.mpr ⟨segment, member, leafMember⟩)

/-- The captures of a request that a template accepts: the request carries the
verb, and its components are taken without rest. -/
def evaluate (template : Template) (components : List String)
    (verb : String) : Option (List (String × String)) :=
  if template.verb = verb then
    match Segment.evaluateEach template.segments components with
    | none => none
    | some result =>
        if result.remaining = [] then some result.captures else none
  else
    none

end Template

end HttpRouting
