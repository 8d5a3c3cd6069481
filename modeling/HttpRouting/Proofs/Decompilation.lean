/-
Templates read back from their programs.

The instructions are read from left to right with the segments found so far.  A
join and the capture behind it turn the latest of these into a field, as many
as the operand of the join says.  Without fields inside fields this gives back
the template that was compiled, so different templates never share a program.
-/

import HttpRouting.Proofs.Layout

namespace HttpRouting

/-- The segments that the instructions stand for, behind those already found,
the latest of which comes first. -/
def segmentsOf? (pool : List String) (found : List Segment) :
    List Instruction → Option (List Segment)
  | [] => some found.reverse
  | { opcode := .push, operand := _ } :: rest =>
      segmentsOf? pool (.wildcard :: found) rest
  | { opcode := .pushLiteral, operand := slot } :: rest =>
      match pool[slot]? with
      | none => none
      | some text => segmentsOf? pool (.literal text :: found) rest
  | { opcode := .pushRest, operand := _ } :: rest =>
      segmentsOf? pool (.deepWildcard :: found) rest
  | { opcode := .concat, operand := count } ::
      { opcode := .capture, operand := slot } :: rest =>
      match pool[slot]? with
      | none => none
      | some path =>
          segmentsOf? pool
            (.field path (found.take count).reverse :: found.drop count) rest
  | _ => none

def Program.template? (program : Program) : Option Template :=
  (segmentsOf? program.pool [] program.instructions).map (fun segments =>
    { segments := segments
      verb := program.verb })

namespace Segment

variable {pool : List String}

theorem PushedBy.segmentsOf? {segment : Segment} {instruction : Instruction}
    (pushed : segment.PushedBy pool instruction) (found : List Segment)
    (rest : List Instruction) :
    segmentsOf? pool found (instruction :: rest) =
      segmentsOf? pool (segment :: found) rest := by
  cases pushed with
  | literal text slot own => simp only [HttpRouting.segmentsOf?, own]
  | wildcard => rfl
  | deepWildcard => rfl

theorem CodedInside.segmentsOf? {segments : List Segment}
    {code : List Instruction} (coded : CodedInside pool segments code)
    (plain : ∀ segment ∈ segments, segment.isField = false)
    (found : List Segment) (rest : List Instruction) :
    segmentsOf? pool found (code ++ rest) =
      segmentsOf? pool (segments.reverse ++ found) rest := by
  induction coded generalizing found with
  | nil =>
      rfl
  | push segment instruction others code pushed othersCoded
      inductionHypothesis =>
      have othersPlain : ∀ other ∈ others, other.isField = false :=
        fun other member => plain other (List.mem_cons_of_mem segment member)
      rw [List.cons_append, pushed.segmentsOf?,
        inductionHypothesis othersPlain, List.reverse_cons, List.append_assoc,
        List.singleton_append]
  | skip path inner others code othersCoded inductionHypothesis =>
      have impossible := plain (.field path inner) List.mem_cons_self
      cases impossible

/-- The join of a field takes exactly the segments found inside it. -/
theorem segmentsOf?_field (path : String) (inner found : List Segment)
    (slot : Nat) (own : pool[slot]? = some path) (rest : List Instruction) :
    segmentsOf? pool (inner.reverse ++ found)
        ({ opcode := .concat
           operand := inner.length } ::
          { opcode := .capture
            operand := slot } :: rest) =
      segmentsOf? pool (.field path inner :: found) rest := by
  have taken : (inner.reverse ++ found).take inner.length = inner.reverse :=
    List.take_left' List.length_reverse
  have left : (inner.reverse ++ found).drop inner.length = found :=
    List.drop_left' List.length_reverse
  simp only [segmentsOf?, own, taken, left, List.reverse_reverse]

theorem Coded.segmentsOf? {segments : List Segment}
    {code : List Instruction} (coded : Coded pool segments code)
    (unnested :
      ∀ segment ∈ segments, ∀ leaf ∈ segment.leaves, leaf.isField = false)
    (found : List Segment) :
    segmentsOf? pool found code = some (found.reverse ++ segments) := by
  induction coded generalizing found with
  | nil =>
      rw [List.append_nil]
      rfl
  | push segment instruction others code pushed othersCoded
      inductionHypothesis =>
      have othersUnnested :
          ∀ other ∈ others, ∀ leaf ∈ other.leaves, leaf.isField = false :=
        fun other member =>
          unnested other (List.mem_cons_of_mem segment member)
      rw [pushed.segmentsOf?, inductionHypothesis othersUnnested,
        List.reverse_cons, List.append_assoc, List.singleton_append]
  | field path inner others innerCode code slot inside own othersCoded
      inductionHypothesis =>
      have innerPlain : ∀ segment ∈ inner, segment.isField = false :=
        unnested (.field path inner) List.mem_cons_self
      have othersUnnested :
          ∀ other ∈ others, ∀ leaf ∈ other.leaves, leaf.isField = false :=
        fun other member =>
          unnested other (List.mem_cons_of_mem (.field path inner) member)
      rw [inside.segmentsOf? innerPlain,
        segmentsOf?_field path inner found slot own,
        inductionHypothesis othersUnnested, List.reverse_cons,
        List.append_assoc, List.singleton_append]

end Segment

namespace Template

theorem template?_compile (template : Template)
    (unnested : template.Unnested) :
    template.compile.template? = some template := by
  have read :=
    template.coded_compile.segmentsOf? (unnested.segments template) []
  unfold Program.template?
  rw [read]
  rfl

/-- A template without fields inside fields is read back from its program, and
no other such template has the same program. -/
theorem template?_compile_and_compile_eq_iff (left right : Template)
    (leftUnnested : left.Unnested) (rightUnnested : right.Unnested) :
    left.compile.template? = some left ∧
      (left.compile = right.compile ↔ left = right) := by
  have leftRead := left.template?_compile leftUnnested
  have rightRead := right.template?_compile rightUnnested
  refine ⟨leftRead, ?_⟩
  constructor
  · intro same
    rw [same, rightRead] at leftRead
    exact (Option.some.inj leftRead).symm
  · intro same
    rw [same]

def literalBeforeField : Template :=
  { segments := [.literal "x", .field "x" [.wildcard]] }

def literalInsideField : Template :=
  { segments := [.field "x" [.literal "x", .wildcard]] }

/-- Only the operand of the join tells the two programs apart. -/
theorem template?_compile_and_compile_eq_iff_moved :
    literalBeforeField.Unnested ∧ literalInsideField.Unnested ∧
      literalBeforeField.compile.template? = some literalBeforeField ∧
        literalBeforeField.compile.pool = literalInsideField.compile.pool ∧
          literalBeforeField.compile ≠ literalInsideField.compile := by
  have beforeUnnested : literalBeforeField.Unnested := by
    decide
  have insideUnnested : literalInsideField.Unnested := by
    decide
  rcases
    template?_compile_and_compile_eq_iff literalBeforeField
      literalInsideField beforeUnnested insideUnnested with
    ⟨read, sameProgram_iff⟩
  refine ⟨beforeUnnested, insideUnnested, read, by decide, ?_⟩
  intro same
  exact absurd (sameProgram_iff.mp same) (by decide)

/-- A field inside a field leaves no trace but the operand of the join, so it
cannot be told from a segment in front of the outer field. -/
example :
    ({ segments := [.literal "a", .field "x" [.field "y" []]] } :
        Template).compile =
      ({ segments := [.field "x" [.literal "a"]] } : Template).compile := by
  decide

end Template

end HttpRouting
