/-
Programs from templates.

Each segment becomes instructions of its own, from left to right:

    literal        pushLiteral with the slot of its text
    wildcard       push
    deep wildcard  pushRest
    field          the instructions of its segments, then concat with their
                   number and capture with the slot of its path

A field directly inside a field gets no instruction but is counted in the
operand of concat.
-/

import HttpRouting.Program.Basic
import HttpRouting.Program.Pool
import HttpRouting.Template.Basic

namespace HttpRouting

/-- What segments compile to, apart from the pool. -/
structure Code where
  instructions : List Instruction := []
  fields : List String := []
  deriving DecidableEq, Repr, Inhabited

namespace Code

def append (first second : Code) : Code :=
  { instructions := first.instructions ++ second.instructions
    fields := first.fields ++ second.fields }

def one (opcode : Opcode) (operand : Nat) : Code :=
  { instructions := [{ opcode := opcode, operand := operand }] }

end Code

def compileSimple (pool : Pool) : Segment → Code × Pool
  | .literal text =>
      let (slot, pool) := pool.intern text
      (Code.one .pushLiteral slot, pool)
  | .wildcard => (Code.one .push 0, pool)
  | .deepWildcard => (Code.one .pushRest 0, pool)
  | .field _ _ => ({}, pool)

def compileInner (pool : Pool) : List Segment → Code × Pool
  | [] => ({}, pool)
  | segment :: rest =>
      let (first, pool) := compileSimple pool segment
      let (second, pool) := compileInner pool rest
      (first.append second, pool)

def captureCode (arity slot : Nat) (path : String) : Code :=
  { instructions :=
      [{ opcode := .concat, operand := arity },
        { opcode := .capture, operand := slot }]
    fields := [path] }

def compileSegment (pool : Pool) : Segment → Code × Pool
  | .field path segments =>
      let (inner, pool) := compileInner pool segments
      let (slot, pool) := pool.intern path
      (inner.append (captureCode segments.length slot path), pool)
  | simple => compileSimple pool simple

def compileSegments (pool : Pool) : List Segment → Code × Pool
  | [] => ({}, pool)
  | segment :: rest =>
      let (first, pool) := compileSegment pool segment
      let (second, pool) := compileSegments pool rest
      (first.append second, pool)

/-! ### Shape of the code -/

theorem Code.append_assoc (first second third : Code) :
    (first.append second).append third = first.append (second.append third) := by
  unfold Code.append
  rw [List.append_assoc, List.append_assoc]

theorem Code.empty_append (code : Code) : ({} : Code).append code = code :=
  rfl

theorem compileSimple_fields (pool : Pool) (segment : Segment) :
    (compileSimple pool segment).1.fields = [] := by
  cases segment <;> rfl

theorem compileInner_fields (pool : Pool) (segments : List Segment) :
    (compileInner pool segments).1.fields = [] := by
  induction segments generalizing pool with
  | nil =>
      rfl
  | cons segment rest inductionHypothesis =>
      simp only [compileInner, Code.append, compileSimple_fields,
        inductionHypothesis, List.append_nil]

theorem compileSegment_fields (pool : Pool) (segment : Segment) :
    (compileSegment pool segment).1.fields = segment.fieldPath?.toList := by
  cases segment with
  | literal text => exact compileSimple_fields pool (.literal text)
  | wildcard => rfl
  | deepWildcard => rfl
  | field path segments =>
      simp only [compileSegment, Code.append, compileInner_fields,
        captureCode, List.nil_append, Segment.fieldPath?, Option.toList_some]

theorem compileSegments_fields (pool : Pool) (segments : List Segment) :
    (compileSegments pool segments).1.fields =
      segments.filterMap Segment.fieldPath? := by
  induction segments generalizing pool with
  | nil =>
      rfl
  | cons segment rest inductionHypothesis =>
      simp only [compileSegments, Code.append, compileSegment_fields,
        inductionHypothesis, List.filterMap_cons]
      cases segment.fieldPath? with
      | none => rfl
      | some path => rfl

theorem compileSegments_append (pool : Pool) (first second : List Segment) :
    compileSegments pool (first ++ second) =
      ((compileSegments pool first).1.append
          (compileSegments (compileSegments pool first).2 second).1,
        (compileSegments (compileSegments pool first).2 second).2) := by
  induction first generalizing pool with
  | nil =>
      rfl
  | cons segment rest inductionHypothesis =>
      simp only [List.cons_append, compileSegments, inductionHypothesis,
        Code.append_assoc]

def Template.compile (template : Template) : Program :=
  let (code, pool) := compileSegments Pool.empty template.segments
  Program.assemble code.instructions pool.entries template.verb code.fields

theorem Template.compile_fields (template : Template) :
    template.compile.fields = template.fieldPaths :=
  compileSegments_fields Pool.empty template.segments

end HttpRouting
