/-
How a compiled program is laid out.

The instructions are related to the segments one by one, and every operand to
the text that it stands for in the finished pool; how the pool grows while the
program is compiled does not show.  The relation is defined apart from
compiling.  That every join is followed by the capture of its field, and every
capture preceded by its join, is read off the relation.
-/

import HttpRouting.Proofs.Interning
import HttpRouting.Proofs.Validity
import Mathlib.Data.List.Nodup

namespace HttpRouting

/-! ### The code of segments -/

namespace Segment

/-- The instruction pushes what a segment other than a field matches.  Its
operand addresses the own text of the segment, if there is one. -/
inductive PushedBy (pool : List String) : Segment → Instruction → Prop where
  | literal (text : String) (slot : Nat) (own : pool[slot]? = some text) :
      PushedBy pool (.literal text)
        { opcode := .pushLiteral
          operand := slot }
  | wildcard :
      PushedBy pool .wildcard
        { opcode := .push
          operand := 0 }
  | deepWildcard :
      PushedBy pool .deepWildcard
        { opcode := .pushRest
          operand := 0 }

inductive CodedInside (pool : List String) :
    List Segment → List Instruction → Prop where
  | nil : CodedInside pool [] []
  | push (segment : Segment) (instruction : Instruction)
      (rest : List Segment) (code : List Instruction)
      (pushed : segment.PushedBy pool instruction)
      (others : CodedInside pool rest code) :
      CodedInside pool (segment :: rest) (instruction :: code)
  | skip (path : String) (inner rest : List Segment)
      (code : List Instruction) (others : CodedInside pool rest code) :
      CodedInside pool (.field path inner :: rest) code

/-- The code of the segments at the top level.  The operand of a join is the
number of segments that the field declares, and the operand of the capture
behind it addresses the path of the field. -/
inductive Coded (pool : List String) :
    List Segment → List Instruction → Prop where
  | nil : Coded pool [] []
  | push (segment : Segment) (instruction : Instruction)
      (rest : List Segment) (code : List Instruction)
      (pushed : segment.PushedBy pool instruction)
      (others : Coded pool rest code) :
      Coded pool (segment :: rest) (instruction :: code)
  | field (path : String) (inner rest : List Segment)
      (innerCode code : List Instruction) (slot : Nat)
      (inside : CodedInside pool inner innerCode)
      (own : pool[slot]? = some path) (others : Coded pool rest code) :
      Coded pool (.field path inner :: rest)
        (innerCode ++
          { opcode := .concat
            operand := inner.length } ::
          { opcode := .capture
            operand := slot } :: code)

end Segment

/-! ### Compiling produces it -/

theorem exists_pushedBy_compileSimple (pool : Pool) (entries : List String)
    (segment : Segment) (plain : segment.isField = false)
    (known : (compileSimple pool segment).2.entries <+: entries) :
    ∃ instruction,
      (compileSimple pool segment).1.instructions = [instruction] ∧
        segment.PushedBy entries instruction := by
  cases segment with
  | literal text =>
      refine ⟨_, rfl, ?_⟩
      apply Segment.PushedBy.literal
      exact intern_getElem?_of_prefix pool text entries known
  | wildcard => exact ⟨_, rfl, .wildcard⟩
  | deepWildcard => exact ⟨_, rfl, .deepWildcard⟩
  | field path segments => cases plain

theorem codedInside_compileInner (pool : Pool) (entries : List String)
    (segments : List Segment)
    (known : (compileInner pool segments).2.entries <+: entries) :
    Segment.CodedInside entries segments
      (compileInner pool segments).1.instructions := by
  induction segments generalizing pool with
  | nil =>
      exact .nil
  | cons segment rest inductionHypothesis =>
      rcases prefix_of_compileInner_cons pool segment rest entries known with
        ⟨firstKnown, restKnown⟩
      have others := inductionHypothesis _ restKnown
      cases plain : segment.isField with
      | false =>
          rcases exists_pushedBy_compileSimple pool entries segment plain
            firstKnown with ⟨instruction, codeEq, pushed⟩
          simp only [compileInner, Code.append, codeEq,
            List.singleton_append]
          exact .push segment instruction rest _ pushed others
      | true =>
          rcases segment.exists_eq_field plain with ⟨path, inner, rfl⟩
          exact .skip path inner rest _ others

theorem coded_compileSegments (pool : Pool) (entries : List String)
    (segments : List Segment)
    (known : (compileSegments pool segments).2.entries <+: entries) :
    Segment.Coded entries segments
      (compileSegments pool segments).1.instructions := by
  induction segments generalizing pool with
  | nil =>
      exact .nil
  | cons segment rest inductionHypothesis =>
      rcases prefix_of_compileSegments_cons pool segment rest entries
        known with ⟨firstKnown, restKnown⟩
      have others := inductionHypothesis _ restKnown
      cases plain : segment.isField with
      | false =>
          have simpleEq :=
            Machine.compileSegment_of_plain pool segment plain
          rw [simpleEq] at firstKnown
          rcases exists_pushedBy_compileSimple pool entries segment plain
            firstKnown with ⟨instruction, codeEq, pushed⟩
          rw [← simpleEq] at codeEq
          simp only [compileSegments, Code.append, codeEq,
            List.singleton_append]
          exact .push segment instruction rest _ pushed others
      | true =>
          rcases segment.exists_eq_field plain with ⟨path, inner, rfl⟩
          have innerKnown :
              (compileInner pool inner).2.entries <+: entries :=
            (Pool.entries_prefix_intern _ path).trans firstKnown
          have own :=
            intern_getElem?_of_prefix (compileInner pool inner).2 path
              entries firstKnown
          have inside :=
            codedInside_compileInner pool entries inner innerKnown
          simp only [compileSegments, compileSegment, Code.append,
            captureCode, List.append_assoc, List.cons_append,
            List.nil_append]
          exact .field path inner rest _ _ _ inside own others

/-! ### Texts in the order of their use -/

namespace Segment

def literalText? : Segment → Option String
  | .literal text => some text
  | _ => none

/-- The texts that a top-level segment needs.  The path of a field comes
behind the literals directly inside it. -/
def pooledTexts : Segment → List String
  | .field path segments => segments.filterMap literalText? ++ [path]
  | simple => simple.literalText?.toList

end Segment

def Instruction.addressed? (pool : List String)
    (instruction : Instruction) : Option String :=
  if instruction.opcode.usesPool then pool[instruction.operand]? else none

theorem compileSimple_pool (pool : Pool) (segment : Segment) :
    (compileSimple pool segment).2 =
      (pool.internAll segment.literalText?.toList).2 := by
  cases segment <;> rfl

theorem compileInner_pool (pool : Pool) (segments : List Segment) :
    (compileInner pool segments).2 =
      (pool.internAll (segments.filterMap Segment.literalText?)).2 := by
  induction segments generalizing pool with
  | nil =>
      rfl
  | cons segment rest inductionHypothesis =>
      have splitTexts :
          (segment :: rest).filterMap Segment.literalText? =
            segment.literalText?.toList ++
              rest.filterMap Segment.literalText? := by
        cases segment <;> rfl
      rw [splitTexts, Pool.internAll_append, ← compileSimple_pool]
      exact inductionHypothesis _

theorem compileSegment_pool (pool : Pool) (segment : Segment) :
    (compileSegment pool segment).2 =
      (pool.internAll segment.pooledTexts).2 := by
  cases segment with
  | field path segments =>
      rw [Segment.pooledTexts, Pool.internAll_append,
        Pool.internAll_singleton, ← compileInner_pool]
      rfl
  | _ => exact compileSimple_pool pool _

theorem compileSegments_pool (pool : Pool) (segments : List Segment) :
    (compileSegments pool segments).2 =
      (pool.internAll (segments.flatMap Segment.pooledTexts)).2 := by
  induction segments generalizing pool with
  | nil =>
      rfl
  | cons segment rest inductionHypothesis =>
      rw [List.flatMap_cons, Pool.internAll_append, ← compileSegment_pool]
      exact inductionHypothesis _

namespace Segment

variable {pool : List String}

theorem PushedBy.addressed? {segment : Segment} {instruction : Instruction}
    (pushed : segment.PushedBy pool instruction) :
    instruction.addressed? pool = segment.literalText? := by
  cases pushed with
  | literal text slot own => exact own
  | wildcard => rfl
  | deepWildcard => rfl

theorem PushedBy.plain {segment : Segment} {instruction : Instruction}
    (pushed : segment.PushedBy pool instruction) :
    segment.isField = false := by
  cases pushed <;> rfl

theorem pooledTexts_of_plain (segment : Segment)
    (plain : segment.isField = false) :
    segment.pooledTexts = segment.literalText?.toList := by
  cases segment with
  | field path segments => cases plain
  | _ => rfl

theorem CodedInside.addressed {segments : List Segment}
    {code : List Instruction} (coded : CodedInside pool segments code) :
    code.filterMap (Instruction.addressed? pool) =
      segments.filterMap literalText? := by
  induction coded with
  | nil =>
      rfl
  | push segment instruction rest code pushed others inductionHypothesis =>
      rw [List.filterMap_cons, List.filterMap_cons, pushed.addressed?,
        inductionHypothesis]
  | skip path inner rest code others inductionHypothesis =>
      exact inductionHypothesis

theorem Coded.addressed {segments : List Segment}
    {code : List Instruction} (coded : Coded pool segments code) :
    code.filterMap (Instruction.addressed? pool) =
      segments.flatMap pooledTexts := by
  induction coded with
  | nil =>
      rfl
  | push segment instruction rest code pushed others inductionHypothesis =>
      rw [List.filterMap_cons, List.flatMap_cons, pushed.addressed?,
        pooledTexts_of_plain segment pushed.plain, inductionHypothesis]
      cases segment.literalText? with
      | none => rfl
      | some text => rfl
  | field path inner rest innerCode code slot inside own others
      inductionHypothesis =>
      rw [List.filterMap_append, inside.addressed, List.flatMap_cons,
        ← inductionHypothesis]
      simp [pooledTexts, Instruction.addressed?, Opcode.usesPool, own]

/-! ### Joins and captures -/

theorem PushedBy.opcode {segment : Segment} {instruction : Instruction}
    (pushed : segment.PushedBy pool instruction) :
    instruction.opcode ≠ .concat ∧ instruction.opcode ≠ .capture := by
  cases pushed <;> exact ⟨nofun, nofun⟩

theorem CodedInside.opcode {segments : List Segment}
    {code : List Instruction} (coded : CodedInside pool segments code)
    (instruction : Instruction) (member : instruction ∈ code) :
    instruction.opcode ≠ .concat ∧ instruction.opcode ≠ .capture := by
  induction coded with
  | nil =>
      cases member
  | push segment first rest code pushed others inductionHypothesis =>
      rcases List.mem_cons.mp member with atHead | inRest
      · rw [atHead]
        exact pushed.opcode
      · exact inductionHypothesis inRest
  | skip path inner rest code others inductionHypothesis =>
      exact inductionHypothesis member

end Segment

theorem exists_behind (first second before after : List Instruction)
    (instruction : Instruction) (absent : instruction ∉ first)
    (split : first ++ second = before ++ instruction :: after) :
    ∃ middle,
      before = first ++ middle ∧ second = middle ++ instruction :: after := by
  rcases List.append_eq_append_iff.mp split with
    ⟨middle, beforeEq, secondEq⟩ | ⟨middle, firstEq, restEq⟩
  · exact ⟨middle, beforeEq, secondEq⟩
  · cases middle with
    | nil =>
        rw [List.append_nil] at firstEq
        rw [List.nil_append] at restEq
        exact ⟨[], by rw [firstEq, List.append_nil], restEq.symm⟩
    | cons other others =>
        rw [List.cons_append] at restEq
        rw [← (List.cons.inj restEq).1] at firstEq
        exact absurd (by rw [firstEq]; simp) absent

namespace Segment

variable {pool : List String}

/-- An instruction that pushes nothing belongs to a field: it is the join
behind the code inside that field, or the capture behind the join. -/
theorem Coded.exists_field {segments : List Segment}
    {code : List Instruction} (coded : Coded pool segments code)
    (before after : List Instruction) (instruction : Instruction)
    (split : code = before ++ instruction :: after)
    (noPush :
      instruction.opcode = .concat ∨ instruction.opcode = .capture) :
    ∃ front path inner back frontCode innerCode slot rest,
      segments = front ++ .field path inner :: back ∧
        pool[slot]? = some path ∧
          Coded pool front frontCode ∧
            CodedInside pool inner innerCode ∧
              ((before = frontCode ++ innerCode ∧
                  instruction :: after =
                    { opcode := .concat
                      operand := inner.length } ::
                    { opcode := .capture
                      operand := slot } :: rest) ∨
                (before =
                    frontCode ++ innerCode ++
                      [{ opcode := .concat
                         operand := inner.length }] ∧
                  instruction :: after =
                    { opcode := .capture
                      operand := slot } :: rest)) := by
  induction coded generalizing before with
  | nil =>
      exact absurd split.symm (by simp)
  | push segment first rest code pushed others inductionHypothesis =>
      cases before with
      | nil =>
          rw [List.nil_append] at split
          rw [(List.cons.inj split).1] at pushed
          rcases pushed.opcode with ⟨notJoin, notCapture⟩
          exact (noPush.elim notJoin notCapture).elim
      | cons head before =>
          rw [List.cons_append] at split
          rcases List.cons.inj split with ⟨rfl, codeEq⟩
          rcases inductionHypothesis before codeEq with
            ⟨front, path, inner, back, frontCode, innerCode, slot, behind,
              rfl, own, frontCoded, inside, place⟩
          refine
            ⟨segment :: front, path, inner, back, first :: frontCode,
              innerCode, slot, behind, rfl, own,
              .push segment first front frontCode pushed frontCoded,
              inside, ?_⟩
          rcases place with ⟨rfl, found⟩ | ⟨rfl, found⟩
          · exact .inl ⟨rfl, found⟩
          · exact .inr ⟨rfl, found⟩
  | field path inner rest innerCode code slot inside own others
      inductionHypothesis =>
      have outside : instruction ∉ innerCode := by
        intro member
        rcases inside.opcode instruction member with ⟨notJoin, notCapture⟩
        exact noPush.elim notJoin notCapture
      rcases exists_behind innerCode _ before after instruction outside
        split with ⟨middle, rfl, found⟩
      -- Behind the code inside the field come its join and its capture.
      cases middle with
      | nil =>
          exact
            ⟨[], path, inner, rest, [], innerCode, slot, code, rfl, own,
              .nil, inside, .inl ⟨List.append_nil innerCode, found.symm⟩⟩
      | cons join middle =>
          rcases List.cons.inj found with ⟨rfl, behindJoin⟩
          cases middle with
          | nil =>
              exact
                ⟨[], path, inner, rest, [], innerCode, slot, code, rfl, own,
                  .nil, inside, .inr ⟨rfl, behindJoin.symm⟩⟩
          | cons capture middle =>
              rcases List.cons.inj behindJoin with ⟨rfl, codeEq⟩
              rcases inductionHypothesis middle codeEq with
                ⟨front, otherPath, otherInner, back, frontCode, otherCode,
                  otherSlot, behind, rfl, otherOwn, frontCoded, otherInside,
                  place⟩
              refine
                ⟨.field path inner :: front, otherPath, otherInner, back, _,
                  otherCode, otherSlot, behind, rfl, otherOwn,
                  .field path inner front innerCode frontCode slot inside
                    own frontCoded,
                  otherInside, ?_⟩
              rcases place with ⟨rfl, later⟩ | ⟨rfl, later⟩
              · exact .inl ⟨by simp, later⟩
              · exact .inr ⟨by simp, later⟩

/-- In front of a capture stand the code of the segments before a field, the
code inside that field and its join. -/
theorem Coded.capture {segments : List Segment} {code : List Instruction}
    (coded : Coded pool segments code) (before after : List Instruction)
    (slot : Nat)
    (split :
      code =
        before ++
          { opcode := .capture
            operand := slot } :: after) :
    ∃ front path inner back frontCode innerCode,
      segments = front ++ .field path inner :: back ∧
        pool[slot]? = some path ∧
          Coded pool front frontCode ∧
            CodedInside pool inner innerCode ∧
              before =
                frontCode ++ innerCode ++
                  [{ opcode := .concat
                     operand := inner.length }] := by
  rcases coded.exists_field before after _ split (.inr rfl) with
    ⟨front, path, inner, back, frontCode, innerCode, ownSlot, rest,
      segmentsEq, own, frontCoded, inside, ⟨_, found⟩ | ⟨beforeEq, found⟩⟩
  · cases (List.cons.inj found).1
  · cases found
    exact
      ⟨front, path, inner, back, frontCode, innerCode, segmentsEq, own,
        frontCoded, inside, beforeEq⟩

theorem Coded.join {segments : List Segment} {code : List Instruction}
    (coded : Coded pool segments code) (before after : List Instruction)
    (count : Nat)
    (split :
      code =
        before ++
          { opcode := .concat
            operand := count } :: after) :
    ∃ slot rest,
      after =
        { opcode := .capture
          operand := slot } :: rest := by
  rcases coded.exists_field before after _ split (.inl rfl) with
    ⟨front, path, inner, back, frontCode, innerCode, slot, rest, _, _, _, _,
      ⟨_, found⟩ | ⟨_, found⟩⟩
  · exact ⟨slot, rest, (List.cons.inj found).2⟩
  · cases (List.cons.inj found).1

end Segment

namespace Template

/-! ### Programs and their templates -/

/-- The texts that a template needs in the pool, in the order of their use and
each as often as it is used. -/
def pooledTexts (template : Template) : List String :=
  template.segments.flatMap Segment.pooledTexts

/-- The parts of the program fit together, and they are those of the
template. -/
structure LaidOut (template : Template) (program : Program) : Prop where
  /-- The pool holds the texts that are needed, in the order of their first
  use. -/
  pool : program.pool = template.pooledTexts.eraseDups
  poolDistinct : program.pool.Nodup
  /-- Every instruction belongs to its segment, and its operand addresses the
  text of that segment. -/
  code : Segment.Coded program.pool template.segments program.instructions
  addressed :
    program.instructions.filterMap (Instruction.addressed? program.pool) =
      template.pooledTexts
  poolUsed :
    ∀ slot < program.pool.length,
      ∃ instruction ∈ program.instructions,
        instruction.opcode.usesPool = true ∧ instruction.operand = slot
  fields : program.fields = template.fieldPaths
  fieldCount : program.fields.length = template.fieldCount
  captureCount :
    HttpRouting.captureCount program.instructions = template.fieldCount
  /-- A capture belongs to a field of the template: before it stand the code
  of the segments in front of that field, the code inside the field, and the
  join of as many values as the field has segments. -/
  capture :
    ∀ before after slot,
      program.instructions =
          before ++
            { opcode := .capture
              operand := slot } :: after →
        ∃ front path inner back frontCode innerCode,
          template.segments = front ++ .field path inner :: back ∧
            program.pool[slot]? = some path ∧
              Segment.Coded program.pool front frontCode ∧
                Segment.CodedInside program.pool inner innerCode ∧
                  before =
                    frontCode ++ innerCode ++
                      [{ opcode := .concat
                         operand := inner.length }]
  join :
    ∀ before after count,
      program.instructions =
          before ++
            { opcode := .concat
              operand := count } :: after →
        ∃ slot rest,
          after =
            { opcode := .capture
              operand := slot } :: rest
  verb : program.verb = template.verb

theorem coded_compile (template : Template) :
    Segment.Coded template.compile.pool template.segments
      template.compile.instructions :=
  coded_compileSegments Pool.empty _ template.segments (List.prefix_refl _)

theorem compile_pool_eq_internAll (template : Template) :
    template.compile.pool =
      (Pool.empty.internAll template.pooledTexts).2.entries :=
  congrArg Pool.entries
    (compileSegments_pool Pool.empty template.segments)

theorem compile_pool (template : Template) :
    template.compile.pool = template.pooledTexts.eraseDups := by
  rw [compile_pool_eq_internAll]
  exact Pool.internAll_empty_entries template.pooledTexts

theorem compile_pool_nodup (template : Template) :
    template.compile.pool.Nodup := by
  rw [compile_pool_eq_internAll]
  exact Pool.entries_nodup _

theorem mem_compile_pool_iff (template : Template) (text : String) :
    text ∈ template.compile.pool ↔ text ∈ template.pooledTexts := by
  rw [compile_pool]
  exact List.mem_eraseDups

/-- A text comes into the pool with an instruction that uses it. -/
theorem exists_uses_slot (template : Template) (slot : Nat)
    (within : slot < template.compile.pool.length) :
    ∃ instruction ∈ template.compile.instructions,
      instruction.opcode.usesPool = true ∧ instruction.operand = slot := by
  have needed :
      template.compile.pool[slot] ∈
        template.compile.instructions.filterMap
          (Instruction.addressed? template.compile.pool) := by
    rw [template.coded_compile.addressed]
    apply (template.mem_compile_pool_iff _).mp
    exact List.getElem_mem within
  rcases List.mem_filterMap.mp needed with
    ⟨instruction, member, addressed⟩
  unfold Instruction.addressed? at addressed
  split at addressed
  · rename_i usesPool
    rcases List.getElem?_eq_some_iff.mp addressed with ⟨inside, sameText⟩
    refine ⟨instruction, member, usesPool, ?_⟩
    exact
      (List.Nodup.getElem_inj_iff template.compile_pool_nodup).mp sameText
  · cases addressed

/-- Every compiled program is laid out as its template says. -/
theorem compile_laidOut (template : Template) :
    template.LaidOut template.compile where
  pool := template.compile_pool
  poolDistinct := template.compile_pool_nodup
  code := template.coded_compile
  addressed := template.coded_compile.addressed
  poolUsed := template.exists_uses_slot
  fields := template.compile_fields
  fieldCount := by
    rw [compile_fields, fieldPaths_length]
  captureCount := by
    rw [← fieldPaths_length, ← compile_fields]
    exact captureCount_compileSegments Pool.empty template.segments
  capture := fun before after slot =>
    template.coded_compile.capture before after slot
  join := fun before after count =>
    template.coded_compile.join before after count
  verb := rfl

/-- The path of a field comes behind the literal inside it, and a text that is
needed again keeps its first slot. -/
example :
    ({ segments :=
        [.field "name" [.literal "shelves", .wildcard],
          .literal "name"] } : Template).compile.pool =
      ["shelves", "name"] := by
  decide

end Template

end HttpRouting
