/-
The flat form of a program loses nothing.

Reading the flat form of a program gives the program back, or the error of its
check, whenever its operands have a place among the numbers of the flat form.
They do in every program compiled from a template of that many segments.  What
reading accepts is in turn exactly what the program is written as.
-/

import HttpRouting.Program.Compiler
import HttpRouting.Proofs.Checking
import Mathlib.Tactic.SplitIfs

namespace HttpRouting

/-! ### Single instructions -/

/-- An instruction that the flat form keeps as it is. -/
structure Instruction.Encodable (instruction : Instruction) : Prop where
  isLive : instruction.opcode.isLive = true
  bounded : instruction.operand ≤ greatestOperand

theorem toInt_ofNat_min (operand : Nat)
    (bounded : operand ≤ greatestOperand) :
    (Int32.ofNat (min operand greatestOperand)).toInt = operand := by
  rw [Nat.min_eq_left bounded]
  apply Int32.toInt_ofNat_of_lt
  unfold greatestOperand at bounded
  omega

theorem decodeInstruction_flat (position : Nat) (instruction : Instruction)
    (encodable : instruction.Encodable) :
    decodeInstruction position instruction.opcode.number
        (Int32.ofNat (min instruction.operand greatestOperand)) =
      .ok instruction := by
  have operandEq := toInt_ofNat_min instruction.operand encodable.bounded
  have nonnegative :
      ¬ Int32.ofNat (min instruction.operand greatestOperand) < 0 := by
    rw [Int32.lt_iff_toInt_lt, operandEq, Int32.toInt_zero]
    omega
  unfold decodeInstruction
  rw [Opcode.ofNumber?_number, if_pos encodable.isLive]
  simp only [if_neg nonnegative, operandEq, Int.toNat_natCast]

theorem number_of_ofNumber? (number : Int32) (opcode : Opcode)
    (known : Opcode.ofNumber? number = some opcode) :
    opcode.number = number := by
  unfold Opcode.ofNumber? at known
  split_ifs at known with same same same same same <;>
    · cases known
      exact same.symm

theorem flat_of_decodeInstruction (position : Nat) (number operand : Int32)
    (instruction : Instruction)
    (decoded : decodeInstruction position number operand = .ok instruction) :
    instruction.flat = [number, operand] := by
  obtain ⟨known, nonnegative, operandEq⟩ :=
    decodeInstruction_ok position number operand instruction decoded
  have small := Int32.toInt_lt operand
  rw [Int32.lt_iff_toInt_lt, Int32.toInt_zero] at nonnegative
  have bounded : instruction.operand ≤ greatestOperand := by
    unfold greatestOperand
    omega
  have sameOperand :
      Int32.ofNat (min instruction.operand greatestOperand) = operand := by
    apply Int32.toInt_inj.mp
    rw [toInt_ofNat_min instruction.operand bounded, operandEq]
    omega
  unfold Instruction.flat
  rw [number_of_ofNumber? number instruction.opcode known, sameOperand]

/-! ### Lists of instructions -/

theorem decodeInstructions_flat (position : Nat)
    (instructions : List Instruction)
    (encodable : ∀ instruction ∈ instructions, instruction.Encodable) :
    decodeInstructions position (instructions.flatMap Instruction.flat) =
      .ok instructions := by
  induction instructions generalizing position with
  | nil =>
      rfl
  | cons instruction rest inductionHypothesis =>
      have first :=
        decodeInstruction_flat position instruction
          (encodable instruction List.mem_cons_self)
      have others :=
        inductionHypothesis (position + 1) (fun other member =>
          encodable other (List.mem_cons_of_mem instruction member))
      rw [List.flatMap_cons, Instruction.flat, List.cons_append,
        List.cons_append, List.nil_append, decodeInstructions]
      simp only [first, others]

theorem flat_of_decodeInstructions (position : Nat) (words : List Int32)
    (instructions : List Instruction) (paired : words.length % 2 = 0)
    (decoded : decodeInstructions position words = .ok instructions) :
    instructions.flatMap Instruction.flat = words := by
  fun_induction decodeInstructions position words
      generalizing instructions with
  | case1 => cases decoded
  | case2 => cases decoded
  | case3 position number operand rest instruction first others restDecoded
      inductionHypothesis =>
      cases decoded
      have restPaired : rest.length % 2 = 0 := by
        simp only [List.length_cons] at paired
        omega
      rw [List.flatMap_cons,
        flat_of_decodeInstruction position number operand instruction first,
        inductionHypothesis others restPaired restDecoded]
      rfl
  | case4 words position single =>
      cases decoded
      cases words with
      | nil => rfl
      | cons number rest =>
          cases rest with
          | nil => simp at paired
          | cons operand others =>
              exact absurd rfl (single number operand others)

/-! ### Programs -/

namespace Program

/-- The peak of the check is the one that a compiled program carries. -/
theorem peak_of_check (program : Program) (peak : Nat)
    (checked : program.check = .ok peak) :
    peak = peakHeight 0 0 program.instructions := by
  obtain ⟨_, last, accepted, _, rfl⟩ := (check_ok_iff program peak).mp checked
  exact peak_of_checkInstructions program.pool.length 0 {} last _ accepted

/-- A program with the peak height of its instructions is read back from its
flat form, or its own defect is told. -/
theorem ofFlat_flat (program : Program)
    (encodable :
      ∀ instruction ∈ program.instructions, instruction.Encodable)
    (peakEq : program.maxStack = peakHeight 0 0 program.instructions) :
    ofFlat program.flat = program.validate.map (fun _ => program) := by
  have decoded :
      decodeInstructions 0 program.flat.opcodes = .ok program.instructions :=
    decodeInstructions_flat 0 program.instructions encodable
  have paired : program.flat.opcodes.length % 2 = 0 := by
    have twice : program.flat.opcodes.length = _ := opcodes_length program
    rw [twice]
    omega
  have sameCheck :
      Program.check
          { version := program.flat.version
            instructions := program.instructions
            pool := program.flat.pool
            verb := program.flat.verb
            fields := program.flat.fields
            maxStack := 0 } =
        program.check :=
    rfl
  unfold ofFlat validate
  rw [if_pos paired, decoded]
  cases versionChecked : checkVersion program.flat.version with
  | error error =>
      have unsupported : checkVersion program.version = .error error :=
        versionChecked
      have failed : program.check = .error error := by
        unfold check
        rw [unsupported]
      rw [failed]
      rfl
  | ok current =>
      simp only [sameCheck]
      cases checked : program.check with
      | error error => rfl
      | ok peak =>
          have same : peak = program.maxStack := by
            rw [peakEq]
            exact peak_of_check program peak checked
          rw [same]
          rfl

/-- Whatever reading accepts is written as what was read. -/
theorem flat_of_ofFlat (flat : FlatProgram) (program : Program)
    (accepted : ofFlat flat = .ok program) : program.flat = flat := by
  unfold ofFlat at accepted
  split at accepted
  · cases accepted
  · split at accepted
    · rename_i paired
      split at accepted
      · cases accepted
      · rename_i instructions decoded
        simp only at accepted
        split at accepted
        · cases accepted
        · cases accepted
          have wordsEq :=
            flat_of_decodeInstructions 0 flat.opcodes instructions paired
              decoded
          unfold Program.flat opcodes
          simp only
          rw [wordsEq]
    · cases accepted

theorem check_of_ofFlat (flat : FlatProgram) (program : Program)
    (accepted : ofFlat flat = .ok program) :
    program.check = .ok program.maxStack := by
  unfold ofFlat at accepted
  split at accepted
  · cases accepted
  · split at accepted
    · split at accepted
      · cases accepted
      · simp only at accepted
        split at accepted
        · cases accepted
        · rename_i peak checked
          cases accepted
          exact checked
    · cases accepted

end Program

/-! ### Compiled programs have small operands -/

namespace Segment

mutual

def count : Segment → Nat
  | .field _ segments => countEach segments + 1
  | _ => 1

def countEach : List Segment → Nat
  | [] => 0
  | segment :: rest => segment.count + countEach rest

end

theorem count_pos (segment : Segment) : 0 < segment.count := by
  cases segment <;> simp [count]

theorem length_le_countEach (segments : List Segment) :
    segments.length ≤ countEach segments := by
  induction segments with
  | nil =>
      exact Nat.le_refl 0
  | cons segment rest inductionHypothesis =>
      have one := segment.count_pos
      rw [List.length_cons, countEach]
      omega

end Segment

theorem Pool.slot_lt_size (pool : Pool) (text : String) :
    (pool.intern text).1 < (pool.intern text).2.size :=
  (List.getElem?_eq_some_iff.mp (pool.intern_getElem? text)).1

theorem Pool.size_intern_le (pool : Pool) (text : String) :
    (pool.intern text).2.size ≤ pool.size + 1 := by
  rw [size_intern]
  split
  · exact Nat.le_succ _
  · exact Nat.le_refl _

theorem size_compileSimple_le (pool : Pool) (segment : Segment) :
    (compileSimple pool segment).2.size ≤ pool.size + segment.count := by
  cases segment with
  | literal text => exact pool.size_intern_le text
  | wildcard => exact Nat.le_add_right _ _
  | deepWildcard => exact Nat.le_add_right _ _
  | field path segments => exact Nat.le_add_right _ _

theorem size_compileInner_le (pool : Pool) (segments : List Segment) :
    (compileInner pool segments).2.size ≤
      pool.size + Segment.countEach segments := by
  induction segments generalizing pool with
  | nil =>
      exact Nat.le_refl _
  | cons segment rest inductionHypothesis =>
      have first := size_compileSimple_le pool segment
      have others := inductionHypothesis (compileSimple pool segment).2
      simp only [compileInner, Segment.countEach]
      omega

theorem size_compileSegment_le (pool : Pool) (segment : Segment) :
    (compileSegment pool segment).2.size ≤ pool.size + segment.count := by
  cases segment with
  | literal text => exact pool.size_intern_le text
  | wildcard => exact Nat.le_add_right _ _
  | deepWildcard => exact Nat.le_add_right _ _
  | field path segments =>
      have inner := size_compileInner_le pool segments
      have own := (compileInner pool segments).2.size_intern_le path
      simp only [compileSegment, Segment.count]
      omega

theorem compileSimple_encodable (pool : Pool) (segment : Segment)
    (room : pool.size + segment.count ≤ greatestOperand) :
    ∀ instruction ∈ (compileSimple pool segment).1.instructions,
      instruction.Encodable := by
  intro instruction member
  cases segment with
  | literal text =>
      have one := (Segment.literal text).count_pos
      have slot := pool.slot_lt_size text
      have size := pool.size_intern_le text
      rw [List.mem_singleton.mp member]
      refine ⟨rfl, ?_⟩
      change (pool.intern text).1 ≤ greatestOperand
      omega
  | wildcard =>
      rw [List.mem_singleton.mp member]
      exact ⟨rfl, Nat.zero_le _⟩
  | deepWildcard =>
      rw [List.mem_singleton.mp member]
      exact ⟨rfl, Nat.zero_le _⟩
  | field path segments =>
      cases member

theorem compileInner_encodable (pool : Pool) (segments : List Segment)
    (room : pool.size + Segment.countEach segments ≤ greatestOperand) :
    ∀ instruction ∈ (compileInner pool segments).1.instructions,
      instruction.Encodable := by
  induction segments generalizing pool with
  | nil =>
      exact nofun
  | cons segment rest inductionHypothesis =>
      rw [Segment.countEach] at room
      have size := size_compileSimple_le pool segment
      intro instruction member
      rcases List.mem_append.mp member with inFirst | inRest
      · exact
          compileSimple_encodable pool segment (by omega) instruction inFirst
      · exact
          inductionHypothesis (compileSimple pool segment).2 (by omega)
            instruction inRest

theorem compileSegment_encodable (pool : Pool) (segment : Segment)
    (room : pool.size + segment.count ≤ greatestOperand) :
    ∀ instruction ∈ (compileSegment pool segment).1.instructions,
      instruction.Encodable := by
  cases segment with
  | literal text => exact compileSimple_encodable pool (.literal text) room
  | wildcard => exact compileSimple_encodable pool .wildcard room
  | deepWildcard => exact compileSimple_encodable pool .deepWildcard room
  | field path segments =>
      rw [Segment.count] at room
      have arity := Segment.length_le_countEach segments
      have innerSize := size_compileInner_le pool segments
      have slot := (compileInner pool segments).2.slot_lt_size path
      have size := (compileInner pool segments).2.size_intern_le path
      intro instruction member
      rcases List.mem_append.mp member with inInner | inCapture
      · exact
          compileInner_encodable pool segments (by omega) instruction inInner
      · rcases List.mem_cons.mp inCapture with isConcat | inLast
        · rw [isConcat]
          exact ⟨rfl, Nat.le_trans arity (by omega)⟩
        · rw [List.mem_singleton.mp inLast]
          refine ⟨rfl, ?_⟩
          change
            ((compileInner pool segments).2.intern path).1 ≤ greatestOperand
          omega

theorem compileSegments_encodable (pool : Pool) (segments : List Segment)
    (room : pool.size + Segment.countEach segments ≤ greatestOperand) :
    ∀ instruction ∈ (compileSegments pool segments).1.instructions,
      instruction.Encodable := by
  induction segments generalizing pool with
  | nil =>
      exact nofun
  | cons segment rest inductionHypothesis =>
      rw [Segment.countEach] at room
      have size := size_compileSegment_le pool segment
      intro instruction member
      rcases List.mem_append.mp member with inFirst | inRest
      · exact
          compileSegment_encodable pool segment (by omega) instruction inFirst
      · exact
          inductionHypothesis (compileSegment pool segment).2 (by omega)
            instruction inRest

namespace Template

def segmentCount (template : Template) : Nat :=
  Segment.countEach template.segments

theorem compile_encodable (template : Template)
    (bounded : template.segmentCount ≤ greatestOperand) :
    ∀ instruction ∈ template.compile.instructions,
      instruction.Encodable := by
  apply compileSegments_encodable Pool.empty template.segments
  have nothing : Pool.empty.size = 0 := rfl
  rw [nothing, Nat.zero_add]
  exact bounded

/-- The flat form is lossless both ways: a compiled program is read back from
its own flat form, or the error of its check comes back, and a program that
reading returns has the flat form that was read. -/
theorem flat_form_lossless :
    (∀ template : Template,
      template.segmentCount ≤ 2147483647 →
        Program.ofFlat template.compile.flat =
          template.compile.validate.map (fun _ => template.compile)) ∧
    (∀ flat program,
      Program.ofFlat flat = .ok program → program.flat = flat) := by
  constructor
  · intro template bounded
    exact
      Program.ofFlat_flat template.compile
        (compile_encodable template bounded) rfl
  · exact Program.flat_of_ofFlat

/-- A field inside a field has no code of its own but is counted. -/
def nestedTemplate : Template :=
  { segments :=
      [.literal "a",
        .field "x" [.wildcard, .field "y" [.deepWildcard]]]
    verb := "undo" }

def underflowTemplate : Template :=
  { segments := [.field "x" [.field "y" []]] }

def fillerFlat : FlatProgram :=
  { version := 1
    opcodes := [1, 7, 3, 2147483647, 4, 2, 5, 0]
    pool := ["x"]
    verb := "undo"
    fields := ["x"] }

theorem flat_form_lossless_nested :
    nestedTemplate.segmentCount ≤ 2147483647 ∧
      Program.ofFlat nestedTemplate.compile.flat =
          .ok nestedTemplate.compile ∧
        Program.ofFlat underflowTemplate.compile.flat =
            .error (.stackUnderflow 0) ∧
          ∃ program,
            Program.ofFlat fillerFlat = .ok program ∧
              program.flat = fillerFlat := by
  obtain ⟨roundTrip, written⟩ := flat_form_lossless
  have nestedSmall : nestedTemplate.segmentCount ≤ 2147483647 := by
    decide
  have underflowSmall : underflowTemplate.segmentCount ≤ 2147483647 := by
    decide
  refine
    ⟨nestedSmall, roundTrip nestedTemplate nestedSmall,
      roundTrip underflowTemplate underflowSmall, ?_⟩
  exact ⟨_, rfl, written fillerFlat _ rfl⟩

end Template

end HttpRouting
