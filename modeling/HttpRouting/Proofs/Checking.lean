/-
What the check of a program establishes.

All that the check makes of an accepted instruction is said once: the
instruction fits the stack and the pool, and the check moves on to the height
behind it.  Facts about whole programs follow by induction on the instructions.
-/

import HttpRouting.Program.Validation

namespace HttpRouting

/-! ### One instruction -/

def Instruction.pops (instruction : Instruction) : Nat :=
  match instruction.opcode with
  | .concat => instruction.operand
  | .capture => 1
  | _ => 0

structure Instruction.Fits (poolSize height : Nat)
    (instruction : Instruction) : Prop where
  isLive : instruction.opcode.isLive = true
  slot : instruction.opcode.usesPool = true → instruction.operand < poolSize
  values : instruction.pops ≤ height

def CheckState.after (state : CheckState) (instruction : Instruction) :
    CheckState :=
  { height := instruction.heightAfter state.height
    peak := max state.peak (instruction.heightAfter state.height)
    captures :=
      state.captures + if instruction.opcode = .capture then 1 else 0 }

theorem checkHeight_ok_iff (position : Nat) (state next : CheckState)
    (instruction : Instruction) :
    checkHeight position state instruction = .ok next ↔
      instruction.opcode.isLive = true ∧
        instruction.pops ≤ state.height ∧ next = state.after instruction := by
  cases instruction with
  | mk opcode operand =>
      cases opcode with
      | nop | stop => simp [checkHeight, Opcode.isLive]
      | push | pushLiteral | pushRest =>
          simp [checkHeight, Opcode.isLive, Instruction.pops,
            CheckState.after, CheckState.moveTo, Instruction.heightAfter,
            eq_comm]
      | concat =>
          by_cases short : state.height < operand
          · have tooFew : ¬ operand ≤ state.height := Nat.not_le.mpr short
            simp [checkHeight, Instruction.pops, short, tooFew]
          · simp [checkHeight, Opcode.isLive, Instruction.pops,
              CheckState.after, CheckState.moveTo, Instruction.heightAfter,
              short, Nat.le_of_not_lt short, eq_comm]
      | capture =>
          by_cases empty : state.height = 0
          · simp [checkHeight, Instruction.pops, empty]
          · simp [checkHeight, Opcode.isLive, Instruction.pops,
              CheckState.after, CheckState.moveTo, Instruction.heightAfter,
              empty, Nat.one_le_iff_ne_zero, eq_comm]

theorem checkInstruction_ok_iff (poolSize position : Nat)
    (state next : CheckState) (instruction : Instruction) :
    checkInstruction poolSize position state instruction = .ok next ↔
      instruction.Fits poolSize state.height ∧
        next = state.after instruction := by
  unfold checkInstruction
  by_cases outside :
      instruction.opcode.usesPool = true ∧ poolSize ≤ instruction.operand
  · rw [if_pos outside]
    constructor
    · exact nofun
    · rintro ⟨fits, _⟩
      exact absurd (fits.slot outside.1) (Nat.not_lt.mpr outside.2)
  · rw [if_neg outside, checkHeight_ok_iff]
    constructor
    · rintro ⟨isLive, values, nextEq⟩
      refine ⟨⟨isLive, ?_, values⟩, nextEq⟩
      intro usesPool
      exact Nat.lt_of_not_le (fun large => outside ⟨usesPool, large⟩)
    · rintro ⟨fits, nextEq⟩
      exact ⟨fits.isLive, fits.values, nextEq⟩

/-- A slot outside the pool is told before anything about the stack. -/
theorem checkInstruction_of_outside (poolSize position : Nat)
    (state : CheckState) (instruction : Instruction)
    (usesPool : instruction.opcode.usesPool = true)
    (outside : poolSize ≤ instruction.operand) :
    checkInstruction poolSize position state instruction =
      .error
        (.poolIndexOutOfRange position instruction.operand poolSize) := by
  unfold checkInstruction
  rw [if_pos ⟨usesPool, outside⟩]

theorem checkInstruction_of_short (poolSize position : Nat)
    (state : CheckState) (instruction : Instruction)
    (slot : instruction.opcode.usesPool = true →
      instruction.operand < poolSize)
    (short : state.height < instruction.pops) :
    checkInstruction poolSize position state instruction =
      .error (.stackUnderflow position) := by
  have inside :
      ¬ (instruction.opcode.usesPool = true ∧
        poolSize ≤ instruction.operand) :=
    fun outside => Nat.not_lt.mpr outside.2 (slot outside.1)
  unfold checkInstruction
  rw [if_neg inside]
  cases instruction with
  | mk opcode operand =>
      cases opcode with
      | concat => exact if_pos short
      | capture => exact if_pos (Nat.lt_one_iff.mp short)
      | _ => cases short

/-! ### Whole programs -/

theorem checkInstructions_of_error (poolSize position : Nat)
    (state middle : CheckState) (before after : List Instruction)
    (instruction : Instruction) (error : ProgramError)
    (accepted :
      checkInstructions poolSize position state before = .ok middle)
    (refused :
      checkInstruction poolSize (position + before.length) middle
        instruction = .error error) :
    checkInstructions poolSize position state
      (before ++ instruction :: after) = .error error := by
  rw [checkInstructions_append, accepted]
  simp only
  rw [checkInstructions, refused]

theorem checkInstructions_cons_ok_iff (poolSize position : Nat)
    (state last : CheckState) (instruction : Instruction)
    (rest : List Instruction) :
    checkInstructions poolSize position state (instruction :: rest) =
        .ok last ↔
      instruction.Fits poolSize state.height ∧
        checkInstructions poolSize (position + 1) (state.after instruction)
          rest = .ok last := by
  rw [checkInstructions]
  cases checked : checkInstruction poolSize position state instruction with
  | error error =>
      constructor
      · intro failed
        cases failed
      · rintro ⟨fits, _⟩
        have accepted :=
          (checkInstruction_ok_iff poolSize position state _ instruction).mpr
            ⟨fits, rfl⟩
        rw [checked] at accepted
        cases accepted
  | ok next =>
      obtain ⟨fits, rfl⟩ :=
        (checkInstruction_ok_iff poolSize position state next
          instruction).mp checked
      exact ⟨fun restChecked => ⟨fits, restChecked⟩, And.right⟩

/-- The check and the saturating count find the same peak, since nothing
saturates in an accepted program. -/
theorem peak_of_checkInstructions (poolSize position : Nat)
    (state last : CheckState) (instructions : List Instruction)
    (checked :
      checkInstructions poolSize position state instructions = .ok last) :
    last.peak = peakHeight state.height state.peak instructions := by
  induction instructions generalizing position state with
  | nil =>
      cases checked
      rfl
  | cons instruction rest inductionHypothesis =>
      obtain ⟨_, restChecked⟩ :=
        (checkInstructions_cons_ok_iff poolSize position state last
          instruction rest).mp checked
      exact inductionHypothesis _ _ restChecked

def captureCount (instructions : List Instruction) : Nat :=
  instructions.countP (fun instruction => instruction.opcode = .capture)

theorem captureCount_append (first second : List Instruction) :
    captureCount (first ++ second) =
      captureCount first + captureCount second :=
  List.countP_append

theorem captures_of_checkInstructions (poolSize position : Nat)
    (state last : CheckState) (instructions : List Instruction)
    (checked :
      checkInstructions poolSize position state instructions = .ok last) :
    last.captures = state.captures + captureCount instructions := by
  induction instructions generalizing position state with
  | nil =>
      cases checked
      rfl
  | cons instruction rest inductionHypothesis =>
      obtain ⟨_, restChecked⟩ :=
        (checkInstructions_cons_ok_iff poolSize position state last
          instruction rest).mp checked
      rw [inductionHypothesis _ _ restChecked]
      unfold captureCount
      rw [List.countP_cons]
      simp only [CheckState.after, decide_eq_true_eq]
      omega

theorem checkVersion_ok_iff (version : Int32) :
    checkVersion version = .ok () ↔ version = programVersion := by
  unfold checkVersion
  by_cases current : version = programVersion
  · simp [current]
  · simp [current]

namespace Program

theorem check_ok_iff (program : Program) (peak : Nat) :
    program.check = .ok peak ↔
      program.version = programVersion ∧
        ∃ last,
          checkInstructions program.pool.length 0 {} program.instructions =
              .ok last ∧
            last.captures = program.fields.length ∧ last.peak = peak := by
  rw [← checkVersion_ok_iff]
  unfold check
  cases checkVersion program.version with
  | error error =>
      simp
  | ok accepted =>
      cases
        checkInstructions program.pool.length 0 {} program.instructions with
      | error error =>
          simp
      | ok last =>
          by_cases counted : last.captures = program.fields.length
          · simp [counted]
          · simp [counted]

theorem check_of_error (program : Program) (error : ProgramError)
    (version : program.version = programVersion)
    (refused :
      checkInstructions program.pool.length 0 {} program.instructions =
        .error error) :
    program.check = .error error := by
  unfold check
  rw [(checkVersion_ok_iff program.version).mpr version, refused]

theorem check_of_ok (program : Program) (last : CheckState)
    (version : program.version = programVersion)
    (accepted :
      checkInstructions program.pool.length 0 {} program.instructions =
        .ok last) :
    program.check =
      if last.captures = program.fields.length then .ok last.peak
      else
        .error
          (.fieldCountMismatch last.captures program.fields.length) := by
  unfold check
  rw [(checkVersion_ok_iff program.version).mpr version, accepted]

theorem validate_ok_iff (program : Program) :
    program.validate = .ok () ↔ ∃ peak, program.check = .ok peak := by
  unfold validate
  cases program.check with
  | error error => simp
  | ok peak => simp

end Program

end HttpRouting
