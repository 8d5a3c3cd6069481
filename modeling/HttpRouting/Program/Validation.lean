/-
The flat form of a program, and the structural check.

The flat form lists operation numbers and operands in turn.  Reading it first
decodes every instruction and then runs the check, which follows the height of
the value stack through the program.
-/

import HttpRouting.Program.Basic

namespace HttpRouting

/-- The ways in which a program is malformed.  Instructions are counted from
zero. -/
inductive ProgramError where
  | unsupportedVersion (found : Int32)
  | oddOpcodeLength (length : Nat)
  | invalidOpcode (position : Nat) (number : Int32)
  | negativeOperand (position : Nat) (operand : Int32)
  | poolIndexOutOfRange (position slot poolSize : Nat)
  | stackUnderflow (position : Nat)
  | fieldCountMismatch (captures fields : Nat)
  deriving DecidableEq, Repr, Inhabited

def ProgramError.message : ProgramError → String
  | .unsupportedVersion found =>
      "unsupported program version " ++ toString found.toInt ++
        " (expected " ++ toString programVersion.toInt ++ ")"
  | .oddOpcodeLength length =>
      "opcode array length " ++ toString length ++
        " is not a whole number of pairs"
  | .invalidOpcode position number =>
      "invalid opcode " ++ toString number.toInt ++ " at instruction " ++
        toString position
  | .negativeOperand position operand =>
      "negative operand " ++ toString operand.toInt ++ " at instruction " ++
        toString position
  | .poolIndexOutOfRange position slot poolSize =>
      "pool index " ++ toString slot ++ " out of range (pool has " ++
        toString poolSize ++ " entries) at instruction " ++ toString position
  | .stackUnderflow position =>
      "stack underflow at instruction " ++ toString position
  | .fieldCountMismatch captures fields =>
      "program has " ++ toString captures ++ " captures but " ++
        toString fields ++ " field paths"

structure FlatProgram where
  version : Int32
  opcodes : List Int32
  pool : List String
  verb : String
  fields : List String
  deriving DecidableEq, Repr, Inhabited

/-! ### The check -/

structure CheckState where
  height : Nat := 0
  peak : Nat := 0
  captures : Nat := 0
  deriving DecidableEq, Repr, Inhabited

def CheckState.moveTo (state : CheckState) (height : Nat) : CheckState :=
  { state with
    height := height
    peak := max state.peak height }

def checkHeight (position : Nat) (state : CheckState)
    (instruction : Instruction) : Except ProgramError CheckState :=
  match instruction.opcode with
  | .push => .ok (state.moveTo (state.height + 1))
  | .pushLiteral => .ok (state.moveTo (state.height + 1))
  | .pushRest => .ok (state.moveTo (state.height + 1))
  | .concat =>
      if state.height < instruction.operand then
        .error (.stackUnderflow position)
      else
        .ok (state.moveTo (state.height - instruction.operand + 1))
  | .capture =>
      if state.height = 0 then
        .error (.stackUnderflow position)
      else
        .ok
          { state.moveTo (state.height - 1) with
            captures := state.captures + 1 }
  | .nop => .error (.invalidOpcode position Opcode.nop.number)
  | .stop => .error (.invalidOpcode position Opcode.stop.number)

def checkInstruction (poolSize position : Nat) (state : CheckState)
    (instruction : Instruction) : Except ProgramError CheckState :=
  if instruction.opcode.usesPool ∧ poolSize ≤ instruction.operand then
    .error (.poolIndexOutOfRange position instruction.operand poolSize)
  else
    checkHeight position state instruction

def checkInstructions (poolSize position : Nat) (state : CheckState) :
    List Instruction → Except ProgramError CheckState
  | [] => .ok state
  | instruction :: rest =>
      match checkInstruction poolSize position state instruction with
      | .error error => .error error
      | .ok next => checkInstructions poolSize (position + 1) next rest

theorem checkInstructions_append (poolSize position : Nat) (state : CheckState)
    (first second : List Instruction) :
    checkInstructions poolSize position state (first ++ second) =
      match checkInstructions poolSize position state first with
      | .error error => .error error
      | .ok middle =>
          checkInstructions poolSize (position + first.length) middle second := by
  induction first generalizing position state with
  | nil =>
      rfl
  | cons instruction rest inductionHypothesis =>
      rw [List.cons_append, checkInstructions, checkInstructions]
      cases checkInstruction poolSize position state instruction with
      | error error => rfl
      | ok next =>
          simp only [inductionHypothesis, List.length_cons]
          rw [Nat.add_assoc, Nat.add_comm 1]

def checkVersion (version : Int32) : Except ProgramError Unit :=
  if version = programVersion then .ok ()
  else .error (.unsupportedVersion version)

namespace Program

/-- The peak height of a well-formed program, or its first defect. -/
def check (program : Program) : Except ProgramError Nat :=
  match checkVersion program.version with
  | .error error => .error error
  | .ok _ =>
      match
        checkInstructions program.pool.length 0 {} program.instructions
      with
      | .error error => .error error
      | .ok state =>
          if state.captures = program.fields.length then
            .ok state.peak
          else
            .error
              (.fieldCountMismatch state.captures program.fields.length)

def validate (program : Program) : Except ProgramError Unit :=
  match program.check with
  | .error error => .error error
  | .ok _ => .ok ()

end Program

/-! ### The flat form -/

/-- The greatest operand of the flat form, which also stands for all larger
ones. -/
def greatestOperand : Nat :=
  2147483647

def Instruction.flat (instruction : Instruction) : List Int32 :=
  [instruction.opcode.number,
    Int32.ofNat (min instruction.operand greatestOperand)]

def Program.opcodes (program : Program) : List Int32 :=
  program.instructions.flatMap Instruction.flat

def Program.flat (program : Program) : FlatProgram :=
  { version := program.version
    opcodes := program.opcodes
    pool := program.pool
    verb := program.verb
    fields := program.fields }

def decodeInstruction (position : Nat) (number operand : Int32) :
    Except ProgramError Instruction :=
  match Opcode.ofNumber? number with
  | none => .error (.invalidOpcode position number)
  | some opcode =>
      if operand < 0 then
        .error (.negativeOperand position operand)
      else
        .ok
          { opcode := opcode
            operand := operand.toInt.toNat }

/-- Instructions from numbers and operands in turn; a number without operand
at the end is left out. -/
def decodeInstructions (position : Nat) :
    List Int32 → Except ProgramError (List Instruction)
  | number :: operand :: rest =>
      match decodeInstruction position number operand with
      | .error error => .error error
      | .ok instruction =>
          match decodeInstructions (position + 1) rest with
          | .error error => .error error
          | .ok instructions => .ok (instruction :: instructions)
  | _ => .ok []

@[simp]
theorem Instruction.flat_length (instruction : Instruction) :
    instruction.flat.length = 2 :=
  rfl

theorem Program.opcodes_length (program : Program) :
    program.opcodes.length = 2 * program.instructions.length := by
  unfold Program.opcodes
  induction program.instructions with
  | nil =>
      rfl
  | cons instruction rest inductionHypothesis =>
      rw [List.flatMap_cons, List.length_append, inductionHypothesis,
        Instruction.flat_length, List.length_cons]
      omega

theorem decodeInstruction_ok (position : Nat) (number operand : Int32)
    (instruction : Instruction)
    (decoded : decodeInstruction position number operand = .ok instruction) :
    Opcode.ofNumber? number = some instruction.opcode ∧
      ¬ operand < 0 ∧ instruction.operand = operand.toInt.toNat := by
  unfold decodeInstruction at decoded
  split at decoded
  · cases decoded
  · rename_i opcode known
    split at decoded
    · cases decoded
    · rename_i nonnegative
      cases decoded
      exact ⟨known, nonnegative, rfl⟩

def Program.ofFlat (flat : FlatProgram) : Except ProgramError Program :=
  match checkVersion flat.version with
  | .error error => .error error
  | .ok _ =>
      if flat.opcodes.length % 2 = 0 then
        match decodeInstructions 0 flat.opcodes with
        | .error error => .error error
        | .ok instructions =>
            let program : Program :=
              { version := flat.version
                instructions := instructions
                pool := flat.pool
                verb := flat.verb
                fields := flat.fields
                maxStack := 0 }
            match program.check with
            | .error error => .error error
            | .ok peak => .ok { program with maxStack := peak }
      else
        .error (.oddOpcodeLength flat.opcodes.length)

end HttpRouting
