/-
Programs of the matching machine.

A program holds its instructions, the texts they address, the verb a request
has to carry, and the field paths it captures.  `maxStack` is the greatest
height of the value stack over the whole program.
-/

import HttpRouting.Program.Instruction

namespace HttpRouting

def programVersion : Int32 :=
  1

structure Program where
  version : Int32
  instructions : List Instruction
  pool : List String
  verb : String
  fields : List String
  maxStack : Nat
  deriving DecidableEq, Repr, Inhabited

/-- The height of the stack after an instruction, where popping from an empty
stack leaves it empty. -/
def Instruction.heightAfter (height : Nat) (instruction : Instruction) : Nat :=
  match instruction.opcode with
  | .push => height + 1
  | .pushLiteral => height + 1
  | .pushRest => height + 1
  | .concat => height - instruction.operand + 1
  | .capture => height - 1
  | .nop => height
  | .stop => height

def peakHeight (height peak : Nat) : List Instruction → Nat
  | [] => peak
  | instruction :: rest =>
      let next := instruction.heightAfter height
      peakHeight next (max peak next) rest

def Program.assemble (instructions : List Instruction) (pool : List String)
    (verb : String) (fields : List String) : Program :=
  { version := programVersion
    instructions := instructions
    pool := pool
    verb := verb
    fields := fields
    maxStack := peakHeight 0 0 instructions }

end HttpRouting
