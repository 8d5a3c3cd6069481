/-
Listings of programs.

Each instruction is one line: its position in four digits, its name in eight
columns, the operand, and the pool text that the operand addresses.
-/

import HttpRouting.Program.Basic
import HttpRouting.Text.Columns
import HttpRouting.Text.Quoted

namespace HttpRouting

/-- The pool text of a slot; a question mark when there is none. -/
def listedText (pool : List String) (slot : Nat) : String :=
  (pool[slot]?).getD "?"

def Instruction.listing (pool : List String) (position : Nat)
    (instruction : Instruction) : String :=
  let start := zeroPadded 4 position ++ " "
  let name := instruction.opcode.mnemonic
  let named := start ++ alignLeft 8 name ++ " " ++ toString instruction.operand
  match instruction.opcode with
  | .pushLiteral =>
      named ++ " ; " ++ quoted (listedText pool instruction.operand)
  | .capture => named ++ " ; " ++ quoted (listedText pool instruction.operand)
  | .concat => named
  | _ => start ++ name

def listingLines (pool : List String) (position : Nat) :
    List Instruction → List String
  | [] => []
  | instruction :: rest =>
      instruction.listing pool position ::
        listingLines pool (position + 1) rest

theorem listingLines_length (pool : List String) (position : Nat)
    (instructions : List Instruction) :
    (listingLines pool position instructions).length = instructions.length := by
  induction instructions generalizing position with
  | nil =>
      rfl
  | cons instruction rest inductionHypothesis =>
      rw [listingLines, List.length_cons, inductionHypothesis, List.length_cons]

def unlines (lines : List String) : String :=
  String.join (lines.map (fun line => line ++ "\n"))

namespace Program

def lines (program : Program) : List String :=
  listingLines program.pool 0 program.instructions

def listing (program : Program) : String :=
  unlines program.lines

end Program

end HttpRouting
