/-
Instructions of the matching machine.

An instruction is an operation with one operand.  Operations have numbers in
the flat form of a program; the lowest and the highest number are reserved and
stand for no operation of a program.
-/

import HttpRouting.Json.Basic

namespace HttpRouting

inductive Opcode where
  /-- Reserved below the live operations. -/
  | nop
  /-- Takes one component and pushes it. -/
  | push
  /-- Takes one component that equals the pool text and pushes it. -/
  | pushLiteral
  /-- Takes all remaining components and pushes them joined. -/
  | pushRest
  /-- Pops as many values as the operand says and pushes them joined. -/
  | concat
  /-- Pops one value and binds it to the pool text. -/
  | capture
  /-- Reserved above the live operations. -/
  | stop
  deriving DecidableEq, Repr, Inhabited

namespace Opcode

def all : List Opcode :=
  [.nop, .push, .pushLiteral, .pushRest, .concat, .capture, .stop]

def number : Opcode → Int32
  | .nop => 0
  | .push => 1
  | .pushLiteral => 2
  | .pushRest => 3
  | .concat => 4
  | .capture => 5
  | .stop => 6

def ofNumber? (number : Int32) : Option Opcode :=
  if number = 1 then some .push
  else if number = 2 then some .pushLiteral
  else if number = 3 then some .pushRest
  else if number = 4 then some .concat
  else if number = 5 then some .capture
  else none

def isLive : Opcode → Bool
  | .nop => false
  | .stop => false
  | _ => true

theorem ofNumber?_number (opcode : Opcode) :
    ofNumber? opcode.number = if opcode.isLive then some opcode else none := by
  cases opcode <;> decide

def usesPool : Opcode → Bool
  | .pushLiteral => true
  | .capture => true
  | _ => false

def mnemonic : Opcode → String
  | .nop => "nop"
  | .push => "push"
  | .pushLiteral => "litpush"
  | .pushRest => "pushm"
  | .concat => "concatn"
  | .capture => "capture"
  | .stop => "end"

def name : Opcode → String
  | .nop => "Nop"
  | .push => "Push"
  | .pushLiteral => "LitPush"
  | .pushRest => "PushM"
  | .concat => "ConcatN"
  | .capture => "Capture"
  | .stop => "End"

def ofName? (name : String) : Option Opcode :=
  all.find? (fun opcode => opcode.name == name)

end Opcode

/-- An operation with its operand.  Operations that need no operand keep the
one they were given. -/
structure Instruction where
  opcode : Opcode
  operand : Nat
  deriving DecidableEq, Repr, Inhabited

namespace Instruction

def render (instruction : Instruction) : String :=
  instruction.opcode.mnemonic ++ " " ++ toString instruction.operand

def toJson (instruction : Instruction) : Json :=
  Json.record
    [("code", Json.text instruction.opcode.name),
      ("operand", Json.natural instruction.operand)]

def opcodeOfJson? : Json → Option Opcode
  | .string (some name) => Opcode.ofName? name
  | .object [(some name, .null)] => Opcode.ofName? name
  | _ => none

def operandBound : Nat :=
  18446744073709551616

/-- A whole number of 64 bits, written without sign, fraction and exponent. -/
def operandOfJson? : Json → Option Nat
  | .number spelled =>
      match (Json.number spelled).integer? with
      | some (Int.ofNat value) =>
          if value < operandBound ∧ spelled ≠ "-0" then some value else none
      | _ => none
  | _ => none

def ofParts? (code operand : Json) : Option Instruction :=
  match opcodeOfJson? code, operandOfJson? operand with
  | some opcode, some operand =>
      some
        { opcode := opcode
          operand := operand }
  | _, _ => none

def ofJson? (value : Json) : Option Instruction :=
  match value with
  | .array [code, operand] => ofParts? code operand
  | .object _ =>
      match value.member? "code", value.member? "operand" with
      | some code, some operand => ofParts? code operand
      | _, _ => none
  | _ => none

end Instruction

end HttpRouting
