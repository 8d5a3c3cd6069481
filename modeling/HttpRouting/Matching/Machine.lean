/-
The matching machine.

A run takes the components of a request from left to right, keeps values on a
stack, and binds field paths.  There is no backtracking: each instruction
either makes its one step or ends the run with a fault.
-/

import HttpRouting.Matching.Bindings
import HttpRouting.Program.Basic
import HttpRouting.Text.Slash

namespace HttpRouting

inductive Fault where
  | verbMismatch
  | missingComponent
  | literalMismatch
  | componentsLeft
  | stackUnderflow
  /-- The operand addresses no pool text. -/
  | missingText
  | reservedOpcode
  deriving DecidableEq, Repr, Inhabited

namespace Machine

/-- The value stack with its top first, the components still to be taken, and
what has been bound. -/
structure State where
  stack : List String
  remaining : List String
  bindings : Bindings
  deriving DecidableEq, Repr, Inhabited

def State.start (components : List String) : State :=
  { stack := []
    remaining := components
    bindings := Bindings.empty }

def push (state : State) : Except Fault State :=
  match state.remaining with
  | [] => .error .missingComponent
  | component :: rest =>
      .ok
        { state with
          stack := component :: state.stack
          remaining := rest }

def pushLiteral (pool : List String) (slot : Nat) (state : State) :
    Except Fault State :=
  match state.remaining with
  | [] => .error .missingComponent
  | component :: rest =>
      match pool[slot]? with
      | none => .error .missingText
      | some text =>
          if component = text then
            .ok
              { state with
                stack := component :: state.stack
                remaining := rest }
          else
            .error .literalMismatch

def pushRest (state : State) : State :=
  { state with
    stack := slashJoin state.remaining :: state.stack
    remaining := [] }

/-- The topmost values, the lowest of them first, become one. -/
def concat (count : Nat) (state : State) : Except Fault State :=
  if state.stack.length < count then
    .error .stackUnderflow
  else
    .ok
      { state with
        stack :=
          slashJoin (state.stack.take count).reverse ::
            state.stack.drop count }

def capture (pool : List String) (slot : Nat) (state : State) :
    Except Fault State :=
  match state.stack with
  | [] => .error .stackUnderflow
  | value :: rest =>
      match pool[slot]? with
      | none => .error .missingText
      | some path =>
          .ok
            { state with
              stack := rest
              bindings := state.bindings.insert path value }

def step (pool : List String) (instruction : Instruction) (state : State) :
    Except Fault State :=
  match instruction.opcode with
  | .push => push state
  | .pushLiteral => pushLiteral pool instruction.operand state
  | .pushRest => .ok (pushRest state)
  | .concat => concat instruction.operand state
  | .capture => capture pool instruction.operand state
  | .nop => .error .reservedOpcode
  | .stop => .error .reservedOpcode

def run (pool : List String) : List Instruction → State → Except Fault State
  | [], state => .ok state
  | instruction :: rest, state =>
      match step pool instruction state with
      | .error fault => .error fault
      | .ok next => run pool rest next

@[simp]
theorem run_nil (pool : List String) (state : State) :
    run pool [] state = .ok state :=
  rfl

/-- The second part of a list of instructions runs from where the first part
ends. -/
theorem run_append (pool : List String) (first second : List Instruction)
    (state : State) :
    run pool (first ++ second) state =
      match run pool first state with
      | .error fault => .error fault
      | .ok middle => run pool second middle := by
  induction first generalizing state with
  | nil =>
      rfl
  | cons instruction rest inductionHypothesis =>
      rw [List.cons_append, run, run]
      cases step pool instruction state with
      | error fault => rfl
      | ok next => exact inductionHypothesis next

theorem concat_ok_iff (count : Nat) (state next : State) :
    concat count state = .ok next ↔
      count ≤ state.stack.length ∧
        next =
          { state with
            stack :=
              slashJoin (state.stack.take count).reverse ::
                state.stack.drop count } := by
  unfold concat
  by_cases short : state.stack.length < count
  · rw [if_pos short]
    constructor
    · intro impossible
      cases impossible
    · intro both
      omega
  · rw [if_neg short]
    constructor
    · intro equal
      exact ⟨by omega, (Except.ok.inj equal).symm⟩
    · intro both
      rw [both.2]

end Machine

namespace Program

/-- A whole run.  The request has to carry the verb of the program, and all its
components have to be taken. -/
def execute (program : Program) (components : List String) (verb : String) :
    Except Fault Bindings :=
  if program.verb = verb then
    match
      Machine.run program.pool program.instructions
        (Machine.State.start components)
    with
    | .error fault => .error fault
    | .ok state =>
        match state.remaining with
        | [] => .ok state.bindings
        | _ :: _ => .error .componentsLeft
  else
    .error .verbMismatch

def match? (program : Program) (components : List String) (verb : String) :
    Option Bindings :=
  match program.execute components verb with
  | .ok bindings => some bindings
  | .error _ => none

theorem match?_eq_some_iff (program : Program) (components : List String)
    (verb : String) (bindings : Bindings) :
    program.match? components verb = some bindings ↔
      program.execute components verb = .ok bindings := by
  unfold match?
  cases program.execute components verb with
  | error fault => simp
  | ok bound => simp

theorem execute_ok_iff (program : Program) (components : List String)
    (verb : String) (bindings : Bindings) :
    program.execute components verb = .ok bindings ↔
      program.verb = verb ∧
        ∃ state,
          Machine.run program.pool program.instructions
              (Machine.State.start components) = .ok state ∧
            state.remaining = [] ∧ state.bindings = bindings := by
  unfold execute
  by_cases sameVerb : program.verb = verb
  · rw [if_pos sameVerb]
    cases
      Machine.run program.pool program.instructions
        (Machine.State.start components) with
    | error fault =>
        simp
    | ok state =>
        cases remainingEq : state.remaining with
        | nil => simp [sameVerb, remainingEq]
        | cons component rest => simp [remainingEq]
  · rw [if_neg sameVerb]
    simp [sameVerb]

end Program

end HttpRouting
