/-
Checked programs never get stuck, and captures never decide a match.

An instruction that takes components demands something of them; one that joins
or binds values demands nothing.  A run of a checked program keeps a stack of
exactly the height that the check computes.  So the stack is never too short
and no text is missing, and a run ends early only at a demand that the request
does not meet.
-/

import HttpRouting.Matching.Machine
import HttpRouting.Proofs.Checking

namespace HttpRouting

/-! ### Demands -/

/-- What an instruction asks of the components in front of it. -/
inductive Demand where
  | one
  /-- One component that equals the text.  Without a text none does. -/
  | exactly (text : Option String)
  | remaining
  deriving DecidableEq, Repr

namespace Demand

/-- The components behind those that meet the demand. -/
def meet? : Demand → List String → Option (List String)
  | .one, _ :: rest => some rest
  | .exactly text, component :: rest =>
      if text = some component then some rest else none
  | .remaining, _ => some []
  | _, [] => none

def meetAll? : List Demand → List String → Option (List String)
  | [], components => some components
  | demand :: rest, components =>
      (demand.meet? components).bind (meetAll? rest)

end Demand

namespace Instruction

def demand? (pool : List String) (instruction : Instruction) :
    Option Demand :=
  match instruction.opcode with
  | .push => some .one
  | .pushLiteral => some (.exactly pool[instruction.operand]?)
  | .pushRest => some .remaining
  | .concat => none
  | .capture => none
  | .nop => none
  | .stop => none

def leave? (pool : List String) (instruction : Instruction)
    (components : List String) : Option (List String) :=
  match instruction.demand? pool with
  | some demand => demand.meet? components
  | none => some components

theorem meetAll?_demands_cons (pool : List String)
    (instruction : Instruction) (rest : List Instruction)
    (components : List String) :
    Demand.meetAll? ((instruction :: rest).filterMap (demand? pool))
        components =
      (instruction.leave? pool components).bind
        (Demand.meetAll? (rest.filterMap (demand? pool))) := by
  unfold leave?
  cases demanded : instruction.demand? pool with
  | none =>
      rw [List.filterMap_cons_none demanded]
      rfl
  | some demand =>
      rw [List.filterMap_cons_some demanded]
      rfl

end Instruction

def Program.demands (program : Program) : List Demand :=
  program.instructions.filterMap (Instruction.demand? program.pool)

namespace Machine

/-! ### Runs of checked instructions -/

/-- A run goes on with a stack of the expected height and with the components
that the demands leave, or it ends at a demand that is not met. -/
inductive Answers (height : Nat) :
    Option (List String) → Except Fault State → Prop where
  | goesOn (next : State) (level : next.stack.length = height) :
      Answers height (some next.remaining) (.ok next)
  | missingComponent : Answers height none (.error .missingComponent)
  | literalMismatch : Answers height none (.error .literalMismatch)

theorem concat_of_enough (count : Nat) (state : State)
    (enough : count ≤ state.stack.length) :
    ∃ next,
      concat count state = .ok next ∧
        next.remaining = state.remaining ∧
          next.stack.length = state.stack.length - count + 1 := by
  refine ⟨_, (concat_ok_iff count state _).mpr ⟨enough, rfl⟩, rfl, ?_⟩
  rw [List.length_cons, List.length_drop]

theorem capture_of_text (pool : List String) (slot : Nat) (state : State)
    (inPool : slot < pool.length) (inhabited : 1 ≤ state.stack.length) :
    ∃ next,
      capture pool slot state = .ok next ∧
        next.remaining = state.remaining ∧
          next.stack.length = state.stack.length - 1 := by
  unfold capture
  cases stackEq : state.stack with
  | nil =>
      rw [stackEq] at inhabited
      cases inhabited
  | cons value rest =>
      rw [List.getElem?_eq_getElem inPool]
      exact ⟨_, rfl, rfl, rfl⟩

theorem step_answers (pool : List String) (instruction : Instruction)
    (state : State)
    (fits : instruction.Fits pool.length state.stack.length) :
    Answers (instruction.heightAfter state.stack.length)
      (instruction.leave? pool state.remaining)
      (step pool instruction state) := by
  have isLive := fits.isLive
  have slot := fits.slot
  have values := fits.values
  cases instruction with
  | mk opcode operand =>
      cases opcode with
      | nop => cases isLive
      | stop => cases isLive
      | push =>
          simp only [step, push, Instruction.leave?, Instruction.demand?,
            Instruction.heightAfter]
          cases state.remaining with
          | nil => exact .missingComponent
          | cons component rest =>
              exact
                .goesOn
                  { state with
                    stack := component :: state.stack
                    remaining := rest }
                  List.length_cons
      | pushLiteral =>
          obtain ⟨text, found⟩ : ∃ text, pool[operand]? = some text :=
            ⟨_, List.getElem?_eq_getElem (slot rfl)⟩
          simp only [step, pushLiteral, Instruction.leave?,
            Instruction.demand?, Instruction.heightAfter, found]
          cases state.remaining with
          | nil => exact .missingComponent
          | cons component rest =>
              by_cases same : component = text
              · simp only [Demand.meet?, same, if_true]
                exact
                  .goesOn
                    { state with
                      stack := text :: state.stack
                      remaining := rest }
                    List.length_cons
              · have different : ¬ some text = some component :=
                  fun equal => same (Option.some.inj equal).symm
                simp only [Demand.meet?, if_neg same, if_neg different]
                exact .literalMismatch
      | pushRest => exact .goesOn (pushRest state) rfl
      | concat =>
          obtain ⟨next, stepped, remainingEq, level⟩ :=
            concat_of_enough operand state values
          simp only [step, stepped, Instruction.leave?, Instruction.demand?]
          rw [← remainingEq]
          exact .goesOn next level
      | capture =>
          obtain ⟨next, stepped, remainingEq, level⟩ :=
            capture_of_text pool operand state (slot rfl) values
          simp only [step, stepped, Instruction.leave?, Instruction.demand?]
          rw [← remainingEq]
          exact .goesOn next level

/-- The stack of a run of checked instructions always has the height that the
check has reached. -/
theorem run_answers (pool : List String) (position : Nat)
    (checked last : CheckState) (instructions : List Instruction)
    (accepted :
      checkInstructions pool.length position checked instructions = .ok last)
    (state : State) (level : state.stack.length = checked.height) :
    Answers last.height
      (Demand.meetAll?
        (instructions.filterMap (Instruction.demand? pool)) state.remaining)
      (run pool instructions state) := by
  induction instructions generalizing position checked state with
  | nil =>
      cases accepted
      exact .goesOn state level
  | cons instruction rest inductionHypothesis =>
      obtain ⟨fits, restAccepted⟩ :=
        (checkInstructions_cons_ok_iff pool.length position checked last
          instruction rest).mp accepted
      rw [← level] at fits
      have stepAnswer := step_answers pool instruction state fits
      rw [Instruction.meetAll?_demands_cons, run]
      generalize instruction.leave? pool state.remaining = left at *
      generalize step pool instruction state = stepped at *
      cases stepAnswer with
      | goesOn next nextLevel =>
          rw [level] at nextLevel
          exact inductionHypothesis _ _ restAccepted next nextLevel
      | missingComponent => exact .missingComponent
      | literalMismatch => exact .literalMismatch

end Machine

namespace Program

/-! ### Whole programs -/

theorem run_answers_of_validate (program : Program)
    (valid : program.validate = .ok ()) (components : List String) :
    ∃ height,
      Machine.Answers height (Demand.meetAll? program.demands components)
        (Machine.run program.pool program.instructions
          (Machine.State.start components)) := by
  obtain ⟨peak, checked⟩ := (validate_ok_iff program).mp valid
  obtain ⟨_, last, accepted, _, _⟩ := (check_ok_iff program peak).mp checked
  exact
    ⟨last.height,
      Machine.run_answers program.pool 0 {} last program.instructions accepted
        (Machine.State.start components) rfl⟩

def Accepts (program : Program) (components : List String)
    (verb : String) : Prop :=
  program.verb = verb ∧
    Demand.meetAll? program.demands components = some []

/-- A valid program binds something when it accepts the request, and otherwise
ends with a fault that lies in the request. -/
theorem execute_of_validate (program : Program)
    (valid : program.validate = .ok ()) (components : List String)
    (verb : String) :
    (program.Accepts components verb ∧
      ∃ bindings, program.execute components verb = .ok bindings) ∨
    (¬ program.Accepts components verb ∧
      ∃ fault,
        program.execute components verb = .error fault ∧
          fault ∈
            [.verbMismatch, .missingComponent, .literalMismatch,
              .componentsLeft]) := by
  obtain ⟨height, answer⟩ := run_answers_of_validate program valid components
  unfold Accepts execute
  by_cases sameVerb : program.verb = verb
  · rw [if_pos sameVerb]
    generalize Demand.meetAll? program.demands components = left at *
    generalize
      Machine.run program.pool program.instructions
        (Machine.State.start components) = ran at *
    cases answer with
    | missingComponent => exact .inr ⟨nofun, _, rfl, by decide⟩
    | literalMismatch => exact .inr ⟨nofun, _, rfl, by decide⟩
    | goesOn next level =>
        cases next with
        | mk stack remaining bindings =>
            cases remaining with
            | nil => exact .inl ⟨⟨sameVerb, rfl⟩, bindings, rfl⟩
            | cons component rest =>
                refine .inr ⟨?_, .componentsLeft, rfl, by decide⟩
                exact fun accepted => List.cons_ne_nil _ _
                  (Option.some.inj accepted.2)
  · rw [if_neg sameVerb]
    exact .inr ⟨fun accepted => sameVerb accepted.1, _, rfl, by decide⟩

theorem match?_isSome_iff_accepts (program : Program)
    (valid : program.validate = .ok ()) (components : List String)
    (verb : String) :
    (program.match? components verb).isSome = true ↔
      program.Accepts components verb := by
  unfold match?
  rcases execute_of_validate program valid components verb with
    ⟨accepted, bindings, executed⟩ | ⟨refused, fault, executed, _⟩
  · rw [executed]
    exact ⟨fun _ => accepted, fun _ => rfl⟩
  · rw [executed]
    exact ⟨nofun, fun accepted => absurd accepted refused⟩

/-- A valid program never finds its stack too short, a text missing or an
instruction reserved.  Whether it matches depends on the verb and on the
demands of its consuming instructions alone, so two valid programs that differ
only in how they join and bind values match the same requests. -/
theorem validated_match?_iff_demands (program : Program)
    (valid : program.validate = .ok ()) (components : List String)
    (verb : String) :
    (program.execute components verb ≠ .error .stackUnderflow ∧
      program.execute components verb ≠ .error .missingText ∧
        program.execute components verb ≠ .error .reservedOpcode) ∧
    ((program.match? components verb).isSome = true ↔
      program.verb = verb ∧
        Demand.meetAll? program.demands components = some []) ∧
    (∀ other : Program,
      other.validate = .ok () → other.verb = program.verb →
        other.demands = program.demands →
          (other.match? components verb).isSome =
            (program.match? components verb).isSome) := by
  have matched := match?_isSome_iff_accepts program valid components verb
  refine ⟨?_, matched, ?_⟩
  · rcases execute_of_validate program valid components verb with
      ⟨_, bindings, executed⟩ | ⟨_, fault, executed, ofRequest⟩
    · rw [executed]
      exact ⟨nofun, nofun, nofun⟩
    · rw [executed]
      refine ⟨?_, ?_, ?_⟩ <;>
        · rintro ⟨⟩
          revert ofRequest
          decide
  · intro other otherValid sameVerb sameDemands
    have otherMatched :=
      match?_isSome_iff_accepts other otherValid components verb
    unfold Accepts at otherMatched
    rw [sameVerb, sameDemands] at otherMatched
    exact Bool.eq_iff_iff.mpr (otherMatched.trans matched.symm)

/-- Joins and captures between the consuming instructions: an empty join is
bound, and then the first two components, one of them still on the stack. -/
def interleavedProgram : Program :=
  Program.assemble
    [{ opcode := .push, operand := 7 },
      { opcode := .concat, operand := 0 },
      { opcode := .capture, operand := 1 },
      { opcode := .pushLiteral, operand := 0 },
      { opcode := .concat, operand := 2 },
      { opcode := .capture, operand := 1 },
      { opcode := .pushRest, operand := 0 },
      { opcode := .concat, operand := 1 }]
    ["a", "name"] "undo" ["name", "name"]

def consumingProgram : Program :=
  Program.assemble
    [{ opcode := .push, operand := 0 },
      { opcode := .pushLiteral, operand := 0 },
      { opcode := .pushRest, operand := 0 }]
    ["a"] "undo" []

theorem validated_match?_iff_demands_interleaved :
    interleavedProgram.validate = .ok () ∧
      consumingProgram.validate = .ok () ∧
        consumingProgram.demands = interleavedProgram.demands ∧
          (interleavedProgram.match? ["x", "a", "b", "c"] "undo").isSome =
              true ∧
            (consumingProgram.match? ["x", "a", "b", "c"] "undo").isSome =
              true := by
  have valid : interleavedProgram.validate = .ok () :=
    rfl
  have consumingValid : consumingProgram.validate = .ok () :=
    rfl
  have sameDemands :
      consumingProgram.demands = interleavedProgram.demands := by
    decide
  obtain ⟨_, matched, alike⟩ :=
    validated_match?_iff_demands interleavedProgram valid
      ["x", "a", "b", "c"] "undo"
  have accepted := matched.mpr ⟨rfl, by decide⟩
  refine ⟨valid, consumingValid, sameDemands, accepted, ?_⟩
  rw [alike consumingProgram consumingValid rfl sameDemands]
  exact accepted

end Program

end HttpRouting
