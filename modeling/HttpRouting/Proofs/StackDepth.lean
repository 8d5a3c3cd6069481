/-
How high the value stack grows.

A program carries one number for its stack, which is counted from the
instructions alone and never goes below an empty stack.  A run only gets behind
an instruction that finds its values, so as far as it gets the count is the
height of its stack.  Hence no run grows higher than the number says, and one
that gets behind all the instructions grows as high.
-/

import HttpRouting.Proofs.FlatForm
import HttpRouting.Proofs.Refusal

namespace HttpRouting

/-! ### Heights behind instructions -/

def heightBehind (height : Nat) (instructions : List Instruction) : Nat :=
  instructions.foldl Instruction.heightAfter height

theorem peak_le_peakHeight (height peak : Nat)
    (instructions : List Instruction) :
    peak ≤ peakHeight height peak instructions := by
  induction instructions generalizing height peak with
  | nil =>
      exact Nat.le_refl peak
  | cons instruction rest inductionHypothesis =>
      exact Nat.le_trans (Nat.le_max_left peak _) (inductionHypothesis _ _)

theorem heightBehind_le_peakHeight (height peak : Nat)
    (below : height ≤ peak) (before instructions : List Instruction)
    (listed : before <+: instructions) :
    heightBehind height before ≤ peakHeight height peak instructions := by
  induction before generalizing height peak instructions with
  | nil =>
      exact Nat.le_trans below (peak_le_peakHeight height peak instructions)
  | cons instruction others inductionHypothesis =>
      obtain ⟨rest, rfl, othersListed⟩ := List.cons_prefix_iff.mp listed
      exact
        inductionHypothesis _ _ (Nat.le_max_right peak _) rest othersListed

/-- The peak is the one it was counted from or a height on the way. -/
theorem peakHeight_eq_or_exists (height peak : Nat)
    (instructions : List Instruction) :
    peakHeight height peak instructions = peak ∨
      ∃ before,
        before <+: instructions ∧
          heightBehind height before =
            peakHeight height peak instructions := by
  induction instructions generalizing height peak with
  | nil =>
      exact .inl rfl
  | cons instruction rest inductionHypothesis =>
      rw [peakHeight]
      rcases
        inductionHypothesis (instruction.heightAfter height)
          (max peak (instruction.heightAfter height)) with
        kept | ⟨before, listed, reached⟩
      · rw [kept]
        by_cases higher : instruction.heightAfter height ≤ peak
        · exact .inl (Nat.max_eq_left higher)
        · have lower : peak ≤ instruction.heightAfter height := by
            omega
          refine .inr ⟨[instruction], ?_, (Nat.max_eq_right lower).symm⟩
          exact List.cons_prefix_cons.mpr ⟨rfl, List.nil_prefix⟩
      · exact
          .inr
            ⟨instruction :: before,
              List.cons_prefix_cons.mpr ⟨rfl, listed⟩, reached⟩

theorem exists_heightBehind_eq_peakHeight (instructions : List Instruction) :
    ∃ before,
      before <+: instructions ∧
        heightBehind 0 before = peakHeight 0 0 instructions := by
  rcases peakHeight_eq_or_exists 0 0 instructions with empty | reached
  · exact ⟨[], List.nil_prefix, empty.symm⟩
  · exact reached

theorem LeadsTo.eq_heightBehind (poolSize : Nat)
    (instructions : List Instruction) (height last : Nat)
    (leads : LeadsTo poolSize instructions height last) :
    last = heightBehind height instructions := by
  induction instructions generalizing height with
  | nil =>
      exact leads
  | cons instruction rest inductionHypothesis =>
      exact inductionHypothesis _ leads.2

namespace Machine

/-- The stack behind instructions that run is as high as it is counted. -/
theorem stack_length_of_run_ok (pool : List String)
    (instructions : List Instruction) (state last : State)
    (ran : run pool instructions state = .ok last) :
    last.stack.length = heightBehind state.stack.length instructions :=
  (leadsTo_of_run_ok pool instructions state last ran).eq_heightBehind

/-- A run that reaches its end has got behind each of its instructions. -/
theorem exists_run_ok_of_prefix (pool : List String)
    (before instructions : List Instruction) (state last : State)
    (listed : before <+: instructions)
    (ran : run pool instructions state = .ok last) :
    ∃ middle, run pool before state = .ok middle := by
  obtain ⟨after, rfl⟩ := listed
  rw [run_append] at ran
  cases reached : run pool before state with
  | error fault =>
      rw [reached] at ran
      cases ran
  | ok middle =>
      exact ⟨middle, rfl⟩

end Machine

namespace Program

/-! ### Runs of whole programs -/

/-- The request takes the machine through the state: at the start, or behind
an instruction that its run gets behind. -/
def Visits (program : Program) (components : List String) (verb : String)
    (state : Machine.State) : Prop :=
  program.verb = verb ∧
    ∃ before,
      before <+: program.instructions ∧
        Machine.run program.pool before (Machine.State.start components) =
          .ok state

/-- Programs are compiled from templates or read from flat forms. -/
inductive Built : Program → Prop where
  | compile (template : Template) : Built template.compile
  | ofFlat (flat : FlatProgram) (program : Program)
      (accepted : Program.ofFlat flat = .ok program) : Built program

theorem maxStack_of_ofFlat (flat : FlatProgram) (program : Program)
    (accepted : ofFlat flat = .ok program) :
    program.maxStack = peakHeight 0 0 program.instructions :=
  peak_of_check program _ (check_of_ofFlat flat program accepted)

/-- However a program is built, it carries the peak of its instructions. -/
theorem Built.maxStack_eq (program : Program) (built : program.Built) :
    program.maxStack = peakHeight 0 0 program.instructions := by
  cases built with
  | compile template => rfl
  | ofFlat flat _ accepted => exact maxStack_of_ofFlat flat program accepted

theorem exists_run_ok_of_match? (program : Program)
    (components : List String) (verb : String)
    (matched : (program.match? components verb).isSome = true) :
    program.verb = verb ∧
      ∃ last,
        Machine.run program.pool program.instructions
          (Machine.State.start components) = .ok last := by
  obtain ⟨bindings, matchedTo⟩ := Option.isSome_iff_exists.mp matched
  rw [match?_eq_some_iff, execute_ok_iff] at matchedTo
  obtain ⟨sameVerb, last, ran, _⟩ := matchedTo
  exact ⟨sameVerb, last, ran⟩

/-- No request takes the stack of a program higher than the program says, and
a request that it matches takes it exactly as high. -/
theorem stack_le_maxStack_and_attained (program : Program)
    (built : program.Built) (components : List String) (verb : String) :
    (∀ state, program.Visits components verb state →
      state.stack.length ≤ program.maxStack) ∧
    ((program.match? components verb).isSome = true →
      ∃ state,
        program.Visits components verb state ∧
          state.stack.length = program.maxStack) := by
  rw [built.maxStack_eq program]
  constructor
  · rintro state ⟨_, before, listed, ran⟩
    rw [Machine.stack_length_of_run_ok _ before _ state ran]
    exact heightBehind_le_peakHeight 0 0 (Nat.le_refl 0) before _ listed
  · intro matched
    obtain ⟨sameVerb, last, ran⟩ :=
      program.exists_run_ok_of_match? components verb matched
    obtain ⟨before, listed, highest⟩ :=
      exists_heightBehind_eq_peakHeight program.instructions
    obtain ⟨state, reached⟩ :=
      Machine.exists_run_ok_of_prefix program.pool before
        program.instructions (Machine.State.start components) last listed ran
    refine ⟨state, ⟨sameVerb, before, listed, reached⟩, ?_⟩
    rw [Machine.stack_length_of_run_ok _ before _ state reached]
    exact highest

/-- The join of no values pushes an empty one, behind all that remained of the
request. -/
def paddedFlat : FlatProgram :=
  { version := 1
    opcodes := [2, 0, 3, 7, 4, 0, 4, 3, 5, 1]
    pool := ["v1", "x"]
    verb := "go"
    fields := ["x"] }

def padded : Program :=
  { version := 1
    instructions :=
      [{ opcode := .pushLiteral
         operand := 0 },
        { opcode := .pushRest
          operand := 7 },
        { opcode := .concat
          operand := 0 },
        { opcode := .concat
          operand := 3 },
        { opcode := .capture
          operand := 1 }]
    pool := ["v1", "x"]
    verb := "go"
    fields := ["x"]
    maxStack := 3 }

theorem stack_le_maxStack_and_attained_padded :
    ofFlat paddedFlat = .ok padded ∧
      padded.match? ["v1", "a", "b"] "go" =
          some { entries := [("x", "v1/a/b/")] } ∧
        (∃ state,
          padded.Visits ["v1", "a", "b"] "go" state ∧
            state.stack.length = 3) ∧
          ∀ state, padded.Visits ["v2", "a", "b"] "go" state →
            state.stack.length ≤ 3 := by
  have accepted : ofFlat paddedFlat = .ok padded := rfl
  have matched :
      padded.match? ["v1", "a", "b"] "go" =
        some { entries := [("x", "v1/a/b/")] } := by
    decide +kernel
  have built := Built.ofFlat paddedFlat padded accepted
  refine ⟨accepted, matched, ?_, ?_⟩
  · apply (stack_le_maxStack_and_attained padded built _ _).2
    rw [matched]
    rfl
  · exact (stack_le_maxStack_and_attained padded built _ _).1

end Program

end HttpRouting
