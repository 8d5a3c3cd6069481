/-
Programs that the check refuses match nothing.

A step that succeeds finds its values on the stack and its text in the pool,
which is all that the check asks of an instruction.  So the instructions of a
run that reaches its end fit the heights that the stack takes, and a program
matches a request only if its instructions pass the check.
-/

import HttpRouting.Proofs.Demands

namespace HttpRouting

/-! ### Heights through a program -/

/-- The instructions fit one after the other and lead from the first height of
the stack to the second. -/
def LeadsTo (poolSize : Nat) : List Instruction → Nat → Nat → Prop
  | [], height, last => last = height
  | instruction :: rest, height, last =>
      instruction.Fits poolSize height ∧
        LeadsTo poolSize rest (instruction.heightAfter height) last

theorem leadsTo_append_iff (poolSize : Nat) (first second : List Instruction)
    (height last : Nat) :
    LeadsTo poolSize (first ++ second) height last ↔
      ∃ middle,
        LeadsTo poolSize first height middle ∧
          LeadsTo poolSize second middle last := by
  induction first generalizing height with
  | nil =>
      simp [LeadsTo]
  | cons instruction rest inductionHypothesis =>
      simp only [List.cons_append, LeadsTo, inductionHypothesis,
        and_assoc, exists_and_left]

theorem exists_checkInstructions_ok_iff (poolSize position : Nat)
    (state : CheckState) (instructions : List Instruction) (height : Nat) :
    (∃ last,
      checkInstructions poolSize position state instructions = .ok last ∧
        last.height = height) ↔
      LeadsTo poolSize instructions state.height height := by
  induction instructions generalizing position state with
  | nil =>
      simp [checkInstructions, LeadsTo, eq_comm]
  | cons instruction rest inductionHypothesis =>
      simp only [checkInstructions_cons_ok_iff, LeadsTo, and_assoc,
        exists_and_left]
      rw [inductionHypothesis]
      rfl

theorem Instruction.Fits.of_poolless (poolSize height : Nat)
    (instruction : Instruction)
    (isLive : instruction.opcode.isLive = true)
    (poolless : instruction.opcode.usesPool = false)
    (values : instruction.pops ≤ height) :
    instruction.Fits poolSize height :=
  ⟨isLive,
    fun usesPool => absurd usesPool (Bool.eq_false_iff.mp poolless),
    values⟩

namespace Machine

/-! ### Steps and runs that succeed -/

theorem fits_of_step_ok (pool : List String) (instruction : Instruction)
    (state next : State)
    (stepped : step pool instruction state = .ok next) :
    instruction.Fits pool.length state.stack.length := by
  cases instruction with
  | mk opcode operand =>
      cases opcode with
      | nop => cases stepped
      | stop => cases stepped
      | push => exact .of_poolless _ _ _ rfl rfl (Nat.zero_le _)
      | pushRest => exact .of_poolless _ _ _ rfl rfl (Nat.zero_le _)
      | pushLiteral =>
          simp only [step, pushLiteral] at stepped
          split at stepped
          · cases stepped
          · split at stepped
            · cases stepped
            · rename_i text found
              obtain ⟨inPool, _⟩ := List.getElem?_eq_some_iff.mp found
              exact ⟨rfl, fun _ => inPool, Nat.zero_le _⟩
      | concat =>
          obtain ⟨enough, _⟩ := (concat_ok_iff operand state next).mp stepped
          exact .of_poolless _ _ _ rfl rfl enough
      | capture =>
          simp only [step, capture] at stepped
          split at stepped
          · cases stepped
          · rename_i value rest stackEq
            split at stepped
            · cases stepped
            · rename_i path found
              obtain ⟨inPool, _⟩ := List.getElem?_eq_some_iff.mp found
              refine ⟨rfl, fun _ => inPool, ?_⟩
              rw [stackEq]
              exact Nat.succ_le_succ (Nat.zero_le _)

theorem level_of_step_ok (pool : List String) (instruction : Instruction)
    (state next : State)
    (stepped : step pool instruction state = .ok next) :
    next.stack.length = instruction.heightAfter state.stack.length := by
  have answer :=
    step_answers pool instruction state
      (fits_of_step_ok pool instruction state next stepped)
  rw [stepped] at answer
  generalize instruction.leave? pool state.remaining = left at answer
  cases answer with
  | goesOn _ level => exact level

theorem leadsTo_of_run_ok (pool : List String)
    (instructions : List Instruction) (state last : State)
    (ran : run pool instructions state = .ok last) :
    LeadsTo pool.length instructions state.stack.length
      last.stack.length := by
  induction instructions generalizing state with
  | nil =>
      cases ran
      rfl
  | cons instruction rest inductionHypothesis =>
      rw [run] at ran
      cases stepped : step pool instruction state with
      | error fault =>
          rw [stepped] at ran
          cases ran
      | ok next =>
          rw [stepped] at ran
          refine ⟨fits_of_step_ok pool instruction state next stepped, ?_⟩
          rw [← level_of_step_ok pool instruction state next stepped]
          exact inductionHypothesis next ran

/-- Instructions that lead from the height of the stack run to their end
exactly when the components meet their demands. -/
theorem answers_of_leadsTo (pool : List String)
    (instructions : List Instruction) (state : State) (height : Nat)
    (leads :
      LeadsTo pool.length instructions state.stack.length height) :
    Answers height
      (Demand.meetAll? (instructions.filterMap (Instruction.demand? pool))
        state.remaining)
      (run pool instructions state) := by
  obtain ⟨last, accepted, rfl⟩ :=
    (exists_checkInstructions_ok_iff pool.length 0
      { height := state.stack.length } instructions height).mpr leads
  exact run_answers pool 0 _ last instructions accepted state rfl

/-- A run that gets as far as a join of more values than there are ends
there. -/
theorem run_of_short (pool : List String) (before after : List Instruction)
    (count : Nat) (state : State) (height : Nat)
    (leads : LeadsTo pool.length before state.stack.length height)
    (short : height < count) :
    run pool
        (before ++
          { opcode := .concat
            operand := count } :: after) state =
      match run pool before state with
      | .error fault => .error fault
      | .ok _ => .error .stackUnderflow := by
  have answer := answers_of_leadsTo pool before state height leads
  rw [run_append]
  generalize run pool before state = ran at *
  generalize Demand.meetAll? _ state.remaining = left at answer
  cases answer with
  | missingComponent => rfl
  | literalMismatch => rfl
  | goesOn next level =>
      have tooFew : next.stack.length < count := by
        rw [level]
        exact short
      simp only [run, step, concat, if_pos tooFew]

end Machine

namespace Program

/-- A program matches a request exactly when its instructions fit the stack
and the request meets its demands.  This holds of every program, checked or
not. -/
theorem match?_isSome_iff_leadsTo (program : Program)
    (components : List String) (verb : String) :
    (program.match? components verb).isSome = true ↔
      (∃ height, LeadsTo program.pool.length program.instructions 0 height) ∧
        program.Accepts components verb := by
  rw [Option.isSome_iff_exists]
  simp only [match?_eq_some_iff, execute_ok_iff]
  constructor
  · rintro ⟨bindings, sameVerb, state, ran, taken, _⟩
    have leads :=
      Machine.leadsTo_of_run_ok program.pool program.instructions
        (Machine.State.start components) state ran
    have answer :=
      Machine.answers_of_leadsTo program.pool program.instructions
        (Machine.State.start components) _ leads
    rw [ran] at answer
    refine ⟨⟨_, leads⟩, sameVerb, ?_⟩
    unfold demands
    change
      Machine.Answers _ (Demand.meetAll? _ components) (.ok state) at answer
    generalize Demand.meetAll? _ components = left at *
    cases answer with
    | goesOn _ _ => rw [taken]
  · rintro ⟨⟨height, leads⟩, sameVerb, met⟩
    have answer :=
      Machine.answers_of_leadsTo program.pool program.instructions
        (Machine.State.start components) height leads
    change
      Machine.Answers _ (Demand.meetAll? program.demands components) _
        at answer
    rw [met] at answer
    generalize ranEq :
      Machine.run program.pool program.instructions
        (Machine.State.start components) = ran at answer
    generalize leftEq : some ([] : List String) = left at answer
    cases answer with
    | goesOn next _ =>
        exact
          ⟨next.bindings, sameVerb, next, rfl,
            (Option.some.inj leftEq).symm, rfl⟩
    | missingComponent => cases leftEq
    | literalMismatch => cases leftEq

end Program

end HttpRouting
