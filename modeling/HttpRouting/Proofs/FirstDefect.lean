/-
Which flat programs are read, and which defect is told of the others.

Well-formedness and the defects are said of the flat form itself: of the
numbers and operands in turn, and of the height that the stack has behind the
instructions before a given one.  Reading accepts exactly the well-formed flat
programs, and of any other it tells the first defect.  All instructions are
decoded before any of them is checked, so a late operation number that is
unknown comes before an early one that the stack is too short for.
-/

import HttpRouting.Proofs.FlatForm
import Mathlib.Data.List.Induction

namespace HttpRouting

/-- An instruction of the flat form: the number of an operation and its
operand. -/
structure FlatInstruction where
  number : Int32
  operand : Int32
  deriving DecidableEq, Repr

namespace FlatInstruction

def liveNumbers : List Int32 :=
  [1, 2, 3, 4, 5]

structure Decodes (instruction : FlatInstruction) : Prop where
  number : instruction.number ∈ liveNumbers
  operand : 0 ≤ instruction.operand

def UsesPool (instruction : FlatInstruction) : Prop :=
  instruction.number = 2 ∨ instruction.number = 5

def pops (instruction : FlatInstruction) : Int :=
  if instruction.number = 4 then instruction.operand.toInt
  else if instruction.number = 5 then 1
  else 0

def gain (instruction : FlatInstruction) : Int :=
  if instruction.number = 4 then 1 - instruction.operand.toInt
  else if instruction.number = 5 then -1
  else 1

/-- The height of the stack behind the instructions. -/
def height (instructions : List FlatInstruction) : Int :=
  instructions.foldl (fun level instruction => level + instruction.gain) 0

/-- The instruction finds its text in the pool, and its values among those that
the instructions before it leave. -/
structure Fits (poolSize : Nat) (before : List FlatInstruction)
    (instruction : FlatInstruction) : Prop where
  slot : instruction.UsesPool → instruction.operand.toInt < poolSize
  values : instruction.pops ≤ height before

def FitTogether (poolSize : Nat) (instructions : List FlatInstruction) :
    Prop :=
  ∀ before instruction, before ++ [instruction] <+: instructions →
    instruction.Fits poolSize before

/-- Numbers and operands in turn; a number without operand at the end is left
out. -/
def ofNumbers : List Int32 → List FlatInstruction
  | number :: operand :: rest =>
      { number := number
        operand := operand } :: ofNumbers rest
  | _ => []

end FlatInstruction

namespace FlatProgram

open FlatInstruction

def instructions (flat : FlatProgram) : List FlatInstruction :=
  ofNumbers flat.opcodes

def captures (flat : FlatProgram) : Nat :=
  flat.instructions.countP (fun instruction => instruction.number = 5)

/-- The numbers of a known version come in pairs. -/
structure Paired (flat : FlatProgram) : Prop where
  version : flat.version = programVersion
  even : flat.opcodes.length % 2 = 0

structure Decodes (flat : FlatProgram) : Prop extends flat.Paired where
  instructions : ∀ instruction ∈ flat.instructions, instruction.Decodes

structure Fits (flat : FlatProgram) : Prop extends flat.Decodes where
  together : FitTogether flat.pool.length flat.instructions

structure WellFormed (flat : FlatProgram) : Prop extends flat.Fits where
  counted : flat.captures = flat.fields.length

/-- The first defect of a flat program.  Whatever is looked at earlier is in
order. -/
inductive FirstDefect (flat : FlatProgram) : ProgramError → Prop where
  | version (unknown : flat.version ≠ programVersion) :
      FirstDefect flat (.unsupportedVersion flat.version)
  | odd (version : flat.version = programVersion)
      (odd : flat.opcodes.length % 2 = 1) :
      FirstDefect flat (.oddOpcodeLength flat.opcodes.length)
  | number (paired : flat.Paired) (before : List FlatInstruction)
      (instruction : FlatInstruction)
      (listed : before ++ [instruction] <+: flat.instructions)
      (earlier : ∀ other ∈ before, other.Decodes)
      (unknown : instruction.number ∉ liveNumbers) :
      FirstDefect flat (.invalidOpcode before.length instruction.number)
  | operand (paired : flat.Paired) (before : List FlatInstruction)
      (instruction : FlatInstruction)
      (listed : before ++ [instruction] <+: flat.instructions)
      (earlier : ∀ other ∈ before, other.Decodes)
      (known : instruction.number ∈ liveNumbers)
      (negative : instruction.operand < 0) :
      FirstDefect flat (.negativeOperand before.length instruction.operand)
  | slot (decodes : flat.Decodes) (before : List FlatInstruction)
      (instruction : FlatInstruction)
      (listed : before ++ [instruction] <+: flat.instructions)
      (earlier : FitTogether flat.pool.length before)
      (usesPool : instruction.UsesPool)
      (outside : flat.pool.length ≤ instruction.operand.toInt) :
      FirstDefect flat
        (.poolIndexOutOfRange before.length instruction.operand.toInt.toNat
          flat.pool.length)
  | values (decodes : flat.Decodes) (before : List FlatInstruction)
      (instruction : FlatInstruction)
      (listed : before ++ [instruction] <+: flat.instructions)
      (earlier : FitTogether flat.pool.length before)
      (slot : instruction.UsesPool →
        instruction.operand.toInt < flat.pool.length)
      (short : height before < instruction.pops) :
      FirstDefect flat (.stackUnderflow before.length)
  | counted (fits : flat.Fits)
      (different : flat.captures ≠ flat.fields.length) :
      FirstDefect flat
        (.fieldCountMismatch flat.captures flat.fields.length)

end FlatProgram

/-! ### The first element that does not fit -/

theorem exists_prefix_of_mem {Element : Type} (list : List Element)
    (element : Element) (member : element ∈ list) :
    ∃ before, before ++ [element] <+: list := by
  obtain ⟨before, after, rfl⟩ := List.append_of_mem member
  exact ⟨before, after, by simp⟩

theorem exists_first_unfit {Element : Type}
    (Fits : List Element → Element → Prop) (list : List Element) :
    (∀ before element, before ++ [element] <+: list →
      Fits before element) ∨
    ∃ before element,
      before ++ [element] <+: list ∧ ¬ Fits before element ∧
        ∀ earlier other, earlier ++ [other] <+: before →
          Fits earlier other := by
  induction list using List.reverseRecOn with
  | nil =>
      left
      intro before element listed
      have absent := List.prefix_nil.mp listed
      simp at absent
  | append_singleton front last inductionHypothesis =>
      rcases inductionHypothesis with
        allFit | ⟨before, element, listed, unfit, earlier⟩
      · by_cases lastFits : Fits front last
        · left
          intro before element listed
          rcases List.prefix_concat_iff.mp listed with whole | inFront
          · obtain ⟨rfl, sameLast⟩ := List.append_inj' whole rfl
            rw [List.singleton_inj.mp sameLast]
            exact lastFits
          · exact allFit before element inFront
        · exact .inr ⟨front, last, List.prefix_refl _, lastFits, allFit⟩
      · exact
          .inr
            ⟨before, element, listed.trans (List.prefix_append front [last]),
              unfit, earlier⟩

namespace FlatInstruction

/-! ### Decoding -/

def decoded (instruction : FlatInstruction) : Instruction :=
  { opcode := (Opcode.ofNumber? instruction.number).getD .nop
    operand := instruction.operand.toInt.toNat }

theorem ofNumber?_eq_none_iff (number : Int32) :
    Opcode.ofNumber? number = none ↔ number ∉ liveNumbers := by
  unfold Opcode.ofNumber? liveNumbers
  split_ifs with one two three four five <;> simp [*]

theorem decodeInstruction_of_decodes (position : Nat)
    (instruction : FlatInstruction) (decodes : instruction.Decodes) :
    decodeInstruction position instruction.number instruction.operand =
      .ok instruction.decoded := by
  unfold decodeInstruction decoded
  cases known : Opcode.ofNumber? instruction.number with
  | none =>
      exact absurd decodes.number
        ((ofNumber?_eq_none_iff instruction.number).mp known)
  | some opcode =>
      have nonnegative : ¬ instruction.operand < 0 :=
        Int32.not_lt.mpr decodes.operand
      simp only [if_neg nonnegative, Option.getD_some]

theorem decodeInstruction_of_unknown (position : Nat)
    (instruction : FlatInstruction)
    (unknown : instruction.number ∉ liveNumbers) :
    decodeInstruction position instruction.number instruction.operand =
      .error (.invalidOpcode position instruction.number) := by
  unfold decodeInstruction
  rw [(ofNumber?_eq_none_iff instruction.number).mpr unknown]

theorem decodeInstruction_of_negative (position : Nat)
    (instruction : FlatInstruction)
    (known : instruction.number ∈ liveNumbers)
    (negative : instruction.operand < 0) :
    decodeInstruction position instruction.number instruction.operand =
      .error (.negativeOperand position instruction.operand) := by
  unfold decodeInstruction
  cases found : Opcode.ofNumber? instruction.number with
  | none =>
      exact absurd known
        ((ofNumber?_eq_none_iff instruction.number).mp found)
  | some opcode => simp only [if_pos negative]

theorem decodeInstructions_of_decodes (position : Nat) (numbers : List Int32)
    (decodes : ∀ instruction ∈ ofNumbers numbers, instruction.Decodes) :
    decodeInstructions position numbers =
      .ok ((ofNumbers numbers).map decoded) := by
  fun_induction ofNumbers numbers generalizing position with
  | case1 number operand rest inductionHypothesis =>
      rw [List.forall_mem_cons] at decodes
      rw [decodeInstructions,
        decodeInstruction_of_decodes position _ decodes.1,
        inductionHypothesis (position + 1) decodes.2]
      rfl
  | case2 numbers single =>
      cases numbers with
      | nil => rfl
      | cons number rest =>
          cases rest with
          | nil => rfl
          | cons operand others =>
              exact absurd rfl (single number operand others)

theorem decodeInstructions_of_error (position : Nat) (numbers : List Int32)
    (before : List FlatInstruction) (instruction : FlatInstruction)
    (error : ProgramError)
    (listed : before ++ [instruction] <+: ofNumbers numbers)
    (earlier : ∀ other ∈ before, other.Decodes)
    (refused :
      decodeInstruction (position + before.length) instruction.number
        instruction.operand = .error error) :
    decodeInstructions position numbers = .error error := by
  fun_induction ofNumbers numbers generalizing position before with
  | case1 number operand rest inductionHypothesis =>
      rw [decodeInstructions]
      cases before with
      | nil =>
          obtain ⟨rfl, _⟩ := List.cons_prefix_cons.mp listed
          rw [List.length_nil, Nat.add_zero] at refused
          rw [refused]
      | cons first others =>
          obtain ⟨rfl, restListed⟩ := List.cons_prefix_cons.mp listed
          rw [List.forall_mem_cons] at earlier
          rw [List.length_cons, Nat.add_comm others.length,
            ← Nat.add_assoc] at refused
          rw [decodeInstruction_of_decodes position _ earlier.1,
            inductionHypothesis (position + 1) others restListed earlier.2
              refused]
  | case2 numbers single =>
      have absent := List.prefix_nil.mp listed
      simp at absent

/-! ### Decoded instructions -/

section Decoded

variable (instruction : FlatInstruction) (decodes : instruction.Decodes)

include decodes

theorem exists_ofNumber? :
    Opcode.ofNumber? instruction.number = some instruction.decoded.opcode := by
  unfold decoded
  cases known : Opcode.ofNumber? instruction.number with
  | none =>
      exact absurd decodes.number
        ((ofNumber?_eq_none_iff instruction.number).mp known)
  | some opcode => rfl

theorem decoded_number :
    instruction.decoded.opcode.number = instruction.number :=
  number_of_ofNumber? _ _ (exists_ofNumber? instruction decodes)

theorem decoded_isLive : instruction.decoded.opcode.isLive = true := by
  have known := exists_ofNumber? instruction decodes
  rw [← decoded_number instruction decodes, Opcode.ofNumber?_number]
    at known
  by_contra notLive
  rw [if_neg notLive] at known
  cases known

theorem decoded_operand :
    (instruction.decoded.operand : Int) = instruction.operand.toInt :=
  Int.toNat_of_nonneg (Int32.le_iff_toInt_le.mp decodes.operand)

theorem decoded_usesPool_iff :
    instruction.decoded.opcode.usesPool = true ↔ instruction.UsesPool := by
  unfold UsesPool
  rw [← decoded_number instruction decodes]
  cases instruction.decoded.opcode <;> decide

theorem decoded_isCapture_iff :
    instruction.decoded.opcode = .capture ↔ instruction.number = 5 := by
  rw [← decoded_number instruction decodes]
  cases instruction.decoded.opcode <;> decide

theorem decoded_pops :
    (instruction.decoded.pops : Int) = instruction.pops := by
  unfold pops Instruction.pops
  rw [← decoded_number instruction decodes,
    ← decoded_operand instruction decodes]
  cases instruction.decoded.opcode <;> rfl

theorem decoded_heightAfter (height : Nat)
    (values : instruction.decoded.pops ≤ height) :
    (instruction.decoded.heightAfter height : Int) =
      height + instruction.gain := by
  have isLive := decoded_isLive instruction decodes
  unfold gain Instruction.heightAfter
  unfold Instruction.pops at values
  rw [← decoded_number instruction decodes,
    ← decoded_operand instruction decodes]
  cases opcodeEq : instruction.decoded.opcode with
  | nop | stop =>
      rw [opcodeEq] at isLive
      cases isLive
  | push | pushLiteral | pushRest => rfl
  | concat =>
      rw [opcodeEq] at values
      have joins : (Opcode.concat.number = 4) = True := by decide
      simp only [joins, if_true] at values ⊢
      omega
  | capture =>
      rw [opcodeEq] at values
      have noJoin : (Opcode.capture.number = 4) = False := by decide
      have binds : (Opcode.capture.number = 5) = True := by decide
      simp only [noJoin, binds, if_false, if_true] at values ⊢
      omega

end Decoded

/-! ### Checking -/

theorem height_concat (before : List FlatInstruction)
    (instruction : FlatInstruction) :
    height (before ++ [instruction]) = height before + instruction.gain := by
  unfold height
  rw [List.foldl_append, List.foldl_cons, List.foldl_nil]

theorem decoded_fits (poolSize middle : Nat) (before : List FlatInstruction)
    (level : (middle : Int) = height before) (instruction : FlatInstruction)
    (decodes : instruction.Decodes)
    (fits : instruction.Fits poolSize before) :
    instruction.decoded.Fits poolSize middle := by
  have operand := decoded_operand instruction decodes
  have pops := decoded_pops instruction decodes
  refine ⟨decoded_isLive instruction decodes, ?_, ?_⟩
  · intro usesPool
    have inPool :=
      fits.slot ((decoded_usesPool_iff instruction decodes).mp usesPool)
    omega
  · have values := fits.values
    omega

theorem FitTogether.front (poolSize : Nat) (front : List FlatInstruction)
    (last : FlatInstruction)
    (together : FitTogether poolSize (front ++ [last])) :
    FitTogether poolSize front :=
  fun before instruction listed =>
    together before instruction (listed.trans (List.prefix_append _ _))

theorem exists_checkInstructions_ok (poolSize : Nat)
    (instructions : List FlatInstruction)
    (decodes : ∀ instruction ∈ instructions, instruction.Decodes)
    (together : FitTogether poolSize instructions) :
    ∃ last,
      checkInstructions poolSize 0 {} (instructions.map decoded) = .ok last ∧
        (last.height : Int) = height instructions := by
  -- Each instruction is checked against all that stand before it, so the
  -- induction takes them off at the end.
  induction instructions using List.reverseRecOn with
  | nil =>
      exact ⟨{}, rfl, rfl⟩
  | append_singleton front last inductionHypothesis =>
      have lastDecodes : last.Decodes := decodes last (by simp)
      obtain ⟨middle, accepted, level⟩ :=
        inductionHypothesis
          (fun other member =>
            decodes other (List.mem_append_left [last] member))
          (together.front poolSize front last)
      have fits :=
        decoded_fits poolSize middle.height front level last lastDecodes
          (together front last (List.prefix_refl _))
      refine ⟨middle.after last.decoded, ?_, ?_⟩
      · rw [List.map_append, checkInstructions_append, accepted]
        exact
          (checkInstructions_cons_ok_iff _ _ _ _ _ _).mpr ⟨fits, rfl⟩
      · rw [height_concat, ← level]
        exact
          decoded_heightAfter last lastDecodes middle.height fits.values

theorem captureCount_decoded (instructions : List FlatInstruction)
    (decodes : ∀ instruction ∈ instructions, instruction.Decodes) :
    captureCount (instructions.map decoded) =
      instructions.countP (fun instruction => instruction.number = 5) := by
  unfold captureCount
  rw [List.countP_map]
  apply List.countP_congr
  intro instruction member
  simp only [Function.comp_apply, decide_eq_true_eq]
  exact decoded_isCapture_iff instruction (decodes instruction member)

end FlatInstruction

namespace FlatProgram

open FlatInstruction

def decoded (flat : FlatProgram) : Program :=
  { version := flat.version
    instructions := flat.instructions.map FlatInstruction.decoded
    pool := flat.pool
    verb := flat.verb
    fields := flat.fields
    maxStack := 0 }

/-- Reading ends at the first instruction that does not decode. -/
theorem ofFlat_of_undecoded (flat : FlatProgram) (paired : flat.Paired)
    (before : List FlatInstruction) (instruction : FlatInstruction)
    (listed : before ++ [instruction] <+: flat.instructions)
    (earlier : ∀ other ∈ before, other.Decodes) (error : ProgramError)
    (refused :
      decodeInstruction before.length instruction.number
        instruction.operand = .error error) :
    Program.ofFlat flat = .error error := by
  have undecoded : decodeInstructions 0 flat.opcodes = .error error := by
    apply decodeInstructions_of_error 0 _ before instruction _ listed earlier
    rw [Nat.zero_add]
    exact refused
  unfold Program.ofFlat
  rw [(checkVersion_ok_iff flat.version).mpr paired.version,
    if_pos paired.even, undecoded]

theorem ofFlat_of_decodes (flat : FlatProgram) (decodes : flat.Decodes) :
    Program.ofFlat flat =
      flat.decoded.check.map (fun peak =>
        { flat.decoded with maxStack := peak }) := by
  have sameProgram :
      ({ version := flat.version
         instructions :=
           (ofNumbers flat.opcodes).map FlatInstruction.decoded
         pool := flat.pool
         verb := flat.verb
         fields := flat.fields
         maxStack := 0 } : Program) =
        flat.decoded :=
    rfl
  unfold Program.ofFlat
  rw [(checkVersion_ok_iff flat.version).mpr decodes.version,
    if_pos decodes.even,
    decodeInstructions_of_decodes 0 flat.opcodes decodes.instructions]
  simp only [sameProgram]
  cases flat.decoded.check with
  | error error => rfl
  | ok peak => rfl

theorem ofFlat_of_unfit (flat : FlatProgram) (decodes : flat.Decodes)
    (before : List FlatInstruction) (instruction : FlatInstruction)
    (listed : before ++ [instruction] <+: flat.instructions)
    (earlier : FitTogether flat.pool.length before) (error : ProgramError)
    (refused : ∀ state : CheckState,
      (state.height : Int) = height before →
        checkInstruction flat.pool.length before.length state
          instruction.decoded = .error error) :
    Program.ofFlat flat = .error error := by
  obtain ⟨after, instructionsEq⟩ := listed
  have beforeDecodes : ∀ other ∈ before, other.Decodes := by
    intro other member
    apply decodes.instructions
    rw [← instructionsEq]
    simp [member]
  obtain ⟨middle, accepted, level⟩ :=
    exists_checkInstructions_ok flat.pool.length before beforeDecodes earlier
  have decodedEq :
      flat.decoded.instructions =
        before.map FlatInstruction.decoded ++
          instruction.decoded :: after.map FlatInstruction.decoded := by
    change flat.instructions.map _ = _
    rw [← instructionsEq]
    simp
  have stopped :
      checkInstructions flat.decoded.pool.length 0 {}
        flat.decoded.instructions = .error error := by
    rw [decodedEq]
    apply checkInstructions_of_error _ _ _ middle _ _ _ _ accepted
    rw [List.length_map, Nat.zero_add]
    exact refused middle level
  rw [ofFlat_of_decodes flat decodes,
    Program.check_of_error flat.decoded error decodes.version stopped]
  rfl

theorem check_decoded_of_fits (flat : FlatProgram) (fits : flat.Fits) :
    ∃ peak,
      flat.decoded.check =
        if flat.captures = flat.fields.length then .ok peak
        else
          .error (.fieldCountMismatch flat.captures flat.fields.length) := by
  obtain ⟨last, accepted, _⟩ :=
    exists_checkInstructions_ok flat.pool.length flat.instructions
      fits.instructions fits.together
  have counted : last.captures = flat.captures := by
    rw [captures_of_checkInstructions _ _ _ _ _ accepted,
      captureCount_decoded flat.instructions fits.instructions]
    exact Nat.zero_add _
  refine ⟨last.peak, ?_⟩
  rw [← counted]
  exact Program.check_of_ok flat.decoded last fits.version accepted

/-! ### Reading -/

theorem ofFlat_of_firstDefect (flat : FlatProgram) (error : ProgramError)
    (defect : flat.FirstDefect error) :
    Program.ofFlat flat = .error error := by
  cases defect with
  | version unknown =>
      have unsupported :
          checkVersion flat.version =
            .error (.unsupportedVersion flat.version) :=
        if_neg unknown
      unfold Program.ofFlat
      rw [unsupported]
  | odd version odd =>
      unfold Program.ofFlat
      rw [(checkVersion_ok_iff flat.version).mpr version,
        if_neg (by omega)]
  | number paired before instruction listed earlier unknown =>
      exact
        ofFlat_of_undecoded flat paired before instruction listed earlier _
          (decodeInstruction_of_unknown _ instruction unknown)
  | operand paired before instruction listed earlier known negative =>
      exact
        ofFlat_of_undecoded flat paired before instruction listed earlier _
          (decodeInstruction_of_negative _ instruction known negative)
  | slot decodes before instruction listed earlier usesPool outside =>
      have instructionDecodes :=
        decodes.instructions instruction (listed.subset (by simp))
      have operand := decoded_operand instruction instructionDecodes
      apply ofFlat_of_unfit flat decodes before instruction listed earlier
      intro state _
      apply checkInstruction_of_outside
      · exact
          (decoded_usesPool_iff instruction instructionDecodes).mpr usesPool
      · omega
  | values decodes before instruction listed earlier slot short =>
      have instructionDecodes :=
        decodes.instructions instruction (listed.subset (by simp))
      have operand := decoded_operand instruction instructionDecodes
      have pops := decoded_pops instruction instructionDecodes
      apply ofFlat_of_unfit flat decodes before instruction listed earlier
      intro state level
      apply checkInstruction_of_short
      · intro usesPool
        have inPool :=
          slot ((decoded_usesPool_iff instruction instructionDecodes).mp
            usesPool)
        omega
      · omega
  | counted fits different =>
      obtain ⟨peak, checked⟩ := check_decoded_of_fits flat fits
      rw [ofFlat_of_decodes flat fits.toDecodes, checked, if_neg different]
      rfl

theorem ofFlat_of_wellFormed (flat : FlatProgram)
    (wellFormed : flat.WellFormed) :
    ∃ program, Program.ofFlat flat = .ok program := by
  obtain ⟨peak, checked⟩ := check_decoded_of_fits flat wellFormed.toFits
  rw [ofFlat_of_decodes flat wellFormed.toDecodes, checked,
    if_pos wellFormed.counted]
  exact ⟨_, rfl⟩

theorem decodes_or_firstDefect (flat : FlatProgram) (paired : flat.Paired) :
    flat.Decodes ∨ ∃ error, flat.FirstDefect error := by
  rcases exists_first_unfit (fun _ other => other.Decodes)
    flat.instructions with
    allDecode | ⟨before, instruction, listed, undecoded, earlier⟩
  · left
    refine { toPaired := paired, instructions := ?_ }
    intro instruction member
    obtain ⟨before, listed⟩ :=
      exists_prefix_of_mem flat.instructions instruction member
    exact allDecode before instruction listed
  · right
    have beforeDecodes : ∀ other ∈ before, other.Decodes := by
      intro other member
      obtain ⟨front, listedBefore⟩ :=
        exists_prefix_of_mem before other member
      exact earlier front other listedBefore
    by_cases known : instruction.number ∈ liveNumbers
    · have negative : instruction.operand < 0 :=
        Int32.not_le.mp (fun nonnegative =>
          undecoded ⟨known, nonnegative⟩)
      exact
        ⟨_, .operand paired before instruction listed beforeDecodes known
          negative⟩
    · exact
        ⟨_, .number paired before instruction listed beforeDecodes known⟩

theorem fits_or_firstDefect (flat : FlatProgram) (decodes : flat.Decodes) :
    flat.Fits ∨ ∃ error, flat.FirstDefect error := by
  rcases exists_first_unfit (FlatInstruction.Fits flat.pool.length)
    flat.instructions with
    together | ⟨before, instruction, listed, unfit, earlier⟩
  · exact .inl { toDecodes := decodes, together := together }
  · right
    by_cases slot :
        instruction.UsesPool →
          instruction.operand.toInt < flat.pool.length
    · have short : height before < instruction.pops :=
        Int.not_le.mp (fun values => unfit ⟨slot, values⟩)
      exact ⟨_, .values decodes before instruction listed earlier slot short⟩
    · rw [Classical.not_imp, Int.not_lt] at slot
      exact
        ⟨_, .slot decodes before instruction listed earlier slot.1 slot.2⟩

/-- Nothing is neither well-formed nor defect. -/
theorem wellFormed_or_firstDefect (flat : FlatProgram) :
    flat.WellFormed ∨ ∃ error, flat.FirstDefect error := by
  by_cases version : flat.version = programVersion
  · rcases Nat.mod_two_eq_zero_or_one flat.opcodes.length with even | odd
    · rcases decodes_or_firstDefect flat ⟨version, even⟩ with
        decodes | defect
      · rcases fits_or_firstDefect flat decodes with fits | defect
        · by_cases counted : flat.captures = flat.fields.length
          · exact .inl { toFits := fits, counted := counted }
          · exact .inr ⟨_, .counted fits counted⟩
        · exact .inr defect
      · exact .inr defect
    · exact .inr ⟨_, .odd version odd⟩
  · exact .inr ⟨_, .version version⟩

/-- A flat program is read exactly when it is well-formed, and otherwise
reading tells its first defect and no other. -/
theorem ofFlat_ok_iff_wellFormed_error_iff_firstDefect (flat : FlatProgram) :
    ((∃ program, Program.ofFlat flat = .ok program) ↔ flat.WellFormed) ∧
    ∀ error, Program.ofFlat flat = .error error ↔ flat.FirstDefect error := by
  constructor
  · constructor
    · rintro ⟨program, accepted⟩
      rcases wellFormed_or_firstDefect flat with
        wellFormed | ⟨error, defect⟩
      · exact wellFormed
      · rw [ofFlat_of_firstDefect flat error defect] at accepted
        cases accepted
    · exact ofFlat_of_wellFormed flat
  · intro error
    constructor
    · intro refused
      rcases wellFormed_or_firstDefect flat with
        wellFormed | ⟨other, defect⟩
      · obtain ⟨program, accepted⟩ := ofFlat_of_wellFormed flat wellFormed
        rw [refused] at accepted
        cases accepted
      · have told := ofFlat_of_firstDefect flat other defect
        rw [refused] at told
        cases told
        exact defect
    · exact ofFlat_of_firstDefect flat error

/-- A late unknown number comes before an early join of too many values. -/
example :
    Program.ofFlat
        { version := 1
          opcodes := [4, 1, 6, 0]
          pool := []
          verb := ""
          fields := [] } =
      .error (.invalidOpcode 1 6) := by
  decide

end FlatProgram

end HttpRouting
