/-
What the listing of a program tells.

Every instruction has one line.  Its operation is the first word behind the
position, and what stands behind that word can be taken apart again, whatever
texts the pool holds.  So two programs have the same listing exactly when they
do the same with the same operands and texts; filler operands and pool texts
that no instruction addresses are not listed.
-/

import HttpRouting.Proofs.Layout
import HttpRouting.Proofs.Lines
import HttpRouting.Proofs.Quoting
import HttpRouting.Proofs.StackDepth

namespace HttpRouting

/-! ### Operands that address a pool text -/

def Instruction.Addresses (pool : List String)
    (instruction : Instruction) : Prop :=
  instruction.opcode.usesPool = true → instruction.operand < pool.length

namespace Segment

variable {pool : List String}

theorem PushedBy.addresses {segment : Segment} {instruction : Instruction}
    (pushed : segment.PushedBy pool instruction) :
    instruction.Addresses pool := by
  cases pushed with
  | literal text slot own =>
      intro _
      exact (List.getElem?_eq_some_iff.mp own).1
  | wildcard => nofun
  | deepWildcard => nofun

theorem CodedInside.addresses {segments : List Segment}
    {code : List Instruction} (coded : CodedInside pool segments code) :
    ∀ instruction ∈ code, instruction.Addresses pool := by
  induction coded with
  | nil =>
      nofun
  | push segment first rest code pushed others inductionHypothesis =>
      exact List.forall_mem_cons.mpr ⟨pushed.addresses, inductionHypothesis⟩
  | skip path inner rest code others inductionHypothesis =>
      exact inductionHypothesis

theorem Coded.addresses {segments : List Segment}
    {code : List Instruction} (coded : Coded pool segments code) :
    ∀ instruction ∈ code, instruction.Addresses pool := by
  induction coded with
  | nil =>
      nofun
  | push segment first rest code pushed others inductionHypothesis =>
      exact List.forall_mem_cons.mpr ⟨pushed.addresses, inductionHypothesis⟩
  | field path inner rest innerCode code slot inside own others
      inductionHypothesis =>
      rw [List.forall_mem_append, List.forall_mem_cons, List.forall_mem_cons]
      refine ⟨inside.addresses, nofun, ?_, inductionHypothesis⟩
      intro _
      exact (List.getElem?_eq_some_iff.mp own).1

end Segment

theorem addresses_of_checkInstructions (pool : List String) (position : Nat)
    (state last : CheckState) (instructions : List Instruction)
    (checked :
      checkInstructions pool.length position state instructions =
        .ok last) :
    ∀ instruction ∈ instructions, instruction.Addresses pool := by
  induction instructions generalizing position state with
  | nil =>
      nofun
  | cons instruction rest inductionHypothesis =>
      rcases
        (checkInstructions_cons_ok_iff pool.length position state last
          instruction rest).mp checked with
        ⟨fits, restChecked⟩
      exact
        List.forall_mem_cons.mpr
          ⟨fits.slot, inductionHypothesis _ _ restChecked⟩

theorem Program.Built.addresses (program : Program) (built : program.Built) :
    ∀ instruction ∈ program.instructions,
      instruction.Addresses program.pool := by
  cases built with
  | compile template =>
      exact template.coded_compile.addresses
  | ofFlat flat _ accepted =>
      rcases
        (program.check_ok_iff _).mp (check_of_ofFlat flat program accepted)
        with ⟨_, last, checked, _⟩
      exact
        addresses_of_checkInstructions program.pool 0 _ last
          program.instructions checked

/-! ### The line of an instruction -/

def Opcode.hasOperand (opcode : Opcode) : Bool :=
  opcode.usesPool || opcode = .concat

/-- The instructions do the same, each with its own pool. -/
structure Instruction.SameUse (leftPool rightPool : List String)
    (left right : Instruction) : Prop where
  opcode : left.opcode = right.opcode
  operand : left.opcode.hasOperand = true → left.operand = right.operand
  text :
    left.opcode.usesPool = true →
      ∃ text,
        leftPool[left.operand]? = some text ∧
          rightPool[right.operand]? = some text

theorem Opcode.eq_of_mnemonic (left right : Opcode)
    (same : left.mnemonic = right.mnemonic) : left = right := by
  have byMnemonic :
      ∀ left ∈ Opcode.all, ∀ right ∈ Opcode.all,
        left.mnemonic = right.mnemonic → left = right := by
    decide
  have listed : ∀ opcode : Opcode, opcode ∈ Opcode.all := by
    intro opcode
    cases opcode <;> decide
  exact byMnemonic left (listed left) right (listed right) same

theorem Opcode.space_not_mem_mnemonic (opcode : Opcode) :
    ' ' ∉ opcode.mnemonic.toList := by
  cases opcode <;> decide

theorem listedText_eq_iff (leftPool rightPool : List String)
    (left right : Nat) (leftInside : left < leftPool.length)
    (rightInside : right < rightPool.length) :
    listedText leftPool left = listedText rightPool right ↔
      ∃ text, leftPool[left]? = some text ∧ rightPool[right]? = some text := by
  unfold listedText
  rw [List.getElem?_eq_getElem leftInside,
    List.getElem?_eq_getElem rightInside]
  simp only [Option.getD_some, Option.some.injEq]
  constructor
  · intro same
    exact ⟨rightPool[right], same, rfl⟩
  · rintro ⟨text, leftText, rightText⟩
    exact leftText.trans rightText.symm

namespace Instruction

theorem exists_listing_eq (pool : List String) (position : Nat)
    (instruction : Instruction) :
    ∃ behind,
      (instruction.listing pool position ++ " ").toList =
        (zeroPadded 4 position ++ " ").toList ++
          (instruction.opcode.mnemonic.toList ++ ' ' :: behind) := by
  cases instruction with
  | mk opcode operand =>
      cases opcode <;>
        simp only [listing, alignLeft, blanks, String.toList_append,
          List.append_assoc, List.append_cancel_left_eq]
      case pushLiteral | concat | capture =>
        exact ⟨_, rfl⟩
      case nop | push | pushRest | stop =>
        exact ⟨[], rfl⟩

theorem opcode_eq_of_listing (leftPool rightPool : List String)
    (position : Nat) (left right : Instruction)
    (same :
      left.listing leftPool position = right.listing rightPool position) :
    left.opcode = right.opcode := by
  rcases left.exists_listing_eq leftPool position with
    ⟨leftBehind, leftEq⟩
  rcases right.exists_listing_eq rightPool position with
    ⟨rightBehind, rightEq⟩
  rw [same, rightEq] at leftEq
  have words :=
    eq_of_append_mark ' ' right.opcode.space_not_mem_mnemonic
      left.opcode.space_not_mem_mnemonic (List.append_cancel_left leftEq)
  exact
    Opcode.eq_of_mnemonic _ _ (String.toList_inj.mp words.1.symm)

/-- Behind the name come the blanks of its column, the digits of the operand
and a blank, and then the text. -/
theorem eq_of_operand_and_text (front : String) (left right : Nat)
    (leftText rightText : String)
    (same :
      front ++ toString left ++ " ; " ++ quoted leftText =
        front ++ toString right ++ " ; " ++ quoted rightText) :
    left = right ∧ leftText = rightText := by
  have shape :
      ∀ (number : Nat) (text : String),
        (front ++ toString number ++ " ; " ++ quoted text).toList =
          front.toList ++ ((toString number).toList ++
            ' ' :: ("; " ++ quoted text).toList) := by
    intro number text
    simp
  have sameText := congrArg String.toList same
  rw [shape left, shape right] at sameText
  rcases
    eq_of_append_mark ' ' (space_not_mem_toString left)
      (space_not_mem_toString right) (List.append_cancel_left sameText) with
    ⟨sameDigits, sameQuoted⟩
  rw [String.toList_inj, String.append_right_inj] at sameQuoted
  exact
    ⟨eq_of_toString left right (String.toList_inj.mp sameDigits),
      eq_of_quoted leftText rightText sameQuoted⟩

theorem listing_eq_iff (leftPool rightPool : List String) (position : Nat)
    (left right : Instruction) (leftInside : left.Addresses leftPool)
    (rightInside : right.Addresses rightPool) :
    left.listing leftPool position = right.listing rightPool position ↔
      left.SameUse leftPool rightPool right := by
  cases left with
  | mk opcode left =>
      cases right with
      | mk other right =>
          constructor
          · intro same
            cases
              opcode_eq_of_listing leftPool rightPool position _ _ same
            cases opcode
            case nop | push | pushRest | stop =>
              exact ⟨rfl, nofun, nofun⟩
            case concat =>
              have sameOperand : left = right :=
                eq_of_toString left right
                  ((String.append_right_inj _).mp same)
              exact ⟨rfl, fun _ => sameOperand, nofun⟩
            case pushLiteral | capture =>
              rcases eq_of_operand_and_text _ left right _ _ same with
                ⟨sameOperand, sameListed⟩
              have sameText :=
                (listedText_eq_iff leftPool rightPool left right
                  (leftInside rfl) (rightInside rfl)).mp sameListed
              exact ⟨rfl, fun _ => sameOperand, fun _ => sameText⟩
          · rintro ⟨rfl, sameOperand, sameText⟩
            cases opcode
            case nop | push | pushRest | stop =>
              rfl
            case concat =>
              cases sameOperand rfl
              rfl
            case pushLiteral | capture =>
              cases sameOperand rfl
              have sameListed :=
                (listedText_eq_iff leftPool rightPool left left
                  (leftInside rfl) (rightInside rfl)).mpr (sameText rfl)
              simp only [listing, sameListed]

end Instruction

/-! ### Whole listings -/

theorem listingLines_eq_iff (leftPool rightPool : List String)
    (position : Nat) (left right : List Instruction)
    (leftInside :
      ∀ instruction ∈ left, instruction.Addresses leftPool)
    (rightInside :
      ∀ instruction ∈ right, instruction.Addresses rightPool) :
    listingLines leftPool position left =
        listingLines rightPool position right ↔
      List.Forall₂ (Instruction.SameUse leftPool rightPool) left right := by
  induction left generalizing right position with
  | nil =>
      cases right with
      | nil => simp [listingLines]
      | cons other others => simp [listingLines]
  | cons instruction rest inductionHypothesis =>
      cases right with
      | nil => simp [listingLines]
      | cons other others =>
          rw [List.forall_mem_cons] at leftInside rightInside
          rw [listingLines, listingLines, List.cons.injEq,
            List.forall₂_cons,
            Instruction.listing_eq_iff leftPool rightPool position
              instruction other leftInside.1 rightInside.1,
            inductionHypothesis (position + 1) others leftInside.2
              rightInside.2]

theorem newline_not_mem_zeroPadded (width number : Nat) :
    '\n' ∉ (zeroPadded width number).toList := by
  unfold zeroPadded
  rw [String.toList_append, String.toList_ofList, List.mem_append, not_or]
  refine ⟨?_, newline_not_mem_toString number⟩
  intro member
  exact absurd (List.eq_of_mem_replicate member) (by decide)

theorem Instruction.newline_not_mem_listing (pool : List String)
    (position : Nat) (instruction : Instruction) :
    '\n' ∉ (instruction.listing pool position).toList := by
  have start :
      '\n' ∉ (zeroPadded 4 position ++ " ").toList := by
    rw [String.toList_append, List.mem_append, not_or]
    exact ⟨newline_not_mem_zeroPadded 4 position, by decide⟩
  have digits := newline_not_mem_toString instruction.operand
  have text := newline_not_mem_quoted (listedText pool instruction.operand)
  cases instruction with
  | mk opcode operand =>
      have name : '\n' ∉ opcode.mnemonic.toList := by
        cases opcode <;> decide
      have column : '\n' ∉ (alignLeft 8 opcode.mnemonic).toList := by
        cases opcode <;> decide
      cases opcode <;>
        simp_all [listing, String.toList_append]

namespace Program

/-- The lines of a listing are not broken by the texts that they show. -/
theorem consistsOf_lines (program : Program) :
    ConsistsOf program.listing program.lines := by
  refine ⟨rfl, ?_⟩
  have unbroken :
      ∀ (position : Nat) (instructions : List Instruction),
        ∀ line ∈ listingLines program.pool position instructions,
          '\n' ∉ line.toList := by
    intro position instructions
    induction instructions generalizing position with
    | nil =>
        nofun
    | cons instruction rest inductionHypothesis =>
        rw [listingLines, List.forall_mem_cons]
        exact
          ⟨instruction.newline_not_mem_listing program.pool position,
            inductionHypothesis (position + 1)⟩
  exact unbroken 0 program.instructions

/-- A listing has one line for each instruction, and two programs have the same
listing exactly when their instructions do the same one by one. -/
theorem listing_lines_and_uses (left right : Program)
    (leftBuilt : left.Built) (rightBuilt : right.Built) :
    (ConsistsOf left.listing left.lines ∧
      left.lines.length = left.instructions.length ∧
        lineBreaks left.listing = left.instructions.length) ∧
    (left.listing = right.listing ↔
      List.Forall₂ (Instruction.SameUse left.pool right.pool)
        left.instructions right.instructions) := by
  have lineCount : left.lines.length = left.instructions.length :=
    listingLines_length left.pool 0 left.instructions
  refine ⟨⟨left.consistsOf_lines, lineCount, ?_⟩, ?_⟩
  · rw [← left.consistsOf_lines.length_eq, lineCount]
  · have sameLines :
        left.listing = right.listing ↔ left.lines = right.lines := by
      constructor
      · intro same
        have leftLines := left.consistsOf_lines
        rw [same] at leftLines
        exact leftLines.unique right.consistsOf_lines
      · intro same
        rw [left.consistsOf_lines.written, same]
        rfl
    rw [sameLines]
    exact
      listingLines_eq_iff left.pool right.pool 0 left.instructions
        right.instructions leftBuilt.addresses rightBuilt.addresses

/-- A literal that looks like the end of its line and a line behind it. -/
def misleadingTemplate : Template :=
  { segments :=
      [.literal "a\"\n0001 push", .wildcard,
        .field "x" [.deepWildcard]] }

def fillerFlat : FlatProgram :=
  { version := 1
    opcodes := [2, 0, 1, 9, 3, 7, 4, 1, 5, 1]
    pool := ["a\"\n0001 push", "x", "unused"]
    verb := "go"
    fields := ["y"] }

theorem listing_lines_and_uses_filler :
    ∃ filler,
      ofFlat fillerFlat = .ok filler ∧
        filler.instructions ≠ misleadingTemplate.compile.instructions ∧
          lineBreaks misleadingTemplate.compile.listing = 5 ∧
            misleadingTemplate.compile.listing = filler.listing := by
  refine ⟨_, rfl, by decide, ?_⟩
  rcases
    listing_lines_and_uses misleadingTemplate.compile _
      (.compile misleadingTemplate) (.ofFlat fillerFlat _ rfl) with
    ⟨⟨_, _, lineCount⟩, sameListing⟩
  refine ⟨lineCount, sameListing.mpr ?_⟩
  exact
    .cons ⟨rfl, fun _ => rfl, fun _ => ⟨_, rfl, rfl⟩⟩
      (.cons ⟨rfl, nofun, nofun⟩
        (.cons ⟨rfl, nofun, nofun⟩
          (.cons ⟨rfl, fun _ => rfl, nofun⟩
            (.cons ⟨rfl, fun _ => rfl, fun _ => ⟨_, rfl, rfl⟩⟩ .nil))))

end Program

end HttpRouting
