/-
Which field paths a match binds.

A run binds the pool texts of its captures and nothing else, whatever the field
list of the program says.  Compiled programs list these very paths.  A flat
form is only read when it lists as many paths as it has captures, so its list
may name others; a match then binds paths that the list does not have.
-/

import HttpRouting.Proofs.FlatForm
import HttpRouting.Proofs.Layout

namespace HttpRouting

def Instruction.captured? (pool : List String)
    (instruction : Instruction) : Option String :=
  if instruction.opcode = .capture then pool[instruction.operand]? else none

namespace Program

def capturedPaths (program : Program) : List String :=
  program.instructions.filterMap (Instruction.captured? program.pool)

/-- The field list has exactly the paths that the captures bind. -/
def ListsCaptures (program : Program) : Prop :=
  ∀ path, path ∈ program.fields ↔ path ∈ program.capturedPaths

end Program

/-! ### What a run records -/

namespace Machine

theorem exists_captures_of_step_ok (pool : List String)
    (instruction : Instruction) (state next : State)
    (stepped : step pool instruction state = .ok next) :
    ∃ captures,
      captures.map Prod.fst = (instruction.captured? pool).toList ∧
        next.bindings = state.bindings.insertAll captures := by
  cases instruction with
  | mk opcode operand =>
      cases opcode with
      | nop => cases stepped
      | stop => cases stepped
      | push =>
          simp only [step, push] at stepped
          split at stepped
          · cases stepped
          · cases stepped
            exact ⟨[], rfl, rfl⟩
      | pushLiteral =>
          simp only [step, pushLiteral] at stepped
          split at stepped
          · cases stepped
          · split at stepped
            · cases stepped
            · split at stepped
              · cases stepped
                exact ⟨[], rfl, rfl⟩
              · cases stepped
      | pushRest =>
          cases stepped
          exact ⟨[], rfl, rfl⟩
      | concat =>
          rcases (concat_ok_iff operand state next).mp stepped with ⟨_, rfl⟩
          exact ⟨[], rfl, rfl⟩
      | capture =>
          simp only [step, capture] at stepped
          split at stepped
          · cases stepped
          · rename_i value rest stackEq
            split at stepped
            · cases stepped
            · rename_i path slotText
              cases stepped
              refine ⟨[(path, value)], ?_, rfl⟩
              simp [Instruction.captured?, slotText]

theorem exists_captures_of_run_ok (pool : List String)
    (instructions : List Instruction) (state last : State)
    (ran : run pool instructions state = .ok last) :
    ∃ captures,
      captures.map Prod.fst =
          instructions.filterMap (Instruction.captured? pool) ∧
        last.bindings = state.bindings.insertAll captures := by
  induction instructions generalizing state with
  | nil =>
      cases ran
      exact ⟨[], rfl, rfl⟩
  | cons instruction rest inductionHypothesis =>
      rw [run] at ran
      cases stepped : step pool instruction state with
      | error fault =>
          simp only [stepped] at ran
          cases ran
      | ok next =>
          simp only [stepped] at ran
          rcases exists_captures_of_step_ok pool instruction state next
            stepped with ⟨first, firstPaths, nextEq⟩
          rcases inductionHypothesis next ran with
            ⟨others, otherPaths, lastEq⟩
          refine ⟨first ++ others, ?_, ?_⟩
          · rw [List.map_append, firstPaths, otherPaths, List.filterMap_cons]
            cases instruction.captured? pool with
            | none => rfl
            | some path => rfl
          · rw [lastEq, nextEq, Bindings.insertAll_append]

end Machine

/-! ### Captures of accepted and of compiled programs -/

theorem length_captured_of_checkInstructions (pool : List String)
    (position : Nat) (state last : CheckState)
    (instructions : List Instruction)
    (checked :
      checkInstructions pool.length position state instructions =
        .ok last) :
    (instructions.filterMap (Instruction.captured? pool)).length =
      captureCount instructions := by
  induction instructions generalizing position state with
  | nil =>
      rfl
  | cons instruction rest inductionHypothesis =>
      rcases
        (checkInstructions_cons_ok_iff pool.length position state last
          instruction rest).mp checked with ⟨fits, restChecked⟩
      have restLength := inductionHypothesis _ _ restChecked
      unfold captureCount at restLength ⊢
      rw [List.countP_cons, ← restLength]
      by_cases isCapture : instruction.opcode = .capture
      · have usesPool : instruction.opcode.usesPool = true := by
          rw [isCapture]
          rfl
        have slotText :=
          List.getElem?_eq_getElem (fits.slot usesPool)
        simp [Instruction.captured?, isCapture, slotText]
      · simp [Instruction.captured?, isCapture]

namespace Segment

variable {pool : List String}

theorem CodedInside.captured {segments : List Segment}
    {code : List Instruction} (coded : CodedInside pool segments code) :
    code.filterMap (Instruction.captured? pool) = [] := by
  rw [List.filterMap_eq_nil_iff]
  intro instruction member
  exact if_neg (coded.opcode instruction member).2

/-- The captures in the code bind the paths of the fields. -/
theorem Coded.captured {segments : List Segment}
    {code : List Instruction} (coded : Coded pool segments code) :
    code.filterMap (Instruction.captured? pool) =
      segments.filterMap fieldPath? := by
  induction coded with
  | nil =>
      rfl
  | push segment instruction rest code pushed others inductionHypothesis =>
      rw [List.filterMap_cons, List.filterMap_cons, inductionHypothesis]
      cases pushed <;> rfl
  | field path inner rest innerCode code slot inside own others
      inductionHypothesis =>
      rw [List.filterMap_append, inside.captured, List.nil_append]
      simp [Instruction.captured?, fieldPath?, own, ← inductionHypothesis]

end Segment

namespace Program

theorem capturedPaths_compile (template : Template) :
    template.compile.capturedPaths = template.compile.fields := by
  rw [template.compile_fields]
  exact template.coded_compile.captured

/-- A match binds the captured paths in the order of their first captures. -/
theorem paths_of_match? (program : Program) (components : List String)
    (verb : String) (bindings : Bindings)
    (matched : program.match? components verb = some bindings) :
    bindings.paths = program.capturedPaths.eraseDups := by
  rw [match?_eq_some_iff, execute_ok_iff] at matched
  rcases matched with ⟨_, last, ran, _, rfl⟩
  rcases Machine.exists_captures_of_run_ok _ _ _ last ran with
    ⟨captures, pathsEq, lastEq⟩
  rw [lastEq, capturedPaths, ← pathsEq]
  exact Bindings.paths_insertAll_empty captures

theorem length_capturedPaths_of_ofFlat (flat : FlatProgram)
    (program : Program) (accepted : ofFlat flat = .ok program) :
    program.capturedPaths.length = program.fields.length := by
  have checked := check_of_ofFlat flat program accepted
  rcases (check_ok_iff program _).mp checked with
    ⟨_, last, instructionsChecked, counted, _⟩
  rw [← counted, captures_of_checkInstructions _ _ _ _ _ instructionsChecked,
    capturedPaths, length_captured_of_checkInstructions _ _ _ _ _
      instructionsChecked]
  exact (Nat.zero_add _).symm

/-- A match of a program that is read from a flat form binds the pool texts of
the captures, each path at the place of its first capture.  The program lists
as many paths as it captures, but they are those that the match binds exactly
when the captures have the same names.  In a compiled program the list is the
captured paths one by one. -/
theorem match?_paths_and_fields (flat : FlatProgram) (program : Program)
    (accepted : ofFlat flat = .ok program) (components : List String)
    (verb : String) (bindings : Bindings)
    (matched : program.match? components verb = some bindings) :
    bindings.paths = program.capturedPaths.eraseDups ∧
      program.capturedPaths.length = program.fields.length ∧
        ((∀ path, path ∈ bindings.paths ↔ path ∈ program.fields) ↔
          program.ListsCaptures) ∧
          ∀ template : Template,
            program = template.compile →
              bindings.paths = program.fields.eraseDups := by
  have paths := program.paths_of_match? components verb bindings matched
  have bound :
      ∀ path, path ∈ bindings.paths ↔ path ∈ program.capturedPaths := by
    intro path
    rw [paths]
    exact List.mem_eraseDups
  refine
    ⟨paths, length_capturedPaths_of_ofFlat flat program accepted, ?_, ?_⟩
  · unfold ListsCaptures
    constructor
    · intro same path
      exact (same path).symm.trans (bound path)
    · intro lists path
      exact (bound path).trans (lists path).symm
  · intro template compiled
    rw [paths, compiled, capturedPaths_compile]

/-- One path stands twice in the pool, and the second capture overwrites the
first. -/
def repeatedFlat : FlatProgram :=
  { version := 1
    opcodes := [1, 0, 5, 0, 3, 0, 5, 2, 4, 0, 5, 1]
    pool := ["x", "y", "x"]
    verb := ""
    fields := ["y", "x", "x"] }

def repeated : Program :=
  { version := 1
    instructions :=
      [{ opcode := .push
         operand := 0 },
        { opcode := .capture
          operand := 0 },
        { opcode := .pushRest
          operand := 0 },
        { opcode := .capture
          operand := 2 },
        { opcode := .concat
          operand := 0 },
        { opcode := .capture
          operand := 1 }]
    pool := ["x", "y", "x"]
    verb := ""
    fields := ["y", "x", "x"]
    maxStack := 1 }

theorem match?_paths_and_fields_repeated :
    ofFlat repeatedFlat = .ok repeated ∧
      repeated.match? ["a", "b", "c"] "" =
          some { entries := [("x", "b/c"), ("y", "")] } ∧
        repeated.ListsCaptures ∧
          ∀ path, path ∈ ["x", "y"] ↔ path ∈ repeated.fields := by
  have accepted : ofFlat repeatedFlat = .ok repeated := rfl
  have matched :
      repeated.match? ["a", "b", "c"] "" =
        some { entries := [("x", "b/c"), ("y", "")] } := by
    decide +kernel
  have lists : repeated.ListsCaptures := by
    intro path
    have captured : repeated.capturedPaths = ["x", "x", "y"] := rfl
    rw [captured]
    simp only [repeated, List.mem_cons, List.not_mem_nil, or_false]
    constructor
    · rintro (isY | isX | isX)
      · exact .inr (.inr isY)
      · exact .inl isX
      · exact .inl isX
    · rintro (isX | isX | isY)
      · exact .inr (.inl isX)
      · exact .inr (.inl isX)
      · exact .inl isY
  rcases
    match?_paths_and_fields repeatedFlat repeated accepted _ _ _ matched with
    ⟨_, _, sameNames, _⟩
  exact ⟨accepted, matched, lists, sameNames.mpr lists⟩

def renamedFlat : FlatProgram :=
  { version := 1
    opcodes := [1, 0, 5, 0]
    pool := ["x"]
    verb := ""
    fields := ["y"] }

def renamed : Program :=
  { version := 1
    instructions :=
      [{ opcode := .push
         operand := 0 },
        { opcode := .capture
          operand := 0 }]
    pool := ["x"]
    verb := ""
    fields := ["y"]
    maxStack := 1 }

/-- A program that is accepted can bind a path that its field list does not
have, and leave out the one that it has. -/
theorem exists_bound_path_not_listed :
    ofFlat renamedFlat = .ok renamed ∧
      ∃ bindings,
        renamed.match? ["a"] "" = some bindings ∧
          bindings.entries = [("x", "a")] ∧
            ¬ ∀ path, path ∈ bindings.paths ↔ path ∈ renamed.fields := by
  refine ⟨rfl, { entries := [("x", "a")] }, by decide +kernel, rfl, ?_⟩
  intro same
  exact absurd ((same "x").mp (by decide)) (by decide)

end Program

end HttpRouting
