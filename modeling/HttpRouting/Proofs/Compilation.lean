/-
A compiled template means what its segment tree means.

The code of a segment is run with any pool that extends the pool compiling it
left behind, on any stack.  It then does to the components and the captures
what the evaluation of the segment does.  A field leaves the stack as it was;
any other segment leaves its value on top, and at the top level nothing ever
takes it from there.
-/

import HttpRouting.Matching.Machine
import HttpRouting.Program.Compiler
import HttpRouting.Proofs.Captures
import HttpRouting.Proofs.Evaluation

namespace HttpRouting

/-! ### The pool grows while it is threaded through -/

theorem entries_prefix_compileSimple (pool : Pool) (segment : Segment) :
    pool.entries <+: (compileSimple pool segment).2.entries := by
  cases segment with
  | literal text => exact pool.entries_prefix_intern text
  | wildcard => exact List.prefix_refl pool.entries
  | deepWildcard => exact List.prefix_refl pool.entries
  | field path segments => exact List.prefix_refl pool.entries

theorem entries_prefix_compileInner (pool : Pool) (segments : List Segment) :
    pool.entries <+: (compileInner pool segments).2.entries := by
  induction segments generalizing pool with
  | nil =>
      exact List.prefix_refl pool.entries
  | cons segment rest inductionHypothesis =>
      exact (entries_prefix_compileSimple pool segment).trans
        (inductionHypothesis (compileSimple pool segment).2)

theorem entries_prefix_compileSegment (pool : Pool) (segment : Segment) :
    pool.entries <+: (compileSegment pool segment).2.entries := by
  cases segment with
  | literal text => exact entries_prefix_compileSimple pool (.literal text)
  | wildcard => exact List.prefix_refl pool.entries
  | deepWildcard => exact List.prefix_refl pool.entries
  | field path segments =>
      exact (entries_prefix_compileInner pool segments).trans
        (Pool.entries_prefix_intern _ path)

theorem entries_prefix_compileSegments (pool : Pool)
    (segments : List Segment) :
    pool.entries <+: (compileSegments pool segments).2.entries := by
  induction segments generalizing pool with
  | nil =>
      exact List.prefix_refl pool.entries
  | cons segment rest inductionHypothesis =>
      exact (entries_prefix_compileSegment pool segment).trans
        (inductionHypothesis (compileSegment pool segment).2)

/-- Entries that extend the pool of a list extend the pools of its head and of
its tail. -/
theorem prefix_of_compileInner_cons (pool : Pool) (segment : Segment)
    (rest : List Segment) (entries : List String)
    (known :
      (compileInner pool (segment :: rest)).2.entries <+: entries) :
    (compileSimple pool segment).2.entries <+: entries ∧
      (compileInner (compileSimple pool segment).2 rest).2.entries <+:
        entries :=
  ⟨(entries_prefix_compileInner _ rest).trans known, known⟩

theorem prefix_of_compileSegments_cons (pool : Pool) (segment : Segment)
    (rest : List Segment) (entries : List String)
    (known :
      (compileSegments pool (segment :: rest)).2.entries <+: entries) :
    (compileSegment pool segment).2.entries <+: entries ∧
      (compileSegments (compileSegment pool segment).2 rest).2.entries <+:
        entries :=
  ⟨(entries_prefix_compileSegments _ rest).trans known, known⟩

namespace Machine

/-! ### Runs that succeed -/

theorem run_append_toOption (entries : List String)
    (first second : List Instruction) (state : State) :
    (run entries (first ++ second) state).toOption =
      (run entries first state).toOption.bind (fun middle =>
        (run entries second middle).toOption) := by
  rw [run_append]
  cases run entries first state with
  | error fault => rfl
  | ok middle => rfl

theorem run_singleton (entries : List String) (instruction : Instruction)
    (state : State) :
    run entries [instruction] state = step entries instruction state := by
  rw [run]
  cases step entries instruction state with
  | error fault => rfl
  | ok next => rfl

theorem run_compileSimple (pool : Pool) (entries : List String)
    (segment : Segment) (plain : segment.isField = false)
    (known : (compileSimple pool segment).2.entries <+: entries)
    (state : State) :
    (run entries (compileSimple pool segment).1.instructions
        state).toOption =
      (segment.evaluate state.remaining).map (fun result =>
        { state with
          stack := result.value :: state.stack
          remaining := result.remaining }) := by
  cases segment with
  | literal text =>
      have slotText := intern_getElem?_of_prefix pool text entries known
      simp only [compileSimple, Code.one, run_singleton, step, pushLiteral,
        Segment.evaluate, slotText]
      cases state.remaining with
      | nil =>
          rfl
      | cons component rest =>
          by_cases same : component = text
          · simp [same, Segment.takeOne, Except.toOption]
          · simp [same, Except.toOption]
  | wildcard =>
      simp only [compileSimple, Code.one, run_singleton, step, push,
        Segment.evaluate]
      cases state.remaining with
      | nil => rfl
      | cons component rest => rfl
  | deepWildcard =>
      rfl
  | field path segments =>
      cases plain

theorem run_compileInner (pool : Pool) (entries : List String)
    (segments : List Segment)
    (plain : ∀ segment ∈ segments, segment.isField = false)
    (known : (compileInner pool segments).2.entries <+: entries)
    (state : State) :
    (run entries (compileInner pool segments).1.instructions
        state).toOption =
      (Segment.evaluateEach segments state.remaining).map (fun result =>
        { state with
          stack := result.value.reverse ++ state.stack
          remaining := result.remaining }) := by
  induction segments generalizing pool state with
  | nil =>
      rfl
  | cons segment rest inductionHypothesis =>
      have firstPlain : segment.isField = false :=
        plain segment List.mem_cons_self
      have restPlain : ∀ other ∈ rest, other.isField = false :=
        fun other member => plain other (List.mem_cons_of_mem segment member)
      have restKnown :
          (compileInner (compileSimple pool segment).2 rest).2.entries <+:
            entries := known
      have firstKnown :
          (compileSimple pool segment).2.entries <+: entries :=
        (entries_prefix_compileInner _ rest).trans restKnown
      simp only [compileInner, Code.append]
      rw [run_append_toOption,
        run_compileSimple pool entries segment firstPlain firstKnown,
        Segment.evaluateEach_cons]
      cases segment.evaluate state.remaining with
      | none =>
          rfl
      | some first =>
          rw [Option.map_some, Option.bind_some, Option.bind_some,
            inductionHypothesis _ restPlain restKnown]
          cases Segment.evaluateEach rest first.remaining with
          | none => rfl
          | some others => simp

/-- Joining and binding the topmost values, the last of them on top. -/
theorem run_captureCode (entries : List String) (slot : Nat) (path : String)
    (slotText : entries[slot]? = some path) (values : List String)
    (state : State) :
    run entries (captureCode values.length slot path).instructions
        { state with stack := values.reverse ++ state.stack } =
      .ok
        { state with
          bindings := state.bindings.insert path (slashJoin values) } := by
  have enough : ¬ (values.reverse ++ state.stack).length < values.length := by
    rw [List.length_append, List.length_reverse]
    omega
  have taken :
      ((values.reverse ++ state.stack).take values.length).reverse =
        values := by
    rw [List.take_left' List.length_reverse, List.reverse_reverse]
  have dropped :
      (values.reverse ++ state.stack).drop values.length = state.stack :=
    List.drop_left' List.length_reverse
  simp only [captureCode, run, step, concat, if_neg enough, taken, dropped,
    capture, slotText]

/-- What a segment leaves on the stack at the top level. -/
def leftOnStack (segment : Segment) (value : String) : List String :=
  if segment.isField then [] else [value]

theorem compileSegment_of_plain (pool : Pool) (segment : Segment)
    (plain : segment.isField = false) :
    compileSegment pool segment = compileSimple pool segment := by
  cases segment with
  | field path segments => cases plain
  | _ => rfl

theorem run_compileSegment (pool : Pool) (entries : List String)
    (segment : Segment)
    (unnested : ∀ leaf ∈ segment.leaves, leaf.isField = false)
    (known : (compileSegment pool segment).2.entries <+: entries)
    (state : State) :
    (run entries (compileSegment pool segment).1.instructions
        state).toOption =
      (segment.evaluate state.remaining).map (fun result =>
        { stack := leftOnStack segment result.value ++ state.stack
          remaining := result.remaining
          bindings := state.bindings.insertAll result.captures }) := by
  cases plain : segment.isField with
  | false =>
      rw [compileSegment_of_plain pool segment plain] at known ⊢
      rw [run_compileSimple pool entries segment plain known]
      cases evaluated : segment.evaluate state.remaining with
      | none =>
          rfl
      | some result =>
          have nothing :=
            Segment.evaluate_captures_eq_nil segment plain _ result evaluated
          simp [leftOnStack, plain, nothing, Bindings.insertAll]
  | true =>
      obtain ⟨path, segments, rfl⟩ := segment.exists_eq_field plain
      have innerKnown : (compileInner pool segments).2.entries <+: entries :=
        (Pool.entries_prefix_intern _ path).trans known
      have slotText :=
        intern_getElem?_of_prefix (compileInner pool segments).2 path entries
          known
      simp only [compileSegment, Code.append]
      rw [run_append_toOption,
        run_compileInner pool entries segments unnested innerKnown,
        Segment.evaluate]
      cases evaluated : Segment.evaluateEach segments state.remaining with
      | none =>
          rfl
      | some inner =>
          have arity :=
            Segment.evaluateEach_value_length segments _ inner evaluated
          have nothing :=
            Segment.evaluateEach_captures_eq_nil segments unnested _ inner
              evaluated
          have captured :=
            run_captureCode entries _ path slotText inner.value
              { state with remaining := inner.remaining }
          rw [arity] at captured
          rw [Option.map_some, Option.bind_some, captured]
          simp [leftOnStack, Segment.isField, nothing, Bindings.insertAll,
            Except.toOption]

/-- What later code and the answer of a run can tell of a state: values left
on the stack are never looked at again. -/
def State.visible (state : State) : List String × Bindings :=
  (state.remaining, state.bindings)

theorem run_compileSegments (pool : Pool) (entries : List String)
    (segments : List Segment)
    (unnested :
      ∀ segment ∈ segments, ∀ leaf ∈ segment.leaves, leaf.isField = false)
    (known : (compileSegments pool segments).2.entries <+: entries)
    (state : State) :
    ((run entries (compileSegments pool segments).1.instructions
        state).toOption).map State.visible =
      (Segment.evaluateEach segments state.remaining).map (fun result =>
        (result.remaining, state.bindings.insertAll result.captures)) := by
  induction segments generalizing pool state with
  | nil =>
      rfl
  | cons segment rest inductionHypothesis =>
      have restKnown :
          (compileSegments (compileSegment pool segment).2 rest).2.entries
            <+: entries := known
      have firstKnown :
          (compileSegment pool segment).2.entries <+: entries :=
        (entries_prefix_compileSegments _ rest).trans restKnown
      have firstUnnested := unnested segment List.mem_cons_self
      have restUnnested :
          ∀ other ∈ rest, ∀ leaf ∈ other.leaves, leaf.isField = false :=
        fun other member =>
          unnested other (List.mem_cons_of_mem segment member)
      simp only [compileSegments, Code.append]
      rw [run_append_toOption,
        run_compileSegment pool entries segment firstUnnested firstKnown,
        Segment.evaluateEach_cons]
      cases segment.evaluate state.remaining with
      | none =>
          rfl
      | some first =>
          rw [Option.map_some, Option.bind_some, Option.bind_some,
            inductionHypothesis _ restUnnested restKnown]
          cases Segment.evaluateEach rest first.remaining with
          | none => rfl
          | some others => simp [Bindings.insertAll_append]

end Machine

namespace Program

theorem match?_eq_of_visible (program : Program) (components : List String)
    (verb : String) :
    program.match? components verb =
      if program.verb = verb then
        (((Machine.run program.pool program.instructions
            (Machine.State.start components)).toOption).map
              Machine.State.visible).bind (fun seen =>
                if seen.1 = [] then some seen.2 else none)
      else
        none := by
  unfold match? execute
  by_cases sameVerb : program.verb = verb
  · rw [if_pos sameVerb, if_pos sameVerb]
    cases
      Machine.run program.pool program.instructions
        (Machine.State.start components) with
    | error fault =>
        rfl
    | ok state =>
        cases state with
        | mk stack remaining bindings =>
            cases remaining with
            | nil => rfl
            | cons component rest => rfl
  · rw [if_neg sameVerb, if_neg sameVerb]

end Program

namespace Template

/-- A run of the compiled template records the captures of the evaluation one
by one. -/
theorem match?_compile (template : Template) (unnested : template.Unnested)
    (components : List String) (verb : String) :
    template.compile.match? components verb =
      (template.evaluate components verb).map Bindings.empty.insertAll := by
  have codeRun :=
    Machine.run_compileSegments Pool.empty
      (compileSegments Pool.empty template.segments).2.entries
      template.segments (unnested.segments template) (List.prefix_refl _)
      (Machine.State.start components)
  rw [Program.match?_eq_of_visible]
  unfold evaluate
  by_cases sameVerb : template.verb = verb
  · have programVerb : template.compile.verb = verb := sameVerb
    rw [if_pos sameVerb, if_pos programVerb]
    simp only [compile, Program.assemble]
    rw [codeRun]
    simp only [Machine.State.start]
    cases Segment.evaluateEach template.segments components with
    | none =>
        rfl
    | some result =>
        by_cases taken : result.remaining = []
        · simp [taken]
        · simp [taken]
  · have programVerb : ¬ template.compile.verb = verb := sameVerb
    rw [if_neg sameVerb, if_neg programVerb]
    rfl

/-- The compiled template accepts exactly the requests that its segment tree
accepts, and binds the paths of their captures in the order of the first
captures to the values of the last ones. -/
theorem match?_compile_eq_evaluate (template : Template)
    (unnested : template.Unnested) (components : List String)
    (verb : String) :
    template.compile.match? components verb =
      (template.evaluate components verb).map Bindings.ofCaptures := by
  rw [match?_compile template unnested components verb]
  congr 1
  funext captures
  exact Bindings.insertAll_empty captures

/-- One path as a literal and as two fields, a field without segments, and a
deep wildcard before the end. -/
def overlappingTemplate : Template :=
  { segments :=
      [.literal "id", .field "id" [.literal "a", .wildcard],
        .field "none" [], .field "id" [.deepWildcard], .deepWildcard] }

theorem match?_compile_eq_evaluate_overlapping :
    overlappingTemplate.Unnested ∧
      overlappingTemplate.compile.match? ["id", "a", "x", "c", "d"] "" =
        some { entries := [("id", "c/d"), ("none", "")] } := by
  have unnested : overlappingTemplate.Unnested := by
    decide
  refine ⟨unnested, ?_⟩
  rw [match?_compile_eq_evaluate overlappingTemplate unnested]
  decide +kernel

end Template

end HttpRouting
