/-
Which templates compile to valid programs.

The check can only object to the join of a field: slots, operations and the
number of captures are right in all compiled code.  It objects to the first
field at which more fields inside fields have been counted than other segments
stand before it at the top level, and a run that gets to that join ends there.
Patterns have no fields inside fields, so no route is ever refused for its
program.
-/

import HttpRouting.Proofs.Expansion
import HttpRouting.Proofs.FirstDefect
import HttpRouting.Proofs.Nesting
import HttpRouting.Table.RouteTable

namespace HttpRouting

namespace Segment

/-! ### Scanning the top level -/

/-- No more fields inside fields have been counted at a field than there are
other segments before it. -/
def FieldsSupplied (segments : List Segment) : Prop :=
  ∀ before path inner, before ++ [.field path inner] <+: segments →
    borrowed (before ++ [.field path inner]) ≤ kept before

structure FirstShort (segments before : List Segment) (path : String)
    (inner : List Segment) : Prop where
  listed : before ++ [.field path inner] <+: segments
  earlier : FieldsSupplied before
  short : kept before < borrowed (before ++ [.field path inner])

/-- Only fields take values, so it is enough to look at them. -/
theorem supplied_iff_fieldsSupplied (segments : List Segment) :
    Supplied 0 segments ↔ FieldsSupplied segments := by
  constructor
  · intro supplied before path inner listed
    have enough := supplied before (.field path inner) listed
    omega
  · intro supplied before segment listed
    rw [Nat.zero_add]
    -- Behind a segment that is no field nothing has changed but the supply.
    induction before using List.reverseRecOn generalizing segment with
    | nil =>
        cases plain : segment.isField with
        | false =>
            rw [List.nil_append, borrowed_of_plain segment plain]
            exact Nat.zero_le _
        | true =>
            obtain ⟨path, inner, rfl⟩ := segment.exists_eq_field plain
            exact supplied [] path inner listed
    | append_singleton front last inductionHypothesis =>
        cases plain : segment.isField with
        | false =>
            have enough :=
              inductionHypothesis last
                ((List.prefix_append _ _).trans listed)
            rw [borrowed_append, borrowed_of_plain segment plain, kept_append]
            omega
        | true =>
            obtain ⟨path, inner, rfl⟩ := segment.exists_eq_field plain
            exact supplied _ path inner listed

theorem fieldsSupplied_or_firstShort (segments : List Segment) :
    FieldsSupplied segments ∨
      ∃ before path inner, FirstShort segments before path inner := by
  rcases exists_first_unfit
    (fun before segment =>
      segment.isField = true →
        borrowed (before ++ [segment]) ≤ kept before) segments with
    allFit | ⟨before, segment, listed, unfit, earlier⟩
  · exact .inl (fun before path inner listed => allFit before _ listed rfl)
  · right
    rw [Classical.not_imp, Nat.not_le] at unfit
    obtain ⟨path, inner, rfl⟩ := segment.exists_eq_field unfit.1
    refine ⟨before, path, inner, listed, ?_, unfit.2⟩
    exact fun front otherPath otherInner otherListed =>
      earlier front _ otherListed rfl

theorem FirstShort.not_fieldsSupplied (segments before : List Segment)
    (path : String) (inner : List Segment)
    (first : FirstShort segments before path inner) :
    ¬ FieldsSupplied segments :=
  fun supplied =>
    Nat.not_lt.mpr (supplied before path inner first.listed) first.short

end Segment

/-! ### Captures in compiled code -/

theorem captureCount_compileSimple (pool : Pool) (segment : Segment) :
    captureCount (compileSimple pool segment).1.instructions = 0 := by
  cases segment <;> rfl

theorem captureCount_compileInner (pool : Pool) (segments : List Segment) :
    captureCount (compileInner pool segments).1.instructions = 0 := by
  induction segments generalizing pool with
  | nil =>
      rfl
  | cons segment rest inductionHypothesis =>
      simp only [compileInner, Code.append, captureCount_append,
        captureCount_compileSimple, inductionHypothesis]

theorem captureCount_compileSegment (pool : Pool) (segment : Segment) :
    captureCount (compileSegment pool segment).1.instructions =
      (compileSegment pool segment).1.fields.length := by
  cases segment with
  | field path segments =>
      simp only [compileSegment, Code.append, captureCount_append,
        captureCount_compileInner, compileInner_fields]
      rfl
  | _ => rfl

theorem captureCount_compileSegments (pool : Pool) (segments : List Segment) :
    captureCount (compileSegments pool segments).1.instructions =
      (compileSegments pool segments).1.fields.length := by
  induction segments generalizing pool with
  | nil =>
      rfl
  | cons segment rest inductionHypothesis =>
      simp only [compileSegments, Code.append, captureCount_append,
        captureCount_compileSegment, inductionHypothesis, List.length_append]

namespace Template

/-! ### Joins in compiled code -/

def codeBeforeJoin (before inner : List Segment) : List Instruction :=
  (compileSegments Pool.empty before).1.instructions ++
    (compileInner (compileSegments Pool.empty before).2 inner).1.instructions

def joinPosition (before inner : List Segment) : Nat :=
  (codeBeforeJoin before inner).length

theorem compile_at_field (template : Template) (before : List Segment)
    (path : String) (inner : List Segment)
    (listed : before ++ [.field path inner] <+: template.segments) :
    (∃ after,
      template.compile.instructions =
        codeBeforeJoin before inner ++
          { opcode := .concat
            operand := inner.length } :: after) ∧
      (compileInner (compileSegments Pool.empty before).2
        inner).2.entries <+: template.compile.pool := by
  obtain ⟨after, segmentsEq⟩ := listed
  rw [List.append_assoc, List.singleton_append] at segmentsEq
  have compiled :=
    compileSegments_append Pool.empty before (.field path inner :: after)
  rw [segmentsEq] at compiled
  constructor
  · change
      ∃ after, (compileSegments Pool.empty
        template.segments).1.instructions = _
    rw [compiled]
    simp only [compileSegments, compileSegment, Code.append, captureCode,
      codeBeforeJoin, List.append_assoc, List.cons_append,
      List.append_cancel_left_eq, List.cons.injEq, true_and, exists_eq']
  · change
      _ <+: (compileSegments Pool.empty template.segments).2.entries
    rw [compiled]
    exact
      (Pool.entries_prefix_intern _ path).trans
        (entries_prefix_compileSegments _ after)

theorem getElem?_joinPosition (template : Template) (before : List Segment)
    (path : String) (inner : List Segment)
    (listed : before ++ [.field path inner] <+: template.segments) :
    template.compile.instructions[joinPosition before inner]? =
      some
        { opcode := .concat
          operand := inner.length } := by
  obtain ⟨⟨after, instructionsEq⟩, _⟩ :=
    template.compile_at_field before path inner listed
  rw [instructionsEq]
  simp [joinPosition]

/-- The height of the stack at the join of a field whose predecessors find
their values. -/
theorem leadsTo_codeBeforeJoin (template : Template) (before : List Segment)
    (path : String) (inner : List Segment)
    (listed : before ++ [.field path inner] <+: template.segments)
    (supplied : Segment.FieldsSupplied before) :
    ∃ height,
      LeadsTo template.compile.pool.length (codeBeforeJoin before inner) 0
          height ∧
        height + Segment.borrowed before =
          Segment.kept before + Segment.kept inner := by
  obtain ⟨_, innerKnown⟩ :=
    template.compile_at_field before path inner listed
  have known :
      (compileSegments Pool.empty before).2.entries <+:
        template.compile.pool :=
    (entries_prefix_compileInner _ inner).trans innerKnown
  obtain ⟨middle, leads⟩ :=
    (exists_leadsTo_compileSegments_iff Pool.empty template.compile.pool
      before known 0).mpr
      ((Segment.supplied_iff_fieldsSupplied before).mpr supplied)
  have middleEq :=
    height_of_leadsTo_compileSegments Pool.empty template.compile.pool before
      known 0 middle leads
  refine ⟨middle + Segment.kept inner, ?_, by omega⟩
  unfold codeBeforeJoin
  rw [leadsTo_append_iff]
  exact
    ⟨middle, leads,
      (leadsTo_compileInner _ template.compile.pool inner innerKnown middle
        _).mpr rfl⟩

/-- At the first field that is short, the stack is too. -/
theorem short_of_firstShort (template : Template) (before : List Segment)
    (path : String) (inner : List Segment)
    (first : Segment.FirstShort template.segments before path inner) :
    ∃ height,
      LeadsTo template.compile.pool.length (codeBeforeJoin before inner) 0
          height ∧
        height < inner.length := by
  obtain ⟨height, leads, level⟩ :=
    template.leadsTo_codeBeforeJoin before path inner first.listed
      first.earlier
  have short := first.short
  have arity := Segment.length_eq_kept_add inner
  rw [Segment.borrowed_append, Segment.borrowed_field] at short
  exact ⟨height, leads, by omega⟩

/-! ### Validity -/

theorem validate_compile_ok_iff (template : Template) :
    template.compile.validate = .ok () ↔
      Segment.FieldsSupplied template.segments := by
  have heights :=
    exists_leadsTo_compileSegments_iff Pool.empty template.compile.pool
      template.segments (List.prefix_refl _) 0
  rw [← Segment.supplied_iff_fieldsSupplied, ← heights,
    Program.validate_ok_iff]
  simp only [Program.check_ok_iff]
  constructor
  · rintro ⟨peak, _, last, accepted, _⟩
    exact
      ⟨last.height,
        (exists_checkInstructions_ok_iff _ 0 {} _ _).mp
          ⟨last, accepted, rfl⟩⟩
  · rintro ⟨height, leads⟩
    obtain ⟨last, accepted, _⟩ :=
      (exists_checkInstructions_ok_iff template.compile.pool.length 0 {}
        template.compile.instructions height).mpr leads
    have counted : last.captures = template.compile.fields.length := by
      rw [captures_of_checkInstructions _ _ _ _ _ accepted]
      exact
        (Nat.zero_add _).trans
          (captureCount_compileSegments Pool.empty template.segments)
    exact ⟨last.peak, rfl, last, accepted, counted, rfl⟩

theorem validate_compile_of_firstShort (template : Template)
    (before : List Segment) (path : String) (inner : List Segment)
    (first : Segment.FirstShort template.segments before path inner) :
    template.compile.validate =
      .error (.stackUnderflow (joinPosition before inner)) := by
  obtain ⟨⟨after, instructionsEq⟩, _⟩ :=
    template.compile_at_field before path inner first.listed
  obtain ⟨height, leads, short⟩ :=
    template.short_of_firstShort before path inner first
  obtain ⟨middle, accepted, level⟩ :=
    (exists_checkInstructions_ok_iff template.compile.pool.length 0 {}
      (codeBeforeJoin before inner) height).mpr leads
  have refused :
      checkInstructions template.compile.pool.length 0 {}
          template.compile.instructions =
        .error (.stackUnderflow (joinPosition before inner)) := by
    rw [instructionsEq]
    apply checkInstructions_of_error _ _ _ middle _ _ _ _ accepted
    rw [Nat.zero_add]
    apply checkInstruction_of_short
    · exact nofun
    · rw [level]
      exact short
  unfold Program.validate
  rw [Program.check_of_error template.compile _ rfl refused]

theorem validate_compile_error_iff (template : Template)
    (error : ProgramError) :
    template.compile.validate = .error error ↔
      ∃ before path inner,
        Segment.FirstShort template.segments before path inner ∧
          error = .stackUnderflow (joinPosition before inner) := by
  constructor
  · intro refused
    rcases Segment.fieldsSupplied_or_firstShort template.segments with
      supplied | ⟨before, path, inner, first⟩
    · rw [(template.validate_compile_ok_iff).mpr supplied] at refused
      cases refused
    · refine ⟨before, path, inner, first, ?_⟩
      rw [template.validate_compile_of_firstShort before path inner first]
        at refused
      exact (Except.error.inj refused).symm
  · rintro ⟨before, path, inner, first, rfl⟩
    exact template.validate_compile_of_firstShort before path inner first

theorem Unnested.fieldsSupplied (template : Template)
    (unnested : template.Unnested) :
    Segment.FieldsSupplied template.segments := by
  intro before path inner listed
  have none :
      Segment.borrowed (before ++ [.field path inner]) = 0 := by
    unfold Segment.borrowed
    rw [List.countP_eq_zero]
    intro leaf member
    obtain ⟨segment, inListed, inLeaves⟩ := List.mem_flatMap.mp member
    rw [unnested.segments template segment (listed.subset inListed) leaf
      inLeaves]
    exact Bool.false_ne_true
  rw [none]
  exact Nat.zero_le _

theorem validate_compile_of_unnested (template : Template)
    (unnested : template.Unnested) :
    template.compile.validate = .ok () :=
  (template.validate_compile_ok_iff).mpr (unnested.fieldsSupplied template)

theorem validate_compile_of_parse (pattern : String) (template : Template)
    (parsed : Template.parse pattern = .ok template) :
    template.compile.validate = .ok () :=
  template.validate_compile_of_unnested
    ((wellFormed_of_parse pattern template parsed).unnested template)

end Template

/-! ### Registered programs -/

theorem Route.build_ne_program (name : String) (method : Method)
    (pattern routeName : String) (source : ProgramError) :
    Route.build name method pattern ≠ .error (.program routeName source) := by
  intro refused
  unfold Route.build at refused
  split at refused
  · cases refused
  · rename_i template parsed
    simp only [Template.validate_compile_of_parse pattern template parsed]
      at refused
    cases refused

namespace RouteTable

theorem register_ne_program (table : RouteTable) (name : String)
    (method : Method) (pattern routeName : String) (source : ProgramError) :
    table.register name method pattern ≠
      .error (.program routeName source) := by
  intro refused
  unfold register at refused
  split at refused
  · cases refused
  · split at refused
    · split at refused
      · rename_i error failed
        cases refused
        exact Route.build_ne_program name method pattern _ _ failed
      · cases refused
    · cases refused

theorem registerEntries_ne_program (table : RouteTable)
    (entries : List RouteEntry) (routeName : String)
    (source : ProgramError) :
    table.registerEntries entries ≠ .error (.program routeName source) := by
  induction entries generalizing table with
  | nil =>
      exact nofun
  | cons entry rest inductionHypothesis =>
      intro refused
      rw [registerEntries, registerEntry] at refused
      cases supported : Method.ofName? entry.method with
      | none =>
          simp only [supported] at refused
          cases refused
      | some method =>
          simp only [supported] at refused
          cases registered :
              table.register entry.name method entry.pattern with
          | error error =>
              simp only [registered] at refused
              cases refused
              exact table.register_ne_program _ _ _ _ _ registered
          | ok next =>
              simp only [registered] at refused
              exact inductionHypothesis next refused

theorem ofConfig_ne_program (config : RoutesConfig) (routeName : String)
    (source : ProgramError) :
    ofConfig config ≠ .error (.program routeName source) :=
  registerEntries_ne_program empty config.routes routeName source

end RouteTable

namespace Template

/-- A compiled template is valid exactly when every top-level field finds, for
each field inside a field up to it, another top-level segment before it.
Otherwise the check tells the join of the first field that does not, and it
never tells anything else.  Templates without fields inside fields are valid,
so no pattern that is read is refused for its program. -/
theorem validate_compile_iff_fieldsSupplied :
    (∀ template : Template,
      (template.compile.validate = .ok () ↔
        Segment.FieldsSupplied template.segments) ∧
      (∀ error,
        template.compile.validate = .error error ↔
          ∃ before path inner,
            Segment.FirstShort template.segments before path inner ∧
              error = .stackUnderflow (joinPosition before inner)) ∧
      (∀ before path inner,
        before ++ [.field path inner] <+: template.segments →
          template.compile.instructions[joinPosition before inner]? =
            some
              { opcode := .concat
                operand := inner.length }) ∧
      (template.Unnested → template.compile.validate = .ok ())) ∧
    (∀ pattern template,
      Template.parse pattern = .ok template →
        template.compile.validate = .ok ()) ∧
    (∀ (table : RouteTable) name method pattern routeName source,
      table.register name method pattern ≠
        .error (.program routeName source)) ∧
    (∀ config routeName source,
      RouteTable.ofConfig config ≠ .error (.program routeName source)) := by
  refine
    ⟨?_, validate_compile_of_parse, RouteTable.register_ne_program,
      RouteTable.ofConfig_ne_program⟩
  intro template
  exact
    ⟨template.validate_compile_ok_iff, template.validate_compile_error_iff,
      template.getElem?_joinPosition, template.validate_compile_of_unnested⟩

/-- The first field takes the value of the literal in front of it, so that
there is none left for the second one. -/
def shortTemplate : Template :=
  { segments :=
      [.literal "a", .field "x" [.wildcard, .field "u" []],
        .field "y" [.literal "a", .field "v" [], .wildcard]] }

def shelvesTemplate : Template :=
  { segments := [.literal "v1", .field "name" [.literal "shelves", .wildcard]]
    verb := "undo" }

theorem validate_compile_iff_fieldsSupplied_short :
    shortTemplate.compile.validate = .error (.stackUnderflow 6) ∧
      shortTemplate.compile.instructions[6]? =
          some
            { opcode := .concat
              operand := 3 } ∧
        Template.parse "/v1/\x7bname=shelves/*\x7d:undo" =
            .ok shelvesTemplate ∧
          shelvesTemplate.compile.validate = .ok () := by
  obtain ⟨templates, parsedValid, _⟩ := validate_compile_iff_fieldsSupplied
  obtain ⟨_, refused, joins, _⟩ := templates shortTemplate
  let before := shortTemplate.segments.take 2
  have listed :
      before ++ [.field "y" [.literal "a", .field "v" [], .wildcard]] <+:
        shortTemplate.segments :=
    List.prefix_refl _
  have earlier : Segment.FieldsSupplied before :=
    (templates { segments := before }).1.mp (by decide +kernel)
  have parsed :
      Template.parse "/v1/\x7bname=shelves/*\x7d:undo" =
        .ok shelvesTemplate := by
    decide +kernel
  exact
    ⟨(refused _).mpr
        ⟨before, "y", _, ⟨listed, earlier, by decide⟩, by decide +kernel⟩,
      joins before "y" _ listed, parsed, parsedValid _ _ parsed⟩

/-! ### Runs of refused programs -/

theorem execute_eq_stackUnderflow_iff (template : Template)
    (before : List Segment) (path : String) (inner : List Segment)
    (first : Segment.FirstShort template.segments before path inner)
    (components : List String) (verb : String) :
    template.compile.execute components verb = .error .stackUnderflow ↔
      template.verb = verb ∧
        (Demand.meetAll?
          ((codeBeforeJoin before inner).filterMap
            (Instruction.demand? template.compile.pool))
          components).isSome = true := by
  obtain ⟨⟨after, instructionsEq⟩, _⟩ :=
    template.compile_at_field before path inner first.listed
  obtain ⟨height, leads, short⟩ :=
    template.short_of_firstShort before path inner first
  have answer :=
    Machine.answers_of_leadsTo template.compile.pool
      (codeBeforeJoin before inner) (Machine.State.start components) height
      leads
  have ran :=
    Machine.run_of_short template.compile.pool (codeBeforeJoin before inner)
      after inner.length (Machine.State.start components) height leads short
  rw [← instructionsEq] at ran
  unfold Program.execute
  rw [ran]
  change Machine.Answers height (Demand.meetAll? _ components) _ at answer
  by_cases sameVerb : template.verb = verb
  · rw [if_pos (show template.compile.verb = verb from sameVerb),
      and_iff_right sameVerb]
    generalize Demand.meetAll? _ components = left at *
    generalize
      Machine.run template.compile.pool (codeBeforeJoin before inner)
        (Machine.State.start components) = reached at *
    cases answer with
    | goesOn next level => exact iff_of_true rfl rfl
    | missingComponent => exact iff_of_false nofun nofun
    | literalMismatch => exact iff_of_false nofun nofun
  · rw [if_neg (show ¬ template.compile.verb = verb from sameVerb)]
    exact iff_of_false nofun (fun both => sameVerb both.1)

/-- A template whose program the check refuses matches no request.  The run of
a request with its verb ends at the very join that the check tells as soon as
the components meet all demands in front of it. -/
theorem refused_template_matches_nothing (template : Template)
    (error : ProgramError)
    (refused : template.compile.validate = .error error)
    (components : List String) (verb : String) :
    template.compile.match? components verb = none ∧
      ∃ position,
        error = .stackUnderflow position ∧
          (template.compile.execute components verb =
              .error .stackUnderflow ↔
            template.verb = verb ∧
              (Demand.meetAll?
                ((template.compile.instructions.take position).filterMap
                  (Instruction.demand? template.compile.pool))
                components).isSome = true) := by
  obtain ⟨before, path, inner, first, rfl⟩ :=
    (template.validate_compile_error_iff error).mp refused
  constructor
  · rw [← Option.not_isSome_iff_eq_none]
    intro matched
    have matchedSome :=
      (template.exists_match?_iff).mp ⟨components, verb, matched⟩
    exact
      first.not_fieldsSupplied _ before path inner
        ((Segment.supplied_iff_fieldsSupplied _).mp matchedSome.1)
  · obtain ⟨⟨after, instructionsEq⟩, _⟩ :=
      template.compile_at_field before path inner first.listed
    have front :
        template.compile.instructions.take (joinPosition before inner) =
          codeBeforeJoin before inner := by
      rw [instructionsEq]
      exact List.take_left
    refine ⟨joinPosition before inner, rfl, ?_⟩
    rw [front]
    exact
      template.execute_eq_stackUnderflow_iff before path inner first
        components verb

theorem refused_template_matches_nothing_short :
    shortTemplate.compile.validate = .error (.stackUnderflow 6) ∧
      shortTemplate.compile.match? ["a", "b", "a", "c"] "" = none ∧
        shortTemplate.compile.execute ["a", "b", "a", "c"] "" =
          .error .stackUnderflow := by
  have refused :
      shortTemplate.compile.validate = .error (.stackUnderflow 6) := by
    decide +kernel
  obtain ⟨unmatched, position, same, ends⟩ :=
    refused_template_matches_nothing shortTemplate _ refused
      ["a", "b", "a", "c"] ""
  cases same
  exact ⟨refused, unmatched, ends.mpr ⟨rfl, by decide +kernel⟩⟩

end Template

end HttpRouting
