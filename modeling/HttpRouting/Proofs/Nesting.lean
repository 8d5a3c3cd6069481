/-
Which templates match some request, fields inside fields included.

The code of a field joins as many values as the field has segments.  A field
among these segments has no code and pushes nothing, so the join takes a value
in its place that an earlier segment of the template left on the stack.  The
template is refused by the machine when there is no such value; otherwise the
machine binds what it finds.
-/

import HttpRouting.Proofs.Compilation
import HttpRouting.Proofs.Refusal

namespace HttpRouting

namespace Segment

/-! ### Values taken from earlier segments -/

/-- How many values the code of the segments takes that their own leaves do
not push: one for each field directly inside a field. -/
def borrowed (segments : List Segment) : Nat :=
  (segments.flatMap leaves).countP isField

/-- How many values the segments keep on the stack for those behind them. -/
def kept (segments : List Segment) : Nat :=
  segments.countP (fun segment => !segment.isField)

theorem borrowed_append (first second : List Segment) :
    borrowed (first ++ second) = borrowed first + borrowed second := by
  unfold borrowed
  rw [List.flatMap_append, List.countP_append]

theorem kept_append (first second : List Segment) :
    kept (first ++ second) = kept first + kept second :=
  List.countP_append

theorem borrowed_cons (segment : Segment) (rest : List Segment) :
    borrowed (segment :: rest) = borrowed [segment] + borrowed rest :=
  borrowed_append [segment] rest

theorem kept_cons (segment : Segment) (rest : List Segment) :
    kept (segment :: rest) = kept [segment] + kept rest :=
  kept_append [segment] rest

theorem borrowed_of_plain (segment : Segment)
    (plain : segment.isField = false) : borrowed [segment] = 0 := by
  cases segment with
  | field path segments => cases plain
  | _ => rfl

theorem borrowed_field (path : String) (segments : List Segment) :
    borrowed [.field path segments] = segments.countP isField := by
  unfold borrowed
  rw [List.flatMap_singleton]
  rfl

/-- Every segment inside a field either pushes a value or is a field. -/
theorem length_eq_kept_add (segments : List Segment) :
    segments.length = kept segments + segments.countP isField := by
  rw [List.length_eq_countP_add_countP isField, Nat.add_comm]
  unfold kept
  simp

/-- Each of the segments finds as many values kept by the segments before it
as it and they borrow. -/
def Supplied (height : Nat) (segments : List Segment) : Prop :=
  ∀ before segment, before ++ [segment] <+: segments →
    borrowed (before ++ [segment]) ≤ height + kept before

theorem supplied_nil (height : Nat) : Supplied height [] := by
  intro before segment isPrefix
  have absent := List.prefix_nil.mp isPrefix
  simp at absent

theorem supplied_cons_iff (height : Nat) (segment : Segment)
    (rest : List Segment) :
    Supplied height (segment :: rest) ↔
      borrowed [segment] ≤ height ∧
        Supplied (height - borrowed [segment] + kept [segment]) rest := by
  unfold Supplied
  constructor
  · intro supplied
    have own : borrowed [segment] ≤ height :=
      supplied [] segment ⟨rest, rfl⟩
    refine ⟨own, ?_⟩
    intro before other isPrefix
    have later :=
      supplied (segment :: before) other
        (List.cons_prefix_cons.mpr ⟨rfl, isPrefix⟩)
    rw [List.cons_append, borrowed_cons, kept_cons] at later
    omega
  · rintro ⟨own, supplied⟩ before other isPrefix
    cases before with
    | nil =>
        obtain ⟨rfl, _⟩ := List.cons_prefix_cons.mp isPrefix
        exact own
    | cons first before =>
        obtain ⟨rfl, restPrefix⟩ := List.cons_prefix_cons.mp isPrefix
        have later := supplied before other restPrefix
        rw [List.cons_append, borrowed_cons, kept_cons]
        omega

end Segment

/-! ### Heights through compiled code -/

section Heights

variable (pool : Pool) (entries : List String)

theorem leadsTo_compileSimple (segment : Segment)
    (known : (compileSimple pool segment).2.entries <+: entries)
    (height last : Nat) :
    LeadsTo entries.length (compileSimple pool segment).1.instructions height
        last ↔
      last = height + Segment.kept [segment] := by
  cases segment with
  | literal text =>
      have slotText := intern_getElem?_of_prefix pool text entries known
      obtain ⟨inPool, _⟩ := List.getElem?_eq_some_iff.mp slotText
      have fits :
          Instruction.Fits entries.length height
            { opcode := .pushLiteral, operand := (pool.intern text).1 } :=
        ⟨rfl, fun _ => inPool, Nat.zero_le _⟩
      exact and_iff_right fits
  | wildcard =>
      exact and_iff_right (.of_poolless _ _ _ rfl rfl (Nat.zero_le _))
  | deepWildcard =>
      exact and_iff_right (.of_poolless _ _ _ rfl rfl (Nat.zero_le _))
  | field path segments => exact Iff.rfl

theorem leadsTo_compileInner (segments : List Segment)
    (known : (compileInner pool segments).2.entries <+: entries)
    (height last : Nat) :
    LeadsTo entries.length (compileInner pool segments).1.instructions height
        last ↔
      last = height + Segment.kept segments := by
  induction segments generalizing pool height with
  | nil =>
      exact Iff.rfl
  | cons segment rest inductionHypothesis =>
      obtain ⟨firstKnown, restKnown⟩ :=
        prefix_of_compileInner_cons pool segment rest entries known
      simp only [compileInner, Code.append, leadsTo_append_iff,
        leadsTo_compileSimple pool entries segment firstKnown,
        exists_eq_left]
      rw [inductionHypothesis _ restKnown,
        Segment.kept_cons segment rest, Nat.add_assoc]

theorem leadsTo_captureCode (arity slot : Nat) (path : String)
    (inPool : slot < entries.length) (height last : Nat) :
    LeadsTo entries.length (captureCode arity slot path).instructions height
        last ↔
      arity ≤ height ∧ last = height - arity := by
  have captureFits :
      Instruction.Fits entries.length (height - arity + 1)
        { opcode := .capture, operand := slot } :=
    ⟨rfl, fun _ => inPool, Nat.succ_le_succ (Nat.zero_le _)⟩
  constructor
  · rintro ⟨concatFits, _, lastEq⟩
    exact ⟨concatFits.values, lastEq⟩
  · rintro ⟨enough, lastEq⟩
    exact
      ⟨.of_poolless _ _ _ rfl rfl enough, captureFits, lastEq⟩

theorem leadsTo_compileSegment (segment : Segment)
    (known : (compileSegment pool segment).2.entries <+: entries)
    (height last : Nat) :
    LeadsTo entries.length (compileSegment pool segment).1.instructions
        height last ↔
      Segment.borrowed [segment] ≤ height ∧
        last =
          height - Segment.borrowed [segment] +
            Segment.kept [segment] := by
  cases plain : segment.isField with
  | false =>
      rw [Machine.compileSegment_of_plain pool segment plain] at known ⊢
      rw [leadsTo_compileSimple pool entries segment known,
        Segment.borrowed_of_plain segment plain]
      exact (and_iff_right (Nat.zero_le height)).symm
  | true =>
      obtain ⟨path, segments, rfl⟩ := segment.exists_eq_field plain
      have innerKnown : (compileInner pool segments).2.entries <+: entries :=
        (Pool.entries_prefix_intern _ path).trans known
      have slotText :=
        intern_getElem?_of_prefix (compileInner pool segments).2 path entries
          known
      obtain ⟨inPool, _⟩ := List.getElem?_eq_some_iff.mp slotText
      have arity := Segment.length_eq_kept_add segments
      simp only [compileSegment, Code.append, leadsTo_append_iff,
        leadsTo_compileInner pool entries segments innerKnown,
        exists_eq_left]
      rw [leadsTo_captureCode entries _ _ path inPool,
        Segment.borrowed_field]
      -- A field takes back what it pushes and keeps nothing.
      change _ ↔ _ ∧ last = height - _ + 0
      omega

/-- The code of a template fits the stack exactly when no segment borrows more
than the stack holds. -/
theorem exists_leadsTo_compileSegments_iff (segments : List Segment)
    (known : (compileSegments pool segments).2.entries <+: entries)
    (height : Nat) :
    (∃ last,
      LeadsTo entries.length (compileSegments pool segments).1.instructions
        height last) ↔
      Segment.Supplied height segments := by
  induction segments generalizing pool height with
  | nil =>
      exact iff_of_true ⟨height, rfl⟩ (Segment.supplied_nil height)
  | cons segment rest inductionHypothesis =>
      obtain ⟨firstKnown, restKnown⟩ :=
        prefix_of_compileSegments_cons pool segment rest entries known
      rw [Segment.supplied_cons_iff, ← inductionHypothesis _ restKnown]
      simp only [compileSegments, Code.append, leadsTo_append_iff,
        leadsTo_compileSegment pool entries segment firstKnown]
      constructor
      · rintro ⟨last, middle, ⟨enough, rfl⟩, leads⟩
        exact ⟨enough, last, leads⟩
      · rintro ⟨enough, last, leads⟩
        exact ⟨last, _, ⟨enough, rfl⟩, leads⟩

theorem height_of_leadsTo_compileSegments (segments : List Segment)
    (known : (compileSegments pool segments).2.entries <+: entries)
    (height last : Nat)
    (leads :
      LeadsTo entries.length (compileSegments pool segments).1.instructions
        height last) :
    last + Segment.borrowed segments = height + Segment.kept segments := by
  induction segments generalizing pool height with
  | nil =>
      rw [show last = height from leads]
      rfl
  | cons segment rest inductionHypothesis =>
      obtain ⟨firstKnown, restKnown⟩ :=
        prefix_of_compileSegments_cons pool segment rest entries known
      simp only [compileSegments, Code.append, leadsTo_append_iff,
        leadsTo_compileSegment pool entries segment firstKnown] at leads
      obtain ⟨middle, ⟨enough, middleEq⟩, restLeads⟩ := leads
      have later := inductionHypothesis _ restKnown middle restLeads
      rw [Segment.borrowed_cons, Segment.kept_cons]
      omega

end Heights

/-! ### Demands of compiled code -/

/-- What the code of a segment demands; a field has no demand of its own. -/
def Segment.demand? : Segment → Option Demand
  | .literal text => some (.exactly (some text))
  | .wildcard => some .one
  | .deepWildcard => some .remaining
  | .field _ _ => none

section Demands

variable (pool : Pool) (entries : List String)

theorem demands_compileSimple (segment : Segment)
    (known : (compileSimple pool segment).2.entries <+: entries) :
    (compileSimple pool segment).1.instructions.filterMap
        (Instruction.demand? entries) =
      [segment].filterMap Segment.demand? := by
  cases segment with
  | literal text =>
      have slotText := intern_getElem?_of_prefix pool text entries known
      simp only [compileSimple, Code.one, Segment.demand?,
        Instruction.demand?, List.filterMap_cons, List.filterMap_nil,
        slotText]
  | _ => rfl

theorem demands_compileInner (segments : List Segment)
    (known : (compileInner pool segments).2.entries <+: entries) :
    (compileInner pool segments).1.instructions.filterMap
        (Instruction.demand? entries) =
      segments.filterMap Segment.demand? := by
  induction segments generalizing pool with
  | nil =>
      rfl
  | cons segment rest inductionHypothesis =>
      obtain ⟨firstKnown, restKnown⟩ :=
        prefix_of_compileInner_cons pool segment rest entries known
      simp only [compileInner, Code.append, List.filterMap_append]
      rw [demands_compileSimple pool entries segment firstKnown,
        inductionHypothesis _ restKnown, ← List.filterMap_append,
        List.singleton_append]

theorem demands_compileSegment (segment : Segment)
    (known : (compileSegment pool segment).2.entries <+: entries) :
    (compileSegment pool segment).1.instructions.filterMap
        (Instruction.demand? entries) =
      segment.leaves.filterMap Segment.demand? := by
  cases segment with
  | field path segments =>
      have innerKnown : (compileInner pool segments).2.entries <+: entries :=
        (Pool.entries_prefix_intern _ path).trans known
      simp only [compileSegment, Code.append, List.filterMap_append,
        demands_compileInner pool entries segments innerKnown, captureCode,
        Instruction.demand?, List.filterMap_cons, List.filterMap_nil,
        List.append_nil, Segment.leaves]
  | literal text =>
      exact demands_compileSimple pool entries (.literal text) known
  | wildcard => rfl
  | deepWildcard => rfl

/-- The code demands what the leaves of the template demand. -/
theorem demands_compileSegments (segments : List Segment)
    (known : (compileSegments pool segments).2.entries <+: entries) :
    (compileSegments pool segments).1.instructions.filterMap
        (Instruction.demand? entries) =
      (segments.flatMap Segment.leaves).filterMap Segment.demand? := by
  induction segments generalizing pool with
  | nil =>
      rfl
  | cons segment rest inductionHypothesis =>
      obtain ⟨firstKnown, restKnown⟩ :=
        prefix_of_compileSegments_cons pool segment rest entries known
      simp only [compileSegments, Code.append, List.filterMap_append,
        List.flatMap_cons]
      rw [demands_compileSegment pool entries segment firstKnown,
        inductionHypothesis _ restKnown]

end Demands

namespace Segment

/-! ### Demands that some request meets -/

def takesOne : Segment → Bool
  | .literal _ => true
  | .wildcard => true
  | .deepWildcard => false
  | .field _ _ => false

/-- Nothing that takes a component stands behind a deep wildcard. -/
def Satisfiable (leaves : List Segment) : Prop :=
  leaves.Pairwise (fun earlier later =>
    earlier = .deepWildcard → later.takesOne = false)

theorem satisfiable_cons_iff (leaf : Segment) (rest : List Segment)
    (different : leaf ≠ .deepWildcard) :
    Satisfiable (leaf :: rest) ↔ Satisfiable rest := by
  unfold Satisfiable
  rw [List.pairwise_cons]
  exact and_iff_right (fun _ _ same => absurd same different)

theorem satisfiable_deepWildcard_cons_iff (rest : List Segment) :
    Satisfiable (.deepWildcard :: rest) ↔
      ∀ leaf ∈ rest, leaf.takesOne = false := by
  unfold Satisfiable
  rw [List.pairwise_cons]
  constructor
  · rintro ⟨untaken, _⟩ leaf member
    exact untaken leaf member rfl
  · intro untaken
    refine ⟨fun leaf member _ => untaken leaf member, ?_⟩
    exact
      List.pairwise_of_forall_mem_list
        (fun _ _ later member _ => untaken later member)

theorem meetAll?_nil_iff (leaves : List Segment) :
    Demand.meetAll? (leaves.filterMap demand?) [] = some [] ↔
      ∀ leaf ∈ leaves, leaf.takesOne = false := by
  induction leaves with
  | nil =>
      exact iff_of_true rfl nofun
  | cons leaf rest inductionHypothesis =>
      rw [List.forall_mem_cons, ← inductionHypothesis]
      cases leaf with
      | literal text => exact iff_of_false nofun nofun
      | wildcard => exact iff_of_false nofun nofun
      | deepWildcard => exact (and_iff_right rfl).symm
      | field path segments => exact (and_iff_right rfl).symm

/-- A leaf that takes a component can be given one. -/
theorem exists_meetAll?_cons_iff (leaf : Segment)
    (single : leaf.takesOne = true) (rest : List Segment) :
    (∃ components,
      Demand.meetAll? ((leaf :: rest).filterMap demand?) components =
        some []) ↔
      ∃ components,
        Demand.meetAll? (rest.filterMap demand?) components = some [] := by
  cases leaf with
  | literal text =>
      constructor
      · rintro ⟨components, met⟩
        cases components with
        | nil =>
            cases met
        | cons component others =>
            -- Only the text of the literal itself goes on.
            change
              (if some text = some component then some others
                else none).bind _ = _ at met
            split at met
            · exact ⟨others, met⟩
            · cases met
      · rintro ⟨components, met⟩
        refine ⟨text :: components, ?_⟩
        change
          (if some text = some text then some components
            else none).bind _ = _
        rw [if_pos rfl]
        exact met
  | wildcard =>
      constructor
      · rintro ⟨components, met⟩
        cases components with
        | nil => cases met
        | cons component others => exact ⟨others, met⟩
      · rintro ⟨components, met⟩
        exact ⟨"" :: components, met⟩
  | deepWildcard => cases single
  | field path segments => cases single

theorem exists_meetAll?_iff (leaves : List Segment) :
    (∃ components,
      Demand.meetAll? (leaves.filterMap demand?) components = some []) ↔
      Satisfiable leaves := by
  induction leaves with
  | nil =>
      exact iff_of_true ⟨[], rfl⟩ .nil
  | cons leaf rest inductionHypothesis =>
      cases leaf with
      | literal text =>
          rw [exists_meetAll?_cons_iff _ rfl, inductionHypothesis,
            satisfiable_cons_iff _ rest (by simp)]
      | wildcard =>
          rw [exists_meetAll?_cons_iff _ rfl, inductionHypothesis,
            satisfiable_cons_iff _ rest (by simp)]
      | deepWildcard =>
          have takesAll (components : List String) :
              Demand.meetAll? ((deepWildcard :: rest).filterMap demand?)
                  components =
                Demand.meetAll? (rest.filterMap demand?) [] := by
            cases components <;> rfl
          simp only [takesAll, exists_const, meetAll?_nil_iff]
          exact (satisfiable_deepWildcard_cons_iff rest).symm
      | field path segments =>
          rw [satisfiable_cons_iff _ rest (by simp)]
          exact inductionHypothesis

end Segment

namespace Template

/-- A compiled template matches some request exactly when its segments find
the values they join and its leaves can be met one after the other. -/
theorem exists_match?_iff (template : Template) :
    (∃ components verb,
      (template.compile.match? components verb).isSome = true) ↔
      Segment.Supplied 0 template.segments ∧
        Segment.Satisfiable template.leaves := by
  have heights :=
    exists_leadsTo_compileSegments_iff Pool.empty template.compile.pool
      template.segments (List.prefix_refl _) 0
  have demands :
      template.compile.demands =
        template.leaves.filterMap Segment.demand? :=
    demands_compileSegments Pool.empty template.compile.pool
      template.segments (List.prefix_refl _)
  simp only [Program.match?_isSome_iff_leadsTo, Program.Accepts, demands]
  rw [← Segment.exists_meetAll?_iff, ← heights]
  constructor
  · rintro ⟨components, _, leads, _, met⟩
    exact ⟨leads, components, met⟩
  · rintro ⟨leads, components, met⟩
    exact ⟨components, template.verb, leads, rfl, met⟩

/-- A template matches no request at all exactly when one of its fields joins
more values than there are, or when a component is demanded behind a deep
wildcard.  This holds of every segment tree: a field inside a field does not
by itself keep the template from matching. -/
theorem matches_nothing_iff (template : Template) :
    (∀ components verb, template.compile.match? components verb = none) ↔
      ¬ Segment.Supplied 0 template.segments ∨
        ¬ Segment.Satisfiable template.leaves := by
  rw [← not_and_or, ← exists_match?_iff]
  simp only [not_exists, Option.not_isSome_iff_eq_none]

def borrowingTemplate : Template :=
  { segments :=
      [.literal "a", .field "outer" [.field "inner" [.wildcard]]] }

/-- The outer field has no component of its own and binds the one of the
literal in front of it. -/
theorem nested_field_binds_component_before_it :
    ¬ borrowingTemplate.Unnested ∧
      borrowingTemplate.compile.match? ["a"] "" =
        some { entries := [("outer", "a")] } := by
  decide +kernel

end Template

end HttpRouting
