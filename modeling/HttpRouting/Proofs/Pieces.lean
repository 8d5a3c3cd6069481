/-
Cutting a request into one piece for each leaf.

Read without any order of evaluation, a template asks for a way to cut the
components of a request into pieces, one for each leaf: a literal takes the
one component that equals it, a wildcard any one component, a deep wildcard
any components.  Evaluation from left to right finds such pieces.  It misses
none as long as nothing is left for leaves behind a deep wildcard.
-/

import HttpRouting.Proofs.Evaluation
import Mathlib.Data.List.Forall2

namespace HttpRouting

namespace Segment

/-- The pieces that a leaf can take. -/
inductive Takes : Segment → List String → Prop where
  | literal (text : String) : Takes (.literal text) [text]
  | wildcard (component : String) : Takes .wildcard [component]
  | deepWildcard (components : List String) :
      Takes .deepWildcard components

/-- Only a deep wildcard takes other than one component. -/
theorem Takes.length_eq_one (leaf : Segment) (piece : List String)
    (taken : leaf.Takes piece) (single : leaf ≠ .deepWildcard) :
    piece.length = 1 := by
  cases taken with
  | literal text => rfl
  | wildcard component => rfl
  | deepWildcard components => exact absurd rfl single

def pieceCaptures : Segment → List (List String) → List (String × String)
  | .field path _, pieces => [(path, slashJoin (pieces.map slashJoin))]
  | _, _ => []

def pieceCapturesEach :
    List Segment → List (List String) → List (String × String)
  | [], _ => []
  | segment :: rest, pieces =>
      segment.pieceCaptures (pieces.take segment.leaves.length) ++
        pieceCapturesEach rest (pieces.drop segment.leaves.length)

/-- Behind a deep wildcard stands no leaf, and no component is left over. -/
def LastTakesRest (leaves : List Segment) (rest : List String) : Prop :=
  ∀ before after, leaves = before ++ .deepWildcard :: after →
    after = [] ∧ rest = []

/-! ### Pieces of consecutive leaves -/

theorem forall₂_append_left {Left Right : Type}
    {Related : Left → Right → Prop} (first second : List Left)
    (rights : List Right)
    (related : List.Forall₂ Related (first ++ second) rights) :
    ∃ left right,
      rights = left ++ right ∧ List.Forall₂ Related first left ∧
        List.Forall₂ Related second right := by
  have flipped :
      List.Forall₂ (flip Related) rights (first ++ second) :=
    related.flip
  exact
    ⟨rights.take first.length, rights.drop first.length,
      (List.take_append_drop first.length rights).symm,
      (List.forall₂_take_append rights first second flipped).flip,
      (List.forall₂_drop_append rights first second flipped).flip⟩

theorem LastTakesRest.left (first second : List Segment)
    (pieces : List (List String))
    (taken : List.Forall₂ Takes second pieces) (rest : List String)
    (last : LastTakesRest (first ++ second) rest) :
    LastTakesRest first (pieces.flatten ++ rest) := by
  rintro before after rfl
  have nothing :
      after ++ second = [] ∧ rest = [] := by
    apply last before
    rw [List.append_assoc, List.cons_append]
  obtain ⟨afterNil, secondNil⟩ := List.append_eq_nil_iff.mp nothing.1
  subst second
  cases taken
  exact ⟨afterNil, nothing.2⟩

theorem LastTakesRest.right (first second : List Segment)
    (rest : List String) (last : LastTakesRest (first ++ second) rest) :
    LastTakesRest second rest := by
  rintro before after rfl
  apply last (first ++ before)
  rw [List.append_assoc]

theorem pieceCapturesEach_cons (segment : Segment) (rest : List Segment)
    (own others : List (List String))
    (arity : own.length = segment.leaves.length) :
    pieceCapturesEach (segment :: rest) (own ++ others) =
      segment.pieceCaptures own ++ pieceCapturesEach rest others := by
  rw [pieceCapturesEach, ← arity, List.take_left, List.drop_left]

theorem pieceCaptures_of_plain (segment : Segment)
    (plain : segment.isField = false) (pieces : List (List String)) :
    segment.pieceCaptures pieces = [] := by
  cases segment with
  | field path segments => cases plain
  | _ => rfl

/-! ### Evaluation finds the pieces that are there -/

theorem evaluate_of_takes (leaf : Segment) (piece rest : List String)
    (taken : leaf.Takes piece) (last : LastTakesRest [leaf] rest) :
    leaf.evaluate (piece ++ rest) =
      some
        { value := slashJoin piece
          captures := []
          remaining := rest } := by
  cases taken with
  | literal text =>
      rw [evaluate, slashJoin_singleton]
      exact if_pos rfl
  | wildcard component =>
      rw [evaluate, slashJoin_singleton]
      rfl
  | deepWildcard components =>
      have nothing : rest = [] := (last [] [] rfl).2
      rw [evaluate, nothing, List.append_nil]

theorem evaluateEach_of_takes (leaves : List Segment)
    (pieces : List (List String)) (rest : List String)
    (taken : List.Forall₂ Takes leaves pieces)
    (last : LastTakesRest leaves rest) :
    evaluateEach leaves (pieces.flatten ++ rest) =
      some
        { value := pieces.map slashJoin
          captures := []
          remaining := rest } := by
  induction taken with
  | nil =>
      rfl
  | @cons leaf piece leaves pieces headTaken tailTaken inductionHypothesis =>
      have headLast :=
        LastTakesRest.left [leaf] leaves pieces tailTaken rest last
      have tailLast := LastTakesRest.right [leaf] leaves rest last
      rw [evaluateEach_cons, List.flatten_cons, List.append_assoc,
        evaluate_of_takes leaf piece _ headTaken headLast]
      simp only [Option.bind_some]
      rw [inductionHypothesis tailLast]
      rfl

/-- A segment whose leaves can take the pieces takes them. -/
theorem evaluate_of_pieces (segment : Segment) (pieces : List (List String))
    (rest : List String) (taken : List.Forall₂ Takes segment.leaves pieces)
    (last : LastTakesRest segment.leaves rest) :
    ∃ value,
      segment.evaluate (pieces.flatten ++ rest) =
        some
          { value := value
            captures := segment.pieceCaptures pieces
            remaining := rest } := by
  cases plain : segment.isField with
  | true =>
      obtain ⟨path, segments, rfl⟩ := segment.exists_eq_field plain
      have innerEq := evaluateEach_of_takes segments pieces rest taken last
      rw [evaluate, innerEq]
      exact ⟨_, rfl⟩
  | false =>
      rw [segment.leaves_of_plain plain] at taken last
      cases taken with
      | cons headTaken tailTaken =>
          cases tailTaken
          rw [segment.pieceCaptures_of_plain plain, List.flatten_singleton]
          exact ⟨_, evaluate_of_takes segment _ rest headTaken last⟩

theorem evaluateEach_of_pieces (segments : List Segment)
    (pieces : List (List String)) (rest : List String)
    (taken : List.Forall₂ Takes (segments.flatMap leaves) pieces)
    (last : LastTakesRest (segments.flatMap leaves) rest) :
    ∃ values,
      evaluateEach segments (pieces.flatten ++ rest) =
        some
          { value := values
            captures := pieceCapturesEach segments pieces
            remaining := rest } := by
  induction segments generalizing pieces with
  | nil =>
      cases taken
      exact ⟨[], rfl⟩
  | cons segment others inductionHypothesis =>
      rw [List.flatMap_cons] at taken last
      obtain ⟨own, later, rfl, ownTaken, laterTaken⟩ :=
        forall₂_append_left segment.leaves _ pieces taken
      have ownLast := LastTakesRest.left _ _ later laterTaken rest last
      have laterLast := LastTakesRest.right _ _ rest last
      obtain ⟨value, firstEq⟩ :=
        evaluate_of_pieces segment own _ ownTaken ownLast
      obtain ⟨values, othersEq⟩ :=
        inductionHypothesis later laterTaken laterLast
      rw [evaluateEach_cons, List.flatten_append, List.append_assoc, firstEq]
      simp only [Option.bind_some]
      rw [othersEq,
        pieceCapturesEach_cons segment others own later
          ownTaken.length_eq.symm]
      exact ⟨_, rfl⟩

/-! ### What evaluation takes are pieces -/

theorem takes_of_evaluate (leaf : Segment) (plain : leaf.isField = false)
    (components : List String) (result : Evaluation String)
    (evaluated : leaf.evaluate components = some result) :
    ∃ piece,
      leaf.Takes piece ∧ components = piece ++ result.remaining ∧
        result.value = slashJoin piece := by
  have ofOne :
      ∀ component rest, components = component :: rest →
        takeOne components = some result →
          components = [component] ++ result.remaining ∧
            result.value = slashJoin [component] := by
    rintro component rest rfl taken
    cases taken
    exact ⟨rfl, (slashJoin_singleton component).symm⟩
  cases leaf with
  | literal text =>
      rw [evaluate] at evaluated
      split at evaluated
      · rename_i present
        cases components with
        | nil => cases present
        | cons component rest =>
            cases Option.some.inj present
            exact ⟨[text], .literal text, ofOne text rest rfl evaluated⟩
      · cases evaluated
  | wildcard =>
      rw [evaluate] at evaluated
      cases components with
      | nil => cases evaluated
      | cons component rest =>
          exact
            ⟨[component], .wildcard component,
              ofOne component rest rfl evaluated⟩
  | deepWildcard =>
      cases evaluated
      exact
        ⟨components, .deepWildcard components,
          (List.append_nil components).symm, rfl⟩
  | field path segments =>
      cases plain

theorem takes_of_evaluateEach (leaves : List Segment)
    (plain : ∀ leaf ∈ leaves, leaf.isField = false)
    (components : List String) (result : Evaluation (List String))
    (evaluated : evaluateEach leaves components = some result) :
    ∃ pieces,
      List.Forall₂ Takes leaves pieces ∧
        components = pieces.flatten ++ result.remaining ∧
          result.value = pieces.map slashJoin := by
  induction leaves generalizing components result with
  | nil =>
      cases evaluated
      exact ⟨[], .nil, rfl, rfl⟩
  | cons leaf rest inductionHypothesis =>
      obtain ⟨first, others, firstEq, othersEq, rfl⟩ :=
        (evaluateEach_cons_eq_some_iff leaf rest components
          result).mp evaluated
      obtain ⟨piece, headTaken, componentsEq, valueEq⟩ :=
        takes_of_evaluate leaf (plain leaf List.mem_cons_self) _ first firstEq
      obtain ⟨pieces, tailTaken, remainingEq, valuesEq⟩ :=
        inductionHypothesis
          (fun other member => plain other (List.mem_cons_of_mem leaf member))
          _ others othersEq
      refine ⟨piece :: pieces, .cons headTaken tailTaken, ?_, ?_⟩
      · rw [componentsEq, remainingEq, List.flatten_cons, List.append_assoc]
      · rw [valueEq, valuesEq, List.map_cons]

theorem pieces_of_evaluate (segment : Segment)
    (unnested : ∀ leaf ∈ segment.leaves, leaf.isField = false)
    (components : List String) (result : Evaluation String)
    (evaluated : segment.evaluate components = some result) :
    ∃ pieces,
      List.Forall₂ Takes segment.leaves pieces ∧
        components = pieces.flatten ++ result.remaining ∧
          result.captures = segment.pieceCaptures pieces := by
  cases plain : segment.isField with
  | true =>
      obtain ⟨path, segments, rfl⟩ := segment.exists_eq_field plain
      rw [evaluate] at evaluated
      cases innerEq : evaluateEach segments components with
      | none =>
          rw [innerEq] at evaluated
          cases evaluated
      | some inner =>
          rw [innerEq] at evaluated
          cases evaluated
          obtain ⟨pieces, taken, componentsEq, valueEq⟩ :=
            takes_of_evaluateEach segments unnested components inner innerEq
          refine ⟨pieces, taken, componentsEq, ?_⟩
          simp only
          rw [evaluateEach_captures_eq_nil segments unnested components inner
            innerEq, valueEq]
          rfl
  | false =>
      obtain ⟨piece, taken, componentsEq, _⟩ :=
        takes_of_evaluate segment plain components result evaluated
      refine ⟨[piece], ?_, ?_, ?_⟩
      · rw [segment.leaves_of_plain plain]
        exact .cons taken .nil
      · rw [List.flatten_singleton]
        exact componentsEq
      · rw [segment.pieceCaptures_of_plain plain]
        exact
          evaluate_captures_eq_nil segment plain components result evaluated

theorem pieces_of_evaluateEach (segments : List Segment)
    (unnested :
      ∀ segment ∈ segments, ∀ leaf ∈ segment.leaves, leaf.isField = false)
    (components : List String) (result : Evaluation (List String))
    (evaluated : evaluateEach segments components = some result) :
    ∃ pieces,
      List.Forall₂ Takes (segments.flatMap leaves) pieces ∧
        components = pieces.flatten ++ result.remaining ∧
          result.captures = pieceCapturesEach segments pieces := by
  induction segments generalizing components result with
  | nil =>
      cases evaluated
      exact ⟨[], .nil, rfl, rfl⟩
  | cons segment rest inductionHypothesis =>
      obtain ⟨first, others, firstEq, othersEq, rfl⟩ :=
        (evaluateEach_cons_eq_some_iff segment rest components
          result).mp evaluated
      obtain ⟨own, ownTaken, componentsEq, ownCaptures⟩ :=
        pieces_of_evaluate segment (unnested segment List.mem_cons_self) _
          first firstEq
      obtain ⟨later, laterTaken, remainingEq, laterCaptures⟩ :=
        inductionHypothesis
          (fun other member =>
            unnested other (List.mem_cons_of_mem segment member))
          _ others othersEq
      refine ⟨own ++ later, ?_, ?_, ?_⟩
      · rw [List.flatMap_cons]
        exact List.rel_append ownTaken laterTaken
      · rw [componentsEq, remainingEq, List.flatten_append,
          List.append_assoc]
      · simp only
        rw [ownCaptures, laterCaptures,
          pieceCapturesEach_cons segment rest own later
            ownTaken.length_eq.symm]

end Segment

namespace Template

def pieceCaptures (template : Template) (pieces : List (List String)) :
    List (String × String) :=
  Segment.pieceCapturesEach template.segments pieces

theorem evaluate_of_pieces (template : Template)
    (pieces : List (List String))
    (taken : List.Forall₂ Segment.Takes template.leaves pieces)
    (last : Segment.LastTakesRest template.leaves []) :
    template.evaluate pieces.flatten template.verb =
      some (template.pieceCaptures pieces) := by
  obtain ⟨values, evaluated⟩ :=
    Segment.evaluateEach_of_pieces template.segments pieces [] taken last
  rw [List.append_nil] at evaluated
  unfold evaluate pieceCaptures
  rw [if_pos rfl, evaluated]
  rfl

theorem pieces_of_evaluate (template : Template)
    (unnested : template.Unnested) (components : List String)
    (verb : String) (captures : List (String × String))
    (evaluated : template.evaluate components verb = some captures) :
    template.verb = verb ∧
      ∃ pieces,
        List.Forall₂ Segment.Takes template.leaves pieces ∧
          components = pieces.flatten ∧
            captures = template.pieceCaptures pieces := by
  unfold evaluate at evaluated
  split at evaluated
  · rename_i sameVerb
    split at evaluated
    · cases evaluated
    · rename_i result evaluatedEach
      split at evaluated
      · rename_i nothingLeft
        cases evaluated
        obtain ⟨pieces, taken, componentsEq, capturesEq⟩ :=
          Segment.pieces_of_evaluateEach template.segments
            (unnested.segments template) components result evaluatedEach
        rw [nothingLeft, List.append_nil] at componentsEq
        exact ⟨sameVerb, pieces, taken, componentsEq, capturesEq⟩
      · cases evaluated
  · cases evaluated

end Template

end HttpRouting
