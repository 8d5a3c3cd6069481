/-
Matching without backtracking misses no match.

A request can be read against a pattern without any order of evaluation: some
way is asked for to cut its components into pieces, one for each leaf.  In a
pattern that reading accepts a deep wildcard stands last, so there is at most
one such way, the machine finds it when it is there, and the values of the
fields are joined from its pieces.
-/

import HttpRouting.Proofs.Expansion

namespace HttpRouting

namespace Segment

/-! ### Pieces are unique -/

/-- Only a deep wildcard leaves a choice, and at the end it takes the rest. -/
theorem pieces_unique (leaves : List Segment)
    (last : LastTakesRest leaves []) (left right : List (List String))
    (leftTaken : List.Forall₂ Takes leaves left)
    (rightTaken : List.Forall₂ Takes leaves right)
    (same : left.flatten = right.flatten) : left = right := by
  induction leftTaken generalizing right with
  | nil =>
      cases rightTaken
      rfl
  | @cons leaf piece leaves pieces headTaken tailTaken inductionHypothesis =>
      cases rightTaken with
      | @cons _ otherPiece _ otherPieces otherHead otherTail =>
          by_cases deep : leaf = .deepWildcard
          · subst leaf
            have nothingBehind : leaves = [] := (last [] leaves rfl).1
            subst nothingBehind
            cases tailTaken
            cases otherTail
            simpa using same
          · rw [List.flatten_cons, List.flatten_cons] at same
            have lengths : piece.length = otherPiece.length := by
              rw [headTaken.length_eq_one leaf piece deep,
                otherHead.length_eq_one leaf otherPiece deep]
            obtain ⟨sameHead, sameTail⟩ := List.append_inj same lengths
            have tailLast := LastTakesRest.right [leaf] leaves [] last
            rw [sameHead,
              inductionHypothesis tailLast otherPieces otherTail sameTail]

/-! ### Captures of the pieces -/

theorem pieceCapturesEach_append (first second : List Segment)
    (pieces : List (List String)) :
    pieceCapturesEach (first ++ second) pieces =
      pieceCapturesEach first pieces ++
        pieceCapturesEach second
          (pieces.drop (first.flatMap leaves).length) := by
  induction first generalizing pieces with
  | nil =>
      rfl
  | cons segment rest inductionHypothesis =>
      rw [List.cons_append, pieceCapturesEach, inductionHypothesis,
        pieceCapturesEach, List.drop_drop, List.append_assoc,
        List.flatMap_cons, List.length_append]

theorem pieceCapturesEach_paths (segments : List Segment)
    (pieces : List (List String)) :
    (pieceCapturesEach segments pieces).map Prod.fst =
      segments.filterMap fieldPath? :=
  Template.pieceCaptures_paths { segments := segments } pieces

/-- The pieces of the leaves of a segment that has the given segments before
it. -/
def ownPieces (before : List Segment) (segment : Segment)
    (pieces : List (List String)) : List (List String) :=
  (pieces.drop (before.flatMap leaves).length).take segment.leaves.length

end Segment

namespace Template

/-- The pieces are consecutive, one for each leaf, and make up the
components. -/
structure Splits (template : Template) (components : List String)
    (pieces : List (List String)) : Prop where
  taken : List.Forall₂ Segment.Takes template.leaves pieces
  whole : pieces.flatten = components

theorem Splits.unique (template : Template)
    (wellFormed : template.WellFormed) (components : List String)
    (left right : List (List String))
    (leftSplits : template.Splits components left)
    (rightSplits : template.Splits components right) : left = right :=
  Segment.pieces_unique template.leaves (wellFormed.lastTakesRest template)
    left right leftSplits.taken rightSplits.taken
    (leftSplits.whole.trans rightSplits.whole.symm)

theorem match?_of_splits (template : Template)
    (wellFormed : template.WellFormed) (components : List String)
    (pieces : List (List String))
    (splits : template.Splits components pieces) :
    template.compile.match? components template.verb =
      some (Bindings.ofCaptures (template.pieceCaptures pieces)) := by
  rw [match?_compile template (wellFormed.unnested template),
    ← splits.whole,
    evaluate_of_pieces template pieces splits.taken
      (wellFormed.lastTakesRest template),
    Option.map_some, Bindings.insertAll_empty]

theorem splits_of_match? (template : Template)
    (wellFormed : template.WellFormed) (components : List String)
    (verb : String)
    (matched : (template.compile.match? components verb).isSome = true) :
    verb = template.verb ∧ ∃ pieces, template.Splits components pieces := by
  have unnested := wellFormed.unnested template
  rw [match?_compile template unnested, Option.isSome_map] at matched
  obtain ⟨captures, evaluated⟩ := Option.isSome_iff_exists.mp matched
  obtain ⟨sameVerb, pieces, taken, componentsEq, _⟩ :=
    pieces_of_evaluate template unnested components verb captures evaluated
  exact ⟨sameVerb.symm, pieces, taken, componentsEq.symm⟩

theorem get?_pieceCaptures (template : Template)
    (pieces : List (List String))
    (before : List Segment) (path : String) (inner after : List Segment)
    (segmentsEq : template.segments = before ++ .field path inner :: after)
    (last : path ∉ after.filterMap Segment.fieldPath?) :
    (Bindings.ofCaptures (template.pieceCaptures pieces)).get? path =
      some
        (slashJoin
          ((Segment.ownPieces before (.field path inner) pieces).map
            slashJoin)) := by
  rw [Bindings.get?_ofCaptures]
  unfold pieceCaptures
  rw [segmentsEq, Segment.pieceCapturesEach_append,
    Segment.pieceCapturesEach, Segment.pieceCaptures, List.singleton_append]
  apply Bindings.lastValue?_of_not_mem
  rw [Segment.pieceCapturesEach_paths]
  exact last

/-- A pattern matches exactly the requests that carry its verb and can be cut
into pieces for its leaves.  Then the pieces are the only ones, and every
field, the last one of its path, is bound to the joined texts of its own. -/
theorem parsed_match?_iff_exists_splits (pattern : String)
    (template : Template) (parsed : Template.parse pattern = .ok template)
    (components : List String) (verb : String) :
    ((template.compile.match? components verb).isSome = true ↔
      verb = template.verb ∧
        ∃ pieces, template.Splits components pieces) ∧
    (∀ pieces, template.Splits components pieces →
      (∀ other, template.Splits components other → other = pieces) ∧
        ∃ bindings,
          template.compile.match? components template.verb =
              some bindings ∧
            bindings.paths = template.fieldPaths.eraseDups ∧
              ∀ before path inner after,
                template.segments =
                    before ++ .field path inner :: after →
                  path ∉ after.filterMap Segment.fieldPath? →
                    bindings.get? path =
                      some
                        (slashJoin
                          ((Segment.ownPieces before (.field path inner)
                              pieces).map slashJoin))) := by
  have wellFormed := wellFormed_of_parse pattern template parsed
  constructor
  · constructor
    · exact splits_of_match? template wellFormed components verb
    · rintro ⟨rfl, pieces, splits⟩
      rw [match?_of_splits template wellFormed components pieces splits]
      rfl
  · intro pieces splits
    constructor
    · intro other otherSplits
      exact
        Splits.unique template wellFormed components other pieces otherSplits
          splits
    · refine
        ⟨_, match?_of_splits template wellFormed components pieces splits,
          ?_, ?_⟩
      · rw [Bindings.paths_ofCaptures, pieceCaptures_paths]
      · exact get?_pieceCaptures template pieces

def repeatedTemplate : Template :=
  { segments :=
      [.literal "a", .field "id" [.wildcard],
        .field "id" [.literal "b", .deepWildcard]]
    verb := "undo" }

theorem parsed_match?_iff_exists_splits_repeated :
    Template.parse "/a/\x7bid\x7d/\x7bid=b/**\x7d:undo" =
        .ok repeatedTemplate ∧
      repeatedTemplate.Splits ["a", "x", "b", "c", "d"]
        [["a"], ["x"], ["b"], ["c", "d"]] ∧
        ∃ bindings,
          repeatedTemplate.compile.match? ["a", "x", "b", "c", "d"] "undo" =
              some bindings ∧
            bindings.get? "id" = some "b/c/d" := by
  have parsed :
      Template.parse "/a/\x7bid\x7d/\x7bid=b/**\x7d:undo" =
        .ok repeatedTemplate := by
    decide +kernel
  have splits :
      repeatedTemplate.Splits ["a", "x", "b", "c", "d"]
        [["a"], ["x"], ["b"], ["c", "d"]] :=
    { taken :=
        .cons (.literal "a")
          (.cons (.wildcard "x")
            (.cons (.literal "b")
              (.cons (.deepWildcard ["c", "d"]) .nil)))
      whole := rfl }
  obtain ⟨_, bindings, matched, _, values⟩ :=
    (parsed_match?_iff_exists_splits _ repeatedTemplate parsed
      ["a", "x", "b", "c", "d"] "undo").2 _ splits
  refine ⟨parsed, splits, bindings, matched, ?_⟩
  rw [values [.literal "a", .field "id" [.wildcard]] "id"
    [.literal "b", .deepWildcard] [] rfl (by simp)]
  decide +kernel

end Template

end HttpRouting
