/-
A bound value is a piece of the request.

The machine never joins components of the request as such: it joins values, and
the value of a deep wildcard is a join already.  Joined twice, the components
that a field takes still come out as one join of them, but for one case.  A deep
wildcard that takes no component has an empty value, and behind other segments
this value adds a slash at the end.
-/

import HttpRouting.Proofs.Backtracking
import Mathlib.Data.List.Infix

namespace HttpRouting

/-! ### Joins of joins -/

theorem slashJoin_append (first second : List String)
    (firstInhabited : first ≠ []) (secondInhabited : second ≠ []) :
    slashJoin (first ++ second) =
      slashJoin first ++ "/" ++ slashJoin second := by
  induction first with
  | nil =>
      exact absurd rfl firstInhabited
  | cons part rest inductionHypothesis =>
      cases rest with
      | nil =>
          cases second with
          | nil => exact absurd rfl secondInhabited
          | cons head tail =>
              rw [List.singleton_append, slashJoin_cons_cons,
                slashJoin_singleton]
      | cons next others =>
          have restEq := inductionHypothesis (List.cons_ne_nil next others)
          rw [List.cons_append] at restEq
          rw [List.cons_append, List.cons_append, slashJoin_cons_cons,
            restEq, slashJoin_cons_cons]
          simp only [String.append_assoc]

theorem flatten_ne_nil (pieces : List (List String)) (some : pieces ≠ [])
    (inhabited : ∀ piece ∈ pieces, piece ≠ []) : pieces.flatten ≠ [] := by
  obtain ⟨piece, member⟩ := List.exists_mem_of_ne_nil pieces some
  exact fun empty =>
    inhabited piece member (List.flatten_eq_nil_iff.mp empty piece member)

theorem slashJoin_map_slashJoin (pieces : List (List String))
    (inhabited : ∀ piece ∈ pieces, piece ≠ []) :
    slashJoin (pieces.map slashJoin) = slashJoin pieces.flatten := by
  induction pieces with
  | nil =>
      rfl
  | cons piece rest inductionHypothesis =>
      have restInhabited : ∀ other ∈ rest, other ≠ [] :=
        fun other member => inhabited other (List.mem_cons_of_mem piece member)
      by_cases single : rest = []
      · subst rest
        simp
      · have mapped : rest.map slashJoin ≠ [] := by simpa using single
        rw [List.map_cons, ← List.singleton_append,
          slashJoin_append _ _ (List.cons_ne_nil _ _) mapped,
          slashJoin_singleton, inductionHypothesis restInhabited,
          List.flatten_cons,
          slashJoin_append _ _ (inhabited piece List.mem_cons_self)
            (flatten_ne_nil rest single restInhabited)]

namespace Segment

/-- The text of a field whose segments take the pieces: their components
joined.  Where the last piece is empty and others stand before it, a slash
follows. -/
def fieldText (pieces : List (List String)) : String :=
  if 1 < pieces.length ∧ pieces.getLast? = some [] then
    slashJoin pieces.flatten ++ "/"
  else
    slashJoin pieces.flatten

/-- Pieces that are joined one by one and then with each other, when none but
the last can be empty. -/
theorem slashJoin_map_slashJoin_eq_fieldText (pieces : List (List String))
    (inhabited : ∀ piece ∈ pieces.dropLast, piece ≠ []) :
    slashJoin (pieces.map slashJoin) = fieldText pieces := by
  unfold fieldText
  rcases List.eq_nil_or_concat' pieces with rfl | ⟨before, last, rfl⟩
  · rfl
  · rw [List.dropLast_concat] at inhabited
    rw [List.getLast?_concat, List.length_append, List.length_singleton]
    by_cases empty : last = []
    · subst last
      by_cases alone : before = []
      · subst before
        rfl
      · have longer : 1 < before.length + 1 :=
          Nat.succ_lt_succ (List.length_pos_iff.mpr alone)
        have mapped : before.map slashJoin ≠ [] := by simpa using alone
        rw [if_pos ⟨longer, rfl⟩, List.map_append, List.map_singleton,
          slashJoin_append _ _ mapped (List.cons_ne_nil _ _),
          slashJoin_map_slashJoin before inhabited]
        simp
    · have nonempty : ¬ (1 < before.length + 1 ∧ some last = some []) :=
        fun both => empty (Option.some.inj both.2)
      rw [if_neg nonempty, slashJoin_map_slashJoin]
      intro piece member
      rcases List.mem_append.mp member with inBefore | isLast
      · exact inhabited piece inBefore
      · rw [List.mem_singleton.mp isLast]
        exact empty

/-! ### The pieces of one field -/

/-- Before the last leaf no deep wildcard stands, so no piece is empty. -/
theorem Takes.ne_nil_of_mem_dropLast (leaves : List Segment)
    (pieces : List (List String)) (rest : List String)
    (taken : List.Forall₂ Takes leaves pieces)
    (last : LastTakesRest leaves rest) :
    ∀ piece ∈ pieces.dropLast, piece ≠ [] := by
  induction taken with
  | nil =>
      exact nofun
  | @cons leaf piece leaves pieces headTaken tailTaken inductionHypothesis =>
      cases tailTaken with
      | nil =>
          exact nofun
      | cons nextTaken othersTaken =>
          have single : leaf ≠ .deepWildcard := by
            rintro rfl
            exact List.cons_ne_nil _ _ (last [] _ rfl).1
          have one := headTaken.length_eq_one leaf piece single
          intro other member
          rw [List.dropLast_cons_cons] at member
          rcases List.mem_cons.mp member with atHead | inRest
          · rw [atHead]
            exact List.ne_nil_of_length_pos (by omega)
          · exact
              inductionHypothesis (LastTakesRest.right [leaf] _ rest last)
                other inRest

theorem exists_last_field (segments : List Segment) (path : String)
    (member : path ∈ segments.filterMap fieldPath?) :
    ∃ before inner after,
      segments = before ++ .field path inner :: after ∧
        path ∉ after.filterMap fieldPath? := by
  induction segments with
  | nil =>
      cases member
  | cons segment rest inductionHypothesis =>
      by_cases later : path ∈ rest.filterMap fieldPath?
      · obtain ⟨before, inner, after, rfl, last⟩ := inductionHypothesis later
        exact ⟨segment :: before, inner, after, rfl, last⟩
      · obtain ⟨field, fieldMember, isPath⟩ := List.mem_filterMap.mp member
        rcases List.mem_cons.mp fieldMember with rfl | inRest
        · cases field with
          | field own inner =>
              cases isPath
              exact ⟨[], inner, rest, rfl, later⟩
          | _ => cases isPath
        · exact
            absurd (List.mem_filterMap.mpr ⟨field, inRest, isPath⟩) later

end Segment

theorem Bindings.mem_paths_of_get? (bindings : Bindings)
    (path value : String) (bound : bindings.get? path = some value) :
    path ∈ bindings.paths := by
  unfold get? at bound
  obtain ⟨entry, found, _⟩ := Option.map_eq_some_iff.mp bound
  have samePath := List.find?_some found
  exact
    List.mem_map.mpr
      ⟨entry, List.mem_of_find?_eq_some found, beq_iff_eq.mp samePath⟩

namespace Template

/-- The leaves of a field take consecutive components, and all but the last of
them take some. -/
theorem Splits.ownPieces (template : Template)
    (wellFormed : template.WellFormed) (components : List String)
    (pieces : List (List String))
    (splits : template.Splits components pieces)
    (before : List Segment) (path : String) (inner after : List Segment)
    (segmentsEq :
      template.segments = before ++ .field path inner :: after) :
    (Segment.ownPieces before (.field path inner) pieces).flatten <:+:
        components ∧
      ∀ piece ∈
          (Segment.ownPieces before (.field path inner) pieces).dropLast,
        piece ≠ [] := by
  have taken := splits.taken
  have last := wellFormed.lastTakesRest template
  unfold leaves at taken last
  rw [segmentsEq, List.flatMap_append, List.flatMap_cons] at taken last
  obtain ⟨front, others, rfl, frontTaken, othersTaken⟩ :=
    Segment.forall₂_append_left _ _ pieces taken
  obtain ⟨own, back, rfl, ownTaken, backTaken⟩ :=
    Segment.forall₂_append_left _ _ others othersTaken
  have ownEq :
      Segment.ownPieces before (.field path inner) (front ++ (own ++ back)) =
        own := by
    unfold Segment.ownPieces
    rw [frontTaken.length_eq, List.drop_left, ownTaken.length_eq,
      List.take_left]
  have ownLast :=
    Segment.LastTakesRest.left _ _ back backTaken []
      (Segment.LastTakesRest.right _ _ [] last)
  rw [ownEq]
  constructor
  · rw [← splits.whole, List.flatten_append, List.flatten_append]
    exact ⟨front.flatten, back.flatten, by simp⟩
  · exact Segment.Takes.ne_nil_of_mem_dropLast _ own _ ownTaken ownLast

/-- A bound value comes from the components that the segments of the last field
of its path take, a contiguous run of the request.  It is their join, with a
slash behind it where a deep wildcard behind other segments takes none. -/
theorem bound_value_eq_fieldText (pattern : String) (template : Template)
    (parsed : Template.parse pattern = .ok template)
    (components : List String) (verb : String) (bindings : Bindings)
    (matched : template.compile.match? components verb = some bindings) :
    ∃ pieces,
      (∀ other, template.Splits components other ↔ other = pieces) ∧
        ∀ path value, bindings.get? path = some value →
          ∃ before inner after own,
            template.segments = before ++ .field path inner :: after ∧
              path ∉ after.filterMap Segment.fieldPath? ∧
                own =
                    Segment.ownPieces before (.field path inner) pieces ∧
                  own.flatten <:+: components ∧
                    value = Segment.fieldText own := by
  have wellFormed := wellFormed_of_parse pattern template parsed
  have isMatched :
      (template.compile.match? components verb).isSome = true := by
    rw [matched]
    rfl
  obtain ⟨rfl, pieces, splits⟩ :=
    splits_of_match? template wellFormed components verb isMatched
  refine ⟨pieces, ?_, ?_⟩
  · intro other
    constructor
    · exact fun otherSplits =>
        Splits.unique template wellFormed components other pieces otherSplits
          splits
    · rintro rfl
      exact splits
  · intro path value bound
    rw [match?_of_splits template wellFormed components pieces splits]
      at matched
    cases matched
    have isField : path ∈ template.fieldPaths := by
      have member := Bindings.mem_paths_of_get? _ path value bound
      rw [Bindings.paths_ofCaptures, pieceCaptures_paths] at member
      exact List.mem_eraseDups.mp member
    obtain ⟨before, inner, after, segmentsEq, last⟩ :=
      Segment.exists_last_field template.segments path isField
    obtain ⟨contiguous, inhabited⟩ :=
      Splits.ownPieces template wellFormed components pieces splits before
        path inner after segmentsEq
    rw [get?_pieceCaptures template pieces before path inner after segmentsEq
      last, Segment.slashJoin_map_slashJoin_eq_fieldText _ inhabited] at bound
    exact
      ⟨before, inner, after, _, segmentsEq, last, rfl, contiguous,
        (Option.some.inj bound).symm⟩

def suffixTemplate : Template :=
  { segments :=
      [.literal "a", .field "id" [.wildcard, .literal "b"],
        .field "id" [.literal "c", .deepWildcard]]
    verb := "undo" }

theorem bound_value_eq_fieldText_suffix :
    Template.parse "/a/\x7bid=*/b\x7d/\x7bid=c/**\x7d:undo" =
        .ok suffixTemplate ∧
      suffixTemplate.compile.match? ["a", "x", "b", "c"] "undo" =
          some { entries := [("id", "c/")] } ∧
        ∃ pieces,
          suffixTemplate.Splits ["a", "x", "b", "c"] pieces ∧
            ∃ before inner after own,
              suffixTemplate.segments =
                  before ++ .field "id" inner :: after ∧
                "id" ∉ after.filterMap Segment.fieldPath? ∧
                  own =
                      Segment.ownPieces before (.field "id" inner) pieces ∧
                    own.flatten <:+: ["a", "x", "b", "c"] ∧
                      "c/" = Segment.fieldText own := by
  have parsed :
      Template.parse "/a/\x7bid=*/b\x7d/\x7bid=c/**\x7d:undo" =
        .ok suffixTemplate := by
    decide +kernel
  have matched :
      suffixTemplate.compile.match? ["a", "x", "b", "c"] "undo" =
        some { entries := [("id", "c/")] } := by
    decide +kernel
  obtain ⟨pieces, unique, values⟩ :=
    bound_value_eq_fieldText _ suffixTemplate parsed _ _ _ matched
  exact
    ⟨parsed, matched, pieces, (unique pieces).mpr rfl,
      values "id" "c/" rfl⟩

/-- A deep wildcard that takes nothing adds a slash that the request does not
hold: no run of its components is joined to the bound value. -/
theorem exists_value_not_joined :
    ¬ ∀ (pattern : String) (template : Template) (components : List String)
        (verb : String) (bindings : Bindings) (path value : String),
      Template.parse pattern = .ok template →
        template.compile.match? components verb = some bindings →
          bindings.get? path = some value →
            ∃ run, run <:+: components ∧ value = slashJoin run := by
  intro everyValue
  have parsed :
      Template.parse "/\x7bname=a/**\x7d" =
        .ok
          { segments := [.field "name" [.literal "a", .deepWildcard]] } := by
    decide +kernel
  have matched :
      (Template.compile
          { segments :=
              [.field "name" [.literal "a", .deepWildcard]] }).match?
          ["a"] "" =
        some { entries := [("name", "a/")] } := by
    decide +kernel
  obtain ⟨run, contiguous, valueEq⟩ :=
    everyValue _ _ _ _ _ "name" "a/" parsed matched rfl
  rcases (List.infix_singleton_iff run "a").mp contiguous with rfl | rfl
  · exact absurd valueEq (by decide +kernel)
  · exact absurd valueEq (by decide +kernel)

end Template

end HttpRouting
