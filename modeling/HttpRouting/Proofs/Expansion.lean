/-
Expanding a pattern and routing the path.

A pattern is expanded by filling each wildcard with a component and each deep
wildcard with components.  Splitting the path that the expansion writes and
running the compiled template gives the filled texts back, except for one
disagreement about colons: a literal may hold a colon inside braces or before
an empty deep wildcard, and when it comes to stand last in a path without a
verb, the path is cut there.
-/

import HttpRouting.Proofs.Compilation
import HttpRouting.Proofs.PathSplitting
import HttpRouting.Proofs.Pieces
import HttpRouting.Proofs.WellFormed

namespace HttpRouting

open Grammar

def Filling (text : String) : Prop :=
  Request.Component text ∧ ':' ∉ text.toList

namespace Segment

inductive Fills : Segment → List String → Prop where
  | literal (text : String) : Fills (.literal text) [text]
  | wildcard (text : String) (filling : Filling text) :
      Fills .wildcard [text]
  | deepWildcard (texts : List String)
      (fillings : ∀ text ∈ texts, Filling text) : Fills .deepWildcard texts

theorem Fills.takes (leaf : Segment) (piece : List String)
    (filled : leaf.Fills piece) : leaf.Takes piece := by
  cases filled with
  | literal text => exact .literal text
  | wildcard text filling => exact .wildcard text
  | deepWildcard _ fillings => exact .deepWildcard piece

theorem Fills.components (leaf : Segment) (piece : List String)
    (filled : leaf.Fills piece) (wellFormed : leaf.WellFormedInner) :
    ∀ text ∈ piece, Request.Component text := by
  intro text member
  cases filled with
  | literal written =>
      rw [List.mem_singleton] at member
      subst text
      have isLiteral : Literal written.toList := wellFormed
      refine ⟨?_, ?_⟩
      · rintro rfl
        exact isLiteral.1 rfl
      · intro slash
        exact isLiteral.ne_of_mem _ '/' slash '/' (by decide) rfl
  | wildcard written filling =>
      rw [List.mem_singleton] at member
      subst text
      exact filling.1
  | deepWildcard texts fillings =>
      exact (fillings text member).1

/-- A last component that holds a colon is the text of a literal, and the
leaves behind it are filled with nothing. -/
theorem exists_literal_of_colon (leaves : List Segment)
    (pieces : List (List String))
    (filled : List.Forall₂ Fills leaves pieces) (last : String)
    (lastEq : pieces.flatten.getLast? = some last)
    (colon : ':' ∈ last.toList) :
    ∃ before after beforePieces afterPieces,
      leaves = before ++ .literal last :: after ∧
        pieces = beforePieces ++ [last] :: afterPieces ∧
          List.Forall₂ Fills before beforePieces ∧
            afterPieces.flatten = [] := by
  induction filled with
  | nil =>
      cases lastEq
  | @cons leaf piece leaves pieces headFilled tailFilled
      inductionHypothesis =>
      rw [List.flatten_cons] at lastEq
      by_cases nothing : pieces.flatten = []
      · rw [nothing, List.append_nil] at lastEq
        have member := List.mem_of_getLast? lastEq
        cases headFilled with
        | literal text =>
            rw [List.mem_singleton] at member
            subst text
            exact ⟨[], leaves, [], pieces, rfl, rfl, .nil, nothing⟩
        | wildcard text filling =>
            rw [List.mem_singleton] at member
            subst text
            exact absurd colon filling.2
        | deepWildcard texts fillings =>
            exact absurd colon (fillings last member).2
      · rw [List.getLast?_append_of_ne_nil _ nothing] at lastEq
        obtain ⟨before, after, beforePieces, afterPieces, rfl, rfl,
          beforeFilled, afterNil⟩ := inductionHypothesis lastEq
        exact
          ⟨leaf :: before, after, piece :: beforePieces, afterPieces, rfl,
            rfl, .cons headFilled beforeFilled, afterNil⟩

theorem Takes.flatten_length (leaves : List Segment)
    (pieces : List (List String))
    (taken : List.Forall₂ Takes leaves pieces)
    (single : .deepWildcard ∉ leaves) :
    pieces.flatten.length = leaves.length := by
  induction taken with
  | nil =>
      rfl
  | @cons leaf piece leaves pieces headTaken tailTaken
      inductionHypothesis =>
      have tailSingle : Segment.deepWildcard ∉ leaves :=
        fun member => single (List.mem_cons_of_mem leaf member)
      have headSingle : leaf ≠ .deepWildcard := by
        rintro rfl
        exact single List.mem_cons_self
      have one := headTaken.length_eq_one leaf piece headSingle
      rw [List.flatten_cons, List.length_append, one,
        inductionHypothesis tailSingle, List.length_cons, Nat.add_comm]

end Segment

namespace Template

theorem WellFormed.leaves (template : Template)
    (wellFormed : template.WellFormed) :
    ∀ leaf ∈ template.leaves, leaf.WellFormedInner := by
  intro leaf member
  obtain ⟨segment, segmentMember, leafMember⟩ := List.mem_flatMap.mp member
  have segmentWellFormed := wellFormed.segments segment segmentMember
  cases segment with
  | field path segments =>
      exact segmentWellFormed.2.2 leaf leafMember
  | literal text =>
      rw [List.mem_singleton.mp leafMember]
      exact segmentWellFormed
  | wildcard =>
      rw [List.mem_singleton.mp leafMember]
      trivial
  | deepWildcard =>
      rw [List.mem_singleton.mp leafMember]
      trivial

theorem WellFormed.unnested (template : Template)
    (wellFormed : template.WellFormed) : template.Unnested := by
  intro leaf member
  have leafWellFormed := wellFormed.leaves template leaf member
  cases leaf with
  | field path segments => cases leafWellFormed
  | _ => rfl

theorem WellFormed.lastTakesRest (template : Template)
    (wellFormed : template.WellFormed) :
    Segment.LastTakesRest template.leaves [] :=
  fun before after leavesEq =>
    ⟨wellFormed.deepWildcardLast before after leavesEq, rfl⟩

theorem pieceCaptures_paths (template : Template)
    (pieces : List (List String)) :
    (template.pieceCaptures pieces).map Prod.fst = template.fieldPaths := by
  unfold pieceCaptures fieldPaths
  induction template.segments generalizing pieces with
  | nil =>
      rfl
  | cons segment rest inductionHypothesis =>
      rw [Segment.pieceCapturesEach, List.map_append, inductionHypothesis,
        List.filterMap_cons]
      cases segment <;> rfl

theorem components_of_fills (template : Template)
    (wellFormed : template.WellFormed) (pieces : List (List String))
    (filled : List.Forall₂ Segment.Fills template.leaves pieces) :
    ∀ text ∈ pieces.flatten, Request.Component text := by
  intro text member
  obtain ⟨piece, pieceMember, textMember⟩ := List.mem_flatten.mp member
  obtain ⟨leaf, leafMember, leafFilled⟩ :=
    forall₂_right_of_mem filled piece pieceMember
  exact
    leafFilled.components leaf piece
      (wellFormed.leaves template leaf leafMember) text textMember

/-! ### Routing an expansion -/

def matchPath? (template : Template) (path : String) : Option Bindings :=
  template.compile.match? (Request.split path).components
    (Request.split path).verb

theorem matchPath?_of_split (template : Template)
    (wellFormed : template.WellFormed) (pieces : List (List String))
    (filled : List.Forall₂ Segment.Fills template.leaves pieces)
    (path : String)
    (split :
      Request.split path =
        { components := pieces.flatten
          verb := template.verb }) :
    template.matchPath? path =
      some (Bindings.ofCaptures (template.pieceCaptures pieces)) := by
  have taken : List.Forall₂ Segment.Takes template.leaves pieces :=
    filled.imp Segment.Fills.takes
  unfold matchPath?
  rw [split, match?_compile template (wellFormed.unnested template),
    evaluate_of_pieces template pieces taken
      (wellFormed.lastTakesRest template),
    Option.map_some, Bindings.insertAll_empty]

/-- Written without a verb, an expansion whose last component holds a colon
behind the first character is cut there, and the literal at the end does not
match. -/
theorem matchPath?_of_colon (template : Template)
    (wellFormed : template.WellFormed) (pieces : List (List String))
    (filled : List.Forall₂ Segment.Fills template.leaves pieces)
    (colon : ¬ Request.EndsPlain pieces.flatten) :
    template.matchPath? (Request.path pieces.flatten "") = none := by
  obtain ⟨front, last, cut, verb, componentsEq, colonInLast, different,
    splitEq⟩ :=
    Request.split_path_of_colon pieces.flatten
      (components_of_fills template wellFormed pieces filled) colon
  have lastEq : pieces.flatten.getLast? = some last := by
    rw [componentsEq, List.getLast?_concat]
  obtain ⟨before, after, beforePieces, afterPieces, leavesEq, rfl,
    beforeFilled, afterNil⟩ :=
    Segment.exists_literal_of_colon template.leaves pieces filled last lastEq
      colonInLast
  -- Every leaf before the literal takes one component, in any run.
  have single : Segment.deepWildcard ∉ before := by
    intro member
    obtain ⟨early, late, rfl⟩ := List.append_of_mem member
    have nothing :=
      wellFormed.deepWildcardLast early (late ++ .literal last :: after) (by
        rw [leavesEq, List.append_assoc, List.cons_append])
    simp at nothing
  have frontLength : front.length = before.length := by
    have lengths := congrArg List.length componentsEq
    have beforeLength :=
      Segment.Takes.flatten_length before beforePieces
        (beforeFilled.imp Segment.Fills.takes) single
    rw [List.flatten_append, List.flatten_cons, afterNil] at lengths
    simp only [List.length_append, List.length_cons, List.length_nil]
      at lengths
    omega
  unfold matchPath?
  rw [splitEq, match?_compile template (wellFormed.unnested template)]
  cases evaluated : template.evaluate (front ++ [cut]) verb with
  | none =>
      rfl
  | some captures =>
      exfalso
      obtain ⟨_, otherPieces, taken, cutEq, _⟩ :=
        pieces_of_evaluate template (wellFormed.unnested template) _ verb
          captures evaluated
      rw [leavesEq] at taken
      obtain ⟨left, right, rfl, leftTaken, rightTaken⟩ :=
        Segment.forall₂_append_left before _ otherPieces taken
      cases rightTaken with
      | cons literalTaken _ =>
          cases literalTaken with
          | literal _ =>
              have leftLength :=
                Segment.Takes.flatten_length before left leftTaken single
              rw [List.flatten_append, List.flatten_cons] at cutEq
              have sides :=
                List.append_inj cutEq (by rw [frontLength, leftLength])
              have same : cut = last := (List.cons.inj sides.2).1
              exact different same

/-- The expansion of an accepted pattern is routed back to the filled texts,
and binds exactly the field paths, unless it has no verb and its last
component holds a colon behind the first character.  Then it is not matched
at all. -/
theorem matchPath?_expansion (pattern : String) (template : Template)
    (parsed : Template.parse pattern = .ok template)
    (pieces : List (List String))
    (filled : List.Forall₂ Segment.Fills template.leaves pieces)
    (verbHasComponents : template.verb ≠ "" → pieces.flatten ≠ []) :
    template.matchPath? (Request.path pieces.flatten template.verb) =
        (if template.verb = "" ∧ ¬ Request.EndsPlain pieces.flatten then
          none
        else
          some (Bindings.ofCaptures (template.pieceCaptures pieces))) ∧
      (Bindings.ofCaptures (template.pieceCaptures pieces)).paths =
        template.fieldPaths.eraseDups := by
  have wellFormed := wellFormed_of_parse pattern template parsed
  have areComponents :=
    components_of_fills template wellFormed pieces filled
  constructor
  · by_cases noVerb : template.verb = ""
    · by_cases plain : Request.EndsPlain pieces.flatten
      · rw [if_neg (fun both => both.2 plain), noVerb]
        apply matchPath?_of_split template wellFormed pieces filled
        rw [Request.split_path_of_endsPlain _ areComponents plain, noVerb]
      · rw [if_pos ⟨noVerb, plain⟩, noVerb]
        exact matchPath?_of_colon template wellFormed pieces filled plain
    · rw [if_neg (fun both => noVerb both.1)]
      apply matchPath?_of_split template wellFormed pieces filled
      obtain ⟨isLiteral, noColon⟩ :=
        wellFormed.verb.resolve_left noVerb
      have noSlash : '/' ∉ template.verb.toList := fun slash =>
        isLiteral.ne_of_mem _ '/' slash '/' (by decide) rfl
      exact
        Request.split_path_of_verb pieces.flatten template.verb areComponents
          (verbHasComponents noVerb) noVerb noSlash noColon
  · rw [← Bindings.insertAll_empty, Bindings.paths_insertAll_empty,
      pieceCaptures_paths]

def colonTemplate : Template :=
  { segments :=
      [.field "name" [.literal "a:b", .wildcard], .literal "c:d",
        .field "rest" [.deepWildcard]]
    verb := "undo" }

theorem matchPath?_expansion_colons :
    Template.parse "/\x7bname=a:b/*\x7d/c:d/\x7brest=**\x7d:undo" =
        .ok colonTemplate ∧
      List.Forall₂ Segment.Fills colonTemplate.leaves
          [["a:b"], ["k"], ["c:d"], []] ∧
        colonTemplate.matchPath? "/a:b/k/c:d:undo" =
          some { entries := [("name", "a:b/k"), ("rest", "")] } := by
  have parsed :
      Template.parse "/\x7bname=a:b/*\x7d/c:d/\x7brest=**\x7d:undo" =
        .ok colonTemplate := by
    decide +kernel
  have filled :
      List.Forall₂ Segment.Fills colonTemplate.leaves
        [["a:b"], ["k"], ["c:d"], []] :=
    .cons (.literal "a:b")
      (.cons (.wildcard "k" (by unfold Filling Request.Component; decide))
        (.cons (.literal "c:d") (.cons (.deepWildcard [] nofun) .nil)))
  have routed :=
    (matchPath?_expansion _ colonTemplate parsed _ filled (by decide)).1
  refine ⟨parsed, filled, routed.trans ?_⟩
  decide +kernel

/-- A literal with a colon inside braces is not matched by its own text. -/
theorem exists_expansion_not_matched :
    ¬ ∀ (pattern : String) (template : Template)
        (pieces : List (List String)),
      Template.parse pattern = .ok template →
        List.Forall₂ Segment.Fills template.leaves pieces →
          (template.verb ≠ "" → pieces.flatten ≠ []) →
            ∃ bindings,
              template.matchPath?
                  (Request.path pieces.flatten template.verb) =
                some bindings ∧
              bindings.paths = template.fieldPaths.eraseDups := by
  intro everyExpansion
  have parsed :
      Template.parse "/\x7bname=a:b\x7d" =
        .ok { segments := [.field "name" [.literal "a:b"]] } := by
    decide +kernel
  obtain ⟨bindings, matched, _⟩ :=
    everyExpansion _ _ [["a:b"]] parsed (.cons (.literal "a:b") .nil)
      (fun _ => List.cons_ne_nil _ _)
  have unmatched :
      Template.matchPath?
          { segments := [.field "name" [.literal "a:b"]] }
          (Request.path [["a:b"]].flatten "") = none := by
    decide +kernel
  rw [unmatched] at matched
  cases matched

end Template

end HttpRouting
