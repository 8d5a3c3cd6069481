/-
Rendering and reading invert each other on well-formed templates.

The text of a well-formed template spells it, so reading the text gives the
template back.  Reading never returns any other template, so a template that
is not well-formed is never read from its own text.
-/

import HttpRouting.Proofs.WellFormed
import HttpRouting.Template.Pattern

namespace HttpRouting

open Grammar

theorem toList_slashJoin_eq_joined (parts : List String) :
    (slashJoin parts).toList = joined (parts.map String.toList) :=
  toList_slashJoin parts

namespace Segment

theorem spellsSimple_render (segment : Segment)
    (wellFormed : segment.WellFormedInner) :
    SpellsSimple segment segment.render.toList := by
  cases segment with
  | literal text =>
      rw [render]
      exact .literal text wellFormed
  | wildcard =>
      exact .wildcard
  | deepWildcard =>
      exact .deepWildcard
  | field path segments =>
      cases wellFormed

theorem render_field (path : String) (segments : List Segment)
    (inhabited : segments ≠ []) :
    (Segment.field path segments).render.toList =
      '{' :: (path.toList ++
        '=' :: (joined (segments.map (fun inner => inner.render.toList)) ++
          ['}'])) := by
  cases segments with
  | nil =>
      exact absurd rfl inhabited
  | cons first rest =>
      rw [render, renderEach_eq_map, ← List.map_cons]
      simp only [String.toList_append, toList_slashJoin_eq_joined,
        List.map_map]
      simp [Function.comp_def]

theorem spells_render (segment : Segment)
    (wellFormed : segment.WellFormed) :
    Spells segment segment.render.toList := by
  cases segment with
  | field path segments =>
      obtain ⟨isPath, inhabited, innerWellFormed⟩ := wellFormed
      rw [render_field path segments inhabited]
      apply Spells.field path isPath segments _ inhabited
      rw [List.forall₂_map_right_iff, List.forall₂_same]
      intro inner member
      exact spellsSimple_render inner (innerWellFormed inner member)
  | literal text =>
      exact .simple _ _ (spellsSimple_render (.literal text) wellFormed)
  | wildcard =>
      exact .simple _ _ .wildcard
  | deepWildcard =>
      exact .simple _ _ .deepWildcard

end Segment

namespace Template

theorem toList_render (template : Template) :
    template.render.toList =
      '/' :: (joined
          (template.segments.map (fun segment => segment.render.toList)) ++
        template.renderVerb.toList) := by
  unfold render
  simp only [String.toList_append, toList_slashJoin_eq_joined, List.map_map]
  rfl

theorem spellsVerb_renderVerb (template : Template)
    (wellFormed : template.WellFormed) :
    SpellsVerb template.segments template.verb
      template.renderVerb.toList := by
  unfold renderVerb
  by_cases empty : template.verb = ""
  · rw [if_pos empty, empty]
    exact .absent (wellFormed.noColonAtEnd empty)
  · rw [if_neg empty, String.toList_append]
    rcases wellFormed.verb with same | ⟨isLiteral, noColon⟩
    · exact absurd same empty
    · exact
        .present template.verb (wellFormed.verbHasSegments empty) isLiteral
          noColon

theorem derives_render (template : Template)
    (wellFormed : template.WellFormed) :
    Derives template.render.toList template := by
  rw [toList_render]
  apply Derives.pattern
  · rw [List.forall₂_map_right_iff, List.forall₂_same]
    intro segment member
    exact Segment.spells_render segment (wellFormed.segments segment member)
  · exact spellsVerb_renderVerb template wellFormed

theorem parse_render (template : Template)
    (wellFormed : template.WellFormed) :
    Template.parse template.render = .ok template :=
  (parse_ok_iff template.render template).mpr
    ⟨derives_render template wellFormed, wellFormed.deepWildcardLast⟩

/-- A template is read from its own text exactly when it is well-formed, and
reading returns well-formed templates only. -/
theorem parse_render_iff_wellFormed :
    (∀ template : Template,
      Template.parse template.render = .ok template ↔
        template.WellFormed) ∧
    (∀ pattern template,
      Template.parse pattern = .ok template →
        template.WellFormed ∧
          Template.parse template.render = .ok template) := by
  constructor
  · intro template
    constructor
    · exact wellFormed_of_parse template.render template
    · exact parse_render template
  · intro pattern template parsed
    have wellFormed := wellFormed_of_parse pattern template parsed
    exact ⟨wellFormed, parse_render template wellFormed⟩

def colonsTemplate : Template :=
  { segments :=
      [.literal "a:b", .field "book.name" [.literal "x:y", .wildcard],
        .literal "c:d"]
    verb := "LOCK" }

theorem parse_render_iff_wellFormed_colons :
    Template.parse "/a:b/\x7bbook.name=x:y/*\x7d/c:d:LOCK" =
        .ok colonsTemplate ∧
      colonsTemplate.WellFormed ∧
        Template.parse colonsTemplate.render = .ok colonsTemplate := by
  have parsed :
      Template.parse "/a:b/\x7bbook.name=x:y/*\x7d/c:d:LOCK" =
        .ok colonsTemplate := by
    decide +kernel
  exact ⟨parsed, parse_render_iff_wellFormed.2 _ colonsTemplate parsed⟩

end Template

end HttpRouting
