/-
Well-formed templates.

A template is well-formed when its texts belong to the grammar, its fields
hold segments but no fields, deep wildcards stand last, and the verb and the
last literal do not compete for a colon.  Every template that reading returns
is well-formed.
-/

import HttpRouting.Proofs.Recognition

namespace HttpRouting

open Grammar

namespace Segment

def WellFormedInner : Segment → Prop
  | .literal text => Literal text.toList
  | .wildcard => True
  | .deepWildcard => True
  | .field _ _ => False

def WellFormed : Segment → Prop
  | .field path segments =>
      FieldPath path.toList ∧ segments ≠ [] ∧
        ∀ inner ∈ segments, inner.WellFormedInner
  | simple => simple.WellFormedInner

end Segment

namespace Template

structure WellFormed (template : Template) : Prop where
  segments : ∀ segment ∈ template.segments, segment.WellFormed
  deepWildcardLast : DeepWildcardLast template
  verb :
    template.verb = "" ∨
      (Literal template.verb.toList ∧ ':' ∉ template.verb.toList)
  verbHasSegments : template.verb ≠ "" → template.segments ≠ []
  /-- Without a verb, a literal with a colon at the end would be read as one
  with a verb. -/
  noColonAtEnd :
    template.verb = "" →
      ∀ text, template.segments.getLast? = some (.literal text) →
        ':' ∉ text.toList

end Template

/-! ### Reading returns well-formed templates -/

theorem Grammar.SpellsSimple.wellFormedInner (segment : Segment)
    (text : List Char) (spelled : SpellsSimple segment text) :
    segment.WellFormedInner := by
  cases spelled with
  | literal written isLiteral => exact isLiteral
  | wildcard => trivial
  | deepWildcard => trivial

theorem Segment.WellFormedInner.wellFormed (segment : Segment)
    (wellFormedInner : segment.WellFormedInner) : segment.WellFormed := by
  cases segment with
  | field path segments => cases wellFormedInner
  | _ => exact wellFormedInner

theorem forall₂_left_of_mem {Left Right : Type}
    {Related : Left → Right → Prop} {lefts : List Left} {rights : List Right}
    (related : List.Forall₂ Related lefts rights) (left : Left)
    (member : left ∈ lefts) : ∃ right ∈ rights, Related left right :=
  forall₂_right_of_mem related.flip left member

theorem Grammar.Spells.wellFormed (segment : Segment) (text : List Char)
    (spelled : Spells segment text) : segment.WellFormed := by
  cases spelled with
  | simple segment text spelled =>
      exact (spelled.wellFormedInner _ _).wellFormed
  | bareField path isPath =>
      refine ⟨isPath, List.cons_ne_nil _ _, ?_⟩
      intro inner member
      rw [List.mem_singleton] at member
      subst inner
      trivial
  | field path isPath segments texts inhabited spelled =>
      refine ⟨isPath, inhabited, ?_⟩
      intro inner member
      obtain ⟨innerText, _, innerSpelled⟩ :=
        forall₂_left_of_mem spelled inner member
      exact innerSpelled.wellFormedInner _ _

theorem wellFormed_of_derives (pattern : List Char) (template : Template)
    (derived : Derives pattern template)
    (last : DeepWildcardLast template) : template.WellFormed := by
  cases derived with
  | pattern _ texts verbText spelled verbSpelled =>
      have segmentsWellFormed :
          ∀ segment ∈ template.segments, segment.WellFormed := by
        intro segment member
        obtain ⟨text, _, textSpelled⟩ :=
          forall₂_left_of_mem spelled segment member
        exact textSpelled.wellFormed _ _
      cases template with
      | mk segments verb =>
          cases verbSpelled with
          | absent noColon =>
              exact
                { segments := segmentsWellFormed
                  deepWildcardLast := last
                  verb := .inl rfl
                  verbHasSegments := fun different => absurd rfl different
                  noColonAtEnd := fun _ => noColon }
          | present _ inhabited isLiteral noColon =>
              have different : verb ≠ "" := by
                rintro rfl
                exact isLiteral.1 rfl
              exact
                { segments := segmentsWellFormed
                  deepWildcardLast := last
                  verb := .inr ⟨isLiteral, noColon⟩
                  verbHasSegments := fun _ => inhabited
                  noColonAtEnd := fun same => absurd same different }

theorem Template.wellFormed_of_parse (pattern : String)
    (template : Template)
    (parsed : Template.parse pattern = .ok template) :
    template.WellFormed := by
  obtain ⟨derived, last⟩ := (parse_ok_iff pattern template).mp parsed
  exact wellFormed_of_derives pattern.toList template derived last

end HttpRouting
