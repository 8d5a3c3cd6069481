/-
Reading accepts exactly the patterns of the grammar.

The reader cuts the verb off, reads the segments and at last looks for deep
wildcards that stand too early.  Without the last look it accepts a pattern as
a template exactly when the grammar derives the template from the pattern.
-/

import HttpRouting.Proofs.Reading

namespace HttpRouting

namespace Pattern

open Grammar

/-- Reading without the look at deep wildcards. -/
def readTree (pattern : List Char) : Except Defect Template :=
  if pattern.head? = some '/' then
    match splitVerb pattern with
    | .error defect => .error defect
    | .ok (body, verb) =>
        match readBody (Cursor.start body).advance with
        | .error defect => .error defect
        | .ok segments =>
            .ok
              { segments := segments
                verb := String.ofList verb }
  else
    .error .missingLeadingSlash

theorem read_eq (pattern : List Char) :
    read pattern =
      match readTree pattern with
      | .error defect => .error defect
      | .ok template =>
          if deepWildcardsLast template.leaves then .ok template
          else .error .deepWildcardNotLast := by
  unfold read readTree
  split
  · cases splitVerb pattern with
    | error defect =>
        rfl
    | ok parts =>
        simp only
        cases readBody (Cursor.start parts.1).advance with
        | error defect => rfl
        | ok segments => rfl
  · rfl

/-! ### The part before the verb -/

theorem joined_ne_nil (segments : List Segment) (texts : List (List Char))
    (spelled : List.Forall₂ Spells segments texts)
    (inhabited : segments ≠ []) : joined texts ≠ [] := by
  intro empty
  have noSlash := joined_getLast?_ne_slash segments texts spelled inhabited
  rw [empty] at noSlash
  exact noSlash rfl

theorem readBody_ok_iff (cursor : Cursor) (segments : List Segment) :
    readBody cursor = .ok segments ↔
      ∃ texts,
        List.Forall₂ Spells segments texts ∧ cursor.rest = joined texts := by
  unfold readBody
  constructor
  · intro result
    split at result
    · rename_i ended
      cases result
      exact ⟨[], .nil, ended⟩
    · split at result
      · cases result
      · rename_i found next segmentsRead
        split at result
        · rename_i ended
          cases result
          obtain ⟨texts, spelled, _, consumed⟩ :=
            readSegments_sound segmentReader_recognizes _ _ _ segmentsRead
          refine ⟨texts, spelled, ?_⟩
          rw [consumed.1, (next.peek?_eq_none_iff).mp ended, List.append_nil]
        · cases result
  · rintro ⟨texts, spelled, restEq⟩
    cases segments with
    | nil =>
        cases spelled
        have ended : cursor.rest = [] := restEq
        rw [if_pos ended]
    | cons segment rest =>
        have inhabited : segment :: rest ≠ [] := List.cons_ne_nil _ _
        have more : cursor.rest ≠ [] := by
          rw [restEq]
          exact joined_ne_nil _ texts spelled inhabited
        have consumed :
            cursor.Consumes (joined texts)
              { offset := cursor.offset + utf8Length (joined texts)
                rest := [] } := by
          refine ⟨?_, rfl⟩
          rw [restEq, List.append_nil]
        have segmentsRead :=
          readSegments_complete segmentReader_recognizes _ texts spelled
            inhabited cursor _ consumed (.inl rfl)
        rw [if_neg more, segmentsRead]
        rfl

theorem readBody_ne_deepWildcardNotLast (cursor : Cursor) :
    readBody cursor ≠ .error .deepWildcardNotLast := by
  intro failed
  unfold readBody at failed
  split at failed
  · cases failed
  · split at failed
    · rename_i defect segmentsRead
      cases failed
      exact
        readSegments_ne_deepWildcardNotLast segmentReader_recognizes _
          segmentsRead
    · split at failed <;> cases failed

/-! ### Whole patterns -/

theorem readTree_ok (pattern : List Char) (template : Template)
    (result : readTree pattern = .ok template) :
    ∃ body verb segments,
      pattern.head? = some '/' ∧ splitVerb pattern = .ok (body, verb) ∧
        readBody (Cursor.start body).advance = .ok segments ∧
        template =
          { segments := segments
            verb := String.ofList verb } := by
  unfold readTree at result
  split at result
  · rename_i slash
    split at result
    · cases result
    · rename_i body verb cut
      split at result
      · cases result
      · rename_i segments bodyRead
        cases result
        exact ⟨body, verb, segments, slash, cut, bodyRead, rfl⟩
  · cases result

theorem derives_of_readTree (pattern : List Char) (template : Template)
    (result : readTree pattern = .ok template) :
    Derives pattern template := by
  obtain ⟨body, verb, segments, slash, cut, bodyRead, rfl⟩ :=
    readTree_ok pattern template result
  obtain ⟨texts, spelled, restEq⟩ :=
    (readBody_ok_iff _ segments).mp bodyRead
  rcases splitVerb_ok pattern body verb cut with
    ⟨rfl, rfl, noneFound⟩ | ⟨patternEq, noSlash, isLiteral, noColon⟩
  · cases body with
    | nil =>
        cases slash
    | cons first rest =>
        cases Option.some.inj slash
        have bodyEq : rest = joined texts := restEq
        obtain ⟨found, scan, foundIff⟩ :=
          exists_scansTo_joined segments texts spelled 0 none
        rw [bodyEq, scan.verbColon?_eq] at noneFound
        have derived :=
          Derives.pattern
            { segments := segments
              verb := "" }
            texts [] spelled (.absent (foundIff.mp noneFound))
        rw [List.append_nil, ← bodyEq] at derived
        exact derived
  · cases body with
    | nil =>
        rw [patternEq] at slash
        cases slash
    | cons first rest =>
        rw [patternEq] at slash
        cases Option.some.inj slash
        have bodyEq : rest = joined texts := restEq
        have inhabited : segments ≠ [] := by
          rintro rfl
          cases spelled
          rw [bodyEq] at noSlash
          exact noSlash rfl
        have verbSpelled :
            SpellsVerb segments (String.ofList verb)
              (':' :: (String.ofList verb).toList) := by
          apply SpellsVerb.present _ inhabited
          · rw [String.toList_ofList]
            exact isLiteral
          · rw [String.toList_ofList]
            exact noColon
        have derived :=
          Derives.pattern
            { segments := segments
              verb := String.ofList verb }
            texts _ spelled verbSpelled
        rw [String.toList_ofList, ← bodyEq] at derived
        rw [patternEq]
        exact derived

theorem readTree_of_derives (pattern : List Char) (template : Template)
    (derived : Derives pattern template) :
    readTree pattern = .ok template := by
  cases derived with
  | pattern _ texts verbText spelled verbSpelled =>
      have bodyRead :
          readBody (Cursor.start ('/' :: joined texts)).advance =
            .ok template.segments :=
        (readBody_ok_iff _ _).mpr ⟨texts, spelled, rfl⟩
      cases template with
      | mk segments verb =>
          simp only at spelled verbSpelled bodyRead
          unfold readTree
          rw [List.head?_cons, if_pos rfl]
          cases verbSpelled with
          | absent noColon =>
              rw [List.append_nil,
                splitVerb_of_absent segments texts spelled noColon]
              simp only [bodyRead, String.ofList_nil]
          | present _ inhabited isLiteral noColon =>
              rw [← List.cons_append,
                splitVerb_of_present segments texts spelled inhabited
                  verb.toList isLiteral noColon]
              simp only [bodyRead, String.ofList_toList]

theorem readTree_ok_iff (pattern : List Char) (template : Template) :
    readTree pattern = .ok template ↔ Derives pattern template :=
  ⟨derives_of_readTree pattern template,
    readTree_of_derives pattern template⟩

theorem readTree_ne_deepWildcardNotLast (pattern : List Char) :
    readTree pattern ≠ .error .deepWildcardNotLast := by
  intro failed
  unfold readTree at failed
  split at failed
  · split at failed
    · rename_i defect cut
      cases failed
      exact splitVerb_ne_deepWildcardNotLast pattern cut
    · split at failed
      · rename_i defect bodyRead
        cases failed
        exact readBody_ne_deepWildcardNotLast _ bodyRead
      · cases failed
  · cases failed

theorem read_ok_iff (pattern : List Char) (template : Template) :
    read pattern = .ok template ↔
      Derives pattern template ∧ DeepWildcardLast template := by
  rw [read_eq, ← readTree_ok_iff, ← deepWildcardsLast_iff]
  cases readTree pattern with
  | error defect =>
      simp
  | ok found =>
      by_cases last : deepWildcardsLast found.leaves = true
      · simp only [if_pos last, Except.ok.injEq]
        constructor
        · rintro rfl
          exact ⟨rfl, last⟩
        · exact And.left
      · simp only [if_neg last]
        constructor
        · exact nofun
        · rintro ⟨same, foundLast⟩
          cases same
          exact absurd foundLast last

theorem read_eq_deepWildcardNotLast_iff (pattern : List Char) :
    read pattern = .error .deepWildcardNotLast ↔
      ∃ template,
        Derives pattern template ∧ ¬ DeepWildcardLast template := by
  rw [read_eq]
  simp only [← readTree_ok_iff, ← deepWildcardsLast_iff]
  cases treeRead : readTree pattern with
  | error defect =>
      constructor
      · intro failed
        cases failed
        exact absurd treeRead (readTree_ne_deepWildcardNotLast pattern)
      · rintro ⟨template, impossible, _⟩
        cases impossible
  | ok found =>
      by_cases last : deepWildcardsLast found.leaves = true
      · simp only [if_pos last]
        constructor
        · exact nofun
        · rintro ⟨template, same, notLast⟩
          cases same
          exact absurd last notLast
      · simp only [if_neg last, true_iff]
        exact ⟨found, rfl, last⟩

end Pattern

namespace Template

open Grammar

theorem parse_ok_iff (pattern : String) (template : Template) :
    Template.parse pattern = .ok template ↔
      Derives pattern.toList template ∧ DeepWildcardLast template := by
  rw [← Pattern.read_ok_iff]
  unfold Template.parse
  cases Pattern.read pattern.toList with
  | error defect => simp
  | ok found => simp

theorem parse_eq_error_iff (pattern : String) (defect : Defect) :
    Template.parse pattern =
        .error
          { pattern := pattern
            defect := defect } ↔
      Pattern.read pattern.toList = .error defect := by
  unfold Template.parse
  cases Pattern.read pattern.toList with
  | error found => simp
  | ok found => simp

/-- Reading accepts exactly the patterns of the grammar whose deep wildcards
stand last, returns what they derive, and rejects exactly the other patterns
of the grammar for their deep wildcards. -/
theorem parse_recognizes_grammar (pattern : String) :
    (∀ template,
      Template.parse pattern = .ok template ↔
        Derives pattern.toList template ∧ DeepWildcardLast template) ∧
    (Template.parse pattern =
        .error
          { pattern := pattern
            defect := .deepWildcardNotLast } ↔
      ∃ template,
        Derives pattern.toList template ∧ ¬ DeepWildcardLast template) := by
  constructor
  · exact parse_ok_iff pattern
  · rw [parse_eq_error_iff]
    exact Pattern.read_eq_deepWildcardNotLast_iff pattern.toList

end Template

end HttpRouting
