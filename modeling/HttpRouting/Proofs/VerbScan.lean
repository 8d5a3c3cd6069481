/-
Where the verb of a pattern starts.

The scan for the verb counts braces and forgets a colon at every slash outside
them.  Run over spelled segments it comes back to depth zero and remembers a
colon exactly when the last segment is a literal that holds one.  So cutting
the verb off and reading the segments agree on every pattern.
-/

import HttpRouting.Proofs.Grammar
import Mathlib.Data.List.TakeWhile

namespace HttpRouting

namespace Pattern

/-! ### One character at a time -/

theorem verbColon?_unmarked (depth position : Nat) (colon : Option Nat)
    (character : Char) (rest : List Char) (noOpen : character ≠ '{')
    (noClose : character ≠ '}') (noSlash : character ≠ '/')
    (noColon : character ≠ ':') :
    verbColon? depth position colon (character :: rest) =
      verbColon? depth (position + 1) colon rest := by
  rw [verbColon?.eq_def]
  split <;> simp_all

/-- Inside braces nothing but a brace matters. -/
theorem verbColon?_inside (depth position : Nat) (colon : Option Nat)
    (text suffix : List Char)
    (unbraced : ∀ character ∈ text, character ≠ '{' ∧ character ≠ '}') :
    verbColon? (depth + 1) position colon (text ++ suffix) =
      verbColon? (depth + 1) (position + text.length) colon suffix := by
  induction text generalizing position with
  | nil =>
      rfl
  | cons character rest inductionHypothesis =>
      have restUnbraced :
          ∀ other ∈ rest, other ≠ '{' ∧ other ≠ '}' :=
        fun other member =>
          unbraced other (List.mem_cons_of_mem character member)
      obtain ⟨noOpen, noClose⟩ := unbraced character List.mem_cons_self
      have oneStep :
          verbColon? (depth + 1) position colon
              (character :: (rest ++ suffix)) =
            verbColon? (depth + 1) (position + 1) colon (rest ++ suffix) := by
        by_cases slash : character = '/'
        · rw [slash, verbColon?, if_neg (Nat.succ_ne_zero depth)]
        · by_cases colonHere : character = ':'
          · rw [colonHere, verbColon?, if_neg (Nat.succ_ne_zero depth)]
          · exact
              verbColon?_unmarked _ _ _ _ _ noOpen noClose slash colonHere
      rw [List.cons_append, oneStep, inductionHypothesis _ restUnbraced,
        List.length_cons]
      congr 1
      omega

/-! ### Texts that return to depth zero -/

/-- Outside braces, the scan passes the text and then remembers `found`. -/
def ScansTo (position : Nat) (colon : Option Nat) (text : List Char)
    (found : Option Nat) : Prop :=
  ∀ suffix,
    verbColon? 0 position colon (text ++ suffix) =
      verbColon? 0 (position + text.length) found suffix

theorem ScansTo.append {position : Nat} {colon middle found : Option Nat}
    {first second : List Char}
    (firstScan : ScansTo position colon first middle)
    (secondScan : ScansTo (position + first.length) middle second found) :
    ScansTo position colon (first ++ second) found := by
  intro suffix
  rw [List.append_assoc, firstScan, secondScan, List.length_append,
    Nat.add_assoc]

theorem ScansTo.verbColon?_eq {position : Nat} {colon found : Option Nat}
    {text : List Char} (scan : ScansTo position colon text found) :
    verbColon? 0 position colon text = found := by
  have whole := scan []
  rw [List.append_nil] at whole
  rw [whole, verbColon?]

theorem scansTo_slash (position : Nat) (colon : Option Nat) :
    ScansTo position colon ['/'] none := by
  intro suffix
  rfl

theorem scansTo_unmarked (position : Nat) (colon : Option Nat)
    (text : List Char)
    (unmarked :
      ∀ character ∈ text, character ≠ '{' ∧ character ≠ '}' ∧
        character ≠ '/' ∧ character ≠ ':') :
    ScansTo position colon text colon := by
  intro suffix
  induction text generalizing position with
  | nil =>
      rfl
  | cons character rest inductionHypothesis =>
      obtain ⟨noOpen, noClose, noSlash, noColon⟩ :=
        unmarked character List.mem_cons_self
      rw [List.cons_append,
        verbColon?_unmarked _ _ _ _ _ noOpen noClose noSlash noColon,
        inductionHypothesis _ (fun other member =>
          unmarked other (List.mem_cons_of_mem character member)),
        List.length_cons]
      congr 1
      omega

theorem scansTo_stars (position : Nat) (colon : Option Nat)
    (count : Nat) : ScansTo position colon (List.replicate count '*') colon := by
  apply scansTo_unmarked
  intro character member
  rw [List.eq_of_mem_replicate member]
  decide

theorem scansTo_braced (position : Nat) (colon : Option Nat)
    (inner : List Char)
    (unbraced : ∀ character ∈ inner, character ≠ '{' ∧ character ≠ '}') :
    ScansTo position colon ('{' :: (inner ++ ['}'])) colon := by
  intro suffix
  rw [List.cons_append, List.append_assoc, verbColon?,
    verbColon?_inside 0 _ _ _ _ unbraced, List.singleton_append, verbColon?]
  congr 1
  simp only [List.length_cons, List.length_append, List.length_nil]
  omega

theorem exists_scansTo_literal (position : Nat) (colon : Option Nat)
    (text : List Char)
    (literal : ∀ character ∈ text, isLiteralCharacter character = true) :
    ∃ found,
      ScansTo position colon text found ∧ (':' ∉ text → found = colon) ∧
        (':' ∈ text → ∃ index, position ≤ index ∧ found = some index) := by
  induction text generalizing position colon with
  | nil =>
      exact
        ⟨colon, fun suffix => rfl, fun _ => rfl, fun member => nomatch member⟩
  | cons character rest inductionHypothesis =>
      have restLiteral :
          ∀ other ∈ rest, isLiteralCharacter other = true :=
        fun other member =>
          literal other (List.mem_cons_of_mem character member)
      have passing := literal character List.mem_cons_self
      have different := fun mark =>
        Grammar.ne_of_test isLiteralCharacter character mark passing
      by_cases isColon : character = ':'
      · subst character
        obtain ⟨found, scan, kept, later⟩ :=
          inductionHypothesis (position + 1) (some position) restLiteral
        have headScan : ScansTo position colon [':'] (some position) :=
          fun suffix => rfl
        refine ⟨found, headScan.append scan, ?_, ?_⟩
        · intro absent
          exact absurd List.mem_cons_self absent
        · intro _
          by_cases inRest : ':' ∈ rest
          · obtain ⟨index, bound, foundEq⟩ := later inRest
            exact ⟨index, by omega, foundEq⟩
          · exact ⟨position, Nat.le_refl position, kept inRest⟩
      · obtain ⟨found, scan, kept, later⟩ :=
          inductionHypothesis (position + 1) colon restLiteral
        have headScan : ScansTo position colon [character] colon := by
          apply scansTo_unmarked
          intro other member
          rw [List.mem_singleton] at member
          subst other
          exact
            ⟨different '{' (by decide), different '}' (by decide),
              different '/' (by decide), isColon⟩
        have colonInRest : ':' ∈ character :: rest → ':' ∈ rest := by
          intro member
          exact (List.mem_cons.mp member).resolve_left
            (fun same => isColon same.symm)
        refine ⟨found, headScan.append scan, ?_, ?_⟩
        · intro absent
          exact kept (fun member =>
            absent (List.mem_cons_of_mem character member))
        · intro member
          obtain ⟨index, bound, foundEq⟩ := later (colonInRest member)
          exact ⟨index, by omega, foundEq⟩

end Pattern

namespace Grammar

open Pattern

/-! ### Spelled texts -/

theorem SpellsSimple.characters (segment : Segment) (text : List Char)
    (spelled : SpellsSimple segment text) :
    ∀ character ∈ text,
      character ≠ '{' ∧ character ≠ '}' ∧ character ≠ '/' := by
  intro character member
  cases spelled with
  | literal text isLiteral =>
      have different := isLiteral.ne_of_mem _ character member
      exact
        ⟨different '{' (by decide), different '}' (by decide),
          different '/' (by decide)⟩
  | wildcard =>
      rw [List.mem_singleton] at member
      subst character
      decide
  | deepWildcard =>
      have isStar : character = '*' := by simpa using member
      subst character
      decide

theorem forall₂_right_of_mem {Left Right : Type}
    {Related : Left → Right → Prop} {lefts : List Left} {rights : List Right}
    (related : List.Forall₂ Related lefts rights) (right : Right)
    (member : right ∈ rights) : ∃ left ∈ lefts, Related left right := by
  induction related with
  | nil =>
      cases member
  | @cons left first lefts rights firstRelated _ inductionHypothesis =>
      rcases List.mem_cons.mp member with atHead | inRest
      · exact ⟨left, List.mem_cons_self, atHead ▸ firstRelated⟩
      · obtain ⟨other, otherMember, otherRelated⟩ :=
          inductionHypothesis inRest
        exact ⟨other, List.mem_cons_of_mem left otherMember, otherRelated⟩

theorem joined_unbraced (segments : List Segment) (texts : List (List Char))
    (spelled : List.Forall₂ SpellsSimple segments texts) :
    ∀ character ∈ joined texts, character ≠ '{' ∧ character ≠ '}' := by
  intro character member
  rcases mem_intercalate ['/'] character texts member with
    isSlash | ⟨text, textMember, inText⟩
  · rw [List.mem_singleton] at isSlash
    subst character
    decide
  · obtain ⟨segment, _, textSpelled⟩ :=
      forall₂_right_of_mem spelled text textMember
    obtain ⟨noOpen, noClose, _⟩ :=
      textSpelled.characters _ _ character inText
    exact ⟨noOpen, noClose⟩

theorem FieldPath.unbraced (path : List Char) (isPath : FieldPath path) :
    ∀ character ∈ path, character ≠ '{' ∧ character ≠ '}' := by
  intro character member
  have different := fun mark =>
    ne_of_test Pattern.isFieldPathCharacter character mark
      (isPath.characters _ character member)
  exact ⟨different '{' (by decide), different '}' (by decide)⟩

/-- A segment leaves a colon behind only if it is a literal that holds
one. -/
theorem Spells.exists_scansTo (segment : Segment) (text : List Char)
    (spelled : Spells segment text) (position : Nat) (colon : Option Nat) :
    ∃ found,
      ScansTo position colon text found ∧
        ((∀ written, segment = .literal written → ':' ∉ written.toList) →
          found = colon) ∧
        (∀ written, segment = .literal written → ':' ∈ written.toList →
          ∃ index, position ≤ index ∧ found = some index) := by
  cases spelled with
  | simple segment text spelled =>
      cases spelled with
      | literal written isLiteral =>
          have passing :
              ∀ character ∈ written.toList,
                isLiteralCharacter character = true :=
            fun character member =>
              (isLiteralCharacter_iff character).mpr
                (isLiteral.2 character member)
          obtain ⟨found, scan, kept, later⟩ :=
            exists_scansTo_literal position colon written.toList passing
          refine ⟨found, scan, fun noColon => kept (noColon written rfl), ?_⟩
          intro other same member
          cases same
          exact later member
      | wildcard =>
          have scan := scansTo_stars position colon 1
          exact ⟨colon, scan, fun _ => rfl, nofun⟩
      | deepWildcard =>
          have scan := scansTo_stars position colon 2
          exact ⟨colon, scan, fun _ => rfl, nofun⟩
  | bareField path isPath =>
      exact
        ⟨colon, scansTo_braced _ _ _ (isPath.unbraced _), fun _ => rfl, nofun⟩
  | field path isPath segments texts inhabited spelled =>
      have shape :
          path.toList ++ '=' :: (joined texts ++ ['}']) =
            (path.toList ++ '=' :: joined texts) ++ ['}'] := by
        simp
      refine ⟨colon, ?_, fun _ => rfl, nofun⟩
      rw [shape]
      apply scansTo_braced
      intro character member
      rcases List.mem_append.mp member with inPath | afterPath
      · exact isPath.unbraced _ character inPath
      · rcases List.mem_cons.mp afterPath with isSign | inTexts
        · subst character
          decide
        · exact joined_unbraced segments texts spelled character inTexts

theorem slash_joined_cons_cons (first second : List Char)
    (rest : List (List Char)) :
    '/' :: joined (first :: second :: rest) =
      ('/' :: first) ++ ('/' :: joined (second :: rest)) := by
  rw [joined_cons_cons]
  rfl

/-- Over all segments of a pattern, the scan remembers no colon exactly when
the last segment is no literal that holds one. -/
theorem exists_scansTo_joined (segments : List Segment)
    (texts : List (List Char))
    (spelled : List.Forall₂ Spells segments texts) (position : Nat)
    (colon : Option Nat) :
    ∃ found,
      ScansTo position colon ('/' :: joined texts) found ∧
        (found = none ↔
          ∀ written, segments.getLast? = some (.literal written) →
            ':' ∉ written.toList) := by
  induction spelled generalizing position colon with
  | nil =>
      exact ⟨none, scansTo_slash position colon, by simp⟩
  | @cons segment text rest texts firstSpelled restSpelled
      inductionHypothesis =>
      obtain ⟨found, scan, kept, later⟩ :=
        firstSpelled.exists_scansTo _ _ (position + 1) none
      have firstScan : ScansTo position colon ('/' :: text) found :=
        (scansTo_slash position colon).append scan
      cases restSpelled with
      | nil =>
          refine ⟨found, ?_, ?_⟩
          · rw [joined_singleton]
            exact firstScan
          · rw [List.getLast?_singleton]
            constructor
            · intro nothing written same member
              obtain ⟨index, _, foundEq⟩ :=
                later written (Option.some.inj same) member
              rw [nothing] at foundEq
              cases foundEq
            · intro noColon
              exact kept (fun written same =>
                noColon written (congrArg some same))
      | cons secondSpelled othersSpelled =>
          obtain ⟨last, lastScan, lastIff⟩ :=
            inductionHypothesis (position + ('/' :: text).length) found
          refine ⟨last, ?_, ?_⟩
          · rw [slash_joined_cons_cons]
            exact firstScan.append lastScan
          · rw [List.getLast?_cons_cons]
            exact lastIff

end Grammar

namespace Pattern

/-! ### Cutting the verb off -/

/-- A colon of the text stands at the index, and a scan of what follows it,
begun outside braces, remembers no later one. -/
def LastColon (position index : Nat) (text : List Char) : Prop :=
  ∃ before after,
    text = before ++ ':' :: after ∧ index = position + before.length ∧
      verbColon? 0 (index + 1) (some index) after = some index

theorem LastColon.cons {position index : Nat} {rest : List Char}
    (inRest : LastColon (position + 1) index rest) (character : Char) :
    LastColon position index (character :: rest) := by
  obtain ⟨before, after, restEq, indexEq, later⟩ := inRest
  refine ⟨character :: before, after, ?_, ?_, later⟩
  · rw [restEq, List.cons_append]
  · rw [List.length_cons]
    omega

/-- The scan ends with the colon it began with or with one of the text. -/
theorem lastColon_of_verbColon? (depth position : Nat) (colon : Option Nat)
    (text : List Char) (index : Nat)
    (found : verbColon? depth position colon text = some index) :
    colon = some index ∨ LastColon position index text := by
  fun_induction verbColon? depth position colon text with
  | case1 => exact .inl found
  | case2 depth position colon rest inductionHypothesis =>
      rcases inductionHypothesis found with before | inRest
      · exact .inl before
      · exact .inr (inRest.cons '{')
  | case3 depth position colon rest inductionHypothesis =>
      rcases inductionHypothesis found with before | inRest
      · exact .inl before
      · exact .inr (inRest.cons '}')
  | case4 depth position colon rest inductionHypothesis =>
      rcases inductionHypothesis found with before | inRest
      · by_cases outside : depth = 0
        · rw [if_pos outside] at before
          cases before
        · rw [if_neg outside] at before
          exact .inl before
      · exact .inr (inRest.cons '/')
  | case5 depth position colon rest inductionHypothesis =>
      rcases inductionHypothesis found with before | inRest
      · by_cases outside : depth = 0
        · rw [if_pos outside] at before
          cases before
          rw [if_pos outside, outside] at found
          exact .inr ⟨[], rest, rfl, rfl, found⟩
        · rw [if_neg outside] at before
          exact .inl before
      · exact .inr (inRest.cons ':')
  | case6 depth position colon character rest _ _ _ _ inductionHypothesis =>
      rcases inductionHypothesis found with before | inRest
      · exact .inl before
      · exact .inr (inRest.cons character)

theorem checkVerb_ok_iff (colonOffset : Nat) (verb : List Char) :
    checkVerb colonOffset verb = .ok () ↔
      verb ≠ [] ∧
        ∀ character ∈ verb, isLiteralCharacter character = true := by
  have stopIff :
      verb.dropWhile isLiteralCharacter = [] ↔
        ∀ character ∈ verb, isLiteralCharacter character = true :=
    List.dropWhile_eq_nil_iff
  unfold checkVerb Cursor.skipRun
  simp only
  cases verb with
  | nil =>
      simp
  | cons first rest =>
      rw [← stopIff]
      cases (first :: rest).dropWhile isLiteralCharacter with
      | nil => simp
      | cons found others => simp

theorem exists_parts_of_verbColon? (pattern : List Char) (index : Nat)
    (found : verbColon? 0 0 none pattern = some index) :
    ∃ before after,
      pattern = before ++ ':' :: after ∧ pattern.take index = before ∧
        pattern.drop (index + 1) = after ∧
          verbColon? 0 (index + 1) (some index) after = some index := by
  rcases lastColon_of_verbColon? 0 0 none pattern index found with
    impossible | ⟨before, after, patternEq, indexEq, later⟩
  · cases impossible
  · rw [Nat.zero_add] at indexEq
    refine ⟨before, after, patternEq, ?_, ?_, later⟩
    · rw [patternEq, indexEq, List.take_left]
    · rw [patternEq, indexEq, ← List.drop_drop, List.drop_left]
      rfl

/-- What a successful cut says: either there is no colon to cut at, or the
text behind it is a literal without a colon. -/
theorem splitVerb_ok (pattern body verb : List Char)
    (split : splitVerb pattern = .ok (body, verb)) :
    (verb = [] ∧ body = pattern ∧ verbColon? 0 0 none pattern = none) ∨
      (pattern = body ++ ':' :: verb ∧ body.getLast? ≠ some '/' ∧
        Grammar.Literal verb ∧ ':' ∉ verb) := by
  unfold splitVerb at split
  cases found : verbColon? 0 0 none pattern with
  | none =>
      rw [found] at split
      cases split
      exact .inl ⟨rfl, rfl, rfl⟩
  | some index =>
      right
      obtain ⟨before, after, patternEq, bodyEq, verbEq, later⟩ :=
        exists_parts_of_verbColon? pattern index found
      rw [found] at split
      simp only [bodyEq, verbEq] at split
      split at split
      · cases split
      · rename_i noSlash
        cases checked : checkVerb (utf8Length before) after with
        | error defect =>
            rw [checked] at split
            cases split
        | ok done =>
            rw [checked] at split
            cases split
            obtain ⟨inhabited, passing⟩ :=
              (checkVerb_ok_iff (utf8Length body) verb).mp checked
            refine ⟨patternEq, noSlash, ⟨inhabited, ?_⟩, ?_⟩
            · intro character member
              exact
                (Grammar.isLiteralCharacter_iff character).mp
                  (passing character member)
            · -- A colon in the verb would have been found after this one.
              intro colonInVerb
              obtain ⟨last, scan, _, further⟩ :=
                exists_scansTo_literal (index + 1) (some index) verb
                  passing
              obtain ⟨lastIndex, bound, lastEq⟩ := further colonInVerb
              rw [scan.verbColon?_eq, lastEq] at later
              have same : lastIndex = index := Option.some.inj later
              omega

theorem splitVerb_ne_deepWildcardNotLast (pattern : List Char) :
    splitVerb pattern ≠ .error .deepWildcardNotLast := by
  intro failed
  unfold splitVerb checkVerb at failed
  simp only at failed
  split at failed
  · cases failed
  · split at failed
    · cases failed
    · split at failed
      · rename_i defect checked
        cases failed
        split at checked <;> cases checked
      · cases failed

end Pattern

namespace Grammar

open Pattern

theorem Spells.last (segment : Segment) (text : List Char)
    (spelled : Spells segment text) :
    ∃ front character, text = front ++ [character] ∧ character ≠ '/' := by
  cases spelled with
  | simple segment text spelled =>
      have inhabited : text ≠ [] := by
        cases spelled with
        | literal written isLiteral => exact isLiteral.1
        | wildcard => exact List.cons_ne_nil _ _
        | deepWildcard => exact List.cons_ne_nil _ _
      refine
        ⟨text.dropLast, text.getLast inhabited,
          (List.dropLast_append_getLast inhabited).symm, ?_⟩
      exact
        (spelled.characters _ _ _ (List.getLast_mem inhabited)).2.2
  | bareField path isPath =>
      exact ⟨'{' :: path.toList, '}', by simp, by decide⟩
  | field path isPath segments texts inhabited spelled =>
      exact
        ⟨'{' :: (path.toList ++ '=' :: joined texts), '}', by simp, by decide⟩

theorem joined_getLast?_ne_slash (segments : List Segment)
    (texts : List (List Char))
    (spelled : List.Forall₂ Spells segments texts)
    (inhabited : segments ≠ []) :
    ('/' :: joined texts).getLast? ≠ some '/' := by
  induction spelled with
  | nil =>
      exact absurd rfl inhabited
  | @cons segment text rest texts firstSpelled restSpelled
      inductionHypothesis =>
      cases restSpelled with
      | nil =>
          obtain ⟨front, character, textEq, noSlash⟩ :=
            firstSpelled.last _ _
          rw [joined_singleton, textEq, ← List.cons_append,
            List.getLast?_concat]
          intro same
          exact noSlash (Option.some.inj same)
      | cons secondSpelled othersSpelled =>
          rw [slash_joined_cons_cons, List.getLast?_append]
          have restLast := inductionHypothesis (List.cons_ne_nil _ _)
          rw [List.getLast?_cons] at restLast ⊢
          simpa using restLast

theorem splitVerb_of_absent (segments : List Segment)
    (texts : List (List Char))
    (spelled : List.Forall₂ Spells segments texts)
    (noColon :
      ∀ written, segments.getLast? = some (.literal written) →
        ':' ∉ written.toList) :
    splitVerb ('/' :: joined texts) = .ok ('/' :: joined texts, []) := by
  obtain ⟨found, scan, foundIff⟩ :=
    exists_scansTo_joined segments texts spelled 0 none
  unfold splitVerb
  rw [scan.verbColon?_eq, foundIff.mpr noColon]

theorem splitVerb_of_present (segments : List Segment)
    (texts : List (List Char))
    (spelled : List.Forall₂ Spells segments texts)
    (inhabited : segments ≠ []) (verb : List Char)
    (isLiteral : Literal verb) (noColon : ':' ∉ verb) :
    splitVerb (('/' :: joined texts) ++ ':' :: verb) =
      .ok ('/' :: joined texts, verb) := by
  obtain ⟨found, bodyScan, _⟩ :=
    exists_scansTo_joined segments texts spelled 0 none
  have passing :
      ∀ character ∈ verb, isLiteralCharacter character = true :=
    fun character member =>
      (isLiteralCharacter_iff character).mpr (isLiteral.2 character member)
  have colonAt :
      verbColon? 0 0 none (('/' :: joined texts) ++ ':' :: verb) =
        some ('/' :: joined texts).length := by
    obtain ⟨last, verbScan, kept, _⟩ :=
      exists_scansTo_literal (('/' :: joined texts).length + 1)
        (some ('/' :: joined texts).length) verb passing
    rw [bodyScan, Nat.zero_add, verbColon?, if_pos rfl,
      verbScan.verbColon?_eq, kept noColon]
  have checked :
      checkVerb (utf8Length ('/' :: joined texts)) verb = .ok () :=
    (checkVerb_ok_iff _ verb).mpr ⟨isLiteral.1, passing⟩
  have verbEq :
      (('/' :: joined texts) ++ ':' :: verb).drop
          (('/' :: joined texts).length + 1) = verb := by
    rw [← List.drop_drop, List.drop_left]
    rfl
  unfold splitVerb
  rw [colonAt]
  simp only [List.take_left, verbEq, checked,
    if_neg (joined_getLast?_ne_slash segments texts spelled inhabited)]

end Grammar

end HttpRouting
