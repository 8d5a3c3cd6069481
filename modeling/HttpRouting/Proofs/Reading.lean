/-
The readers of segments recognise the grammar.

A reader recognises a spelling relation when it returns exactly the segments
whose texts stand at the cursor, as far as the texts end where a segment can
end.  This is shown for segments without fields, lifted to lists of segments,
and from there to fields and to the segments of a whole pattern.
-/

import HttpRouting.Proofs.VerbScan

namespace HttpRouting

namespace Cursor

/-! ### The text between two cursors -/

def Consumes (cursor : Cursor) (text : List Char) (next : Cursor) : Prop :=
  cursor.rest = text ++ next.rest ∧
    next.offset = cursor.offset + utf8Length text

/-- A segment can end here: the text ends, or a slash or a closing brace
follows. -/
def Stops (cursor : Cursor) : Prop :=
  cursor.peek? = none ∨ cursor.peek? = some '/' ∨ cursor.peek? = some '}'

theorem Consumes.trans {first middle last : Cursor}
    {left right : List Char} (leftConsumed : first.Consumes left middle)
    (rightConsumed : middle.Consumes right last) :
    first.Consumes (left ++ right) last := by
  constructor
  · rw [leftConsumed.1, rightConsumed.1, List.append_assoc]
  · rw [rightConsumed.2, leftConsumed.2, utf8Length_append, Nat.add_assoc]

theorem Consumes.split {first last : Cursor} (left right : List Char)
    (consumed : first.Consumes (left ++ right) last) :
    ∃ middle, first.Consumes left middle ∧ middle.Consumes right last := by
  refine
    ⟨{ offset := first.offset + utf8Length left
       rest := right ++ last.rest }, ⟨?_, rfl⟩, rfl, ?_⟩
  · rw [consumed.1, List.append_assoc]
  · rw [consumed.2, utf8Length_append, Nat.add_assoc]

theorem Consumes.unique {cursor first second : Cursor} {text : List Char}
    (firstConsumed : cursor.Consumes text first)
    (secondConsumed : cursor.Consumes text second) : first = second := by
  have restEq : first.rest = second.rest :=
    List.append_cancel_left (firstConsumed.1.symm.trans secondConsumed.1)
  have offsetEq : first.offset = second.offset :=
    firstConsumed.2.trans secondConsumed.2.symm
  cases first
  cases second
  cases restEq
  cases offsetEq
  rfl

theorem consumes_advance (cursor : Cursor) (character : Char)
    (present : cursor.peek? = some character) :
    cursor.Consumes [character] cursor.advance := by
  obtain ⟨rest, restEq⟩ := (peek?_eq_some_iff cursor character).mp present
  cases cursor with
  | mk offset characters =>
      cases restEq
      exact ⟨rfl, rfl⟩

theorem Consumes.advance {cursor last : Cursor} {character : Char}
    {text : List Char} (consumed : cursor.Consumes (character :: text) last) :
    cursor.peek? = some character ∧ cursor.advance.Consumes text last := by
  cases cursor with
  | mk offset characters =>
      obtain ⟨restEq, offsetEq⟩ := consumed
      cases restEq
      refine ⟨rfl, rfl, ?_⟩
      rw [offsetEq, utf8Length_cons, ← Nat.add_assoc]
      rfl

theorem consumes_run (passes : Char → Bool) (cursor : Cursor) :
    cursor.Consumes (cursor.run passes) (cursor.skipRun passes) :=
  ⟨List.takeWhile_append_dropWhile.symm, rfl⟩

/-- A consumed text is the whole run when its characters pass and the next
character does not. -/
theorem Consumes.run_eq {cursor last : Cursor} {text : List Char}
    (consumed : cursor.Consumes text last) (passes : Char → Bool)
    (passing : ∀ character ∈ text, passes character = true)
    (stopping :
      ∀ character, last.peek? = some character → passes character = false) :
    cursor.run passes = text ∧ cursor.skipRun passes = last := by
  have nothing : last.rest.takeWhile passes = [] := by
    cases lastEq : last.rest with
    | nil =>
        rfl
    | cons character rest =>
        have present : last.peek? = some character := by
          unfold peek?
          rw [lastEq]
          rfl
        rw [List.takeWhile_cons, stopping character present]
        rfl
  have runEq : cursor.run passes = text := by
    unfold run
    rw [consumed.1, List.takeWhile_append_of_pos passing, nothing,
      List.append_nil]
  refine ⟨runEq, ?_⟩
  apply Consumes.unique (consumes_run passes cursor)
  rw [runEq]
  exact consumed

theorem peek?_eq_none_iff (cursor : Cursor) :
    cursor.peek? = none ↔ cursor.rest = [] := by
  unfold peek?
  exact List.head?_eq_none_iff

end Cursor

namespace Pattern

open Grammar

/-- The reader returns exactly the segments whose texts stand at the cursor,
and never complains about the place of a deep wildcard. -/
structure Reader.Recognizes (reader : Reader Segment)
    (Spelled : Segment → List Char → Prop) : Prop where
  sound :
    ∀ cursor segment next, reader.read cursor = .ok (segment, next) →
      ∃ text, Spelled segment text ∧ cursor.Consumes text next
  complete :
    ∀ cursor segment text next, Spelled segment text →
      cursor.Consumes text next → next.Stops →
        reader.read cursor = .ok (segment, next)
  ne_deepWildcardNotLast :
    ∀ cursor, reader.read cursor ≠ .error .deepWildcardNotLast

/-! ### Segments other than fields -/

theorem readStars_sound (cursor : Cursor) (segment : Segment)
    (next : Cursor) (present : cursor.peek? = some '*')
    (result : readStars cursor = .ok (segment, next)) :
    ∃ text, SpellsSimple segment text ∧ cursor.Consumes text next := by
  have firstStar := cursor.consumes_advance '*' present
  unfold readStars at result
  by_cases second : cursor.advance.peek? = some '*'
  · have secondStar := cursor.advance.consumes_advance '*' second
    simp only [second, beq_self_eq_true, if_true] at result
    split at result <;> cases result <;>
      exact ⟨['*', '*'], .deepWildcard, firstStar.trans secondStar⟩
  · simp only [beq_eq_false_iff_ne.mpr second, Bool.false_eq_true,
      if_false] at result
    split at result <;> cases result <;>
      exact ⟨['*'], .wildcard, firstStar⟩

theorem readStars_of_one (cursor next : Cursor)
    (consumed : cursor.Consumes ['*'] next) (stops : next.Stops) :
    readStars cursor = .ok (.wildcard, next) := by
  have nextEq : cursor.advance = next :=
    (cursor.consumes_advance '*' consumed.advance.1).unique consumed
  have noStar : (next.peek? == some '*') = false := by
    rcases stops with ended | slash | brace
    · rw [ended]
      rfl
    · rw [slash]
      rfl
    · rw [brace]
      rfl
  unfold readStars
  rw [nextEq]
  simp only [noStar, Bool.false_eq_true, if_false]
  rcases stops with ended | slash | brace
  · rw [ended]
  · rw [slash]
    rfl
  · rw [brace]
    rfl

theorem readStars_of_two (cursor next : Cursor)
    (consumed : cursor.Consumes ['*', '*'] next) (stops : next.Stops) :
    readStars cursor = .ok (.deepWildcard, next) := by
  obtain ⟨_, secondConsumed⟩ := consumed.advance
  have nextEq : cursor.advance.advance = next :=
    (cursor.advance.consumes_advance '*' secondConsumed.advance.1).unique
      secondConsumed
  unfold readStars
  simp only [secondConsumed.advance.1, beq_self_eq_true, if_true, nextEq]
  rcases stops with ended | slash | brace
  · rw [ended]
  · rw [slash]
    rfl
  · rw [brace]
    rfl

theorem Stops.not_literal {cursor : Cursor} (stops : cursor.Stops)
    (character : Char) (present : cursor.peek? = some character) :
    isLiteralCharacter character = false := by
  rcases stops with ended | slash | brace
  · rw [ended] at present
    cases present
  · rw [slash] at present
    cases present
    decide
  · rw [brace] at present
    cases present
    decide

theorem readSimple_sound (cursor : Cursor) (segment : Segment)
    (next : Cursor) (result : readSimple cursor = .ok (segment, next)) :
    ∃ text, SpellsSimple segment text ∧ cursor.Consumes text next := by
  unfold readSimple at result
  split at result
  · cases result
  · cases result
  · cases result
  · rename_i present
    exact readStars_sound cursor segment next present result
  · cases result
  · rename_i found _ _ _ _ present
    split at result
    · rename_i passing
      cases result
      have consumed := cursor.consumes_run isLiteralCharacter
      have isLiteral : Literal (cursor.run isLiteralCharacter) := by
        constructor
        · obtain ⟨rest, restEq⟩ :=
            (cursor.peek?_eq_some_iff found).mp present
          unfold Cursor.run
          rw [restEq, List.takeWhile_cons, if_pos passing]
          exact List.cons_ne_nil _ _
        · intro character member
          exact
            (isLiteralCharacter_iff character).mp
              (List.mem_takeWhile_imp member)
      have spelled :=
        SpellsSimple.literal
          (String.ofList (cursor.run isLiteralCharacter))
          (by rw [String.toList_ofList]; exact isLiteral)
      rw [String.toList_ofList] at spelled
      exact ⟨_, spelled, consumed⟩
    · cases result

theorem readSimple_complete (cursor : Cursor) (segment : Segment)
    (text : List Char) (next : Cursor) (spelled : SpellsSimple segment text)
    (consumed : cursor.Consumes text next) (stops : next.Stops) :
    readSimple cursor = .ok (segment, next) := by
  cases spelled with
  | literal written isLiteral =>
      have passing :
          ∀ character ∈ written.toList,
            isLiteralCharacter character = true :=
        fun character member =>
          (isLiteralCharacter_iff character).mpr
            (isLiteral.2 character member)
      obtain ⟨runEq, skipEq⟩ :=
        consumed.run_eq isLiteralCharacter passing (Stops.not_literal stops)
      cases writtenEq : written.toList with
      | nil =>
          exact absurd writtenEq isLiteral.1
      | cons first rest =>
          rw [writtenEq] at consumed
          have present := consumed.advance.1
          have firstPassing : isLiteralCharacter first = true := by
            apply passing
            rw [writtenEq]
            exact List.mem_cons_self
          have different := fun mark =>
            ne_of_test isLiteralCharacter first mark firstPassing
          unfold readSimple
          rw [present]
          split
          · contradiction
          · rename_i same
            exact absurd (Option.some.inj same) (different '/' (by decide))
          · rename_i same
            exact absurd (Option.some.inj same) (different '}' (by decide))
          · rename_i same
            exact absurd (Option.some.inj same) (different '*' (by decide))
          · rename_i same
            exact absurd (Option.some.inj same) (different '{' (by decide))
          · rename_i found _ _ _ _ same
            cases same
            rw [if_pos firstPassing]
            unfold readLiteral
            rw [runEq, skipEq, String.ofList_toList]
  | wildcard =>
      unfold readSimple
      rw [consumed.advance.1]
      exact readStars_of_one cursor next consumed stops
  | deepWildcard =>
      unfold readSimple
      rw [consumed.advance.1]
      exact readStars_of_two cursor next consumed stops

theorem readStars_ne_deepWildcardNotLast (cursor : Cursor) :
    readStars cursor ≠ .error .deepWildcardNotLast := by
  intro failed
  unfold readStars at failed
  simp only at failed
  split at failed <;> split at failed <;> cases failed

theorem readSimple_ne_deepWildcardNotLast (cursor : Cursor) :
    readSimple cursor ≠ .error .deepWildcardNotLast := by
  intro failed
  unfold readSimple at failed
  split at failed
  · cases failed
  · cases failed
  · cases failed
  · exact readStars_ne_deepWildcardNotLast cursor failed
  · cases failed
  · split at failed <;> cases failed

theorem simpleReader_recognizes : simpleReader.Recognizes SpellsSimple :=
  { sound := readSimple_sound
    complete := readSimple_complete
    ne_deepWildcardNotLast := readSimple_ne_deepWildcardNotLast }

/-! ### Lists of segments -/

variable {reader : Reader Segment} {Spelled : Segment → List Char → Prop}

theorem readSegments_of_no_slash (cursor next : Cursor) (segment : Segment)
    (segmentRead : reader.read cursor = .ok (segment, next))
    (noSlash : next.peek? ≠ some '/') :
    readSegments reader cursor = .ok ([segment], next) := by
  rw [readSegments]
  split
  · rename_i defect failed
    rw [segmentRead] at failed
    cases failed
  · rename_i found afterFound foundRead
    rw [segmentRead] at foundRead
    cases foundRead
    rw [if_neg noSlash]

theorem readSegments_of_slash (cursor next last : Cursor)
    (segment : Segment) (segments : List Segment)
    (segmentRead : reader.read cursor = .ok (segment, next))
    (slash : next.peek? = some '/')
    (restRead : readSegments reader next.advance = .ok (segments, last)) :
    readSegments reader cursor = .ok (segment :: segments, last) := by
  rw [readSegments]
  split
  · rename_i defect failed
    rw [segmentRead] at failed
    cases failed
  · rename_i found afterFound foundRead
    rw [segmentRead] at foundRead
    cases foundRead
    simp only [if_pos slash, restRead]

theorem readSegments_sound (recognizes : reader.Recognizes Spelled)
    (cursor : Cursor) (segments : List Segment) (next : Cursor)
    (result : readSegments reader cursor = .ok (segments, next)) :
    ∃ texts,
      List.Forall₂ Spelled segments texts ∧ segments ≠ [] ∧
        cursor.Consumes (joined texts) next := by
  fun_induction readSegments reader cursor generalizing segments next with
  | case1 => cases result
  | case2 => cases result
  | case3 cursor segment afterSegment segmentRead slash rest last restRead
      inductionHypothesis =>
      cases result
      obtain ⟨text, textSpelled, textConsumed⟩ :=
        recognizes.sound cursor segment afterSegment segmentRead
      obtain ⟨texts, textsSpelled, inhabited, textsConsumed⟩ :=
        inductionHypothesis rest last restRead
      refine
        ⟨text :: texts, .cons textSpelled textsSpelled,
          List.cons_ne_nil _ _, ?_⟩
      have slashConsumed := afterSegment.consumes_advance '/' slash
      cases textsSpelled with
      | nil =>
          exact absurd rfl inhabited
      | cons _ _ =>
          rw [joined_cons_cons]
          exact textConsumed.trans (slashConsumed.trans textsConsumed)
  | case4 cursor segment afterSegment segmentRead noSlash =>
      cases result
      obtain ⟨text, textSpelled, textConsumed⟩ :=
        recognizes.sound cursor segment afterSegment segmentRead
      refine
        ⟨[text], .cons textSpelled .nil, List.cons_ne_nil _ _, ?_⟩
      rw [joined_singleton]
      exact textConsumed

theorem readSegments_complete (recognizes : reader.Recognizes Spelled)
    (segments : List Segment) (texts : List (List Char))
    (spelled : List.Forall₂ Spelled segments texts)
    (inhabited : segments ≠ []) (cursor next : Cursor)
    (consumed : cursor.Consumes (joined texts) next)
    (ends : next.peek? = none ∨ next.peek? = some '}') :
    readSegments reader cursor = .ok (segments, next) := by
  induction spelled generalizing cursor with
  | nil =>
      exact absurd rfl inhabited
  | @cons segment text rest texts textSpelled restSpelled
      inductionHypothesis =>
      cases restSpelled with
      | nil =>
          rw [joined_singleton] at consumed
          have stops : next.Stops := by
            rcases ends with ended | brace
            · exact .inl ended
            · exact .inr (.inr brace)
          have noSlash : next.peek? ≠ some '/' := by
            rcases ends with ended | brace
            · rw [ended]
              exact nofun
            · rw [brace]
              decide
          have segmentRead :=
            recognizes.complete cursor segment text next textSpelled
              consumed stops
          exact readSegments_of_no_slash cursor next segment segmentRead noSlash
      | @cons second secondText others otherTexts secondSpelled
          othersSpelled =>
          rw [joined_cons_cons] at consumed
          obtain ⟨middle, textConsumed, restConsumed⟩ :=
            consumed.split text _
          obtain ⟨slash, othersConsumed⟩ := restConsumed.advance
          have restRead :=
            inductionHypothesis (List.cons_ne_nil _ _) middle.advance
              othersConsumed
          have segmentRead :=
            recognizes.complete cursor segment text middle textSpelled
              textConsumed (.inr (.inl slash))
          exact
            readSegments_of_slash cursor middle next segment _ segmentRead
              slash restRead

theorem readSegments_ne_deepWildcardNotLast
    (recognizes : reader.Recognizes Spelled) (cursor : Cursor) :
    readSegments reader cursor ≠ .error .deepWildcardNotLast := by
  intro failed
  fun_induction readSegments reader cursor with
  | case1 cursor defect segmentRead =>
      cases failed
      exact recognizes.ne_deepWildcardNotLast cursor segmentRead
  | case2 cursor segment next segmentRead slash defect restRead
      inductionHypothesis =>
      cases failed
      exact inductionHypothesis restRead
  | case3 => cases failed
  | case4 => cases failed

/-! ### Fields -/

theorem readFieldBody_of_sign (cursor : Cursor)
    (sign : cursor.peek? = some '=') :
    readFieldBody cursor = readSegments simpleReader cursor.advance := by
  unfold readFieldBody
  rw [if_pos sign]

theorem readFieldBody_of_no_sign (cursor : Cursor)
    (noSign : cursor.peek? ≠ some '=') :
    readFieldBody cursor = .ok ([.wildcard], cursor) := by
  unfold readFieldBody
  rw [if_neg noSign]

/-- What a successful reading of a field has gone through. -/
theorem readField_ok (cursor : Cursor) (segment : Segment) (next : Cursor)
    (result : readField cursor = .ok (segment, next)) :
    ∃ segments afterBody,
      isFieldPath (cursor.advance.run isFieldPathCharacter) = true ∧
        readFieldBody (cursor.advance.skipRun isFieldPathCharacter) =
          .ok (segments, afterBody) ∧
        afterBody.peek? = some '}' ∧
        segment =
          .field
            (String.ofList (cursor.advance.run isFieldPathCharacter))
            segments ∧
        next = afterBody.advance := by
  unfold readField at result
  simp only at result
  split at result
  · rename_i isPath
    split at result
    · cases result
    · rename_i segments afterBody bodyRead
      split at result
      · rename_i brace
        cases result
        exact ⟨segments, afterBody, isPath, bodyRead, brace, rfl, rfl⟩
      · cases result
      · cases result
      · cases result
  · cases result

theorem readField_sound (cursor : Cursor) (segment : Segment)
    (next : Cursor) (present : cursor.peek? = some '{')
    (result : readField cursor = .ok (segment, next)) :
    ∃ text, Spells segment text ∧ cursor.Consumes text next := by
  obtain ⟨segments, afterBody, pathPassing, bodyRead, brace, rfl, rfl⟩ :=
    readField_ok cursor segment next result
  have openConsumed := cursor.consumes_advance '{' present
  have pathConsumed := cursor.advance.consumes_run isFieldPathCharacter
  have closeConsumed := afterBody.consumes_advance '}' brace
  have isPath :
      FieldPath
        (String.ofList
          (cursor.advance.run isFieldPathCharacter)).toList := by
    rw [String.toList_ofList]
    exact (isFieldPath_iff _).mp pathPassing
  by_cases sign :
      (cursor.advance.skipRun isFieldPathCharacter).peek? = some '='
  · rw [readFieldBody_of_sign _ sign] at bodyRead
    obtain ⟨texts, spelled, inhabited, textsConsumed⟩ :=
      readSegments_sound simpleReader_recognizes _ _ _ bodyRead
    have signConsumed := Cursor.consumes_advance _ '=' sign
    have spelledField :=
      Spells.field _ isPath segments texts inhabited spelled
    rw [String.toList_ofList] at spelledField
    refine ⟨_, spelledField, ?_⟩
    exact
      openConsumed.trans
        (pathConsumed.trans
          (signConsumed.trans (textsConsumed.trans closeConsumed)))
  · rw [readFieldBody_of_no_sign _ sign] at bodyRead
    cases bodyRead
    have spelledField := Spells.bareField _ isPath
    rw [String.toList_ofList] at spelledField
    exact
      ⟨_, spelledField,
        openConsumed.trans (pathConsumed.trans closeConsumed)⟩

theorem readField_path (path : List Char) (isPath : FieldPath path)
    (cursor afterPath : Cursor)
    (consumed : cursor.Consumes ('{' :: path) afterPath)
    (mark : Char) (present : afterPath.peek? = some mark)
    (stopping : isFieldPathCharacter mark = false) :
    cursor.advance.run isFieldPathCharacter = path ∧
      cursor.advance.skipRun isFieldPathCharacter = afterPath := by
  apply consumed.advance.2.run_eq isFieldPathCharacter isPath.characters
  intro character found
  rw [present] at found
  cases found
  exact stopping

/-- A field is read when its path, its body and its closing brace are. -/
theorem readField_of_body (path : String) (isPath : FieldPath path.toList)
    (cursor afterPath afterBody next : Cursor)
    (pathConsumed : cursor.Consumes ('{' :: path.toList) afterPath)
    (mark : Char) (present : afterPath.peek? = some mark)
    (stopping : isFieldPathCharacter mark = false)
    (segments : List Segment)
    (bodyRead : readFieldBody afterPath = .ok (segments, afterBody))
    (closeConsumed : afterBody.Consumes ['}'] next) :
    readField cursor = .ok (.field path segments, next) := by
  obtain ⟨runEq, skipEq⟩ :=
    readField_path path.toList isPath cursor afterPath pathConsumed mark
      present stopping
  have brace := closeConsumed.advance.1
  have nextEq : afterBody.advance = next :=
    (afterBody.consumes_advance '}' brace).unique closeConsumed
  have passing : isFieldPath path.toList = true :=
    (isFieldPath_iff path.toList).mpr isPath
  unfold readField
  simp only [runEq, skipEq, if_pos passing, bodyRead, brace, nextEq,
    String.ofList_toList]

theorem readField_complete (cursor : Cursor) (path : String)
    (segments : List Segment) (text : List Char) (next : Cursor)
    (spelled : Spells (.field path segments) text)
    (consumed : cursor.Consumes text next) :
    cursor.peek? = some '{' ∧
      readField cursor = .ok (.field path segments, next) := by
  cases spelled with
  | simple _ _ spelled =>
      cases spelled
  | bareField _ isPath =>
      refine ⟨consumed.advance.1, ?_⟩
      rw [← List.cons_append] at consumed
      obtain ⟨afterPath, pathConsumed, closeConsumed⟩ :=
        consumed.split ('{' :: path.toList) ['}']
      have brace := closeConsumed.advance.1
      have noSign : afterPath.peek? ≠ some '=' := by
        rw [brace]
        decide
      exact
        readField_of_body path isPath cursor afterPath afterPath next
          pathConsumed '}' brace (by decide) [.wildcard]
          (readFieldBody_of_no_sign afterPath noSign) closeConsumed
  | field _ isPath _ texts inhabited spelled =>
      refine ⟨consumed.advance.1, ?_⟩
      rw [← List.cons_append] at consumed
      obtain ⟨afterPath, pathConsumed, afterPathConsumed⟩ :=
        consumed.split ('{' :: path.toList) _
      obtain ⟨sign, bodyConsumed⟩ := afterPathConsumed.advance
      obtain ⟨afterBody, textsConsumed, closeConsumed⟩ :=
        bodyConsumed.split (joined texts) ['}']
      have bodyRead :=
        readSegments_complete simpleReader_recognizes segments texts spelled
          inhabited afterPath.advance afterBody textsConsumed
          (.inr closeConsumed.advance.1)
      rw [← readFieldBody_of_sign afterPath sign] at bodyRead
      exact
        readField_of_body path isPath cursor afterPath afterBody next
          pathConsumed '=' sign (by decide) segments bodyRead closeConsumed

theorem readField_ne_deepWildcardNotLast (cursor : Cursor) :
    readField cursor ≠ .error .deepWildcardNotLast := by
  intro failed
  unfold readField at failed
  simp only at failed
  split at failed
  · split at failed
    · rename_i defect bodyRead
      cases failed
      unfold readFieldBody at bodyRead
      split at bodyRead
      · exact
          readSegments_ne_deepWildcardNotLast simpleReader_recognizes _
            bodyRead
      · cases bodyRead
    · split at failed <;> cases failed
  · cases failed

/-! ### Segments of a pattern -/

theorem SpellsSimple.head_ne_brace (segment : Segment) (text : List Char)
    (spelled : SpellsSimple segment text) :
    ∃ first rest, text = first :: rest ∧ first ≠ '{' := by
  cases textEq : text with
  | nil =>
      exfalso
      cases spelled with
      | literal written isLiteral => exact isLiteral.1 textEq
      | wildcard => cases textEq
      | deepWildcard => cases textEq
  | cons first rest =>
      have characters := spelled.characters _ _ first
      rw [textEq] at characters
      exact ⟨first, rest, rfl, (characters List.mem_cons_self).1⟩

theorem readSegment_sound (cursor : Cursor) (segment : Segment)
    (next : Cursor) (result : readSegment cursor = .ok (segment, next)) :
    ∃ text, Spells segment text ∧ cursor.Consumes text next := by
  unfold readSegment at result
  split at result
  · rename_i present
    exact readField_sound cursor segment next present result
  · obtain ⟨text, spelled, consumed⟩ :=
      readSimple_sound cursor segment next result
    exact ⟨text, .simple segment text spelled, consumed⟩

theorem readSegment_complete (cursor : Cursor) (segment : Segment)
    (text : List Char) (next : Cursor) (spelled : Spells segment text)
    (consumed : cursor.Consumes text next) (stops : next.Stops) :
    readSegment cursor = .ok (segment, next) := by
  have ofField :
      ∀ path segments, segment = .field path segments →
        readSegment cursor = .ok (segment, next) := by
    rintro path segments rfl
    obtain ⟨present, fieldRead⟩ :=
      readField_complete cursor path segments text next spelled consumed
    unfold readSegment
    rw [if_pos present, fieldRead]
  cases spelled with
  | simple _ _ simpleSpelled =>
      obtain ⟨first, rest, textEq, noBrace⟩ :=
        SpellsSimple.head_ne_brace segment text simpleSpelled
      have notField : cursor.peek? ≠ some '{' := by
        rw [textEq] at consumed
        rw [consumed.advance.1]
        exact fun same => noBrace (Option.some.inj same)
      unfold readSegment
      rw [if_neg notField]
      exact
        readSimple_complete cursor segment text next simpleSpelled consumed
          stops
  | bareField path isPath => exact ofField path _ rfl
  | field path isPath segments texts inhabited spelled =>
      exact ofField path segments rfl

theorem readSegment_ne_deepWildcardNotLast (cursor : Cursor) :
    readSegment cursor ≠ .error .deepWildcardNotLast := by
  unfold readSegment
  split
  · exact readField_ne_deepWildcardNotLast cursor
  · exact readSimple_ne_deepWildcardNotLast cursor

theorem segmentReader_recognizes : segmentReader.Recognizes Spells :=
  { sound := readSegment_sound
    complete := readSegment_complete
    ne_deepWildcardNotLast := readSegment_ne_deepWildcardNotLast }

end Pattern

end HttpRouting
