/-
Offsets always fit the text.

Reading by byte offsets, with all its checks, comes to the same as reading with
a cursor: the offset is at every step that of the cursor, which stands at a
character boundary of the part before the verb.  So no check ever fails, and
patterns and paths are read to the end, whatever characters they hold.
-/

import HttpRouting.Proofs.DefectPlaces
import HttpRouting.Proofs.OffsetReading

namespace HttpRouting

/-! ### Cursors within a text -/

theorem utf8Length_pos (text : List Char) (inhabited : text ≠ []) :
    0 < utf8Length text := by
  cases text with
  | nil =>
      exact absurd rfl inhabited
  | cons character rest =>
      have positive := character.utf8Size_pos
      rw [utf8Length_cons]
      omega

namespace Cursor

variable {text : List Char} {cursor next : Cursor}

theorem Within.offset_le (within : cursor.Within text) :
    cursor.offset ≤ utf8Length text := by
  rcases within with ⟨consumed, textEq, offsetEq⟩
  rw [textEq, offsetEq, utf8Length_append]
  exact Nat.le_add_right _ _

theorem Within.offset_eq_iff (within : cursor.Within text) :
    cursor.offset = utf8Length text ↔ cursor.rest = [] := by
  rcases within with ⟨consumed, textEq, offsetEq⟩
  rw [textEq, offsetEq, utf8Length_append]
  constructor
  · intro lengthEq
    by_contra inhabited
    have positive := utf8Length_pos cursor.rest inhabited
    omega
  · intro ended
    rw [ended, utf8Length_nil, Nat.add_zero]

theorem Within.offset_lt (within : cursor.Within text)
    (nextWithin : next.Within text)
    (shorter : next.rest.length < cursor.rest.length) :
    cursor.offset < next.offset := by
  rcases within with ⟨consumed, textEq, offsetEq⟩
  rcases nextWithin with ⟨nextConsumed, nextTextEq, nextOffsetEq⟩
  have same := congrArg List.length (textEq.symm.trans nextTextEq)
  rw [List.length_append, List.length_append] at same
  have shorterFront : consumed.length ≤ nextConsumed.length := by
    omega
  rcases List.prefix_of_prefix_length_le ⟨_, textEq.symm⟩
      ⟨_, nextTextEq.symm⟩ shorterFront with
    ⟨between, betweenEq⟩
  have inhabited : between ≠ [] := by
    rintro rfl
    rw [List.append_nil] at betweenEq
    rw [betweenEq] at same
    omega
  have positive := utf8Length_pos between inhabited
  rw [offsetEq, nextOffsetEq, ← betweenEq, utf8Length_append]
  omega

theorem skipRun_of_ended (passes : Char → Bool) (cursor : Cursor)
    (ended : cursor.peek? = none) : cursor.skipRun passes = cursor := by
  rw [peek?_eq_none_iff] at ended
  cases cursor with
  | mk offset rest =>
      cases ended
      rfl

theorem skipRun_of_passing (passes : Char → Bool) (cursor : Cursor)
    (character : Char) (present : cursor.peek? = some character)
    (passing : passes character = true) :
    cursor.skipRun passes = cursor.advance.skipRun passes := by
  rcases (peek?_eq_some_iff cursor character).mp present with ⟨rest, restEq⟩
  cases cursor with
  | mk offset characters =>
      cases restEq
      unfold skipRun run advance
      simp only [List.takeWhile_cons_of_pos passing,
        List.dropWhile_cons_of_pos passing, utf8Length_cons, Nat.add_assoc]

theorem skipRun_of_failing (passes : Char → Bool) (cursor : Cursor)
    (character : Char) (present : cursor.peek? = some character)
    (failing : ¬ passes character = true) :
    cursor.skipRun passes = cursor := by
  rcases (peek?_eq_some_iff cursor character).mp present with ⟨rest, restEq⟩
  cases cursor with
  | mk offset characters =>
      cases restEq
      unfold skipRun run
      simp only [List.takeWhile_cons_of_neg failing,
        List.dropWhile_cons_of_neg failing, utf8Length_nil, Nat.add_zero]

end Cursor

namespace Offsets

/-! ### Steps at a cursor -/

theorem slice_of_parts (before part after : List Char) :
    slice (before ++ part ++ after) (utf8Length before)
        (utf8Length (before ++ part)) =
      .ok part :=
  (slice_eq_ok_iff _ _ _ _).mpr ⟨before, after, rfl, rfl, rfl⟩

theorem slice_eq_ok_iff_cutAt (text part : List Char) (lower upper : Nat) :
    slice text lower upper = .ok part ↔
      ∃ before after,
        Grammar.CutAt text lower before (part ++ after) ∧
          Grammar.CutAt text upper (before ++ part) after := by
  rw [slice_eq_ok_iff]
  constructor
  · rintro ⟨before, after, textEq, lowerEq, upperEq⟩
    refine ⟨before, after, ⟨?_, ?_⟩, textEq, ?_⟩
    · rw [textEq, List.append_assoc]
    · rw [utf8ByteSize_ofList, lowerEq]
    · rw [utf8ByteSize_ofList, upperEq]
  · rintro ⟨before, after, ⟨_, lowerEq⟩, textEq, upperEq⟩
    rw [utf8ByteSize_ofList] at lowerEq upperEq
    exact ⟨before, after, textEq, lowerEq, upperEq⟩

theorem slices_of_colon (front rest : List Char) :
    slice (front ++ ':' :: rest) 0 (utf8Length front) = .ok front ∧
      slice (front ++ ':' :: rest) (utf8Length front + 1)
          (utf8Length (front ++ ':' :: rest)) =
        .ok rest := by
  constructor
  · exact slice_of_parts [] front (':' :: rest)
  · rw [slice_eq_ok_iff]
    refine ⟨front ++ [':'], [], ?_, ?_, ?_⟩
    · simp
    · rw [utf8Length_append]
      rfl
    · simp

section Readers

variable {body : List Char} (tail : List Char)

theorem peek_eq (cursor : Cursor) (within : cursor.Within body) :
    peek (body ++ tail) (utf8Length body) cursor.offset =
      .ok cursor.peek? := by
  rcases within with ⟨consumed, bodyEq, offsetEq⟩
  unfold peek
  rw [bodyEq, offsetEq]
  cases restEq : cursor.rest with
  | nil =>
      rw [List.append_nil, if_neg (Nat.lt_irrefl _)]
      unfold Cursor.peek?
      rw [restEq]
      rfl
  | cons character rest =>
      have before :
          utf8Length consumed < utf8Length (consumed ++ character :: rest) := by
        have positive :=
          utf8Length_pos (character :: rest) (List.cons_ne_nil _ _)
        rw [utf8Length_append]
        omega
      rw [if_pos before, slice_of_parts]
      unfold Cursor.peek?
      rw [restEq]
      rfl

theorem bump_eq (cursor : Cursor) (within : cursor.Within body)
    (character : Char) (present : cursor.peek? = some character) :
    bump (utf8Length body) cursor.offset character =
      .ok cursor.advance.offset := by
  have advanced := cursor.consumes_advance character present
  have offsetEq :
      cursor.advance.offset = cursor.offset + character.utf8Size :=
    advanced.2
  have bound := (cursor.advance_within body within).offset_le
  unfold bump
  rw [← offsetEq]
  exact if_pos bound

theorem forward_advance (cursor : Cursor) (within : cursor.Within body)
    (character : Char) (present : cursor.peek? = some character) :
    cursor.offset < cursor.advance.offset ∧
      cursor.advance.offset ≤ utf8Length body := by
  have nextWithin := cursor.advance_within body within
  have shorter := cursor.advance_length_lt character present
  exact ⟨within.offset_lt nextWithin shorter, nextWithin.offset_le⟩

theorem skipRun_eq (passes : Char → Bool) (cursor : Cursor)
    (within : cursor.Within body) :
    skipRun (body ++ tail) (utf8Length body) passes cursor.offset =
      .ok (cursor.skipRun passes).offset := by
  rw [skipRun, peek_eq tail cursor within, ok_bind]
  cases present : cursor.peek? with
  | none =>
      rw [Cursor.skipRun_of_ended passes cursor present]
      rfl
  | some character =>
      simp only
      by_cases passing : passes character = true
      · have shorter := cursor.advance_length_lt character present
        rw [if_pos passing, bump_eq cursor within character present, ok_bind,
          dif_pos (forward_advance cursor within character present),
          skipRun_eq passes cursor.advance
            (cursor.advance_within body within),
          Cursor.skipRun_of_passing passes cursor character present passing]
      · rw [if_neg passing,
          Cursor.skipRun_of_failing passes cursor character present passing]
        rfl
termination_by cursor.rest.length

theorem slice_run (passes : Char → Bool) (cursor : Cursor)
    (within : cursor.Within body) :
    slice (body ++ tail) cursor.offset (cursor.skipRun passes).offset =
      .ok (cursor.run passes) := by
  rcases within with ⟨consumed, bodyEq, offsetEq⟩
  rcases cursor.consumes_run passes with ⟨restEq, stopEq⟩
  rw [slice_eq_ok_iff]
  refine ⟨consumed, (cursor.skipRun passes).rest ++ tail, ?_, offsetEq, ?_⟩
  · rw [bodyEq, restEq]
    simp only [List.append_assoc]
  · rw [stopEq, offsetEq, utf8Length_append]

/-! ### Readers at a cursor -/

/-- What is read by offsets when a cursor within the body leads to a result:
the same value and offset, or the same defect. -/
inductive Follows {Value : Type} (body : List Char) :
    Except Defect (Value × Cursor) → Except Failure (Value × Nat) → Prop where
  | ok (value : Value) (next : Cursor) (within : next.Within body) :
      Follows body (.ok (value, next)) (.ok (value, next.offset))
  | error (defect : Defect) :
      Follows body (.error defect) (.error (.defect defect))

theorem Follows.eq_error {Value : Type} {defect : Defect}
    {outcome : Except Failure (Value × Nat)}
    (follows : Follows body (.error defect) outcome) :
    outcome = .error (.defect defect) := by
  cases follows
  rfl

theorem Follows.eq_ok {Value : Type} {value : Value} {next : Cursor}
    {outcome : Except Failure (Value × Nat)}
    (follows : Follows body (.ok (value, next)) outcome) :
    outcome = .ok (value, next.offset) ∧ next.Within body := by
  cases follows with
  | ok _ _ within =>
      exact ⟨rfl, within⟩

def FollowsReader {Value : Type} (body : List Char)
    (read : Cursor → Except Defect (Value × Cursor))
    (reading : Reading Value) : Prop :=
  ∀ cursor : Cursor,
    cursor.Within body → Follows body (read cursor) (reading cursor.offset)

theorem endStars_follows (segment : Segment) (cursor : Cursor)
    (within : cursor.Within body) :
    Follows body
      (match cursor.peek? with
      | none | some '/' | some '}' => .ok (segment, cursor)
      | some found => .error (.invalidCharacter cursor.offset found))
      (endStars (body ++ tail) (utf8Length body) segment cursor.offset) := by
  unfold endStars
  rw [peek_eq tail cursor within, ok_bind]
  split
  case h_1 ended =>
    rw [ended]
    exact .ok segment cursor within
  case h_2 slash =>
    rw [slash]
    exact .ok segment cursor within
  case h_3 closing =>
    rw [closing]
    exact .ok segment cursor within
  case h_4 found notSlash notClosing present =>
    rw [present]
    simp only
    rw [if_neg (not_or.mpr ⟨notSlash, notClosing⟩)]
    exact .error _

theorem readStars_follows (cursor : Cursor) (within : cursor.Within body)
    (present : cursor.peek? = some '*') :
    Follows body (Pattern.readStars cursor)
      (readStars (body ++ tail) (utf8Length body) cursor.offset) := by
  have afterFirst := cursor.advance_within body within
  unfold readStars Pattern.readStars
  rw [bump_eq cursor within '*' present, ok_bind,
    peek_eq tail cursor.advance afterFirst, ok_bind]
  by_cases second : cursor.advance.peek? = some '*'
  · rw [if_pos second, bump_eq cursor.advance afterFirst '*' second, ok_bind]
    have isSecond : (cursor.advance.peek? == some '*') = true :=
      beq_iff_eq.mpr second
    simp only [isSecond]
    exact endStars_follows tail .deepWildcard cursor.advance.advance
      (cursor.advance.advance_within body afterFirst)
  · rw [if_neg second]
    have notSecond : (cursor.advance.peek? == some '*') = false :=
      beq_eq_false_iff_ne.mpr second
    simp only [notSecond]
    exact endStars_follows tail .wildcard cursor.advance afterFirst

theorem readLiteral_follows (cursor : Cursor) (within : cursor.Within body) :
    Follows body (.ok (Pattern.readLiteral cursor))
      (readLiteral (body ++ tail) (utf8Length body) cursor.offset) := by
  unfold readLiteral
  rw [skipRun_eq tail _ cursor within, ok_bind,
    slice_run tail _ cursor within, ok_bind]
  exact .ok _ _ (cursor.skipRun_within body _ within)

/-- Behind a slash the loop takes a turn, which goes forward. -/
theorem readSegments_of_slash (reading : Reading Segment)
    (cursor next : Cursor) (segment : Segment)
    (within : cursor.Within body) (nextWithin : next.Within body)
    (shorter : next.rest.length < cursor.rest.length)
    (segmentRead : reading cursor.offset = .ok (segment, next.offset))
    (slash : next.peek? = some '/') :
    readSegments (body ++ tail) (utf8Length body) reading cursor.offset =
      readSegments (body ++ tail) (utf8Length body) reading
          next.advance.offset >>=
        fun read => .ok (segment :: read.1, read.2) := by
  have slashForward := forward_advance next nextWithin '/' slash
  have forward := within.offset_lt nextWithin shorter
  rw [readSegments, segmentRead, ok_bind]
  simp only
  rw [peek_eq tail next nextWithin, ok_bind, if_pos slash,
    bump_eq next nextWithin '/' slash, ok_bind,
    dif_pos ⟨forward.trans slashForward.1, slashForward.2⟩]
  rfl

theorem readSegments_of_no_slash (reading : Reading Segment)
    (cursor next : Cursor) (segment : Segment)
    (nextWithin : next.Within body)
    (segmentRead : reading cursor.offset = .ok (segment, next.offset))
    (noSlash : next.peek? ≠ some '/') :
    readSegments (body ++ tail) (utf8Length body) reading cursor.offset =
      .ok ([segment], next.offset) := by
  rw [readSegments, segmentRead, ok_bind]
  simp only
  rw [peek_eq tail next nextWithin, ok_bind, if_neg noSlash]
  rfl

theorem readSegments_follows (reader : Pattern.Reader Segment)
    (reading : Reading Segment)
    (follows : FollowsReader body reader.read reading) :
    FollowsReader body (Pattern.readSegments reader)
      (readSegments (body ++ tail) (utf8Length body) reading) := by
  intro cursor within
  have segmentFollows := follows cursor within
  fun_induction Pattern.readSegments reader cursor with
  -- Each case of the list reader has read a segment first, or failed to.
  | case1 cursor defect segmentFailed =>
      rw [segmentFailed] at segmentFollows
      rw [readSegments, segmentFollows.eq_error]
      exact .error defect
  | case2 cursor segment next segmentRead slash defect restFailed
      inductionHypothesis =>
      rw [segmentRead] at segmentFollows
      rcases segmentFollows.eq_ok with ⟨readingEq, nextWithin⟩
      have shorter := reader.advances cursor segment next segmentRead
      have advanceWithin := next.advance_within body nextWithin
      have restFollows :=
        inductionHypothesis advanceWithin (follows _ advanceWithin)
      rw [restFailed] at restFollows
      rw [readSegments_of_slash tail reading cursor next segment within
        nextWithin shorter readingEq slash, restFollows.eq_error]
      exact .error defect
  | case3 cursor segment next segmentRead slash rest last restRead
      inductionHypothesis =>
      rw [segmentRead] at segmentFollows
      rcases segmentFollows.eq_ok with ⟨readingEq, nextWithin⟩
      have shorter := reader.advances cursor segment next segmentRead
      have advanceWithin := next.advance_within body nextWithin
      have restFollows :=
        inductionHypothesis advanceWithin (follows _ advanceWithin)
      rw [restRead] at restFollows
      rcases restFollows.eq_ok with ⟨restEq, lastWithin⟩
      rw [readSegments_of_slash tail reading cursor next segment within
        nextWithin shorter readingEq slash, restEq, ok_bind]
      exact .ok (segment :: rest) last lastWithin
  | case4 cursor segment next segmentRead noSlash =>
      rw [segmentRead] at segmentFollows
      rcases segmentFollows.eq_ok with ⟨readingEq, nextWithin⟩
      rw [readSegments_of_no_slash tail reading cursor next segment
        nextWithin readingEq noSlash]
      exact .ok [segment] next nextWithin

/-- Reading a segment follows every reader that takes the segments other than
fields as they are, as soon as what is done at a brace follows it. -/
theorem readSegment_follows (read : Cursor → Except Defect (Segment × Cursor))
    (onBrace : Reading Segment)
    (braceFollows :
      ∀ cursor : Cursor,
        cursor.Within body → cursor.peek? = some '{' →
          Follows body (read cursor) (onBrace cursor.offset))
    (otherwise :
      ∀ cursor : Cursor,
        cursor.peek? ≠ some '{' →
          read cursor = Pattern.readSimple cursor) :
    FollowsReader body read
      (readSegment (body ++ tail) (utf8Length body) onBrace) := by
  intro cursor within
  unfold readSegment
  rw [peek_eq tail cursor within, ok_bind]
  by_cases brace : cursor.peek? = some '{'
  · rw [brace]
    exact braceFollows cursor within brace
  · rw [otherwise cursor brace]
    unfold Pattern.readSimple
    split
    case h_1 ended =>
      rw [ended]
      exact .error _
    case h_2 slash =>
      rw [slash]
      exact .error _
    case h_3 closing =>
      rw [closing]
      exact .error _
    case h_4 star =>
      rw [star]
      exact readStars_follows tail cursor within star
    case h_5 opening =>
      exact absurd opening brace
    case h_6 found notSlash notClosing notStar notOpening present =>
      rw [present]
      simp only
      rw [if_neg (not_or.mpr ⟨notSlash, notClosing⟩), if_neg notStar,
        if_neg notOpening]
      by_cases literal : Pattern.isLiteralCharacter found = true
      · rw [if_pos literal, if_pos literal]
        exact readLiteral_follows tail cursor within
      · rw [if_neg literal, if_neg literal]
        exact .error _

theorem simple_follows :
    FollowsReader body Pattern.readSimple
      (readSegment (body ++ tail) (utf8Length body) nestedField) := by
  apply readSegment_follows tail
  · intro cursor _ brace
    unfold Pattern.readSimple
    rw [brace]
    exact .error _
  · exact fun _ _ => rfl

theorem readFieldBody_follows :
    FollowsReader body Pattern.readFieldBody
      (readFieldBody (body ++ tail) (utf8Length body)) := by
  intro cursor within
  unfold Pattern.readFieldBody readFieldBody
  rw [peek_eq tail cursor within, ok_bind]
  by_cases sign : cursor.peek? = some '='
  · rw [if_pos sign, if_pos sign, bump_eq cursor within '=' sign, ok_bind]
    exact readSegments_follows tail Pattern.simpleReader _
      (simple_follows tail) cursor.advance (cursor.advance_within body within)
  · rw [if_neg sign, if_neg sign]
    exact .ok _ cursor within

theorem readField_follows (cursor : Cursor) (within : cursor.Within body)
    (brace : cursor.peek? = some '{') :
    Follows body (Pattern.readField cursor)
      (readField (body ++ tail) (utf8Length body) cursor.offset) := by
  have startWithin := cursor.advance_within body within
  have endWithin :=
    cursor.advance.skipRun_within body Pattern.isFieldPathCharacter
      startWithin
  unfold Pattern.readField readField
  rw [bump_eq cursor within '{' brace, ok_bind,
    skipRun_eq tail _ cursor.advance startWithin, ok_bind,
    slice_run tail _ cursor.advance startWithin, ok_bind]
  simp only
  split
  case isFalse =>
    exact .error _
  case isTrue =>
    have bodyFollows := readFieldBody_follows tail _ endWithin
    split
    case h_1 defect bodyFailed =>
      rw [bodyFailed] at bodyFollows
      rw [bodyFollows.eq_error]
      exact .error defect
    case h_2 segments next bodyRead =>
      rw [bodyRead] at bodyFollows
      rcases bodyFollows.eq_ok with ⟨bodyEq, nextWithin⟩
      rw [bodyEq, ok_bind]
      simp only
      rw [peek_eq tail next nextWithin, ok_bind]
      split
      case h_1 closing =>
        rw [closing]
        simp only [if_true]
        rw [bump_eq next nextWithin '}' closing, ok_bind]
        exact .ok _ next.advance (next.advance_within body nextWithin)
      case h_2 opening =>
        rw [opening]
        exact .error _
      case h_3 found notClosing notOpening present =>
        rw [present]
        simp only
        rw [if_neg notClosing, if_neg notOpening]
        exact .error _
      case h_4 ended =>
        rw [ended]
        exact .error _

theorem segment_follows :
    FollowsReader body Pattern.readSegment
      (readSegment (body ++ tail) (utf8Length body)
        (readField (body ++ tail) (utf8Length body))) := by
  apply readSegment_follows tail
  · intro cursor within brace
    unfold Pattern.readSegment
    rw [if_pos brace]
    exact readField_follows tail cursor within brace
  · intro cursor noBrace
    exact if_neg noBrace

theorem readBody_eq (cursor : Cursor) (within : cursor.Within body) :
    readBody (body ++ tail) (utf8Length body) cursor.offset =
      (Pattern.readBody cursor).mapError .defect := by
  have atEnd := within.offset_eq_iff
  have segmentsFollow :=
    readSegments_follows tail Pattern.segmentReader _ (segment_follows tail)
      cursor within
  unfold readBody Pattern.readBody
  rw [if_pos within.offset_le]
  by_cases ended : cursor.rest = []
  · rw [if_pos (atEnd.mpr ended), if_pos ended]
    rfl
  · rw [if_neg (mt atEnd.mp ended), if_neg ended]
    split
    case h_1 defect failed =>
      rw [failed] at segmentsFollow
      rw [segmentsFollow.eq_error]
      rfl
    case h_2 segments next read =>
      rw [read] at segmentsFollow
      rcases segmentsFollow.eq_ok with ⟨readingEq, nextWithin⟩
      rw [readingEq, ok_bind]
      simp only
      rw [peek_eq tail next nextWithin, ok_bind]
      cases next.peek? <;> rfl

end Readers

/-! ### Whole patterns -/

/-- The scan has come through the text to a position, which is counted in
characters and in bytes. -/
structure Scanned (text consumed rest : List Char)
    (position offset : Nat) : Prop where
  textEq : text = consumed ++ rest
  positionEq : position = consumed.length
  offsetEq : offset = utf8Length consumed

theorem Scanned.next {text consumed rest : List Char} {character : Char}
    {position offset : Nat}
    (scanned : Scanned text consumed (character :: rest) position offset) :
    Scanned text (consumed ++ [character]) rest (position + 1)
      (offset + character.utf8Size) where
  textEq := by
    rw [scanned.textEq, List.append_assoc, List.singleton_append]
  positionEq := by
    rw [scanned.positionEq, List.length_append, List.length_singleton]
  offsetEq := by
    rw [scanned.offsetEq, utf8Length_append, utf8Length_cons,
      utf8Length_nil, Nat.add_zero]

theorem verbColon?_eq (text consumed rest : List Char)
    (depth position offset : Nat) (colon : Option Nat)
    (scanned : Scanned text consumed rest position offset) :
    verbColon? depth offset
        (colon.map (fun index => utf8Length (text.take index))) rest =
      (Pattern.verbColon? depth position colon rest).map
        (fun index => utf8Length (text.take index)) := by
  fun_induction Pattern.verbColon? depth position colon rest
    generalizing consumed offset with
  | case1 =>
      rfl
  | case2 depth position colon rest inductionHypothesis =>
      rw [verbColon?]
      exact inductionHypothesis _ _ scanned.next
  | case3 depth position colon rest inductionHypothesis =>
      rw [verbColon?]
      exact inductionHypothesis _ _ scanned.next
  | case4 depth position colon rest inductionHypothesis =>
      rw [verbColon?, ← inductionHypothesis _ _ scanned.next]
      split <;> rfl
  | case5 depth position colon rest inductionHypothesis =>
      have here : utf8Length (text.take position) = offset := by
        rw [scanned.textEq, scanned.positionEq, List.take_left,
          scanned.offsetEq]
      rw [verbColon?, ← inductionHypothesis _ _ scanned.next, ← here]
      split <;> rfl
  | case6 depth position colon character rest notOpening notClosing notSlash
      notColon inductionHypothesis =>
      rw [verbColon?.eq_6 _ _ _ _ _ notOpening notClosing notSlash notColon]
      exact inductionHypothesis _ _ scanned.next

theorem splitVerb_eq (pattern : List Char) :
    splitVerb pattern =
      ((Pattern.splitVerb pattern).mapError .defect).map
        (fun parts => (utf8Length parts.1, parts.2)) := by
  have colonEq :
      verbColon? 0 0 none pattern =
        (Pattern.verbColon? 0 0 none pattern).map
          (fun index => utf8Length (pattern.take index)) :=
    verbColon?_eq pattern [] pattern 0 0 0 none ⟨rfl, rfl, rfl⟩
  unfold splitVerb Pattern.splitVerb
  rw [colonEq]
  cases found : Pattern.verbColon? 0 0 none pattern with
  | none =>
      rfl
  | some index =>
      rcases Pattern.exists_parts_of_verbColon? pattern index found with
        ⟨front, verb, patternEq, frontEq, verbEq, _⟩
      rcases slices_of_colon front verb with ⟨frontSlice, verbSlice⟩
      rw [← patternEq] at frontSlice verbSlice
      rw [Option.map_some, frontEq]
      simp only [frontEq, verbEq]
      rw [frontSlice, ok_bind]
      by_cases slash : front.getLast? = some '/'
      · rw [if_pos slash, if_pos slash]
        rfl
      · rw [if_neg slash, if_neg slash, verbSlice, ok_bind]
        cases Pattern.checkVerb (utf8Length front) verb <;> rfl

theorem read_eq (pattern : List Char) :
    read pattern = (Pattern.read pattern).mapError .defect := by
  unfold read Pattern.read
  by_cases slash : pattern.head? = some '/'
  · rw [if_pos slash, if_pos slash, splitVerb_eq]
    cases cut : Pattern.splitVerb pattern with
    | error defect =>
        rfl
    | ok parts =>
        rcases parts with ⟨body, verb⟩
        rcases Pattern.exists_verbTail_of_splitVerb pattern body verb cut with
          ⟨tail, verbTail, patternEq⟩
        have bodySlash := Pattern.head?_of_splitVerb verbTail patternEq slash
        have within :=
          (Cursor.start body).advance_within body (Cursor.start_within body)
        have offsetEq : (Cursor.start body).advance.offset = 1 :=
          ((Cursor.start body).consumes_advance '/' bodySlash).2
        have bodyRead := readBody_eq tail _ within
        rw [← patternEq, offsetEq] at bodyRead
        change (readBody pattern (utf8Length body) 1 >>= _) = _
        rw [bodyRead]
        simp only
        cases Pattern.readBody (Cursor.start body).advance with
        | error defect =>
            rfl
        | ok segments =>
            simp only [Except.mapError]
            rw [ok_bind]
            split <;> rfl
  · rw [if_neg slash, if_neg slash]
    rfl

/-! ### Paths -/

theorem lastColon?_append (offset : Nat) (colon : Option Nat)
    (left right : List Char) :
    lastColon? offset colon (left ++ right) =
      lastColon? (offset + utf8Length left) (lastColon? offset colon left)
        right := by
  induction left generalizing offset colon with
  | nil =>
      rfl
  | cons character rest inductionHypothesis =>
      rw [List.cons_append, lastColon?, lastColon?, inductionHypothesis,
        utf8Length_cons, Nat.add_assoc]

theorem lastColon?_plain (offset : Nat) (colon : Option Nat)
    (text : List Char) (plain : ':' ∉ text) :
    lastColon? offset colon text = colon := by
  induction text generalizing offset with
  | nil =>
      rfl
  | cons character rest inductionHypothesis =>
      rw [List.mem_cons, not_or] at plain
      rw [lastColon?, if_neg (fun same => plain.1 same.symm),
        inductionHypothesis _ plain.2]

theorem splitLast_eq (component : List Char) :
    splitLast component = .ok (Request.splitLast component) := by
  unfold splitLast
  by_cases present : ':' ∈ component
  · rcases Request.exists_last_colon component present with
      ⟨front, verb, rfl, plain⟩
    have colonEq :
        lastColon? 0 none (front ++ ':' :: verb) =
          some (utf8Length front) := by
      rw [lastColon?_append, lastColon?, if_pos rfl,
        lastColon?_plain _ _ verb plain, Nat.zero_add]
    rcases slices_of_colon front verb with ⟨frontSlice, verbSlice⟩
    rw [colonEq, Request.splitLast_append_colon front verb plain]
    by_cases first : front = []
    · rw [if_pos first, first]
      rfl
    · have positive : decide (0 < utf8Length front) = true :=
        decide_eq_true (utf8Length_pos front first)
      rw [if_neg first, Option.filter_some, if_pos positive]
      simp only
      rw [verbSlice, ok_bind, frontSlice]
      rfl
  · rw [lastColon?_plain 0 none component present,
      Request.splitLast_of_plain component present]
    rfl

theorem split_eq (path : String) :
    split path.toList = .ok (Request.split path) := by
  unfold split Request.split
  cases Request.withoutLeadingSlash path.toList with
  | nil =>
      rfl
  | cons first rest =>
      unfold Request.ofComponents
      simp only
      cases ((first :: rest).splitOn '/').getLast? with
      | none =>
          rfl
      | some last =>
          simp only
          rw [splitLast_eq, ok_bind]
          rfl

/-- A slice is only ever taken between the ends of two prefixes, in bytes, a
position moves by whole characters up to the end at most, and a loop over
segments gives up at a turn that does not go forward.  Under these checks every
pattern leads to the template or the defect that parsing gives, and every path
to the request it splits into. -/
theorem offsets_fit_every_text :
    (∀ (text part : List Char) (lower upper : Nat),
        slice text lower upper = .ok part ↔
          ∃ before after,
            Grammar.CutAt text lower before (part ++ after) ∧
              Grammar.CutAt text upper (before ++ part) after) ∧
      (∀ (stop position next : Nat) (character : Char),
        bump stop position character = .ok next ↔
          next = position + character.utf8Size ∧ next ≤ stop) ∧
      (∀ (text : List Char) (stop position after next : Nat)
        (reading : Reading Segment) (segment : Segment),
        reading position = .ok (segment, after) →
          peek text stop after = .ok (some '/') →
            bump stop after '/' = .ok next → next ≤ position →
              readSegments text stop reading position =
                .error (.stuck position)) ∧
      (∀ pattern : String,
        (∃ template,
            read pattern.toList = .ok template ∧
              Template.parse pattern = .ok template) ∨
          ∃ defect,
            read pattern.toList = .error (.defect defect) ∧
              Template.parse pattern =
                .error
                  { pattern := pattern
                    defect := defect }) ∧
      ∀ path : String, split path.toList = .ok (Request.split path) := by
  refine
    ⟨slice_eq_ok_iff_cutAt, bump_eq_ok_iff, readSegments_of_no_progress, ?_,
      split_eq⟩
  intro pattern
  have readEq := read_eq pattern.toList
  unfold Template.parse
  cases result : Pattern.read pattern.toList with
  | ok template =>
      rw [result] at readEq
      exact .inl ⟨template, readEq, rfl⟩
  | error defect =>
      rw [result] at readEq
      exact .inr ⟨defect, readEq, rfl⟩

/-- A reading that leads back to the slash in front of it. -/
theorem offsets_fit_every_text_backward :
    let back : Reading Segment := fun _ => .ok (.wildcard, 1)
    peek "a/".toList 2 1 = .ok (some '/') ∧ bump 2 1 '/' = .ok 2 ∧
      readSegments "a/".toList 2 back 2 = .error (.stuck 2) := by
  intro back
  have slash : peek "a/".toList 2 1 = .ok (some '/') := by
    decide +kernel
  have bumped : bump 2 1 '/' = .ok 2 := by
    decide +kernel
  rcases offsets_fit_every_text with ⟨_, _, givesUp, _⟩
  exact
    ⟨slash, bumped,
      givesUp _ 2 2 1 2 back .wildcard rfl slash bumped (Nat.le_refl 2)⟩

/-- The letter takes two bytes, and no slice ends between them. -/
example :
    slice "/é:a".toList 0 2 = .error (.slice 0 2) ∧
      slice "/é:a".toList 0 3 = .ok "/é".toList ∧
      split "/é:a".toList =
        .ok
          { components := ["é"]
            verb := "a" } := by
  decide +kernel

end Offsets

end HttpRouting
