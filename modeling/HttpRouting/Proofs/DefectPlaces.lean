/-
What the defect of a rejected pattern shows.

Every defect is said of the pattern alone: what stands at the offset that it
names, in bytes, and what stands in front of it.  The readers are followed to
the cursor at which one of them stops.  On the way there they keep whether a
segment opens at the cursor and whether it stands inside braces.
-/

import HttpRouting.Proofs.Recognition

namespace HttpRouting

theorem utf8ByteSize_ofList (text : List Char) :
    (String.ofList text).utf8ByteSize = utf8Length text := by
  induction text with
  | nil =>
      rfl
  | cons character rest inductionHypothesis =>
      rw [String.ofList_cons, String.utf8ByteSize_append,
        String.utf8ByteSize_singleton, inductionHypothesis, utf8Length_cons]

namespace Grammar

/-! ### Defects of a pattern -/

def FieldPathCharacter (character : Char) : Prop :=
  IdentifierCharacter character ∨ character = '.'

/-- The pattern falls into two parts, the first of which has as many bytes in
UTF-8 as the offset says. -/
def CutAt (pattern : List Char) (offset : Nat)
    (before after : List Char) : Prop :=
  pattern = before ++ after ∧ offset = (String.ofList before).utf8ByteSize

/-- A segment is expected behind the text. -/
def SegmentOpens (before : List Char) : Prop :=
  before.getLast? = some '/' ∨ before.getLast? = some '='

def SegmentMissing (after : List Char) : Prop :=
  after = [] ∨ after.head? = some '/' ∨ after.head? = some '}' ∨
    after.head? = some ':'

def InBraces (text : List Char) : Prop :=
  ∃ before between, text = before ++ '{' :: between ∧ '}' ∉ between

/-- What a defect says of the pattern that has it. -/
inductive Shows (pattern : List Char) : Defect → Prop where
  | missingLeadingSlash (noSlash : pattern.head? ≠ some '/') :
      Shows pattern .missingLeadingSlash
  | emptySegment (offset : Nat) (before after : List Char)
      (cut : CutAt pattern offset before after)
      (opens : SegmentOpens before) (missing : SegmentMissing after) :
      Shows pattern (.emptySegment offset)
  | invalidCharacter (offset : Nat) (found : Char)
      (before after : List Char)
      (cut : CutAt pattern offset before (found :: after)) :
      Shows pattern (.invalidCharacter offset found)
  | unclosedField (unclosed : InBraces pattern) :
      Shows pattern .unclosedField
  | nestedField (offset : Nat) (before after : List Char)
      (cut : CutAt pattern offset before ('{' :: after))
      (inside : InBraces before) : Shows pattern (.nestedField offset)
  | invalidFieldPath (path : String) (before after : List Char)
      (patternEq : pattern = before ++ '{' :: (path.toList ++ after))
      (characters : ∀ character ∈ path.toList, FieldPathCharacter character)
      (longest :
        ∀ character, after.head? = some character →
          ¬ FieldPathCharacter character)
      (notPath : ¬ FieldPath path.toList) :
      Shows pattern (.invalidFieldPath path)
  | deepWildcardNotLast (template : Template)
      (derived : Derives pattern template)
      (misplaced : ¬ DeepWildcardLast template) :
      Shows pattern .deepWildcardNotLast
  | emptyVerb (atEnd : pattern.getLast? = some ':') :
      Shows pattern .emptyVerb

theorem isFieldPathCharacter_iff (character : Char) :
    Pattern.isFieldPathCharacter character = true ↔
      FieldPathCharacter character := by
  unfold Pattern.isFieldPathCharacter FieldPathCharacter
  rw [Bool.or_eq_true, isIdentifierCharacter_iff, beq_iff_eq]

/-! ### What is kept from cursor to cursor -/

theorem InBraces.append {text : List Char} (inside : InBraces text)
    (more : List Char) (unclosed : '}' ∉ more) : InBraces (text ++ more) := by
  obtain ⟨before, between, rfl, unclosedBetween⟩ := inside
  refine ⟨before, between ++ more, by simp, ?_⟩
  rw [List.mem_append]
  exact fun member => member.elim unclosedBetween unclosed

theorem inBraces_concat (before : List Char) : InBraces (before ++ ['{']) :=
  ⟨before, [], rfl, List.not_mem_nil⟩

theorem segmentOpens_slash (before : List Char) :
    SegmentOpens (before ++ ['/']) :=
  .inl List.getLast?_concat

theorem segmentOpens_sign (before : List Char) :
    SegmentOpens (before ++ ['=']) :=
  .inr List.getLast?_concat

def slashed (texts : List (List Char)) : List Char :=
  texts.flatMap (fun text => text ++ ['/'])

theorem SegmentOpens.slashed {before : List Char}
    (opens : SegmentOpens before) (texts : List (List Char)) :
    SegmentOpens (before ++ slashed texts) := by
  unfold Grammar.slashed
  rcases List.eq_nil_or_concat' texts with rfl | ⟨front, last, rfl⟩
  · rw [List.flatMap_nil, List.append_nil]
    exact opens
  · rw [List.flatMap_append, List.flatMap_singleton, ← List.append_assoc,
      ← List.append_assoc]
    exact segmentOpens_slash _

theorem slashed_unclosed (texts : List (List Char))
    (spelled : ∀ text ∈ texts, ∃ segment, SpellsSimple segment text) :
    '}' ∉ slashed texts := by
  intro member
  obtain ⟨text, textMember, inText⟩ := List.mem_flatMap.mp member
  obtain ⟨segment, textSpelled⟩ := spelled text textMember
  rcases List.mem_append.mp inText with inside | isSlash
  · exact (textSpelled.characters _ _ '}' inside).2.1 rfl
  · exact absurd (List.mem_singleton.mp isSlash) (by decide)

/-- What can stand behind the segments of a pattern: nothing, or a verb, which
holds no brace. -/
def VerbTail (tail : List Char) : Prop :=
  tail = [] ∨ ∃ verb, tail = ':' :: verb ∧ '}' ∉ verb

theorem VerbTail.segmentMissing {tail : List Char}
    (verbTail : VerbTail tail) : SegmentMissing tail := by
  rcases verbTail with rfl | ⟨verb, rfl, _⟩
  · exact .inl rfl
  · exact .inr (.inr (.inr rfl))

theorem VerbTail.unclosed {tail : List Char} (verbTail : VerbTail tail) :
    '}' ∉ tail := by
  rcases verbTail with rfl | ⟨verb, rfl, unclosed⟩
  · exact List.not_mem_nil
  · rw [List.mem_cons]
    exact fun member => member.elim (by decide) unclosed

theorem VerbTail.head_not_fieldPathCharacter {tail : List Char}
    (verbTail : VerbTail tail) (character : Char)
    (atHead : tail.head? = some character) :
    Pattern.isFieldPathCharacter character = false := by
  rcases verbTail with rfl | ⟨verb, rfl, _⟩
  · cases atHead
  · cases atHead
    decide

end Grammar

namespace Pattern

open Grammar

/-- The readers have come through the text to the cursor.  Behind all that they
are given of the pattern stands the tail. -/
structure Reached (pattern tail consumed : List Char)
    (cursor : Cursor) : Prop where
  patternEq : pattern = consumed ++ (cursor.rest ++ tail)
  offsetEq : cursor.offset = utf8Length consumed

theorem exists_consumes_stars (cursor : Cursor)
    (present : cursor.peek? = some '*') :
    ∃ text,
      cursor.Consumes text
        (if cursor.advance.peek? == some '*' then cursor.advance.advance
        else cursor.advance) := by
  have firstStar := cursor.consumes_advance '*' present
  split
  · rename_i second
    have secondStar :=
      cursor.advance.consumes_advance '*' (beq_iff_eq.mp second)
    exact ⟨_, firstStar.trans secondStar⟩
  · exact ⟨_, firstStar⟩

section Readers

variable {pattern tail consumed : List Char} {cursor : Cursor}
  (reached : Reached pattern tail consumed cursor)

include reached

theorem Reached.through {text : List Char} {next : Cursor}
    (through : cursor.Consumes text next) :
    Reached pattern tail (consumed ++ text) next := by
  refine ⟨?_, ?_⟩
  · rw [reached.patternEq, through.1]
    simp only [List.append_assoc]
  · rw [through.2, reached.offsetEq, utf8Length_append]

theorem Reached.cutAt :
    CutAt pattern cursor.offset consumed (cursor.rest ++ tail) := by
  refine ⟨reached.patternEq, ?_⟩
  rw [utf8ByteSize_ofList]
  exact reached.offsetEq

theorem Reached.exists_cutAt_of_peek? (character : Char)
    (present : cursor.peek? = some character) :
    ∃ after, CutAt pattern cursor.offset consumed (character :: after) := by
  obtain ⟨rest, restEq⟩ := (cursor.peek?_eq_some_iff character).mp present
  have cut := reached.cutAt
  rw [restEq] at cut
  exact ⟨rest ++ tail, cut⟩

theorem Reached.shows_invalidCharacter (found : Char)
    (present : cursor.peek? = some found) :
    Shows pattern (.invalidCharacter cursor.offset found) := by
  obtain ⟨after, cut⟩ := reached.exists_cutAt_of_peek? found present
  exact .invalidCharacter cursor.offset found consumed after cut

theorem Reached.shows_nestedField (present : cursor.peek? = some '{')
    (inside : InBraces consumed) :
    Shows pattern (.nestedField cursor.offset) := by
  obtain ⟨after, cut⟩ := reached.exists_cutAt_of_peek? '{' present
  exact .nestedField cursor.offset consumed after cut inside

theorem Reached.shows_emptySegment (verbTail : VerbTail tail)
    (opens : SegmentOpens consumed) (stops : cursor.Stops) :
    Shows pattern (.emptySegment cursor.offset) := by
  rcases stops with ended | slash | brace
  · have cut := reached.cutAt
    rw [(cursor.peek?_eq_none_iff).mp ended, List.nil_append] at cut
    exact
      .emptySegment cursor.offset consumed tail cut opens
        verbTail.segmentMissing
  · obtain ⟨after, cut⟩ := reached.exists_cutAt_of_peek? '/' slash
    exact .emptySegment cursor.offset consumed _ cut opens (.inr (.inl rfl))
  · obtain ⟨after, cut⟩ := reached.exists_cutAt_of_peek? '}' brace
    exact
      .emptySegment cursor.offset consumed _ cut opens
        (.inr (.inr (.inl rfl)))

/-! ### Segments other than fields -/

theorem Reached.shows_of_readStars (present : cursor.peek? = some '*')
    (defect : Defect) (failed : readStars cursor = .error defect) :
    Shows pattern defect := by
  obtain ⟨text, through⟩ := exists_consumes_stars cursor present
  have behindStars := reached.through through
  unfold readStars at failed
  simp only at failed
  split at failed
  · cases failed
  · cases failed
  · cases failed
  · rename_i found _ _ atFound
    cases failed
    exact behindStars.shows_invalidCharacter found atFound

theorem Reached.shows_of_readSimple (verbTail : VerbTail tail)
    (opens : SegmentOpens consumed)
    (inside : cursor.peek? = some '{' → InBraces consumed)
    (defect : Defect) (failed : readSimple cursor = .error defect) :
    Shows pattern defect := by
  unfold readSimple at failed
  split at failed
  · rename_i ended
    cases failed
    exact reached.shows_emptySegment verbTail opens (.inl ended)
  · rename_i slash
    cases failed
    exact reached.shows_emptySegment verbTail opens (.inr (.inl slash))
  · rename_i brace
    cases failed
    exact reached.shows_emptySegment verbTail opens (.inr (.inr brace))
  · rename_i star
    exact reached.shows_of_readStars star defect failed
  · rename_i brace
    cases failed
    exact reached.shows_nestedField brace (inside brace)
  · rename_i found _ _ _ _ atFound
    split at failed
    · cases failed
    · cases failed
      exact reached.shows_invalidCharacter found atFound

end Readers

/-! ### Lists of segments -/

/-- A list of segments is not read when the reader fails behind some segments
with their slashes. -/
theorem exists_stop_of_readSegments {reader : Reader Segment}
    {Spelled : Segment → List Char → Prop}
    (recognizes : reader.Recognizes Spelled) (cursor : Cursor)
    (defect : Defect) (failed : readSegments reader cursor = .error defect) :
    ∃ texts stop,
      (∀ text ∈ texts, ∃ segment, Spelled segment text) ∧
        cursor.Consumes (slashed texts) stop ∧
          reader.read stop = .error defect := by
  fun_induction readSegments reader cursor with
  | case1 cursor found segmentFailed =>
      cases failed
      exact ⟨[], cursor, List.forall_mem_nil _, ⟨rfl, rfl⟩, segmentFailed⟩
  | case2 cursor segment next segmentRead slash found restFailed
      inductionHypothesis =>
      cases failed
      obtain ⟨texts, stop, spelled, through, stopFailed⟩ :=
        inductionHypothesis restFailed
      obtain ⟨text, textSpelled, textThrough⟩ :=
        recognizes.sound cursor segment next segmentRead
      refine ⟨text :: texts, stop, ?_, ?_, stopFailed⟩
      · rw [List.forall_mem_cons]
        exact ⟨⟨segment, textSpelled⟩, spelled⟩
      · unfold slashed
        rw [List.flatMap_cons]
        exact
          (textThrough.trans (next.consumes_advance '/' slash)).trans through
  | case3 => cases failed
  | case4 => cases failed

/-! ### Fields -/

theorem exists_unclosed_of_readFieldBody (cursor : Cursor)
    (segments : List Segment) (next : Cursor)
    (bodyRead : readFieldBody cursor = .ok (segments, next)) :
    ∃ text, '}' ∉ text ∧ cursor.Consumes text next := by
  by_cases sign : cursor.peek? = some '='
  · rw [readFieldBody_of_sign cursor sign] at bodyRead
    obtain ⟨texts, spelled, _, through⟩ :=
      readSegments_sound simpleReader_recognizes _ _ _ bodyRead
    refine
      ⟨['='] ++ joined texts, ?_,
        (cursor.consumes_advance '=' sign).trans through⟩
    rw [List.mem_append, List.mem_singleton]
    rintro (isSign | inTexts)
    · exact absurd isSign (by decide)
    · exact (joined_unbraced segments texts spelled '}' inTexts).2 rfl
  · rw [readFieldBody_of_no_sign cursor sign] at bodyRead
    cases bodyRead
    refine ⟨[], List.not_mem_nil, rfl, rfl⟩

section Readers

variable {pattern tail consumed : List Char} {cursor : Cursor}
  (reached : Reached pattern tail consumed cursor)
  (verbTail : VerbTail tail)

include reached verbTail

theorem Reached.shows_of_readFieldBody (inside : InBraces consumed)
    (defect : Defect) (failed : readFieldBody cursor = .error defect) :
    Shows pattern defect := by
  by_cases sign : cursor.peek? = some '='
  · rw [readFieldBody_of_sign cursor sign] at failed
    obtain ⟨texts, stop, spelled, through, stopFailed⟩ :=
      exists_stop_of_readSegments simpleReader_recognizes _ defect failed
    have atSign := reached.through (cursor.consumes_advance '=' sign)
    have signInside := inside.append ['='] (by decide)
    exact
      (atSign.through through).shows_of_readSimple verbTail
        ((segmentOpens_sign consumed).slashed texts)
        (fun _ => signInside.append _ (slashed_unclosed texts spelled))
        defect stopFailed
  · rw [readFieldBody_of_no_sign cursor sign] at failed
    cases failed

theorem Reached.shows_invalidFieldPath (present : cursor.peek? = some '{')
    (notPath :
      ¬ isFieldPath (cursor.advance.run isFieldPathCharacter) = true) :
    Shows pattern
      (.invalidFieldPath
        (String.ofList (cursor.advance.run isFieldPathCharacter))) := by
  have atPath := reached.through (cursor.consumes_advance '{' present)
  have behind :=
    atPath.through (cursor.advance.consumes_run isFieldPathCharacter)
  apply
    Shows.invalidFieldPath _ consumed
      ((cursor.advance.skipRun isFieldPathCharacter).rest ++ tail)
  · rw [behind.patternEq, String.toList_ofList]
    simp only [List.append_assoc, List.cons_append, List.nil_append]
  · intro character member
    rw [String.toList_ofList] at member
    exact
      (isFieldPathCharacter_iff character).mp (List.mem_takeWhile_imp member)
  · intro character atHead
    rw [← isFieldPathCharacter_iff, Bool.not_eq_true]
    cases restEq : (cursor.advance.skipRun isFieldPathCharacter).rest with
    | nil =>
        rw [restEq, List.nil_append] at atHead
        exact verbTail.head_not_fieldPathCharacter character atHead
    | cons first rest =>
        rw [restEq, List.cons_append, List.head?_cons] at atHead
        have stopped :=
          List.head?_dropWhile_not isFieldPathCharacter cursor.advance.rest
        change cursor.advance.rest.dropWhile _ = first :: rest at restEq
        rw [restEq] at stopped
        rw [← Option.some.inj atHead]
        exact stopped
  · rw [String.toList_ofList, ← isFieldPath_iff]
    exact notPath

theorem Reached.shows_of_readField (present : cursor.peek? = some '{')
    (defect : Defect) (failed : readField cursor = .error defect) :
    Shows pattern defect := by
  have atPath := reached.through (cursor.consumes_advance '{' present)
  have behindPath :=
    atPath.through (cursor.advance.consumes_run isFieldPathCharacter)
  unfold readField at failed
  simp only at failed
  split at failed
  · rename_i isPath
    have pathInside : InBraces _ :=
      (inBraces_concat consumed).append
        (cursor.advance.run isFieldPathCharacter) (by
          intro member
          have passing := List.mem_takeWhile_imp member
          exact absurd passing (by decide))
    split at failed
    · rename_i bodyFailed
      cases failed
      exact
        behindPath.shows_of_readFieldBody verbTail pathInside _ bodyFailed
    · rename_i segments afterBody bodyRead
      obtain ⟨text, unclosed, through⟩ :=
        exists_unclosed_of_readFieldBody _ segments afterBody bodyRead
      have behindBody := behindPath.through through
      have bodyInside := pathInside.append text unclosed
      split at failed
      · cases failed
      · rename_i brace
        cases failed
        exact behindBody.shows_nestedField brace bodyInside
      · rename_i found _ _ atFound
        cases failed
        exact behindBody.shows_invalidCharacter found atFound
      · rename_i ended
        cases failed
        apply Shows.unclosedField
        rw [behindBody.patternEq, (afterBody.peek?_eq_none_iff).mp ended]
        exact bodyInside.append _ verbTail.unclosed
  · rename_i notPath
    cases failed
    exact reached.shows_invalidFieldPath verbTail present notPath

theorem Reached.shows_of_readSegment (opens : SegmentOpens consumed)
    (defect : Defect) (failed : readSegment cursor = .error defect) :
    Shows pattern defect := by
  unfold readSegment at failed
  split at failed
  · rename_i present
    exact reached.shows_of_readField verbTail present defect failed
  · rename_i noBrace
    exact
      reached.shows_of_readSimple verbTail opens
        (fun brace => absurd brace noBrace) defect failed

theorem Reached.shows_of_readBody (opens : SegmentOpens consumed)
    (defect : Defect) (failed : readBody cursor = .error defect) :
    Shows pattern defect := by
  unfold readBody at failed
  split at failed
  · cases failed
  · split at failed
    · rename_i segmentsFailed
      cases failed
      obtain ⟨texts, stop, _, through, stopFailed⟩ :=
        exists_stop_of_readSegments segmentReader_recognizes _ _
          segmentsFailed
      exact
        (reached.through through).shows_of_readSegment verbTail
          (opens.slashed texts) _ stopFailed
    · rename_i segments next segmentsRead
      obtain ⟨texts, _, _, through⟩ :=
        readSegments_sound segmentReader_recognizes _ _ _ segmentsRead
      split at failed
      · cases failed
      · rename_i found atFound
        cases failed
        exact (reached.through through).shows_invalidCharacter found atFound

end Readers

/-! ### Whole patterns -/

theorem exists_verbTail_of_splitVerb (pattern body verb : List Char)
    (cut : splitVerb pattern = .ok (body, verb)) :
    ∃ tail, VerbTail tail ∧ pattern = body ++ tail := by
  rcases splitVerb_ok pattern body verb cut with
    ⟨_, rfl, _⟩ | ⟨patternEq, _, isLiteral, _⟩
  · exact ⟨[], .inl rfl, (List.append_nil body).symm⟩
  · refine ⟨':' :: verb, .inr ⟨verb, rfl, ?_⟩, patternEq⟩
    intro member
    exact isLiteral.ne_of_mem verb '}' member '}' (by decide) rfl

theorem shows_of_checkVerb (pattern body verb : List Char)
    (patternEq : pattern = body ++ ':' :: verb) (defect : Defect)
    (failed : checkVerb (utf8Length body) verb = .error defect) :
    Shows pattern defect := by
  have afterColon :
      Reached pattern [] (body ++ [':'])
        { offset := utf8Length body + 1
          rest := verb } := by
    refine ⟨?_, ?_⟩
    · rw [patternEq, List.append_nil, List.append_assoc]
      rfl
    · rw [utf8Length_append]
      rfl
  have atStop :=
    afterColon.through (Cursor.consumes_run isLiteralCharacter _)
  unfold checkVerb at failed
  simp only at failed
  split at failed
  · cases failed
    rw [patternEq]
    exact .emptyVerb List.getLast?_concat
  · cases failed
  · rename_i found rest _ restEq
    cases failed
    apply atStop.shows_invalidCharacter
    unfold Cursor.peek?
    rw [restEq]
    rfl

theorem shows_of_splitVerb (pattern : List Char) (defect : Defect)
    (failed : splitVerb pattern = .error defect) : Shows pattern defect := by
  unfold splitVerb at failed
  cases colon : verbColon? 0 0 none pattern with
  | none =>
      rw [colon] at failed
      cases failed
  | some index =>
      obtain ⟨body, verb, patternEq, bodyEq, verbEq, _⟩ :=
        exists_parts_of_verbColon? pattern index colon
      rw [colon] at failed
      simp only [bodyEq, verbEq] at failed
      split at failed
      · rename_i slash
        cases failed
        exact
          .emptySegment _ body (':' :: verb)
            ⟨patternEq, (utf8ByteSize_ofList body).symm⟩ (.inl slash)
            (.inr (.inr (.inr rfl)))
      · split at failed
        · rename_i verbFailed
          cases failed
          exact shows_of_checkVerb pattern body verb patternEq _ verbFailed
        · cases failed

theorem head?_of_splitVerb {pattern body tail : List Char}
    (verbTail : VerbTail tail) (patternEq : pattern = body ++ tail)
    (slash : pattern.head? = some '/') : body.head? = some '/' := by
  cases body with
  | nil =>
      rw [patternEq, List.nil_append] at slash
      rcases verbTail with rfl | ⟨verb, rfl, _⟩
      · cases slash
      · cases slash
  | cons first rest =>
      rw [patternEq, List.cons_append, List.head?_cons] at slash
      rw [List.head?_cons]
      exact slash

/-- Whatever defect a pattern is rejected for, the pattern shows it. -/
theorem shows_of_read (pattern : List Char) (defect : Defect)
    (failed : read pattern = .error defect) : Shows pattern defect := by
  by_cases misplaced : defect = .deepWildcardNotLast
  · rw [misplaced, read_eq_deepWildcardNotLast_iff] at failed
    obtain ⟨template, derived, notLast⟩ := failed
    rw [misplaced]
    exact .deepWildcardNotLast template derived notLast
  · unfold read at failed
    split at failed
    · rename_i slash
      split at failed
      · rename_i cutFailed
        cases failed
        exact shows_of_splitVerb pattern _ cutFailed
      · rename_i body verb cut
        obtain ⟨tail, verbTail, patternEq⟩ :=
          exists_verbTail_of_splitVerb pattern body verb cut
        have atStart : Reached pattern tail [] (Cursor.start body) :=
          ⟨patternEq, rfl⟩
        have bodySlash := head?_of_splitVerb verbTail patternEq slash
        have behindSlash :=
          atStart.through (Cursor.consumes_advance _ '/' bodySlash)
        split at failed
        · rename_i bodyFailed
          cases failed
          exact
            behindSlash.shows_of_readBody verbTail (segmentOpens_slash []) _
              bodyFailed
        · simp only at failed
          split at failed
          · cases failed
          · cases failed
            exact absurd rfl misplaced
    · rename_i noSlash
      cases failed
      exact .missingLeadingSlash noSlash

theorem read_eq_missingLeadingSlash_iff (pattern : List Char) :
    read pattern = .error .missingLeadingSlash ↔
      pattern.head? ≠ some '/' := by
  constructor
  · intro failed
    obtain ⟨noSlash⟩ := shows_of_read pattern _ failed
    exact noSlash
  · intro noSlash
    unfold read
    rw [if_neg noSlash]

end Pattern

namespace Template

open Grammar

/-- A rejected pattern is carried by its error and shows the defect that is
told of it.  Exactly the patterns without a slash in front are rejected for
that. -/
theorem rejected_pattern_shows_defect (pattern : String) :
    (Template.parse pattern =
        .error
          { pattern := pattern
            defect := .missingLeadingSlash } ↔
      pattern.toList.head? ≠ some '/') ∧
    (∀ error,
      Template.parse pattern = .error error →
        error.pattern = pattern ∧ Shows pattern.toList error.defect) := by
  constructor
  · rw [parse_eq_error_iff]
    exact Pattern.read_eq_missingLeadingSlash_iff pattern.toList
  · intro error rejected
    unfold Template.parse at rejected
    cases result : Pattern.read pattern.toList with
    | ok template =>
        rw [result] at rejected
        cases rejected
    | error defect =>
        rw [result] at rejected
        cases rejected
        exact ⟨rfl, Pattern.shows_of_read pattern.toList defect result⟩

/-- A character of three bytes stands in front of the verb, which is looked at
first. -/
theorem rejected_pattern_shows_defect_wide :
    Template.parse "/€:ab€c" =
        .error
          { pattern := "/€:ab€c"
            defect := .invalidCharacter 7 '€' } ∧
      ∃ before after,
        CutAt "/€:ab€c".toList 7 before ('€' :: after) := by
  have rejected :
      Template.parse "/€:ab€c" =
        .error
          { pattern := "/€:ab€c"
            defect := .invalidCharacter 7 '€' } := by
    decide +kernel
  obtain ⟨_, shown⟩ := (rejected_pattern_shows_defect "/€:ab€c").2 _ rejected
  cases shown with
  | invalidCharacter _ _ before after cut =>
      exact ⟨rejected, before, after, cut⟩

end Template

end HttpRouting
