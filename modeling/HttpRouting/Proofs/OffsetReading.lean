/-
Reading patterns and paths by byte offsets.

Here a reader holds nothing but offsets into the whole text.  To look at a part
of it, it takes the slice between two offsets, and every use of an offset is
checked: a slice has to run from one character boundary to a later one, a
position must not pass the end, and each turn of a loop has to leave from a
later position than the one it came to.  A check that does not hold is a failure
of its own kind, beside the defects that a pattern may have.
-/

import HttpRouting.Matching.Request
import HttpRouting.Template.Parser

namespace HttpRouting

namespace Offsets

inductive Failure where
  /-- No part of the text stands between the offsets. -/
  | slice (lower upper : Nat)
  | pastEnd (position : Nat)
  | stuck (position : Nat)
  | defect (defect : Defect)
  deriving DecidableEq, Repr

theorem ok_bind {Value Result : Type} (value : Value)
    (next : Value → Except Failure Result) :
    (Except.ok value >>= next) = next value :=
  rfl

/-! ### Slices -/

/-- The parts before and behind a byte offset.  There are none when it falls
into a character or behind the end. -/
def cut? : Nat → List Char → Option (List Char × List Char)
  | 0, text => some ([], text)
  | _ + 1, [] => none
  | offset + 1, character :: rest =>
      if character.utf8Size ≤ offset + 1 then
        (cut? (offset + 1 - character.utf8Size) rest).map
          (fun parts => (character :: parts.1, parts.2))
      else none

def slice (text : List Char) (lower upper : Nat) :
    Except Failure (List Char) :=
  match cut? upper text with
  | none => .error (.slice lower upper)
  | some (front, _) =>
      match cut? lower front with
      | none => .error (.slice lower upper)
      | some (_, part) => .ok part

theorem cut?_eq_some_iff (offset : Nat) (text before after : List Char) :
    cut? offset text = some (before, after) ↔
      text = before ++ after ∧ offset = utf8Length before := by
  fun_induction cut? offset text generalizing before after with
  | case1 text =>
      constructor
      · rintro ⟨⟩
        exact ⟨rfl, rfl⟩
      · rintro ⟨textEq, lengthEq⟩
        cases before with
        | nil =>
            rw [textEq]
            rfl
        | cons character rest =>
            have positive := character.utf8Size_pos
            rw [utf8Length_cons] at lengthEq
            omega
  | case2 offset =>
      constructor
      · exact nofun
      · rintro ⟨textEq, lengthEq⟩
        rw [(List.append_eq_nil_iff.mp textEq.symm).1] at lengthEq
        cases lengthEq
  | case3 offset character rest fits inductionHypothesis =>
      rw [Option.map_eq_some_iff]
      constructor
      · rintro ⟨⟨restBefore, restAfter⟩, restCut, ⟨⟩⟩
        rcases (inductionHypothesis _ _).mp restCut with ⟨rfl, lengthEq⟩
        refine ⟨rfl, ?_⟩
        change offset + 1 = character.utf8Size + utf8Length restBefore
        omega
      · rintro ⟨textEq, lengthEq⟩
        cases before with
        | nil =>
            cases lengthEq
        | cons first others =>
            rcases List.cons.inj textEq with ⟨rfl, restEq⟩
            rw [utf8Length_cons] at lengthEq
            refine ⟨(others, after), ?_, rfl⟩
            rw [inductionHypothesis]
            exact ⟨restEq, by omega⟩
  | case4 offset character rest exceeds =>
      constructor
      · exact nofun
      · rintro ⟨textEq, lengthEq⟩
        cases before with
        | nil =>
            cases lengthEq
        | cons first others =>
            rcases List.cons.inj textEq with ⟨rfl, _⟩
            rw [utf8Length_cons] at lengthEq
            omega

/-- A slice is taken where both offsets are the lengths of prefixes, the lower
one of a prefix of the other. -/
theorem slice_eq_ok_iff (text part : List Char) (lower upper : Nat) :
    slice text lower upper = .ok part ↔
      ∃ before after,
        text = before ++ part ++ after ∧ lower = utf8Length before ∧
          upper = utf8Length (before ++ part) := by
  unfold slice
  constructor
  · intro taken
    split at taken
    case h_1 =>
      cases taken
    case h_2 front after upperCut =>
      split at taken
      case h_1 =>
        cases taken
      case h_2 before _ lowerCut =>
        cases taken
        rcases (cut?_eq_some_iff _ _ _ _).mp upperCut with
          ⟨textEq, upperEq⟩
        rcases (cut?_eq_some_iff _ _ _ _).mp lowerCut with
          ⟨rfl, lowerEq⟩
        exact ⟨before, after, textEq, lowerEq, upperEq⟩
  · rintro ⟨before, after, textEq, lowerEq, upperEq⟩
    rw [(cut?_eq_some_iff upper text (before ++ part) after).mpr
      ⟨textEq, upperEq⟩]
    simp only
    rw [(cut?_eq_some_iff lower (before ++ part) before part).mpr
      ⟨rfl, lowerEq⟩]

/-! ### Steps of a reader -/

/-- The position behind a character. -/
def bump (stop position : Nat) (character : Char) : Except Failure Nat :=
  let next := position + character.utf8Size
  if next ≤ stop then .ok next else .error (.pastEnd next)

theorem bump_eq_ok_iff (stop position next : Nat) (character : Char) :
    bump stop position character = .ok next ↔
      next = position + character.utf8Size ∧ next ≤ stop := by
  unfold bump
  simp only
  split
  case isTrue fits =>
    constructor
    · rintro ⟨⟩
      exact ⟨rfl, fits⟩
    · rintro ⟨rfl, _⟩
      rfl
  case isFalse exceeds =>
    constructor
    · exact nofun
    · rintro ⟨rfl, fits⟩
      exact absurd fits exceeds

section Readers

variable (text : List Char) (stop : Nat)

def peek (position : Nat) : Except Failure (Option Char) :=
  if position < stop then do
    let rest ← slice text position stop
    return rest.head?
  else
    return none

def skipRun (passes : Char → Bool) (position : Nat) :
    Except Failure Nat := do
  match ← peek text stop position with
  | none => return position
  | some character =>
      if passes character then
        let next ← bump stop position character
        -- Without this check the loop might never end.
        if _forward : position < next ∧ next ≤ stop then
          skipRun passes next
        else
          throw (.stuck position)
      else
        return position
termination_by stop - position

/-! ### Segments -/

abbrev Reading (Value : Type) :=
  Nat → Except Failure (Value × Nat)

def endStars (segment : Segment) : Reading Segment := fun position => do
  match ← peek text stop position with
  | none => return (segment, position)
  | some found =>
      if found = '/' ∨ found = '}' then
        return (segment, position)
      else
        throw (.defect (.invalidCharacter position found))

def readStars : Reading Segment := fun position => do
  let afterFirst ← bump stop position '*'
  if (← peek text stop afterFirst) = some '*' then
    let afterSecond ← bump stop afterFirst '*'
    endStars text stop .deepWildcard afterSecond
  else
    endStars text stop .wildcard afterFirst

def readLiteral : Reading Segment := fun position => do
  let next ← skipRun text stop Pattern.isLiteralCharacter position
  let literal ← slice text position next
  return (.literal (String.ofList literal), next)

def readSegment (onBrace : Reading Segment) : Reading Segment :=
  fun position => do
    match ← peek text stop position with
    | none => throw (.defect (.emptySegment position))
    | some found =>
        if found = '/' ∨ found = '}' then
          throw (.defect (.emptySegment position))
        else if found = '*' then
          readStars text stop position
        else if found = '{' then
          onBrace position
        else if Pattern.isLiteralCharacter found then
          readLiteral text stop position
        else
          throw (.defect (.invalidCharacter position found))

def readSegments (reading : Reading Segment) (position : Nat) :
    Except Failure (List Segment × Nat) := do
  let (segment, after) ← reading position
  if (← peek text stop after) = some '/' then
    let next ← bump stop after '/'
    if _forward : position < next ∧ next ≤ stop then
      let (segments, last) ← readSegments reading next
      return (segment :: segments, last)
    else
      throw (.stuck position)
  else
    return ([segment], after)
termination_by stop - position

/-- A turn that comes back, or stays where it began, ends the loop. -/
theorem readSegments_of_no_progress (text : List Char)
    (stop position after next : Nat) (reading : Reading Segment)
    (segment : Segment) (segmentRead : reading position = .ok (segment, after))
    (slash : peek text stop after = .ok (some '/'))
    (bumped : bump stop after '/' = .ok next) (noProgress : next ≤ position) :
    readSegments text stop reading position = .error (.stuck position) := by
  have notForward : ¬ (position < next ∧ next ≤ stop) :=
    fun forward => absurd forward.1 (Nat.not_lt.mpr noProgress)
  rw [readSegments, segmentRead, ok_bind]
  simp only
  rw [slash, ok_bind, if_pos rfl, bumped, ok_bind, dif_neg notForward]
  rfl

def nestedField : Reading Segment := fun position =>
  throw (.defect (.nestedField position))

def readFieldBody : Reading (List Segment) := fun position => do
  if (← peek text stop position) = some '=' then
    let next ← bump stop position '='
    readSegments text stop (readSegment text stop nestedField) next
  else
    return ([.wildcard], position)

def readField : Reading Segment := fun position => do
  let start ← bump stop position '{'
  let pathEnd ← skipRun text stop Pattern.isFieldPathCharacter start
  let path ← slice text start pathEnd
  if Pattern.isFieldPath path then
    let (segments, next) ← readFieldBody text stop pathEnd
    match ← peek text stop next with
    | none => throw (.defect .unclosedField)
    | some found =>
        if found = '}' then
          let last ← bump stop next '}'
          return (.field (String.ofList path) segments, last)
        else if found = '{' then
          throw (.defect (.nestedField next))
        else
          throw (.defect (.invalidCharacter next found))
  else
    throw (.defect (.invalidFieldPath (String.ofList path)))

/-- All segments up to the end, which must not lie before the start. -/
def readBody (position : Nat) : Except Failure (List Segment) := do
  if position ≤ stop then
    if position = stop then
      return []
    else
      let (segments, next) ←
        readSegments text stop (readSegment text stop (readField text stop))
          position
      match ← peek text stop next with
      | none => return segments
      | some found => throw (.defect (.invalidCharacter next found))
  else
    throw (.pastEnd position)

end Readers

/-! ### Whole patterns and paths -/

def verbColon? (depth offset : Nat) (colon : Option Nat) :
    List Char → Option Nat
  | [] => colon
  | '{' :: rest =>
      verbColon? (depth + 1) (offset + '{'.utf8Size) colon rest
  | '}' :: rest =>
      verbColon? (depth - 1) (offset + '}'.utf8Size) colon rest
  | '/' :: rest =>
      verbColon? depth (offset + '/'.utf8Size)
        (if depth = 0 then none else colon) rest
  | ':' :: rest =>
      verbColon? depth (offset + ':'.utf8Size)
        (if depth = 0 then some offset else colon) rest
  | character :: rest =>
      verbColon? depth (offset + character.utf8Size) colon rest

def splitVerb (text : List Char) : Except Failure (Nat × List Char) :=
  match verbColon? 0 0 none text with
  | none => return (utf8Length text, [])
  | some colon => do
      let front ← slice text 0 colon
      if front.getLast? = some '/' then
        throw (.defect (.emptySegment colon))
      else
        let verb ← slice text (colon + 1) (utf8Length text)
        match Pattern.checkVerb colon verb with
        | .error defect => throw (.defect defect)
        | .ok _ => return (colon, verb)

def read (text : List Char) : Except Failure Template := do
  if text.head? = some '/' then
    let (stop, verb) ← splitVerb text
    let segments ← readBody text stop 1
    let template : Template :=
      { segments := segments
        verb := String.ofList verb }
    if Pattern.deepWildcardsLast template.leaves then
      return template
    else
      throw (.defect .deepWildcardNotLast)
  else
    throw (.defect .missingLeadingSlash)

def lastColon? (offset : Nat) (colon : Option Nat) :
    List Char → Option Nat
  | [] => colon
  | character :: rest =>
      lastColon? (offset + character.utf8Size)
        (if character = ':' then some offset else colon) rest

def splitLast (component : List Char) :
    Except Failure (List Char × List Char) :=
  match (lastColon? 0 none component).filter (fun colon => 0 < colon) with
  | none => return (component, [])
  | some colon => do
      let verb ← slice component (colon + 1) (utf8Length component)
      let front ← slice component 0 colon
      return (front, verb)

def split (path : List Char) : Except Failure Request :=
  match Request.withoutLeadingSlash path with
  | [] =>
      return {
        components := []
        verb := "" }
  | trimmed =>
      let components := trimmed.splitOn '/'
      match components.getLast? with
      | none =>
          return {
            components := []
            verb := "" }
      | some last => do
          let (front, verb) ← splitLast last
          return {
            components :=
              (components.dropLast ++ [front]).map String.ofList
            verb := String.ofList verb }

end Offsets

end HttpRouting
