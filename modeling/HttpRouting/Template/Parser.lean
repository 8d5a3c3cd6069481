/-
Reading patterns.

    pattern  = "/" [ segments ] [ verb ]
    segments = segment { "/" segment }
    segment  = "*" | "**" | literal | field
    field    = "{" path [ "=" segments ] "}"
    path     = identifier { "." identifier }
    verb     = ":" literal

Fields do not nest, and a deep wildcard only stands last, fields unwrapped.
The verb is cut off first; the rest is read from left to right with a cursor,
and every segment takes at least one character.
-/

import HttpRouting.Template.Basic
import HttpRouting.Template.ParseError
import HttpRouting.Text.Cursor

namespace HttpRouting

namespace Pattern

/-! ### Characters and field paths -/

def isLiteralCharacter (character : Char) : Bool :=
  character.isAlphanum ||
    "-._~%!$&'()+,;=@:".toList.contains character

def isIdentifierStart (character : Char) : Bool :=
  character.isAlpha || character == '_'

def isIdentifierCharacter (character : Char) : Bool :=
  character.isAlphanum || character == '_'

def isFieldPathCharacter (character : Char) : Bool :=
  isIdentifierCharacter character || character == '.'

def isIdentifier : List Char → Bool
  | [] => false
  | first :: rest => isIdentifierStart first && rest.all isIdentifierCharacter

def isFieldPath (path : List Char) : Bool :=
  (path.splitOn '.').all isIdentifier

/-! ### The verb -/

/-- Number of characters before the colon that opens the verb: the last colon
outside braces that no slash outside braces follows. -/
def verbColon? (depth position : Nat) (colon : Option Nat) :
    List Char → Option Nat
  | [] => colon
  | '{' :: rest => verbColon? (depth + 1) (position + 1) colon rest
  | '}' :: rest => verbColon? (depth - 1) (position + 1) colon rest
  | '/' :: rest =>
      verbColon? depth (position + 1) (if depth = 0 then none else colon) rest
  | ':' :: rest =>
      verbColon? depth (position + 1)
        (if depth = 0 then some position else colon) rest
  | _ :: rest => verbColon? depth (position + 1) colon rest

def checkVerb (colonOffset : Nat) (verb : List Char) : Except Defect Unit :=
  let afterColon : Cursor := { offset := colonOffset + 1, rest := verb }
  let stop := afterColon.skipRun isLiteralCharacter
  match verb, stop.rest with
  | [], _ => .error .emptyVerb
  | _, [] => .ok ()
  | _, found :: _ => .error (.invalidCharacter stop.offset found)

def splitVerb (pattern : List Char) :
    Except Defect (List Char × List Char) :=
  match verbColon? 0 0 none pattern with
  | none => .ok (pattern, [])
  | some position =>
      let body := pattern.take position
      let verb := pattern.drop (position + 1)
      if body.getLast? = some '/' then
        .error (.emptySegment (utf8Length body))
      else
        match checkVerb (utf8Length body) verb with
        | .error defect => .error defect
        | .ok _ => .ok (body, verb)

/-! ### Segments -/

/-- A reader that leaves less to read whenever it succeeds. -/
structure Reader (Value : Type) where
  read : Cursor → Except Defect (Value × Cursor)
  advances :
    ∀ cursor value next,
      read cursor = .ok (value, next) →
        next.rest.length < cursor.rest.length

/-- One or two stars, which end the segment. -/
def readStars (cursor : Cursor) : Except Defect (Segment × Cursor) :=
  let afterFirst := cursor.advance
  let second := afterFirst.peek? == some '*'
  let segment := if second then Segment.deepWildcard else .wildcard
  let next := if second then afterFirst.advance else afterFirst
  match next.peek? with
  | none | some '/' | some '}' => .ok (segment, next)
  | some found => .error (.invalidCharacter next.offset found)

def readLiteral (cursor : Cursor) : Segment × Cursor :=
  (.literal (String.ofList (cursor.run isLiteralCharacter)),
    cursor.skipRun isLiteralCharacter)

def readSimple (cursor : Cursor) : Except Defect (Segment × Cursor) :=
  match cursor.peek? with
  | none | some '/' | some '}' => .error (.emptySegment cursor.offset)
  | some '*' => readStars cursor
  | some '{' => .error (.nestedField cursor.offset)
  | some found =>
      if isLiteralCharacter found then
        .ok (readLiteral cursor)
      else
        .error (.invalidCharacter cursor.offset found)

theorem advance_length_le (cursor : Cursor) :
    cursor.advance.rest.length ≤ cursor.rest.length := by
  rw [Cursor.advance_length]
  omega

theorem readStars_length_le (cursor : Cursor) (segment : Segment)
    (next : Cursor) (result : readStars cursor = .ok (segment, next)) :
    next.rest.length ≤ cursor.advance.rest.length := by
  have twoStars := advance_length_le cursor.advance
  unfold readStars at result
  simp only at result
  split at result <;> split at result <;> simp_all

theorem readSimple_advances (cursor : Cursor) (segment : Segment)
    (next : Cursor) (result : readSimple cursor = .ok (segment, next)) :
    next.rest.length < cursor.rest.length := by
  unfold readSimple at result
  split at result
  · contradiction
  · contradiction
  · contradiction
  · rename_i present
    have starLength := Cursor.advance_length_lt cursor '*' present
    have tailLength := readStars_length_le cursor segment next result
    omega
  · contradiction
  · rename_i found _ _ _ _ present
    split at result
    · rename_i literal
      have runLength :=
        Cursor.skipRun_length_lt isLiteralCharacter cursor found
          present literal
      have nextEq : cursor.skipRun isLiteralCharacter = next :=
        congrArg Prod.snd (Except.ok.inj result)
      rw [← nextEq]
      exact runLength
    · contradiction

def simpleReader : Reader Segment :=
  { read := readSimple
    advances := readSimple_advances }

def readSegments (reader : Reader Segment) (cursor : Cursor) :
    Except Defect (List Segment × Cursor) :=
  match _result : reader.read cursor with
  | .error defect => .error defect
  | .ok (segment, next) =>
      if next.peek? = some '/' then
        match readSegments reader next.advance with
        | .error defect => .error defect
        | .ok (segments, last) => .ok (segment :: segments, last)
      else
        .ok ([segment], next)
termination_by cursor.rest.length
decreasing_by
  have segmentLength := reader.advances cursor segment next _result
  have slashLength := advance_length_le next
  omega

theorem readSegments_advances (reader : Reader Segment) (cursor : Cursor)
    (segments : List Segment) (next : Cursor)
    (result : readSegments reader cursor = .ok (segments, next)) :
    next.rest.length < cursor.rest.length := by
  fun_induction readSegments reader cursor generalizing segments next with
  | case1 => contradiction
  | case2 => contradiction
  | case3 cursor segment afterSegment segmentRead _ _ last listRead
      inductionHypothesis =>
      have segmentLength :=
        reader.advances cursor segment afterSegment segmentRead
      have slashLength := advance_length_le afterSegment
      have listLength := inductionHypothesis _ _ listRead
      have lastEq : last = next :=
        congrArg Prod.snd (Except.ok.inj result)
      rw [← lastEq]
      omega
  | case4 cursor segment afterSegment segmentRead =>
      have segmentLength :=
        reader.advances cursor segment afterSegment segmentRead
      have nextEq : afterSegment = next :=
        congrArg Prod.snd (Except.ok.inj result)
      rw [← nextEq]
      exact segmentLength

/-- The segments of a field, from behind its path: one wildcard when no equals
sign follows. -/
def readFieldBody (cursor : Cursor) :
    Except Defect (List Segment × Cursor) :=
  if cursor.peek? = some '=' then
    readSegments simpleReader cursor.advance
  else
    .ok ([.wildcard], cursor)

def readField (cursor : Cursor) : Except Defect (Segment × Cursor) :=
  let pathStart := cursor.advance
  let path := pathStart.run isFieldPathCharacter
  if isFieldPath path then
    match readFieldBody (pathStart.skipRun isFieldPathCharacter) with
    | .error defect => .error defect
    | .ok (segments, next) =>
        match next.peek? with
        | some '}' => .ok (.field (String.ofList path) segments, next.advance)
        | some '{' => .error (.nestedField next.offset)
        | some found => .error (.invalidCharacter next.offset found)
        | none => .error .unclosedField
  else
    .error (.invalidFieldPath (String.ofList path))

def readSegment (cursor : Cursor) : Except Defect (Segment × Cursor) :=
  if cursor.peek? = some '{' then
    readField cursor
  else
    readSimple cursor

theorem readFieldBody_length_le (cursor : Cursor)
    (segments : List Segment) (next : Cursor)
    (result : readFieldBody cursor = .ok (segments, next)) :
    next.rest.length ≤ cursor.rest.length := by
  unfold readFieldBody at result
  split at result
  · have listLength :=
      readSegments_advances simpleReader cursor.advance segments next result
    have signLength := advance_length_le cursor
    omega
  · have nextEq : cursor = next :=
      congrArg Prod.snd (Except.ok.inj result)
    subst next
    exact Nat.le_refl _

theorem readField_advances (cursor : Cursor) (segment : Segment)
    (next : Cursor) (result : readField cursor = .ok (segment, next)) :
    next.rest.length < cursor.rest.length := by
  unfold readField at result
  simp only at result
  split at result
  · split at result
    · contradiction
    · rename_i segments afterBody bodyRead
      have bodyLength := readFieldBody_length_le _ segments afterBody bodyRead
      have pathLength :=
        Cursor.skipRun_length_le isFieldPathCharacter cursor.advance
      have braceLength := advance_length_le cursor
      split at result
      · rename_i present
        have closeLength := Cursor.advance_length_lt afterBody '}' present
        have nextEq : afterBody.advance = next :=
          congrArg Prod.snd (Except.ok.inj result)
        rw [← nextEq]
        omega
      · contradiction
      · contradiction
      · contradiction
  · contradiction

theorem readSegment_advances (cursor : Cursor) (segment : Segment)
    (next : Cursor) (result : readSegment cursor = .ok (segment, next)) :
    next.rest.length < cursor.rest.length := by
  unfold readSegment at result
  split at result
  · exact readField_advances cursor segment next result
  · exact readSimple_advances cursor segment next result

def segmentReader : Reader Segment :=
  { read := readSegment
    advances := readSegment_advances }

/-! ### Whole patterns -/

def readBody (cursor : Cursor) : Except Defect (List Segment) :=
  if cursor.rest = [] then
    .ok []
  else
    match readSegments segmentReader cursor with
    | .error defect => .error defect
    | .ok (segments, next) =>
        match next.peek? with
        | none => .ok segments
        | some found => .error (.invalidCharacter next.offset found)

def deepWildcardsLast (leaves : List Segment) : Bool :=
  !leaves.dropLast.contains .deepWildcard

def read (pattern : List Char) : Except Defect Template :=
  if pattern.head? = some '/' then
    match splitVerb pattern with
    | .error defect => .error defect
    | .ok (body, verb) =>
        match readBody (Cursor.start body).advance with
        | .error defect => .error defect
        | .ok segments =>
            let template : Template :=
              { segments := segments
                verb := String.ofList verb }
            if deepWildcardsLast template.leaves then
              .ok template
            else
              .error .deepWildcardNotLast
  else
    .error .missingLeadingSlash

end Pattern

def Template.parse (pattern : String) : Except ParseError Template :=
  match Pattern.read pattern.toList with
  | .ok template => .ok template
  | .error defect =>
      .error
        { pattern := pattern
          defect := defect }

end HttpRouting
