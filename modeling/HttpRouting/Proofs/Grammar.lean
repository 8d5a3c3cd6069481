/-
The grammar of patterns, as a relation between texts and templates.

    pattern  = "/" [ segments ] [ verb ]
    segments = segment { "/" segment }
    segment  = "*" | "**" | literal | field
    field    = "{" path [ "=" segments ] "}"
    path     = identifier { "." identifier }
    verb     = ":" literal

A derivation names the text of every segment.  It does not say how the texts
are found: a colon belongs to a literal or opens the verb, and the side
conditions of `SpellsVerb` decide which.
-/

import HttpRouting.Template.Parser
import HttpRouting.Text.Slash
import Mathlib.Data.List.Forall2

namespace HttpRouting

namespace Grammar

/-! ### Characters -/

def Letter (character : Char) : Prop :=
  ('A' ≤ character ∧ character ≤ 'Z') ∨ ('a' ≤ character ∧ character ≤ 'z')

def Digit (character : Char) : Prop :=
  '0' ≤ character ∧ character ≤ '9'

def LiteralCharacter (character : Char) : Prop :=
  Letter character ∨ Digit character ∨
    character ∈ "-._~%!$&'()+,;=@:".toList

def IdentifierStart (character : Char) : Prop :=
  Letter character ∨ character = '_'

def IdentifierCharacter (character : Char) : Prop :=
  Letter character ∨ Digit character ∨ character = '_'

/-! ### Texts -/

def Literal (text : List Char) : Prop :=
  text ≠ [] ∧ ∀ character ∈ text, LiteralCharacter character

def Identifier : List Char → Prop
  | [] => False
  | first :: rest =>
      IdentifierStart first ∧
        ∀ character ∈ rest, IdentifierCharacter character

/-- A dotted list of identifiers. -/
def FieldPath (path : List Char) : Prop :=
  ∃ identifiers : List (List Char),
    identifiers ≠ [] ∧ (∀ name ∈ identifiers, Identifier name) ∧
      path = ['.'].intercalate identifiers

def joined (texts : List (List Char)) : List Char :=
  ['/'].intercalate texts

/-! ### Derivations -/

inductive SpellsSimple : Segment → List Char → Prop where
  | literal (text : String) (isLiteral : Literal text.toList) :
      SpellsSimple (.literal text) text.toList
  | wildcard : SpellsSimple .wildcard ['*']
  | deepWildcard : SpellsSimple .deepWildcard ['*', '*']

/-- The text of a segment.  A field without an equals sign holds one
wildcard. -/
inductive Spells : Segment → List Char → Prop where
  | simple (segment : Segment) (text : List Char)
      (spelled : SpellsSimple segment text) : Spells segment text
  | bareField (path : String) (isPath : FieldPath path.toList) :
      Spells (.field path [.wildcard]) ('{' :: (path.toList ++ ['}']))
  | field (path : String) (isPath : FieldPath path.toList)
      (segments : List Segment) (texts : List (List Char))
      (inhabited : segments ≠ [])
      (spelled : List.Forall₂ SpellsSimple segments texts) :
      Spells (.field path segments)
        ('{' :: (path.toList ++ '=' :: (joined texts ++ ['}'])))

/-- The text of the verb behind the segments.  Without a verb no colon may
stand in a literal at the end, because it would open one. -/
inductive SpellsVerb (segments : List Segment) : String → List Char → Prop where
  | absent
      (noColon :
        ∀ text, segments.getLast? = some (.literal text) →
          ':' ∉ text.toList) :
      SpellsVerb segments "" []
  | present (verb : String) (inhabited : segments ≠ [])
      (isLiteral : Literal verb.toList) (noColon : ':' ∉ verb.toList) :
      SpellsVerb segments verb (':' :: verb.toList)

/-- The pattern spells the segments and the verb of the template. -/
inductive Derives : List Char → Template → Prop where
  | pattern (template : Template) (texts : List (List Char))
      (verbText : List Char)
      (spelled : List.Forall₂ Spells template.segments texts)
      (verbSpelled :
        SpellsVerb template.segments template.verb verbText) :
      Derives ('/' :: (joined texts ++ verbText)) template

/-- Fields unwrapped, nothing stands behind a deep wildcard. -/
def DeepWildcardLast (template : Template) : Prop :=
  ∀ before after,
    template.leaves = before ++ Segment.deepWildcard :: after → after = []

/-! ### The tests of the reader -/

theorem isAlpha_iff (character : Char) :
    character.isAlpha = true ↔ Letter character := by
  unfold Char.isAlpha Char.isUpper Char.isLower Letter
  simp only [Char.le_def, Bool.or_eq_true, Bool.and_eq_true,
    decide_eq_true_eq, ge_iff_le]

theorem isDigit_iff (character : Char) :
    character.isDigit = true ↔ Digit character := by
  simp only [Char.isDigit, Digit, Char.le_def, Bool.and_eq_true,
    decide_eq_true_eq, ge_iff_le]

theorem isLiteralCharacter_iff (character : Char) :
    Pattern.isLiteralCharacter character = true ↔
      LiteralCharacter character := by
  simp only [Pattern.isLiteralCharacter, LiteralCharacter, Char.isAlphanum,
    Bool.or_eq_true, isAlpha_iff, isDigit_iff, or_assoc,
    List.contains_iff_mem]

theorem isIdentifierStart_iff (character : Char) :
    Pattern.isIdentifierStart character = true ↔
      IdentifierStart character := by
  simp only [Pattern.isIdentifierStart, IdentifierStart, Bool.or_eq_true,
    isAlpha_iff, beq_iff_eq]

theorem isIdentifierCharacter_iff (character : Char) :
    Pattern.isIdentifierCharacter character = true ↔
      IdentifierCharacter character := by
  simp only [Pattern.isIdentifierCharacter, IdentifierCharacter,
    Char.isAlphanum, Bool.or_eq_true, isAlpha_iff, isDigit_iff, or_assoc,
    beq_iff_eq]

theorem isIdentifier_iff (name : List Char) :
    Pattern.isIdentifier name = true ↔ Identifier name := by
  cases name with
  | nil =>
      simp [Pattern.isIdentifier, Identifier]
  | cons first rest =>
      simp only [Pattern.isIdentifier, Identifier, Bool.and_eq_true,
        List.all_eq_true, isIdentifierStart_iff, isIdentifierCharacter_iff]

theorem Identifier.characters (name : List Char) (isName : Identifier name) :
    ∀ character ∈ name, Pattern.isIdentifierCharacter character = true := by
  cases name with
  | nil =>
      cases isName
  | cons first rest =>
      intro character member
      rw [isIdentifierCharacter_iff]
      rcases List.mem_cons.mp member with atHead | inRest
      · rw [atHead]
        rcases isName.1 with letter | underscore
        · exact .inl letter
        · exact .inr (.inr underscore)
      · exact isName.2 character inRest

theorem isFieldPath_iff (path : List Char) :
    Pattern.isFieldPath path = true ↔ FieldPath path := by
  unfold Pattern.isFieldPath FieldPath
  rw [List.all_eq_true]
  constructor
  · intro allNames
    refine ⟨path.splitOn '.', List.splitOn_ne_nil '.' path, ?_, ?_⟩
    · intro name member
      exact (isIdentifier_iff name).mp (allNames name member)
    · exact (List.intercalate_splitOn '.').symm
  · rintro ⟨identifiers, inhabited, areNames, rfl⟩ name member
    have undotted : ∀ other ∈ identifiers, '.' ∉ other := by
      intro other otherMember dotMember
      have passing :=
        Identifier.characters other (areNames other otherMember) '.' dotMember
      exact absurd passing (by decide)
    rw [List.splitOn_intercalate '.' undotted inhabited] at member
    exact (isIdentifier_iff name).mpr (areNames name member)

theorem joined_singleton (text : List Char) : joined [text] = text :=
  List.intercalate_singleton

theorem joined_cons_cons (first second : List Char)
    (rest : List (List Char)) :
    joined (first :: second :: rest) =
      first ++ '/' :: joined (second :: rest) := by
  unfold joined
  rw [List.intercalate_cons_cons, List.append_assoc]
  rfl

theorem FieldPath.characters (path : List Char) (isPath : FieldPath path) :
    ∀ character ∈ path, Pattern.isFieldPathCharacter character = true := by
  obtain ⟨identifiers, _, areNames, rfl⟩ := isPath
  intro character member
  unfold Pattern.isFieldPathCharacter
  rw [Bool.or_eq_true]
  rcases mem_intercalate ['.'] character identifiers member with
    isDot | ⟨name, nameMember, inName⟩
  · exact .inr (beq_iff_eq.mpr (List.mem_singleton.mp isDot))
  · exact
      .inl (Identifier.characters name (areNames name nameMember)
        character inName)

theorem ne_of_test (passes : Char → Bool) (character mark : Char)
    (passing : passes character = true) (failing : passes mark = false) :
    character ≠ mark := by
  intro same
  rw [same, failing] at passing
  cases passing

theorem Literal.ne_of_mem (text : List Char) (isLiteral : Literal text)
    (character : Char) (member : character ∈ text) (mark : Char)
    (structural : Pattern.isLiteralCharacter mark = false) :
    character ≠ mark :=
  ne_of_test Pattern.isLiteralCharacter character mark
    ((isLiteralCharacter_iff character).mpr (isLiteral.2 character member))
    structural

theorem deepWildcardsLast_iff (template : Template) :
    Pattern.deepWildcardsLast template.leaves = true ↔
      DeepWildcardLast template := by
  unfold Pattern.deepWildcardsLast DeepWildcardLast
  rw [Bool.not_eq_true', ← Bool.not_eq_true, List.contains_iff_mem]
  constructor
  · intro absent before after leavesEq
    rcases List.eq_nil_or_concat' after with empty | ⟨front, last, rfl⟩
    · exact empty
    · exfalso
      apply absent
      rw [leavesEq]
      have shape :
          before ++ Segment.deepWildcard :: (front ++ [last]) =
            (before ++ Segment.deepWildcard :: front) ++ [last] := by
        simp
      rw [shape, List.dropLast_concat]
      simp
  · intro last member
    obtain ⟨before, after, frontEq⟩ := List.append_of_mem member
    have inhabited : template.leaves ≠ [] := by
      intro empty
      rw [empty] at member
      cases member
    have leavesEq :
        template.leaves =
          before ++ Segment.deepWildcard ::
            (after ++ [template.leaves.getLast inhabited]) := by
      conv_lhs =>
        rw [← List.dropLast_append_getLast inhabited, frontEq]
      simp
    have nothing := last before _ leavesEq
    simp at nothing

end Grammar

end HttpRouting
