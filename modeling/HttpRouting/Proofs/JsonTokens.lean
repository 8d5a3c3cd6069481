/-
Written JSON values are scanned to their tokens.

The compact form of a value is the text of its tokens one behind the other.  A
string ends at its own quote, since quotes inside it are escaped; a word ends
where the next character cannot belong to it, which is always so in front of
punctuation, a line break and the end of the text.
-/

import HttpRouting.Json.Reader
import HttpRouting.Json.Writer
import Mathlib.Data.List.Forall2
import Mathlib.Data.List.TakeWhile

namespace HttpRouting

namespace Json

/-! ### Values that have a text -/

mutual

/-- Numbers are spelled as such, and strings and keys spell texts. -/
def isSpelled : Json → Bool
  | .number text => isNumber text.toList
  | .string text => text.isSome
  | .array elements => isSpelledEach elements
  | .object members => isSpelledMembers members
  | .null => true
  | .bool _ => true

def isSpelledEach : List Json → Bool
  | [] => true
  | value :: rest => value.isSpelled && isSpelledEach rest

def isSpelledMembers : List (Option String × Json) → Bool
  | [] => true
  | (key, value) :: rest =>
      key.isSome && value.isSpelled && isSpelledMembers rest

end

theorem isSpelled_record (members : List (String × Json))
    (spelled : ∀ member ∈ members, member.2.isSpelled = true) :
    (record members).isSpelled = true := by
  unfold record
  rw [isSpelled]
  induction members with
  | nil =>
      rfl
  | cons member rest inductionHypothesis =>
      rw [List.forall_mem_cons] at spelled
      rw [List.map_cons, isSpelledMembers, spelled.1,
        inductionHypothesis spelled.2]
      rfl

/-! ### The tokens of a value -/

mutual

def tokens : Json → List Token
  | .array elements =>
      .openBracket ::
        ([Token.comma].intercalate (tokensEach elements) ++ [.closeBracket])
  | .object members =>
      .openBrace ::
        ([Token.comma].intercalate (tokensMembers members) ++ [.closeBrace])
  | .null => [.scalar .null]
  | .bool value => [.scalar (.bool value)]
  | .number text => [.scalar (.number text)]
  | .string text => [.scalar (.string text)]

def tokensEach : List Json → List (List Token)
  | [] => []
  | value :: rest => value.tokens :: tokensEach rest

def tokensMembers : List (Option String × Json) → List (List Token)
  | [] => []
  | (key, value) :: rest =>
      (.scalar (.string key) :: .colon :: value.tokens) :: tokensMembers rest

end

/-! ### Going on from a place in a text -/

def Scan.finish? (scan : Scan) (rest : List Char) : Option (List Token) :=
  (rest.foldlM Scan.step scan).bind Scan.tokens?

theorem Scan.finish?_cons (scan : Scan) (character : Char)
    (rest : List Char) :
    scan.finish? (character :: rest) =
      (scan.step character).bind (fun next => next.finish? rest) := by
  unfold finish?
  rw [List.foldlM_cons]
  cases scan.step character <;> rfl

theorem Scan.finish?_of_step (scan next : Scan) (character : Char)
    (rest : List Char) (stepped : scan.step character = some next) :
    scan.finish? (character :: rest) = next.finish? rest := by
  rw [finish?_cons, stepped, Option.bind_some]

def EndsWord (rest : List Char) : Prop :=
  ∀ character others,
    rest = character :: others → isWordCharacter character = false

theorem endsWord_nil : EndsWord [] :=
  nofun

theorem endsWord_cons (character : Char) (rest : List Char)
    (noWord : isWordCharacter character = false) :
    EndsWord (character :: rest) := by
  rintro _ _ ⟨⟩
  exact noWord

/-- Wherever the text stands and no word goes on behind it, it is scanned to
the tokens. -/
def ScansTo (text : List Char) (tokens : List Token) : Prop :=
  ∀ (before : List Token) (rest : List Char),
    EndsWord rest →
      Scan.finish? { tokens := before } (text ++ rest) =
        Scan.finish? { tokens := tokens.reverse ++ before } rest

theorem finish?_punctuation (before : List Token) (character : Char)
    (token : Token) (rest : List Char)
    (known : punctuation? character = some token) :
    Scan.finish? { tokens := before } (character :: rest) =
      Scan.finish? { tokens := token :: before } rest := by
  apply Scan.finish?_of_step
  simp only [Scan.step, Scan.begin, known]

/-! ### Strings -/

theorem hexDigit?_hexDigit (value : Nat) (small : value < 16) :
    hexDigit? (hexDigit value) = some value := by
  have digits : ∀ value < 16, hexDigit? (hexDigit value) = some value := by
    decide
  exact digits value small

theorem finish?_codeUnitEscape (value : Nat) (small : value < 65536)
    (before : List Token) (read : List Piece) (rest : List Char) :
    Scan.finish? { tokens := before, mode := .quoted read }
        (codeUnitEscape value ++ rest) =
      Scan.finish?
        { tokens := before, mode := .quoted (.codeUnit value :: read) }
        rest := by
  have digit :
      ∀ (scanned digits number : Nat) (others : List Char), number < 16 →
        Scan.finish?
            { tokens := before, mode := .codeUnit read digits scanned }
            (hexDigit number :: others) =
          Scan.finish?
            { tokens := before
              mode :=
                if digits = 3 then
                  .quoted (.codeUnit (scanned * 16 + number) :: read)
                else .codeUnit read (digits + 1) (scanned * 16 + number) }
            others := by
    intro scanned digits number others isDigit
    apply Scan.finish?_of_step
    simp only [Scan.step, hexDigit?_hexDigit number isDigit]
    split <;> rfl
  have whole :
      (((value / 4096 % 16) * 16 + value / 256 % 16) * 16 +
          value / 16 % 16) * 16 + value % 16 = value := by
    omega
  calc
    _ = Scan.finish? { tokens := before, mode := .codeUnit read 0 0 }
          (hexDigit (value / 4096 % 16) :: hexDigit (value / 256 % 16) ::
            hexDigit (value / 16 % 16) :: hexDigit (value % 16) :: rest) :=
      rfl
    _ = _ := by
      rw [digit _ _ _ _ (by omega), if_neg (by decide),
        digit _ _ _ _ (by omega), if_neg (by decide),
        digit _ _ _ _ (by omega), if_neg (by decide),
        digit _ _ _ _ (by omega), if_pos rfl, Nat.zero_mul, Nat.zero_add,
        whole]

theorem textOfPieces_codeUnit (spelled : List Char) (value : Nat)
    (control : value < 32) (pieces : List Piece) :
    textOfPieces spelled (.codeUnit value :: pieces) =
      textOfPieces (Char.ofNat value :: spelled) pieces := by
  have noHigh : isHighSurrogate value = false := by
    unfold isHighSurrogate
    rw [decide_eq_false (by omega), Bool.false_and]
  have noLow : isLowSurrogate value = false := by
    unfold isLowSurrogate
    rw [decide_eq_false (by omega), Bool.false_and]
  cases pieces with
  | nil => simp [textOfPieces, noHigh, noLow]
  | cons piece others =>
      cases piece <;> simp [textOfPieces, noHigh, noLow]

/-- The escape of a character is scanned to one piece, which stands for the
character. -/
theorem exists_piece (character : Char) :
    ∃ piece : Piece,
      (∀ before read rest,
        Scan.finish? { tokens := before, mode := .quoted read }
            (escapeCharacter character ++ rest) =
          Scan.finish? { tokens := before, mode := .quoted (piece :: read) }
            rest) ∧
      ∀ spelled pieces,
        textOfPieces spelled (piece :: pieces) =
          textOfPieces (character :: spelled) pieces := by
  unfold escapeCharacter
  split
  case h_8 other noQuote noBackslash _ _ _ _ _ =>
    split
    · rename_i control
      refine
        ⟨.codeUnit character.toNat,
          finish?_codeUnitEscape character.toNat (by omega), ?_⟩
      intro spelled pieces
      rw [textOfPieces_codeUnit spelled _ control, Char.ofNat_toNat]
    · rename_i visible
      refine ⟨.character character, ?_, fun _ _ => rfl⟩
      intro before read rest
      apply Scan.finish?_of_step
      simp only [Scan.step, if_neg noQuote, if_neg noBackslash,
        if_neg visible]
  all_goals
    exact ⟨.character _, fun _ _ _ => rfl, fun _ _ => rfl⟩

theorem exists_pieces (characters : List Char) :
    ∃ pieces : List Piece,
      (∀ before read rest,
        Scan.finish? { tokens := before, mode := .quoted read }
            (characters.flatMap escapeCharacter ++ rest) =
          Scan.finish? { tokens := before, mode := .quoted (pieces ++ read) }
            rest) ∧
      ∀ spelled read,
        textOfPieces spelled (pieces ++ read) =
          textOfPieces (characters ++ spelled) read := by
  induction characters with
  | nil =>
      exact ⟨[], fun _ _ _ => rfl, fun _ _ => rfl⟩
  | cons character others inductionHypothesis =>
      rcases exists_piece character with ⟨piece, scanned, meaning⟩
      rcases inductionHypothesis with ⟨pieces, othersScanned, othersMeaning⟩
      -- Pieces are kept from last to first.
      refine ⟨pieces ++ [piece], ?_, ?_⟩
      · intro before read rest
        rw [List.flatMap_cons, List.append_assoc, scanned, othersScanned,
          List.append_assoc, List.singleton_append]
      · intro spelled read
        rw [List.append_assoc, List.singleton_append, othersMeaning, meaning,
          List.cons_append]

/-- A string ends at its own quote, whatever comes next. -/
theorem finish?_quote (text : String) (before : List Token)
    (rest : List Char) :
    Scan.finish? { tokens := before } ((quote text).toList ++ rest) =
      Scan.finish?
        { tokens := .scalar (.string (some text)) :: before } rest := by
  rcases exists_pieces text.toList with ⟨pieces, scanned, meaning⟩
  have spelled : textOfPieces [] pieces = some text := by
    have whole := meaning [] []
    rw [List.append_nil, List.append_nil] at whole
    rw [whole, textOfPieces, String.ofList_toList]
  have shape :
      (quote text).toList ++ rest =
        '"' :: (text.toList.flatMap escapeCharacter ++ '"' :: rest) := by
    unfold quote
    simp
  rw [shape]
  calc
    _ = Scan.finish? { tokens := before, mode := .quoted [] }
          (text.toList.flatMap escapeCharacter ++ '"' :: rest) :=
      rfl
    _ = Scan.finish? { tokens := before, mode := .quoted pieces }
          ('"' :: rest) := by
      rw [scanned, List.append_nil]
    _ = _ := by
      apply Scan.finish?_of_step
      simp only [Scan.step, if_true, spelled]

/-! ### Words -/

theorem begin_word (before : List Token) (character : Char)
    (inWord : isWordCharacter character = true) :
    Scan.begin before character =
      some { tokens := before, mode := .word [character] } := by
  have different :
      ∀ other : Char, isWordCharacter other = false → character ≠ other := by
    rintro other noWord rfl
    rw [inWord] at noWord
    cases noWord
  have noPunctuation : punctuation? character = none := by
    unfold punctuation?
    split
    case h_7 => rfl
    all_goals
      exact absurd inWord (by decide)
  have noSpace : isSpace character = false := by
    unfold isSpace
    simp [different ' ' (by decide), different '\n' (by decide),
      different '\t' (by decide), different '\r' (by decide)]
  simp only [Scan.begin, noPunctuation, noSpace, inWord,
    if_neg (different '"' (by decide)), Bool.false_eq_true, if_false,
    if_true]

theorem finish?_inWord (before : List Token) (read characters rest : List Char)
    (inWord : ∀ character ∈ characters, isWordCharacter character = true) :
    Scan.finish? { tokens := before, mode := .word read }
        (characters ++ rest) =
      Scan.finish?
        { tokens := before, mode := .word (characters.reverse ++ read) }
        rest := by
  induction characters generalizing read with
  | nil =>
      rfl
  | cons character others inductionHypothesis =>
      rw [List.forall_mem_cons] at inWord
      rw [List.cons_append, List.reverse_cons, List.append_assoc,
        List.singleton_append, ← inductionHypothesis _ inWord.2]
      apply Scan.finish?_of_step
      simp only [Scan.step, inWord.1, if_true]

theorem scansTo_word (word : List Char) (value : Json) (inhabited : word ≠ [])
    (inWord : ∀ character ∈ word, isWordCharacter character = true)
    (known : ofWord? word = some value) :
    ScansTo word [.scalar value] := by
  intro before rest ends
  have gathered :
      Scan.finish? { tokens := before } (word ++ rest) =
        Scan.finish? { tokens := before, mode := .word word.reverse }
          rest := by
    cases word with
    | nil => exact absurd rfl inhabited
    | cons first others =>
        rw [List.forall_mem_cons] at inWord
        rw [List.cons_append, List.reverse_cons,
          ← finish?_inWord before [first] others rest inWord.2]
        exact
          Scan.finish?_of_step _ _ _ _ (begin_word before first inWord.1)
  rw [gathered]
  cases rest with
  | nil =>
      simp [Scan.finish?, Scan.tokens?, known]
  | cons character others =>
      have noWord := ends character others rfl
      rw [Scan.finish?_cons, Scan.finish?_cons]
      simp [Scan.step, noWord, known]

/-! ### Numbers -/

theorem isWordCharacter_of_isDigit (character : Char)
    (isDigit : character.isDigit = true) :
    isWordCharacter character = true := by
  simp [isWordCharacter, Char.isAlphanum, isDigit]

theorem inWord_of_digits (digits : List Char)
    (allDigits : digits.all Char.isDigit = true) :
    ∀ character ∈ digits, isWordCharacter character = true := by
  rw [List.all_eq_true] at allDigits
  intro character member
  exact isWordCharacter_of_isDigit character (allDigits character member)

theorem inWord_of_isExponent (word : List Char)
    (exponent : isExponent word = true) :
    ∀ character ∈ word, isWordCharacter character = true := by
  unfold isExponent at exponent
  split at exponent
  · nofun
  · rename_i mark rest
    rw [Bool.and_eq_true, Bool.or_eq_true, beq_iff_eq, beq_iff_eq] at exponent
    rcases exponent with ⟨isMark, isDigits⟩
    rw [List.forall_mem_cons]
    refine ⟨by rcases isMark with rfl | rfl <;> decide, ?_⟩
    split at isDigits <;> rw [Bool.and_eq_true] at isDigits
    · exact List.forall_mem_cons.mpr ⟨by decide, inWord_of_digits _ isDigits.2⟩
    · exact List.forall_mem_cons.mpr ⟨by decide, inWord_of_digits _ isDigits.2⟩
    · exact inWord_of_digits _ isDigits.2

theorem inWord_of_digits_front (word : List Char)
    (behind :
      ∀ character ∈ word.dropWhile Char.isDigit,
        isWordCharacter character = true) :
    ∀ character ∈ word, isWordCharacter character = true := by
  intro character member
  rw [← List.takeWhile_append_dropWhile (p := Char.isDigit) (l := word),
    List.mem_append] at member
  rcases member with inFront | inRest
  · exact
      isWordCharacter_of_isDigit character (List.mem_takeWhile_imp inFront)
  · exact behind character inRest

theorem inWord_of_isFraction (word : List Char)
    (fraction : isFraction word = true) :
    ∀ character ∈ word, isWordCharacter character = true := by
  unfold isFraction at fraction
  split at fraction
  · rw [Bool.and_eq_true] at fraction
    rw [List.forall_mem_cons]
    exact
      ⟨by decide,
        inWord_of_digits_front _ (inWord_of_isExponent _ fraction.2)⟩
  · exact inWord_of_isExponent _ fraction

theorem isUnsignedNumber_word (word : List Char)
    (number : isUnsignedNumber word = true) :
    word ≠ [] ∧ ∀ character ∈ word, isWordCharacter character = true := by
  unfold isUnsignedNumber at number
  split at number
  · refine ⟨List.cons_ne_nil _ _, ?_⟩
    rw [List.forall_mem_cons]
    exact ⟨by decide, inWord_of_isFraction _ number⟩
  · rw [Bool.and_eq_true] at number
    refine
      ⟨?_, inWord_of_digits_front _ (inWord_of_isFraction _ number.2)⟩
    rintro rfl
    exact absurd number.1 (by decide)

theorem isNumber_word (word : List Char) (number : isNumber word = true) :
    word ≠ [] ∧ ∀ character ∈ word, isWordCharacter character = true := by
  unfold isNumber at number
  split at number
  · refine ⟨List.cons_ne_nil _ _, ?_⟩
    rw [List.forall_mem_cons]
    exact ⟨by decide, (isUnsignedNumber_word _ number).2⟩
  · exact isUnsignedNumber_word _ number

theorem ofWord?_of_isNumber (word : List Char)
    (number : isNumber word = true) :
    ofWord? word = some (.number (String.ofList word)) := by
  have different :
      ∀ name : List Char, isNumber name = false → word ≠ name := by
    rintro name noNumber rfl
    rw [number] at noNumber
    cases noNumber
  unfold ofWord?
  rw [if_neg (different _ (by decide)), if_neg (different _ (by decide)),
    if_neg (different _ (by decide)), if_pos number]

/-! ### Whole values -/

theorem scansTo_separated (texts : List (List Char))
    (parts : List (List Token))
    (scanned : List.Forall₂ ScansTo texts parts) :
    ScansTo ([','].intercalate texts) ([Token.comma].intercalate parts) := by
  induction scanned with
  | nil =>
      intro before rest ends
      rfl
  | @cons text part texts parts first others inductionHypothesis =>
      cases others with
      | nil =>
          rw [List.intercalate_singleton, List.intercalate_singleton]
          exact first
      | cons second later =>
          intro before rest ends
          rw [List.intercalate_cons_cons, List.intercalate_cons_cons,
            List.append_assoc, List.append_assoc, List.singleton_append,
            first before _ (endsWord_cons ',' _ (by decide)),
            finish?_punctuation _ ',' .comma _ rfl,
            inductionHypothesis _ rest ends]
          simp

theorem scansTo_bracketed (opening closing : Char)
    (openToken closeToken : Token) (text : List Char) (part : List Token)
    (opens : punctuation? opening = some openToken)
    (closes : punctuation? closing = some closeToken)
    (noWord : isWordCharacter closing = false) (scanned : ScansTo text part) :
    ScansTo (opening :: (text ++ [closing]))
      (openToken :: (part ++ [closeToken])) := by
  intro before rest ends
  rw [List.cons_append, List.append_assoc, List.singleton_append,
    finish?_punctuation before opening openToken _ opens,
    scanned _ _ (endsWord_cons closing rest noWord),
    finish?_punctuation _ closing closeToken rest closes]
  simp

theorem scansTo_quoteOption (text : Option String)
    (spelled : text.isSome = true) :
    ScansTo (quoteOption text).toList [.scalar (.string text)] := by
  rcases Option.isSome_iff_exists.mp spelled with ⟨text, rfl⟩
  intro before rest _
  exact finish?_quote text before rest

mutual

/-- The compact form of a value is scanned to its tokens. -/
theorem scansTo_compact :
    (value : Json) → value.isSpelled = true →
      ScansTo value.compact.toList value.tokens
  | .null, _ =>
      scansTo_word _ .null (by decide) (List.all_eq_true.mp rfl) rfl
  | .bool true, _ =>
      scansTo_word _ (.bool true) (by decide) (List.all_eq_true.mp rfl) rfl
  | .bool false, _ =>
      scansTo_word _ (.bool false) (by decide) (List.all_eq_true.mp rfl) rfl
  | .number text, spelled => by
      rw [isSpelled] at spelled
      rcases isNumber_word text.toList spelled with ⟨inhabited, inWord⟩
      have known := ofWord?_of_isNumber text.toList spelled
      rw [String.ofList_toList] at known
      exact scansTo_word text.toList _ inhabited inWord known
  | .string text, spelled => by
      rw [isSpelled] at spelled
      exact scansTo_quoteOption text spelled
  | .array elements, spelled => by
      rw [isSpelled] at spelled
      have scanned :=
        scansTo_separated _ _ (scansTo_compactEach elements spelled)
      simp only [compact, tokens, String.toList_append,
        String.toList_intercalate]
      exact scansTo_bracketed '[' ']' _ _ _ _ rfl rfl (by decide) scanned
  | .object members, spelled => by
      rw [isSpelled] at spelled
      have scanned :=
        scansTo_separated _ _ (scansTo_compactMembers members spelled)
      simp only [compact, tokens, String.toList_append,
        String.toList_intercalate]
      exact
        scansTo_bracketed '\x7b' '\x7d' _ _ _ _ rfl rfl (by decide) scanned

theorem scansTo_compactEach :
    (values : List Json) → isSpelledEach values = true →
      List.Forall₂ ScansTo ((compactEach values).map String.toList)
        (tokensEach values)
  | [], _ => .nil
  | value :: rest, spelled => by
      rw [isSpelledEach, Bool.and_eq_true] at spelled
      exact
        .cons (scansTo_compact value spelled.1)
          (scansTo_compactEach rest spelled.2)

theorem scansTo_compactMembers :
    (members : List (Option String × Json)) →
      isSpelledMembers members = true →
        List.Forall₂ ScansTo ((compactMembers members).map String.toList)
          (tokensMembers members)
  | [], _ => .nil
  | (key, value) :: rest, spelled => by
      rw [isSpelledMembers, Bool.and_eq_true, Bool.and_eq_true] at spelled
      rcases spelled with ⟨⟨keySpelled, valueSpelled⟩, restSpelled⟩
      refine .cons ?_ (scansTo_compactMembers rest restSpelled)
      intro before others ends
      have shape :
          (quoteOption key ++ ":" ++ value.compact).toList ++ others =
            (quoteOption key).toList ++
              ':' :: (value.compact.toList ++ others) := by
        simp
      rw [shape,
        scansTo_quoteOption key keySpelled before _
          (endsWord_cons ':' _ (by decide))]
      calc
        _ = Scan.finish?
              { tokens := .colon :: .scalar (.string key) :: before }
              (value.compact.toList ++ others) :=
          finish?_punctuation _ ':' .colon _ rfl
        _ = _ := by
          rw [scansTo_compact value valueSpelled _ others ends]
          simp

end

/-- A written value is a text of its tokens, with or without a line break
behind it. -/
theorem tokens?_compact (value : Json) (spelled : value.isSpelled = true)
    (rest : List Char) (blank : rest = [] ∨ rest = ['\n']) :
    tokens? (value.compact.toList ++ rest) = some value.tokens := by
  have ends : EndsWord rest := by
    rcases blank with rfl | rfl
    · exact endsWord_nil
    · exact endsWord_cons '\n' [] (by decide)
  have scanned := scansTo_compact value spelled [] rest ends
  rw [List.append_nil] at scanned
  calc
    tokens? (value.compact.toList ++ rest) =
        Scan.finish? {} (value.compact.toList ++ rest) :=
      rfl
    _ = Scan.finish? { tokens := value.tokens.reverse } rest := scanned
    _ = some value.tokens := by
      rcases blank with rfl | rfl <;>
        simp [Scan.finish?, Scan.tokens?, Scan.step, Scan.begin,
          punctuation?, isSpace]

end Json

end HttpRouting
