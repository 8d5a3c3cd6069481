/-
Quoted texts stay on one line and are told apart.

A line break is escaped, and the codes of other characters are written in
digits.  So neither a quoted text nor a list of them holds a line break.  No
escape is the beginning of another, so different texts are quoted differently.
-/

import HttpRouting.Proofs.Lines
import HttpRouting.Text.Quoted
import HttpRouting.Text.Slash

namespace HttpRouting

/-! ### Digits -/

theorem exists_digit_of_mem_toDigits (base number : Nat) (large : 1 < base)
    (character : Char) (member : character ∈ Nat.toDigits base number) :
    ∃ digit < base, character = digit.digitChar := by
  induction number using Nat.strongRecOn with
  | ind number inductionHypothesis =>
      rw [Nat.toDigits_eq_if large] at member
      split at member
      · rename_i small
        rw [List.mem_singleton] at member
        exact ⟨number, small, member⟩
      · rename_i notSmall
        rcases List.mem_append.mp member with earlier | isLast
        · have smaller : number / base < number := by
            apply Nat.div_lt_self
            · omega
            · exact large
          exact inductionHypothesis (number / base) smaller earlier
        · rw [List.mem_singleton] at isLast
          have bounded : number % base < base := by
            apply Nat.mod_lt
            omega
          exact ⟨number % base, bounded, isLast⟩

theorem newline_not_mem_toDigits (base number : Nat) (large : 1 < base)
    (small : base ≤ 16) : '\n' ∉ Nat.toDigits base number := by
  intro member
  rcases exists_digit_of_mem_toDigits base number large '\n' member with
    ⟨digit, bounded, same⟩
  have different : ∀ digit < 16, '\n' ≠ digit.digitChar := by
    decide
  exact different digit (by omega) same

theorem newline_not_mem_toString (number : Nat) :
    '\n' ∉ (toString number).toList := by
  rw [Nat.toString_eq_ofList_toDigits, String.toList_ofList]
  apply newline_not_mem_toDigits
  · decide
  · decide

theorem space_not_mem_toString (number : Nat) :
    ' ' ∉ (toString number).toList := by
  rw [Nat.toString_eq_ofList_toDigits, String.toList_ofList]
  intro member
  have isDigit : ' '.isDigit = true := by
    apply Nat.isDigit_of_mem_toDigits _ _ member
    · decide
    · decide
  exact absurd isDigit (by decide)

theorem toDigits_of_le (base number : Nat) (large : 1 < base)
    (several : base ≤ number) :
    Nat.toDigits base number =
      Nat.toDigits base (number / base) ++ [(number % base).digitChar] := by
  rw [Nat.toDigits_eq_if large, if_neg (Nat.not_lt.mpr several)]

theorem singleton_ne_toDigits (base number : Nat) (large : 1 < base)
    (several : base ≤ number) (digit : Char) :
    [digit] ≠ Nat.toDigits base number := by
  intro same
  have longer := congrArg List.length same
  have inhabited := Nat.length_toDigits_pos (b := base) (n := number / base)
  rw [toDigits_of_le base number large several, List.length_append,
    List.length_singleton, List.length_singleton] at longer
  omega

/-- Up to base sixteen there are digits enough to tell numbers apart. -/
theorem eq_of_toDigits (base : Nat) (large : 1 < base) (small : base ≤ 16)
    (left right : Nat)
    (same : Nat.toDigits base left = Nat.toDigits base right) :
    left = right := by
  have digits :
      ∀ left < 16, ∀ right < 16,
        left.digitChar = right.digitChar → left = right := by
    decide
  induction left using Nat.strongRecOn generalizing right with
  | ind left inductionHypothesis =>
      by_cases leftSmall : left < base
      · rw [Nat.toDigits_of_lt_base leftSmall] at same
        by_cases rightSmall : right < base
        · rw [Nat.toDigits_of_lt_base rightSmall] at same
          exact
            digits left (by omega) right (by omega) (List.cons.inj same).1
        · exact
            absurd same
              (singleton_ne_toDigits base right large (by omega) _)
      · by_cases rightSmall : right < base
        · rw [Nat.toDigits_of_lt_base rightSmall] at same
          exact
            absurd same.symm
              (singleton_ne_toDigits base left large (by omega) _)
        · rw [toDigits_of_le base left large (by omega),
            toDigits_of_le base right large (by omega)] at same
          have parts := List.append_inj' same rfl
          have smaller : left / base < left :=
            Nat.div_lt_self (by omega) large
          have quotients :=
            inductionHypothesis (left / base) smaller (right / base) parts.1
          have leftBound : left % base < base := Nat.mod_lt left (by omega)
          have rightBound : right % base < base := Nat.mod_lt right (by omega)
          have remainders :=
            digits (left % base) (by omega) (right % base) (by omega)
              (List.cons.inj parts.2).1
          rw [← Nat.div_add_mod left base, ← Nat.div_add_mod right base,
            quotients, remainders]

theorem eq_of_toString (left right : Nat)
    (same : toString left = toString right) : left = right := by
  rw [Nat.toString_eq_ofList_toDigits, Nat.toString_eq_ofList_toDigits,
    String.ofList_inj] at same
  exact eq_of_toDigits 10 (by decide) (by decide) left right same

/-! ### Escapes -/

namespace Quoted

theorem newline_not_mem_codeEscape (character : Char) :
    '\n' ∉ codeEscape character := by
  unfold codeEscape
  intro member
  rcases List.mem_append.mp member with front | close
  · rcases List.mem_append.mp front with start | inCode
    · exact absurd start (by decide)
    · apply newline_not_mem_toDigits 16 character.toNat _ _ inCode
      · decide
      · decide
  · exact absurd close (by decide)

theorem newline_not_mem_escape (character : Char) :
    '\n' ∉ escape character := by
  unfold escape
  split
  · decide
  · decide
  · decide
  · decide
  · decide
  · decide
  · rename_i notNewline _ _
    split
    · exact newline_not_mem_codeEscape character
    · rw [List.mem_singleton]
      exact fun same => notNewline same.symm

end Quoted

theorem newline_not_mem_quoted (text : String) :
    '\n' ∉ (quoted text).toList := by
  unfold quoted
  simp only [String.toList_append, String.toList_ofList, List.mem_append,
    List.mem_flatMap, not_or]
  refine ⟨⟨by decide, ?_⟩, by decide⟩
  rintro ⟨character, _, inEscape⟩
  exact Quoted.newline_not_mem_escape character inEscape

theorem newline_not_mem_quotedList (texts : List String) :
    '\n' ∉ (quotedList texts).toList := by
  unfold quotedList
  simp only [String.toList_append, String.toList_intercalate,
    List.mem_append, not_or]
  refine ⟨⟨by decide, ?_⟩, by decide⟩
  intro member
  rcases mem_intercalate _ _ _ member with between | ⟨part, listed, inPart⟩
  · exact absurd between (by decide)
  · simp only [List.map_map, List.mem_map, Function.comp_apply] at listed
    rcases listed with ⟨text, _, rfl⟩
    exact newline_not_mem_quoted text inPart

/-! ### Different texts -/

namespace Quoted

def shortMeaning? : Char → Option Char
  | '0' => some '\x00'
  | 't' => some '\t'
  | 'r' => some '\r'
  | 'n' => some '\n'
  | '"' => some '"'
  | '\\' => some '\\'
  | _ => none

/-- The forms of an escape: the character itself, a letter behind a backslash,
or a code. -/
inductive Escapes : Char → List Char → Prop where
  | plain (character : Char) (unmarked : character ≠ '\\') :
      Escapes character [character]
  | short (letter character : Char)
      (meaning : shortMeaning? letter = some character) :
      Escapes character ['\\', letter]
  | code (character : Char) : Escapes character (codeEscape character)

theorem escapes_escape (character : Char) :
    Escapes character (escape character) := by
  unfold escape
  split
  · exact .short '0' _ rfl
  · exact .short 't' _ rfl
  · exact .short 'r' _ rfl
  · exact .short 'n' _ rfl
  · exact .short '"' _ rfl
  · exact .short '\\' _ rfl
  · rename_i unmarked
    split
    · exact .code character
    · exact .plain character unmarked

theorem Escapes.ne_nil {character : Char} {spelled : List Char}
    (escapes : Escapes character spelled) : spelled ≠ [] := by
  cases escapes <;> exact List.cons_ne_nil _ _

/-- A code ends at its brace, which is no digit. -/
theorem eq_of_codeEscape_append (left right : Char)
    (leftRest rightRest : List Char)
    (same : codeEscape left ++ leftRest = codeEscape right ++ rightRest) :
    left = right ∧ leftRest = rightRest := by
  have plain :
      ∀ character : Char, '}' ∉ Nat.toDigits 16 character.toNat := by
    intro character member
    rcases
      exists_digit_of_mem_toDigits 16 character.toNat (by decide) '}'
        member with
      ⟨digit, bounded, isDigit⟩
    have different : ∀ digit < 16, '}' ≠ digit.digitChar := by
      decide
    exact different digit bounded isDigit
  unfold codeEscape at same
  simp only [List.append_assoc] at same
  rcases
    eq_of_append_mark '}' (plain left) (plain right)
      (List.append_cancel_left same) with
    ⟨sameDigits, sameRest⟩
  have sameCode :=
    eq_of_toDigits 16 (by decide) (by decide) left.toNat right.toNat
      sameDigits
  exact ⟨Char.toNat_inj.mp sameCode, sameRest⟩

/-- No escape is the beginning of the escape of another character. -/
theorem Escapes.eq_of_append {left right : Char}
    {leftSpelled rightSpelled : List Char}
    (leftEscapes : Escapes left leftSpelled)
    (rightEscapes : Escapes right rightSpelled)
    (leftRest rightRest : List Char)
    (same : leftSpelled ++ leftRest = rightSpelled ++ rightRest) :
    left = right ∧ leftRest = rightRest := by
  cases leftEscapes with
  | plain _ leftUnmarked =>
      cases rightEscapes with
      | plain => exact List.cons.inj same
      | short => exact absurd (List.cons.inj same).1 leftUnmarked
      | code => exact absurd (List.cons.inj same).1 leftUnmarked
  | short leftLetter _ leftMeaning =>
      cases rightEscapes with
      | plain _ rightUnmarked =>
          exact absurd (List.cons.inj same).1.symm rightUnmarked
      | short rightLetter _ rightMeaning =>
          rcases List.cons.inj (List.cons.inj same).2 with
            ⟨rfl, sameRest⟩
          rw [leftMeaning] at rightMeaning
          exact ⟨Option.some.inj rightMeaning, sameRest⟩
      | code =>
          rcases List.cons.inj (List.cons.inj same).2 with ⟨rfl, _⟩
          cases leftMeaning
  | code =>
      cases rightEscapes with
      | plain _ rightUnmarked =>
          exact absurd (List.cons.inj same).1.symm rightUnmarked
      | short rightLetter _ rightMeaning =>
          rcases List.cons.inj (List.cons.inj same).2 with ⟨rfl, _⟩
          cases rightMeaning
      | code => exact eq_of_codeEscape_append left right _ _ same

theorem eq_of_escaped (left right : List Char)
    (same : left.flatMap escape = right.flatMap escape) : left = right := by
  induction left generalizing right with
  | nil =>
      cases right with
      | nil => rfl
      | cons character rest =>
          rw [List.flatMap_nil, List.flatMap_cons] at same
          exact
            absurd (List.append_eq_nil_iff.mp same.symm).1
              (escapes_escape character).ne_nil
  | cons character rest inductionHypothesis =>
      cases right with
      | nil =>
          rw [List.flatMap_nil, List.flatMap_cons] at same
          exact
            absurd (List.append_eq_nil_iff.mp same).1
              (escapes_escape character).ne_nil
      | cons other others =>
          rw [List.flatMap_cons, List.flatMap_cons] at same
          rcases
            (escapes_escape character).eq_of_append (escapes_escape other)
              _ _ same with
            ⟨sameCharacter, sameRest⟩
          rw [sameCharacter, inductionHypothesis others sameRest]

end Quoted

theorem eq_of_quoted (left right : String)
    (same : quoted left = quoted right) : left = right := by
  unfold quoted at same
  rw [String.append_left_inj, String.append_right_inj,
    String.ofList_inj] at same
  exact String.toList_inj.mp (Quoted.eq_of_escaped _ _ same)

end HttpRouting
