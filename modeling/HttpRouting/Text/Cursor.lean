/-
A position in a text that is read from left to right.

The position is counted in UTF-8 bytes, so that a message can name it, while
the text still to be read is kept as characters.  `Cursor.Within` says that a
cursor stands at a character boundary of a text.
-/

namespace HttpRouting

def utf8Length : List Char → Nat
  | [] => 0
  | character :: rest => character.utf8Size + utf8Length rest

@[simp]
theorem utf8Length_nil : utf8Length [] = 0 :=
  rfl

@[simp]
theorem utf8Length_cons (character : Char) (rest : List Char) :
    utf8Length (character :: rest) = character.utf8Size + utf8Length rest :=
  rfl

theorem utf8Length_append (left right : List Char) :
    utf8Length (left ++ right) = utf8Length left + utf8Length right := by
  induction left with
  | nil =>
      simp
  | cons character rest inductionHypothesis =>
      rw [List.cons_append, utf8Length_cons, utf8Length_cons,
        inductionHypothesis, Nat.add_assoc]

/-- A byte offset together with the characters that start there. -/
structure Cursor where
  offset : Nat
  rest : List Char
  deriving DecidableEq, Repr, Inhabited

namespace Cursor

def start (text : List Char) : Cursor :=
  { offset := 0
    rest := text }

def peek? (cursor : Cursor) : Option Char :=
  cursor.rest.head?

/-- Past the next character; at the end of the text nothing changes. -/
def advance (cursor : Cursor) : Cursor :=
  match cursor.rest with
  | [] => cursor
  | character :: rest =>
      { offset := cursor.offset + character.utf8Size
        rest := rest }

def run (passes : Char → Bool) (cursor : Cursor) : List Char :=
  cursor.rest.takeWhile passes

def skipRun (passes : Char → Bool) (cursor : Cursor) : Cursor :=
  { offset := cursor.offset + utf8Length (cursor.run passes)
    rest := cursor.rest.dropWhile passes }

def Within (text : List Char) (cursor : Cursor) : Prop :=
  ∃ consumed,
    text = consumed ++ cursor.rest ∧ cursor.offset = utf8Length consumed

theorem start_within (text : List Char) : (start text).Within text :=
  ⟨[], rfl, rfl⟩

theorem advance_within (text : List Char) (cursor : Cursor)
    (within : cursor.Within text) : cursor.advance.Within text := by
  rcases within with ⟨consumed, textEq, offsetEq⟩
  cases cursor with
  | mk offset rest =>
      cases rest with
      | nil =>
          exact ⟨consumed, textEq, offsetEq⟩
      | cons character rest =>
          refine ⟨consumed ++ [character], ?_, ?_⟩
          · simpa [advance] using textEq
          · simp only at offsetEq
            simp [advance, utf8Length_append, offsetEq]

theorem skipRun_within (text : List Char) (passes : Char → Bool)
    (cursor : Cursor) (within : cursor.Within text) :
    (cursor.skipRun passes).Within text := by
  rcases within with ⟨consumed, textEq, offsetEq⟩
  refine ⟨consumed ++ cursor.run passes, ?_, ?_⟩
  · rw [textEq, List.append_assoc]
    simp [run, skipRun]
  · simp [skipRun, utf8Length_append, offsetEq]

theorem peek?_eq_some_iff (cursor : Cursor) (character : Char) :
    cursor.peek? = some character ↔
      ∃ rest, cursor.rest = character :: rest := by
  cases cursor with
  | mk offset rest =>
      cases rest with
      | nil => simp [peek?]
      | cons first rest => simp [peek?]

theorem advance_length (cursor : Cursor) :
    cursor.advance.rest.length = cursor.rest.length - 1 := by
  cases cursor with
  | mk offset rest =>
      cases rest with
      | nil => rfl
      | cons first rest => simp [advance]

theorem advance_length_lt (cursor : Cursor) (character : Char)
    (present : cursor.peek? = some character) :
    cursor.advance.rest.length < cursor.rest.length := by
  rcases (peek?_eq_some_iff cursor character).mp present with ⟨rest, restEq⟩
  rw [advance_length, restEq]
  simp

theorem skipRun_length_le (passes : Char → Bool) (cursor : Cursor) :
    (cursor.skipRun passes).rest.length ≤ cursor.rest.length :=
  (List.dropWhile_sublist passes).length_le

theorem skipRun_length_lt (passes : Char → Bool) (cursor : Cursor)
    (character : Char) (present : cursor.peek? = some character)
    (passing : passes character = true) :
    (cursor.skipRun passes).rest.length < cursor.rest.length := by
  rcases (peek?_eq_some_iff cursor character).mp present with ⟨rest, restEq⟩
  have tailBound : (rest.dropWhile passes).length ≤ rest.length :=
    (List.dropWhile_sublist passes).length_le
  simp only [skipRun, restEq, List.dropWhile_cons, passing, if_true,
    List.length_cons]
  omega

end Cursor

end HttpRouting
