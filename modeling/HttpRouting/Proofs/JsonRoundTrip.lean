/-
Written JSON values are read back.

Reading keeps the open containers on a list.  Whatever is open, the tokens of a
value end with that value being complete, and so the innermost container takes
it as its next part.  Together with the scanning of written texts this gives
back every value that has a text.
-/

import HttpRouting.Proofs.JsonTokens

namespace HttpRouting

namespace Json

theorem intercalate_cons_eq {Mark : Type} (separator : Mark)
    (first : List Mark) (rest : List (List Mark)) :
    [separator].intercalate (first :: rest) =
      first ++ rest.flatMap (fun part => separator :: part) := by
  induction rest generalizing first with
  | nil =>
      rw [List.intercalate_singleton, List.flatMap_nil, List.append_nil]
  | cons second others inductionHypothesis =>
      rw [List.intercalate_cons_cons, inductionHypothesis, List.flatMap_cons,
        List.append_assoc, List.singleton_append, List.cons_append]

namespace Reading

/-! ### Going on from a place in the tokens -/

def finish? (reading : Reading) (tokens : List Token) : Option Json :=
  (tokens.foldlM step reading).bind value?

theorem finish?_of_step (reading next : Reading) (token : Token)
    (rest : List Token) (stepped : reading.step token = some next) :
    reading.finish? (token :: rest) = next.finish? rest := by
  unfold finish?
  rw [List.foldlM_cons, stepped]
  rfl

theorem finish?_of_complete (reading : Reading) (token : Token)
    (rest : List Token) (value : Json) (frames : List Frame)
    (stepped : reading.step token = complete value frames) :
    reading.finish? (token :: rest) =
      (complete value frames).bind (fun next => next.finish? rest) := by
  unfold finish?
  rw [List.foldlM_cons, stepped]
  cases complete value frames <;> rfl

theorem finish?_firstElement (value : Json) (frames : List Frame)
    (rest : List Token) :
    finish? { frames := frames, expected := .firstElement }
        (value.tokens ++ rest) =
      finish? { frames := frames, expected := .value }
        (value.tokens ++ rest) := by
  cases value <;> rfl

/-! ### Whole values -/

mutual

/-- The tokens of a value complete it, whatever is open. -/
theorem finish?_tokens :
    (value : Json) → (frames : List Frame) → (rest : List Token) →
      finish? { frames := frames, expected := .value }
          (value.tokens ++ rest) =
        (complete value frames).bind (fun next => next.finish? rest)
  | .null, frames, rest => finish?_of_complete _ _ rest _ frames rfl
  | .bool _, frames, rest => finish?_of_complete _ _ rest _ frames rfl
  | .number _, frames, rest => finish?_of_complete _ _ rest _ frames rfl
  | .string _, frames, rest => finish?_of_complete _ _ rest _ frames rfl
  | .array [], frames, rest =>
      finish?_of_complete
        { frames := .array [] :: frames, expected := .firstElement }
        .closeBracket rest (.array []) frames rfl
  | .array (first :: others), frames, rest => by
      rw [tokens, tokensEach, intercalate_cons_eq, List.cons_append,
        List.append_assoc, List.append_assoc, List.singleton_append]
      calc
        _ = finish?
              { frames := .array [] :: frames, expected := .firstElement }
              (first.tokens ++ _) :=
          finish?_of_step _ _ _ _ rfl
        _ = finish?
              { frames := .array [first] :: frames, expected := .separator }
              _ := by
          rw [finish?_firstElement,
            finish?_tokens first (.array [] :: frames)]
          rfl
        _ = _ := finish?_elements others [first] frames rest
  | .object [], frames, rest =>
      finish?_of_complete
        { frames := .object [] :: frames, expected := .firstKey }
        .closeBrace rest (.object []) frames rfl
  | .object ((key, value) :: others), frames, rest => by
      rw [tokens, tokensMembers, intercalate_cons_eq, List.cons_append,
        List.append_assoc, List.append_assoc, List.singleton_append]
      calc
        _ = finish?
              { frames := .member [] key :: frames, expected := .value }
              (value.tokens ++ _) :=
          rfl
        _ = finish?
              { frames := .object [(key, value)] :: frames
                expected := .separator } _ := by
          rw [finish?_tokens value (.member [] key :: frames)]
          rfl
        _ = _ := finish?_members others [(key, value)] frames rest

theorem finish?_elements :
    (elements done : List Json) → (frames : List Frame) →
      (rest : List Token) →
        finish?
            { frames := .array done :: frames, expected := .separator }
            ((tokensEach elements).flatMap (fun part => .comma :: part) ++
              .closeBracket :: rest) =
          (complete (.array (done.reverse ++ elements)) frames).bind
            (fun next => next.finish? rest)
  | [], done, frames, rest => by
      rw [List.append_nil]
      exact finish?_of_complete _ .closeBracket rest _ frames rfl
  | value :: others, done, frames, rest => by
      rw [tokensEach, List.flatMap_cons, List.cons_append, List.cons_append,
        List.append_assoc]
      calc
        _ = finish?
              { frames := .array done :: frames, expected := .value }
              (value.tokens ++ _) :=
          finish?_of_step _ _ _ _ rfl
        _ = finish?
              { frames := .array (value :: done) :: frames
                expected := .separator } _ := by
          rw [finish?_tokens value (.array done :: frames)]
          rfl
        _ = _ := by
          rw [finish?_elements others (value :: done) frames rest,
            List.reverse_cons, List.append_assoc, List.singleton_append]

theorem finish?_members :
    (members done : List (Option String × Json)) → (frames : List Frame) →
      (rest : List Token) →
        finish?
            { frames := .object done :: frames, expected := .separator }
            ((tokensMembers members).flatMap (fun part => .comma :: part) ++
              .closeBrace :: rest) =
          (complete (.object (done.reverse ++ members)) frames).bind
            (fun next => next.finish? rest)
  | [], done, frames, rest => by
      rw [List.append_nil]
      exact finish?_of_complete _ .closeBrace rest _ frames rfl
  | (key, value) :: others, done, frames, rest => by
      rw [tokensMembers, List.flatMap_cons, List.cons_append,
        List.cons_append, List.append_assoc]
      calc
        _ = finish?
              { frames := .member done key :: frames, expected := .value }
              (value.tokens ++ _) :=
          rfl
        _ = finish?
              { frames := .object ((key, value) :: done) :: frames
                expected := .separator } _ := by
          rw [finish?_tokens value (.member done key :: frames)]
          rfl
        _ = _ := by
          rw [finish?_members others ((key, value) :: done) frames rest,
            List.reverse_cons, List.append_assoc, List.singleton_append]

end

end Reading

theorem ofTokens?_tokens (value : Json) :
    ofTokens? value.tokens = some value := by
  have read := Reading.finish?_tokens value [] []
  rw [List.append_nil] at read
  exact read

theorem parse?_compact_line (value : Json)
    (spelled : value.isSpelled = true) :
    parse? (value.compact ++ "\n") = some value := by
  have scanned := tokens?_compact value spelled ['\n'] (.inr rfl)
  unfold parse?
  rw [String.toList_append]
  calc
    _ = Option.bind (some value.tokens) ofTokens? := by
      rw [← scanned]
      rfl
    _ = some value := by
      rw [Option.bind_some, ofTokens?_tokens]

end Json

end HttpRouting
