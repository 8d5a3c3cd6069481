/-
Request paths.

A path without its leading slash is split at slashes into components.  The
last colon of the last component, unless it comes first there, is followed by
the verb.
-/

namespace HttpRouting

structure Request where
  components : List String
  verb : String
  deriving DecidableEq, Repr, Inhabited

namespace Request

def inlineCapacity : Nat :=
  16

def withoutLeadingSlash : List Char → List Char
  | '/' :: rest => rest
  | path => path

def splitLast (component : List Char) : List Char × List Char :=
  let verb := (component.reverse.takeWhile (fun c => c != ':')).reverse
  let front := component.take (component.length - verb.length - 1)
  if front = [] then (component, []) else (front, verb)

/-! ### The last colon -/

theorem takeWhile_reverse_plain (text : List Char) (plain : ':' ∉ text) :
    text.reverse.takeWhile (fun c => c != ':') = text.reverse := by
  have passing :
      ∀ character ∈ text.reverse, (character != ':') = true := by
    intro character member
    have inText : character ∈ text := List.mem_reverse.mp member
    exact bne_iff_ne.mpr (fun same => plain (same ▸ inText))
  have whole :
      (text.reverse ++ []).takeWhile (fun c => c != ':') =
        text.reverse ++ [].takeWhile (fun c => c != ':') :=
    List.takeWhile_append_of_pos passing
  simpa using whole

theorem splitLast_of_plain (component : List Char)
    (plain : ':' ∉ component) : splitLast component = (component, []) := by
  unfold splitLast
  rw [takeWhile_reverse_plain component plain, List.reverse_reverse]
  simp

/-- The verb is cut off at the last colon unless that comes first. -/
theorem splitLast_append_colon (front verb : List Char)
    (plain : ':' ∉ verb) :
    splitLast (front ++ ':' :: verb) =
      if front = [] then (':' :: verb, []) else (front, verb) := by
  have cut :
      ((front ++ ':' :: verb).reverse.takeWhile
          (fun c => c != ':')).reverse = verb := by
    have reversed :
        (front ++ ':' :: verb).reverse =
          verb.reverse ++ ':' :: front.reverse := by
      simp
    rw [reversed, List.takeWhile_append,
      takeWhile_reverse_plain verb plain, if_pos rfl]
    simp
  have taken :
      (front ++ ':' :: verb).take
          ((front ++ ':' :: verb).length - verb.length - 1) = front := by
    have count :
        (front ++ ':' :: verb).length - verb.length - 1 = front.length := by
      rw [List.length_append, List.length_cons]
      omega
    rw [count, List.take_left]
  unfold splitLast
  simp only [cut, taken]
  by_cases first : front = []
  · rw [if_pos first, if_pos first, first, List.nil_append]
  · rw [if_neg first, if_neg first]

theorem exists_last_colon (component : List Char)
    (present : ':' ∈ component) :
    ∃ front verb, component = front ++ ':' :: verb ∧ ':' ∉ verb := by
  have reversed : ':' ∈ component.reverse := List.mem_reverse.mpr present
  obtain ⟨before, after, equal, plain⟩ := List.eq_append_cons_of_mem reversed
  refine ⟨after.reverse, before.reverse, ?_, ?_⟩
  · apply List.reverse_inj.mp
    rw [equal]
    simp
  · intro member
    exact plain (List.mem_reverse.mp member)

def ofComponents (components : List (List Char)) : Request :=
  match components.getLast? with
  | none =>
      { components := []
        verb := "" }
  | some last =>
      let (front, verb) := splitLast last
      { components := (components.dropLast ++ [front]).map String.ofList
        verb := String.ofList verb }

def split (path : String) : Request :=
  match withoutLeadingSlash path.toList with
  | [] =>
      { components := []
        verb := "" }
  | trimmed => ofComponents (trimmed.splitOn '/')

end Request

end HttpRouting
