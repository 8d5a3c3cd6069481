/-
Texts joined by slashes.

A path, a pattern and the value of a bound field are all written as their
parts in order with one slash between neighbours.
-/

namespace HttpRouting

def slashJoin (parts : List String) : String :=
  "/".intercalate parts

theorem toList_slashJoin (parts : List String) :
    (slashJoin parts).toList =
      List.intercalate ['/'] (parts.map String.toList) := by
  unfold slashJoin
  exact String.toList_intercalate

@[simp]
theorem slashJoin_nil : slashJoin [] = "" :=
  rfl

@[simp]
theorem slashJoin_singleton (part : String) :
    slashJoin [part] = part := by
  apply String.toList_inj.mp
  simp [toList_slashJoin, List.intercalate]

theorem slashJoin_cons_cons (first second : String) (rest : List String) :
    slashJoin (first :: second :: rest) =
      first ++ "/" ++ slashJoin (second :: rest) := by
  apply String.toList_inj.mp
  simp [toList_slashJoin, List.intercalate]

theorem mem_intercalate (separator : List Char) (character : Char)
    (parts : List (List Char))
    (member : character ∈ separator.intercalate parts) :
    character ∈ separator ∨ ∃ part ∈ parts, character ∈ part := by
  induction parts with
  | nil =>
      cases member
  | cons part rest inductionHypothesis =>
      cases rest with
      | nil =>
          rw [List.intercalate_singleton] at member
          exact .inr ⟨part, List.mem_singleton.mpr rfl, member⟩
      | cons next others =>
          rw [List.intercalate_cons_cons, List.mem_append,
            List.mem_append] at member
          rcases member with (inPart | between) | inRest
          · exact .inr ⟨part, List.mem_cons_self, inPart⟩
          · exact .inl between
          · rcases inductionHypothesis inRest with
              between | ⟨other, otherMember, inOther⟩
            · exact .inl between
            · exact
                .inr ⟨other, List.mem_cons_of_mem part otherMember, inOther⟩

end HttpRouting
