/-
Texts that consist of lines.

A text consists of lines that hold no line break themselves and have one behind
them.  There is only one way to see a text so, and then it has as many lines as
line breaks.  Written texts that hold line breaks give more lines than texts.
-/

import HttpRouting.Program.Listing
import HttpRouting.Proofs.PathSplitting

namespace HttpRouting

def lineBreaks (text : String) : Nat :=
  text.toList.count '\n'

/-- The text is made of the lines, none of which is broken. -/
structure ConsistsOf (text : String) (lines : List String) : Prop where
  written : text = unlines lines
  unbroken : ∀ line ∈ lines, '\n' ∉ line.toList

/-! ### Lines written one behind the other -/

@[simp]
theorem unlines_nil : unlines [] = "" :=
  rfl

theorem unlines_cons (line : String) (rest : List String) :
    unlines (line :: rest) = line ++ "\n" ++ unlines rest := by
  unfold unlines
  rw [List.map_cons, String.join_cons]

theorem unlines_append (first second : List String) :
    unlines (first ++ second) = unlines first ++ unlines second := by
  induction first with
  | nil =>
      rw [List.nil_append, unlines_nil, String.empty_append]
  | cons line rest inductionHypothesis =>
      rw [List.cons_append, unlines_cons, unlines_cons, inductionHypothesis]
      simp only [String.append_assoc]

theorem toList_unlines_cons (line : String) (rest : List String) :
    (unlines (line :: rest)).toList =
      line.toList ++ '\n' :: (unlines rest).toList := by
  rw [unlines_cons, String.toList_append, String.toList_append,
    List.append_assoc]
  rfl

theorem lineBreaks_eq_zero_iff (text : String) :
    lineBreaks text = 0 ↔ '\n' ∉ text.toList := by
  unfold lineBreaks
  exact List.count_eq_zero

theorem lineBreaks_append (first second : String) :
    lineBreaks (first ++ second) = lineBreaks first + lineBreaks second := by
  unfold lineBreaks
  rw [String.toList_append, List.count_append]

theorem lineBreaks_join_eq_zero_iff (texts : List String) :
    lineBreaks (String.join texts) = 0 ↔
      ∀ text ∈ texts, '\n' ∉ text.toList := by
  induction texts with
  | nil =>
      constructor
      · intro _
        nofun
      · intro _
        rfl
  | cons text rest inductionHypothesis =>
      rw [String.join_cons, lineBreaks_append, Nat.add_eq_zero_iff,
        lineBreaks_eq_zero_iff, inductionHypothesis, List.forall_mem_cons]

theorem lineBreaks_unlines (texts : List String) :
    lineBreaks (unlines texts) =
      texts.length + lineBreaks (String.join texts) := by
  induction texts with
  | nil =>
      rfl
  | cons text rest inductionHypothesis =>
      have ended : lineBreaks "\n" = 1 := by
        decide
      rw [unlines_cons, String.join_cons, List.length_cons]
      simp only [lineBreaks_append, ended, inductionHypothesis]
      omega

/-! ### The lines of a text -/

theorem ConsistsOf.length_eq {text : String} {lines : List String}
    (consists : ConsistsOf text lines) :
    lines.length = lineBreaks text := by
  rw [consists.written, lineBreaks_unlines,
    (lineBreaks_join_eq_zero_iff lines).mpr consists.unbroken, Nat.add_zero]

theorem ConsistsOf.append {first second : String}
    {firstLines secondLines : List String}
    (firstConsists : ConsistsOf first firstLines)
    (secondConsists : ConsistsOf second secondLines) :
    ConsistsOf (first ++ second) (firstLines ++ secondLines) where
  written := by
    rw [unlines_append, ← firstConsists.written, ← secondConsists.written]
  unbroken := by
    intro line member
    rcases List.mem_append.mp member with inFirst | inSecond
    · exact firstConsists.unbroken line inFirst
    · exact secondConsists.unbroken line inSecond

theorem toList_unlines_ofList (pieces : List (List Char))
    (inhabited : pieces ≠ []) :
    (unlines (pieces.map String.ofList)).toList =
      ['\n'].intercalate pieces ++ ['\n'] := by
  induction pieces with
  | nil =>
      exact absurd rfl inhabited
  | cons piece rest inductionHypothesis =>
      rw [List.map_cons, toList_unlines_cons, String.toList_ofList]
      cases rest with
      | nil =>
          rw [List.intercalate_singleton]
          rfl
      | cons next others =>
          rw [inductionHypothesis (List.cons_ne_nil next others),
            List.intercalate_cons_cons, List.append_assoc, List.append_assoc]
          rfl

theorem exists_consistsOf_ended (text : String) :
    ∃ lines, ConsistsOf (text ++ "\n") lines := by
  refine ⟨(text.toList.splitOn '\n').map String.ofList, ?_, ?_⟩
  · apply String.toList_inj.mp
    rw [toList_unlines_ofList _ (List.splitOn_ne_nil '\n' text.toList),
      List.intercalate_splitOn, String.toList_append]
    rfl
  · intro line member
    rcases List.mem_map.mp member with ⟨piece, inSplit, rfl⟩
    rw [String.toList_ofList]
    exact Request.not_mem_of_mem_splitOn '\n' text.toList piece inSplit

/-- What stands in front of the first occurrence of a mark, and what stands
behind it. -/
theorem eq_of_append_mark (mark : Char)
    {left right leftRest rightRest : List Char}
    (leftPlain : mark ∉ left) (rightPlain : mark ∉ right)
    (same : left ++ mark :: leftRest = right ++ mark :: rightRest) :
    left = right ∧ leftRest = rightRest := by
  have front :
      ∀ text rest : List Char,
        mark ∉ text →
          (text ++ mark :: rest).takeWhile (fun other => other != mark) =
            text := by
    intro text rest plain
    have passing : ∀ other ∈ text, (other != mark) = true := by
      intro other member
      apply bne_iff_ne.mpr
      rintro rfl
      exact plain member
    rw [List.takeWhile_append_of_pos passing]
    simp
  have sameFront : left = right := by
    rw [← front left leftRest leftPlain, same,
      front right rightRest rightPlain]
  rw [sameFront] at same
  exact ⟨sameFront, (List.cons.inj (List.append_cancel_left same)).2⟩

theorem ConsistsOf.unique {text : String} {left right : List String}
    (leftConsists : ConsistsOf text left)
    (rightConsists : ConsistsOf text right) : left = right := by
  induction left generalizing text right with
  | nil =>
      have length := rightConsists.length_eq
      rw [← leftConsists.length_eq] at length
      exact (List.length_eq_zero_iff.mp length).symm
  | cons line rest inductionHypothesis =>
      cases right with
      | nil =>
          have length := leftConsists.length_eq
          rw [← rightConsists.length_eq] at length
          cases length
      | cons other others =>
          have same :
              line.toList ++ '\n' :: (unlines rest).toList =
                other.toList ++ '\n' :: (unlines others).toList := by
            rw [← toList_unlines_cons, ← toList_unlines_cons,
              ← leftConsists.written, rightConsists.written]
          rcases
            eq_of_append_mark '\n'
              (leftConsists.unbroken line List.mem_cons_self)
              (rightConsists.unbroken other List.mem_cons_self) same with
            ⟨sameLine, sameRest⟩
          have restEq : unlines rest = unlines others :=
            String.toList_inj.mp sameRest
          have restConsists : ConsistsOf (unlines rest) rest :=
            ⟨rfl, fun later member =>
              leftConsists.unbroken later (List.mem_cons_of_mem line member)⟩
          have othersConsist : ConsistsOf (unlines rest) others :=
            ⟨restEq, fun later member =>
              rightConsists.unbroken later
                (List.mem_cons_of_mem other member)⟩
          rw [String.toList_inj.mp sameLine,
            inductionHypothesis restConsists othersConsist]

end HttpRouting
