/-
How paths are split.

A path without its leading slash is read in one of three ways: as nothing, as
components alone, or as components with a verb behind a colon.  Splitting finds
the one reading that a path has.  So the components of a written path come back
as they were, and the verb with them, unless there is no verb and the last
component holds a colon behind its first character.  Such a component is cut at
its last colon.
-/

import HttpRouting.Matching.Request
import HttpRouting.Text.Slash
import Mathlib.Data.List.Basic

namespace HttpRouting

namespace Request

/-- The path of components and a verb; an empty verb is left out. -/
def path (components : List String) (verb : String) : String :=
  "/" ++ slashJoin components ++ (if verb = "" then "" else ":" ++ verb)

def trimmed (path : String) : String :=
  String.ofList (withoutLeadingSlash path.toList)

/-- A text that is one component of a path. -/
def Component (text : String) : Prop :=
  text ≠ "" ∧ '/' ∉ text.toList

/-- No colon stands behind the first character of the last component. -/
def EndsPlain (components : List String) : Prop :=
  ∀ last, components.getLast? = some last → ':' ∉ last.toList.tail

instance (components : List String) : Decidable (EndsPlain components) :=
  decidable_of_iff
    (∀ last ∈ components.getLast?, ':' ∉ last.toList.tail)
    ⟨fun plain last same => plain last same,
      fun plain last same => plain last same⟩

theorem trimmed_slash_append (rest : String) :
    trimmed ("/" ++ rest) = rest := by
  apply String.toList_inj.mp
  simp [trimmed, withoutLeadingSlash]

/-! ### Components between slashes -/

/-- Text written behind components stands in the last of them. -/
theorem slashJoin_concat_append (front : List String)
    (last suffix : String) :
    slashJoin (front ++ [last]) ++ suffix =
      slashJoin (front ++ [last ++ suffix]) := by
  induction front with
  | nil =>
      rw [List.nil_append, List.nil_append, slashJoin_singleton,
        slashJoin_singleton]
  | cons first rest inductionHypothesis =>
      cases rest with
      | nil =>
          simp only [List.cons_append, List.nil_append, slashJoin_cons_cons,
            slashJoin_singleton, String.append_assoc]
      | cons second others =>
          simp only [List.cons_append, slashJoin_cons_cons] at *
          rw [String.append_assoc, inductionHypothesis]

theorem last_eq_of_singleton (front : List String) (last text : String)
    (single : front ++ [last] = [text]) : last = text := by
  have lastEq := congrArg List.getLast? single
  rw [List.getLast?_concat] at lastEq
  exact Option.some.inj lastEq

theorem splitOn_slashJoin (components : List String)
    (noSlash : ∀ text ∈ components, '/' ∉ text.toList)
    (inhabited : components ≠ []) :
    (slashJoin components).toList.splitOn '/' =
      components.map String.toList := by
  rw [toList_slashJoin]
  apply List.splitOn_intercalate
  · intro characters member
    obtain ⟨text, inComponents, rfl⟩ := List.mem_map.mp member
    exact noSlash text inComponents
  · rw [ne_eq, List.map_eq_nil_iff]
    exact inhabited

theorem not_mem_of_mem_splitOn (separator : Char) (text part : List Char)
    (member : part ∈ text.splitOn separator) : separator ∉ part := by
  induction text generalizing part with
  | nil =>
      rw [List.splitOn_nil, List.mem_singleton] at member
      rw [member]
      exact List.not_mem_nil
  | cons first rest inductionHypothesis =>
      rw [List.splitOn_cons_eq_if_modifyHead] at member
      split at member
      · rcases List.mem_cons.mp member with isEmpty | later
        · rw [isEmpty]
          exact List.not_mem_nil
        · exact inductionHypothesis part later
      · rename_i different
        obtain ⟨head, others, splitEq⟩ :=
          List.exists_cons_of_ne_nil (List.splitOn_ne_nil separator rest)
        rw [splitEq] at inductionHypothesis
        rw [splitEq, List.modifyHead_cons] at member
        rcases List.mem_cons.mp member with isHead | later
        · rw [isHead, List.mem_cons]
          rintro (same | inHead)
          · exact different (beq_iff_eq.mpr same.symm)
          · exact inductionHypothesis head List.mem_cons_self inHead
        · exact inductionHypothesis part (List.mem_cons_of_mem head later)

theorem exists_slash_parts (text : String) :
    ∃ front last,
      text = slashJoin (front ++ [last]) ∧
        ∀ part ∈ front ++ [last], '/' ∉ part.toList := by
  have inhabited :
      (text.toList.splitOn '/').map String.ofList ≠ [] := by
    rw [ne_eq, List.map_eq_nil_iff]
    exact List.splitOn_ne_nil '/' text.toList
  obtain ⟨front, last, partsEq⟩ :=
    (List.eq_nil_or_concat' _).resolve_left inhabited
  refine ⟨front, last, ?_, ?_⟩
  · have listed (parts : List (List Char)) :
        (parts.map String.ofList).map String.toList = parts := by
      rw [List.map_map]
      exact List.map_id'' (fun _ => String.toList_ofList) parts
    apply String.toList_inj.mp
    rw [toList_slashJoin, ← partsEq, listed, List.intercalate_splitOn]
  · intro part member
    rw [← partsEq] at member
    obtain ⟨characters, inSplit, rfl⟩ := List.mem_map.mp member
    rw [String.toList_ofList]
    exact not_mem_of_mem_splitOn '/' text.toList characters inSplit

theorem ofComponents_concat (front : List String) (last : String) :
    ofComponents ((front ++ [last]).map String.toList) =
      { components := front ++ [String.ofList (splitLast last.toList).1]
        verb := String.ofList (splitLast last.toList).2 } := by
  unfold ofComponents
  rw [List.map_append, List.map_singleton, List.getLast?_concat]
  simp only [List.dropLast_concat, List.map_append, List.map_map,
    List.map_singleton]
  congr 2
  exact List.map_id'' (fun _ => String.ofList_toList) front

theorem split_of_trimmed_empty (path : String)
    (nothing : trimmed path = "") :
    split path =
      { components := []
        verb := "" } := by
  have noCharacters : withoutLeadingSlash path.toList = [] :=
    String.ofList_inj.mp nothing
  unfold split
  rw [noCharacters]

/-- A path is split at its slashes, and the verb is cut off the last
component. -/
theorem split_of_trimmed (path : String) (front : List String)
    (last : String) (written : trimmed path = slashJoin (front ++ [last]))
    (noSlash : ∀ text ∈ front ++ [last], '/' ∉ text.toList)
    (more : front ++ [last] ≠ [""]) :
    split path =
      { components := front ++ [String.ofList (splitLast last.toList).1]
        verb := String.ofList (splitLast last.toList).2 } := by
  have splitEq := splitOn_slashJoin (front ++ [last]) noSlash (by simp)
  have characters :
      withoutLeadingSlash path.toList =
        (slashJoin (front ++ [last])).toList := by
    rw [← written, trimmed, String.toList_ofList]
  unfold split
  rw [characters]
  split
  · rename_i nothing
    -- Nothing at all is written only for a single empty component.
    rw [nothing, List.splitOn_nil] at splitEq
    have single : (front ++ [last]).map String.toList = [""].map String.toList :=
      splitEq.symm
    exact absurd
      (List.map_injective_iff.mpr (fun _ _ => String.toList_inj.mp) single)
      more
  · rw [splitEq, ofComponents_concat]

/-! ### The verb in the last component -/

theorem splitLast_of_plain_tail (component : List Char)
    (plain : ':' ∉ component.tail) :
    splitLast component = (component, []) := by
  cases component with
  | nil =>
      rfl
  | cons first rest =>
      rw [List.tail_cons] at plain
      by_cases isColon : first = ':'
      · subst first
        exact splitLast_append_colon [] rest plain
      · apply splitLast_of_plain
        rw [List.mem_cons]
        exact fun either =>
          either.elim (fun same => isColon same.symm) plain

theorem splitLast_of_cut (cut verb : String) (inhabited : cut ≠ "")
    (noColon : ':' ∉ verb.toList) :
    splitLast (cut ++ ":" ++ verb).toList = (cut.toList, verb.toList) := by
  have characters :
      (cut ++ ":" ++ verb).toList = cut.toList ++ ':' :: verb.toList := by
    simp
  have someCharacter : cut.toList ≠ [] := fun empty =>
    inhabited (String.toList_inj.mp empty)
  rw [characters, splitLast_append_colon _ _ noColon, if_neg someCharacter]

/-- A colon behind the first character has a last one. -/
theorem exists_cut (last : String) (colon : ':' ∈ last.toList.tail) :
    ∃ cut verb,
      last = cut ++ ":" ++ verb ∧ cut ≠ "" ∧ ':' ∉ verb.toList := by
  obtain ⟨front, verb, lastEq, noColon⟩ :=
    exists_last_colon last.toList (List.mem_of_mem_tail colon)
  refine ⟨String.ofList front, String.ofList verb, ?_, ?_, ?_⟩
  · apply String.toList_inj.mp
    rw [lastEq]
    simp
  · intro empty
    rw [lastEq, String.ofList_eq_empty_iff.mp empty] at colon
    exact noColon colon
  · rw [String.toList_ofList]
    exact noColon

/-! ### Readings -/

/-- How a text without its leading slash is read.  An empty text has no
components, so a single empty component is never read. -/
inductive Reads : String → Request → Prop where
  | nothing :
      Reads ""
        { components := []
          verb := "" }
  | plain (front : List String) (last : String)
      (noSlash : ∀ text ∈ front ++ [last], '/' ∉ text.toList)
      (more : front ++ [last] ≠ [""]) (noColon : ':' ∉ last.toList.tail) :
      Reads (slashJoin (front ++ [last]))
        { components := front ++ [last]
          verb := "" }
  | cut (front : List String) (last verb : String)
      (noSlash : ∀ text ∈ front ++ [last ++ ":" ++ verb], '/' ∉ text.toList)
      (inhabited : last ≠ "") (noColon : ':' ∉ verb.toList) :
      Reads (slashJoin (front ++ [last ++ ":" ++ verb]))
        { components := front ++ [last]
          verb := verb }

theorem reads_split (path : String) : Reads (trimmed path) (split path) := by
  obtain ⟨front, last, written, noSlash⟩ := exists_slash_parts (trimmed path)
  by_cases single : front ++ [last] = [""]
  · rw [single, slashJoin_singleton] at written
    rw [split_of_trimmed_empty path written, written]
    exact .nothing
  · rw [split_of_trimmed path front last written noSlash single, written]
    by_cases colon : ':' ∈ last.toList.tail
    · obtain ⟨cut, verb, rfl, inhabited, noColon⟩ := exists_cut last colon
      rw [splitLast_of_cut cut verb inhabited noColon, String.ofList_toList,
        String.ofList_toList]
      exact .cut front cut verb noSlash inhabited noColon
    · rw [splitLast_of_plain_tail last.toList colon, String.ofList_toList]
      exact .plain front last noSlash single colon

/-- A path has no other reading than what it splits into. -/
theorem split_eq_iff_reads (path : String) (request : Request) :
    split path = request ↔ Reads (trimmed path) request := by
  constructor
  · rintro rfl
    exact reads_split path
  · intro reads
    generalize written : trimmed path = rest at reads
    cases reads with
    | nothing => exact split_of_trimmed_empty path written
    | plain front last noSlash more noColon =>
        rw [split_of_trimmed path front last written noSlash more,
          splitLast_of_plain_tail last.toList noColon, String.ofList_toList]
    | cut front last verb noSlash inhabited noColon =>
        have more : front ++ [last ++ ":" ++ verb] ≠ [""] := by
          intro single
          have lastEq := last_eq_of_singleton front _ "" single
          have noColonLeft := congrArg String.toList lastEq
          simp at noColonLeft
        rw [split_of_trimmed path front _ written noSlash more,
          splitLast_of_cut last verb inhabited noColon, String.ofList_toList,
          String.ofList_toList]

theorem reads_of_verb (front : List String) (last verb : String)
    (noSlash : ∀ text ∈ front ++ [last], '/' ∉ text.toList)
    (inhabited : last ≠ "") (verbNoSlash : '/' ∉ verb.toList)
    (verbNoColon : ':' ∉ verb.toList) :
    Reads (slashJoin (front ++ [last]) ++ (":" ++ verb))
      { components := front ++ [last]
        verb := verb } := by
  rw [slashJoin_concat_append, ← String.append_assoc]
  apply Reads.cut front last verb _ inhabited verbNoColon
  intro text member
  rcases List.mem_append.mp member with inFront | isLast
  · exact noSlash text (List.mem_append_left [last] inFront)
  · have lastNoSlash : '/' ∉ last.toList := noSlash last (by simp)
    rw [List.mem_singleton.mp isLast]
    simp [lastNoSlash, verbNoSlash]

/-! ### The verb of a written path -/

theorem trimmed_path (components : List String) (verb : String) :
    trimmed (path components verb) =
      slashJoin components ++ (if verb = "" then "" else ":" ++ verb) := by
  unfold path
  rw [String.append_assoc, trimmed_slash_append]

theorem trimmed_path_empty (components : List String) :
    trimmed (path components "") = slashJoin components := by
  rw [trimmed_path, if_pos rfl, String.append_empty]

theorem split_path_of_verb (components : List String) (verb : String)
    (areComponents : ∀ text ∈ components, Component text)
    (inhabited : components ≠ []) (verbInhabited : verb ≠ "")
    (noSlash : '/' ∉ verb.toList) (noColon : ':' ∉ verb.toList) :
    split (path components verb) =
      { components := components
        verb := verb } := by
  obtain ⟨front, last, rfl⟩ :=
    (List.eq_nil_or_concat' components).resolve_left inhabited
  rw [split_eq_iff_reads, trimmed_path, if_neg verbInhabited]
  exact
    reads_of_verb front last verb
      (fun text member => (areComponents text member).2)
      (areComponents last (by simp)).1 noSlash noColon

theorem split_path_of_endsPlain (components : List String)
    (areComponents : ∀ text ∈ components, Component text)
    (plain : EndsPlain components) :
    split (path components "") =
      { components := components
        verb := "" } := by
  rw [split_eq_iff_reads, trimmed_path_empty]
  rcases List.eq_nil_or_concat' components with rfl | ⟨front, last, rfl⟩
  · exact .nothing
  · have more : front ++ [last] ≠ [""] := by
      intro single
      exact (areComponents "" (by rw [single]; simp)).1 rfl
    exact
      .plain front last (fun text member => (areComponents text member).2)
        more (plain last (by simp))

/-- Without a verb, a colon behind the first character of the last component
cuts that component. -/
theorem split_path_of_colon (components : List String)
    (areComponents : ∀ text ∈ components, Component text)
    (colon : ¬ EndsPlain components) :
    ∃ front last cut verb,
      components = front ++ [last] ∧ ':' ∈ last.toList ∧ cut ≠ last ∧
        split (path components "") =
          { components := front ++ [cut]
            verb := verb } := by
  rcases List.eq_nil_or_concat' components with rfl | ⟨front, last, rfl⟩
  · exact absurd nofun colon
  · have colonInTail : ':' ∈ last.toList.tail := by
      by_contra absent
      apply colon
      intro other same
      rw [List.getLast?_concat] at same
      cases same
      exact absent
    obtain ⟨cut, verb, rfl, inhabited, noColon⟩ := exists_cut last colonInTail
    have cutShorter : cut ≠ cut ++ ":" ++ verb := by
      intro same
      have lengths := congrArg String.length same
      simp only [String.length_append] at lengths
      have one : ":".length = 1 := rfl
      omega
    refine
      ⟨front, cut ++ ":" ++ verb, cut, verb, rfl,
        List.mem_of_mem_tail colonInTail, cutShorter, ?_⟩
    rw [split_eq_iff_reads, trimmed_path_empty]
    exact
      .cut front cut verb (fun text member => (areComponents text member).2)
        inhabited noColon

end Request

end HttpRouting
