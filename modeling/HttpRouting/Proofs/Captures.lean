/-
What a sequence of captures binds.

`Bindings.ofCaptures` reads the result off the sequence: the paths in the order
of their first captures, each with the value of its last capture.  Recording
the captures one by one gives the same bindings.
-/

import HttpRouting.Matching.Bindings
import Mathlib.Data.List.Basic
import Mathlib.Data.List.Induction

namespace HttpRouting

/-- Behind the first occurrences of some texts, one more text only counts when
it is new. -/
theorem eraseDups_append_singleton (texts : List String) (text : String) :
    (texts ++ [text]).eraseDups =
      if text ∈ texts then texts.eraseDups
      else texts.eraseDups ++ [text] := by
  rw [List.eraseDups_append]
  by_cases known : text ∈ texts
  · rw [if_pos known]
    simp [List.removeAll, known]
  · rw [if_neg known]
    simp [List.removeAll, known, List.eraseDups_cons]

namespace Bindings

def lastValue? (captures : List (String × String)) (path : String) :
    Option String :=
  captures.reverse.lookup path

/-- What captures bind, read off the whole sequence. -/
def ofCaptures (captures : List (String × String)) : Bindings :=
  { entries :=
      (captures.map Prod.fst).eraseDups.filterMap (fun path =>
        (lastValue? captures path).map (fun value => (path, value))) }

theorem lastValue?_of_not_mem (before after : List (String × String))
    (path value : String) (last : path ∉ after.map Prod.fst) :
    lastValue? (before ++ (path, value) :: after) path = some value := by
  have absent : after.reverse.lookup path = none := by
    rw [List.lookup_eq_none_iff]
    intro capture member
    have inAfter : capture ∈ after := List.mem_reverse.mp member
    have different : path ≠ capture.1 := fun same =>
      last (List.mem_map.mpr ⟨capture, inAfter, same.symm⟩)
    exact bne_iff_ne.mpr different
  unfold lastValue?
  rw [List.reverse_append, List.reverse_cons, List.append_assoc,
    List.lookup_append, absent]
  simp

/-! ### Recording captures one by one -/

theorem lastValue?_append_singleton (captures : List (String × String))
    (capture : String × String) (path : String) :
    lastValue? (captures ++ [capture]) path =
      if path = capture.1 then some capture.2
      else lastValue? captures path := by
  unfold lastValue?
  rw [List.reverse_append, List.reverse_singleton, List.singleton_append,
    List.lookup_cons]
  by_cases same : path = capture.1
  · simp [same]
  · rw [beq_eq_false_iff_ne.mpr same, if_neg same]

theorem insertAll_append_singleton (bindings : Bindings)
    (captures : List (String × String)) (capture : String × String) :
    bindings.insertAll (captures ++ [capture]) =
      (bindings.insertAll captures).insert capture.1 capture.2 := by
  rw [insertAll_append]
  rfl

theorem get?_insertAll_empty (captures : List (String × String))
    (path : String) :
    (empty.insertAll captures).get? path = lastValue? captures path := by
  induction captures using List.reverseRecOn with
  | nil =>
      rfl
  | append_singleton captures capture inductionHypothesis =>
      rw [insertAll_append_singleton, get?_insert, inductionHypothesis,
        lastValue?_append_singleton]

theorem paths_insertAll_empty (captures : List (String × String)) :
    (empty.insertAll captures).paths =
      (captures.map Prod.fst).eraseDups := by
  induction captures using List.reverseRecOn with
  | nil =>
      rfl
  | append_singleton captures capture inductionHypothesis =>
      rw [insertAll_append_singleton, paths_insert, inductionHypothesis,
        List.map_append, List.map_singleton, eraseDups_append_singleton]
      simp only [List.mem_eraseDups]

theorem paths_insertAll_nodup (bindings : Bindings)
    (captures : List (String × String)) (distinct : bindings.paths.Nodup) :
    (bindings.insertAll captures).paths.Nodup := by
  induction captures using List.reverseRecOn with
  | nil =>
      exact distinct
  | append_singleton captures capture inductionHypothesis =>
      rw [insertAll_append_singleton]
      exact paths_insert_nodup _ _ _ inductionHypothesis

theorem entries_eq_of_nodup (entries : List (String × String))
    (distinct : (entries.map Prod.fst).Nodup) :
    entries =
      (entries.map Prod.fst).filterMap (fun path =>
        ((entries.find? (fun entry => entry.1 == path)).map Prod.snd).map
          (fun value => (path, value))) := by
  induction entries with
  | nil =>
      rfl
  | cons entry rest inductionHypothesis =>
      rw [List.map_cons, List.nodup_cons] at distinct
      obtain ⟨absent, restDistinct⟩ := distinct
      have restEq := inductionHypothesis restDistinct
      have skipped :
          ∀ path ∈ rest.map Prod.fst,
            (entry :: rest).find? (fun other => other.1 == path) =
              rest.find? (fun other => other.1 == path) := by
        intro path member
        have different : entry.1 ≠ path := fun same =>
          absent (same ▸ member)
        rw [List.find?_cons, beq_eq_false_iff_ne.mpr different]
      rw [List.map_cons, List.filterMap_cons]
      simp only [List.find?_cons, beq_self_eq_true, Option.map_some]
      congr 1
      conv_lhs => rw [restEq]
      apply List.filterMap_congr
      intro path member
      have skip := skipped path member
      rw [List.find?_cons] at skip
      rw [skip]

theorem get?_eq_none_iff (bindings : Bindings) (path : String) :
    bindings.get? path = none ↔ path ∉ bindings.paths := by
  unfold get? paths
  rw [Option.map_eq_none_iff, List.find?_eq_none, List.mem_map]
  simp only [beq_iff_eq, not_exists, not_and]

/-- Where no path comes twice, each entry is found under its path. -/
theorem mem_entries_iff (entries : List (String × String))
    (distinct : (entries.map Prod.fst).Nodup) (path value : String) :
    (path, value) ∈ entries ↔ get? { entries := entries } path = some value := by
  unfold get?
  induction entries with
  | nil =>
      simp
  | cons entry rest inductionHypothesis =>
      rw [List.map_cons, List.nodup_cons] at distinct
      rcases distinct with ⟨absent, restDistinct⟩
      rw [List.mem_cons, List.find?_cons]
      by_cases same : entry.1 = path
      · have notLater : (path, value) ∉ rest := by
          intro member
          apply absent
          rw [same]
          exact List.mem_map_of_mem member
        rw [beq_iff_eq.mpr same, or_iff_left notLater, Option.map_some,
          Option.some.injEq, Prod.ext_iff]
        exact ⟨fun both => both.2.symm, fun own => ⟨same.symm, own.symm⟩⟩
      · have notFirst : (path, value) ≠ entry := by
          rintro rfl
          exact same rfl
        rw [beq_eq_false_iff_ne.mpr same, or_iff_right notFirst]
        exact inductionHypothesis restDistinct

/-- Captures recorded in turn bind what the whole sequence says. -/
theorem insertAll_empty (captures : List (String × String)) :
    empty.insertAll captures = ofCaptures captures := by
  have distinct : (empty.insertAll captures).paths.Nodup :=
    paths_insertAll_nodup empty captures List.nodup_nil
  have entriesEq :=
    entries_eq_of_nodup (empty.insertAll captures).entries distinct
  have pathsEq := paths_insertAll_empty captures
  unfold paths at pathsEq
  unfold ofCaptures
  rw [← pathsEq]
  cases bound : empty.insertAll captures with
  | mk entries =>
      rw [bound] at entriesEq
      have valueEq :
          ∀ path,
            (entries.find? (fun entry => entry.1 == path)).map Prod.snd =
              lastValue? captures path := by
        intro path
        rw [← get?_insertAll_empty, bound]
        rfl
      simp only [valueEq] at entriesEq
      exact congrArg Bindings.mk entriesEq

theorem get?_ofCaptures (captures : List (String × String))
    (path : String) :
    (ofCaptures captures).get? path = lastValue? captures path := by
  rw [← insertAll_empty, get?_insertAll_empty]

theorem paths_ofCaptures (captures : List (String × String)) :
    (ofCaptures captures).paths = (captures.map Prod.fst).eraseDups := by
  rw [← insertAll_empty, paths_insertAll_empty]

end Bindings

end HttpRouting
