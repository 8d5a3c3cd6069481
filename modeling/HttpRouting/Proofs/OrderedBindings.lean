/-
Bindings as a map that remembers an order.

Captures are recorded one after the other.  A path keeps the place of its first
capture and has the value of its last, and this is what every way of reading
the bindings shows: looking up a path, going through the entries, or copying
them into a hash map.
-/

import HttpRouting.Proofs.Captures
import Mathlib.Data.Finset.Card

namespace HttpRouting

namespace Bindings

def toMap (bindings : Bindings) : Std.HashMap String String :=
  Std.HashMap.ofList bindings.entries

/-! ### The hash map and the entries -/

section HashMap

variable (bindings : Bindings) (distinct : bindings.paths.Nodup)

include distinct

theorem entries_pairwise_ne :
    bindings.entries.Pairwise
      (fun left right => (left.1 == right.1) = false) := by
  have unequal := List.nodup_iff_pairwise_ne.mp distinct
  exact (List.pairwise_map.mp unequal).imp beq_eq_false_iff_ne.mpr

/-- Of two entries with one path a look-up would find the first, but the hash
map would keep the second: they only agree since the paths are distinct. -/
theorem getElem?_toMap (path : String) :
    bindings.toMap[path]? = bindings.get? path := by
  unfold toMap
  cases found : bindings.get? path with
  | none =>
      have absent : path ∉ bindings.paths :=
        (bindings.get?_eq_none_iff path).mp found
      apply Std.HashMap.getElem?_ofList_of_contains_eq_false
      rw [← Bool.not_eq_true, List.contains_iff_mem]
      exact absent
  | some value =>
      have member : (path, value) ∈ bindings.entries :=
        (mem_entries_iff bindings.entries distinct path value).mpr found
      exact
        Std.HashMap.getElem?_ofList_of_mem (beq_self_eq_true path)
          (bindings.entries_pairwise_ne distinct) member

theorem size_toMap : bindings.toMap.size = bindings.size :=
  Std.HashMap.size_ofList (bindings.entries_pairwise_ne distinct)

end HashMap

/-! ### The last capture under a path -/

theorem lastValue?_eq_none_iff (captures : List (String × String))
    (path : String) :
    lastValue? captures path = none ↔ path ∉ captures.map Prod.fst := by
  rw [← get?_insertAll_empty, get?_eq_none_iff, paths_insertAll_empty,
    List.mem_eraseDups]

theorem lastValue?_eq_some_iff (captures : List (String × String))
    (path value : String) :
    lastValue? captures path = some value ↔
      ∃ before after,
        captures = before ++ (path, value) :: after ∧
          path ∉ after.map Prod.fst := by
  constructor
  · intro last
    induction captures using List.reverseRecOn with
    | nil =>
        cases last
    | append_singleton captures capture inductionHypothesis =>
        rw [lastValue?_append_singleton] at last
        by_cases same : path = capture.1
        · rw [if_pos same] at last
          refine ⟨captures, [], ?_, List.not_mem_nil⟩
          rw [same, ← Option.some.inj last]
        · rw [if_neg same] at last
          rcases inductionHypothesis last with ⟨before, after, rfl, absent⟩
          refine ⟨before, after ++ [capture], by simp, ?_⟩
          simp [absent, same]
  · rintro ⟨before, after, rfl, absent⟩
    exact lastValue?_of_not_mem before after path value absent

/-! ### Recorded captures -/

theorem paths_insertAll_empty_nodup (captures : List (String × String)) :
    (empty.insertAll captures).paths.Nodup :=
  paths_insertAll_nodup empty captures List.nodup_nil

theorem size_insertAll_empty (captures : List (String × String)) :
    (empty.insertAll captures).size =
      (captures.map Prod.fst).toFinset.card := by
  have sameTexts :
      (captures.map Prod.fst).toFinset =
        (empty.insertAll captures).paths.toFinset := by
    rw [paths_insertAll_empty]
    ext path
    simp only [List.mem_toFinset, List.mem_eraseDups]
  rw [sameTexts,
    List.toFinset_card_of_nodup (paths_insertAll_empty_nodup captures),
    paths_length]

theorem isEmpty_insertAll_empty_iff (captures : List (String × String)) :
    (empty.insertAll captures).isEmpty = true ↔ captures = [] := by
  cases captures with
  | nil =>
      simp [insertAll, isEmpty, empty]
  | cons capture rest =>
      have somePath : (empty.insertAll (capture :: rest)).paths ≠ [] := by
        rw [paths_insertAll_empty, List.map_cons, List.eraseDups_cons]
        exact List.cons_ne_nil _ _
      have someEntry : (empty.insertAll (capture :: rest)).entries ≠ [] :=
        fun nothing => somePath (List.map_eq_nil_iff.mpr nothing)
      simp [isEmpty, someEntry]

/-- What bindings must be when the captures were recorded in turn, with nothing
bound before them. -/
structure Records (captures : List (String × String))
    (bindings : Bindings) : Prop where
  distinct : bindings.paths.Nodup
  /-- Paths stand in the order of their first captures. -/
  order : bindings.paths = (captures.map Prod.fst).eraseDups
  /-- A look-up finds the value behind which the path is not captured again. -/
  bound : ∀ path value,
    bindings.get? path = some value ↔
      ∃ before after,
        captures = before ++ (path, value) :: after ∧
          path ∉ after.map Prod.fst
  unbound : ∀ path,
    bindings.get? path = none ↔ path ∉ captures.map Prod.fst
  size : bindings.size = (captures.map Prod.fst).toFinset.card
  isEmpty : bindings.isEmpty = true ↔ captures = []
  listed : ∀ path value,
    (path, value) ∈ bindings.entries ↔ bindings.get? path = some value
  mapped : ∀ path, bindings.toMap[path]? = bindings.get? path
  mapSize : bindings.toMap.size = bindings.size

/-- Whatever is captured, in whatever order and however often, the bindings are
an insertion-ordered map of the captures, and a look-up, the entries and the
hash map tell the same of every path. -/
theorem captures_recorded_and_read_alike (captures : List (String × String)) :
    Records captures (empty.insertAll captures) where
  distinct := paths_insertAll_empty_nodup captures
  order := paths_insertAll_empty captures
  bound := fun path value => by
    rw [get?_insertAll_empty]
    exact lastValue?_eq_some_iff captures path value
  unbound := fun path => by
    rw [get?_insertAll_empty]
    exact lastValue?_eq_none_iff captures path
  size := size_insertAll_empty captures
  isEmpty := isEmpty_insertAll_empty_iff captures
  listed := mem_entries_iff _ (paths_insertAll_empty_nodup captures)
  mapped := getElem?_toMap _ (paths_insertAll_empty_nodup captures)
  mapSize := size_toMap _ (paths_insertAll_empty_nodup captures)

/-- A path that is captured again keeps its place. -/
example :
    (empty.insertAll [("a", "1"), ("b", "2"), ("a", "3")]).entries =
      [("a", "3"), ("b", "2")] := by
  decide

end Bindings

end HttpRouting
