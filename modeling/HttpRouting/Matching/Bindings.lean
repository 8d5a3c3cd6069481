/-
Values bound to field paths.

Each path is bound once.  A path keeps the place of its first capture and has
the value of its last.
-/

namespace HttpRouting

structure Bindings where
  entries : List (String × String) := []
  deriving DecidableEq, Repr, Inhabited

/-- The entries with the value put in place of the old one, or at the end. -/
def insertEntry (path value : String) :
    List (String × String) → List (String × String)
  | [] => [(path, value)]
  | entry :: rest =>
      if entry.1 = path then (path, value) :: rest
      else entry :: insertEntry path value rest

namespace Bindings

def inlineCapacity : Nat :=
  8

def empty : Bindings :=
  {}

def insert (bindings : Bindings) (path value : String) : Bindings :=
  { entries := insertEntry path value bindings.entries }

def insertAll (bindings : Bindings) (captures : List (String × String)) :
    Bindings :=
  captures.foldl (fun bindings capture => bindings.insert capture.1 capture.2)
    bindings

def get? (bindings : Bindings) (path : String) : Option String :=
  (bindings.entries.find? (fun entry => entry.1 == path)).map Prod.snd

def paths (bindings : Bindings) : List String :=
  bindings.entries.map Prod.fst

def size (bindings : Bindings) : Nat :=
  bindings.entries.length

def isEmpty (bindings : Bindings) : Bool :=
  bindings.entries.isEmpty

def sorted (bindings : Bindings) : List (String × String) :=
  bindings.entries.mergeSort (fun left right => left.1 ≤ right.1)

end Bindings

/-! ### Inserting -/

theorem insertEntry_paths (path value : String)
    (entries : List (String × String)) :
    (insertEntry path value entries).map Prod.fst =
      if path ∈ entries.map Prod.fst then entries.map Prod.fst
      else entries.map Prod.fst ++ [path] := by
  induction entries with
  | nil =>
      simp [insertEntry]
  | cons entry rest inductionHypothesis =>
      unfold insertEntry
      by_cases same : entry.1 = path
      · rw [if_pos same]
        simp [same]
      · have different : path ≠ entry.1 := fun equal => same equal.symm
        rw [if_neg same, List.map_cons, inductionHypothesis]
        by_cases present : path ∈ rest.map Prod.fst
        · rw [if_pos present, if_pos (by simp [present]), List.map_cons]
        · have absent : path ∉ (entry :: rest).map Prod.fst := by
            rw [List.map_cons, List.mem_cons]
            intro either
            rcases either with atHead | inRest
            · exact different atHead
            · exact present inRest
          rw [if_neg present, if_neg absent, List.map_cons, List.cons_append]

theorem insertEntry_find? (path value other : String)
    (entries : List (String × String)) :
    ((insertEntry path value entries).find?
        (fun entry => entry.1 == other)).map Prod.snd =
      if other = path then some value
      else (entries.find? (fun entry => entry.1 == other)).map Prod.snd := by
  induction entries with
  | nil =>
      by_cases same : other = path
      · simp [insertEntry, same]
      · have different : path ≠ other := fun equal => same equal.symm
        simp [insertEntry, same, different]
  | cons entry rest inductionHypothesis =>
      unfold insertEntry
      by_cases atHead : entry.1 = path
      · rw [if_pos atHead]
        by_cases same : other = path
        · simp [same]
        · have different : path ≠ other := fun equal => same equal.symm
          simp [atHead, same, different]
      · rw [if_neg atHead]
        by_cases found : entry.1 = other
        · have different : other ≠ path := fun equal =>
            atHead (found.trans equal)
          simp [found, different]
        · simp only [List.find?_cons, beq_eq_false_iff_ne.mpr found]
          exact inductionHypothesis

namespace Bindings

/-- A new path goes to the end, a path that is bound keeps its place. -/
theorem paths_insert (bindings : Bindings) (path value : String) :
    (bindings.insert path value).paths =
      if path ∈ bindings.paths then bindings.paths
      else bindings.paths ++ [path] :=
  insertEntry_paths path value bindings.entries

theorem get?_insert (bindings : Bindings) (path value other : String) :
    (bindings.insert path value).get? other =
      if other = path then some value else bindings.get? other :=
  insertEntry_find? path value other bindings.entries

@[simp]
theorem paths_empty : empty.paths = [] :=
  rfl

@[simp]
theorem get?_empty (path : String) : empty.get? path = none :=
  rfl

theorem paths_length (bindings : Bindings) :
    bindings.paths.length = bindings.size := by
  unfold paths size
  rw [List.length_map]

theorem paths_insert_nodup (bindings : Bindings) (path value : String)
    (distinct : bindings.paths.Nodup) :
    (bindings.insert path value).paths.Nodup := by
  rw [paths_insert]
  by_cases present : path ∈ bindings.paths
  · rw [if_pos present]
    exact distinct
  · rw [if_neg present, List.nodup_append]
    refine ⟨distinct, by simp, ?_⟩
    intro left leftMember right rightMember same
    rw [List.mem_singleton] at rightMember
    apply present
    rw [← rightMember, ← same]
    exact leftMember

theorem insertAll_append (bindings : Bindings)
    (first second : List (String × String)) :
    bindings.insertAll (first ++ second) =
      (bindings.insertAll first).insertAll second := by
  unfold insertAll
  rw [List.foldl_append]

end Bindings

end HttpRouting
