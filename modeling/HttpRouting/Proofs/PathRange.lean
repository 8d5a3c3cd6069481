/-
Which requests come from a path, and how the path is written again.

The reading of a path says how it is written: only the leading slash and the
colon of an empty verb are lost.  It also says which requests come from some
path.  Such a request splits off again from its own written path, unless it has
no verb and its last component would be cut at a colon; then a colon is written
behind it.
-/

import HttpRouting.Proofs.PathSplitting

namespace HttpRouting

namespace Request

/-- A request with components that some path is split into. -/
structure Separable (request : Request) : Prop where
  inhabited : request.components ≠ []
  more : request.components ≠ [""]
  noSlash : ∀ text ∈ request.components, '/' ∉ text.toList
  verbNoSlash : '/' ∉ request.verb.toList
  verbNoColon : ':' ∉ request.verb.toList
  /-- A colon that comes first in a component starts no verb. -/
  verbBehind : request.verb ≠ "" → request.components.getLast? ≠ some ""

/-- The requests that paths are split into. -/
def InRange (request : Request) : Prop :=
  (request.components = [] ∧ request.verb = "") ∨ request.Separable

/-- What the text is that was split into the request.  Without a verb it may
end with a colon or not. -/
structure Recovers (rest : String) (request : Request) : Prop where
  nothing : request.components = [] → rest = "" ∧ request.verb = ""
  withVerb :
    request.components ≠ [] → request.verb ≠ "" →
      rest = slashJoin request.components ++ ":" ++ request.verb
  withoutVerb :
    request.components ≠ [] → request.verb = "" →
      rest = slashJoin request.components ∨
        rest = slashJoin request.components ++ ":"

/-! ### From a reading -/

theorem Reads.recovers (rest : String) (request : Request)
    (reads : Reads rest request) : Recovers rest request := by
  cases reads with
  | nothing =>
      exact
        { nothing := fun _ => ⟨rfl, rfl⟩
          withVerb := fun inhabited => absurd rfl inhabited
          withoutVerb := fun inhabited => absurd rfl inhabited }
  | plain front last noSlash more noColon =>
      exact
        { nothing := fun empty => absurd empty (by simp)
          withVerb := fun _ different => absurd rfl different
          withoutVerb := fun _ _ => .inl rfl }
  | cut front last verb noSlash inhabited noColon =>
      have written :
          slashJoin (front ++ [last ++ ":" ++ verb]) =
            slashJoin (front ++ [last]) ++ ":" ++ verb := by
        rw [String.append_assoc, String.append_assoc,
          slashJoin_concat_append]
      refine
        { nothing := fun empty => absurd empty (by simp)
          withVerb := fun _ _ => written
          withoutVerb := fun _ empty => .inr ?_ }
      change verb = "" at empty
      rw [written, empty, String.append_empty]

theorem Reads.inRange (rest : String) (request : Request)
    (reads : Reads rest request) : request.InRange := by
  cases reads with
  | nothing =>
      exact .inl ⟨rfl, rfl⟩
  | plain front last noSlash more noColon =>
      exact
        .inr
          { inhabited := by simp
            more := more
            noSlash := noSlash
            verbNoSlash := List.not_mem_nil
            verbNoColon := List.not_mem_nil
            verbBehind := fun different => absurd rfl different }
  | cut front last verb noSlash inhabited noColon =>
      -- The slashes of the last component and of the verb are those of the
      -- text that was cut.
      have lastNoSlash := noSlash (last ++ ":" ++ verb) (by simp)
      simp only [String.toList_append, List.mem_append, not_or]
        at lastNoSlash
      refine
        .inr
          { inhabited := by simp
            more := ?_
            noSlash := ?_
            verbNoSlash := lastNoSlash.2
            verbNoColon := noColon
            verbBehind := ?_ }
      · exact fun single =>
          inhabited (last_eq_of_singleton front last "" single)
      · intro text member
        rcases List.mem_append.mp member with inFront | isLast
        · exact noSlash text (List.mem_append_left _ inFront)
        · rw [List.mem_singleton.mp isLast]
          exact lastNoSlash.1.1
      · intro _ lastEq
        rw [List.getLast?_concat] at lastEq
        exact inhabited (Option.some.inj lastEq)

/-- A text is determined by its reading up to one colon at its end. -/
theorem Recovers.eq_or_colon (first second : String) (request : Request)
    (firstRecovers : Recovers first request)
    (secondRecovers : Recovers second request) :
    first = second ∨ first = second ++ ":" ∨ second = first ++ ":" := by
  by_cases empty : request.components = []
  · left
    rw [(firstRecovers.nothing empty).1, (secondRecovers.nothing empty).1]
  · by_cases noVerb : request.verb = ""
    · rcases firstRecovers.withoutVerb empty noVerb with bare | colon
      · rcases secondRecovers.withoutVerb empty noVerb with
          otherBare | otherColon
        · exact .inl (bare.trans otherBare.symm)
        · right
          right
          rw [bare, otherColon]
      · rcases secondRecovers.withoutVerb empty noVerb with
          otherBare | otherColon
        · right
          left
          rw [colon, otherBare]
        · exact .inl (colon.trans otherColon.symm)
    · left
      rw [firstRecovers.withVerb empty noVerb,
        secondRecovers.withVerb empty noVerb]

/-! ### From a request in the range -/

theorem InRange.reads_path (request : Request) (inRange : request.InRange)
    (returns : request.verb ≠ "" ∨ EndsPlain request.components) :
    Reads (trimmed (path request.components request.verb)) request := by
  cases request with
  | mk components verb =>
      rcases inRange with ⟨rfl, rfl⟩ | separable
      · exact .nothing
      · obtain ⟨front, last, rfl⟩ :=
          (List.eq_nil_or_concat' components).resolve_left
            separable.inhabited
        by_cases noVerb : verb = ""
        · subst noVerb
          have plain := returns.resolve_left (fun some => some rfl)
          rw [trimmed_path_empty]
          exact
            .plain front last separable.noSlash separable.more
              (plain last (by simp))
        · have behind := separable.verbBehind noVerb
          rw [List.getLast?_concat] at behind
          rw [trimmed_path, if_neg noVerb]
          exact
            reads_of_verb front last verb separable.noSlash
              (fun empty => behind (congrArg some empty))
              separable.verbNoSlash separable.verbNoColon

/-- A component that would be cut keeps its colon when one more is written
behind it. -/
theorem Separable.reads_colon (components : List String)
    (separable : Separable { components := components, verb := "" })
    (colon : ¬ EndsPlain components) :
    Reads (slashJoin components ++ ":")
      { components := components
        verb := "" } := by
  obtain ⟨front, last, rfl⟩ :=
    (List.eq_nil_or_concat' components).resolve_left separable.inhabited
  have inhabited : last ≠ "" := by
    rintro rfl
    apply colon
    intro other same
    rw [List.getLast?_concat] at same
    cases same
    exact List.not_mem_nil
  have reads :=
    reads_of_verb front last "" separable.noSlash inhabited
      List.not_mem_nil List.not_mem_nil
  rw [String.append_empty] at reads
  exact reads

theorem exists_split_eq_iff (request : Request) :
    (∃ path, split path = request) ↔ request.InRange := by
  constructor
  · rintro ⟨path, rfl⟩
    exact (reads_split path).inRange
  · intro inRange
    by_cases returns : request.verb ≠ "" ∨ EndsPlain request.components
    · exact
        ⟨_, (split_eq_iff_reads _ request).mpr
          (inRange.reads_path request returns)⟩
    · rw [not_or, not_not] at returns
      cases request with
      | mk components verb =>
          obtain ⟨rfl, colon⟩ := returns
          rcases inRange with ⟨rfl, _⟩ | separable
          · exact absurd nofun colon
          · refine
              ⟨"/" ++ (slashJoin components ++ ":"),
                (split_eq_iff_reads _ _).mpr ?_⟩
            rw [trimmed_slash_append]
            exact separable.reads_colon components colon

/-- Splitting loses nothing of a path but the leading slash and the colon of an
empty verb, and it reaches exactly the requests in the range.  A request in the
range splits off again from its own path unless a colon of its last component
is in the way, and two paths that split alike differ by a colon at the end at
most. -/
theorem split_lossless_and_range_exact :
    (∀ path, Recovers (trimmed path) (split path)) ∧
    (∀ request, (∃ path, split path = request) ↔ request.InRange) ∧
    (∀ request : Request,
      request.InRange →
        request.verb ≠ "" ∨ EndsPlain request.components →
          split (path request.components request.verb) = request) ∧
    (∀ first second : String,
      split ("/" ++ first) = split ("/" ++ second) →
        first = second ∨ first = second ++ ":" ∨ second = first ++ ":") := by
  refine
    ⟨fun path => (reads_split path).recovers, exists_split_eq_iff, ?_, ?_⟩
  · intro request inRange returns
    exact
      (split_eq_iff_reads _ request).mpr (inRange.reads_path request returns)
  · intro first second alike
    have firstRecovers := (reads_split ("/" ++ first)).recovers
    have secondRecovers := (reads_split ("/" ++ second)).recovers
    rw [trimmed_slash_append] at firstRecovers secondRecovers
    rw [← alike] at secondRecovers
    exact firstRecovers.eq_or_colon first second _ secondRecovers

def colonsRequest : Request :=
  { components := ["a", "", ":b:c"]
    verb := "undo" }

theorem split_lossless_and_range_exact_colons :
    colonsRequest.InRange ∧
      split "/a//:b:c:undo" = colonsRequest ∧
        split ("/" ++ "a:") = split ("/" ++ "a") ∧
          ("a:" = "a" ∨ "a:" = "a" ++ ":" ∨ "a" = "a:" ++ ":") := by
  obtain ⟨_, range, back, alike⟩ := split_lossless_and_range_exact
  have inRange : colonsRequest.InRange :=
    (range colonsRequest).mp ⟨"/a//:b:c:undo", by decide +kernel⟩
  have sameSplit : split ("/" ++ "a:") = split ("/" ++ "a") := by
    decide +kernel
  exact
    ⟨inRange, back colonsRequest inRange (.inl (by decide)), sameSplit,
      alike "a:" "a" sameSplit⟩

end Request

end HttpRouting
