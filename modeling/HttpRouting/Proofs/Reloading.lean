/-
Tables that are loaded from what they list.

A table lists its routes as entries of a configuration, each with its name, the
text of its method and its canonical pattern.  Every entry asks for the route
that it was made from, so loading them in order inserts the same routes again
and gives back the table.
-/

import HttpRouting.Proofs.Registration
import HttpRouting.Proofs.Rendering

namespace HttpRouting

def Route.entry (route : Route) : RouteEntry :=
  { name := route.name
    method := route.method.token
    pattern := route.pattern }

def RouteTable.config (table : RouteTable) : RoutesConfig :=
  { routes := table.routes.map Route.entry }

/-! ### One entry -/

theorem Method.ofName?_token (method : Method)
    (known : method ∈ Method.supported) :
    Method.ofName? method.token = some method := by
  have all :
      ∀ other ∈ Method.supported,
        Method.ofName? other.token = some other := by
    decide +kernel
  exact all method known

/-- The canonical pattern of a route whose template was read from some pattern
builds the route again. -/
theorem Route.build_pattern (route : Route) (consistent : route.Consistent)
    (wellFormed : route.template.WellFormed) :
    Route.build route.name route.method route.pattern = .ok route := by
  have parsed : Template.parse route.pattern = .ok route.template := by
    rw [consistent.pattern]
    exact Template.parse_render route.template wellFormed
  unfold Route.build
  simp only [parsed, ← consistent.pattern, ← consistent.program,
    consistent.valid]

namespace RouteTable

theorem registerEntry_entry (table : RouteTable) (route : Route)
    (consistent : route.Consistent)
    (wellFormed : route.template.WellFormed)
    (fresh : route.name ∉ table.routes.map Route.name) :
    table.registerEntry route.entry = .ok (table.insert route) := by
  have known : Method.supported.contains route.method = true :=
    List.contains_iff_mem.mpr consistent.method
  have free : ¬ table.hasName route.name = true := by
    rw [hasName_iff_mem]
    exact fresh
  unfold registerEntry Route.entry
  simp only [Method.ofName?_token route.method consistent.method]
  unfold register
  rw [if_neg free, if_pos known,
    Route.build_pattern route consistent wellFormed]

/-! ### All entries -/

theorem registerEntries_entries (table : RouteTable) (routes : List Route)
    (consistent : ∀ route ∈ routes, route.Consistent)
    (wellFormed : ∀ route ∈ routes, route.template.WellFormed)
    (distinct : ((table.routes ++ routes).map Route.name).Nodup) :
    table.registerEntries (routes.map Route.entry) =
      .ok (routes.foldl insert table) := by
  induction routes generalizing table with
  | nil =>
      rfl
  | cons route rest inductionHypothesis =>
      have fresh : route.name ∉ table.routes.map Route.name := by
        rw [List.map_append, List.map_cons, List.nodup_middle,
          List.nodup_cons, List.mem_append] at distinct
        exact fun member => distinct.1 (.inl member)
      have registered :=
        registerEntry_entry table route (consistent route List.mem_cons_self)
          (wellFormed route List.mem_cons_self) fresh
      rw [List.map_cons, registerEntries, registered]
      apply inductionHypothesis (table.insert route)
      · exact fun other member =>
          consistent other (List.mem_cons_of_mem route member)
      · exact fun other member =>
          wellFormed other (List.mem_cons_of_mem route member)
      · rw [routes_insert, List.append_assoc, List.singleton_append]
        exact distinct

/-! ### Reachable tables -/

theorem Reachable.eq_foldl_attempt (history : List Registration)
    (table : RouteTable) (reachable : Reachable history table) :
    table = history.foldl RouteTable.attempt RouteTable.empty := by
  induction reachable with
  | empty =>
      rfl
  | ofConfig config table loaded =>
      exact registerEntries_ok RouteTable.empty table config.routes loaded
  | attempt history table registration reachable inductionHypothesis =>
      rw [List.foldl_append, ← inductionHypothesis]
      rfl

/-- The registrations that fail leave nothing behind: a table holds its routes
inserted one after the other. -/
theorem Reachable.eq_foldl_insert (history : List Registration)
    (table : RouteTable) (reachable : Reachable history table) :
    table = table.routes.foldl insert RouteTable.empty := by
  rw [reachable.eq_foldl_attempt history table]
  apply attempts_induction
    (fun _ table => table = table.routes.foldl insert RouteTable.empty) _
    history [] RouteTable.empty rfl
  intro _ table registration inserted
  rcases attempt_cases table registration with
    unchanged | ⟨route, _, _, _, added⟩
  · rw [unchanged]
    exact inserted
  · rw [added, routes_insert, List.foldl_append, ← inserted]
    rfl

theorem exists_registration_of_mem (history : List Registration)
    (table : RouteTable) (madeBy : table.MadeBy history) (route : Route)
    (member : route ∈ table.routes) :
    ∃ registration ∈ history, registration.Makes route := by
  obtain ⟨accepted, sublist, made⟩ := madeBy
  obtain ⟨registration, acceptedMember, makes⟩ :=
    Grammar.forall₂_right_of_mem made route member
  exact ⟨registration, sublist.subset acceptedMember, makes⟩

theorem Reachable.wellFormed (history : List Registration)
    (table : RouteTable) (reachable : Reachable history table) (route : Route)
    (member : route ∈ table.routes) : route.template.WellFormed := by
  rcases
    exists_registration_of_mem history table
      (reachable.keeps history table).2 route member with
    ⟨registration, _, makes⟩
  exact
    Template.wellFormed_of_parse registration.pattern route.template
      makes.template

/-- Loading the listing of a reachable table gives the table back, and so the
same routes and the same answers.  The canonical pattern of every route is read
as the pattern that was registered for it. -/
theorem ofConfig_config (history : List Registration) (table : RouteTable)
    (reachable : Reachable history table) :
    ofConfig table.config = .ok table ∧
      ∀ route ∈ table.routes,
        ∃ registration ∈ history,
          registration.Makes route ∧
            Template.parse route.pattern =
              Template.parse registration.pattern := by
  obtain ⟨consistent, madeBy⟩ := reachable.keeps history table
  have wellFormed := reachable.wellFormed history table
  constructor
  · have loaded :=
      registerEntries_entries RouteTable.empty table.routes consistent.routes
        wellFormed consistent.names
    rw [← reachable.eq_foldl_insert history table] at loaded
    exact loaded
  · intro route member
    obtain ⟨registration, inHistory, makes⟩ :=
      exists_registration_of_mem history table madeBy route member
    refine ⟨registration, inHistory, makes, ?_⟩
    rw [(consistent.routes route member).pattern,
      Template.parse_render route.template (wellFormed route member),
      makes.template]

/-- Patterns that are not canonical, around a registration that fails. -/
def bookRegistrations : List Registration :=
  [{ name := "book"
     method := { token := "PATCH" }
     pattern := "/v1/\x7bname\x7d/b:c/**:LOCK" },
    { name := "book"
      method := { token := "GET" }
      pattern := "/" },
    { name := "root"
      method := { token := "GET" }
      pattern := "/" },
    { name := "rest"
      method := { token := "PATCH" }
      pattern := "/v1/\x7brest=**\x7d" }]

def bookTable : RouteTable :=
  bookRegistrations.foldl attempt RouteTable.empty

theorem ofConfig_config_books :
    Reachable bookRegistrations bookTable ∧
      bookTable.config.routes =
          [{ name := "book"
             method := "PATCH"
             pattern := "/v1/\x7bname=*\x7d/b:c/**:LOCK" },
            { name := "root"
              method := "GET"
              pattern := "/" },
            { name := "rest"
              method := "PATCH"
              pattern := "/v1/\x7brest=**\x7d" }] ∧
        ofConfig bookTable.config = .ok bookTable := by
  have reachable : Reachable bookRegistrations bookTable :=
    attempts_induction Reachable Reachable.attempt bookRegistrations []
      RouteTable.empty .empty
  exact
    ⟨reachable, by decide +kernel,
      (ofConfig_config bookRegistrations bookTable reachable).1⟩

end RouteTable

end HttpRouting
