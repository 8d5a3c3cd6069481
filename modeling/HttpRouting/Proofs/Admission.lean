/-
Which registrations succeed, and what one changes.

A registration comes to one of four ends, which are tried in order: its name is
taken, its method is unsupported, its pattern is not read, or its route is
added.  Nothing else can go wrong, since what is compiled from a pattern is
valid.  A route that is added stands behind all routes of the table, so it
answers the requests of its method that had no answer before.
-/

import HttpRouting.Proofs.Independence
import HttpRouting.Proofs.Validity

namespace HttpRouting

namespace RouteTable

/-! ### The four ends of a registration -/

/-- The route that a registration adds, or why it adds none. -/
inductive Verdict (table : RouteTable) (registration : Registration) :
    Except RouteError Route → Prop where
  | taken (taken : registration.name ∈ table.routes.map Route.name) :
      Verdict table registration (.error (.duplicateName registration.name))
  | unsupported (free : registration.name ∉ table.routes.map Route.name)
      (unsupported : registration.method ∉ Method.supported) :
      Verdict table registration
        (.error
          (.unsupportedMethod registration.name registration.method.token))
  | unread (free : registration.name ∉ table.routes.map Route.name)
      (supported : registration.method ∈ Method.supported)
      (source : ParseError)
      (refused : Template.parse registration.pattern = .error source) :
      Verdict table registration (.error (.parse registration.name source))
  | added (free : registration.name ∉ table.routes.map Route.name)
      (supported : registration.method ∈ Method.supported)
      (template : Template)
      (parsed : Template.parse registration.pattern = .ok template) :
      Verdict table registration
        (.ok (routeOf registration.name registration.method template))

theorem build_of_parse_error (name : String) (method : Method)
    (pattern : String) (source : ParseError)
    (refused : Template.parse pattern = .error source) :
    Route.build name method pattern = .error (.parse name source) := by
  unfold Route.build
  rw [refused]

theorem build_of_parse_ok (name : String) (method : Method)
    (pattern : String) (template : Template)
    (parsed : Template.parse pattern = .ok template) :
    Route.build name method pattern = .ok (routeOf name method template) := by
  have valid := Template.validate_compile_of_parse pattern template parsed
  unfold Route.build
  simp only [parsed, valid]
  rfl

/-- Every registration comes to exactly one of the four ends. -/
theorem prepare_eq_iff_verdict (table : RouteTable)
    (registration : Registration) (result : Except RouteError Route) :
    table.prepare registration = result ↔
      table.Verdict registration result := by
  constructor
  · rintro rfl
    unfold prepare
    split
    · rename_i taken
      exact .taken ((hasName_iff_mem table _).mp taken)
    · rename_i free
      rw [hasName_iff_mem] at free
      split
      · rename_i supported
        rw [List.contains_iff_mem] at supported
        cases parsed : Template.parse registration.pattern with
        | error source =>
            rw [build_of_parse_error _ _ _ source parsed]
            exact .unread free supported source parsed
        | ok template =>
            rw [build_of_parse_ok _ _ _ template parsed]
            exact .added free supported template parsed
      · rename_i unsupported
        rw [List.contains_iff_mem] at unsupported
        exact .unsupported free unsupported
  · intro verdict
    unfold prepare
    cases verdict with
    | taken taken =>
        rw [if_pos ((hasName_iff_mem table _).mpr taken)]
    | unsupported free unsupported =>
        rw [← hasName_iff_mem] at free
        rw [← List.contains_iff_mem] at unsupported
        rw [if_neg free, if_neg unsupported]
    | unread free supported source refused =>
        rw [← hasName_iff_mem] at free
        rw [if_neg free, if_pos (List.contains_iff_mem.mpr supported),
          build_of_parse_error _ _ _ source refused]
    | added free supported template parsed =>
        rw [← hasName_iff_mem] at free
        rw [if_neg free, if_pos (List.contains_iff_mem.mpr supported),
          build_of_parse_ok _ _ _ template parsed]

/-! ### What the caller is told -/

theorem register_eq_error_iff (table : RouteTable)
    (registration : Registration) (error : RouteError) :
    table.register registration.name registration.method
        registration.pattern = .error error ↔
      table.Verdict registration (.error error) := by
  rw [register_eq_map_prepare, ← prepare_eq_iff_verdict]
  cases table.prepare registration with
  | error found => simp [Except.map]
  | ok route => simp [Except.map]

theorem register_eq_ok_iff (table : RouteTable)
    (registration : Registration) (next : RouteTable) :
    table.register registration.name registration.method
        registration.pattern = .ok next ↔
      ∃ route,
        table.Verdict registration (.ok route) ∧
          next = table.insert route := by
  simp only [register_eq_map_prepare, ← prepare_eq_iff_verdict]
  cases table.prepare registration with
  | error found => simp [Except.map]
  | ok route => simp [Except.map, eq_comm]

theorem outcome_eq_error_iff (table : RouteTable)
    (registration : Registration) (error : RouteError) :
    table.outcome registration = .error error ↔
      table.Verdict registration (.error error) := by
  rw [outcome_eq_map_prepare, ← prepare_eq_iff_verdict]
  cases table.prepare registration with
  | error found => simp [Except.map]
  | ok route => simp [Except.map]

theorem outcome_eq_ok_iff (table : RouteTable)
    (registration : Registration) :
    table.outcome registration = .ok () ↔
      ∃ route, table.Verdict registration (.ok route) := by
  simp only [outcome_eq_map_prepare, ← prepare_eq_iff_verdict]
  cases table.prepare registration with
  | error found => simp [Except.map]
  | ok route => simp [Except.map]

theorem outcome_eq_duplicateName_iff (table : RouteTable)
    (registration : Registration) :
    table.outcome registration =
        .error (.duplicateName registration.name) ↔
      registration.name ∈ table.routes.map Route.name := by
  rw [outcome_eq_error_iff]
  constructor
  · intro verdict
    cases verdict with
    | taken taken => exact taken
  · exact .taken

theorem outcome_eq_unsupportedMethod_iff (table : RouteTable)
    (registration : Registration) :
    table.outcome registration =
        .error
          (.unsupportedMethod registration.name registration.method.token) ↔
      registration.name ∉ table.routes.map Route.name ∧
        registration.method ∉ Method.supported := by
  rw [outcome_eq_error_iff]
  constructor
  · intro verdict
    cases verdict with
    | unsupported free unsupported => exact ⟨free, unsupported⟩
  · intro both
    exact .unsupported both.1 both.2

theorem outcome_eq_parse_iff (table : RouteTable)
    (registration : Registration) (source : ParseError) :
    table.outcome registration = .error (.parse registration.name source) ↔
      registration.name ∉ table.routes.map Route.name ∧
        registration.method ∈ Method.supported ∧
          Template.parse registration.pattern = .error source := by
  rw [outcome_eq_error_iff]
  constructor
  · intro verdict
    cases verdict with
    | unread free supported _ refused => exact ⟨free, supported, refused⟩
  · intro all
    exact .unread all.1 all.2.1 source all.2.2

theorem outcome_eq_ok_iff_parse_ok (table : RouteTable)
    (registration : Registration) :
    table.outcome registration = .ok () ↔
      registration.name ∉ table.routes.map Route.name ∧
        registration.method ∈ Method.supported ∧
          ∃ template,
            Template.parse registration.pattern = .ok template := by
  rw [outcome_eq_ok_iff]
  constructor
  · intro admitted
    obtain ⟨route, verdict⟩ := admitted
    cases verdict with
    | added free supported template parsed =>
        exact ⟨free, supported, template, parsed⟩
  · intro all
    obtain ⟨free, supported, template, parsed⟩ := all
    exact ⟨_, .added free supported template parsed⟩

/-! ### What becomes of the table -/

theorem attempt_of_outcome_error (table : RouteTable)
    (registration : Registration) (error : RouteError)
    (refused : table.outcome registration = .error error) :
    table.attempt registration = table := by
  rw [outcome_eq_error_iff, ← prepare_eq_iff_verdict] at refused
  exact attempt_of_prepare_error table registration error refused

/-- A new route answers the requests of its method that it matches and no
earlier route answers. -/
theorem resolve?_insert (table : RouteTable) (route : Route)
    (method : Method) (path : String) :
    (table.insert route).resolve? method path =
      (table.resolve? method path).or
        (if method = route.method then
          answer? (Request.split path) route
        else none) := by
  unfold resolve?
  rw [candidatesFor_insert]
  split
  · rw [List.findSome?_append, List.findSome?_singleton]
  · rw [Option.or_none]

theorem routeOf_consistent (name : String) (method : Method)
    (pattern : String) (template : Template)
    (supported : method ∈ Method.supported)
    (parsed : Template.parse pattern = .ok template) :
    (routeOf name method template).Consistent :=
  { method := supported
    pattern := rfl
    program := rfl
    valid := Template.validate_compile_of_parse pattern template parsed }

theorem exists_attempt_eq_insert (table : RouteTable)
    (registration : Registration)
    (succeeded : table.outcome registration = .ok ()) :
    ∃ route,
      registration.Makes route ∧ route.Consistent ∧
        table.attempt registration = table.insert route := by
  obtain ⟨route, verdict⟩ :=
    (outcome_eq_ok_iff table registration).mp succeeded
  have inserted :=
    attempt_of_prepare_ok table registration route
      ((prepare_eq_iff_verdict table registration _).mpr verdict)
  cases verdict with
  | added free supported template parsed =>
      exact
        ⟨_, ⟨rfl, rfl, parsed⟩,
          routeOf_consistent _ _ _ template supported parsed, inserted⟩

/-- A registration is refused for a taken name, then for an unsupported method,
then for what is wrong with its pattern, and for nothing else.  A refused one
leaves the table as it was.  Any other appends the one route it asks for, which
answers what it matches of the requests that had no answer. -/
theorem registration_ends_and_changes (table : RouteTable)
    (registration : Registration) :
    (table.outcome registration =
        .error (.duplicateName registration.name) ↔
      registration.name ∈ table.routes.map Route.name) ∧
    (table.outcome registration =
        .error
          (.unsupportedMethod registration.name registration.method.token) ↔
      registration.name ∉ table.routes.map Route.name ∧
        registration.method ∉ Method.supported) ∧
    (∀ source,
      table.outcome registration =
          .error (.parse registration.name source) ↔
        registration.name ∉ table.routes.map Route.name ∧
          registration.method ∈ Method.supported ∧
            Template.parse registration.pattern = .error source) ∧
    (table.outcome registration = .ok () ↔
      registration.name ∉ table.routes.map Route.name ∧
        registration.method ∈ Method.supported ∧
          ∃ template,
            Template.parse registration.pattern = .ok template) ∧
    (∀ error,
      table.outcome registration = .error error →
        table.attempt registration = table) ∧
    (table.outcome registration = .ok () →
      ∃ route,
        registration.Makes route ∧ route.Consistent ∧
          (table.attempt registration).routes = table.routes ++ [route] ∧
            ∀ method path,
              (table.attempt registration).resolve? method path =
                (table.resolve? method path).or
                  (if method = route.method then
                    (route.bind? path).map (fun bindings =>
                      { route := route
                        bindings := bindings })
                  else none)) := by
  refine ⟨?_, ?_, ?_, ?_, ?_, ?_⟩
  · exact outcome_eq_duplicateName_iff table registration
  · exact outcome_eq_unsupportedMethod_iff table registration
  · exact outcome_eq_parse_iff table registration
  · exact outcome_eq_ok_iff_parse_ok table registration
  · exact attempt_of_outcome_error table registration
  · intro succeeded
    obtain ⟨route, makes, consistent, inserted⟩ :=
      exists_attempt_eq_insert table registration succeeded
    refine ⟨route, makes, consistent, ?_, ?_⟩
    · rw [inserted, routes_insert]
    · intro method path
      rw [inserted, resolve?_insert]
      rfl

theorem registration_ends_and_changes_shelf :
    shelfTable.outcome clashingRegistration =
        .error (.duplicateName "shelf") ∧
      shelfTable.attempt clashingRegistration = shelfTable ∧
        shelfTable.outcome readRegistration = .ok () ∧
          ∃ route,
            readRegistration.Makes route ∧
              (shelfTable.attempt readRegistration).routes =
                  [shelfRoute, clearRoute, route] ∧
                (shelfTable.attempt readRegistration).resolve?
                    { token := "GET" } "/v1/shelves/7" =
                  some
                    { route := shelfRoute
                      bindings :=
                        { entries := [("name", "shelves/7")] } } := by
  obtain ⟨taken, _, _, _, unchanged, _⟩ :=
    registration_ends_and_changes shelfTable clashingRegistration
  obtain ⟨_, _, _, admitted, _, changes⟩ :=
    registration_ends_and_changes shelfTable readRegistration
  have clashing :
      shelfTable.outcome clashingRegistration =
        .error (.duplicateName "shelf") :=
    taken.mpr (by decide)
  have reading : shelfTable.outcome readRegistration = .ok () :=
    admitted.mpr
      ⟨by decide, by decide,
        { segments := [.literal "v1", .deepWildcard] }, by decide +kernel⟩
  obtain ⟨route, makes, _, routesEq, answers⟩ := changes reading
  have answered :
      shelfTable.resolve? { token := "GET" } "/v1/shelves/7" =
        some
          { route := shelfRoute
            bindings := { entries := [("name", "shelves/7")] } } := by
    decide +kernel
  refine ⟨clashing, unchanged _ clashing, reading, route, makes, routesEq, ?_⟩
  rw [answers, answered]
  rfl

end RouteTable

end HttpRouting
