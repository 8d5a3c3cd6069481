/-
Registrations that do not touch each other.

Which route a registration adds depends on the names in the table alone, and a
route that is added stands behind the candidates of its own method.  So two
registrations with different names and methods can change places, and no
registration takes an answer away that the table gives already.
-/

import HttpRouting.Proofs.Registration

namespace HttpRouting

namespace RouteTable

/-! ### What a registration depends on -/

/-- The route that a registration adds, or why it adds none. -/
def prepare (table : RouteTable) (registration : Registration) :
    Except RouteError Route :=
  if table.hasName registration.name then
    .error (.duplicateName registration.name)
  else if Method.supported.contains registration.method then
    Route.build registration.name registration.method registration.pattern
  else
    .error (.unsupportedMethod registration.name registration.method.token)

/-- What the caller of a registration is told. -/
def outcome (table : RouteTable) (registration : Registration) :
    Except RouteError Unit :=
  (table.register registration.name registration.method
    registration.pattern).map (fun _ => ())

theorem register_eq_map_prepare (table : RouteTable)
    (registration : Registration) :
    table.register registration.name registration.method
        registration.pattern =
      (table.prepare registration).map table.insert := by
  unfold register prepare
  split
  · rfl
  · split
    · cases
        Route.build registration.name registration.method
          registration.pattern with
      | error error => rfl
      | ok route => rfl
    · rfl

theorem outcome_eq_map_prepare (table : RouteTable)
    (registration : Registration) :
    table.outcome registration =
      (table.prepare registration).map (fun _ => ()) := by
  unfold outcome
  rw [register_eq_map_prepare]
  cases table.prepare registration with
  | error error => rfl
  | ok route => rfl

theorem attempt_of_prepare_ok (table : RouteTable) (registration : Registration)
    (route : Route) (prepared : table.prepare registration = .ok route) :
    table.attempt registration = table.insert route := by
  unfold attempt
  rw [register_eq_map_prepare, prepared]
  rfl

theorem attempt_of_prepare_error (table : RouteTable)
    (registration : Registration) (error : RouteError)
    (refused : table.prepare registration = .error error) :
    table.attempt registration = table := by
  unfold attempt
  rw [register_eq_map_prepare, refused]
  rfl

/-- All that a registration reads of the table is whether its name is
taken. -/
theorem prepare_congr (left right : RouteTable) (registration : Registration)
    (same :
      left.hasName registration.name = right.hasName registration.name) :
    left.prepare registration = right.prepare registration := by
  unfold prepare
  rw [same]

theorem name_method_of_prepare (table : RouteTable)
    (registration : Registration) (route : Route)
    (prepared : table.prepare registration = .ok route) :
    route.name = registration.name ∧ route.method = registration.method := by
  unfold prepare at prepared
  split at prepared
  · cases prepared
  · split at prepared
    · obtain ⟨_, nameEq, methodEq, _⟩ := Route.build_ok _ _ _ route prepared
      exact ⟨nameEq, methodEq⟩
    · cases prepared

/-! ### What a registration leaves as it is -/

theorem hasName_insert (table : RouteTable) (route : Route) (name : String) :
    (table.insert route).hasName name =
      (table.hasName name || route.name == name) := by
  unfold hasName
  rw [routes_insert, List.any_append]
  simp

theorem hasName_attempt (table : RouteTable) (registration : Registration)
    (name : String) (different : registration.name ≠ name) :
    (table.attempt registration).hasName name = table.hasName name := by
  cases prepared : table.prepare registration with
  | error error =>
      rw [attempt_of_prepare_error table registration error prepared]
  | ok route =>
      have nameEq := (name_method_of_prepare _ _ route prepared).1
      rw [attempt_of_prepare_ok table registration route prepared,
        hasName_insert, nameEq, beq_eq_false_iff_ne.mpr different,
        Bool.or_false]

theorem prepare_attempt (table : RouteTable) (first second : Registration)
    (different : first.name ≠ second.name) :
    (table.attempt first).prepare second = table.prepare second :=
  prepare_congr _ _ second (hasName_attempt table first second.name different)

def added (table : RouteTable) (registration : Registration)
    (method : Method) : List Route :=
  match table.prepare registration with
  | .error _ => []
  | .ok route => if method = registration.method then [route] else []

theorem added_of_ne (table : RouteTable) (registration : Registration)
    (method : Method) (different : method ≠ registration.method) :
    table.added registration method = [] := by
  unfold added
  cases table.prepare registration with
  | error error => rfl
  | ok route => exact if_neg different

theorem added_attempt (table : RouteTable) (first second : Registration)
    (different : first.name ≠ second.name) (method : Method) :
    (table.attempt first).added second method =
      table.added second method := by
  unfold added
  rw [prepare_attempt table first second different]

theorem candidatesFor_attempt (table : RouteTable)
    (registration : Registration) (method : Method) :
    (table.attempt registration).candidatesFor method =
      table.candidatesFor method ++ table.added registration method := by
  unfold added
  cases prepared : table.prepare registration with
  | error error =>
      rw [attempt_of_prepare_error table registration error prepared,
        List.append_nil]
  | ok route =>
      have methodEq := (name_method_of_prepare _ _ route prepared).2
      rw [attempt_of_prepare_ok table registration route prepared,
        candidatesFor_insert, methodEq]
      by_cases same : method = registration.method
      · simp [same]
      · simp [same]

/-! ### Two registrations in either order -/

theorem candidatesFor_attempt_comm (table : RouteTable)
    (first second : Registration) (names : first.name ≠ second.name)
    (methods : first.method ≠ second.method) (method : Method) :
    ((table.attempt first).attempt second).candidatesFor method =
      ((table.attempt second).attempt first).candidatesFor method := by
  rw [candidatesFor_attempt, candidatesFor_attempt, candidatesFor_attempt,
    candidatesFor_attempt, added_attempt table first second names,
    added_attempt table second first names.symm]
  -- At most one of the two adds a route under this method.
  by_cases ofFirst : method = first.method
  · have notSecond : method ≠ second.method := fun same =>
      methods (ofFirst.symm.trans same)
    rw [table.added_of_ne second method notSecond, List.append_nil,
      List.append_nil]
  · rw [table.added_of_ne first method ofFirst, List.append_nil,
      List.append_nil]

theorem resolve?_congr (left right : RouteTable) (method : Method)
    (path : String)
    (same : left.candidatesFor method = right.candidatesFor method) :
    left.resolve? method path = right.resolve? method path := by
  unfold resolve?
  rw [same]

/-! ### Answers last -/

theorem resolve?_attempt_of_some (table : RouteTable)
    (registration : Registration) (method : Method) (path : String)
    (answer : RouteMatch)
    (resolved : table.resolve? method path = some answer) :
    (table.attempt registration).resolve? method path = some answer := by
  unfold resolve? at resolved ⊢
  rw [candidatesFor_attempt, List.findSome?_append, resolved]
  rfl

theorem resolve?_attempts_of_some (table : RouteTable)
    (registrations : List Registration) (method : Method) (path : String)
    (answer : RouteMatch)
    (resolved : table.resolve? method path = some answer) :
    (registrations.foldl attempt table).resolve? method path =
      some answer := by
  induction registrations generalizing table with
  | nil =>
      exact resolved
  | cons registration rest inductionHypothesis =>
      exact
        inductionHypothesis (table.attempt registration)
          (resolve?_attempt_of_some table registration method path answer
            resolved)

/-- Two registrations with different names and methods are told the same in
either order and leave tables with the same answers.  An answer that a table
gives lasts through all later registrations. -/
theorem registrations_commute_and_answers_last (table : RouteTable) :
    (∀ first second : Registration,
      first.name ≠ second.name → first.method ≠ second.method →
        (table.attempt first).outcome second = table.outcome second ∧
          (table.attempt second).outcome first = table.outcome first ∧
            ∀ method path,
              ((table.attempt first).attempt second).resolve? method path =
                ((table.attempt second).attempt first).resolve? method
                  path) ∧
    (∀ (later : List Registration) method path answer,
      table.resolve? method path = some answer →
        (later.foldl attempt table).resolve? method path = some answer) := by
  refine ⟨?_, resolve?_attempts_of_some table⟩
  intro first second names methods
  refine ⟨?_, ?_, ?_⟩
  · rw [outcome_eq_map_prepare, outcome_eq_map_prepare,
      prepare_attempt table first second names]
  · rw [outcome_eq_map_prepare, outcome_eq_map_prepare,
      prepare_attempt table second first names.symm]
  · intro method path
    exact
      resolve?_congr _ _ method path
        (candidatesFor_attempt_comm table first second names methods method)

def readRegistration : Registration :=
  { name := "read"
    method := { token := "GET" }
    pattern := "/v1/**" }

/-- A registration under a method of its own whose name is taken. -/
def clashingRegistration : Registration :=
  { name := "shelf"
    method := { token := "POST" }
    pattern := "/v1/\x7bname=**\x7d" }

theorem registrations_commute_and_answers_last_shelf :
    readRegistration.name ≠ clashingRegistration.name ∧
      readRegistration.method ≠ clashingRegistration.method ∧
        (shelfTable.attempt readRegistration).outcome clashingRegistration =
            .error (.duplicateName "shelf") ∧
          (shelfTable.attempt clashingRegistration).outcome
              readRegistration = .ok () ∧
            ((shelfTable.attempt readRegistration).attempt
                  clashingRegistration).resolve? { token := "GET" } "/v1/x" =
                ((shelfTable.attempt clashingRegistration).attempt
                  readRegistration).resolve? { token := "GET" } "/v1/x" ∧
              ([clashingRegistration, readRegistration].foldl attempt
                  shelfTable).resolve? { token := "GET" } "/v1/shelves/7" =
                some
                  { route := shelfRoute
                    bindings := { entries := [("name", "shelves/7")] } } := by
  have names : readRegistration.name ≠ clashingRegistration.name := by
    decide
  have methods : readRegistration.method ≠ clashingRegistration.method := by
    decide
  obtain ⟨commute, last⟩ := registrations_commute_and_answers_last shelfTable
  obtain ⟨clashing, reading, answers⟩ :=
    commute readRegistration clashingRegistration names methods
  refine ⟨names, methods, clashing.trans ?_, reading.trans ?_,
    answers _ _, last _ _ _ _ ?_⟩
  · decide +kernel
  · decide +kernel
  · decide +kernel

end RouteTable

end HttpRouting
