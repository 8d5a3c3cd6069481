/-
Route tables as histories of registrations leave them.

A registration that fails leaves the table as it was, and one that succeeds
appends one route whose parts fit together.  Whatever the history, the routes
kept under a method are the routes of that method in order, so a look-up
answers with the first route of the table that matches.
-/

import HttpRouting.Table.RouteTable
import Mathlib.Data.List.Forall2
import Mathlib.Data.List.Nodup

namespace HttpRouting

structure Registration where
  name : String
  method : Method
  pattern : String
  deriving DecidableEq, Repr

def RouteEntry.registration? (entry : RouteEntry) : Option Registration :=
  (Method.ofName? entry.method).map (fun method =>
    { name := entry.name
      method := method
      pattern := entry.pattern })

structure Registration.Makes (registration : Registration)
    (route : Route) : Prop where
  name : route.name = registration.name
  method : route.method = registration.method
  template : Template.parse registration.pattern = .ok route.template

/-- The parts of a route that its template decides. -/
structure Route.Consistent (route : Route) : Prop where
  method : route.method ∈ Method.supported
  pattern : route.pattern = route.template.render
  program : route.program = route.template.compile
  valid : route.program.validate = .ok ()

def Route.bind? (route : Route) (path : String) : Option Bindings :=
  route.program.match? (Request.split path).components
    (Request.split path).verb

theorem Route.valid_of_build (name : String) (method : Method)
    (pattern : String) (route : Route)
    (built : Route.build name method pattern = .ok route) :
    route.program.validate = .ok () := by
  unfold Route.build at built
  split at built
  · cases built
  · simp only at built
    split at built
    · cases built
    · rename_i template _ accepted valid
      cases built
      exact valid

namespace RouteTable

/-! ### One registration -/

theorem hasName_iff_mem (table : RouteTable) (name : String) :
    table.hasName name = true ↔ name ∈ table.routes.map Route.name := by
  unfold hasName
  simp only [List.any_eq_true, beq_iff_eq, List.mem_map]

/-- The table after a registration, which it only changes when it succeeds. -/
def attempt (table : RouteTable) (registration : Registration) :
    RouteTable :=
  match
    table.register registration.name registration.method registration.pattern
  with
  | .ok next => next
  | .error _ => table

/-- All that a registration can do to a table. -/
theorem attempt_cases (table : RouteTable) (registration : Registration) :
    table.attempt registration = table ∨
      ∃ route,
        registration.name ∉ table.routes.map Route.name ∧
          registration.Makes route ∧ route.Consistent ∧
            table.attempt registration = table.insert route := by
  unfold attempt
  cases registered :
      table.register registration.name registration.method
        registration.pattern with
  | error error =>
      exact .inl rfl
  | ok next =>
      obtain ⟨fresh, known, route, built, rfl⟩ :=
        register_ok table next _ _ _ registered
      obtain ⟨parsed, nameEq, methodEq, patternEq, programEq⟩ :=
        Route.build_ok _ _ _ route built
      have valid := Route.valid_of_build _ _ _ route built
      have absent : registration.name ∉ table.routes.map Route.name := by
        rw [← hasName_iff_mem, fresh]
        exact Bool.false_ne_true
      refine .inr ⟨route, absent, ⟨nameEq, methodEq, parsed⟩, ?_, rfl⟩
      rw [← methodEq] at known
      exact ⟨known, patternEq, programEq, valid⟩

/-! ### Histories -/

/-- Names are distinct, the parts of every route fit together, and the routes
kept under a method are the routes of that method in order. -/
structure Consistent (table : RouteTable) : Prop where
  names : (table.routes.map Route.name).Nodup
  routes : ∀ route ∈ table.routes, route.Consistent
  candidates :
    ∀ method,
      table.candidatesFor method =
        table.routes.filter (fun route => route.method = method)

/-- The routes are made by some of the registrations, in their order. -/
def MadeBy (history : List Registration) (table : RouteTable) : Prop :=
  ∃ accepted,
    List.Sublist accepted history ∧
      List.Forall₂ Registration.Makes accepted table.routes

/-- A table that is loaded from a configuration or empty at first, and then
goes through registrations, with all the registrations it has seen. -/
inductive Reachable : List Registration → RouteTable → Prop where
  | empty : Reachable [] RouteTable.empty
  | ofConfig (config : RoutesConfig) (table : RouteTable)
      (loaded : RouteTable.ofConfig config = .ok table) :
      Reachable (config.routes.filterMap RouteEntry.registration?) table
  | attempt (history : List Registration) (table : RouteTable)
      (registration : Registration) (reachable : Reachable history table) :
      Reachable (history ++ [registration]) (table.attempt registration)

theorem consistent_empty : empty.Consistent :=
  { names := List.nodup_nil
    routes := nofun
    candidates := fun _ => rfl }

theorem Consistent.insert (table : RouteTable) (consistent : table.Consistent)
    (route : Route) (fresh : route.name ∉ table.routes.map Route.name)
    (routeConsistent : route.Consistent) :
    (table.insert route).Consistent := by
  refine ⟨?_, ?_, ?_⟩
  · rw [routes_insert, List.map_append, List.map_singleton,
      ← List.concat_eq_append]
    exact consistent.names.concat fresh
  · intro other member
    rw [routes_insert, List.mem_append, List.mem_singleton] at member
    rcases member with earlier | isNew
    · exact consistent.routes other earlier
    · rw [isNew]
      exact routeConsistent
  · intro method
    rw [candidatesFor_insert, routes_insert, List.filter_append,
      consistent.candidates method]
    by_cases same : method = route.method
    · rw [if_pos same]
      simp [same]
    · have different : ¬ route.method = method := fun equal =>
        same equal.symm
      rw [if_neg same]
      simp [different]

theorem Consistent.attempt (table : RouteTable)
    (consistent : table.Consistent) (registration : Registration) :
    (table.attempt registration).Consistent := by
  rcases attempt_cases table registration with
    unchanged | ⟨route, absent, made, routeConsistent, inserted⟩
  · rw [unchanged]
    exact consistent
  · rw [inserted]
    rw [← made.name] at absent
    exact consistent.insert table route absent routeConsistent

theorem MadeBy.attempt (history : List Registration) (table : RouteTable)
    (madeBy : table.MadeBy history) (registration : Registration) :
    (table.attempt registration).MadeBy (history ++ [registration]) := by
  obtain ⟨accepted, sublist, made⟩ := madeBy
  rcases attempt_cases table registration with
    unchanged | ⟨route, _, routeMade, _, inserted⟩
  · rw [unchanged]
    exact ⟨accepted, sublist.trans (List.sublist_append_left _ _), made⟩
  · rw [inserted]
    refine ⟨accepted ++ [registration], sublist.append_right _, ?_⟩
    exact List.rel_append made (.cons routeMade .nil)

/-- What one registration keeps, any number of them keep. -/
theorem attempts_induction (motive : List Registration → RouteTable → Prop)
    (step : ∀ history table registration, motive history table →
      motive (history ++ [registration]) (table.attempt registration))
    (registrations history : List Registration) (table : RouteTable)
    (holds : motive history table) :
    motive (history ++ registrations) (registrations.foldl attempt table) := by
  induction registrations generalizing history table with
  | nil =>
      rw [List.append_nil]
      exact holds
  | cons registration rest inductionHypothesis =>
      rw [List.foldl_cons, List.append_cons]
      exact
        inductionHypothesis (history ++ [registration]) _
          (step history table registration holds)

def Keeps (history : List Registration) (table : RouteTable) : Prop :=
  table.Consistent ∧ table.MadeBy history

theorem keeps_empty : Keeps [] RouteTable.empty :=
  ⟨consistent_empty, [], List.Sublist.refl [], .nil⟩

theorem keeps_attempt (history : List Registration) (table : RouteTable)
    (registration : Registration) (kept : Keeps history table) :
    Keeps (history ++ [registration]) (table.attempt registration) :=
  ⟨kept.1.attempt table registration,
    kept.2.attempt history table registration⟩

theorem registerEntries_ok (table next : RouteTable)
    (entries : List RouteEntry)
    (loaded : table.registerEntries entries = .ok next) :
    next =
      (entries.filterMap RouteEntry.registration?).foldl attempt table := by
  induction entries generalizing table with
  | nil =>
      cases loaded
      rfl
  | cons entry rest inductionHypothesis =>
      rw [registerEntries, registerEntry] at loaded
      cases supported : Method.ofName? entry.method with
      | none =>
          simp only [supported] at loaded
          cases loaded
      | some method =>
          simp only [supported] at loaded
          cases registered :
              table.register entry.name method entry.pattern with
          | error error =>
              simp only [registered] at loaded
              cases loaded
          | ok middle =>
              simp only [registered] at loaded
              have asked :
                  entry.registration? =
                    some
                      { name := entry.name
                        method := method
                        pattern := entry.pattern } := by
                unfold RouteEntry.registration?
                rw [supported]
                rfl
              rw [List.filterMap_cons_some asked, List.foldl_cons]
              simp only [attempt, registered]
              exact inductionHypothesis middle loaded

theorem Reachable.keeps (history : List Registration) (table : RouteTable)
    (reachable : Reachable history table) : Keeps history table := by
  induction reachable with
  | empty =>
      exact keeps_empty
  | ofConfig config table loaded =>
      rw [registerEntries_ok RouteTable.empty table config.routes loaded]
      exact attempts_induction Keeps keeps_attempt _ [] _ keeps_empty
  | attempt history table registration reachable inductionHypothesis =>
      exact keeps_attempt history table registration inductionHypothesis

/-! ### Look-ups -/

/-- The answer of the first route of the method that matches the path. -/
def FirstAnswer (table : RouteTable) (method : Method) (path : String)
    (answer : RouteMatch) : Prop :=
  ∃ before after,
    table.routes = before ++ answer.route :: after ∧
      answer.route.method = method ∧
        answer.route.bind? path = some answer.bindings ∧
          ∀ earlier ∈ before,
            earlier.method = method → earlier.bind? path = none

/-- The look-up by method as a look-up in the whole list of routes. -/
theorem Consistent.resolve?_eq_findSome? (table : RouteTable)
    (consistent : table.Consistent) (method : Method) (path : String) :
    table.resolve? method path =
      table.routes.findSome? (fun route =>
        if route.method = method then answer? (Request.split path) route
        else none) := by
  unfold resolve?
  rw [consistent.candidates method, ← List.head?_filterMap,
    List.filterMap_filter, List.head?_filterMap]
  simp only [decide_eq_true_eq]

theorem answer?_eq_some_iff (path : String) (route : Route)
    (answer : RouteMatch) :
    answer? (Request.split path) route = some answer ↔
      route = answer.route ∧ route.bind? path = some answer.bindings := by
  unfold answer? Route.bind?
  cases answer with
  | mk answerRoute bindings =>
      simp [Option.map_eq_some_iff, and_comm]

theorem answer?_eq_none_iff (path : String) (route : Route) :
    answer? (Request.split path) route = none ↔ route.bind? path = none :=
  Option.map_eq_none_iff

theorem Consistent.resolve?_eq_some_iff (table : RouteTable)
    (consistent : table.Consistent) (method : Method) (path : String)
    (answer : RouteMatch) :
    table.resolve? method path = some answer ↔
      table.FirstAnswer method path answer := by
  rw [consistent.resolve?_eq_findSome? table, List.findSome?_eq_some_iff]
  constructor
  · rintro ⟨before, route, after, routesEq, answered, earlierNone⟩
    split at answered
    · rename_i ofMethod
      obtain ⟨rfl, bound⟩ := (answer?_eq_some_iff path route answer).mp answered
      refine ⟨before, after, routesEq, ofMethod, bound, ?_⟩
      intro earlier member earlierMethod
      have none := earlierNone earlier member
      rw [if_pos earlierMethod] at none
      exact (answer?_eq_none_iff path earlier).mp none
    · cases answered
  · rintro ⟨before, after, routesEq, ofMethod, bound, earlierNone⟩
    refine ⟨before, answer.route, after, routesEq, ?_, ?_⟩
    · rw [if_pos ofMethod]
      exact (answer?_eq_some_iff path answer.route answer).mpr ⟨rfl, bound⟩
    · intro earlier member
      split
      · rename_i earlierMethod
        exact
          (answer?_eq_none_iff path earlier).mpr
            (earlierNone earlier member earlierMethod)
      · rfl

theorem Consistent.resolve?_eq_none_iff (table : RouteTable)
    (consistent : table.Consistent) (method : Method) (path : String) :
    table.resolve? method path = none ↔
      ∀ route ∈ table.routes,
        route.method = method → route.bind? path = none := by
  rw [consistent.resolve?_eq_findSome? table, List.findSome?_eq_none_iff]
  constructor
  · intro allNone route member ofMethod
    have none := allNone route member
    rw [if_pos ofMethod] at none
    exact (answer?_eq_none_iff path route).mp none
  · intro allNone route member
    split
    · rename_i ofMethod
      exact
        (answer?_eq_none_iff path route).mpr (allNone route member ofMethod)
    · rfl

/-- Every history of registrations leaves a consistent table, whose routes
come from registrations in their order, and which answers a request with the
first route of its method that matches. -/
theorem reachable_consistent_and_first (history : List Registration)
    (table : RouteTable) (reachable : Reachable history table) :
    table.Consistent ∧ table.MadeBy history ∧
      ∀ method path,
        (∀ answer,
          table.resolve? method path = some answer ↔
            table.FirstAnswer method path answer) ∧
        (table.resolve? method path = none ↔
          ∀ route ∈ table.routes,
            route.method = method → route.bind? path = none) := by
  obtain ⟨consistent, madeBy⟩ := reachable.keeps history table
  refine ⟨consistent, madeBy, ?_⟩
  intro method path
  exact
    ⟨consistent.resolve?_eq_some_iff table method path,
      consistent.resolve?_eq_none_iff table method path⟩

def routeOf (name : String) (method : Method) (template : Template) : Route :=
  { name := name
    method := method
    pattern := template.render
    template := template
    program := template.compile }

def shelfConfig : RoutesConfig :=
  { routes :=
      [{ name := "shelf"
         method := "get"
         pattern := "/v1/\x7bname=shelves/*\x7d" },
        { name := "clear"
          method := "Delete"
          pattern := "/v1/**" }] }

/-- A name that is taken, an unsupported method, a pattern that is not read,
and then a route behind the first one of its method. -/
def shelfRegistrations : List Registration :=
  [{ name := "shelf"
     method := { token := "PUT" }
     pattern := "/" },
    { name := "all"
      method := { token := "PURGE" }
      pattern := "/v1/**" },
    { name := "all"
      method := { token := "GET" }
      pattern := "/**/v1" },
    { name := "all"
      method := { token := "GET" }
      pattern := "/v1/**" }]

def shelfRoute : Route :=
  routeOf "shelf" { token := "GET" }
    { segments :=
        [.literal "v1", .field "name" [.literal "shelves", .wildcard]] }

def clearRoute : Route :=
  routeOf "clear" { token := "DELETE" }
    { segments := [.literal "v1", .deepWildcard] }

def allRoute : Route :=
  routeOf "all" { token := "GET" }
    { segments := [.literal "v1", .deepWildcard] }

def shelfTable : RouteTable :=
  (empty.insert shelfRoute).insert clearRoute

theorem reachable_consistent_and_first_shelf :
    ∃ table,
      Reachable
        (shelfConfig.routes.filterMap RouteEntry.registration? ++
          shelfRegistrations) table ∧
        table.routes = [shelfRoute, clearRoute, allRoute] ∧
          table.resolve? { token := "GET" } "/v1/shelves/7" =
            some
              { route := shelfRoute
                bindings := { entries := [("name", "shelves/7")] } } := by
  have loaded : ofConfig shelfConfig = .ok shelfTable := by
    decide +kernel
  have registered :
      shelfRegistrations.foldl attempt shelfTable =
        shelfTable.insert allRoute := by
    decide +kernel
  have reachable :=
    attempts_induction Reachable Reachable.attempt shelfRegistrations _ _
      (.ofConfig shelfConfig shelfTable loaded)
  rw [registered] at reachable
  refine ⟨_, reachable, rfl, ?_⟩
  have answers :=
    (reachable_consistent_and_first _ _ reachable).2.2 { token := "GET" }
      "/v1/shelves/7"
  have bound :
      shelfRoute.bind? "/v1/shelves/7" =
        some { entries := [("name", "shelves/7")] } := by
    decide +kernel
  refine (answers.1 _).mpr ⟨[], [clearRoute, allRoute], rfl, rfl, bound, ?_⟩
  nofun

end RouteTable

end HttpRouting
