/-
The route table.

Routes are kept in the order of their registration, and once more under their
method.  A request is tried against the routes of its method in that order,
and the first one that matches answers it.
-/

import HttpRouting.Config.Routes
import HttpRouting.Matching.Machine
import HttpRouting.Matching.Request
import HttpRouting.Program.Compiler
import HttpRouting.Table.Method
import HttpRouting.Table.RouteError
import HttpRouting.Template.Parser
import HttpRouting.Template.Pattern

namespace HttpRouting

/-- A registered route; `pattern` is the canonical text of the template. -/
structure Route where
  name : String
  method : Method
  pattern : String
  template : Template
  program : Program
  deriving DecidableEq, Repr, Inhabited

structure RouteTable where
  routes : List Route := []
  /-- The routes of each method that has any. -/
  candidates : List (Method × List Route) := []
  deriving DecidableEq, Repr, Inhabited

structure RouteMatch where
  route : Route
  bindings : Bindings
  deriving DecidableEq, Repr, Inhabited

def addCandidate (route : Route) :
    List (Method × List Route) → List (Method × List Route)
  | [] => [(route.method, [route])]
  | (method, routes) :: rest =>
      if method = route.method then (method, routes ++ [route]) :: rest
      else (method, routes) :: addCandidate route rest

def Route.build (name : String) (method : Method) (pattern : String) :
    Except RouteError Route :=
  match Template.parse pattern with
  | .error source => .error (.parse name source)
  | .ok template =>
      let program := template.compile
      match program.validate with
      | .error source => .error (.program name source)
      | .ok _ =>
          .ok
            { name := name
              method := method
              pattern := template.render
              template := template
              program := program }

theorem lookup_addCandidate (route : Route) (method : Method)
    (candidates : List (Method × List Route)) :
    ((addCandidate route candidates).lookup method).getD [] =
      if method = route.method then
        (candidates.lookup method).getD [] ++ [route]
      else
        (candidates.lookup method).getD [] := by
  induction candidates with
  | nil =>
      by_cases same : method = route.method
      · simp [addCandidate, same]
      · have different : (method == route.method) = false :=
          beq_eq_false_iff_ne.mpr same
        simp [addCandidate, List.lookup_cons, same, different]
  | cons entry rest inductionHypothesis =>
      cases entry with
      | mk own routes =>
          unfold addCandidate
          by_cases atHead : own = route.method
          · rw [if_pos atHead]
            by_cases same : method = route.method
            · simp [same, atHead]
            · have different : (method == own) = false :=
                beq_eq_false_iff_ne.mpr (fun equal => same (equal.trans atHead))
              simp [List.lookup_cons, same, different]
          · rw [if_neg atHead]
            by_cases found : method = own
            · simp [found, atHead]
            · have different : (method == own) = false :=
                beq_eq_false_iff_ne.mpr found
              simp only [List.lookup_cons, different]
              exact inductionHypothesis

theorem Route.build_ok (name : String) (method : Method) (pattern : String)
    (route : Route) (built : Route.build name method pattern = .ok route) :
    Template.parse pattern = .ok route.template ∧
      route.name = name ∧ route.method = method ∧
        route.pattern = route.template.render ∧
          route.program = route.template.compile := by
  unfold Route.build at built
  split at built
  · cases built
  · rename_i template parsed
    simp only at built
    split at built
    · cases built
    · cases built
      exact ⟨parsed, rfl, rfl, rfl, rfl⟩

namespace RouteTable

def empty : RouteTable :=
  {}

def size (table : RouteTable) : Nat :=
  table.routes.length

def isEmpty (table : RouteTable) : Bool :=
  table.routes.isEmpty

def hasName (table : RouteTable) (name : String) : Bool :=
  table.routes.any (fun route => route.name == name)

def insert (table : RouteTable) (route : Route) : RouteTable :=
  { routes := table.routes ++ [route]
    candidates := addCandidate route table.candidates }

@[simp]
theorem routes_insert (table : RouteTable) (route : Route) :
    (table.insert route).routes = table.routes ++ [route] :=
  rfl

/-- The table with one more route.  The name is looked at first, then the
method, then the pattern. -/
def register (table : RouteTable) (name : String) (method : Method)
    (pattern : String) : Except RouteError RouteTable :=
  if table.hasName name then
    .error (.duplicateName name)
  else if Method.supported.contains method then
    match Route.build name method pattern with
    | .error error => .error error
    | .ok route => .ok (table.insert route)
  else
    .error (.unsupportedMethod name method.token)

/-- A registration that succeeds appends one route and nothing else. -/
theorem register_ok (table next : RouteTable) (name : String)
    (method : Method) (pattern : String)
    (registered : table.register name method pattern = .ok next) :
    table.hasName name = false ∧ method ∈ Method.supported ∧
      ∃ route,
        Route.build name method pattern = .ok route ∧
          next = table.insert route := by
  unfold register at registered
  split at registered
  · cases registered
  · rename_i fresh
    split at registered
    · rename_i known
      split at registered
      · cases registered
      · rename_i route built
        cases registered
        refine ⟨by simpa using fresh, ?_, route, built, rfl⟩
        exact List.contains_iff_mem.mp known
    · cases registered

/-- The table with the route of a configured entry.  The text of the method is
looked at before the name. -/
def registerEntry (table : RouteTable) (entry : RouteEntry) :
    Except RouteError RouteTable :=
  match Method.ofName? entry.method with
  | none => .error (.unsupportedMethod entry.name entry.method)
  | some method => table.register entry.name method entry.pattern

def registerEntries (table : RouteTable) :
    List RouteEntry → Except RouteError RouteTable
  | [] => .ok table
  | entry :: rest =>
      match table.registerEntry entry with
      | .error error => .error error
      | .ok next => next.registerEntries rest

/-- The table of a configuration, or the error of its first bad entry. -/
def ofConfig (config : RoutesConfig) : Except RouteError RouteTable :=
  empty.registerEntries config.routes

def candidatesFor (table : RouteTable) (method : Method) : List Route :=
  (table.candidates.lookup method).getD []

/-- The answer of one route to a request of its method. -/
def answer? (request : Request) (route : Route) : Option RouteMatch :=
  (route.program.match? request.components request.verb).map
    (fun bindings =>
      { route := route
        bindings := bindings })

theorem candidatesFor_insert (table : RouteTable) (route : Route)
    (method : Method) :
    (table.insert route).candidatesFor method =
      if method = route.method then table.candidatesFor method ++ [route]
      else table.candidatesFor method :=
  lookup_addCandidate route method table.candidates

def resolve? (table : RouteTable) (method : Method) (path : String) :
    Option RouteMatch :=
  (table.candidatesFor method).findSome? (answer? (Request.split path))

end RouteTable

end HttpRouting
