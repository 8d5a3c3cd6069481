/-
Trying a pattern and resolving against a file with one route agree.

The first command compiles the pattern and runs it.  The second reads the file,
looks up the method, registers the route, checks its program and looks for the
first match.  With one route none of that refuses a pattern that the first
command takes, nor takes one that it refuses, so both print the same bindings,
or that nothing matched, or end with the same cause.  What they print is read
back as a document here.
-/

import HttpRouting.Command.Execution
import HttpRouting.Proofs.BoundPaths
import HttpRouting.Proofs.Expansion
import HttpRouting.Proofs.JsonRoundTrip
import HttpRouting.Proofs.Loading

namespace HttpRouting

/-! ### Bindings as a document -/

namespace Bindings

def ShownBy (bindings : Bindings) (object : Json) : Prop :=
  ∃ members : List (String × String),
    object =
        Json.record
          (members.map (fun member => (member.1, Json.text member.2))) ∧
      (members.map Prod.fst).Nodup ∧
        ∀ path value,
          (path, value) ∈ members ↔ bindings.get? path = some value

theorem paths_nodup_of_match? (program : Program)
    (components : List String) (verb : String) (bindings : Bindings)
    (matched : program.match? components verb = some bindings) :
    bindings.paths.Nodup := by
  rw [Program.match?_eq_some_iff, Program.execute_ok_iff] at matched
  rcases matched with ⟨_, last, ran, _, rfl⟩
  rcases Machine.exists_captures_of_run_ok _ _ _ last ran with
    ⟨captures, _, lastEq⟩
  rw [lastEq]
  exact paths_insertAll_nodup empty captures List.nodup_nil

theorem shownBy_bindingsDocument (bindings : Bindings)
    (distinct : bindings.paths.Nodup) :
    bindings.ShownBy (Command.bindingsDocument bindings) := by
  have order : bindings.sorted.Perm bindings.entries :=
    List.mergeSort_perm bindings.entries _
  refine ⟨bindings.sorted, rfl, ?_, ?_⟩
  · exact (order.map Prod.fst).nodup_iff.mpr distinct
  · intro path value
    rw [order.mem_iff]
    exact mem_entries_iff bindings.entries distinct path value

end Bindings

/-! ### Printed documents -/

namespace Command

/-- The command succeeds, and what it prints is read as the document. -/
def Prints (result : Except CommandError Outcome) (found : Bool)
    (document : Json) : Prop :=
  ∃ output,
    result =
        .ok
          { found := found
            output := output } ∧
      Json.parse? output = some document

/-- The command fails, and the last of the causes is the parse error. -/
def FailsWith (result : Except CommandError Outcome)
    (source : ParseError) : Prop :=
  ∃ error : CommandError,
    result = .error error ∧
      error.causes.getLast? = some source.message

theorem isSpelled_bindingsDocument (bindings : Bindings) :
    (bindingsDocument bindings).isSpelled = true := by
  apply Json.isSpelled_record
  rw [List.forall_mem_map]
  intro entry _
  rfl

theorem prints_foundOutcome (document : Json)
    (spelled : document.isSpelled = true) :
    Prints (.ok (foundOutcome document)) true document :=
  ⟨_, rfl, Json.parse?_compact_line document spelled⟩

theorem prints_matchDocument (bindings : Bindings) :
    Prints (.ok (foundOutcome (matchDocument bindings))) true
      (matchDocument bindings) := by
  apply prints_foundOutcome
  apply Json.isSpelled_record
  rw [List.forall_mem_cons, List.forall_mem_singleton]
  exact ⟨isSpelled_bindingsDocument bindings, rfl⟩

theorem prints_resolveDocument (answer : RouteMatch) :
    Prints (.ok (foundOutcome (resolveDocument answer))) true
      (resolveDocument answer) := by
  apply prints_foundOutcome
  apply Json.isSpelled_record
  simp only [List.forall_mem_cons]
  exact
    ⟨isSpelled_bindingsDocument answer.bindings, rfl, rfl, rfl, rfl, nofun⟩

theorem prints_nothingFound :
    Prints (.ok nothingFound) false
      (Json.record [("matched", .bool false)]) :=
  ⟨_, rfl, Json.parse?_compact_line _ rfl⟩

/-! ### A table of one route -/

theorem ofConfig_singleton (entry : RouteEntry) (method : Method)
    (names : entry.Names method) :
    RouteTable.ofConfig { routes := [entry] } =
      (Route.build entry.name method entry.pattern).map
        RouteTable.empty.insert := by
  have known : Method.supported.contains method = true :=
    List.contains_iff_mem.mpr names.supported
  have fresh : ¬ RouteTable.empty.hasName entry.name = true :=
    Bool.false_ne_true
  unfold RouteTable.ofConfig
  rw [RouteTable.registerEntries,
    RouteTable.registerEntry_of_names _ entry method names,
    RouteTable.register, if_neg fresh, if_pos known]
  cases Route.build entry.name method entry.pattern <;> rfl

/-- A table of one route answers what the template of that route binds. -/
theorem resolve?_singleton (name path : String) (method : Method)
    (template : Template) :
    (RouteTable.empty.insert
        (RouteTable.routeOf name method template)).resolve? method path =
      (template.matchPath? path).map (fun bindings =>
        { route := RouteTable.routeOf name method template
          bindings := bindings }) := by
  rw [RouteTable.resolve?_insert]
  exact if_pos rfl

theorem loadTable_singleton (files : Files) (config : String)
    (entry : RouteEntry) (method : Method) (names : entry.Names method)
    (decoded : loadRoutes files config = .ok { routes := [entry] }) :
    loadTable files config =
      match Template.parse entry.pattern with
      | .error source => .error (.table config (.parse entry.name source))
      | .ok template =>
          .ok
            (RouteTable.empty.insert
              (RouteTable.routeOf entry.name method template)) := by
  unfold loadTable
  rw [decoded]
  simp only [ofConfig_singleton entry method names]
  cases parsed : Template.parse entry.pattern with
  | error source =>
      rw [RouteTable.build_of_parse_error _ _ _ source parsed]
      rfl
  | ok template =>
      rw [RouteTable.build_of_parse_ok _ _ _ template parsed]
      rfl

/-! ### Both commands -/

def searched (document : Bindings → Json) :
    Option Bindings → Except CommandError Outcome
  | some bindings => .ok (foundOutcome (document bindings))
  | none => .ok nothingFound

theorem runMatch_eq (pattern path : String) :
    runMatch pattern path =
      match Template.parse pattern with
      | .error source => .error (.template pattern source)
      | .ok template =>
          searched matchDocument (template.matchPath? path) := by
  unfold runMatch compilePattern
  cases Template.parse pattern with
  | error source => rfl
  | ok template =>
      unfold Template.matchPath?
      simp only
      cases
        template.compile.match? (Request.split path).components
          (Request.split path).verb with
      | none => rfl
      | some bindings => rfl

section OneRoute

variable (files : Files) (config name path : String) (entry : RouteEntry)
  (method : Method)
  (decoded : loadRoutes files config = .ok { routes := [entry] })
  (names : entry.Names method) (asked : SameUpToCase name method.token)

include decoded names asked

theorem runResolve_eq :
    runResolve files config name path =
      match Template.parse entry.pattern with
      | .error source => .error (.table config (.parse entry.name source))
      | .ok template =>
          searched
            (fun bindings =>
              resolveDocument
                { route := RouteTable.routeOf entry.name method template
                  bindings := bindings })
            (template.matchPath? path) := by
  have known : Method.ofName? name = some method :=
    (Method.ofName?_eq_some_iff { entry with method := name } method).mpr
      ⟨names.supported, asked⟩
  unfold runResolve
  simp only [known,
    loadTable_singleton files config entry method names decoded]
  cases Template.parse entry.pattern with
  | error source => rfl
  | ok template =>
      simp only [resolve?_singleton entry.name path method template]
      cases template.matchPath? path with
      | none => rfl
      | some bindings => rfl

end OneRoute

/-- How trying a pattern and resolving against its route end alike. -/
inductive Agreement (pattern path : String)
    (tried resolved : Except CommandError Outcome) : Prop where
  /-- Both print the same object for what is bound. -/
  | found (template : Template) (bindings : Bindings)
      (object triedDocument resolvedDocument : Json)
      (parsed : Template.parse pattern = .ok template)
      (matched : template.matchPath? path = some bindings)
      (shown : bindings.ShownBy object)
      (triedPrints : Prints tried true triedDocument)
      (triedObject : triedDocument.member? "bindings" = some object)
      (resolvedPrints : Prints resolved true resolvedDocument)
      (resolvedObject : resolvedDocument.member? "bindings" = some object) :
      Agreement pattern path tried resolved
  | nothing (template : Template) (document : Json)
      (parsed : Template.parse pattern = .ok template)
      (unmatched : template.matchPath? path = none) (same : tried = resolved)
      (prints : Prints tried false document) :
      Agreement pattern path tried resolved
  | failed (source : ParseError)
      (refused : Template.parse pattern = .error source)
      (triedFails : FailsWith tried source)
      (resolvedFails : FailsWith resolved source) :
      Agreement pattern path tried resolved

theorem Prints.ne_error {result : Except CommandError Outcome}
    {found : Bool} {document : Json} (prints : Prints result found document)
    (error : CommandError) : result ≠ .error error := by
  rcases prints with ⟨output, rfl, _⟩
  nofun

theorem Agreement.fails_iff {pattern path : String}
    {tried resolved : Except CommandError Outcome}
    (agreement : Agreement pattern path tried resolved) :
    ((∃ error, tried = .error error) ↔
      ∃ source, Template.parse pattern = .error source) ∧
    ((∃ error, resolved = .error error) ↔
      ∃ source, Template.parse pattern = .error source) := by
  cases agreement with
  | found template bindings object triedDocument resolvedDocument parsed
      matched shown triedPrints triedObject resolvedPrints resolvedObject =>
      rw [parsed]
      exact
        ⟨iff_of_false (fun failed => failed.elim triedPrints.ne_error) nofun,
          iff_of_false (fun failed => failed.elim resolvedPrints.ne_error)
            nofun⟩
  | nothing template document parsed unmatched same prints =>
      subst same
      rw [parsed]
      exact
        ⟨iff_of_false (fun failed => failed.elim prints.ne_error) nofun,
          iff_of_false (fun failed => failed.elim prints.ne_error) nofun⟩
  | failed source refused triedFails resolvedFails =>
      rcases triedFails with ⟨triedError, triedEq, _⟩
      rcases resolvedFails with ⟨resolvedError, resolvedEq, _⟩
      exact
        ⟨iff_of_true ⟨triedError, triedEq⟩ ⟨source, refused⟩,
          iff_of_true ⟨resolvedError, resolvedEq⟩ ⟨source, refused⟩⟩

/-- Trying a pattern ends like resolving against a file that holds one route
with that pattern, when the method of the route is asked for in any case. -/
theorem tryPath_agrees_with_resolve (files : Files)
    (config name path : String) (entry : RouteEntry) (method : Method)
    (decoded : loadRoutes files config = .ok { routes := [entry] })
    (names : entry.Names method)
    (asked : SameUpToCase name method.token) :
    let tried := execute files (.tryPath entry.pattern path)
    let resolved := execute files (.resolve config name path)
    Agreement entry.pattern path tried resolved ∧
      ((∃ error, tried = .error error) ↔
        ∃ source, Template.parse entry.pattern = .error source) ∧
      ((∃ error, resolved = .error error) ↔
        ∃ source, Template.parse entry.pattern = .error source) := by
  intro tried resolved
  suffices agreement : Agreement entry.pattern path tried resolved from
    ⟨agreement, agreement.fails_iff⟩
  have triedEq : tried = _ := runMatch_eq entry.pattern path
  have resolvedEq : resolved = _ :=
    runResolve_eq files config name path entry method decoded names asked
  cases parsed : Template.parse entry.pattern with
  | error source =>
      rw [parsed] at triedEq resolvedEq
      exact
        .failed source parsed ⟨_, triedEq, rfl⟩ ⟨_, resolvedEq, rfl⟩
  | ok template =>
      rw [parsed] at triedEq resolvedEq
      cases matched : template.matchPath? path with
      | none =>
          simp only [matched, searched] at triedEq resolvedEq
          refine
            .nothing template (Json.record [("matched", .bool false)])
              parsed matched (triedEq.trans resolvedEq.symm) ?_
          rw [triedEq]
          exact prints_nothingFound
      | some bindings =>
          simp only [matched, searched] at triedEq resolvedEq
          have distinct : bindings.paths.Nodup :=
            Bindings.paths_nodup_of_match? template.compile _ _ bindings
              matched
          refine
            .found template bindings (bindingsDocument bindings)
              (matchDocument bindings)
              (resolveDocument
                { route := RouteTable.routeOf entry.name method template
                  bindings := bindings })
              parsed matched (bindings.shownBy_bindingsDocument distinct)
              ?_ rfl ?_ rfl
          · rw [triedEq]
            exact prints_matchDocument bindings
          · rw [resolvedEq]
            exact prints_resolveDocument _

def undeleteEntry : RouteEntry :=
  { name := "u"
    method := "pOst"
    pattern := "/{a=v/*}:go" }

def undeleteFiles : Files := fun path =>
  if path = "u.json" then
    some "[[[\"u\",\"pOst\",\"/\x7ba=v/*\x7d:go\"]]]".toUTF8
  else none

theorem tryPath_agrees_with_resolve_undelete :
    loadRoutes undeleteFiles "u.json" = .ok { routes := [undeleteEntry] } ∧
      Agreement undeleteEntry.pattern "/v/1:go"
        (execute undeleteFiles (.tryPath undeleteEntry.pattern "/v/1:go"))
        (execute undeleteFiles (.resolve "u.json" "Post" "/v/1:go")) ∧
      execute undeleteFiles (.tryPath undeleteEntry.pattern "/v/1:go") =
        .ok
          { found := true
            output :=
              "\x7b\"bindings\":\x7b\"a\":\"v/1\"\x7d,\"matched\":true\x7d\n" } := by
  have decoded :
      loadRoutes undeleteFiles "u.json" =
        .ok { routes := [undeleteEntry] } := by
    decide +kernel
  have named : Method.ofName? "pOst" = some { token := "POST" } := by
    decide +kernel
  have asked : Method.ofName? "Post" = some { token := "POST" } := by
    decide +kernel
  have agreement :=
    tryPath_agrees_with_resolve undeleteFiles "u.json" "Post" "/v/1:go"
      undeleteEntry { token := "POST" } decoded
      ((Method.ofName?_eq_some_iff undeleteEntry _).mp named)
      ((Method.ofName?_eq_some_iff
        { undeleteEntry with method := "Post" } _).mp asked).spelled
  exact ⟨decoded, agreement.1, by decide +kernel⟩

end Command

end HttpRouting
