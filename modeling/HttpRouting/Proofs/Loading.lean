/-
Which configurations load, and which entry is blamed for the others.

Entries are registered one after the other, so an entry is only looked at when
all before it load.  Whether it fits them depends on nothing but its own parts
and their names.  Of an entry that does not fit, the method is told first, then
the name, then what is wrong with the pattern; the entries behind it are never
looked at.
-/

import HttpRouting.Proofs.Admission
import HttpRouting.Proofs.Reloading
import Mathlib.Data.List.Induction

namespace HttpRouting

/-! ### Methods in either case -/

def SameUpToCase (left right : String) : Prop :=
  left.map Char.toLower = right.map Char.toLower

theorem toNat_toLower (character : Char) :
    character.toLower.toNat =
      if 65 ≤ character.toNat ∧ character.toNat ≤ 90 then
        character.toNat + 32
      else character.toNat := by
  unfold Char.toLower Char.toNat
  simp only [ge_iff_le, UInt32.le_iff_toNat_le]
  split
  · rename_i isUpper
    have low : 65 ≤ character.val.toNat := isUpper.1
    have high : character.val.toNat ≤ 90 := isUpper.2
    rw [if_pos ⟨low, high⟩, UInt32.toNat_add]
    change (character.val.toNat + 32) % 4294967296 = _
    omega
  · rename_i notUpper
    rw [if_neg]
    exact notUpper

theorem toNat_toUpper (character : Char) :
    character.toUpper.toNat =
      if 97 ≤ character.toNat ∧ character.toNat ≤ 122 then
        character.toNat - 32
      else character.toNat := by
  unfold Char.toUpper Char.toNat
  simp only [UInt32.le_iff_toNat_le]
  split
  · rename_i isLower
    have low : 97 ≤ character.val.toNat := isLower.1
    have high : character.val.toNat ≤ 122 := isLower.2
    rw [if_pos ⟨low, high⟩, UInt32.toNat_add]
    change (character.val.toNat + 4294967264) % 4294967296 = _
    omega
  · rename_i notLower
    rw [if_neg]
    exact notLower

theorem toLower_eq_iff_toUpper_eq (left right : Char) :
    left.toLower = right.toLower ↔ left.toUpper = right.toUpper := by
  rw [← Char.toNat_inj, ← Char.toNat_inj, toNat_toLower, toNat_toLower,
    toNat_toUpper, toNat_toUpper]
  split <;> split <;> split <;> split <;> omega

theorem map_toLower_eq_iff (left right : List Char) :
    left.map Char.toLower = right.map Char.toLower ↔
      left.map Char.toUpper = right.map Char.toUpper := by
  induction left generalizing right with
  | nil =>
      cases right <;> simp
  | cons character rest inductionHypothesis =>
      cases right with
      | nil =>
          simp
      | cons other others =>
          simp only [List.map_cons, List.cons.injEq,
            toLower_eq_iff_toUpper_eq, inductionHypothesis]

theorem sameUpToCase_iff_toUpper (left right : String) :
    SameUpToCase left right ↔
      left.map Char.toUpper = right.map Char.toUpper := by
  unfold SameUpToCase
  rw [← String.toList_inj, ← String.toList_inj, String.toList_map,
    String.toList_map, String.toList_map, String.toList_map]
  exact map_toLower_eq_iff left.toList right.toList

structure RouteEntry.Names (entry : RouteEntry) (method : Method) : Prop where
  supported : method ∈ Method.supported
  spelled : SameUpToCase entry.method method.token

/-- Supported methods are in upper case, and no two have the same name. -/
theorem Method.ofName?_eq_some_iff (entry : RouteEntry) (method : Method) :
    Method.ofName? entry.method = some method ↔ entry.Names method := by
  have upper :
      ∀ other ∈ Method.supported,
        other.token.map Char.toUpper = other.token := by
    decide +kernel
  constructor
  · intro found
    have supported := List.mem_of_find?_eq_some found
    refine ⟨supported, ?_⟩
    rw [sameUpToCase_iff_toUpper, upper method supported]
    have spelled := List.find?_some found
    exact beq_iff_eq.mp spelled
  · rintro ⟨supported, spelled⟩
    rw [sameUpToCase_iff_toUpper, upper method supported] at spelled
    rw [← Method.ofName?_token method supported]
    unfold Method.ofName?
    rw [spelled, upper method supported]

/-! ### Entries behind others -/

/-- The route is the one that the entry asks for. -/
structure RouteEntry.Loads (entry : RouteEntry) (route : Route) : Prop where
  name : route.name = entry.name
  method : entry.Names route.method
  template : Template.parse entry.pattern = .ok route.template
  consistent : route.Consistent

/-- The entry is good, and its name is none of those before it. -/
structure RouteEntry.Fits (before : List RouteEntry)
    (entry : RouteEntry) : Prop where
  method : ∃ method, entry.Names method
  name : entry.name ∉ before.map RouteEntry.name
  pattern : ∃ template, Template.parse entry.pattern = .ok template

/-- What is told of an entry that does not fit those before it. -/
inductive RouteEntry.Blamed (before : List RouteEntry) (entry : RouteEntry) :
    RouteError → Prop where
  | method (unnamed : ∀ method, ¬ entry.Names method) :
      Blamed before entry (.unsupportedMethod entry.name entry.method)
  | name (method : Method) (names : entry.Names method)
      (taken : entry.name ∈ before.map RouteEntry.name) :
      Blamed before entry (.duplicateName entry.name)
  | pattern (method : Method) (names : entry.Names method)
      (free : entry.name ∉ before.map RouteEntry.name) (source : ParseError)
      (refused : Template.parse entry.pattern = .error source) :
      Blamed before entry (.parse entry.name source)

/-- All method names are supported, all route names are distinct and all
patterns are read. -/
structure Loadable (entries : List RouteEntry) : Prop where
  methods : ∀ entry ∈ entries, ∃ method, entry.Names method
  names : (entries.map RouteEntry.name).Nodup
  patterns :
    ∀ entry ∈ entries,
      ∃ template, Template.parse entry.pattern = .ok template

theorem loadable_nil : Loadable [] :=
  { methods := nofun
    names := List.nodup_nil
    patterns := nofun }

theorem names_of_loads {entries : List RouteEntry} {routes : List Route}
    (loads : List.Forall₂ RouteEntry.Loads entries routes) :
    routes.map Route.name = entries.map RouteEntry.name := by
  induction loads with
  | nil => rfl
  | cons load _ inductionHypothesis =>
      rw [List.map_cons, List.map_cons, load.name, inductionHypothesis]

theorem loadable_concat_iff (front : List RouteEntry) (last : RouteEntry) :
    Loadable (front ++ [last]) ↔ Loadable front ∧ last.Fits front := by
  constructor
  · rintro ⟨methods, names, patterns⟩
    rw [List.forall_mem_append, List.forall_mem_singleton] at methods patterns
    rw [List.map_append, List.map_singleton, ← List.concat_eq_append,
      List.nodup_concat] at names
    exact
      ⟨⟨methods.1, names.2, patterns.1⟩, methods.2, names.1, patterns.2⟩
  · rintro ⟨⟨methods, names, patterns⟩, method, name, pattern⟩
    refine ⟨?_, ?_, ?_⟩
    · rw [List.forall_mem_append, List.forall_mem_singleton]
      exact ⟨methods, method⟩
    · rw [List.map_append, List.map_singleton, ← List.concat_eq_append,
        List.nodup_concat]
      exact ⟨name, names⟩
    · rw [List.forall_mem_append, List.forall_mem_singleton]
      exact ⟨patterns, pattern⟩

theorem RouteEntry.fits_iff_not_blamed (before : List RouteEntry)
    (entry : RouteEntry) :
    entry.Fits before ↔ ∀ error, ¬ entry.Blamed before error := by
  constructor
  · rintro ⟨⟨method, names⟩, free, template, parsed⟩ error blamed
    cases blamed with
    | method unnamed => exact unnamed method names
    | name _ _ taken => exact free taken
    | pattern _ _ _ source refused =>
        rw [parsed] at refused
        cases refused
  · intro blameless
    have named : ∃ method, entry.Names method := by
      by_contra unnamed
      exact blameless _ (.method (not_exists.mp unnamed))
    obtain ⟨method, names⟩ := named
    have free : entry.name ∉ before.map RouteEntry.name :=
      fun taken => blameless _ (.name method names taken)
    refine ⟨⟨method, names⟩, free, ?_⟩
    cases parsed : Template.parse entry.pattern with
    | error source =>
        exact absurd (.pattern method names free source parsed)
          (blameless _)
    | ok template => exact ⟨template, rfl⟩

namespace RouteTable

/-! ### One entry -/

section OneEntry

variable (table : RouteTable) (before : List RouteEntry) (entry : RouteEntry)
  (sameNames : table.routes.map Route.name = before.map RouteEntry.name)

theorem registerEntry_of_names (method : Method)
    (names : entry.Names method) :
    table.registerEntry entry =
      table.register entry.name method entry.pattern := by
  unfold registerEntry
  rw [(Method.ofName?_eq_some_iff entry method).mpr names]

theorem registerEntry_of_unnamed
    (unnamed : ∀ method, ¬ entry.Names method) :
    table.registerEntry entry =
      .error (.unsupportedMethod entry.name entry.method) := by
  unfold registerEntry
  cases found : Method.ofName? entry.method with
  | none => rfl
  | some method =>
      exact absurd ((Method.ofName?_eq_some_iff entry method).mp found)
        (unnamed method)

include sameNames

theorem registerEntry_eq_error_iff (error : RouteError) :
    table.registerEntry entry = .error error ↔
      entry.Blamed before error := by
  by_cases named : ∃ method, entry.Names method
  · obtain ⟨method, names⟩ := named
    have toldOf :=
      table.register_eq_error_iff
        { name := entry.name
          method := method
          pattern := entry.pattern } error
    rw [registerEntry_of_names table entry method names, toldOf]
    constructor
    · intro verdict
      cases verdict with
      | taken taken => exact .name method names (sameNames ▸ taken)
      | unsupported free unsupported =>
          exact absurd names.supported unsupported
      | unread free supported source refused =>
          exact .pattern method names (sameNames ▸ free) source refused
    · intro blamed
      cases blamed with
      | method unnamed => exact absurd names (unnamed method)
      | name _ _ taken => exact .taken (sameNames ▸ taken)
      | pattern _ _ free source refused =>
          exact .unread (sameNames ▸ free) names.supported source refused
  · have unnamed := not_exists.mp named
    rw [registerEntry_of_unnamed table entry unnamed]
    constructor
    · rintro ⟨⟩
      exact .method unnamed
    · intro blamed
      cases blamed with
      | method _ => rfl
      | name method names _ => exact absurd names (unnamed method)
      | pattern method names _ _ _ => exact absurd names (unnamed method)

theorem registerEntry_ok (next : RouteTable)
    (loaded : table.registerEntry entry = .ok next) :
    entry.Fits before ∧
      ∃ route, entry.Loads route ∧ next = table.insert route := by
  have fits : entry.Fits before := by
    rw [RouteEntry.fits_iff_not_blamed]
    intro error blamed
    rw [← registerEntry_eq_error_iff table before entry sameNames, loaded]
      at blamed
    cases blamed
  obtain ⟨method, names⟩ := fits.method
  rw [registerEntry_of_names table entry method names] at loaded
  obtain ⟨route, verdict, inserted⟩ :=
    (table.register_eq_ok_iff
      { name := entry.name
        method := method
        pattern := entry.pattern } next).mp loaded
  cases verdict with
  | added free supported template parsed =>
      exact
        ⟨fits, _,
          ⟨rfl, names, parsed,
            routeOf_consistent _ _ _ template supported parsed⟩,
          inserted⟩

theorem exists_registerEntry_ok (fits : entry.Fits before) :
    ∃ next, table.registerEntry entry = .ok next := by
  cases loaded : table.registerEntry entry with
  | error error =>
      rw [registerEntry_eq_error_iff table before entry sameNames] at loaded
      exact
        absurd loaded
          ((RouteEntry.fits_iff_not_blamed before entry).mp fits error)
  | ok next =>
      exact ⟨next, rfl⟩

end OneEntry

/-! ### All entries -/

theorem registerEntries_append (table : RouteTable)
    (first second : List RouteEntry) :
    table.registerEntries (first ++ second) =
      match table.registerEntries first with
      | .error error => .error error
      | .ok middle => middle.registerEntries second := by
  induction first generalizing table with
  | nil =>
      rfl
  | cons entry rest inductionHypothesis =>
      rw [List.cons_append, registerEntries, registerEntries]
      cases table.registerEntry entry with
      | error error => rfl
      | ok next => exact inductionHypothesis next

theorem registerEntries_concat (table middle : RouteTable)
    (front : List RouteEntry) (entry : RouteEntry)
    (loaded : table.registerEntries front = .ok middle) :
    table.registerEntries (front ++ [entry]) =
      middle.registerEntry entry := by
  rw [registerEntries_append, loaded]
  simp only [registerEntries]
  cases middle.registerEntry entry with
  | error error => rfl
  | ok next => rfl

theorem registerEntries_concat_ok_iff (table last : RouteTable)
    (front : List RouteEntry) (entry : RouteEntry) :
    table.registerEntries (front ++ [entry]) = .ok last ↔
      ∃ middle,
        table.registerEntries front = .ok middle ∧
          middle.registerEntry entry = .ok last := by
  cases loaded : table.registerEntries front with
  | error error =>
      rw [registerEntries_append, loaded]
      simp
  | ok middle =>
      rw [registerEntries_concat table middle front entry loaded]
      simp

/-- Loading ends with the error of the first entry that is refused by the table
of the entries before it. -/
theorem registerEntries_eq_error_iff (table : RouteTable)
    (entries : List RouteEntry) (error : RouteError) :
    table.registerEntries entries = .error error ↔
      ∃ before entry after middle,
        entries = before ++ entry :: after ∧
          table.registerEntries before = .ok middle ∧
            middle.registerEntry entry = .error error := by
  constructor
  · intro refused
    induction entries generalizing table with
    | nil =>
        cases refused
    | cons entry rest inductionHypothesis =>
        rw [registerEntries] at refused
        cases loaded : table.registerEntry entry with
        | error found =>
            rw [loaded] at refused
            exact ⟨[], entry, rest, table, rfl, rfl, loaded.trans refused⟩
        | ok next =>
            rw [loaded] at refused
            obtain ⟨before, other, after, middle, rfl, front, otherRefused⟩ :=
              inductionHypothesis next refused
            refine
              ⟨entry :: before, other, after, middle, rfl, ?_, otherRefused⟩
            rw [registerEntries, loaded]
            exact front
  · rintro ⟨before, entry, after, middle, rfl, front, refused⟩
    rw [registerEntries_append, front]
    simp only [registerEntries, refused]

/-- Entries that load are good, and the table holds one route for each of them
in their order. -/
theorem loadable_of_registerEntries (entries : List RouteEntry)
    (table : RouteTable)
    (loaded : empty.registerEntries entries = .ok table) :
    Loadable entries ∧
      List.Forall₂ RouteEntry.Loads entries table.routes := by
  induction entries using List.reverseRecOn generalizing table with
  | nil =>
      cases loaded
      exact ⟨loadable_nil, .nil⟩
  | append_singleton front last inductionHypothesis =>
      obtain ⟨middle, frontLoaded, lastLoaded⟩ :=
        (registerEntries_concat_ok_iff empty table front last).mp loaded
      obtain ⟨loadable, loads⟩ := inductionHypothesis middle frontLoaded
      obtain ⟨fits, route, lastLoads, rfl⟩ :=
        registerEntry_ok middle front last (names_of_loads loads) table
          lastLoaded
      exact
        ⟨(loadable_concat_iff front last).mpr ⟨loadable, fits⟩,
          List.rel_append loads (.cons lastLoads .nil)⟩

theorem exists_registerEntries_ok (entries : List RouteEntry)
    (loadable : Loadable entries) :
    ∃ table, empty.registerEntries entries = .ok table := by
  induction entries using List.reverseRecOn with
  | nil =>
      exact ⟨empty, rfl⟩
  | append_singleton front last inductionHypothesis =>
      obtain ⟨frontLoadable, fits⟩ :=
        (loadable_concat_iff front last).mp loadable
      obtain ⟨middle, frontLoaded⟩ := inductionHypothesis frontLoadable
      obtain ⟨_, loads⟩ :=
        loadable_of_registerEntries front middle frontLoaded
      rw [registerEntries_concat empty middle front last frontLoaded]
      exact
        exists_registerEntry_ok middle front last (names_of_loads loads) fits

theorem registerEntries_empty_eq_error_iff (entries : List RouteEntry)
    (error : RouteError) :
    empty.registerEntries entries = .error error ↔
      ∃ before entry after,
        entries = before ++ entry :: after ∧ Loadable before ∧
          entry.Blamed before error := by
  rw [registerEntries_eq_error_iff]
  constructor
  · rintro ⟨before, entry, after, middle, entriesEq, loaded, refused⟩
    obtain ⟨loadable, loads⟩ :=
      loadable_of_registerEntries before middle loaded
    rw [registerEntry_eq_error_iff middle before entry
      (names_of_loads loads)] at refused
    exact ⟨before, entry, after, entriesEq, loadable, refused⟩
  · rintro ⟨before, entry, after, entriesEq, loadable, blamed⟩
    obtain ⟨middle, loaded⟩ := exists_registerEntries_ok before loadable
    obtain ⟨_, loads⟩ := loadable_of_registerEntries before middle loaded
    refine ⟨before, entry, after, middle, entriesEq, loaded, ?_⟩
    rw [registerEntry_eq_error_iff middle before entry
      (names_of_loads loads)]
    exact blamed

/-- A configuration loads exactly when its entries are good, and its table then
holds one route for each entry in their order.  Otherwise the first entry that
does not fit those before it is blamed, whatever stands behind it. -/
theorem ofConfig_loads_or_blames_first (config : RoutesConfig) :
    ((∃ table, ofConfig config = .ok table) ↔ Loadable config.routes) ∧
    (∀ table, ofConfig config = .ok table →
      List.Forall₂ RouteEntry.Loads config.routes table.routes) ∧
    (∀ error,
      ofConfig config = .error error ↔
        ∃ before entry after,
          config.routes = before ++ entry :: after ∧ Loadable before ∧
            entry.Blamed before error) ∧
    (∀ before entry after,
      config.routes = before ++ entry :: after → Loadable before →
        ¬ Loadable (before ++ [entry]) →
          ofConfig config = ofConfig { routes := before ++ [entry] }) := by
  unfold ofConfig
  refine ⟨⟨?_, ?_⟩, ?_, ?_, ?_⟩
  · rintro ⟨table, loaded⟩
    exact (loadable_of_registerEntries config.routes table loaded).1
  · exact exists_registerEntries_ok config.routes
  · intro table loaded
    exact (loadable_of_registerEntries config.routes table loaded).2
  · exact registerEntries_empty_eq_error_iff config.routes
  · intro before entry after entriesEq loadable unfit
    have blamedFor : ∃ error, entry.Blamed before error := by
      by_contra blameless
      apply unfit
      rw [loadable_concat_iff, RouteEntry.fits_iff_not_blamed]
      exact ⟨loadable, not_exists.mp blameless⟩
    obtain ⟨error, blamed⟩ := blamedFor
    have refused :=
      (registerEntries_empty_eq_error_iff config.routes error).mpr
        ⟨before, entry, after, entriesEq, loadable, blamed⟩
    have refusedAlone :=
      (registerEntries_empty_eq_error_iff (before ++ [entry]) error).mpr
        ⟨before, entry, [], rfl, loadable, blamed⟩
    exact refused.trans refusedAlone.symm

/-- A name that is taken with a pattern that is not read, before a method that
is not supported. -/
def clashingConfig : RoutesConfig :=
  { routes :=
      shelfConfig.routes ++
        [{ name := "shelf"
           method := "pUT"
           pattern := "/**/v1" },
          { name := "all"
            method := "fetch"
            pattern := "/v1/**" }] }

theorem ofConfig_loads_or_blames_first_shelf :
    ofConfig shelfConfig = .ok shelfTable ∧
      List.Forall₂ RouteEntry.Loads shelfConfig.routes
          [shelfRoute, clearRoute] ∧
        ofConfig clashingConfig = .error (.duplicateName "shelf") := by
  have loaded : ofConfig shelfConfig = .ok shelfTable := by
    decide +kernel
  obtain ⟨loadableIff, loads, _⟩ := ofConfig_loads_or_blames_first shelfConfig
  obtain ⟨_, _, blames, _⟩ := ofConfig_loads_or_blames_first clashingConfig
  have loadable : Loadable shelfConfig.routes :=
    loadableIff.mp ⟨shelfTable, loaded⟩
  have named :
      Method.ofName? "pUT" = some { token := "PUT" } := by
    decide +kernel
  refine ⟨loaded, loads shelfTable loaded, (blames _).mpr ?_⟩
  exact
    ⟨shelfConfig.routes, _, _, rfl, loadable,
      .name { token := "PUT" }
        ((Method.ofName?_eq_some_iff _ _).mp named) (by decide)⟩

end RouteTable

end HttpRouting
