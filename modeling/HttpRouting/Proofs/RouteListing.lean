/-
Where the listing of a route table has one line for each route.

A pattern is spelled without spaces and line breaks, a supported method is a
token, and the fields of a route are quoted.  The name is printed as it is, so
a route takes one line more for each line break of its name.  A listing is one
of single lines exactly when no name is broken, and then no other table has the
same listing.
-/

import HttpRouting.Proofs.Lines
import HttpRouting.Proofs.Quoting
import HttpRouting.Proofs.Reloading
import HttpRouting.Table.Listing

namespace HttpRouting

/-! ### The characters of a pattern -/

namespace Grammar

/-- What patterns are spelled with: the characters of literals, and those that
structure a pattern besides the colon, the dot and the equals sign. -/
def PatternCharacter (character : Char) : Prop :=
  LiteralCharacter character ∨ character ∈ "/*\x7b\x7d".toList

instance (character : Char) : Decidable (PatternCharacter character) :=
  decidable_of_iff
    (Pattern.isLiteralCharacter character = true ∨
      character ∈ "/*\x7b\x7d".toList)
    (or_congr_left (isLiteralCharacter_iff character))

theorem FieldPath.patternCharacter (path : List Char)
    (isPath : FieldPath path) :
    ∀ character ∈ path, PatternCharacter character := by
  intro character member
  have passing := FieldPath.characters path isPath character member
  unfold Pattern.isFieldPathCharacter at passing
  rw [Bool.or_eq_true, isIdentifierCharacter_iff, beq_iff_eq] at passing
  rcases passing with (letter | digit | rfl) | rfl
  · exact .inl (.inl letter)
  · exact .inl (.inr (.inl digit))
  · decide
  · decide

theorem patternCharacter_joined (texts : List (List Char))
    (plain : ∀ text ∈ texts, ∀ character ∈ text, PatternCharacter character) :
    ∀ character ∈ joined texts, PatternCharacter character := by
  intro character member
  rcases mem_intercalate ['/'] character texts member with
    between | ⟨text, textMember, inText⟩
  · rw [List.mem_singleton.mp between]
    decide
  · exact plain text textMember character inText

theorem SpellsSimple.patternCharacter (segment : Segment) (text : List Char)
    (spelled : SpellsSimple segment text) :
    ∀ character ∈ text, PatternCharacter character := by
  cases spelled with
  | literal literal isLiteral =>
      intro character member
      exact .inl (isLiteral.2 character member)
  | wildcard =>
      rw [List.forall_mem_singleton]
      decide
  | deepWildcard =>
      rw [List.forall_mem_cons, List.forall_mem_singleton]
      exact ⟨by decide, by decide⟩

theorem Spells.patternCharacter (segment : Segment) (text : List Char)
    (spelled : Spells segment text) :
    ∀ character ∈ text, PatternCharacter character := by
  cases spelled with
  | simple _ _ spelled =>
      exact spelled.patternCharacter
  | bareField path isPath =>
      have inPath := FieldPath.patternCharacter path.toList isPath
      simp only [List.mem_cons, List.mem_append, List.not_mem_nil, or_false]
      intro character member
      rcases member with rfl | inside | rfl
      · decide
      · exact inPath character inside
      · decide
  | field path isPath segments texts inhabited spelled =>
      have inPath := FieldPath.patternCharacter path.toList isPath
      have inTexts : ∀ character ∈ joined texts, PatternCharacter character := by
        apply patternCharacter_joined
        intro inner member
        rcases forall₂_right_of_mem spelled inner member with
          ⟨segment, _, innerSpelled⟩
        exact innerSpelled.patternCharacter
      simp only [List.mem_cons, List.mem_append, List.not_mem_nil, or_false]
      intro character member
      rcases member with rfl | inside | rfl | inner | rfl
      · decide
      · exact inPath character inside
      · decide
      · exact inTexts character inner
      · decide

theorem SpellsVerb.patternCharacter (segments : List Segment) (verb : String)
    (text : List Char) (spelled : SpellsVerb segments verb text) :
    ∀ character ∈ text, PatternCharacter character := by
  cases spelled with
  | absent noColon =>
      nofun
  | present verb inhabited isLiteral noColon =>
      intro character member
      rcases List.mem_cons.mp member with rfl | inVerb
      · decide
      · exact .inl (isLiteral.2 character inVerb)

theorem Derives.patternCharacter (text : List Char) (template : Template)
    (derived : Derives text template) :
    ∀ character ∈ text, PatternCharacter character := by
  cases derived with
  | pattern template texts verbText spelled verbSpelled =>
      intro character member
      rcases List.mem_cons.mp member with rfl | inside
      · decide
      rcases List.mem_append.mp inside with inSegments | inVerb
      · apply patternCharacter_joined texts _ character inSegments
        intro text textMember
        rcases forall₂_right_of_mem spelled text textMember with
          ⟨segment, _, segmentSpelled⟩
        exact segmentSpelled.patternCharacter
      · exact verbSpelled.patternCharacter _ _ _ character inVerb

end Grammar

theorem Template.patternCharacter_render (template : Template)
    (wellFormed : template.WellFormed) :
    ∀ character ∈ template.render.toList,
      Grammar.PatternCharacter character :=
  (template.derives_render wellFormed).patternCharacter

/-! ### The entry of a route -/

/-- What registration has checked about a route that a listing prints. -/
structure Route.Checked (route : Route) : Prop where
  consistent : route.Consistent
  wellFormed : route.template.WellFormed

namespace Route

theorem Checked.not_mem_pattern {route : Route} (checked : route.Checked)
    (mark : Char) (other : ¬ Grammar.PatternCharacter mark) :
    mark ∉ route.pattern.toList := by
  rw [checked.consistent.pattern]
  intro member
  exact
    other
      (route.template.patternCharacter_render checked.wellFormed mark member)

theorem Checked.not_mem_token {route : Route} (checked : route.Checked)
    (mark : Char) (other : Method.isTokenCharacter mark = false) :
    mark ∉ route.method.token.toList := by
  have tokens :
      ∀ method ∈ Method.supported,
        method.token.toList.all Method.isTokenCharacter = true := by
    decide
  have passing := tokens route.method checked.consistent.method
  rw [List.all_eq_true] at passing
  intro member
  rw [passing mark member] at other
  cases other

/-- An entry breaks where the name breaks and nowhere else. -/
theorem Checked.lineBreaks_listing {route : Route} (checked : route.Checked) :
    lineBreaks route.listing = lineBreaks route.name := by
  have opening : lineBreaks "[route] " = 0 := by
    decide
  have space : lineBreaks " " = 0 := by
    decide
  have arrow : lineBreaks " -> " = 0 := by
    decide
  have fields : lineBreaks " fields=" = 0 := by
    decide
  have token : lineBreaks route.method.token = 0 :=
    (lineBreaks_eq_zero_iff _).mpr (checked.not_mem_token '\n' (by decide))
  have pattern : lineBreaks route.pattern = 0 :=
    (lineBreaks_eq_zero_iff _).mpr (checked.not_mem_pattern '\n' (by decide))
  have list : lineBreaks (quotedList route.program.fields) = 0 :=
    (lineBreaks_eq_zero_iff _).mpr
      (newline_not_mem_quotedList route.program.fields)
  unfold listing
  simp only [lineBreaks_append]
  omega

/-- Different routes have different entries, whatever their names: the method
and the pattern end at spaces that they do not hold, the pattern decides the
fields, and what stands between is the name. -/
theorem Checked.eq_of_listing {left right : Route}
    (leftChecked : left.Checked) (rightChecked : right.Checked)
    (same : left.listing = right.listing) : left = right := by
  have shape :
      ∀ route : Route,
        route.listing.toList =
          "[route] ".toList ++ (route.method.token.toList ++
            ' ' :: (route.pattern.toList ++
              ' ' :: ("-> ".toList ++ (route.name.toList ++
                (" fields=" ++ quotedList route.program.fields).toList)))) := by
    intro route
    unfold listing
    simp
  have sameText := congrArg String.toList same
  rw [shape left, shape right] at sameText
  rcases
    eq_of_append_mark ' ' (leftChecked.not_mem_token ' ' (by decide))
      (rightChecked.not_mem_token ' ' (by decide))
      (List.append_cancel_left sameText) with
    ⟨sameToken, behindToken⟩
  rcases
    eq_of_append_mark ' ' (leftChecked.not_mem_pattern ' ' (by decide))
      (rightChecked.not_mem_pattern ' ' (by decide)) behindToken with
    ⟨samePattern, behindPattern⟩
  have behindArrow := List.append_cancel_left behindPattern
  have method : left.method = right.method :=
    congrArg Method.mk (String.toList_inj.mp sameToken)
  have pattern : left.pattern = right.pattern :=
    String.toList_inj.mp samePattern
  have template : left.template = right.template := by
    have leftParsed := left.template.parse_render leftChecked.wellFormed
    have rightParsed := right.template.parse_render rightChecked.wellFormed
    rw [← leftChecked.consistent.pattern, pattern] at leftParsed
    rw [← rightChecked.consistent.pattern, leftParsed] at rightParsed
    exact Except.ok.inj rightParsed
  have program : left.program = right.program := by
    rw [leftChecked.consistent.program, rightChecked.consistent.program,
      template]
  rw [program] at behindArrow
  have name : left.name = right.name :=
    String.toList_inj.mp (List.append_cancel_right behindArrow)
  cases left
  cases right
  cases name
  cases method
  cases pattern
  cases template
  cases program
  rfl

/-- The lines that the entry of a route takes: one, and one more for each line
break of the name. -/
structure PrintedOn (route : Route) (lines : List String) : Prop where
  consists : ConsistsOf (route.listing ++ "\n") lines
  length_eq : lines.length = lineBreaks route.name + 1

theorem Checked.exists_printedOn {route : Route} (checked : route.Checked) :
    ∃ lines, route.PrintedOn lines := by
  rcases exists_consistsOf_ended route.listing with ⟨lines, consists⟩
  refine ⟨lines, consists, ?_⟩
  have ended : lineBreaks "\n" = 1 := by
    decide
  rw [consists.length_eq, lineBreaks_append, checked.lineBreaks_listing, ended]

end Route

namespace RouteTable

/-! ### The listing of a table -/

def countLine (table : RouteTable) : String :=
  "[routes] count=" ++ toString table.size

/-- No route has a name with a line break in it. -/
def PlainNames (table : RouteTable) : Prop :=
  ∀ route ∈ table.routes, '\n' ∉ route.name.toList

instance (table : RouteTable) : Decidable table.PlainNames :=
  inferInstanceAs
    (Decidable (∀ route ∈ table.routes, '\n' ∉ route.name.toList))

theorem lines_eq (table : RouteTable) :
    table.lines = table.countLine :: table.routes.map Route.listing :=
  rfl

theorem newline_not_mem_countLine (table : RouteTable) :
    '\n' ∉ table.countLine.toList := by
  unfold countLine
  rw [String.toList_append, List.mem_append, not_or]
  exact ⟨by decide, newline_not_mem_toString table.size⟩

theorem eq_of_countLine (left right : RouteTable)
    (same : left.countLine = right.countLine) : left.size = right.size := by
  have sameText := congrArg String.toList same
  unfold countLine at sameText
  rw [String.toList_append, String.toList_append] at sameText
  have sameDigits := List.append_cancel_left sameText
  rw [Nat.toString_eq_ofList_toDigits, Nat.toString_eq_ofList_toDigits,
    String.toList_ofList, String.toList_ofList] at sameDigits
  calc
    left.size = Nat.ofDigitChars 10 (Nat.toDigits 10 left.size) 0 :=
      Nat.ofDigitChars_ten_toDigits.symm
    _ = Nat.ofDigitChars 10 (Nat.toDigits 10 right.size) 0 := by
      rw [sameDigits]
    _ = right.size := Nat.ofDigitChars_ten_toDigits

theorem Reachable.checked (history : List Registration) (table : RouteTable)
    (reachable : Reachable history table) (route : Route)
    (member : route ∈ table.routes) : route.Checked where
  consistent := (reachable.keeps history table).1.routes route member
  wellFormed := reachable.wellFormed history table route member

theorem exists_consistsOf_entries (routes : List Route)
    (checked : ∀ route ∈ routes, route.Checked) :
    ∃ pieces : List (List String),
      List.Forall₂ Route.PrintedOn routes pieces ∧
        ConsistsOf (unlines (routes.map Route.listing)) pieces.flatten := by
  induction routes with
  | nil =>
      exact ⟨[], .nil, rfl, nofun⟩
  | cons route rest inductionHypothesis =>
      rcases (checked route List.mem_cons_self).exists_printedOn with
        ⟨lines, printed⟩
      rcases
        inductionHypothesis (fun other member =>
          checked other (List.mem_cons_of_mem route member)) with
        ⟨pieces, restPrinted, restConsists⟩
      refine ⟨lines :: pieces, .cons printed restPrinted, ?_⟩
      rw [List.map_cons, unlines_cons]
      exact printed.consists.append restConsists

theorem lineBreaks_entries (routes : List Route)
    (checked : ∀ route ∈ routes, route.Checked) :
    lineBreaks (unlines (routes.map Route.listing)) =
      routes.length + lineBreaks (String.join (routes.map Route.name)) := by
  induction routes with
  | nil =>
      rfl
  | cons route rest inductionHypothesis =>
      rw [List.forall_mem_cons] at checked
      have ended : lineBreaks "\n" = 1 := by
        decide
      rw [List.map_cons, List.map_cons, unlines_cons, String.join_cons,
        List.length_cons]
      simp only [lineBreaks_append, ended, checked.1.lineBreaks_listing,
        inductionHypothesis checked.2]
      omega

theorem plainNames_iff (table : RouteTable) :
    table.PlainNames ↔
      lineBreaks (String.join (table.routes.map Route.name)) = 0 := by
  unfold PlainNames
  rw [lineBreaks_join_eq_zero_iff, List.forall_mem_map]

theorem consistsOf_lines_iff (table : RouteTable)
    (checked : ∀ route ∈ table.routes, route.Checked) :
    ConsistsOf table.listing table.lines ↔ table.PlainNames := by
  have broken :
      ∀ route ∈ table.routes,
        '\n' ∉ route.listing.toList ↔ '\n' ∉ route.name.toList := by
    intro route member
    rw [← lineBreaks_eq_zero_iff, ← lineBreaks_eq_zero_iff,
      (checked route member).lineBreaks_listing]
  constructor
  · intro consists route member
    apply (broken route member).mp
    apply consists.unbroken
    rw [lines_eq]
    exact List.mem_cons_of_mem _ (List.mem_map_of_mem member)
  · intro plain
    refine ⟨rfl, ?_⟩
    rw [lines_eq, List.forall_mem_cons, List.forall_mem_map]
    exact
      ⟨table.newline_not_mem_countLine, fun route member =>
        (broken route member).mpr (plain route member)⟩

/-- The count and the number of lines tell that the names of a table with the
same listing are plain too. -/
theorem PlainNames.of_listing (table other : RouteTable)
    (plain : table.PlainNames)
    (checked : ∀ route ∈ table.routes, route.Checked)
    (otherChecked : ∀ route ∈ other.routes, route.Checked)
    (same : other.listing = table.listing) : other.PlainNames := by
  unfold listing at same
  have sameText := congrArg String.toList same
  rw [lines_eq, lines_eq, toList_unlines_cons, toList_unlines_cons] at sameText
  rcases
    eq_of_append_mark '\n' other.newline_not_mem_countLine
      table.newline_not_mem_countLine sameText with
    ⟨sameCount, sameEntries⟩
  have size : other.routes.length = table.routes.length :=
    eq_of_countLine other table (String.toList_inj.mp sameCount)
  have breaks := congrArg lineBreaks (String.toList_inj.mp sameEntries)
  rw [lineBreaks_entries other.routes otherChecked,
    lineBreaks_entries table.routes checked,
    (plainNames_iff table).mp plain] at breaks
  rw [plainNames_iff]
  omega

theorem eq_of_entries (left right : List Route)
    (leftChecked : ∀ route ∈ left, route.Checked)
    (rightChecked : ∀ route ∈ right, route.Checked)
    (same : left.map Route.listing = right.map Route.listing) :
    left = right := by
  induction left generalizing right with
  | nil =>
      exact (List.map_eq_nil_iff.mp same.symm).symm
  | cons route rest inductionHypothesis =>
      cases right with
      | nil =>
          cases same
      | cons other others =>
          rw [List.map_cons, List.map_cons, List.cons_eq_cons] at same
          rw [List.forall_mem_cons] at leftChecked rightChecked
          rw [leftChecked.1.eq_of_listing rightChecked.1 same.1,
            inductionHypothesis others leftChecked.2 rightChecked.2 same.2]

/-- A listing starts with the line of the count, and behind it stand the
entries in the order of registration, each on one line more than its name has
line breaks.  So it has one line for each route exactly when no name is broken,
and then it is the listing of no other table, however the routes of that one
are named. -/
theorem listing_consists_and_determines (history : List Registration)
    (table : RouteTable) (reachable : Reachable history table) :
    (∃ pieces : List (List String),
        List.Forall₂ Route.PrintedOn table.routes pieces ∧
          ConsistsOf table.listing (table.countLine :: pieces.flatten)) ∧
      (ConsistsOf table.listing table.lines ↔ table.PlainNames) ∧
        (table.PlainNames →
          ∀ otherHistory other,
            Reachable otherHistory other →
              other.listing = table.listing → other = table) := by
  have checked := reachable.checked history table
  have consistsIff := table.consistsOf_lines_iff checked
  refine ⟨?_, consistsIff, ?_⟩
  · rcases exists_consistsOf_entries table.routes checked with
      ⟨pieces, printed, consists⟩
    refine ⟨pieces, printed, ?_, ?_⟩
    · unfold listing
      rw [lines_eq, unlines_cons, unlines_cons, consists.written]
    · rw [List.forall_mem_cons]
      exact ⟨table.newline_not_mem_countLine, consists.unbroken⟩
  · intro plain otherHistory other otherReachable same
    have otherChecked := otherReachable.checked otherHistory other
    have otherPlain := plain.of_listing table other checked otherChecked same
    have otherConsists :=
      (other.consistsOf_lines_iff otherChecked).mpr otherPlain
    rw [same] at otherConsists
    have sameLines := otherConsists.unique (consistsIff.mpr plain)
    rw [lines_eq, lines_eq, List.cons_eq_cons] at sameLines
    rw [otherReachable.eq_foldl_insert otherHistory other,
      reachable.eq_foldl_insert history table,
      eq_of_entries other.routes table.routes otherChecked checked
        sameLines.2]

theorem listing_consists_and_determines_books :
    Reachable bookRegistrations bookTable ∧ bookTable.PlainNames ∧
      ConsistsOf bookTable.listing
          ["[routes] count=3",
            "[route] PATCH /v1/\x7bname=*\x7d/b:c/**:LOCK -> book" ++
              " fields=[\"name\"]",
            "[route] GET / -> root fields=[]",
            "[route] PATCH /v1/\x7brest=**\x7d -> rest" ++
              " fields=[\"rest\"]"] ∧
        ∀ history table,
          Reachable history table →
            table.listing = bookTable.listing → table = bookTable := by
  have reachable : Reachable bookRegistrations bookTable :=
    attempts_induction Reachable Reachable.attempt bookRegistrations []
      RouteTable.empty .empty
  have plain : bookTable.PlainNames := by
    decide +kernel
  rcases listing_consists_and_determines bookRegistrations bookTable reachable
    with ⟨_, consistsIff, determined⟩
  have consists := consistsIff.mpr plain
  have written :
      bookTable.lines =
        ["[routes] count=3",
          "[route] PATCH /v1/\x7bname=*\x7d/b:c/**:LOCK -> book" ++
            " fields=[\"name\"]",
          "[route] GET / -> root fields=[]",
          "[route] PATCH /v1/\x7brest=**\x7d -> rest" ++
            " fields=[\"rest\"]"] := by
    decide +kernel
  rw [written] at consists
  exact ⟨reachable, plain, consists, determined plain⟩

/-- Two routes, the first of which goes on in the entry of a third. -/
def firstBroken : List Registration :=
  [{ name := "b fields=[]\n[route] GET /c -> d"
     method := { token := "GET" }
     pattern := "/a" },
    { name := "f"
      method := { token := "GET" }
      pattern := "/e" }]

def secondBroken : List Registration :=
  [{ name := "b"
     method := { token := "GET" }
     pattern := "/a" },
    { name := "d fields=[]\n[route] GET /e -> f"
      method := { token := "GET" }
      pattern := "/c" }]

/-- A table of two routes whose listing has three entries, and another one with
the same listing. -/
theorem exists_listings_of_three_entries :
    ∃ left right,
      Reachable firstBroken left ∧ Reachable secondBroken right ∧
        left.routes.map Route.pattern = ["/a", "/e"] ∧
          right.routes.map Route.pattern = ["/a", "/c"] ∧
            left.listing = right.listing ∧
              ¬ ConsistsOf left.listing left.lines ∧
                ConsistsOf left.listing
                  ["[routes] count=2", "[route] GET /a -> b fields=[]",
                    "[route] GET /c -> d fields=[]",
                    "[route] GET /e -> f fields=[]"] := by
  have leftReachable :=
    attempts_induction Reachable Reachable.attempt firstBroken []
      RouteTable.empty .empty
  have rightReachable :=
    attempts_induction Reachable Reachable.attempt secondBroken []
      RouteTable.empty .empty
  refine
    ⟨_, _, leftReachable, rightReachable, by decide +kernel,
      by decide +kernel, by decide +kernel, ?_, by decide +kernel, by decide⟩
  rw [consistsOf_lines_iff _ (leftReachable.checked _ _)]
  decide +kernel

end RouteTable

end HttpRouting
