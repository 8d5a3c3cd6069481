/-
Templates and their spellings as JSON documents.

A template has many spellings: objects may name their members in any order and
among unknown ones, the members of a template or of a field may stand in an
array, a segment without content may be an object with a null, and a template
may come without its empty verb.  The spellings are given by rules, one for
each form and mixed freely at every depth.  Reading takes all of them, the
written form among them, and nothing else.
-/

import HttpRouting.Proofs.JsonRoundTrip
import HttpRouting.Template.Document

namespace HttpRouting

/-! ### The spellings of a template -/

mutual

inductive Segment.WrittenAs (source : Json.Source) : Segment → Json → Prop where
  | literal (text : String) :
      WrittenAs source (.literal text)
        (Json.record [("literal", Json.text text)])
  | wildcard : WrittenAs source .wildcard (Json.text "wildcard")
  | wildcardKey :
      WrittenAs source .wildcard (Json.record [("wildcard", .null)])
  | deepWildcard :
      WrittenAs source .deepWildcard (Json.text "deep_wildcard")
  | deepWildcardKey :
      WrittenAs source .deepWildcard (Json.record [("deep_wildcard", .null)])
  /-- Both parts are found by their keys; other members say nothing. -/
  | field (path : String) (segments : List Segment)
      (members : List (Option String × Json)) (elements : List Json)
      (keys : Json.keysSpelled members = true)
      (hasPath :
        Json.uniqueMember? "path" members = some (some (Json.text path)))
      (hasSegments :
        Json.uniqueMember? "segments" members =
          some (some (.array elements)))
      (each : Segment.WrittenAsEach source segments elements) :
      WrittenAs source (.field path segments)
        (Json.record [("variable", .object members)])
  | fieldArray (path : String) (segments : List Segment)
      (elements : List Json) (fromText : source = .text)
      (each : Segment.WrittenAsEach source segments elements) :
      WrittenAs source (.field path segments)
        (Json.record
          [("variable", .array [Json.text path, .array elements])])

inductive Segment.WrittenAsEach (source : Json.Source) :
    List Segment → List Json → Prop where
  | nil : WrittenAsEach source [] []
  | cons (segment : Segment) (rest : List Segment) (document : Json)
      (others : List Json) (first : Segment.WrittenAs source segment document)
      (each : WrittenAsEach source rest others) :
      WrittenAsEach source (segment :: rest) (document :: others)

end

inductive Template.WrittenAs (source : Json.Source) (template : Template) :
    Json → Prop where
  | object (members : List (Option String × Json)) (elements : List Json)
      (keys : Json.keysSpelled members = true)
      (hasSegments :
        Json.uniqueMember? "segments" members =
          some (some (.array elements)))
      (hasVerb :
        Json.uniqueMember? "verb" members =
            some (some (Json.text template.verb)) ∨
          Json.uniqueMember? "verb" members = some none ∧
            template.verb = "")
      (each : Segment.WrittenAsEach source template.segments elements) :
      WrittenAs source template (.object members)
  | array (elements : List Json)
      (each : Segment.WrittenAsEach source template.segments elements) :
      WrittenAs source template
        (.array [.array elements, Json.text template.verb])
  | shortArray (elements : List Json) (noVerb : template.verb = "")
      (each : Segment.WrittenAsEach source template.segments elements) :
      WrittenAs source template (.array [.array elements])

/-! ### Members of an object -/

namespace Json

theorem uniqueMember?_eq_none_iff (key : String)
    (members : List (Option String × Json)) :
    uniqueMember? key members = some none ↔
      some key ∉ members.map Prod.fst := by
  have noneNamed :
      members.filter (fun member => member.1 == some key) = [] ↔
        some key ∉ members.map Prod.fst := by
    rw [List.filter_eq_nil_iff, List.mem_map]
    constructor
    · rintro none ⟨member, belongs, named⟩
      exact none member belongs (beq_iff_eq.mpr named)
    · intro absent member belongs named
      exact absent ⟨member, belongs, eq_of_beq named⟩
  rw [← noneNamed]
  unfold uniqueMember?
  split
  case h_1 none =>
    exact iff_of_true rfl none
  case h_2 member single =>
    rw [single]
    exact iff_of_false nofun nofun
  case h_3 notNone _ =>
    exact iff_of_false nofun notNone

theorem uniqueMember?_cons_of_ne (key : String)
    (member : Option String × Json) (rest : List (Option String × Json))
    (other : member.1 ≠ some key) :
    uniqueMember? key (member :: rest) = uniqueMember? key rest := by
  unfold uniqueMember?
  rw [List.filter_cons_of_neg]
  exact fun same => other (eq_of_beq same)

theorem uniqueMember?_cons_self (key : String) (value : Json)
    (rest : List (Option String × Json)) (found : Option Json) :
    uniqueMember? key ((some key, value) :: rest) = some found ↔
      found = some value ∧ some key ∉ rest.map Prod.fst := by
  rw [← uniqueMember?_eq_none_iff]
  unfold uniqueMember?
  rw [List.filter_cons_of_pos (by exact beq_self_eq_true (some key))]
  generalize rest.filter (fun member => member.1 == some key) = others
  rcases others with _ | ⟨second, _ | ⟨third, later⟩⟩
  · exact ⟨fun once => ⟨(Option.some.inj once).symm, rfl⟩,
      fun both => both.1 ▸ rfl⟩
  · exact ⟨nofun, nofun⟩
  · exact ⟨nofun, nofun⟩

theorem text?_eq_some_iff (value : Json) (read : String) :
    value.text? = some read ↔ value = text read := by
  cases value with
  | string spelled =>
      exact ⟨congrArg string, string.inj⟩
  | null | bool | number | array | object =>
      exact iff_of_false nofun nofun

theorem elements?_eq_some_iff (value : Json) (elements : List Json) :
    value.elements? = some elements ↔ value = .array elements := by
  cases value with
  | array own =>
      exact
        ⟨fun read => congrArg array (Option.some.inj read),
          fun same => congrArg some (array.inj same)⟩
  | null | bool | number | string | object =>
      exact iff_of_false nofun nofun

theorem requiredText?_eq_some_iff (key : String)
    (members : List (Option String × Json)) (read : String) :
    requiredText? key members = some read ↔
      uniqueMember? key members = some (some (text read)) := by
  unfold requiredText?
  rcases uniqueMember? key members with _ | _ | value
  · exact iff_of_false nofun nofun
  · exact iff_of_false nofun nofun
  · rw [Option.some.injEq, Option.some.injEq]
    exact text?_eq_some_iff value read

end Json

/-! ### Reading segments -/

namespace Segment

variable (source : Json.Source)

theorem segmentsOfMembers?_cons (key : Option String) (value : Json)
    (rest : List (Option String × Json)) :
    segmentsOfMembers? source ((key, value) :: rest) =
      if key = some "segments" then
        if some "segments" ∈ rest.map Prod.fst then none
        else value.elements?.bind (ofDocumentEach? source)
      else segmentsOfMembers? source rest := by
  cases value with
  | array elements =>
      rfl
  | null | bool | number | string | object =>
      simp [segmentsOfMembers?, Json.elements?]

/-- The segments are the elements of the one member that is named for them,
wherever it stands. -/
theorem segmentsOfMembers?_eq_some_iff
    (members : List (Option String × Json)) (segments : List Segment) :
    segmentsOfMembers? source members = some segments ↔
      ∃ elements,
        Json.uniqueMember? "segments" members =
            some (some (.array elements)) ∧
          ofDocumentEach? source elements = some segments := by
  induction members with
  | nil =>
      exact iff_of_false nofun nofun
  | cons member rest inductionHypothesis =>
      rcases member with ⟨key, value⟩
      rw [segmentsOfMembers?_cons]
      by_cases named : key = some "segments"
      · subst named
        simp only [if_pos, Json.uniqueMember?_cons_self, Option.some.injEq]
        by_cases again : some "segments" ∈ rest.map Prod.fst
        · simp only [again, if_pos, not_true_eq_false, and_false, false_and,
            exists_false, reduceCtorEq]
        · rw [if_neg again, Option.bind_eq_some_iff]
          constructor
          · rintro ⟨elements, isArray, read⟩
            refine ⟨elements, ⟨?_, again⟩, read⟩
            exact ((Json.elements?_eq_some_iff value elements).mp isArray).symm
          · rintro ⟨elements, ⟨rfl, _⟩, read⟩
            exact ⟨elements, rfl, read⟩
      · rw [if_neg named, inductionHypothesis,
          Json.uniqueMember?_cons_of_ne _ _ _ named]

theorem ofDocument?_fieldObject (members : List (Option String × Json))
    (segment : Segment) :
    ofDocument? source (Json.record [("variable", .object members)]) =
        some segment ↔
      ∃ path segments elements,
        segment = .field path segments ∧
          Json.keysSpelled members = true ∧
            Json.uniqueMember? "path" members =
                some (some (Json.text path)) ∧
              Json.uniqueMember? "segments" members =
                  some (some (.array elements)) ∧
                ofDocumentEach? source elements = some segments := by
  have unfolded :
      ofDocument? source (Json.record [("variable", .object members)]) =
        if Json.keysSpelled members = true then
          (Json.requiredText? "path" members).bind (fun path =>
            (segmentsOfMembers? source members).map (field path))
        else none := by
    simp [Json.record, ofDocument?]
  rw [unfolded]
  by_cases keys : Json.keysSpelled members = true
  · rw [if_pos keys, Option.bind_eq_some_iff]
    simp only [keys, true_and, Option.map_eq_some_iff,
      Json.requiredText?_eq_some_iff, segmentsOfMembers?_eq_some_iff]
    constructor
    · rintro ⟨path, hasPath, segments, ⟨elements, hasSegments, read⟩, rfl⟩
      exact ⟨path, segments, elements, rfl, hasPath, hasSegments, read⟩
    · rintro ⟨path, segments, elements, rfl, hasPath, hasSegments, read⟩
      exact ⟨path, hasPath, segments, ⟨elements, hasSegments, read⟩, rfl⟩
  · rw [if_neg keys]
    exact
      iff_of_false nofun
        (fun ⟨_, _, _, _, spelled, _⟩ => keys spelled)

theorem ofDocument?_fieldArray (path : String) (elements : List Json)
    (fromText : source = .text) :
    ofDocument? source
        (Json.record
          [("variable", .array [Json.text path, .array elements])]) =
      (ofDocumentEach? source elements).map (field path) := by
  simp [Json.record, Json.text, ofDocument?, fromText]

theorem ofDocumentEach?_cons (document : Json) (others : List Json)
    (segments : List Segment) :
    ofDocumentEach? source (document :: others) = some segments ↔
      ∃ segment rest,
        segments = segment :: rest ∧
          ofDocument? source document = some segment ∧
            ofDocumentEach? source others = some rest := by
  rw [ofDocumentEach?]
  constructor
  · intro read
    split at read
    case h_1 segment rest firstRead othersRead =>
      exact
        ⟨segment, rest, (Option.some.inj read).symm, firstRead, othersRead⟩
    case h_2 =>
      cases read
  · rintro ⟨segment, rest, rfl, firstRead, othersRead⟩
    rw [firstRead, othersRead]

/-! ### Every spelling is read -/

mutual

theorem ofDocument?_of_writtenAs :
    (segment : Segment) → (document : Json) →
      segment.WrittenAs source document →
        ofDocument? source document = some segment
  | .literal _, _, .literal _ => rfl
  | .wildcard, _, .wildcard => rfl
  | .wildcard, _, .wildcardKey => rfl
  | .deepWildcard, _, .deepWildcard => rfl
  | .deepWildcard, _, .deepWildcardKey => rfl
  | .field path segments, _,
      .field _ _ members elements keys hasPath hasSegments each =>
    (ofDocument?_fieldObject source members _).mpr
      ⟨path, segments, elements, rfl, keys, hasPath, hasSegments,
        ofDocumentEach?_of_writtenAsEach segments elements each⟩
  | .field path segments, _, .fieldArray _ _ elements fromText each => by
    rw [ofDocument?_fieldArray source path elements fromText,
      ofDocumentEach?_of_writtenAsEach segments elements each, Option.map_some]

theorem ofDocumentEach?_of_writtenAsEach :
    (segments : List Segment) → (documents : List Json) →
      Segment.WrittenAsEach source segments documents →
        ofDocumentEach? source documents = some segments
  | [], _, .nil => rfl
  | segment :: rest, _, .cons _ _ document others first each =>
    (ofDocumentEach?_cons source document others _).mpr
      ⟨segment, rest, rfl, ofDocument?_of_writtenAs segment document first,
        ofDocumentEach?_of_writtenAsEach rest others each⟩

end

/-! ### Nothing else is read -/

theorem writtenAs_of_ofName? (name : String) (segment : Segment)
    (read : ofName? name = some segment) :
    segment.WrittenAs source (Json.text name) ∧
      segment.WrittenAs source (Json.record [(name, .null)]) := by
  unfold ofName? at read
  split at read
  case isTrue named =>
    cases read
    rw [named]
    exact ⟨.wildcard, .wildcardKey⟩
  case isFalse =>
    split at read
    case isTrue named =>
      cases read
      rw [named]
      exact ⟨.deepWildcard, .deepWildcardKey⟩
    case isFalse =>
      cases read

/-- A segment is spelled by the document it is read from as soon as the
segments inside it are spelled by theirs. -/
theorem writtenAs_of_inner (document : Json) (segment : Segment)
    (read : ofDocument? source document = some segment)
    (inner :
      ∀ path segments elements,
        segment = .field path segments →
          ofDocumentEach? source elements = some segments →
            WrittenAsEach source segments elements) :
    segment.WrittenAs source document := by
  unfold ofDocument? at read
  split at read
  case h_1 name =>
    exact (writtenAs_of_ofName? source name segment read).1
  case h_2 name =>
    exact (writtenAs_of_ofName? source name segment read).2
  case h_3 name text =>
    split at read
    case isTrue named =>
      cases read
      rw [named]
      exact .literal text
    case isFalse =>
      cases read
  case h_4 name members =>
    have named : name = "variable" := by
      by_contra other
      rw [if_neg (fun allowed => other allowed.1)] at read
      cases read
    subst named
    rcases (ofDocument?_fieldObject source members segment).mp read with
      ⟨path, segments, elements, rfl, keys, hasPath, hasSegments,
        elementsRead⟩
    exact .field path segments members elements keys hasPath hasSegments
      (inner path segments elements rfl elementsRead)
  case h_5 name path elements =>
    split at read
    case isTrue allowed =>
      rcases Option.map_eq_some_iff.mp read with
        ⟨segments, elementsRead, rfl⟩
      rw [allowed.1]
      exact .fieldArray path segments elements allowed.2
        (inner path segments elements rfl elementsRead)
    case isFalse =>
      cases read
  case h_6 =>
    cases read

mutual

theorem writtenAs_of_ofDocument? :
    (segment : Segment) → (document : Json) →
      ofDocument? source document = some segment →
        segment.WrittenAs source document
  | .literal _, document, read =>
    writtenAs_of_inner source document _ read nofun
  | .wildcard, document, read =>
    writtenAs_of_inner source document _ read nofun
  | .deepWildcard, document, read =>
    writtenAs_of_inner source document _ read nofun
  | .field _ segments, document, read => by
    apply writtenAs_of_inner source document _ read
    rintro _ _ elements ⟨⟩ elementsRead
    exact writtenAsEach_of_ofDocumentEach? segments elements elementsRead

theorem writtenAsEach_of_ofDocumentEach? :
    (segments : List Segment) → (documents : List Json) →
      ofDocumentEach? source documents = some segments →
        WrittenAsEach source segments documents
  | [], [], _ => .nil
  | [], document :: others, read => by
    rcases (ofDocumentEach?_cons source document others []).mp read with
      ⟨_, _, impossible, _⟩
    cases impossible
  | segment :: rest, document :: others, read => by
    rcases (ofDocumentEach?_cons source document others _).mp read with
      ⟨_, _, ⟨⟩, firstRead, othersRead⟩
    exact .cons segment rest document others
      (writtenAs_of_ofDocument? segment document firstRead)
      (writtenAsEach_of_ofDocumentEach? rest others othersRead)

end

/-! ### The written form -/

mutual

theorem writtenAs_toJson :
    (segment : Segment) → segment.WrittenAs source segment.toJson
  | .literal text => .literal text
  | .wildcard => .wildcard
  | .deepWildcard => .deepWildcard
  | .field path segments =>
    .field path segments _ (toJsonEach segments) rfl rfl rfl
      (writtenAsEach_toJsonEach segments)

theorem writtenAsEach_toJsonEach :
    (segments : List Segment) →
      WrittenAsEach source segments (toJsonEach segments)
  | [] => .nil
  | segment :: rest =>
    .cons segment rest _ _ (writtenAs_toJson segment)
      (writtenAsEach_toJsonEach rest)

end

mutual

theorem isSpelled_toJson :
    (segment : Segment) → segment.toJson.isSpelled = true
  | .literal _ => rfl
  | .wildcard => rfl
  | .deepWildcard => rfl
  | .field path segments => by
    rw [toJson]
    apply Json.isSpelled_record
    rw [List.forall_mem_singleton]
    apply Json.isSpelled_record
    rw [List.forall_mem_cons, List.forall_mem_singleton]
    exact ⟨rfl, isSpelledEach_toJsonEach segments⟩

theorem isSpelledEach_toJsonEach :
    (segments : List Segment) →
      Json.isSpelledEach (toJsonEach segments) = true
  | [] => rfl
  | segment :: rest => by
    rw [toJsonEach, Json.isSpelledEach, isSpelled_toJson segment,
      isSpelledEach_toJsonEach rest]
    rfl

end

end Segment

/-! ### Whole templates -/

namespace Template

variable (source : Json.Source)

theorem writtenAs_toJson (template : Template) :
    template.WrittenAs source template.toJson :=
  .object _ (Segment.toJsonEach template.segments) rfl rfl (.inl rfl)
    (Segment.writtenAsEach_toJsonEach source template.segments)

theorem isSpelled_toJson (template : Template) :
    template.toJson.isSpelled = true := by
  unfold toJson
  apply Json.isSpelled_record
  rw [List.forall_mem_cons, List.forall_mem_singleton]
  exact ⟨Segment.isSpelledEach_toJsonEach template.segments, rfl⟩

theorem ofParts?_eq_some_iff (segments verb : Json) (template : Template) :
    ofParts? source segments verb = some template ↔
      ∃ elements,
        segments = .array elements ∧ verb = Json.text template.verb ∧
          Segment.WrittenAsEach source template.segments elements := by
  constructor
  · intro read
    unfold ofParts? at read
    split at read
    case h_1 elements verbText =>
      rcases Option.map_eq_some_iff.mp read with ⟨_, segmentsRead, rfl⟩
      exact
        ⟨elements, rfl, rfl,
          Segment.writtenAsEach_of_ofDocumentEach? source _ _ segmentsRead⟩
    case h_2 =>
      cases read
  · rintro ⟨elements, rfl, rfl, each⟩
    exact Option.map_eq_some_iff.mpr
      ⟨_, Segment.ofDocumentEach?_of_writtenAsEach source _ _ each, rfl⟩

theorem ofDocument?_of_writtenAs (template : Template) (document : Json)
    (written : template.WrittenAs source document) :
    ofDocument? source document = some template := by
  cases written with
  | object members elements keys hasSegments hasVerb each =>
      have read (verb : Json) (same : verb = Json.text template.verb) :
          ofParts? source (.array elements) verb = some template :=
        (ofParts?_eq_some_iff source _ _ _).mpr ⟨elements, rfl, same, each⟩
      rw [ofDocument?, if_pos keys, hasSegments]
      rcases hasVerb with hasVerb | ⟨noVerb, isEmpty⟩
      · rw [hasVerb]
        exact read _ rfl
      · rw [noVerb]
        exact read _ (congrArg Json.text isEmpty.symm)
  | array elements each =>
      exact (ofParts?_eq_some_iff source _ _ _).mpr ⟨elements, rfl, rfl, each⟩
  | shortArray elements noVerb each =>
      exact (ofParts?_eq_some_iff source _ _ _).mpr
        ⟨elements, rfl, congrArg Json.text noVerb.symm, each⟩

theorem writtenAs_of_ofDocument? (template : Template) (document : Json)
    (read : ofDocument? source document = some template) :
    template.WrittenAs source document := by
  unfold ofDocument? at read
  split at read
  case h_1 segments =>
    rcases (ofParts?_eq_some_iff source _ _ _).mp read with
      ⟨elements, rfl, noVerb, each⟩
    exact .shortArray elements
      (Option.some.inj (Json.string.inj noVerb)).symm each
  case h_2 segments verb =>
    rcases (ofParts?_eq_some_iff source _ _ _).mp read with
      ⟨elements, rfl, rfl, each⟩
    exact .array elements each
  case h_3 members =>
    split at read
    case isTrue keys =>
      rcases Option.bind_eq_some_iff.mp read with
        ⟨_, hasSegments, segmentsRead⟩
      rcases Option.bind_eq_some_iff.mp segmentsRead with ⟨_, rfl, verbRead⟩
      rcases Option.bind_eq_some_iff.mp verbRead with
        ⟨verb, hasVerb, partsRead⟩
      rcases (ofParts?_eq_some_iff source _ _ _).mp partsRead with
        ⟨elements, rfl, verbText, each⟩
      refine .object members elements keys hasSegments ?_ each
      cases verb with
      | none =>
          exact .inr
            ⟨hasVerb, (Option.some.inj (Json.string.inj verbText)).symm⟩
      | some value =>
          rw [← verbText]
          exact .inl hasVerb
    case isFalse =>
      cases read
  case h_4 =>
    cases read

def mixedTemplate : Template :=
  { segments :=
      [.literal "v1",
        .field "a" [.wildcard, .field "b" [.deepWildcard, .wildcard]]] }

/-- Both forms of a wildcard, the members of one field in another order and
those of the other in an array, members that are not known, and no verb. -/
def mixedDocument : Json :=
  Json.record
    [("note", .number "1"),
      ("segments",
        .array
          [Json.record [("literal", Json.text "v1")],
            Json.record
              [("variable",
                Json.record
                  [("segments",
                      .array
                        [Json.record [("wildcard", .null)],
                          Json.record
                            [("variable",
                              .array
                                [Json.text "b",
                                  .array
                                    [Json.text "deep_wildcard",
                                      Json.text "wildcard"]])]]),
                    ("path", Json.text "a"),
                    ("", .array [.bool true])])]])]

/-- The array is the only spelling here that asks for a text. -/
example :
    ofDocument? .text mixedDocument = some mixedTemplate ∧
      ofDocument? .value mixedDocument = none := by
  exact ⟨rfl, rfl⟩

end Template

end HttpRouting
