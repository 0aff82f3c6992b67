import ApiBindings.Proofs.LastWritten
import ApiBindings.Proofs.Origins

/-!
# Keys that survive

A document's objects keep their keys on the way into a view: a parameter object, a response, the info and a tag are
written again with what they were read from. A known key that is null is left out, every other one comes back with
its value, and keys that the view derives are beside the point (`keys_survive`).
-/

namespace ApiBindings.Survival
open ApiBindings.Json ApiBindings.Document ApiBindings.View ApiBindings.Walks ApiBindings.Readings ApiBindings.Origins
open ApiBindings.DerivedKeys ApiBindings.LastWritten
open ApiBindings.Bindings (bare methods_parameters)

/-! ## Records -/

/-- An object of a document stands in a view: under a known key with its value unless that is null, under any other
    key with the values that it has there. Keys that are set apart are not spoken of. -/
structure RecordKept (known apart : List String) (object view : Value) : Prop where
  members : ∀ key ∈ known, valuesUnder key view = (notNull (object.get? key)).toList
  others : ∀ key, key ∉ known → key ∉ apart → valuesUnder key view = valuesUnder key object

/-- The entries of an object written again: its known members, unless they are null, then all others. -/
def rewritten (known : List String) (entries : Entries) : Entries :=
  written (known.map fun key => (key, notNull (entries.find? key))) ++ entries.filter fun e => !known.contains e.1

/-- Entries that are written again are kept, whatever stands before them under keys that are set apart. -/
theorem rewritten_kept {known apart : List String} (distinct : known.Nodup) (disjoint : ∀ key ∈ known, key ∉ apart)
    (front : Entries) (before : ∀ key, key ∉ apart → valuesIn key front = []) (entries : Entries) :
    RecordKept known apart (.object entries) (.object (front ++ rewritten known entries)) := by
  have values : ∀ key, key ∉ apart → valuesUnder key (.object (front ++ rewritten known entries)) =
      if key ∈ known then (notNull (entries.find? key)).toList else valuesIn key entries := by
    intro key outside
    show valuesIn key (front ++ rewritten known entries) = _
    rw [valuesIn_append, before key outside, List.nil_append]
    exact valuesIn_rewritten distinct (fun key => notNull (entries.find? key)) entries key
  refine ⟨fun key inside => ?_, fun key unknown outside => ?_⟩
  · rw [values key (disjoint key inside), if_pos inside]
    rfl
  · rw [values key outside, if_neg unknown]
    rfl

/-- The keys of a response that are known. -/
def responseKeys : List String := ["description", "schema"]

/-- The keys of an info that are known. -/
def infoKeys : List String := ["title", "description", "version"]

/-- The keys of a tag that are known. -/
def tagKeys : List String := ["name", "description"]

theorem response_rewritten {v : Value} {r : Response} (read : Response.shape v = .ok r) :
    ∃ entries, v = .object entries ∧ r.toEntries = rewritten responseKeys entries := by
  refine fromObject_takes (n := 2) (R := fun entries r => r.toEntries = rewritten responseKeys entries) ?_ read
  refine takes_seq (takes_others _) ?_
  refine takes_seq (takes_optional object_faithful) ?_
  refine takes_seq (takes_optional text_faithful) (takes_pure ?_)
  rintro _ description atDescription schema atSchema others kept entries rfl
  rw [kept entries rfl]
  simp only [member?] at atDescription atSchema
  simp [Response.toEntries, rewritten, responseKeys, written, entry?_eq, atDescription, atSchema]

theorem info_rewritten {v : Value} {i : Info} (read : Info.shape v = .ok i) :
    ∃ entries, v = .object entries ∧ i.toJson = .object (rewritten infoKeys entries) := by
  refine fromObject_takes (n := 3) (R := fun entries i => i.toJson = .object (rewritten infoKeys entries)) ?_ read
  refine takes_seq (takes_others _) ?_
  refine takes_seq (takes_optional text_faithful) ?_
  refine takes_seq (takes_optional text_faithful) ?_
  refine takes_seq (takes_optional text_faithful) (takes_pure ?_)
  rintro _ title atTitle description atDescription version atVersion others kept entries rfl
  rw [kept entries rfl]
  simp only [member?] at atTitle atDescription atVersion
  simp [Info.toJson, rewritten, infoKeys, written, entry?_eq, atTitle, atDescription, atVersion]

theorem tag_rewritten {v : Value} {t : Tag} (read : Tag.shape v = .ok t) :
    ∃ entries, v = .object entries ∧ t.toJson = .object (rewritten tagKeys entries) := by
  refine fromObject_takes (n := 2) (R := fun entries t => t.toJson = .object (rewritten tagKeys entries)) ?_ read
  refine takes_seq (takes_others _) ?_
  refine takes_seq (takes_optional text_faithful) ?_
  refine takes_seq (takes_required text_faithful) (takes_pure ?_)
  rintro _ name atName description atDescription others kept entries rfl
  have text : notNull (some (.string name)) = some (.string name) := rfl
  rw [kept entries rfl]
  simp only [member?] at atName atDescription
  simp [Tag.toJson, rewritten, tagKeys, written, entry?_eq, atName, atDescription, text]

theorem response_kept {v : Value} {r : Response} (read : Response.shape v = .ok r) (code : String) :
    RecordKept responseKeys ["responseCode"] v (ResponseView.toJson ⟨code, r⟩) := by
  obtain ⟨entries, rfl, same⟩ := response_rewritten read
  have view : ResponseView.toJson ⟨code, r⟩ =
      .object ([("responseCode", .string code)] ++ rewritten responseKeys entries) := by
    rw [← same]
    rfl
  rw [view]
  refine rewritten_kept (by decide) (by decide) _ (fun key outside => ?_) entries
  have other : ¬ "responseCode" = key := fun same => outside (by simp [same])
  simp [other]

theorem info_kept {v : Value} {i : Info} (read : Info.shape v = .ok i) : RecordKept infoKeys [] v i.toJson := by
  obtain ⟨entries, rfl, same⟩ := info_rewritten read
  rw [same]
  exact rewritten_kept (by decide) (by simp) [] (fun _ _ => rfl) entries

theorem tag_kept {v : Value} {t : Tag} (read : Tag.shape v = .ok t) : RecordKept tagKeys [] v t.toJson := by
  obtain ⟨entries, rfl, same⟩ := tag_rewritten read
  rw [same]
  exact rewritten_kept (by decide) (by simp) [] (fun _ _ => rfl) entries

/-! ## Parameters -/

/-- The key under which a parameter of a document declares its location. -/
def placeKey (document : Value) : String := if isVersionTwo document then "in" else "paramType"

/-- The pattern that names a parameter object, if it travels in a query and has one. -/
def patternOf? (placeKey : String) (object : Value) : Option Value :=
  if object.get? placeKey = some (.string "query") then notNull (object.get? "x-name-pattern") else none

/-- The known keys of a parameter that may be left out. -/
def optionalKeys : List String := Parameter.knownKeys.filter (· ≠ "required")

/-- A parameter object stands in a view with its keys. There `required` is always said, and `pattern` is the pattern
    that names the parameter, if there is one. -/
structure ParameterKept (placeKey : String) (object view : Value) : Prop where
  keys : RecordKept optionalKeys ("required" :: "pattern" :: derivedKeys) object view
  required : valuesUnder "required" view = [(object.get? "required").getD (.bool false)]
  named : ∀ pattern, patternOf? placeKey object = some pattern → valuesUnder "pattern" view = [pattern]
  unnamed : patternOf? placeKey object = none → valuesUnder "pattern" view = valuesUnder "pattern" object

theorem viewOf_members (document : ApiBindings.Document) (o : Options) (p : Parameter) :
    DerivedKeys.members (viewOf document o p).parameter = DerivedKeys.members p := by
  cases document with
  | declaration d =>
    obtain ⟨others, same⟩ := Locations.of_parameter p (p.paramType.bind Location.ofParamType) o.untyped
    rw [viewOf, declarationParameter, same]
    rfl
  | specification s =>
    obtain ⟨others, same⟩ := Locations.of_parameter p (p.place.bind Location.ofIn) (o.computed s (.parameter p))
    rw [viewOf, specificationParameter, same]
    rfl

/-- A parameter is in a query where its location is the text for it. -/
theorem viewOf_query {v : Value} {document : ApiBindings.Document} (read : Document.shape v = .ok document)
    (o : Options) {entries : Entries} {p : Parameter} (parameterRead : ParameterRead entries p) :
    (viewOf document o p).location = some .query ↔
      (Value.object entries).get? (placeKey v) = some (.string "query") := by
  rcases shape_version read with ⟨two, s, rfl, _⟩ | ⟨one, d, rfl, _⟩
  · have place := eq_some_iff (a := "query") (fun _ _ => Value.string.inj) nofun parameterRead.place
    rw [placeKey, if_pos two, ← place]
    show p.place.bind Location.ofIn = _ ↔ _
    rw [Option.bind_eq_some_iff]
    simp [Locations.ofIn_eq_some s, Locations.locationText]
  · have place := eq_some_iff (a := "query") (fun _ _ => Value.string.inj) nofun parameterRead.paramType
    rw [placeKey, if_neg (by simp [one]), ← place]
    show p.paramType.bind Location.ofParamType = _ ↔ _
    rw [Option.bind_eq_some_iff]
    simp [Locations.ofParamType_eq_some d, Locations.locationText]

/-- The pattern of a view is that of its object. -/
theorem viewOf_pattern {v : Value} {document : ApiBindings.Document} (read : Document.shape v = .ok document)
    (o : Options) {entries : Entries} {p : Parameter} (parameterRead : ParameterRead entries p) :
    (viewOf document o p).pattern.map .string = patternOf? (placeKey v) (.object entries) := by
  have given : (viewOf document o p).pattern =
      if (viewOf document o p).location = some .query then p.namePattern else none := by
    cases document <;> rfl
  rw [given, patternOf?]
  by_cases query : (viewOf document o p).location = some .query
  · rw [if_pos query, if_pos ((viewOf_query read o parameterRead).mp query), parameterRead.namePattern]
  · rw [if_neg query, if_neg (mt (viewOf_query read o parameterRead).mpr query)]
    rfl

/-- A view shows a parameter without a type: with its members and, but for a pattern that is derived, its others. -/
structure ShowsPlain (p : Parameter) (w : ParameterView) : Prop where
  members : DerivedKeys.members w.parameter = DerivedKeys.members p
  others : w.parameter.others = if w.pattern.isSome then p.others.without "pattern" else p.others
  untyped : w.computed.type = none

theorem bare_showsPlain {document : ApiBindings.Document} {o : Options} (none : o.converter = none) {p : Parameter}
    {w : ParameterView} (shown : bare w = viewOf document o p) : ShowsPlain p w := by
  have parameter : w.parameter = (viewOf document o p).parameter := congrArg (·.parameter) shown
  have pattern : w.pattern = (viewOf document o p).pattern := congrArg (·.pattern) shown
  have computed : w.computed = (viewOf document o p).computed := congrArg (·.computed) shown
  refine ⟨?_, ?_, ?_⟩
  · rw [parameter, viewOf_members]
  · rw [parameter, pattern, viewOf_others]
  · rw [computed, viewOf_untyped none]

/-- What a view without a type adds. -/
def addedTable (w : ParameterView) : List (String × Option Value) :=
  derivedBefore w ++ ("pattern", w.pattern.map .string) :: derivedBehind w

theorem addedTable_keys (w : ParameterView) :
    (addedTable w).map (·.1) = derivedKeys.take 9 ++ "pattern" :: derivedKeys.drop 9 := rfl

theorem showsPlain_values {p : Parameter} {w : ParameterView} (shown : ShowsPlain p w) (key : String) :
    valuesUnder key w.toJson = valuesIn key (written (DerivedKeys.members p)) ++ valuesIn key w.parameter.others ++
      valuesIn key (written (addedTable w)) := by
  have added : w.addedEntries = written (addedTable w) := by
    rw [addedEntries_eq, added]
    simp [written, addedTable, shown.untyped]
  show valuesIn key (w.parameter.toEntries ++ w.addedEntries) = _
  rw [added, toEntries_eq, shown.members, valuesIn_append, valuesIn_append]

/-- Under a key that is not derived stands what the parameter is written with. -/
theorem showsPlain_own {entries : Entries} {p : Parameter} (read : ParameterRead entries p) {w : ParameterView}
    (shown : ShowsPlain p w) {key : String} (outside : key ∉ "pattern" :: derivedKeys) :
    valuesUnder key w.toJson =
      if key ∈ Parameter.knownKeys then (written? (.object entries) key).toList else valuesIn key entries := by
  have keys : derivedKeys.take 9 ++ "pattern" :: derivedKeys.drop 9 ⊆ "pattern" :: derivedKeys := by decide
  have nothing : valuesIn key (written (addedTable w)) = [] :=
    valuesIn_written_other (by rw [addedTable_keys]; exact fun there => outside (keys there))
  have remaining : valuesIn key w.parameter.others = valuesIn key p.others := by
    have apart : key ≠ "pattern" := fun same => outside (by simp [same])
    rw [shown.others]
    split
    · exact valuesIn_without apart p.others
    · rfl
  rw [showsPlain_values shown, nothing, List.append_nil, remaining, ← valuesIn_append, parameter_values read]

/-- A pattern that is derived stands alone; else what the object has there is left. -/
theorem showsPlain_pattern {entries : Entries} {p : Parameter} (read : ParameterRead entries p) {w : ParameterView}
    (shown : ShowsPlain p w) : valuesUnder "pattern" w.toJson =
      match w.pattern.map Value.string with
      | some pattern => [pattern]
      | none => valuesIn "pattern" entries := by
  have listed : ("pattern", w.pattern.map .string) ∈ addedTable w := by simp [addedTable]
  have unknown : valuesIn "pattern" (written (DerivedKeys.members p)) = [] :=
    valuesIn_written_other (show "pattern" ∉ Parameter.knownKeys by decide)
  have own : valuesIn "pattern" p.others = valuesIn "pattern" entries := by
    have values := parameter_values read "pattern"
    rwa [valuesIn_append, unknown, List.nil_append, if_neg (by decide)] at values
  rw [showsPlain_values shown, unknown, List.nil_append,
    valuesIn_written (by rw [addedTable_keys]; decide) listed, shown.others]
  cases w.pattern with
  | none => simpa using own
  | some pattern => simp [valuesIn_without_self]

/-- A view of a parameter has the keys of the object that the parameter was read from. -/
theorem parameter_kept {v : Value} {document : ApiBindings.Document} (read : Document.shape v = .ok document)
    {o : Options} (none : o.converter = none) {object : Value} {p : Parameter}
    (shaped : Parameter.shape object = .ok p)
    {w : ParameterView} (shown : bare w = viewOf document o p) : ParameterKept (placeKey v) object w.toJson := by
  obtain ⟨entries, rfl, parameterRead⟩ := parameter_read shaped
  have plain := bare_showsPlain none shown
  have pattern : w.pattern.map .string = patternOf? (placeKey v) (.object entries) := by
    rw [← viewOf_pattern read o parameterRead, ← shown]
    rfl
  have patternValues := showsPlain_pattern parameterRead plain
  rw [pattern] at patternValues
  refine ⟨⟨fun key inside => ?_, fun key unknown outside => ?_⟩, ?_, fun text given => ?_, fun given => ?_⟩
  · have underived : ∀ key ∈ optionalKeys, key ∉ "pattern" :: derivedKeys := by decide
    obtain ⟨known, notRequired⟩ := List.mem_filter.mp inside
    rw [showsPlain_own parameterRead plain (underived key inside), if_pos known, written?,
      if_neg (of_decide_eq_true notRequired)]
  · have notRequired : key ≠ "required" := fun same => outside (by simp [same])
    have notKnown : key ∉ Parameter.knownKeys := fun known => unknown (List.mem_filter.mpr ⟨known, by simpa⟩)
    rw [showsPlain_own parameterRead plain fun derived => outside (List.mem_cons_of_mem _ derived), if_neg notKnown]
    rfl
  · rw [showsPlain_own parameterRead plain (by decide), if_pos (by decide)]
    rfl
  · rw [patternValues, given]
  · rw [patternValues, given]
    rfl

/-! ## Views of a document -/

/-- The objects of a document stand in its view with their keys: the parameter objects that the operations bind and
    the responses that they declare, one by one in the methods, and in a 2.0 document the info and the tags. -/
structure KeysSurvive (document view : Value) : Prop where
  parameters : List.Forall₂ (fun objects m =>
      List.Forall₂ (ParameterKept (placeKey document)) objects (itemsAt "parameters" m))
    (boundObjects document) (itemsAt "methods" view)
  responses : List.Forall₂ (fun responses m =>
      List.Forall₂ (fun (e : String × Value) r => RecordKept responseKeys ["responseCode"] e.2 r) responses
        (itemsAt "responses" m))
    (responseObjects document) (itemsAt "methods" view)
  info : isVersionTwo document = true → ∃ object info, document.get? "info" = some object ∧
    held? "info" view = some info ∧ RecordKept infoKeys [] object info
  tags : isVersionTwo document = true →
    List.Forall₂ (RecordKept tagKeys []) (itemsOf (document.get? "tags")) (itemsAt "tags" view)

theorem forall₂_trans {α β γ : Type} {R : α → β → Prop} {S : β → γ → Prop} {T : α → γ → Prop}
    (both : ∀ a b c, R a b → S b c → T a c) {as : List α} {bs : List β} {cs : List γ} (first : List.Forall₂ R as bs)
    (second : List.Forall₂ S bs cs) : List.Forall₂ T as cs := by
  induction first generalizing cs with
  | nil =>
    cases second
    exact .nil
  | cons here _ ih =>
    cases second with
    | cons there rest => exact .cons (both _ _ _ here there) (ih rest)

/-- The view of a 2.0 document has its info and its tags. -/
theorem specification_part {v : Value} {document : ApiBindings.Document} (read : Document.shape v = .ok document)
    (two : isVersionTwo v = true) {o : Options} {model : Model} (built : ofDocument document o = .ok model) :
    ∃ s part, SpecificationRead v s ∧ model.specification = some part ∧ part.info = s.info ∧ part.tags = s.tags := by
  rcases shape_version read with ⟨_, s, rfl, given⟩ | ⟨one, _⟩
  · obtain ⟨w, _, rfl⟩ := ok_of_map built
    exact ⟨s, _, given, rfl, rfl, rfl⟩
  · rw [two] at one
    cases one

/-- The keys of a document's objects survive into its view. -/
theorem keys_survive {v : Value} {document : ApiBindings.Document} (read : Document.ofValue v = .ok document)
    {o : Options} (none : o.converter = none) {model : Model} (built : ofDocument document o = .ok model) :
    KeysSurvive v model.toJson := by
  have shaped : Document.shape v = .ok document := ok_of_mapError read
  refine ⟨?_, ?_, fun two => ?_, fun two => ?_⟩
  · rw [methods_toJson, List.forall₂_map_right_iff]
    refine forall₂_trans ?_ (bindings_read shaped) (methods_parameters built)
    intro objects bound m objectsRead shown
    rw [← List.forall₂_eq_eq_eq, List.forall₂_map_left_iff, List.forall₂_map_right_iff] at shown
    rw [parameters_toJson, List.forall₂_map_right_iff]
    refine forall₂_trans ?_ objectsRead shown.flip
    intro object p w objectRead same
    exact parameter_kept shaped none objectRead same
  · rw [methods_toJson, List.forall₂_map_right_iff]
    refine forall₂_trans ?_ (declared_read shaped) (methods_responses built)
    intro objects responses m objectsRead shown
    rw [responses_toJson, shown, List.map_map, List.forall₂_map_right_iff]
    exact objectsRead.imp fun e r responseRead => response_kept responseRead.2 r.1
  · obtain ⟨s, part, given, has, info, _⟩ := specification_part shaped two built
    obtain ⟨object, here, infoRead⟩ := given.info
    refine ⟨object, s.info.toJson, here, ?_, info_kept infoRead⟩
    rw [info_toJson has, info]
  · obtain ⟨s, part, given, has, _, tags⟩ := specification_part shaped two built
    rw [tags_toJson has, tags, List.forall₂_map_right_iff]
    exact given.tags.imp fun _ _ => tag_kept

/-- A document with a shared parameter, one with a pattern and null members, and keys that have no meaning. -/
def annotatedPets : Value := .object [
  ("swagger", .string "2.0"),
  ("info", .object [("title", .string "Pets"), ("contact", .null)]),
  ("paths", .object [("/pets", .object [("get", .object [
    ("parameters", .array [
      .object [("$ref", .string "#/parameters/limit")],
      .object [("name", .string "tag"), ("in", .string "query"), ("description", .null), ("default", .null),
        ("pattern", .string "[a-z]"), ("x-name-pattern", .string "^tag")]]),
    ("responses", .object [("200", .object [("schema", .object []), ("headers", .array [])])])])])]),
  ("parameters", .object [("limit", .object [("name", .string "limit"), ("in", .string "query"),
    ("required", .bool true), ("maximum", .int 50)])]),
  ("tags", .array [.object [("name", .string "pets"), ("description", .null), ("x-order", .int 1)]])]

theorem keys_survive_annotated :
    ∃ document model, Document.ofValue annotatedPets = .ok document ∧ Options.default.converter = none ∧
      ofDocument document .default = .ok model ∧
      (boundObjects annotatedPets).map (List.map (valuesUnder "name")) = [[[.string "limit"], [.string "tag"]]] ∧
      ((itemsAt "methods" model.toJson).flatMap fun m => (itemsAt "parameters" m).map (valuesUnder "pattern")) =
        [[], [.string "^tag"]] ∧
      ((itemsAt "methods" model.toJson).flatMap fun m => (itemsAt "parameters" m).map (valuesUnder "default")) =
        [[], [.null]] ∧
      KeysSurvive annotatedPets model.toJson := by
  have read : Document.ofValue annotatedPets = .ok (.specification _) := rfl
  refine ⟨_, _, read, rfl, rfl, ?_, ?_, ?_, keys_survive read rfl rfl⟩
  · decide +kernel
  · decide +kernel
  · decide +kernel

end ApiBindings.Survival
