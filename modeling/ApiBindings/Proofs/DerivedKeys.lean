import ApiBindings.Proofs.Bindings

/-!
# Derived keys in views

The view of a parameter holds the entries of the parameter, those without a meaning among them, and beside these
what it derives under keys of its own. The two are not kept apart: under a derived key stand the values that the
document gives it, then the derived one (`views_echo`). So a view says exactly what was derived if and only if the
parameter has no entry under a derived key. The same goes for the status key of a response. Only `pattern` is taken
from the document's entries where one is derived.
-/

namespace ApiBindings.DerivedKeys
open ApiBindings.Document ApiBindings.View ApiBindings.Walks ApiBindings.Bindings
open ApiBindings.Json (Value Entries)

/-! ## Values under a key -/

/-- The values that entries hold under a key, in order. -/
def valuesIn (key : String) (entries : Entries) : List Value :=
  entries.filterMap fun (k, v) => if k = key then some v else none

/-- The values that an object holds under a key, in order. -/
def valuesUnder (key : String) (object : Value) : List Value := valuesIn key (object.entries?.getD [])

theorem valuesIn_append (key : String) (front back : Entries) :
    valuesIn key (front ++ back) = valuesIn key front ++ valuesIn key back := List.filterMap_append

theorem valuesIn_eq_nil (key : String) (entries : Entries) :
    valuesIn key entries = [] ↔ key ∉ entries.map (·.1) := by
  simp only [valuesIn, List.filterMap_eq_nil_iff, List.mem_map, not_exists, not_and]
  refine forall_congr' fun e => forall_congr' fun _ => ?_
  simp

theorem valuesIn_without {key other : String} (apart : key ≠ other) (entries : Entries) :
    valuesIn key (entries.without other) = valuesIn key entries := by
  rw [valuesIn, Entries.without, List.filterMap_filter, valuesIn]
  refine List.filterMap_congr fun e _ => ?_
  by_cases here : e.1 = key
  · simp [here, apart]
  · simp [here]

theorem valuesIn_without_self (key : String) (entries : Entries) : valuesIn key (entries.without key) = [] := by
  rw [valuesIn_eq_nil]
  simp [Entries.without]

/-! ## Tables of entries -/

/-- The entries of a table of keys with values; a key without a value is not written. -/
def written (table : List (String × Option Value)) : Entries :=
  table.flatMap fun (k, v?) => (v?.map fun v => (k, v)).toList

theorem key_of_written {table : List (String × Option Value)} {e : String × Value} (inside : e ∈ written table) :
    e.1 ∈ table.map (·.1) := by
  obtain ⟨⟨k, v?⟩, listed, here⟩ := List.mem_flatMap.mp inside
  obtain ⟨v, _, rfl⟩ := Option.map_eq_some_iff.mp (Option.mem_toList.mp here)
  exact List.mem_map_of_mem listed

theorem valuesIn_written_other {key : String} {table : List (String × Option Value)} (other : key ∉ table.map (·.1)) :
    valuesIn key (written table) = [] := by
  rw [valuesIn_eq_nil]
  intro there
  obtain ⟨e, inside, rfl⟩ := List.mem_map.mp there
  exact other (key_of_written inside)

/-- Under a key of a table whose keys are different stands its value alone, if it has one. -/
theorem valuesIn_written {table : List (String × Option Value)} (distinct : (table.map (·.1)).Nodup) {key : String}
    {v? : Option Value} (listed : (key, v?) ∈ table) : valuesIn key (written table) = v?.toList := by
  induction table with
  | nil => cases listed
  | cons e table ih =>
    rw [List.map_cons, List.nodup_cons] at distinct
    obtain ⟨new, distinct⟩ := distinct
    rw [written, List.flatMap_cons, valuesIn_append]
    rcases List.mem_cons.mp listed with rfl | later
    · have rest := valuesIn_written_other new
      rw [written] at rest
      rw [rest, List.append_nil]
      cases v? <;> simp [valuesIn]
    · have here : e.1 ≠ key := by
        rintro rfl
        exact new (List.mem_map.mpr ⟨_, later, rfl⟩)
      have rest := ih distinct later
      rw [written] at rest
      rw [rest]
      cases e.2 <;> simp [valuesIn, here]

/-! ## The entries of a view -/

/-- A flag as a value: only one that is set has one. -/
def flag (b : Bool) : Option Value := if b then some (.bool true) else none

/-- The members of a parameter with a meaning. -/
def members (p : Parameter) : List (String × Option Value) := [
  ("name", some (.string p.name)), ("in", p.place.map .string), ("paramType", p.paramType.map .string),
  ("description", p.description.map .string), ("required", some (.bool p.required)), ("type", p.type.map .string),
  ("format", p.format.map .string), ("enum", p.enum.map .array), ("items", p.items),
  ("schema", p.schema.map .object), ("x-exclude-from-bindings", p.excluded.map .bool),
  ("x-proxy-header", p.proxyHeader), ("x-name-pattern", p.namePattern.map .string)]

/-- What a view derives before the pattern. -/
def derivedBefore (v : ParameterView) : List (String × Option Value) := [
  ("camelCaseName", some (.string v.camelCaseName)), ("isBodyParameter", flag v.isBodyParameter),
  ("isPathParameter", flag v.isPathParameter), ("isQueryParameter", flag v.isQueryParameter),
  ("isHeaderParameter", flag v.isHeaderParameter), ("isFormParameter", flag v.isFormParameter),
  ("isSingleton", flag v.isSingleton), ("singleton", v.singleton), ("isPatternType", flag v.isPatternType)]

/-- What a view derives behind the pattern. -/
def derivedBehind (v : ParameterView) : List (String × Option Value) := [
  ("cardinality", some (.string v.cardinality)), ("notFirstParameter", flag v.notFirstParameter),
  ("notFirstByIn", flag v.notFirstByIn)]

/-- What a view derives, under which keys; a key without a value is not written. -/
def derived (v : ParameterView) : List (String × Option Value) := derivedBefore v ++ derivedBehind v

/-- The keys that a view derives. -/
def derivedKeys : List String := [
  "camelCaseName", "isBodyParameter", "isPathParameter", "isQueryParameter", "isHeaderParameter", "isFormParameter",
  "isSingleton", "singleton", "isPatternType", "cardinality", "notFirstParameter", "notFirstByIn"]

theorem derived_keys (v : ParameterView) : (derived v).map (·.1) = derivedKeys := rfl

/-- All that a view adds to the entries of its parameter. -/
def added (v : ParameterView) : List (String × Option Value) :=
  derivedBefore v ++ ("pattern", v.pattern.map .string) :: derivedBehind v ++ [(v.computed.key, v.computed.type)]

theorem entry?_eq {α : Type} (key : String) (toJson : α → Value) (value : Option α) :
    Parameter.entry? key toJson value = ((value.map toJson).map fun v => (key, v)).toList := by
  rw [Parameter.entry?, Option.map_map]
  rfl

theorem flagEntry_eq (key : String) (b : Bool) :
    ParameterView.flagEntry key b = ((flag b).map fun v => (key, v)).toList := by
  cases b <;> rfl

theorem toEntries_eq (p : Parameter) : p.toEntries = written (members p) ++ p.others := by
  simp [Parameter.toEntries, written, members, entry?_eq]

theorem addedEntries_eq (v : ParameterView) : v.addedEntries = written (added v) := by
  simp [ParameterView.addedEntries, written, added, derivedBefore, derivedBehind, entry?_eq, flagEntry_eq,
    Computed.toEntries]

/-- The keys of a view are different if that of the type is. -/
theorem added_distinct {v : ParameterView} (typed : v.computed.key ∉ "pattern" :: derivedKeys) :
    ((added v).map (·.1)).Nodup := by
  have keys : (added v).map (·.1) =
      (derivedKeys.take 9 ++ "pattern" :: derivedKeys.drop 9) ++ [v.computed.key] := rfl
  have own : derivedKeys.take 9 ++ "pattern" :: derivedKeys.drop 9 ⊆ "pattern" :: derivedKeys := by decide
  rw [keys, List.nodup_append]
  refine ⟨by decide, List.nodup_singleton _, ?_⟩
  rintro key there _ last rfl
  rw [List.mem_singleton.mp last] at there
  exact typed (own there)

/-- Under a key that a view adds stand the values that its parameter has there, then its own. -/
theorem view_values {v : ParameterView} (typed : v.computed.key ∉ "pattern" :: derivedKeys) {key : String}
    {value? : Option Value} (listed : (key, value?) ∈ added v) (free : key ∉ Parameter.knownKeys) :
    valuesUnder key v.toJson = valuesIn key v.parameter.others ++ value?.toList := by
  have known : valuesIn key (written (members v.parameter)) = [] := valuesIn_written_other free
  show valuesIn key (v.parameter.toEntries ++ v.addedEntries) = _
  rw [toEntries_eq, addedEntries_eq, valuesIn_append, valuesIn_append, known, List.nil_append,
    valuesIn_written (added_distinct typed) listed]

theorem derivedKeys_free : ∀ key ∈ derivedKeys, key ∉ Parameter.knownKeys ∧ key ≠ "pattern" := by decide

theorem mem_added {v : ParameterView} {e : String × Option Value} (listed : e ∈ derived v) : e ∈ added v := by
  rcases List.mem_append.mp listed with before | behind
  · simp [added, before]
  · simp [added, behind]

theorem mem_derivedKeys {v : ParameterView} {e : String × Option Value} (listed : e ∈ derived v) :
    e.1 ∈ derivedKeys := by
  rw [← derived_keys v]
  exact List.mem_map_of_mem listed

/-! ## Views of the parameters of a document -/

/-- A view says under each derived key what was derived and nothing else. -/
def Exact (v : ParameterView) : Prop := ∀ e ∈ derived v, valuesUnder e.1 v.toJson = e.2.toList

instance (v : ParameterView) : Decidable (Exact v) := List.decidableBAll _ _

/-- A view of a parameter says under a derived key what the document gives the parameter there, and then what was
    derived; so it is exact if and only if the document gives nothing there. A pattern that is derived stands alone
    under its key. -/
structure Echoes (p : Parameter) (v : ParameterView) : Prop where
  derived : ∀ e ∈ derived v, valuesUnder e.1 v.toJson = valuesIn e.1 p.others ++ e.2.toList
  exact_iff : Exact v ↔ ∀ key ∈ derivedKeys, key ∉ p.others.map (·.1)
  pattern : v.pattern.isSome → valuesUnder "pattern" v.toJson = (v.pattern.map .string).toList

theorem of_others (p : Parameter) (l : Option Location) (c : Computed) :
    (ParameterView.of p l c).parameter.others =
      if (ParameterView.of p l c).pattern.isSome then p.others.without "pattern" else p.others := by
  unfold ParameterView.of
  dsimp only
  cases (if l = some .query then p.namePattern else none) with
  | none => rfl
  | some pattern => rfl

theorem viewOf_others (document : Document) (o : Options) (p : Parameter) :
    (viewOf document o p).parameter.others =
      if (viewOf document o p).pattern.isSome then p.others.without "pattern" else p.others := by
  cases document <;> exact of_others p _ _

theorem viewOf_typed (document : Document) (o : Options) (p : Parameter) :
    (viewOf document o p).computed.key = o.typeKey := by
  cases document <;> rfl

theorem viewOf_untyped {o : Options} (unconverted : o.converter = none) (document : Document) (p : Parameter) :
    (viewOf document o p).computed.type = none := by
  cases document with
  | declaration d => rfl
  | specification s =>
    rw [viewOf, specificationParameter]
    show (o.answers s).map _ = _
    rw [Options.answers, unconverted]
    rfl

theorem bare_echoes {document : Document} {o : Options} (typed : o.typeKey ∉ "pattern" :: derivedKeys)
    {p : Parameter} {v : ParameterView} (shown : bare v = viewOf document o p) : Echoes p v := by
  have key : v.computed.key ∉ "pattern" :: derivedKeys := by
    have same : v.computed = (viewOf document o p).computed := congrArg (·.computed) shown
    rwa [same, viewOf_typed]
  have others : v.parameter.others = if v.pattern.isSome then p.others.without "pattern" else p.others := by
    have parameter : v.parameter = (viewOf document o p).parameter := congrArg (·.parameter) shown
    have pattern : v.pattern = (viewOf document o p).pattern := congrArg (·.pattern) shown
    rw [parameter, pattern, viewOf_others]
  have derives : ∀ e ∈ DerivedKeys.derived v, valuesUnder e.1 v.toJson = valuesIn e.1 p.others ++ e.2.toList := by
    intro e listed
    obtain ⟨free, apart⟩ := derivedKeys_free e.1 (mem_derivedKeys listed)
    rw [view_values key (mem_added listed) free, others]
    split
    · rw [valuesIn_without apart]
    · rfl
  refine ⟨derives, ?_, ?_⟩
  · constructor
    · intro exact key own
      rw [← derived_keys v] at own
      obtain ⟨e, listed, rfl⟩ := List.mem_map.mp own
      rw [← valuesIn_eq_nil]
      exact List.append_left_eq_self.mp ((derives e listed).symm.trans (exact e listed))
    · intro free e listed
      rw [derives e listed, (valuesIn_eq_nil _ _).mpr (free e.1 (mem_derivedKeys listed)), List.nil_append]
  · intro computed
    have listed : ("pattern", v.pattern.map .string) ∈ added v := by simp [added]
    rw [view_values key listed (by decide), others, if_pos computed, valuesIn_without_self, List.nil_append]

/-! ## Views of responses -/

/-- The responses that the operations of a document declare, one by one in document order; those that become no
    method are left out. -/
def declared : Document → List (List (String × Response))
  | .declaration d => d.apis.flatMap fun api => (boundOperations api).map fun _ => []
  | .specification s => s.paths.flatMap fun (_, item) => item.operations.map fun (_, op) => op.responses

/-- A view of a response says its status key under `responseCode`, and then what the document gives the response
    there; so it says the status key alone if and only if the document gives nothing there. -/
structure EchoesCode (declared : String × Response) (v : ResponseView) : Prop where
  values : valuesUnder "responseCode" v.toJson = .string declared.1 :: valuesIn "responseCode" declared.2.others
  exact_iff : valuesUnder "responseCode" v.toJson = [.string declared.1] ↔
    "responseCode" ∉ declared.2.others.map (·.1)

theorem echoesCode (code : String) (r : Response) : EchoesCode (code, r) ⟨code, r⟩ := by
  have known : valuesIn "responseCode" (written [("description", r.description.map .string),
      ("schema", r.schema.map .object)]) = [] := valuesIn_written_other (by simp)
  have entries : r.toEntries =
      written [("description", r.description.map .string), ("schema", r.schema.map .object)] ++ r.others := by
    simp [Response.toEntries, written, entry?_eq]
  have values : valuesUnder "responseCode" (ResponseView.toJson ⟨code, r⟩) =
      .string code :: valuesIn "responseCode" r.others := by
    show valuesIn "responseCode" ([("responseCode", .string code)] ++ r.toEntries) = _
    rw [entries, valuesIn_append, valuesIn_append, known]
    rfl
  refine ⟨values, ?_⟩
  rw [values, ← valuesIn_eq_nil]
  simp

theorem shows_responses {s : Specification} {o : Options} {e : Endpoint} {m : Method} (shown : Shows s o e m) :
    m.responses = e.operation.responses.map fun (code, r) => ⟨code, r⟩ := by
  obtain ⟨bound, _, same⟩ := shown.method
  rw [same]
  exact congrArg Prod.fst (responsesOf_eq s o e.operation)

theorem showsApi_responses {d : Declaration} {o : Options} {e : ApiEndpoint} {m : Method}
    (shown : ShowsApi d o e m) : m.responses = [] := by
  rw [shown]
  rfl

/-- The responses of the methods are views of what the operations declare. -/
theorem methods_responses {document : Document} {o : Options} {model : Model}
    (built : ofDocument document o = .ok model) :
    List.Forall₂ (fun responses m => m.responses = responses.map fun (code, r) => ⟨code, r⟩) (declared document)
      model.methods := by
  cases document with
  | declaration d =>
    cases built
    rw [declared, ← map_apiEndpoints, List.forall₂_map_left_iff]
    exact (walkDeclaration_shows d o).imp fun _ _ => showsApi_responses
  | specification s =>
    obtain ⟨w, run, rfl⟩ := ok_of_map built
    have listed := map_endpoints s fun e => e.operation.responses
    rw [declared, ← listed, List.forall₂_map_left_iff]
    exact (walk_shows run).imp fun _ _ => shows_responses

/-! ## Views of a document -/

/-- The views of a document echo what it gives under their derived keys: those of parameters, whether they stand in
    the list of a method or by location, and those of responses. -/
structure ViewsEcho (document : Document) (model : Model) : Prop where
  parameters : List.Forall₂ (fun bound m => List.Forall₂ Echoes bound m.parameters) (bindings document) model.methods
  located : ∀ m ∈ model.methods, ∀ l, ∀ v ∈ m.byIn.bucket l, v ∈ m.parameters
  responses : List.Forall₂ (fun responses m => List.Forall₂ EchoesCode responses m.responses) (declared document)
    model.methods

/-- Under the keys that views derive stand, besides what is derived, the values that the document gives there, and
    nothing else; what is derived stands alone exactly where the document gives nothing under these keys. -/
theorem views_echo {document : Document} {o : Options} {model : Model} (built : ofDocument document o = .ok model)
    (typed : o.typeKey ∉ "pattern" :: derivedKeys) : ViewsEcho document model where
  parameters := by
    refine (methods_parameters built).imp fun bound m shown => ?_
    rw [← List.forall₂_eq_eq_eq, List.forall₂_map_left_iff, List.forall₂_map_right_iff] at shown
    exact shown.flip.imp fun _ _ => bare_echoes typed
  located m member _ _ := bucket_listed built member
  responses := by
    refine (methods_responses built).imp fun responses m shown => ?_
    rw [shown, List.forall₂_map_right_iff]
    exact List.forall₂_same.mpr fun r _ => echoesCode r.1 r.2

/-- A document in which a parameter gives itself a flag and a name, and a response a status key. -/
def forgedKeys : Specification :=
  pathsOnly [("/files", ⟨[], [(.get, { blankOperation with
    parameters := [.inline { plainParameter "filter" (some "query") with
      others := [("isBodyParameter", .bool true), ("camelCaseName", .string "other")] }]
    responses := [("200", ⟨none, none, [("responseCode", .string "999")]⟩)] })]⟩)]

theorem views_echo_forged :
    ∃ model, ofDocument (.specification forgedKeys) .default = .ok model ∧
      Options.default.typeKey ∉ "pattern" :: derivedKeys ∧ ViewsEcho (.specification forgedKeys) model := by
  have built : ofDocument (.specification forgedKeys) .default = .ok (modelOf forgedKeys .default _) := rfl
  have typed : Options.default.typeKey ∉ "pattern" :: derivedKeys := by decide
  exact ⟨_, built, typed, views_echo built typed⟩

/-- Views do not say exactly what was derived: a flag that is not set stands in one, a name stands in it twice, and
    a response has two status keys. -/
theorem forged_views :
    ∃ model, ofDocument (.specification forgedKeys) .default = .ok model ∧
      Options.default.typeKey ∉ "pattern" :: derivedKeys ∧
      (∃ m ∈ model.methods, ∃ v ∈ m.parameters, v.isBodyParameter = false ∧
        valuesUnder "isBodyParameter" v.toJson = [.bool true] ∧
        valuesUnder "camelCaseName" v.toJson = [.string "other", .string "filter"] ∧ ¬ Exact v) ∧
      ∃ m ∈ model.methods, ∃ r ∈ m.responses, r.code = "200" ∧
        valuesUnder "responseCode" r.toJson = [.string "200", .string "999"] := by
  have built : ofDocument (.specification forgedKeys) .default = .ok (modelOf forgedKeys .default _) := rfl
  exact ⟨_, built, by decide, by decide +kernel, by decide +kernel⟩

end ApiBindings.DerivedKeys
