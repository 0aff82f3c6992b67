import ApiBindings.Proofs.LastWritten

/-!
# Attached types

A converter gives parameters, returned schemas, definitions and properties their types, and a view writes each under
the key that the caller chose, behind all other entries of its object. So what stands there is the type of the right
node, whatever the key is, in every place of the view where the object is written (`types_attached`). The other keys
of definitions and properties keep what they say unless the caller takes one of them.
-/

namespace ApiBindings.AttachedTypes
open ApiBindings.Document ApiBindings.View ApiBindings.Walks ApiBindings.Locations ApiBindings.LastWritten
open ApiBindings.Bindings (bare binding? shows_parameters)
open ApiBindings.Json (Value Entries)

/-! ## Types in JSON -/

/-- The parameters that an endpoint binds, references resolved. -/
def boundTo (s : Specification) (e : Endpoint) : List Parameter :=
  (entriesOf e.item e.operation).filterMap (binding? s)

/-- A method says the types of an endpoint: of each parameter, in its list and by location, and of the schema that
    the endpoint returns. -/
structure MethodTyped (s : Specification) (typeKey : String) (types : TypeNode → Value) (e : Endpoint)
    (method : Value) : Prop where
  parameters : List.Forall₂ (fun p v => held? typeKey v = some (types (.parameter p))) (boundTo s e)
    (itemsAt "parameters" method)
  located : ∀ l, ∃ index, held? "byIn" method = some index ∧
    List.Forall₂ (fun p v => held? typeKey v = some (types (.parameter p)))
      ((boundTo s e).filter fun p => p.place = some (locationText (.specification s) l))
      (itemsAt (locationText (.specification s) l) index)
  returns : ∀ schema, returned? e.operation.responses = some schema →
    ∃ r, held? "return" method = some r ∧ held? typeKey r = some (types (.schema schema))

/-- A property says its name, its schema as it stands, and its type if it is an object. -/
structure PropertyTyped (typeKey : String) (types : TypeNode → Value) (p : String × Value)
    (property : Value) : Prop where
  name : held? "name" property = some (.string p.1)
  schema : held? "schema" property = some p.2
  type : held? typeKey property = p.2.entries?.map fun entries => types (.schema entries)

/-- A definition keeps its name, and its properties if they are an object. -/
structure DefinitionKept (typeKey : String) (types : TypeNode → Value) (d : String × Entries)
    (definition : Value) : Prop where
  name : held? "name" definition = some (.string d.1)
  without : (d.2.find? "properties").bind Value.entries? = none → held? "properties" definition = none
  properties : ∀ ps, (d.2.find? "properties").bind Value.entries? = some ps →
    ∃ items, held? "properties" definition = some (.array items) ∧ List.Forall₂ (PropertyTyped typeKey types) ps items

/-- The keys of definitions and properties that a caller can take for types. -/
def definitionKeys : List String := ["name", "description", "properties", "schema"]

/-- A definition says its type, and all else if types have a key of their own. -/
structure DefinitionTyped (typeKey : String) (types : TypeNode → Value) (d : String × Entries)
    (definition : Value) : Prop where
  type : held? typeKey definition = some (types (.schema d.2))
  kept : typeKey ∉ definitionKeys → DefinitionKept typeKey types d definition

/-- A view in JSON says the types of a document: its methods one by one, the methods of each group, which are those
    of the endpoints with these tags, and the definitions one by one. -/
structure TypesAttached (s : Specification) (typeKey : String) (types : TypeNode → Value) (view : Value) : Prop where
  methods : List.Forall₂ (MethodTyped s typeKey types) (endpoints s) (itemsAt "methods" view)
  groups : ∀ g ∈ itemsAt "byTags" view, ∃ name, held? "name" g = some (.string name) ∧
    List.Forall₂ (MethodTyped s typeKey types) ((endpoints s).filter fun e => groupName e.operation.tags = name)
      (itemsAt "methods" g)
  definitions : List.Forall₂ (DefinitionTyped typeKey types) s.definitions (itemsAt "definitions" view)

/-- A type stands behind all other entries, so it is what its object holds. -/
theorem held?_type {object : Value} {front : Entries} {typed : Computed} {typeKey : String} {type : Value}
    (same : object = .object (front ++ typed.toEntries)) (given : typed = ⟨typeKey, some type⟩) :
    held? typeKey object = some type := by
  rw [same, given]
  exact held?_last typeKey front type

theorem computed_eq {s : Specification} {o : Options} {types : TypeNode → Value} (answers : o.answers s = some types)
    (node : TypeNode) : o.computed s node = ⟨o.typeKey, some (types node)⟩ := by
  rw [Options.computed, answers]
  rfl

/-! ## Methods -/

/-- A view shows a parameter: it has its type and its location. -/
structure Views (s : Specification) (o : Options) (p : Parameter) (v : ParameterView) : Prop where
  computed : v.computed = o.computed s (.parameter p)
  location : v.location = p.place.bind Location.ofIn

theorem shows_views {s : Specification} {o : Options} {e : Endpoint} {m : Method} (shown : Shows s o e m) :
    List.Forall₂ (Views s o) (boundTo s e) m.parameters := by
  have same : m.parameters.map bare = (boundTo s e).map (specificationParameter s o) := shows_parameters shown
  rw [← List.forall₂_eq_eq_eq, List.forall₂_map_left_iff, List.forall₂_map_right_iff] at same
  exact same.flip.imp fun p v equal => ⟨congrArg (·.computed) equal, congrArg (·.location) equal⟩

theorem shows_arranged {s : Specification} {o : Options} {e : Endpoint} {m : Method} (shown : Shows s o e m) :
    Arranged (.specification s) m.parameters m.byIn := by
  obtain ⟨bound, _, same⟩ := shown.method
  rw [same]
  exact place_arranged (.specification s) o bound

/-- What a method has at a location are the views of the parameters there. -/
theorem shows_located {s : Specification} {o : Options} {e : Endpoint} {m : Method} (shown : Shows s o e m)
    (l : Location) :
    List.Forall₂ (Views s o) ((boundTo s e).filter fun p => p.place = some (locationText (.specification s) l))
      (m.byIn.bucket l) := by
  rw [(shows_arranged shown).bucket l]
  -- The two lists are filtered side by side, since a view stands where its parameter says.
  refine List.rel_filter ?_ (shows_views shown)
  intro p v views
  simp only [decide_eq_true_eq, views.location]
  cases p.place with
  | none => simp
  | some text => simp [ofIn_eq_some s]

theorem shows_tagGroup {s : Specification} {o : Options} {e : Endpoint} {m : Method} (shown : Shows s o e m) :
    m.tagGroup = some (groupName e.operation.tags) := by
  obtain ⟨bound, _, same⟩ := shown.method
  rw [same]
  rfl

theorem view_typed {s : Specification} {o : Options} {types : TypeNode → Value} (answers : o.answers s = some types)
    {p : Parameter} {v : ParameterView} (views : Views s o p v) :
    held? o.typeKey v.toJson = some (types (.parameter p)) := by
  have same : v.toJson = .object (v.parameter.toEntries ++ v.addedEntries) := rfl
  rw [ParameterView.addedEntries, ← List.append_assoc] at same
  exact held?_type same (views.computed.trans (computed_eq answers _))

theorem views_typed {s : Specification} {o : Options} {types : TypeNode → Value} (answers : o.answers s = some types)
    {bound : List Parameter} {list : List ParameterView} (views : List.Forall₂ (Views s o) bound list) :
    List.Forall₂ (fun p v => held? o.typeKey v = some (types (.parameter p))) bound
      (list.map ParameterView.toJson) := by
  rw [List.forall₂_map_right_iff]
  exact views.imp fun _ _ => view_typed answers

/-- The method of an endpoint says its types. -/
theorem shows_typed {s : Specification} {o : Options} {types : TypeNode → Value} (answers : o.answers s = some types)
    {e : Endpoint} {m : Method} (shown : Shows s o e m) : MethodTyped s o.typeKey types e m.toJson where
  parameters := by
    rw [parameters_toJson]
    exact views_typed answers (shows_views shown)
  located l := by
    refine ⟨m.byIn.toJson, index_toJson m, ?_⟩
    rw [bucket_toJson]
    exact views_typed answers (shows_located shown l)
  returns schema first := by
    have returns : m.returns = some (.schema schema (o.computed s (.schema schema))) := by
      rw [shows_returns shown, responsesOf_eq, first]
      rfl
    refine ⟨(ReturnView.schema schema (o.computed s (.schema schema))).toJson, ?_, ?_⟩
    · rw [return_toJson, returns]
      rfl
    · exact held?_type rfl (computed_eq answers _)

/-! ## Definitions -/

theorem property_typed {s : Specification} {o : Options} {types : TypeNode → Value}
    (answers : o.answers s = some types) (apart : o.typeKey ∉ definitionKeys) (name : String) (schema : Value) :
    PropertyTyped o.typeKey types (name, schema) (propertyView s o name schema).toJson := by
  simp only [definitionKeys, List.mem_cons, not_or] at apart
  obtain ⟨notName, _, _, notSchema, _⟩ := apart
  obtain ⟨computed, key, same⟩ : ∃ computed : Computed, computed.key = o.typeKey ∧
      propertyView s o name schema = ⟨name, schema, computed⟩ := ⟨_, by cases schema <;> rfl, rfl⟩
  refine ⟨?_, ?_, ?_⟩
  · simp [same, PropertyView.toJson, held?_object, key, notName]
  · simp [same, PropertyView.toJson, held?_object, key, notSchema]
  · cases schema with
    | object entries => exact held?_type rfl (computed_eq answers _)
    | _ => simp [PropertyView.toJson, held?_object, propertyView, Options.untyped, Value.entries?, Ne.symm notName,
        Ne.symm notSchema]

theorem definition_kept {s : Specification} {o : Options} {types : TypeNode → Value}
    (answers : o.answers s = some types) (apart : o.typeKey ∉ definitionKeys) (name : String) (schema : Entries) :
    DefinitionKept o.typeKey types (name, schema) (definitionView s o name schema).toJson := by
  have keys := apart
  simp only [definitionKeys, List.mem_cons, not_or] at keys
  obtain ⟨notName, _, notProperties, _⟩ := keys
  refine ⟨?_, fun none => ?_, fun ps given => ?_⟩
  · simp [DefinitionView.toJson, held?_object, definitionView, Options.computed, notName]
  · simp [DefinitionView.toJson, held?_object, definitionView, Options.computed, notProperties, none]
  · refine ⟨ps.map fun p => (propertyView s o p.1 p.2).toJson, ?_, ?_⟩
    · simp [DefinitionView.toJson, held?_object, definitionView, Options.computed, notProperties, given,
        Function.comp_def]
    · rw [List.forall₂_map_right_iff]
      exact List.forall₂_same.mpr fun p _ => property_typed answers apart p.1 p.2

theorem definition_typed {s : Specification} {o : Options} {types : TypeNode → Value}
    (answers : o.answers s = some types) (name : String) (schema : Entries) :
    DefinitionTyped o.typeKey types (name, schema) (definitionView s o name schema).toJson where
  type := by
    have last : (definitionView s o name schema).toJson =
        .object (_ ++ (definitionView s o name schema).computed.toEntries) :=
      congrArg Value.object (List.cons_append ..).symm
    exact held?_type last (computed_eq answers _)
  kept apart := definition_kept answers apart name schema

/-! ## Views without types -/

/-- Nothing is attached to the parameters of a method, in its list or by location, nor to a schema that it returns. -/
structure MethodUntyped (m : Method) : Prop where
  parameters : ∀ v ∈ m.parameters, v.computed.toEntries = []
  located : ∀ l, ∀ v ∈ m.byIn.bucket l, v.computed.toEntries = []
  returns : ∀ schema computed, m.returns = some (.schema schema computed) → computed.toEntries = []

/-- Nothing is attached anywhere: not in a method or in a copy of one in a group, and not to a definition or to a
    property of one. -/
structure Untyped (model : Model) : Prop where
  methods : ∀ m ∈ model.methods, MethodUntyped m
  groups : ∀ part, model.specification = some part → ∀ g ∈ part.byTags, ∀ m ∈ g.methods, MethodUntyped m
  definitions : ∀ d ∈ model.definitions, d.computed.toEntries = []
  properties : ∀ d ∈ model.definitions, ∀ ps, d.properties = some ps → ∀ p ∈ ps, p.computed.toEntries = []

theorem untyped_toEntries {o : Options} (none : o.converter = none) (s : Specification) (node : TypeNode) :
    (o.computed s node).toEntries = [] := by
  rw [Options.computed, Options.answers, none]
  rfl

theorem shows_untyped {s : Specification} {o : Options} (none : o.converter = none) {e : Endpoint} {m : Method}
    (shown : Shows s o e m) : MethodUntyped m := by
  have parameters : ∀ v ∈ m.parameters, v.computed.toEntries = [] := by
    intro v member
    obtain ⟨p, _, views⟩ := exists_of_forall₂ (shows_views shown) member
    rw [views.computed, untyped_toEntries none s]
  refine ⟨parameters, ?_, ?_⟩
  · intro l v inside
    rw [(shows_arranged shown).bucket l] at inside
    exact parameters v (List.mem_filter.mp inside).1
  · intro schema computed returns
    rw [shows_returns shown, responsesOf_eq] at returns
    cases first : returned? e.operation.responses with
    | none => cases o.defaultType <;> simp [first] at returns
    | some schema' =>
      rw [first] at returns
      cases returns
      exact untyped_toEntries none s _

theorem property_untyped {o : Options} (none : o.converter = none) (s : Specification) (name : String)
    (schema : Value) : (propertyView s o name schema).computed.toEntries = [] := by
  cases schema with
  | object entries => exact untyped_toEntries none s _
  | _ => rfl

/-! ## Views s of a document -/

/-- A view shows a document: its methods show the endpoints, those of a group the endpoints with these tags, and its
    definitions are those of the document. -/
structure ShowsDocument (s : Specification) (o : Options) (model : Model) (part : SpecificationPart) : Prop where
  specification : model.specification = some part
  methods : List.Forall₂ (Shows s o) (endpoints s) model.methods
  groups : ∀ g ∈ part.byTags,
    List.Forall₂ (Shows s o) ((endpoints s).filter fun e => groupName e.operation.tags = g.name) g.methods
  definitions : model.definitions = s.definitions.map fun d => definitionView s o d.1 d.2

theorem document_shown {s : Specification} {o : Options} {model : Model}
    (built : ofDocument (.specification s) o = .ok model) : ∃ part, ShowsDocument s o model part := by
  obtain ⟨w, run, rfl⟩ := ok_of_map built
  have shown := walk_shows run
  have partition := TagGroups.grouped_partition (TagGroups.walk_grouped run) (TagGroups.walk_tagGroup run)
  refine ⟨_, rfl, shown, fun g group => ?_, rfl⟩
  -- Endpoints and methods are filtered side by side, by the same name.
  rw [partition.members g group]
  exact List.rel_filter (fun e m shown => by simp [shows_tagGroup shown]) shown

/-- With a converter a view that shows a document says its types. -/
theorem document_typed {s : Specification} {o : Options} {model : Model} {part : SpecificationPart}
    (shown : ShowsDocument s o model part) {types : TypeNode → Value} (answers : o.answers s = some types) :
    TypesAttached s o.typeKey types model.toJson where
  methods := by
    rw [methods_toJson, List.forall₂_map_right_iff]
    exact shown.methods.imp fun _ _ => shows_typed answers
  groups := by
    rw [groups_toJson shown.specification]
    intro json member
    obtain ⟨g, group, rfl⟩ := List.mem_map.mp member
    refine ⟨g.name, groupName_toJson g, ?_⟩
    rw [groupMethods_toJson, List.forall₂_map_right_iff]
    exact (shown.groups g group).imp fun _ _ => shows_typed answers
  definitions := by
    rw [definitions_toJson, shown.definitions, List.map_map, List.forall₂_map_right_iff]
    exact List.forall₂_same.mpr fun d _ => definition_typed answers d.1 d.2

/-- Without one it says no type. -/
theorem document_untyped {s : Specification} {o : Options} {model : Model} {part : SpecificationPart}
    (shown : ShowsDocument s o model part) (none : o.converter = none) : Untyped model where
  methods m member := by
    obtain ⟨e, _, shows⟩ := exists_of_forall₂ shown.methods member
    exact shows_untyped none shows
  groups part' has g group m member := by
    rw [shown.specification, Option.some.injEq] at has
    subst has
    obtain ⟨e, _, shows⟩ := exists_of_forall₂ (shown.groups g group) member
    exact shows_untyped none shows
  definitions := by
    rw [shown.definitions]
    intro d member
    obtain ⟨⟨name, schema⟩, _, rfl⟩ := List.mem_map.mp member
    exact untyped_toEntries none s _
  properties := by
    rw [shown.definitions]
    intro d member ps given p inside
    obtain ⟨⟨name, schema⟩, _, rfl⟩ := List.mem_map.mp member
    obtain ⟨entries, _, rfl⟩ := Option.map_eq_some_iff.mp given
    obtain ⟨⟨name', schema'⟩, _, rfl⟩ := List.mem_map.mp inside
    exact property_untyped none s name' schema'

/-- A converter types every node of a view where the view writes it, under whatever key; without a converter nothing
    is typed. -/
theorem types_attached {s : Specification} {o : Options} {model : Model}
    (built : ofDocument (.specification s) o = .ok model) :
    (∀ convert, o.converter = some convert →
        TypesAttached s o.typeKey (fun node => convert ⟨node, s, o.toChoices⟩) model.toJson) ∧
      (o.converter = none → Untyped model) := by
  obtain ⟨part, shown⟩ := document_shown built
  refine ⟨fun convert converts => document_typed shown ?_, document_untyped shown⟩
  rw [Options.answers, converts]
  rfl

/-- A document in which a shared parameter, one with a key of its own, a response and a definition have types. -/
def sharedTypes : Specification :=
  { pathsOnly [("/pets", ⟨[.reference "#/parameters/limit" none none], [(.get, { blankOperation with
      tags := ["pets"]
      parameters := [.inline { plainParameter "filter" (some "query") with others := [("name", .string "own")] }]
      responses := [("200", ⟨none, some [("name", .string "list")], []⟩)] })]⟩)] with
    parameters := [("limit", plainParameter "limit" (some "query"))]
    definitions := [("Pet", [("properties", .object [("id", .object []), ("tag", .null)])])] }

/-- The type of a parameter is a text with its name, that of a schema the number of its entries. -/
def counted : TypeNode → Value
  | .parameter p => .string ("type of " ++ p.name)
  | .schema entries => .int entries.length

/-- Options that attach such types under a key. -/
def counting (typeKey : String) : Options :=
  { Options.default with converter := some fun shown => counted shown.node, typeKey }

/-- The key of types may be one of a parameter and of a definition; without a converter nothing has a type. -/
theorem types_attached_shared :
    (∃ model, ofDocument (.specification sharedTypes) (counting "name") = .ok model ∧
      (counting "name").converter = some (fun shown => counted shown.node) ∧
      ((itemsAt "methods" model.toJson).flatMap fun m => (itemsAt "parameters" m).map (held? "name")) =
        [some (.string "type of filter"), some (.string "type of limit")] ∧
      (itemsAt "definitions" model.toJson).map (held? "name") = [some (.int 1)] ∧
      TypesAttached sharedTypes "name" counted model.toJson) ∧
    (∃ model, ofDocument (.specification sharedTypes) (counting "__type") = .ok model ∧
      (counting "__type").converter = some (fun shown => counted shown.node) ∧
      ((itemsAt "definitions" model.toJson).flatMap fun d => (itemsAt "properties" d).map (held? "__type")) =
        [some (.int 0), none] ∧
      TypesAttached sharedTypes "__type" counted model.toJson) ∧
    ∃ model, ofDocument (.specification sharedTypes) .default = .ok model ∧ Options.default.converter = none ∧
      Untyped model := by
  have named : ofDocument (.specification sharedTypes) (counting "name") = .ok (modelOf _ _ _) := rfl
  have apart : ofDocument (.specification sharedTypes) (counting "__type") = .ok (modelOf _ _ _) := rfl
  have plain : ofDocument (.specification sharedTypes) .default = .ok (modelOf _ _ _) := rfl
  refine ⟨⟨_, named, rfl, ?_, ?_, (types_attached named).1 _ rfl⟩,
    ⟨_, apart, rfl, ?_, (types_attached apart).1 _ rfl⟩, ⟨_, plain, rfl, (types_attached plain).2 rfl⟩⟩
  · decide +kernel
  · decide +kernel
  · decide +kernel

end ApiBindings.AttachedTypes
