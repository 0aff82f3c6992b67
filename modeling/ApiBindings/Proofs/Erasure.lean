import ApiBindings.Proofs.Bindings

/-!
# Views without their types

Options say how types are computed, under which key they are attached, and what an operation returns where the
document does not say. A view from which such types are erased is the view that is built where none are asked for
(`ofDocument_erased`): every step of the walk over a document does the same to what is known, whether types are
erased before it or after it. So these options decide nothing else, neither whether there is a view nor what it says
(`types_inert`). The view of a 1.x document has no types at all.
-/

namespace ApiBindings.Erasure
open ApiBindings.Document ApiBindings.View ApiBindings.Walks ApiBindings.Locations
open ApiBindings.Bindings (methods_parameters bucket_listed)

/-! ## Erasing -/

/-- No type, under no key. -/
def noType : Computed := ⟨"", none⟩

/-- A view of a parameter without its type. -/
def erasedView (v : ParameterView) : ParameterView := { v with computed := noType }

/-- An index by location without the types of its parameters. -/
def erasedIndex (b : ByIn) : ByIn :=
  { b with
    body := b.body.map erasedView
    path := b.path.map erasedView
    query := b.query.map erasedView
    header := b.header.map erasedView
    formData := b.formData.map erasedView }

/-- What a response returns, without its type; a default type is nothing but a type. -/
def erasedReturn : ReturnView → Option ReturnView
  | .schema entries _ => some (.schema entries noType)
  | .default _ => none

/-- A method without types. -/
def erasedMethod (m : Method) : Method :=
  { m with
    parameters := m.parameters.map erasedView
    byIn := erasedIndex m.byIn
    returns := m.returns.bind erasedReturn }

/-- A group whose methods have no types. -/
def erasedGroup (g : TagGroup) : TagGroup := { g with methods := g.methods.map erasedMethod }

/-- A property without its type. -/
def erasedProperty (p : PropertyView) : PropertyView := { p with computed := noType }

/-- A definition without its type and those of its properties. -/
def erasedDefinition (d : DefinitionView) : DefinitionView :=
  { d with properties := d.properties.map (List.map erasedProperty), computed := noType }

/-- A view of a document without types. -/
def erased (m : Model) : Model :=
  { m with
    methods := m.methods.map erasedMethod
    definitions := m.definitions.map erasedDefinition
    specification := m.specification.map fun part => { part with byTags := part.byTags.map erasedGroup } }

/-- Options that ask for no types and are otherwise the same. -/
def withoutTypes (o : Options) : Options := { o with converter := none, defaultType := none, typeKey := "" }

/-! ## Parameters in place -/

theorem push_erased (list : List ParameterView) (v : ParameterView) :
    (pushParameter list v).map erasedView = pushParameter (list.map erasedView) (erasedView v) := by
  simp [pushParameter, erasedView]

theorem pushAll_erased (views list : List ParameterView) :
    (views.foldl pushParameter list).map erasedView =
      (views.map erasedView).foldl pushParameter (list.map erasedView) := by
  induction views generalizing list with
  | nil => rfl
  | cons v rest ih => rw [List.foldl_cons, ih, push_erased, List.map_cons, List.foldl_cons]

theorem push_index (b : ByIn) (l : Location) (v : ParameterView) :
    erasedIndex (b.push l v) = (erasedIndex b).push l (erasedView v) := by
  cases l <;> simp [ByIn.push, erasedIndex]

theorem has_index (b : ByIn) (l : Location) : (erasedIndex b).has l = b.has l := by
  cases l <;> rfl

theorem enter_erased (list : List ParameterView) (b : ByIn) :
    enterParameters (erasedIndex b) (list.map erasedView) =
      ((enterParameters b list).1.map erasedView, erasedIndex (enterParameters b list).2) := by
  induction list generalizing b with
  | nil => rfl
  | cons v rest ih =>
    cases place : v.location with
    | none =>
      have nowhere : (erasedView v).location = none := place
      rw [List.map_cons, enter_unlocated nowhere, enter_unlocated place, ih, List.map_cons]
    | some l =>
      have here : (erasedView v).location = some l := place
      have mark : { erasedView v with notFirstByIn := b.has l } = erasedView { v with notFirstByIn := b.has l } := rfl
      rw [List.map_cons, enter_located here, enter_located place, has_index, mark, ← push_index, ih, List.map_cons]

/-- Parameters are put in place in the same way with types and without. -/
theorem place_erased (views : List ParameterView) :
    placeParameters (views.map erasedView) =
      ((placeParameters views).1.map erasedView, erasedIndex (placeParameters views).2) := by
  have pushed := pushAll_erased views []
  have entered := enter_erased (views.foldl pushParameter []) .empty
  rw [pushed] at entered
  exact congrArg (fun r => (r.1, { r.2 with hasQueryAndBody := r.2.hasQuery && r.2.hasBody })) entered

/-! ## Methods of a 2.0 document -/

theorem methodWith_erased (s : Specification) (o : Options) (e : Endpoint) (name : String) (bound : List Parameter) :
    erasedMethod (methodWith s o e name bound) = methodWith s (withoutTypes o) e name bound := by
  have views : bound.map (specificationParameter s (withoutTypes o)) =
      (bound.map (specificationParameter s o)).map erasedView := by
    rw [List.map_map]
    rfl
  have returns : (responsesOf s o e.operation).2.bind erasedReturn =
      (responsesOf s (withoutTypes o) e.operation).2 := by
    rw [responsesOf_eq, responsesOf_eq]
    cases returned? e.operation.responses with
    | some schema => rfl
    | none => cases o.defaultType <;> rfl
  have responses : (responsesOf s o e.operation).1 = (responsesOf s (withoutTypes o) e.operation).1 := by
    rw [responsesOf_eq, responsesOf_eq]
  simp only [methodWith, erasedMethod, views, place_erased, returns, responses]
  rfl

theorem methodOf_erased (s : Specification) (o : Options) (e : Endpoint) (name : String) :
    methodOf s (withoutTypes o) e name = (methodOf s o e name).map erasedMethod := by
  unfold methodOf
  cases boundParameters s e.item e.operation with
  | error failure => rfl
  | ok bound => exact congrArg Except.ok (methodWith_erased s o e name bound).symm

/-! ## The walk over a 2.0 document -/

/-- What is known of the groups, without types. -/
def erasedGroups (groups : List (String × TagGroup)) : List (String × TagGroup) :=
  groups.map fun (key, g) => (key, erasedGroup g)

/-- What is known after some endpoints, without types. -/
def erasedWalk (w : Walk) : Walk :=
  { w with methods := w.methods.map erasedMethod, groups := erasedGroups w.groups }

theorem addToGroup_erased (key : String) (m : Method) (groups : List (String × TagGroup)) :
    addToGroup key (erasedMethod m) (erasedGroups groups) = erasedGroups (addToGroup key m groups) := by
  induction groups with
  | nil => rfl
  | cons entry rest ih =>
    obtain ⟨k, g⟩ := entry
    rw [erasedGroups, List.map_cons, addToGroup, addToGroup]
    split
    · simp [erasedGroups, erasedGroup]
    · rw [← erasedGroups, ih]
      rfl

theorem insert_erased (s : Specification) (key : String) (m : Method) (groups : List (String × TagGroup)) :
    insertMethod s key (erasedMethod m) (erasedGroups groups) =
      (erasedMethod (insertMethod s key m groups).1, erasedGroups (insertMethod s key m groups).2) := by
  have there : (erasedGroups groups).lookup key = (groups.lookup key).map erasedGroup :=
    lookup_map (fun _ => erasedGroup) groups key
  unfold insertMethod
  rw [there]
  cases groups.lookup key with
  | some g => exact congrArg (Prod.mk _) (addToGroup_erased key { m with notFirstByTag := true } groups)
  | none => simp [erasedGroups, erasedGroup, erasedMethod]

theorem walkPush_erased (s : Specification) (w : Walk) (m : Method) :
    (erasedWalk w).push s (erasedMethod m) = erasedWalk (w.push s m) := by
  let placed : Method := { m with isFirstPath := w.lastPath != some m.path, notFirstMethod := !w.methods.isEmpty }
  let after (r : Method × List (String × TagGroup)) : Walk :=
    { w with
      methods := w.methods.map erasedMethod ++ [r.1]
      groups := r.2
      security := w.security.union r.1.security
      lastPath := some r.1.path }
  have none : (w.methods.map erasedMethod).isEmpty = w.methods.isEmpty := List.isEmpty_map
  calc (erasedWalk w).push s (erasedMethod m)
    _ = after (insertMethod s (m.tagGroup.getD untagged) (erasedMethod placed) (erasedGroups w.groups)) := by
      simp only [Walk.push, erasedWalk, none]
      rfl
    _ = erasedWalk (w.push s m) := by
      rw [insert_erased]
      simp only [Walk.push, erasedWalk, List.map_append, List.map_cons, List.map_nil]
      rfl

theorem step_erased (s : Specification) (o : Options) (w : Walk) (e : Endpoint) :
    (erasedWalk w).step s (withoutTypes o) e = (w.step s o e).map erasedWalk := by
  have same : nextName (erasedWalk w) e = nextName w e := rfl
  rw [step_eq, step_eq, same, methodOf_erased]
  cases methodOf s o e (nextName w e) with
  | error failure => rfl
  | ok m => exact congrArg Except.ok (walkPush_erased s { w with names := w.names ++ [nextName w e] } m)

/-- A walk without types leaves what any other walk leaves when types are erased. -/
theorem walk_erased (s : Specification) (o : Options) : walk s (withoutTypes o) = (walk s o).map erasedWalk := by
  have general : ∀ (rest : List Endpoint) (w : Walk),
      rest.foldlM (Walk.step s (withoutTypes o)) (erasedWalk w) =
        (rest.foldlM (Walk.step s o) w).map erasedWalk := by
    intro rest
    induction rest with
    | nil => exact fun w => rfl
    | cons e rest ih =>
      intro w
      rw [List.foldlM_cons, List.foldlM_cons, step_erased]
      cases w.step s o e with
      | error failure => rfl
      | ok next => exact ih next
  exact general (endpoints s) {}

/-! ## Views -/

theorem definition_erased (s : Specification) (o : Options) (name : String) (schema : Json.Entries) :
    erasedDefinition (definitionView s o name schema) = definitionView s (withoutTypes o) name schema := by
  have property (name : String) (schema : Json.Value) :
      erasedProperty (propertyView s o name schema) = propertyView s (withoutTypes o) name schema := by
    cases schema <;> rfl
  simp only [definitionView, erasedDefinition, Option.map_map, Function.comp_def, List.map_map, property]
  rfl

theorem modelOf_erased (s : Specification) (o : Options) (w : Walk) :
    erased (modelOf s o w) = modelOf s (withoutTypes o) (erasedWalk w) := by
  have definitions : (s.definitions.map fun d => definitionView s o d.1 d.2).map erasedDefinition =
      s.definitions.map fun d => definitionView s (withoutTypes o) d.1 d.2 := by
    rw [List.map_map]
    exact List.map_congr_left fun d _ => definition_erased s o d.1 d.2
  have groups : (w.groups.map (·.2)).map erasedGroup = (erasedGroups w.groups).map (·.2) := by
    rw [erasedGroups, List.map_map, List.map_map]
    rfl
  have tags : (w.methods.map erasedMethod).any (fun m => !m.tags.isEmpty) = w.methods.any fun m => !m.tags.isEmpty :=
    List.any_map
  simp only [erased, modelOf, definitions, erasedWalk, Option.map_some, groups, tags]
  rfl

/-! ## The walk over a 1.x document -/

theorem apiMethod_erased (d : Declaration) (o : Options) (api : Api) (op : ApiOperation) (name : String) :
    erasedMethod (apiMethod d o api op name) = apiMethod d (withoutTypes o) api op name := by
  have views (bound : List Parameter) : bound.map (declarationParameter (withoutTypes o)) =
      (bound.map (declarationParameter o)).map erasedView := by
    rw [List.map_map]
    rfl
  simp only [apiMethod, erasedMethod, views, place_erased]
  rfl

/-- What is known after some operations, without types. -/
def erasedApiWalk (w : ApiWalk) : ApiWalk := { w with methods := w.methods.map erasedMethod }

theorem apiStep_erased (d : Declaration) (o : Options) (w : ApiWalk) (e : ApiEndpoint) :
    stepTo d (withoutTypes o) (erasedApiWalk w) e = erasedApiWalk (stepTo d o w e) := by
  have none : (w.methods.map erasedMethod).isEmpty = w.methods.isEmpty := List.isEmpty_map
  simp only [stepTo, ApiWalk.step, erasedApiWalk, ← apiMethod_erased, none, List.map_append, List.map_cons,
    List.map_nil]
  rfl

theorem walkDeclaration_erased (d : Declaration) (o : Options) :
    walkDeclaration d (withoutTypes o) = erasedApiWalk (walkDeclaration d o) := by
  rw [walkDeclaration_eq, walkDeclaration_eq]
  show (apiEndpoints d).foldl (stepTo d (withoutTypes o)) (erasedApiWalk {}) = _
  exact List.foldl_hom erasedApiWalk (apiStep_erased d o)

theorem ofDeclaration_erased (d : Declaration) (o : Options) :
    erased (ofDeclaration d o) = ofDeclaration d (withoutTypes o) := by
  simp only [ofDeclaration, walkDeclaration_erased]
  rfl

/-- A view without its types is the view that is built where none are asked for. -/
theorem ofDocument_erased (document : Document) (o : Options) :
    (ofDocument document o).map erased = ofDocument document (withoutTypes o) := by
  cases document with
  | declaration d => exact congrArg Except.ok (ofDeclaration_erased d o)
  | specification s =>
    rw [ofDocument, ofDocument, ofSpecification, ofSpecification, walk_erased]
    cases walk s o with
    | error failure => rfl
    | ok w => exact congrArg Except.ok (modelOf_erased s o w)

/-! ## Views that have no types -/

theorem view_toJson {v : ParameterView} (untyped : v.computed.type = none) : (erasedView v).toJson = v.toJson := by
  have nothing : v.computed.toEntries = [] := by simp [Computed.toEntries, untyped]
  simp only [ParameterView.toJson, ParameterView.addedEntries, nothing]
  rfl

theorem views_toJson {list : List ParameterView} (untyped : ∀ v ∈ list, v.computed.type = none) :
    (list.map erasedView).map ParameterView.toJson = list.map ParameterView.toJson := by
  rw [List.map_map]
  exact List.map_congr_left fun v inside => view_toJson (untyped v inside)

theorem index_toJson {b : ByIn} (untyped : ∀ l, ∀ v ∈ b.bucket l, v.computed.type = none) :
    (erasedIndex b).toJson = b.toJson := by
  have entry (key : String) (l : Location) :
      ByIn.listEntry key ((b.bucket l).map erasedView) = ByIn.listEntry key (b.bucket l) := by
    rw [ByIn.listEntry, ByIn.listEntry, views_toJson (untyped l), List.isEmpty_map]
  have body := entry "body" .body
  have path := entry "path" .path
  have query := entry "query" .query
  have header := entry "header" .header
  have formData := entry "formData" .formData
  dsimp only [ByIn.bucket] at body path query header formData
  simp only [ByIn.toJson, erasedIndex, body, path, query, header, formData]

/-- A view of a 1.x document says the same without its types, since it has none. -/
theorem declaration_toJson (d : Declaration) (o : Options) :
    (erased (ofDeclaration d o)).toJson = (ofDeclaration d o).toJson := by
  have built : ofDocument (.declaration d) o = .ok (ofDeclaration d o) := rfl
  have method : ∀ m ∈ (ofDeclaration d o).methods, (erasedMethod m).toJson = m.toJson := by
    intro m member
    obtain ⟨bound, _, views⟩ := exists_of_forall₂ (methods_parameters built) member
    have untyped : ∀ v ∈ m.parameters, v.computed.type = none := by
      intro v inside
      obtain ⟨p, _, same⟩ := List.mem_map.mp (views ▸ List.mem_map_of_mem (f := Bindings.bare) inside)
      exact (congrArg (·.computed.type) same).symm
    obtain ⟨e, _, shown⟩ := exists_of_forall₂ (walkDeclaration_shows d o) member
    have returns : m.returns = none := by rw [shown]; rfl
    have index := index_toJson fun l v inside => untyped v (bucket_listed built member inside)
    simp only [Method.toJson, erasedMethod, views_toJson untyped, index, returns]
    rfl
  have methods : ((ofDeclaration d o).methods.map erasedMethod).map Method.toJson =
      (ofDeclaration d o).methods.map Method.toJson := by
    rw [List.map_map]
    exact List.map_congr_left method
  simp only [Model.toJson, erased, methods]
  rfl

/-! ## What types decide -/

/-- Options that differ in nothing but what they say of types. -/
structure AlikeButTypes (o o' : Options) : Prop where
  moduleName : o.moduleName = o'.moduleName
  className : o.className = o'.className
  imports : o.imports = o'.imports

theorem AlikeButTypes.withoutTypes {o o' : Options} (alike : AlikeButTypes o o') :
    withoutTypes o = withoutTypes o' := by
  rw [Erasure.withoutTypes, Erasure.withoutTypes, alike.moduleName, alike.className, alike.imports]

/-- Converter, default type and key of types decide nothing but the types of a view: whether there is one, or with
    what the document fails, and all that stands in it besides types is the same under all of them. To a 1.x document
    they make no difference at all. -/
theorem types_inert (document : Document) {o o' : Options} (alike : AlikeButTypes o o') :
    (ofDocument document o).map erased = (ofDocument document o').map erased ∧
      (∀ e, ofDocument document o = .error e ↔ ofDocument document o' = .error e) ∧
      ∀ d, document = .declaration d →
        (ofDocument document o).map Model.toJson = (ofDocument document o').map Model.toJson := by
  have same : (ofDocument document o).map erased = (ofDocument document o').map erased := by
    rw [ofDocument_erased, ofDocument_erased, alike.withoutTypes]
  refine ⟨same, fun e => ?_, ?_⟩
  · have failing (o : Options) : ofDocument document o = .error e ↔ (ofDocument document o).map erased = .error e := by
      cases ofDocument document o <;> simp [Except.map]
    rw [failing, same, ← failing]
  · rintro d rfl
    refine congrArg Except.ok ?_
    rw [← declaration_toJson d o, ← declaration_toJson d o', ofDeclaration_erased, ofDeclaration_erased,
      alike.withoutTypes]

/-- A document with a parameter, a response and a definition that have types, and an operation that returns nothing. -/
def typedPets : Specification :=
  { pathsOnly [("/pets", ⟨[], [
      (.get, { blankOperation with
        parameters := [.inline (plainParameter "limit" (some "query"))]
        responses := [("200", ⟨none, some [("type", .string "array")], []⟩)] }),
      (.delete, blankOperation)]⟩)] with
    definitions := [("Pet", [("properties", .object [("name", .object [])])])] }

/-- A 1.x document with a parameter. -/
def listedPets : Declaration :=
  ⟨some "1.2", none, none, none, [⟨"/pets", none, [⟨"GET", none, none, none,
    [plainParameter "limit" none], none, none, none, none⟩]⟩], none, none, none⟩

/-- Options under which everything is a number, and nothing is returned as a text. -/
def numbered : Options :=
  { Options.default with
    converter := some fun _ => .string "number", defaultType := some (.string "void"), typeKey := "name" }

theorem types_inert_numbered :
    AlikeButTypes numbered .default ∧
      (ofDocument (.specification typedPets) numbered).toOption ≠
        (ofDocument (.specification typedPets) .default).toOption ∧
      (ofDocument (.specification typedPets) numbered).map erased =
        (ofDocument (.specification typedPets) .default).map erased ∧
      (ofDocument (.declaration listedPets) numbered).map Model.toJson =
        (ofDocument (.declaration listedPets) .default).map Model.toJson := by
  have alike : AlikeButTypes numbered .default := ⟨rfl, rfl, rfl⟩
  exact ⟨alike, by decide +kernel, (types_inert (.specification typedPets) alike).1,
    (types_inert (.declaration listedPets) alike).2.2 listedPets rfl⟩

end ApiBindings.Erasure
