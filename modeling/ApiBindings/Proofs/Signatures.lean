import ApiBindings.Proofs.AttachedTypes
import ApiBindings.Proofs.ClassNodes
import ApiBindings.Proofs.Parts

/-!
# Signatures of the class template

The class template writes a signature for each method, with the parameters of the method as its view lists them: the
name of each, a question mark if it need not be given, and its type. Nothing sorts them. They stand as the document
lists them, so a required parameter comes behind an optional one exactly where the document lists them so
(`signatures_keepOrder`).
-/

namespace ApiBindings.Signatures
open ApiBindings.View ApiBindings.Document ApiBindings.ClassText ApiBindings.ClassNodes
open ApiBindings.TypeScript ApiBindings.Walks ApiBindings.Parts ApiBindings.LastWritten
open ApiBindings.Bindings (bare binding? bindings methods_parameters shows_parameters)
open ApiBindings.DerivedKeys (valuesIn)
open ApiBindings.Json (Value Entries)

/-! ## Signatures in texts -/

/-- In the block of a method stands its signature. -/
theorem block_signature (typeKey : String) (m : Method) : InOrder [signature typeKey m] (blockText typeKey m) :=
  (((inOrder_self (signature typeKey m)).before _).behind "\n").behind (statements m)

/-- In the text of a class stand the signatures of its methods, one behind the other. -/
theorem class_signatures (typeKey : String) (m : Model) :
    InOrder (m.methods.map (signature typeKey)) (classText typeKey m) := by
  rw [List.map_eq_flatMap]
  exact ((inOrder_join fun method _ => block_signature typeKey method).before (headText m)).behind "\x7d"

/-! ## Slots of parameters -/

/-- No type is attached under a key that a signature shows. To a 1.x document none is attached at all. -/
def Undisturbed (document : ApiBindings.Document) (o : Options) : Prop :=
  ∀ s, document = .specification s →
    o.converter = none ∨ o.typeKey ≠ "camelCaseName" ∧ o.typeKey ≠ "cardinality"

/-- A signature shows the name and the cardinality of a view. -/
structure ShowsSlots (v : ParameterView) : Prop where
  name : (seen v "camelCaseName").text = v.camelCaseName
  cardinality : (seen v "cardinality").text = v.cardinality

theorem seen_held {v : ParameterView} {key text : String} (held : held? key v.toJson = some (.string text)) :
    (seen v key).text = text := by
  rw [seen, get?_byKey, held]
  rfl

/-- Nothing that a view writes behind its name and its cardinality has their keys, but for a type. -/
theorem view_slots {v : ParameterView} (nameFree : valuesIn "camelCaseName" v.computed.toEntries = [])
    (cardinalityFree : valuesIn "cardinality" v.computed.toEntries = []) : ShowsSlots v := by
  refine ⟨seen_held ?_, seen_held ?_⟩
  · simp only [ParameterView.toJson, ParameterView.addedEntries, held?_object, DerivedKeys.valuesIn_append, nameFree]
    simp
  · simp only [ParameterView.toJson, ParameterView.addedEntries, held?_object, DerivedKeys.valuesIn_append,
      cardinalityFree]
    simp

section Untyped
variable {document : ApiBindings.Document} {o : Options} {p : Parameter} {v : ParameterView}

/-- A type is attached by a converter, and only in a 2.0 document. -/
theorem untyped_or {apart : Prop} (given : ∀ s, document = .specification s → o.converter = none ∨ apart) :
    (viewOf document o p).computed.type = none ∨ apart := by
  cases document with
  | declaration d => exact .inl rfl
  | specification s => exact (given s rfl).imp_left fun unconverted => DerivedKeys.viewOf_untyped unconverted _ p

/-- Under a key that is not the one of types a view writes no type. -/
theorem type_free (shown : bare v = viewOf document o p) {key : String}
    (apart : (viewOf document o p).computed.type = none ∨ o.typeKey ≠ key) :
    valuesIn key v.computed.toEntries = [] := by
  have computed : v.computed = (viewOf document o p).computed := congrArg (·.computed) shown
  rw [valuesIn_type, computed]
  rcases apart with untyped | apart
  · simp [untyped]
  · rw [DerivedKeys.viewOf_typed, if_neg apart]

theorem undisturbed_slots (undisturbed : Undisturbed document o) (shown : bare v = viewOf document o p) :
    ShowsSlots v := by
  have untyped := untyped_or (p := p) undisturbed
  exact view_slots (type_free shown (untyped.imp_right (·.1))) (type_free shown (untyped.imp_right (·.2)))

end Untyped

/-! ## Order of parameters -/

/-- What a parameter has behind its name. -/
def cardinalityOf (p : Parameter) : String := if p.required then "" else "?"

/-- Cardinalities as a signature may have them: nothing required behind something optional. -/
def Legal (cardinalities : List String) : Prop := cardinalities.Pairwise fun a b => a = "?" → b ≠ ""

instance (cardinalities : List String) : Decidable (Legal cardinalities) :=
  inferInstanceAs (Decidable (List.Pairwise _ _))

/-- No required parameter is declared behind an optional one. -/
def DeclaredLegally (bound : List Parameter) : Prop :=
  bound.Pairwise fun p q => q.required = true → p.required = true

theorem legal_iff (bound : List Parameter) : Legal (bound.map cardinalityOf) ↔ DeclaredLegally bound := by
  rw [Legal, List.pairwise_map, DeclaredLegally]
  have each (p q : Parameter) :
      (cardinalityOf p = "?" → cardinalityOf q ≠ "") ↔ (q.required = true → p.required = true) := by
    cases required : p.required <;> cases required' : q.required <;> simp [cardinalityOf, required, required']
  simp only [each]

theorem declaredLegally_append (own shared : List Parameter) :
    DeclaredLegally (own ++ shared) ↔ DeclaredLegally own ∧ DeclaredLegally shared ∧
      ∀ p ∈ own, ∀ q ∈ shared, q.required = true → p.required = true := List.pairwise_append

/-! ## Signatures of documents -/

/-- A method lists what its operation binds, in that order, with a question mark behind each parameter that need not
    be given. So the list is legal exactly if it was declared so. -/
structure ListsInOrder (bound : List Parameter) (m : Method) : Prop where
  slots : m.parameters.map (fun v => (v.camelCaseName, v.cardinality)) =
    bound.map fun p => (camelCaseName p.name, cardinalityOf p)
  legal : Legal (m.parameters.map (·.cardinality)) ↔ DeclaredLegally bound

theorem lists_inOrder {document : ApiBindings.Document} {o : Options} {bound : List Parameter} {m : Method}
    (shown : m.parameters.map bare = bound.map (viewOf document o)) : ListsInOrder bound m := by
  have slots : m.parameters.map (fun v => (v.camelCaseName, v.cardinality)) =
      bound.map fun p => (camelCaseName p.name, cardinalityOf p) := by
    have same := congrArg (List.map fun v : ParameterView => (v.camelCaseName, v.cardinality)) shown
    rw [List.map_map, List.map_map] at same
    refine Eq.trans same (List.map_congr_left fun p _ => ?_)
    cases document <;> rfl
  refine ⟨slots, ?_⟩
  have cardinalities : m.parameters.map (·.cardinality) = bound.map cardinalityOf := by
    have same := congrArg (List.map Prod.snd) slots
    rwa [List.map_map, List.map_map] at same
  rw [cardinalities, legal_iff]

/-- The parameters of one list that an operation binds. -/
def boundIn (s : Specification) (entries : List ParameterEntry) : List Parameter := entries.filterMap (binding? s)

/-- In a 2.0 document the list of an operation stands before that of its path: a signature is legal exactly if both
    are, and no required parameter of the path meets an optional one of the operation. -/
def LegalByLists (s : Specification) (e : Endpoint) (m : Method) : Prop :=
  Legal (m.parameters.map (·.cardinality)) ↔
    DeclaredLegally (boundIn s e.operation.parameters) ∧ DeclaredLegally (boundIn s e.item.parameters) ∧
      ∀ p ∈ boundIn s e.operation.parameters, ∀ q ∈ boundIn s e.item.parameters, q.required = true → p.required = true

theorem shows_legalByLists {s : Specification} {o : Options} {e : Endpoint} {m : Method} (shown : Shows s o e m) :
    LegalByLists s e m := by
  rw [LegalByLists, (lists_inOrder (shows_parameters shown)).legal, List.filterMap_append]
  exact declaredLegally_append _ _

/-- Signatures of the class template keep the order of a document. -/
structure KeepsOrder (document : ApiBindings.Document) (o : Options) (model : Model) (typeKey text : String) :
    Prop where
  written : InOrder (model.methods.map (signature typeKey)) text
  shown : Undisturbed document o → ∀ m ∈ model.methods, ∀ v ∈ m.parameters, ShowsSlots v
  listed : List.Forall₂ ListsInOrder (bindings document) model.methods
  byLists : ∀ s, document = .specification s → List.Forall₂ (LegalByLists s) (endpoints s) model.methods

/-- In a text of the class template stand the signatures of the methods, each with its parameters in the order in
    which the document lists them, required or not. So a required parameter comes behind an optional one exactly where
    the document lists them so. -/
theorem signatures_keepOrder {document : ApiBindings.Document} {o : Options} {model : Model} {typeKey text : String}
    (built : ofDocument document o = .ok model)
    (rendered : model.render classTemplateName classTemplate typeKey = .ok text) :
    KeepsOrder document o model typeKey text where
  written := rendered_eq built rendered ▸ class_signatures typeKey model
  shown undisturbed m member v inside := by
    obtain ⟨bound, _, shown⟩ := exists_of_forall₂ (methods_parameters built) member
    obtain ⟨p, _, same⟩ := List.mem_map.mp (shown ▸ List.mem_map_of_mem (f := bare) inside)
    exact undisturbed_slots undisturbed same.symm
  listed := (methods_parameters built).imp fun _ _ => lists_inOrder
  byLists := by
    rintro s rfl
    obtain ⟨w, run, rfl⟩ := ok_of_map built
    exact (walk_shows run).imp fun _ _ => shows_legalByLists

/-- A required parameter. -/
def requiredParameter (name place : String) : Parameter := { plainParameter name (some place) with required := true }

/-- A document with an operation that may be given a limit, on a path that has to be given an id. -/
def optionalFirst : Specification :=
  pathsOnly [("/pets/{id}", ⟨[.inline (requiredParameter "id" "path")], [(.get, { blankOperation with
    parameters := [.inline (plainParameter "limit" (some "query"))] })]⟩)]

/-- A document with an operation that has to be given an id, on a path that may be given a limit. -/
def requiredFirst : Specification :=
  pathsOnly [("/pets/{id}", ⟨[.inline (plainParameter "limit" (some "query"))], [(.get, { blankOperation with
    parameters := [.inline (requiredParameter "id" "path")] })]⟩)]

theorem signatures_keepOrder_requiredFirst :
    ∃ model text, ofDocument (.specification requiredFirst) .default = .ok model ∧
      model.render classTemplateName classTemplate "__type" = .ok text ∧
      (∀ m ∈ model.methods, Legal (m.parameters.map (·.cardinality))) ∧
      KeepsOrder (.specification requiredFirst) .default model "__type" text := by
  obtain ⟨model, built⟩ : ∃ model, ofDocument (.specification requiredFirst) .default = .ok model := ⟨_, rfl⟩
  have rendered := render_built built "__type"
  refine ⟨model, _, built, rendered, ?_, signatures_keepOrder built rendered⟩
  have same : ofDocument (.specification requiredFirst) .default = .ok (modelOf requiredFirst .default _) := rfl
  cases same.symm.trans built
  decide +kernel

theorem optionalFirst_signed :
    (ofDocument (.specification optionalFirst) .default).toOption.map (fun m => m.methods.map (signature "__type")) =
      some ["  async getPetsById(limit?: any, id: any): Promise<any> \x7b"] := by decide +kernel

/-- A required parameter of a path stands behind an optional one of the operation. -/
theorem optionalFirst_illegal :
    ∃ model text, ofDocument (.specification optionalFirst) .default = .ok model ∧
      model.render classTemplateName classTemplate "__type" = .ok text ∧
      InOrder ["  async getPetsById(limit?: any, id: any): Promise<any> \x7b"] text ∧
      ∃ m ∈ model.methods, ¬ Legal (m.parameters.map (·.cardinality)) := by
  obtain ⟨model, built⟩ : ∃ model, ofDocument (.specification optionalFirst) .default = .ok model := ⟨_, rfl⟩
  have signed := optionalFirst_signed
  rw [built, Except.toOption, Option.map_some, Option.some.injEq] at signed
  refine ⟨model, _, built, render_built built "__type", signed ▸ class_signatures "__type" model, ?_⟩
  have same : ofDocument (.specification optionalFirst) .default = .ok (modelOf optionalFirst .default _) := rfl
  cases same.symm.trans built
  decide +kernel

end ApiBindings.Signatures
