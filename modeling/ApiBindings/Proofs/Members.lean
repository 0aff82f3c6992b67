import ApiBindings.Proofs.Answers
import ApiBindings.Proofs.Signatures
import ApiBindings.Proofs.TypeTexts

/-!
# Members of the class template

The class template writes one member for each method, in order. The head of a member is one line: the name of the
method, its parameters with commas between them, and what it returns, each with the type that the converter gave it
(`members_written`). The commas come from marks that the view sets, and the types from a function of the template, so
the document must not write over what these read.
-/

namespace ApiBindings.Members
open ApiBindings.Document ApiBindings.View ApiBindings.Walks ApiBindings.Template
open ApiBindings.TypeScript ApiBindings.Signatures ApiBindings.LastWritten ApiBindings.DerivedKeys
open ApiBindings.Answers (PlainlyTyped typing)
open ApiBindings.Bindings (bare bindings methods_parameters)
open ApiBindings.ClassText (block methodInside typeText part? seen parameterText signature headText statements
  classText)
open ApiBindings.ClassNodes (render_built)
open ApiBindings.Rendering (record_get? lookup_entry? lookup_flagEntry)
open ApiBindings.Json (Value Entries)

/-! ## Heads of members -/

/-- The type of a parameter or of a result as the class has it: the text of the computed type, and `any` where none
    was computed. -/
def typeName (type? : Option Value) : String :=
  match type?.bind fun type => type.get? "tsType" with
  | some (.string text) => text
  | _ => "any"

/-- A parameter in the head of a member. -/
def parameterHead (v : ParameterView) : String := v.camelCaseName ++ v.cardinality ++ ": " ++ typeName v.computed.type

/-- The head of a member, without its break. -/
def memberHead (m : Method) : String :=
  "  async " ++ m.methodName ++ "(" ++ ", ".intercalate (m.parameters.map parameterHead) ++ "): Promise<" ++
    typeName m.returnType? ++ "> \x7b"

/-- The member of a method: its comment, the line of its head, and its statements. -/
def memberText (m : Method) : String :=
  "\n  " ++ block (methodInside m) ++ "\n" ++ memberHead m ++ "\n" ++ statements m

/-! ## Types -/

theorem descriptor_tsType (d : Descriptor) : held? "tsType" d.toJson = some (.string d.text) := by
  cases d <;> simp [Descriptor.toJson, Descriptor.toEntries, Descriptor.flagEntries, held?_object]

theorem typeName_descriptor (d : Descriptor) : typeName (some d.toJson) = d.text := by
  rw [typeName, Option.bind_some, TypeTexts.toJson_tsType]

/-- A node has the type that was computed for it, if it says that type under the key of types and, without one, says
    no text of a type itself. -/
theorem typeText_named {typeKey : String} {node : Value} {type? : Option Value} (own : held? typeKey node = type?)
    (silent : type? = none → held? "tsType" node = none)
    (described : ∀ t, type? = some t → ∃ d : Descriptor, t = d.toJson) :
    typeText typeKey (.value node.byKey) = typeName type? := by
  have typed : part? (.value node.byKey) typeKey = type?.map Value.byKey := by
    show node.byKey.get? typeKey = _
    rw [get?_byKey, own]
  cases type? with
  | none =>
    have untold : part? (.value node.byKey) "tsType" = none := by
      show node.byKey.get? "tsType" = _
      rw [get?_byKey, silent rfl]
      rfl
    rw [typeText, typed, untold]
    rfl
  | some t =>
    obtain ⟨d, rfl⟩ := described t rfl
    have told : part? (.value d.toJson.byKey) "tsType" = some (.string d.text) := by
      show d.toJson.byKey.get? "tsType" = _
      rw [get?_byKey, descriptor_tsType]
      rfl
    rw [typeText, typed, Option.map_some]
    dsimp only
    rw [told, typeName_descriptor]
    rfl

theorem computed_described {document : ApiBindings.Document} {o : Options} (plainly : PlainlyTyped o)
    (node : TypeNode) {t : Value} (typed : (typeIn document o node).type = some t) :
    ∃ d : Descriptor, t = d.toJson := by
  cases document with
  | declaration d => cases typed
  | specification s =>
    rw [typeIn, answersFor, Options.answers] at typed
    rcases plainly with unconverted | converts
    · rw [unconverted] at typed
      cases typed
    · rw [converts] at typed
      cases typed
      cases node with
      | parameter p => exact ⟨_, rfl⟩
      | schema entries => exact ⟨_, rfl⟩

/-! ## Parameters -/

/-- A parameter of a document leaves a key to its view. -/
def Leaves (p : Parameter) (key : String) : Prop := key ∉ p.others.map (·.1)

/-- The keys that a signature reads in the view of a parameter. -/
def signatureKeys (typeKey : String) : List String := "tsType" :: typeKey :: derivedKeys

section Parameters
variable {document : ApiBindings.Document} {o : Options} {p : Parameter} {v : ParameterView}

theorem others_silent (shown : bare v = viewOf document o p) {key : String} (leaves : Leaves p key) :
    valuesIn key v.parameter.others = [] := by
  have parameter : v.parameter = (viewOf document o p).parameter := congrArg (·.parameter) shown
  rw [valuesIn_eq_nil, parameter, viewOf_others]
  split
  · exact fun there => leaves (List.map_subset _ (List.filter_subset_self _) there)
  · exact leaves

theorem view_key (shown : bare v = viewOf document o p) : v.computed.key = o.typeKey :=
  (congrArg (·.computed.key) shown : v.computed.key = _).trans (viewOf_typed document o p)

/-- Under a key of its own a view holds what it adds there. -/
theorem view_held (own : o.typeKey ∉ "pattern" :: derivedKeys) (shown : bare v = viewOf document o p) {key : String}
    {value? : Option Value} (listed : (key, value?) ∈ added v) (free : key ∉ Parameter.knownKeys)
    (leaves : Leaves p key) : held? key v.toJson = value? := by
  rw [held?_eq, view_values (view_key shown ▸ own) listed free, others_silent shown leaves, List.nil_append]
  cases value? <;> rfl

/-- What a view derives, it holds. -/
theorem view_derived (own : o.typeKey ∉ "pattern" :: derivedKeys) (shown : bare v = viewOf document o p)
    (leaves : ∀ key ∈ derivedKeys, Leaves p key) {key : String} {value? : Option Value}
    (listed : (key, value?) ∈ derived v) : held? key v.toJson = value? :=
  view_held own shown (mem_added listed) (derivedKeys_free key (mem_derivedKeys listed)).1
    (leaves key (mem_derivedKeys listed))

/-- A view without a type says no text of one. -/
theorem view_silent (shown : bare v = viewOf document o p) (untyped : v.computed.type = none)
    (leaves : Leaves p "tsType") : held? "tsType" v.toJson = none := by
  have known : valuesIn "tsType" (written (members v.parameter)) = [] := by
    have keys : (members v.parameter).map (·.1) = Parameter.knownKeys := rfl
    exact valuesIn_written_other (keys ▸ by decide)
  have none : valuesIn "tsType" v.addedEntries = [] := by
    rw [ParameterView.addedEntries]
    simp [untyped]
  have all : v.toJson = .object (written (members v.parameter) ++ v.parameter.others ++ v.addedEntries) := by
    rw [← toEntries_eq]
    rfl
  rw [all, held?_object, valuesIn_append, valuesIn_append, known, others_silent shown leaves, none]
  rfl

theorem view_described (plainly : PlainlyTyped o) (shown : bare v = viewOf document o p) {t : Value}
    (typed : v.computed.type = some t) : ∃ d : Descriptor, t = d.toJson := by
  have computed : v.computed = (viewOf document o p).computed := congrArg (·.computed) shown
  rw [computed] at typed
  cases document with
  | declaration d => cases typed
  | specification s =>
    have answered : (typeIn (.specification s) o (.parameter p)).type = some t := typed
    exact computed_described plainly _ answered

theorem parameter_typed (plainly : PlainlyTyped o) (own : o.typeKey ∉ Parameter.knownKeys ++ "pattern" :: derivedKeys)
    (shown : bare v = viewOf document o p) (leaves : ∀ key ∈ signatureKeys o.typeKey, Leaves p key) :
    typeText o.typeKey (.value v.toJson.byKey) = typeName v.computed.type := by
  obtain ⟨unknown, apart⟩ := not_or.mp (mt List.mem_append.mpr own)
  refine typeText_named ?_ (fun untyped => ?_) fun t => view_described plainly shown
  · exact view_held apart shown (by simp [added, view_key shown]) unknown (leaves _ (by simp [signatureKeys]))
  · exact view_silent shown untyped (leaves _ (by simp [signatureKeys]))

/-- What stands for a parameter in a signature is its head, behind a comma if there is a parameter before it. -/
theorem parameterText_head (plainly : PlainlyTyped o)
    (own : o.typeKey ∉ Parameter.knownKeys ++ "pattern" :: derivedKeys) (shown : bare v = viewOf document o p)
    (leaves : ∀ key ∈ signatureKeys o.typeKey, Leaves p key) :
    parameterText o.typeKey v = (if v.notFirstParameter then ", " else "") ++ parameterHead v := by
  have apart : o.typeKey ∉ "pattern" :: derivedKeys := (not_or.mp (mt List.mem_append.mpr own)).2
  have left : ∀ key ∈ derivedKeys, Leaves p key := fun key own => leaves key (by simp [signatureKeys, own])
  have name : held? "camelCaseName" v.toJson = some (.string v.camelCaseName) :=
    view_derived apart shown left (by simp [derived, derivedBefore])
  have cardinality : held? "cardinality" v.toJson = some (.string v.cardinality) :=
    view_derived apart shown left (by simp [derived, derivedBehind])
  have mark : held? "notFirstParameter" v.toJson = flag v.notFirstParameter :=
    view_derived apart shown left (by simp [derived, derivedBehind])
  have comma : (seen v "notFirstParameter").isTrue = v.notFirstParameter := by
    rw [seen, get?_byKey, mark]
    cases v.notFirstParameter <;> rfl
  rw [parameterText, comma, seen_held name, seen_held cardinality, parameter_typed plainly own shown leaves,
    parameterHead]
  simp only [String.append_assoc]

end Parameters

/-! ## Commas -/

theorem join_behind {text : ParameterView → String} {list : List ParameterView}
    (later : ∀ v ∈ list, v.notFirstParameter = true) (first : String) :
    first ++ String.join (list.map fun v => (if v.notFirstParameter then ", " else "") ++ text v) =
      ", ".intercalate (first :: list.map text) := by
  induction list generalizing first with
  | nil => simp
  | cons v rest ih =>
    obtain ⟨here, later⟩ := List.forall_mem_cons.mp later
    rw [List.map_cons, List.map_cons, String.join_cons, String.intercalate_cons_cons, ← ih later, here, if_pos rfl]
    simp only [String.append_assoc]

/-- Texts with commas by the marks of their views are texts with commas between them. -/
theorem join_separated {text : ParameterView → String} {list : List ParameterView}
    (marks : Successive Locations.MarkedByOrder list) :
    String.join (list.map fun v => (if v.notFirstParameter then ", " else "") ++ text v) =
      ", ".intercalate (list.map text) := by
  cases list with
  | nil => rfl
  | cons v rest =>
    have first : v.notFirstParameter = false := by
      have mark : v.notFirstParameter = true ↔ [] ≠ [] := marks [] v rest rfl
      simpa using mark
    have later : ∀ w ∈ rest, w.notFirstParameter = true := by
      intro w member
      obtain ⟨front, back, split⟩ := List.append_of_mem member
      exact (marks (v :: front) w back (by rw [split]; rfl)).mpr (List.cons_ne_nil _ _)
    rw [List.map_cons, String.join_cons, first, if_neg Bool.false_ne_true, String.empty_append, join_behind later,
      List.map_cons]

/-! ## Results -/

theorem method_returns (m : Method) :
    (methodRecord m.toJson).get? "return" = m.returns.map fun r => r.toJson.byKey := by
  rw [methodRecord, Method.toJson, record_get?]
  cases m.returns <;>
    simp [List.lookup_cons, List.lookup_append, lookup_entry?, lookup_flagEntry, securityEntries]

/-- Methods return the schemas of responses, if no default type is set. -/
theorem methods_returns {document : ApiBindings.Document} {o : Options} {model : Model}
    (built : ofDocument document o = .ok model) (undefaulted : o.defaultType = none) :
    List.Forall₂ (fun responses m => m.returns = (returned? responses).map fun schema =>
      .schema schema (typeIn document o (.schema schema))) (declared document) model.methods := by
  cases document with
  | declaration d =>
    cases built
    rw [declared, ← map_apiEndpoints, List.forall₂_map_left_iff]
    refine (walkDeclaration_shows d o).imp fun e m shown => ?_
    rw [shown]
    rfl
  | specification s =>
    obtain ⟨w, run, rfl⟩ := ok_of_map built
    have listed := map_endpoints s fun e => e.operation.responses
    rw [declared, ← listed, List.forall₂_map_left_iff]
    refine (walk_shows run).imp fun e m shown => ?_
    rw [shows_returns shown, responsesOf_eq, undefaulted]
    cases returned? e.operation.responses <;> rfl

/-- A schema leaves the keys of types to the view of what is returned. -/
def SchemaLeaves (typeKey : String) (schema : Entries) : Prop :=
  ∀ key ∈ ["tsType", typeKey], key ∉ schema.map (·.1)

theorem result_typed {o : Options} (plainly : PlainlyTyped o) {schema? : Option Entries}
    (leaves : ∀ schema, schema? = some schema → SchemaLeaves o.typeKey schema) {m : Method}
    (returns : m.returns = schema?.map fun schema => .schema schema (typeIn document o (.schema schema))) :
    typeText o.typeKey (.ofOption ((methodRecord m.toJson).get? "return")) = typeName m.returnType? := by
  rw [method_returns, Method.returnType?, returns]
  cases schema? with
  | none => rfl
  | some schema =>
    have silent {key : String} (among : key ∈ ["tsType", o.typeKey]) : valuesIn key schema = [] :=
      (valuesIn_eq_nil _ _).mpr (leaves schema rfl key among)
    have holds {key : String} (among : key ∈ ["tsType", o.typeKey]) :
        held? key (ReturnView.schema schema (typeIn document o (.schema schema))).toJson =
          if o.typeKey = key then (typeIn document o (.schema schema)).type else none := by
      rw [ReturnView.toJson, held?_object, valuesIn_append, silent among, valuesIn_type, List.nil_append]
      by_cases typed : o.typeKey = key
      · rw [if_pos typed]
        exact (congrArg List.getLast? (if_pos typed)).trans (by cases (typeIn document o (.schema schema)).type <;> rfl)
      · rw [if_neg typed]
        exact congrArg List.getLast? (if_neg typed)
    refine typeText_named ?_ (fun untyped => ?_) fun t => computed_described plainly _
    · rw [holds (by simp), if_pos rfl]
      rfl
    · change (typeIn document o (.schema schema)).type = none at untyped
      rw [holds (by simp), untyped, ite_self]

/-! ## Members of documents -/

/-- A document leaves the keys that a signature reads to the views of its parameters and schemas. -/
structure LeavesKeys (document : ApiBindings.Document) (typeKey : String) : Prop where
  parameters : ∀ bound ∈ bindings document, ∀ p ∈ bound, ∀ key ∈ signatureKeys typeKey, Leaves p key
  schemas : ∀ responses ∈ declared document, ∀ r ∈ responses, ∀ schema, r.2.schema = some schema →
    SchemaLeaves typeKey schema

theorem returned?_mem {responses : List (String × Response)} {schema : Entries}
    (first : returned? responses = some schema) : ∃ r ∈ responses, r.2.schema = some schema := by
  obtain ⟨r, member, found⟩ := List.exists_of_findSome?_eq_some first
  refine ⟨r, member, ?_⟩
  dsimp only at found
  split at found
  · exact found
  · cases found

section Members
variable {document : ApiBindings.Document} {o : Options} {model : Model}

/-- Nothing is returned with a type where there is no converter, and nothing at all in a 1.x document. -/
theorem result_untyped (bare : o.converter = none ∨ ∃ d, document = .declaration d)
    {responses : List (String × Response)} (among : responses ∈ declared document) :
    (((returned? responses).map fun schema => ReturnView.schema schema (typeIn document o (.schema schema))).bind
      ReturnView.type?) = none := by
  rcases bare with unconverted | ⟨d, rfl⟩
  · cases returned? responses with
    | none => rfl
    | some schema =>
      cases document with
      | declaration d => rfl
      | specification s =>
        show (o.answers s).map _ = none
        rw [Options.answers, unconverted]
        rfl
  · simp only [declared, List.mem_flatMap, List.mem_map] at among
    obtain ⟨_, _, _, _, rfl⟩ := among
    rfl

/-- The signature of a method is the head of its member. -/
theorem signature_head (built : ofDocument document o = .ok model) (plainly : PlainlyTyped o)
    (undefaulted : o.defaultType = none) (own : o.typeKey ∉ Parameter.knownKeys ++ "pattern" :: derivedKeys)
    (leaves : LeavesKeys document o.typeKey) {m : Method} (member : m ∈ model.methods) :
    signature o.typeKey m = memberHead m := by
  obtain ⟨responses, among, returns⟩ := exists_of_forall₂ (methods_returns built undefaulted) member
  obtain ⟨bound, listed, shown⟩ := exists_of_forall₂ (methods_parameters built) member
  have heads : m.parameters.map (parameterText o.typeKey) =
      m.parameters.map fun v => (if v.notFirstParameter then ", " else "") ++ parameterHead v := by
    refine List.map_congr_left fun v inside => ?_
    obtain ⟨p, bound', same⟩ := List.mem_map.mp (shown ▸ List.mem_map_of_mem (f := bare) inside)
    exact parameterText_head plainly own same.symm (leaves.parameters bound listed p bound')
  have marks : Successive Locations.MarkedByOrder m.parameters := by
    obtain ⟨parameters, placed⟩ := Walks.method_parameters built member
    rw [(Prod.mk.inj placed).1]
    exact Locations.place_order _
  have result : typeText o.typeKey (.ofOption ((methodRecord m.toJson).get? "return")) = typeName m.returnType? := by
    refine result_typed plainly (fun schema first => ?_) returns
    obtain ⟨r, inside, given⟩ := returned?_mem first
    exact leaves.schemas responses among r inside schema given
  rw [signature, heads, join_separated marks, result, memberHead]

/-- A text of the class template is what stands before the members, the members one behind the other, and a brace.
    There are no types where no converter is set, and none in a 1.x document. -/
structure WritesMembers (document : ApiBindings.Document) (o : Options) (model : Model) (text : String) : Prop where
  whole : text = headText model ++ String.join (model.methods.map memberText) ++ "\x7d"
  untyped : (o.converter = none ∨ ∃ d, document = .declaration d) → ∀ m ∈ model.methods,
    m.returnType? = none ∧ ∀ v ∈ m.parameters, v.computed.type = none

/-- The class template writes a text for every document, with one member for each method in order. -/
theorem members_written (built : ofDocument document o = .ok model) (plainly : PlainlyTyped o)
    (undefaulted : o.defaultType = none) (own : o.typeKey ∉ Parameter.knownKeys ++ "pattern" :: derivedKeys)
    (leaves : LeavesKeys document o.typeKey) :
    ∃ text, model.render classTemplateName classTemplate o.typeKey = .ok text ∧
      WritesMembers document o model text := by
  refine ⟨_, render_built built o.typeKey, ?_, fun bare m member => ?_⟩
  · have members : model.methods.map (ClassText.blockText o.typeKey) = model.methods.map memberText := by
      refine List.map_congr_left fun m member => ?_
      rw [ClassText.blockText, signature_head built plainly undefaulted own leaves member, memberText]
    rw [classText, members]
  · obtain ⟨responses, among, returns⟩ := exists_of_forall₂ (methods_returns built undefaulted) member
    obtain ⟨bound, _, shown⟩ := exists_of_forall₂ (methods_parameters built) member
    refine ⟨?_, fun v inside => ?_⟩
    · rw [Method.returnType?, returns]
      exact result_untyped bare among
    · obtain ⟨p, _, same⟩ := List.mem_map.mp (shown ▸ List.mem_map_of_mem (f := Bindings.bare) inside)
      have computed : v.computed = (viewOf document o p).computed := congrArg (·.computed) same.symm
      rw [computed]
      rcases bare with unconverted | ⟨d, rfl⟩
      · exact viewOf_untyped unconverted document p
      · rfl

end Members

/-- The parameter that names a pet. -/
def petId : Parameter := { requiredParameter "id" "path" with type := some "string" }

/-- The parameter that says how much is wanted of a pet. -/
def depth : Parameter := { plainParameter "depth" (some "query") with type := some "integer" }

/-- A document with an operation that is given an id and perhaps a number, and returns a text. -/
def typedPets : Specification :=
  pathsOnly [("/pets/{id}", ⟨[.inline depth], [(.get, { blankOperation with
    parameters := [.inline petId]
    responses := [("200", ⟨none, some [("type", .string "string")], []⟩)] })]⟩)]

theorem typedPets_heads :
    (ofDocument (.specification typedPets) typing).toOption.map (fun m => m.methods.map memberHead) =
      some ["  async getPetsById(id: string, depth?: number): Promise<string> \x7b"] := by
  -- The converter is no structural recursion, so its texts are put in by rewriting.
  have heads : (ofDocument (.specification typedPets) typing).toOption.map (fun m => m.methods.map memberHead) =
      some ["  async " ++ "getPetsById" ++ "(" ++ ", ".intercalate [
        "id" ++ "" ++ ": " ++ typeName (some (describeParameter petId).toJson),
        "depth" ++ "?" ++ ": " ++ typeName (some (describeParameter depth).toJson)] ++
        "): Promise<" ++ typeName (some (describe [("type", .string "string")]).toJson) ++ "> \x7b"] := rfl
  have id : describeParameter petId = .atom "string" := describe_final rfl
  have number : describeParameter depth = .atom "number" := describe_final rfl
  have result : describe [("type", .string "string")] = .atom "string" := describe_final rfl
  rw [heads, typeName_descriptor, typeName_descriptor, typeName_descriptor, id, number, result]
  rfl

theorem typedPets_leaves : LeavesKeys (.specification typedPets) typing.typeKey := by
  refine ⟨?_, ?_⟩
  · unfold Leaves
    decide +kernel
  · unfold SchemaLeaves
    decide +kernel

theorem members_written_typedPets :
    ∃ model text, ofDocument (.specification typedPets) typing = .ok model ∧
      model.render classTemplateName classTemplate typing.typeKey = .ok text ∧
      model.methods.map memberHead = ["  async getPetsById(id: string, depth?: number): Promise<string> \x7b"] ∧
      WritesMembers (.specification typedPets) typing model text := by
  obtain ⟨model, built⟩ : ∃ model, ofDocument (.specification typedPets) typing = .ok model := ⟨_, rfl⟩
  obtain ⟨text, rendered, written⟩ := members_written built (.inr rfl) rfl (by decide) typedPets_leaves
  have heads := typedPets_heads
  rw [built] at heads
  exact ⟨model, text, built, rendered, Option.some.inj heads, written⟩

end ApiBindings.Members
