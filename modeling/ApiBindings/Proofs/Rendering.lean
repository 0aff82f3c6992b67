import ApiBindings.Proofs.Walks
import ApiBindings.TypeScript.ClassTemplate

/-!
# Templates node by node

What a template writes is the text of its nodes, one behind the other: there is a lemma for each kind of node, and it
says what is written by that node and those behind it. A loop writes its body once for each item, in order
(`writes_each`). To a template a model is what its entries hold, and a method too.
-/

namespace ApiBindings.Rendering
open ApiBindings.Template ApiBindings.View ApiBindings.Walks
open ApiBindings.Document (Location)
open ApiBindings.Json (Value Entries)

/-! ## Nodes -/

theorem printed_text {scope : Scope} (plain : scope.isMarkup = false) (d : Datum) : scope.printed d = d.text := by
  cases d with
  | markup s => rfl
  | _ => simp [Scope.printed, plain]

section Nodes
variable {scope : Scope} {rest : List Node} {u : String}

theorem writes_nil : renderAll [] scope = .ok "" := rfl

theorem writes_cons {node : Node} {s : String} {scope' : Scope} (here : node.render scope = .ok (s, scope'))
    (behind : renderAll rest scope' = .ok u) : renderAll (node :: rest) scope = .ok (s ++ u) := by
  show (node.render scope >>= fun r => renderAll rest r.2 >>= fun u => pure (r.1 ++ u)) = _
  rw [here]
  show (renderAll rest scope' >>= fun u => pure (s ++ u)) = _
  rw [behind]
  rfl

theorem writes_text {s : String} (behind : renderAll rest scope = .ok u) :
    renderAll (.text s :: rest) scope = .ok (s ++ u) :=
  writes_cons rfl behind

theorem writes_output (plain : scope.isMarkup = false) {e : Expr} {d : Datum} (value : e.eval scope = .ok d)
    (behind : renderAll rest scope = .ok u) : renderAll (.output e :: rest) scope = .ok (d.text ++ u) := by
  refine writes_cons ?_ behind
  show (e.eval scope >>= fun d => pure (scope.printed d, scope)) = _
  rw [value, ← printed_text plain d]
  rfl

theorem writes_branch {condition : Expr} {d : Datum} (value : condition.eval scope = .ok d) {yes no : List Node}
    {s : String} (side : renderAll (if d.isTrue then yes else no) scope = .ok s)
    (behind : renderAll rest scope = .ok u) : renderAll (.branch condition yes no :: rest) scope = .ok (s ++ u) := by
  refine writes_cons ?_ behind
  show (condition.eval scope >>= _) = _
  rw [value]
  cases holds : d.isTrue with
  | true =>
    rw [holds, if_pos rfl] at side
    show (if d.isTrue then (renderAll yes scope).bind _ else _) = _
    rw [holds, if_pos rfl, side]
    rfl
  | false =>
    rw [holds, if_neg Bool.false_ne_true] at side
    show (if d.isTrue then _ else (renderAll no scope).bind _) = _
    rw [holds, if_neg Bool.false_ne_true, side]
    rfl

theorem writes_string (plain : scope.isMarkup = false) {e : Expr} {s : String}
    (value : e.eval scope = .ok (.value (.string s))) (behind : renderAll rest scope = .ok u) :
    renderAll (.output e :: rest) scope = .ok (s ++ u) := writes_output plain value behind

/-- A branch with nothing behind it writes one of its sides. -/
theorem writes_side {condition : Expr} {b : Bool} (value : condition.eval scope = .ok (.ofBool b)) {yes no : List Node}
    {s : String} (side : renderAll (if b then yes else no) scope = .ok s) :
    renderAll [.branch condition yes no] scope = .ok s := by
  have side' : renderAll (if (Datum.ofBool b).isTrue then yes else no) scope = .ok s := by cases b <;> exact side
  exact (writes_branch value side' writes_nil).trans (congrArg Except.ok String.append_empty)

/-- An output with nothing behind it writes its text. -/
theorem writes_last (plain : scope.isMarkup = false) {e : Expr} {d : Datum} (value : e.eval scope = .ok d) :
    renderAll [.output e] scope = .ok d.text :=
  (writes_output plain value writes_nil).trans (congrArg Except.ok String.append_empty)

/-- A text stands where a flag is set. -/
theorem writes_flagged {condition : Expr} {d : Datum} (value : condition.eval scope = .ok d) {s : String}
    (behind : renderAll rest scope = .ok u) :
    renderAll (.branch condition [.text s] [] :: rest) scope = .ok ((if d.isTrue then s else "") ++ u) := by
  refine writes_branch value ?_ behind
  split
  · rw [writes_text writes_nil, String.append_empty]
  · exact writes_nil

/-- The rounds of a loop write what each of them writes. -/
theorem rounds_join {α : Type} {json : α → Value} {text : α → String}
    {f : Round → Value → Except Failure String} {list : List α}
    (each : ∀ a ∈ list, ∀ r, f r (json a) = .ok (text a)) (count? : Option Nat) (index : Nat)
    (previous? : Option Value) :
    rounds f count? index previous? (list.map json) = .ok (String.join (list.map text)) := by
  induction list generalizing index previous? with
  | nil => rfl
  | cons a list ih =>
    obtain ⟨here, later⟩ := List.forall_mem_cons.mp each
    rw [List.map_cons, List.map_cons, String.join_cons]
    show (f _ (json a) >>= _) = _
    rw [here]
    show (rounds f count? (index + 1) (some (json a)) (list.map json) >>= fun u => pure (text a ++ u)) = _
    rw [ih later]
    rfl

/-- A loop over a list writes what its body writes for each item. -/
theorem writes_each {α : Type} {json : α → Value} {text : α → String} {list : List α} {items : Expr}
    (value : items.eval scope = .ok (.value (.array (list.map json)))) {name : String} {body : List Node}
    (each : ∀ a ∈ list, ∀ r : Round,
      renderAll body ((scope.withName name (.value (json a))).withName "loop" (.round r)) = .ok (text a))
    (behind : renderAll rest scope = .ok u) :
    renderAll (.each (.one name) items none body [] :: rest) scope = .ok (String.join (list.map text) ++ u) := by
  refine writes_cons ?_ behind
  show (items.eval scope >>= _) = _
  rw [value]
  cases list with
  | nil => rfl
  | cons a list =>
    have run := rounds_join (f := fun r v => do
      renderAll body ((← (Target.one name).bind scope v).withName "loop" (.round r))) each
      (some (list.map json).length.succ) 0 none
    show ((rounds _ _ 0 none _).bind fun s => .ok (s, scope)) = _
    rw [List.map_cons] at run ⊢
    exact congrArg (Except.bind · fun s => .ok (s, scope)) run

end Nodes

/-! ## Entries -/

theorem byKeyItems_eq (items : List Value) : Json.byKeyItems items = items.map Value.byKey := by
  induction items with
  | nil => rfl
  | cons v rest ih => rw [Json.byKeyItems, ih, List.map_cons]

theorem byKey_string (s : String) : (Value.string s).byKey = .string s := rfl

theorem byKey_bool (b : Bool) : (Value.bool b).byKey = .bool b := rfl

theorem byKey_array (items : List Value) : (Value.array items).byKey = .array (items.map Value.byKey) :=
  congrArg Value.array (byKeyItems_eq items)

theorem lookup_entry? {α : Type} (name key : String) (toJson : α → Value) (value : Option α) :
    (Document.Parameter.entry? key toJson value).lookup name = if name = key then value.map toJson else none := by
  cases value with
  | none => simp [Document.Parameter.entry?]
  | some a =>
    by_cases same : name = key
    · simp [Document.Parameter.entry?, same]
    · simp [Document.Parameter.entry?, same]

theorem lookup_flagEntry (name key : String) (b : Bool) :
    (ParameterView.flagEntry key b).lookup name = if name = key ∧ b then some (.bool true) else none := by
  cases b with
  | false => simp [ParameterView.flagEntry]
  | true =>
    by_cases same : name = key
    · simp [ParameterView.flagEntry, same]
    · simp [ParameterView.flagEntry, same]

/-- A record holds what its entries hold, arranged by their rules. -/
theorem record_get? (rules : List (String × (Value → Value))) (entries : Entries) (name : String) :
    (record rules (.object entries)).get? name =
      (entries.lookup name).map ((rules.lookup name).getD Value.byKey) :=
  lookup_map (fun k => (rules.lookup k).getD Value.byKey) entries name

/-- To begin with, a name means what the entry with that key holds. -/
theorem find_entries (isMarkup : Bool) (entries : Entries) (name : String) :
    (⟨isMarkup, entries.map fun (k, v) => (k, .value v), []⟩ : Scope).find name = .ofOption (entries.lookup name) := by
  rw [Scope.find, lookup_map (fun _ => Datum.value)]
  cases entries.lookup name <;> rfl

/-! ## What models hold -/

theorem model_lookup (m : Model) (name : String) :
    m.templateEntries.lookup name =
      (record [("methods", listOf methodRecord), ("byTags", listOf groupRecord)] m.toJson).get? name := rfl

theorem model_description (m : Model) : m.templateEntries.lookup "description" = m.description.map .string := by
  rw [model_lookup, Model.toJson, record_get?]
  cases m.description with
  | some description =>
    simp [List.lookup_cons, List.lookup_append, lookup_entry?, byKey_string]
  | none =>
    cases m.specification with
    | none => simp [List.lookup_cons, List.lookup_append, lookup_entry?, securityEntries]
    | some part =>
      simp [List.lookup_cons, List.lookup_append, lookup_entry?, securityEntries, SpecificationPart.toEntries]

theorem model_methods (m : Model) :
    m.templateEntries.lookup "methods" = some (.array (m.methods.map fun method => methodRecord method.toJson)) := by
  rw [model_lookup, Model.toJson, record_get?]
  simp [List.lookup_cons, List.lookup_append, lookup_entry?, securityEntries, listOf]

theorem model_imports (m : Model) : m.templateEntries.lookup "imports" = some (textsJson m.imports) := by
  have texts (list : List String) : (textsJson list).byKey = textsJson list := by
    rw [textsJson, byKey_array, List.map_map]
    rfl
  rw [model_lookup, Model.toJson, record_get?]
  simp [List.lookup_cons, List.lookup_append, lookup_entry?, texts]

theorem model_className (m : Model) : m.templateEntries.lookup "className" = some (.string m.className) := by
  rw [model_lookup, Model.toJson, record_get?]
  simp [List.lookup_cons, List.lookup_append, lookup_entry?, byKey_string]

theorem model_domain (m : Model) : m.templateEntries.lookup "domain" = some (.string m.domain) := by
  rw [model_lookup, Model.toJson, record_get?]
  simp [List.lookup_cons, List.lookup_append, lookup_entry?, byKey_string]

/-! ## What methods hold -/

theorem method_verb (m : Method) : (methodRecord m.toJson).get? "method" = some (.string m.verb) := by
  rw [methodRecord, Method.toJson, record_get?]
  simp [List.lookup_cons, byKey_string]

theorem method_path (m : Method) : (methodRecord m.toJson).get? "path" = some (.string m.path) := by
  rw [methodRecord, Method.toJson, record_get?]
  simp [List.lookup_cons, byKey_string]

theorem method_summary (m : Method) : (methodRecord m.toJson).get? "summary" = m.summary.map .string := by
  rw [methodRecord, Method.toJson, record_get?]
  cases m.summary with
  | none =>
    simp [List.lookup_cons, List.lookup_append, lookup_entry?, lookup_flagEntry, securityEntries]
  | some s =>
    simp [List.lookup_cons, List.lookup_append, lookup_entry?, byKey_string]

theorem method_deprecated (m : Method) :
    (methodRecord m.toJson).get? "deprecated" = if m.deprecated then some (.bool true) else none := by
  rw [methodRecord, Method.toJson, record_get?]
  cases m.deprecated with
  | false =>
    simp [List.lookup_cons, List.lookup_append, lookup_entry?, lookup_flagEntry, securityEntries]
  | true =>
    simp [List.lookup_cons, List.lookup_append, lookup_entry?, lookup_flagEntry, byKey_bool]

theorem method_name (m : Method) : (methodRecord m.toJson).get? "methodName" = some (.string m.methodName) := by
  rw [methodRecord, Method.toJson, record_get?]
  simp [List.lookup_cons, byKey_string]

theorem method_parameters (m : Method) :
    (methodRecord m.toJson).get? "parameters" = some (.array (m.parameters.map fun v => v.toJson.byKey)) := by
  rw [methodRecord, Method.toJson, record_get?]
  simp [List.lookup_cons, List.lookup_append, lookup_entry?, lookup_flagEntry, securityEntries, byKey_array]

theorem method_headers (m : Method) :
    (methodRecord m.toJson).get? "headers" = some (.array (m.headers.map fun h => record [] h.toJson)) := by
  rw [methodRecord, Method.toJson, record_get?]
  simp [List.lookup_cons, List.lookup_append, lookup_entry?, lookup_flagEntry, securityEntries, listOf]

theorem lookup_listEntry (name key : String) (list : List ParameterView) :
    (ByIn.listEntry key list).lookup name =
      if name = key ∧ list ≠ [] then some (.array (list.map ParameterView.toJson)) else none := by
  cases list with
  | nil => simp [ByIn.listEntry]
  | cons v list =>
    by_cases same : name = key
    · simp [ByIn.listEntry, same]
    · simp [ByIn.listEntry, same]

theorem method_index (m : Method) : (methodRecord m.toJson).get? "byIn" = some (record [] m.byIn.toJson) := by
  rw [methodRecord, Method.toJson, record_get?]
  simp [List.lookup_cons, List.lookup_append, lookup_entry?, lookup_flagEntry, securityEntries]

/-- The key under which an index holds the parameters at a location. -/
def bucketKey : Location → String
  | .body => "body"
  | .path => "path"
  | .query => "query"
  | .header => "header"
  | .formData => "formData"

/-- A location at which there is nothing has no entry. -/
theorem index_bucket (b : ByIn) (l : Location) :
    (record [] b.toJson).get? (bucketKey l) =
      if b.bucket l = [] then none else some (.array ((b.bucket l).map fun v => v.toJson.byKey)) := by
  have views (list : List ParameterView) :
      (Value.array (list.map ParameterView.toJson)).byKey = .array (list.map fun v => v.toJson.byKey) := by
    rw [byKey_array, List.map_map]
    rfl
  rw [ByIn.toJson, record_get?]
  cases l with
  | _ =>
    simp [bucketKey, ByIn.bucket, List.lookup_cons, List.lookup_append, lookup_listEntry, apply_ite (Option.map _),
      views]
    congr

theorem index_hasBody (b : ByIn) : (record [] b.toJson).get? "hasBody" = some (.bool b.hasBody) := by
  rw [ByIn.toJson, record_get?]
  simp [List.lookup_append, lookup_listEntry, byKey_bool]

end ApiBindings.Rendering
