import ApiBindings.View.OfDocument
import Mathlib.Data.List.Forall2

/-!
# Walks

What a walk over a document leaves behind, for documents of both versions. An invariant of a walk is shown
for the start and for one more operation (`walk_states`, `walkDeclaration_states`); by the first such
invariant every method of a view is the method of its operation, in document order, but for its name and its
marks of place (`walk_shows`, `walkDeclaration_shows`).
-/

namespace ApiBindings.Walks
open ApiBindings.Document ApiBindings.View

/-! ## Lists read from the front -/

/-- Every member of a list stands in a relation to those before it. -/
def Successive {α : Type} (R : List α → α → Prop) (list : List α) : Prop :=
  ∀ before a after, list = before ++ a :: after → R before a

theorem successive_nil {α : Type} (R : List α → α → Prop) : Successive R [] := by
  intro before a after split
  simp at split

theorem successive_concat {α : Type} {R : List α → α → Prop} {list : List α} {a : α}
    (old : Successive R list) (last : R list a) : Successive R (list ++ [a]) := by
  intro before b after split
  rcases List.eq_nil_or_concat' after with rfl | ⟨init, c, rfl⟩
  · obtain ⟨rfl, same⟩ := List.append_inj' split rfl
    cases same
    exact last
  · rw [← List.cons_append, ← List.append_assoc] at split
    obtain ⟨inside, _⟩ := List.append_inj' split rfl
    exact old before b init inside

/-- A relation that sees members through a map alone holds in lists that look the same through it. -/
theorem successive_of_map_eq {α β : Type} {R : List α → α → Prop} {f : α → β} {list list' : List α}
    (respects : ∀ before before' a a', before.map f = before'.map f → f a = f a' → R before a → R before' a')
    (same : list.map f = list'.map f) (old : Successive R list) : Successive R list' := by
  intro before' a' after' split
  rw [split, List.map_append, List.map_cons, List.map_eq_append_iff] at same
  obtain ⟨before, rest, rfl, front, back⟩ := same
  obtain ⟨a, after, rfl, here, _⟩ := List.map_eq_cons_iff.mp back
  exact respects before before' a a' front here (old before a after rfl)

/-- What holds of a fold at its start and after every step holds at its end. -/
theorem foldl_states {α σ : Type} {f : σ → α → σ} {P : List α → σ → Prop} {start : σ} (init : P [] start)
    (step : ∀ done a state, P done state → P (done ++ [a]) (f state a)) (list : List α) :
    P list (list.foldl f start) := by
  have general : ∀ rest done state, P done state → P (done ++ rest) (rest.foldl f state) := by
    intro rest
    induction rest with
    | nil => intro done state holds; simpa using holds
    | cons a rest ih =>
      intro done state holds
      simpa using ih (done ++ [a]) (f state a) (step done a state holds)
  exact general list [] start init

/-- What holds of a fold that may fail at its start and after every step holds at its end. -/
theorem foldlM_states {ε α σ : Type} {f : σ → α → Except ε σ} {P : List α → σ → Prop} {start : σ}
    (init : P [] start)
    (step : ∀ done a state next, P done state → f state a = .ok next → P (done ++ [a]) next)
    {list : List α} {last : σ} (run : list.foldlM f start = .ok last) : P list last := by
  have general : ∀ rest done state, P done state → rest.foldlM f state = .ok last → P (done ++ rest) last := by
    intro rest
    induction rest with
    | nil =>
      intro done state holds run
      cases run
      simpa using holds
    | cons a rest ih =>
      intro done state holds run
      rw [List.foldlM_cons] at run
      cases stepped : f state a with
      | error failure =>
        rw [stepped] at run
        cases run
      | ok next =>
        rw [stepped] at run
        simpa using ih (done ++ [a]) next (step done a state next holds stepped) run
  exact general list [] start init run

theorem lookup_isSome_keys {α : Type} (list : List (String × α)) (key : String) :
    (list.lookup key).isSome = true ↔ key ∈ list.map (·.1) := by
  rw [List.lookup_isSome_iff, List.mem_map]
  exact exists_congr fun e => and_congr_right fun _ => by rw [beq_iff_eq, eq_comm]

theorem lookup_map {α β : Type} (f : String → α → β) (entries : List (String × α)) (name : String) :
    (entries.map fun (k, v) => (k, f k v)).lookup name = (entries.lookup name).map (f name) := by
  induction entries with
  | nil => rfl
  | cons entry rest ih =>
    obtain ⟨k, v⟩ := entry
    by_cases same : name = k
    · simp [same]
    · simpa [List.lookup_cons, beq_false_of_ne same] using ih

/-- A value that was made from another by a map. -/
theorem ok_of_map {ε α β : Type} {x : Except ε α} {f : α → β} {b : β} (made : x.map f = .ok b) :
    ∃ a, x = .ok a ∧ b = f a := by
  cases x with
  | error failure => cases made
  | ok a =>
    cases made
    exact ⟨a, rfl, rfl⟩

theorem ok_of_bind {ε α β : Type} {x : Except ε α} {f : α → Except ε β} {b : β} (made : x.bind f = .ok b) :
    ∃ a, x = .ok a ∧ f a = .ok b := by
  cases x with
  | error failure => cases made
  | ok a => exact ⟨a, rfl, made⟩

theorem ok_of_mapError {ε ε' α : Type} {x : Except ε α} {f : ε → ε'} {a : α} (made : x.mapError f = .ok a) :
    x = .ok a := by
  cases x with
  | error failure => cases made
  | ok a =>
    cases made
    rfl

theorem ok_of_mapM_cons {ε α β : Type} {f : α → Except ε β} {a : α} {rest : List α} {made : List β}
    (run : (a :: rest).mapM f = .ok made) :
    ∃ b others, f a = .ok b ∧ rest.mapM f = .ok others ∧ made = b :: others := by
  rw [List.mapM_cons] at run
  cases first : f a with
  | error failure =>
    rw [first] at run
    cases run
  | ok b =>
    rw [first] at run
    obtain ⟨others, later, rfl⟩ := ok_of_map run
    exact ⟨b, others, rfl, later, rfl⟩

/-! ## Responses of an operation -/

/-- The schema of a response that an operation returns: that of the first successful one with a schema. -/
def returned? (responses : List (String × Response)) : Option Json.Entries :=
  responses.findSome? fun (code, r) => if isSuccess code then r.schema else none

/-- An operation returns the schema of a response with its type, else the default type. -/
theorem responsesOf_eq (s : Specification) (o : Options) (op : Operation) :
    responsesOf s o op =
      (op.responses.map fun (code, r) => ⟨code, r⟩,
        ((returned? op.responses).map fun schema => .schema schema (o.computed s (.schema schema))) <|>
          o.defaultType.map .default) := by
  have recorded : op.responses.foldl (recordResponse s o) ([], none) = (op.responses.map fun (code, r) => ⟨code, r⟩,
      (returned? op.responses).map fun schema => .schema schema (o.computed s (.schema schema))) := by
    refine foldl_states (P := fun done (seen : List ResponseView × Option ReturnView) =>
      seen = (done.map fun (code, r) => ⟨code, r⟩,
        (returned? done).map fun schema => .schema schema (o.computed s (.schema schema)))) rfl ?_ op.responses
    rintro done ⟨code, r⟩ _ rfl
    have rest : returned? (done ++ [(code, r)]) =
        (returned? done).or (if isSuccess code then r.schema else none) := by
      rw [returned?, List.findSome?_append, List.findSome?_singleton, returned?]
    rw [rest, List.map_append]
    cases returned? done with
    | some schema => simp [recordResponse]
    | none => cases success : isSuccess code <;> simp [recordResponse, success]
  rw [responsesOf, recorded]

/-! ## The walk over a 2.0 document -/

/-- What is read off the endpoints of a document is read off path by path. -/
theorem map_endpoints {α : Type} (s : Specification) (read : Endpoint → α) :
    (endpoints s).map read =
      s.paths.flatMap fun p => p.2.operations.map fun v => read ⟨p.1, p.2, v.1, v.2⟩ := by
  simp only [endpoints, List.map_flatMap, List.map_map, Function.comp_def]

/-- The name of the method of an endpoint that comes next in a walk. -/
def nextName (w : Walk) (e : Endpoint) : String := claimName w.names (requestedName e.path e.verb e.operation)

/-- A method as it enters a walk: with its marks of place. -/
def marked (w : Walk) (m : Method) : Method :=
  { m with
    isFirstPath := w.lastPath != some m.path
    notFirstMethod := !w.methods.isEmpty
    notFirstByTag := m.notFirstByTag || (w.groups.lookup (m.tagGroup.getD untagged)).isSome }

theorem insertMethod_fst (s : Specification) (key : String) (m : Method) (groups : List (String × TagGroup)) :
    (insertMethod s key m groups).1 =
      { m with notFirstByTag := m.notFirstByTag || (groups.lookup key).isSome } := by
  unfold insertMethod
  cases groups.lookup key with
  | none => simp
  | some g => simp

theorem push_methods (s : Specification) (w : Walk) (m : Method) :
    (w.push s m).methods = w.methods ++ [marked w m] := by
  simp only [Walk.push, insertMethod_fst, marked]

theorem push_names (s : Specification) (w : Walk) (m : Method) : (w.push s m).names = w.names := rfl

theorem step_eq (s : Specification) (o : Options) (w : Walk) (e : Endpoint) :
    w.step s o e = (methodOf s o e (nextName w e)).map
      fun m => Walk.push s { w with names := w.names ++ [nextName w e] } m := by
  rw [Walk.step]
  simp only [claim_fst, claim_snd]
  rw [← nextName]
  cases methodOf s o e (nextName w e) <;> rfl

/-- An invariant of the walk over a 2.0 document. -/
theorem walk_states {s : Specification} {o : Options} {P : List Endpoint → Walk → Prop} (init : P [] {})
    (step : ∀ done e w m, P done w → methodOf s o e (nextName w e) = .ok m →
      P (done ++ [e]) (Walk.push s { w with names := w.names ++ [nextName w e] } m))
    {w : Walk} (run : walk s o = .ok w) : P (endpoints s) w := by
  refine foldlM_states (f := Walk.step s o) init ?_ run
  intro done e state next holds stepped
  rw [step_eq] at stepped
  obtain ⟨m, built, rfl⟩ := ok_of_map stepped
  exact step done e state m holds built

/-- A method shows an endpoint: it is the method of that endpoint with some marks of place. -/
def Shows (s : Specification) (o : Options) (e : Endpoint) (m : Method) : Prop :=
  ∃ bare, methodOf s o e m.methodName = .ok bare ∧
    m = { bare with
      isFirstPath := m.isFirstPath, notFirstMethod := m.notFirstMethod, notFirstByTag := m.notFirstByTag }

/-- A method that shows an endpoint has what the endpoint binds, put in place. -/
theorem Shows.method {s : Specification} {o : Options} {e : Endpoint} {m : Method} (shown : Shows s o e m) :
    ∃ bound, boundParameters s e.item e.operation = .ok bound ∧ m = { methodWith s o e m.methodName bound with
      isFirstPath := m.isFirstPath, notFirstMethod := m.notFirstMethod, notFirstByTag := m.notFirstByTag } := by
  obtain ⟨bare, built, same⟩ := shown
  obtain ⟨bound, found, rfl⟩ := ok_of_map built
  exact ⟨bound, found, same⟩

theorem shows_returns {s : Specification} {o : Options} {e : Endpoint} {m : Method} (shown : Shows s o e m) :
    m.returns = (responsesOf s o e.operation).2 := by
  obtain ⟨bound, _, same⟩ := shown.method
  rw [same]
  rfl

theorem methodOf_name {s : Specification} {o : Options} {e : Endpoint} {name : String} {m : Method}
    (built : methodOf s o e name = .ok m) : m.methodName = name := by
  obtain ⟨bound, _, rfl⟩ := ok_of_map built
  rfl

theorem marked_shows {s : Specification} {o : Options} {e : Endpoint} {name : String} {m : Method}
    (w : Walk) (built : methodOf s o e name = .ok m) : Shows s o e (marked w m) := by
  refine ⟨m, ?_, rfl⟩
  have named : (marked w m).methodName = m.methodName := rfl
  rw [named, methodOf_name built]
  exact built

/-- The methods of a walk show the endpoints of the document, one by one and in order. -/
theorem walk_shows {s : Specification} {o : Options} {w : Walk} (run : walk s o = .ok w) :
    List.Forall₂ (Shows s o) (endpoints s) w.methods := by
  refine walk_states (P := fun done w => List.Forall₂ (Shows s o) done w.methods) .nil ?_ run
  intro done e w m shown built
  rw [push_methods]
  exact List.rel_append shown (.cons (marked_shows _ built) .nil)

/-! ## The walk over a 1.x document -/

/-- An operation of a 1.x document that becomes a method, with its path and whether it opens the path. -/
structure ApiEndpoint where
  api : Api
  opens : Bool
  operation : ApiOperation

/-- Operations that follow each other on a path; the first one may open it. -/
def onPath (api : Api) (opens : Bool) : List ApiOperation → List ApiEndpoint
  | [] => []
  | op :: rest => ⟨api, opens, op⟩ :: onPath api false rest

/-- The operations of a path that are not passed over. -/
def boundOperations (api : Api) : List ApiOperation := api.operations.filter fun op => !isPassedOver op

/-- The operations of a 1.x document that become methods, in document order. -/
def apiEndpoints (d : Declaration) : List ApiEndpoint :=
  d.apis.flatMap fun api => onPath api true (boundOperations api)

/-- What is read off the operations that become methods is read off path by path. -/
theorem map_apiEndpoints {α : Type} (d : Declaration) (read : Api → ApiOperation → α) :
    ((apiEndpoints d).map fun e => read e.api e.operation) =
      d.apis.flatMap fun api => (boundOperations api).map (read api) := by
  have path (api : Api) (opens : Bool) (ops : List ApiOperation) :
      ((onPath api opens ops).map fun e => read e.api e.operation) = ops.map (read api) := by
    induction ops generalizing opens with
    | nil => rfl
    | cons op rest ih => simp [onPath, ih]
  simp only [apiEndpoints, List.map_flatMap, path]

/-- The walk after one more endpoint of a 1.x document. -/
def stepTo (d : Declaration) (o : Options) (w : ApiWalk) (e : ApiEndpoint) : ApiWalk :=
  w.step d o e.api e.opens e.operation

theorem stepTo_names (d : Declaration) (o : Options) (w : ApiWalk) (e : ApiEndpoint) :
    (stepTo d o w e).names = w.names ++ [claimName w.names (requestedApiName e.api e.operation)] :=
  claim_snd _ _

theorem walkOperations_eq (d : Declaration) (o : Options) (api : Api) (ops : List ApiOperation) (opens : Bool)
    (w : ApiWalk) : walkOperations d o api opens w ops =
      (onPath api opens (ops.filter fun op => !isPassedOver op)).foldl (stepTo d o) w := by
  induction ops generalizing opens w with
  | nil => rfl
  | cons op rest ih =>
    rw [walkOperations]
    by_cases passed : isPassedOver op = true
    · simp [passed, ih]
    · simp [passed, ih, onPath, stepTo]

/-- The walk over a 1.x document meets the operations that are not passed over, and no others. -/
theorem walkDeclaration_eq (d : Declaration) (o : Options) :
    walkDeclaration d o = (apiEndpoints d).foldl (stepTo d o) {} := by
  rw [walkDeclaration, apiEndpoints, List.foldl_flatMap]
  simp only [walkOperations_eq, boundOperations]

/-- An invariant of the walk over a 1.x document. -/
theorem walkDeclaration_states {d : Declaration} {o : Options} {P : List ApiEndpoint → ApiWalk → Prop}
    (init : P [] {}) (step : ∀ done e w, P done w → P (done ++ [e]) (stepTo d o w e)) :
    P (apiEndpoints d) (walkDeclaration d o) := by
  rw [walkDeclaration_eq]
  exact foldl_states init step (apiEndpoints d)

/-- A method shows an operation of a 1.x document: it is the method of that operation with some marks of
    place. -/
def ShowsApi (d : Declaration) (o : Options) (e : ApiEndpoint) (m : Method) : Prop :=
  m = { apiMethod d o e.api e.operation m.methodName with
    isFirstMethod := m.isFirstMethod, notFirstPath := m.notFirstPath }

/-- The methods of a walk show the operations of the document that are not passed over, one by one and in
    order. -/
theorem walkDeclaration_shows (d : Declaration) (o : Options) :
    List.Forall₂ (ShowsApi d o) (apiEndpoints d) (walkDeclaration d o).methods := by
  refine walkDeclaration_states (P := fun done w => List.Forall₂ (ShowsApi d o) done w.methods) .nil ?_
  intro done e w shown
  exact List.rel_append shown (.cons rfl .nil)

/-! ## The methods of a view -/

theorem exists_of_forall₂ {α β : Type} {R : α → β → Prop} {as : List α} {bs : List β} (all : List.Forall₂ R as bs)
    {b : β} (member : b ∈ bs) : ∃ a ∈ as, R a b := by
  induction all with
  | nil => simp at member
  | @cons a c as bs related _ ih =>
    rcases List.mem_cons.mp member with rfl | later
    · exact ⟨a, by simp, related⟩
    · obtain ⟨a, inside, related⟩ := ih later
      exact ⟨a, by simp [inside], related⟩

/-- What the converter answers for the parts of a document. Those of a 1.x document have no types. -/
def answersFor (document : Document) (o : Options) : Option (TypeNode → Json.Value) :=
  match document with
  | .declaration _ => none
  | .specification s => o.answers s

/-- The type of a part of a document. -/
def typeIn (document : Document) (o : Options) (node : TypeNode) : Computed :=
  ⟨o.typeKey, (answersFor document o).map (· node)⟩

/-- The view of a parameter of a document, before its place among others is known. -/
def viewOf (document : Document) (o : Options) (p : Parameter) : ParameterView :=
  match document with
  | .declaration _ => declarationParameter o p
  | .specification s => specificationParameter s o p

/-- The parameters of every method are views of parameters of the document, put in place. -/
theorem method_parameters {document : Document} {o : Options} {model : Model}
    (built : ofDocument document o = .ok model) {m : Method} (member : m ∈ model.methods) :
    ∃ bound : List Parameter, (m.parameters, m.byIn) = placeParameters (bound.map (viewOf document o)) := by
  cases document with
  | declaration d =>
    cases built
    obtain ⟨e, _, shown⟩ := exists_of_forall₂ (walkDeclaration_shows d o) member
    rw [shown]
    exact ⟨_, rfl⟩
  | specification s =>
    obtain ⟨w, run, rfl⟩ := ok_of_map built
    obtain ⟨e, _, shown⟩ := exists_of_forall₂ (walk_shows run) member
    obtain ⟨bound, _, same⟩ := shown.method
    rw [same]
    exact ⟨bound, rfl⟩

/-! ## Plain documents -/

/-- An operation that declares nothing. -/
def blankOperation : Operation := ⟨none, none, none, none, [], [], [], none, none, none, none⟩

/-- A parameter that declares its name and, in `in`, its location. -/
def plainParameter (name : String) (place : Option String) : Parameter :=
  ⟨name, place, none, none, false, none, none, none, none, none, none, none, none, []⟩

/-- A 2.0 document that declares nothing but paths. -/
def pathsOnly (paths : List (String × PathItem)) : Specification :=
  ⟨"2.0", ⟨none, none, none, []⟩, none, none, [], none, none, paths, [], [], none, none, []⟩

end ApiBindings.Walks
