import ApiBindings.Proofs.Bindings

/-!
# Repeated parameters

Parameters that an operation and its path both declare. Those of the operation stand before those of its path, and
none takes the place of another (`parameters_chained`): two of a method are alike exactly where one of the operation
and one of the path are.
-/

namespace ApiBindings.Repetitions
open ApiBindings.Document ApiBindings.View ApiBindings.Walks ApiBindings.Bindings

/-! ## Parameters that are alike -/

/-- What parameters are told apart by: the name and the `in`. -/
def identity (p : Parameter) : String × Option String := (p.name, p.place)

/-- Of some parameters no two are alike. -/
def Distinct (parameters : List Parameter) : Prop := (parameters.map identity).Nodup

instance (parameters : List Parameter) : Decidable (Distinct parameters) :=
  inferInstanceAs (Decidable (List.Nodup _))

/-- The parameters that entries stand for. -/
def resolved (s : Specification) (entries : List ParameterEntry) : List Parameter :=
  entries.filterMap (resolution? s)

/-- The parameters that entries bind: those that no flag keeps out. -/
def bound (s : Specification) (entries : List ParameterEntry) : List Parameter := entries.filterMap (binding? s)

theorem bound_sublist (s : Specification) (entries : List ParameterEntry) :
    (bound s entries).Sublist (resolved s entries) := by
  induction entries with
  | nil => exact .slnil
  | cons entry rest ih =>
    simp only [bound, resolved, List.filterMap_cons, binding?] at ih ⊢
    cases resolution? s entry with
    | none => exact ih
    | some p =>
      rw [Option.filter_some]
      split
      next => exact ih.cons p
      next q kept =>
        obtain rfl : p = q := by simpa using (Option.ite_none_right_eq_some.mp kept).2
        exact ih.cons_cons p

/-- Nothing is alike among the parameters that are bound if nothing is among all. -/
theorem bound_distinct {s : Specification} {entries : List ParameterEntry} (apart : Distinct (resolved s entries)) :
    Distinct (bound s entries) :=
  ((bound_sublist s entries).map identity).nodup apart

/-- What tells the parameters of a method apart, in order. -/
def identities (m : Method) : List (String × Option String) := m.parameters.map fun v => identity v.parameter

theorem identity_viewOf (document : Document) (o : Options) (p : Parameter) :
    identity (viewOf document o p).parameter = identity p := by
  cases document with
  | declaration d =>
    obtain ⟨others, same⟩ := Locations.of_parameter p (p.paramType.bind Location.ofParamType) o.untyped
    rw [viewOf, declarationParameter, same, identity, identity]
  | specification s =>
    obtain ⟨others, same⟩ := Locations.of_parameter p (p.place.bind Location.ofIn) (o.computed s (.parameter p))
    rw [viewOf, specificationParameter, same, identity, identity]

theorem identities_of_views {m : Method} {document : Document} {o : Options} {parameters : List Parameter}
    (views : m.parameters.map bare = parameters.map (viewOf document o)) :
    identities m = parameters.map identity := by
  have read (list : List ParameterView) :
      (list.map fun v => identity v.parameter) = (list.map bare).map fun v => identity v.parameter := by
    rw [List.map_map]
    rfl
  rw [identities, read, views, List.map_map]
  exact List.map_congr_left fun p _ => identity_viewOf document o p

/-! ## Own parameters and those of the path -/

/-- The parameters of a method are those that its operation binds and behind them those that the path binds, all of
    them. Neither list has two that are alike, so the method has at most two, and two exactly where both lists have
    one. -/
structure Chained (s : Specification) (o : Options) (e : Endpoint) (m : Method) : Prop where
  split : ∃ own shared, m.parameters = own ++ shared ∧
    own.map bare = (bound s e.operation.parameters).map (viewOf (.specification s) o) ∧
    shared.map bare = (bound s e.item.parameters).map (viewOf (.specification s) o)
  own : Distinct (bound s e.operation.parameters)
  shared : Distinct (bound s e.item.parameters)
  count : ∀ k, (identities m).count k =
    (if k ∈ (bound s e.operation.parameters).map identity then 1 else 0) +
      (if k ∈ (bound s e.item.parameters).map identity then 1 else 0)
  distinct : (identities m).Nodup ↔
    ∀ p ∈ bound s e.operation.parameters, ∀ q ∈ bound s e.item.parameters, identity p ≠ identity q

theorem count_distinct {parameters : List Parameter} (apart : Distinct parameters) (k : String × Option String) :
    (parameters.map identity).count k = if k ∈ parameters.map identity then 1 else 0 := by
  split
  next inside => exact List.count_eq_one_of_mem apart inside
  next outside => exact List.count_eq_zero_of_not_mem outside

theorem shows_chained {s : Specification} {o : Options} {e : Endpoint} {m : Method} (shown : Shows s o e m)
    (own : Distinct (resolved s e.operation.parameters)) (shared : Distinct (resolved s e.item.parameters)) :
    Chained s o e m := by
  have views := shows_parameters shown
  rw [List.filterMap_append] at views
  change m.parameters.map bare =
    (bound s e.operation.parameters ++ bound s e.item.parameters).map (viewOf (.specification s) o) at views
  have listed := identities_of_views views
  rw [List.map_append] at listed
  refine ⟨?_, bound_distinct own, bound_distinct shared, fun k => ?_, ?_⟩
  · rw [List.map_append] at views
    obtain ⟨first, behind, parts, front, back⟩ := List.map_eq_append_iff.mp views
    exact ⟨first, behind, parts, front, back⟩
  · rw [listed, List.count_append, count_distinct (bound_distinct own), count_distinct (bound_distinct shared)]
  · rw [listed, List.nodup_append]
    simp only [List.mem_map, forall_exists_index, and_imp, forall_apply_eq_imp_iff₂]
    exact ⟨fun all => all.2.2, fun other => ⟨bound_distinct own, bound_distinct shared, other⟩⟩

/-- Where neither an operation nor its path declares two parameters that are alike, the method has those of the
    operation and behind them those of the path. Where both declare one, both are kept. -/
theorem parameters_chained {s : Specification} {o : Options} {model : Model}
    (built : ofDocument (.specification s) o = .ok model) :
    List.Forall₂ (fun e m => Distinct (resolved s e.operation.parameters) →
      Distinct (resolved s e.item.parameters) → Chained s o e m) (endpoints s) model.methods := by
  obtain ⟨w, run, rfl⟩ := ok_of_map built
  exact (walk_shows run).imp fun _ _ => shows_chained

/-- An operation with a limit of its own, which it requires, and one that travels as a header. -/
def limitedOperation : Operation :=
  { blankOperation with parameters := [
    .inline { plainParameter "limit" (some "query") with required := true },
    .inline (plainParameter "limit" (some "header"))] }

/-- A path with that operation, which declares a limit too. -/
def limitedItem : PathItem :=
  ⟨[.reference "#/parameters/limit" none none, .inline (plainParameter "page" (some "query"))],
    [(.get, limitedOperation)]⟩

/-- A document with that path. -/
def limitedTwice : Specification :=
  { pathsOnly [("/pets", limitedItem)] with parameters := [("limit", plainParameter "limit" (some "query"))] }

theorem parameters_chained_limited :
    ∃ model m, ofDocument (.specification limitedTwice) .default = .ok model ∧ model.methods = [m] ∧
      Distinct (resolved limitedTwice limitedOperation.parameters) ∧
      Distinct (resolved limitedTwice limitedItem.parameters) ∧
      Chained limitedTwice .default ⟨"/pets", limitedItem, .get, limitedOperation⟩ m := by
  have built : ofDocument (.specification limitedTwice) .default = .ok (modelOf limitedTwice .default _) := rfl
  have own : Distinct (resolved limitedTwice limitedOperation.parameters) := by decide +kernel
  have shared : Distinct (resolved limitedTwice limitedItem.parameters) := by decide +kernel
  obtain ⟨m, rest, chained, none, methods⟩ := List.forall₂_cons_left_iff.mp (parameters_chained built)
  cases none
  exact ⟨_, m, built, methods, own, shared, chained own shared⟩

/-- The limit of the path does not give way to that of the operation: the method has both. -/
theorem limit_kept_twice :
    ∃ model, ofDocument (.specification limitedTwice) .default = .ok model ∧
      Distinct (resolved limitedTwice limitedOperation.parameters) ∧
      Distinct (resolved limitedTwice limitedItem.parameters) ∧
      model.methods.map identities =
        [[("limit", some "query"), ("limit", some "header"), ("limit", some "query"), ("page", some "query")]] ∧
      ¬ ∀ m ∈ model.methods, (identities m).Nodup := by
  have built : ofDocument (.specification limitedTwice) .default = .ok (modelOf limitedTwice .default _) := rfl
  exact ⟨_, built, by decide +kernel, by decide +kernel, by decide +kernel, by decide +kernel⟩

end ApiBindings.Repetitions
