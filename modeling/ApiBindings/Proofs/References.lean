import ApiBindings.Proofs.Walks

/-!
# References that dangle

When no view can be built. The walk over a 2.0 document fails at the first reference that it has to resolve
and cannot, and at nothing else (`ofDocument_error_iff`). Failing is followed through the walk as a search:
a sequence of steps fails as its first step that fails (`failure?_mapM`, `failure?_foldlM`).
-/

namespace ApiBindings.References
open ApiBindings.Document ApiBindings.View ApiBindings.Walks

/-! ## Failing in sequence -/

/-- What a computation fails with, if it does. -/
def failure? {ε α : Type} : Except ε α → Option ε
  | .error failure => some failure
  | .ok _ => none

theorem failure?_eq_some {ε α : Type} {x : Except ε α} {failure : ε} :
    failure? x = some failure ↔ x = .error failure := by
  cases x <;> simp [failure?]

theorem failure?_map {ε α β : Type} (f : α → β) (x : Except ε α) : failure? (x.map f) = failure? x := by
  cases x <;> rfl

/-- A list is gone through up to the first member that fails. -/
theorem failure?_mapM {ε α β : Type} (f : α → Except ε β) (list : List α) :
    failure? (list.mapM f) = list.findSome? fun a => failure? (f a) := by
  induction list with
  | nil => rfl
  | cons a rest ih =>
    rw [List.mapM_cons, List.findSome?_cons, ← ih]
    cases f a with
    | error failure => rfl
    | ok b => cases rest.mapM f <;> rfl

/-- The same for steps on a state, when the state does not matter for whether they fail. -/
theorem failure?_foldlM {ε α σ : Type} {f : σ → α → Except ε σ} {fails : α → Option ε}
    (same : ∀ state a, failure? (f state a) = fails a) (list : List α) (start : σ) :
    failure? (list.foldlM f start) = list.findSome? fails := by
  induction list generalizing start with
  | nil => rfl
  | cons a rest ih =>
    rw [List.foldlM_cons, List.findSome?_cons, ← same start a]
    cases stepped : f start a with
    | error failure => rfl
    | ok next => exact ih next

theorem findSome?_flatMap {α β γ : Type} (f : α → List β) (g : β → Option γ) (list : List α) :
    (list.flatMap f).findSome? g = list.findSome? fun a => (f a).findSome? g := by
  induction list with
  | nil => rfl
  | cons a rest ih =>
    rw [List.flatMap_cons, List.findSome?_append, List.findSome?_cons, ih]
    cases (f a).findSome? g <;> rfl

/-! ## Dangling entries -/

/-- An entry dangles with a target: it is a reference to it that is not left out by a flag beside it, and the
    document has no shared parameter of the name that it gives. -/
def Dangles (s : Specification) : ParameterEntry → String → Prop
  | .inline _, _ => False
  | .reference target excluded proxyHeader, t =>
    t = target ∧ excluded ≠ some true ∧ (∀ v, proxyHeader = some v → isTruthy v = false) ∧
      sharedParameterName target ∉ s.parameters.map (·.1)

/-- The entries that the walk over a document comes to: for every operation its own, then those of its path. -/
def visitedEntries (s : Specification) : List ParameterEntry :=
  s.paths.flatMap fun (_, item) => item.operations.flatMap fun (_, op) => op.parameters ++ item.parameters

theorem reference_skipped (target : String) (excluded : Option Bool) (proxyHeader : Option Json.Value) :
    (ParameterEntry.reference target excluded proxyHeader).isSkipped = false ↔
      excluded ≠ some true ∧ ∀ v, proxyHeader = some v → isTruthy v = false := by
  cases proxyHeader <;> simp [ParameterEntry.isSkipped, ParameterEntry.isExcluded, ParameterEntry.isProxyHeader]

/-- An entry fails exactly if it dangles. -/
theorem failure?_boundParameter (s : Specification) (entry : ParameterEntry) (e : UnresolvedReference) :
    failure? (boundParameter? s entry) = some e ↔ Dangles s entry e.target := by
  cases entry with
  | inline p =>
    unfold boundParameter?
    split <;> simp [failure?, Dangles, resolve, Except.map]
  | reference target excluded proxyHeader =>
    have flags := reference_skipped target excluded proxyHeader
    unfold boundParameter?
    by_cases skipped : (ParameterEntry.reference target excluded proxyHeader).isSkipped = true
    · rw [if_pos skipped]
      simp only [skipped, Bool.true_eq_false, false_iff] at flags
      simp only [failure?, Dangles, reduceCtorEq, false_iff]
      rintro ⟨_, notExcluded, notProxy, _⟩
      exact flags ⟨notExcluded, notProxy⟩
    · rw [if_neg skipped, failure?_map]
      simp only [Bool.not_eq_true] at skipped
      obtain ⟨notExcluded, notProxy⟩ := flags.mp skipped
      have known := lookup_isSome_keys s.parameters (sharedParameterName target)
      simp only [resolve, Dangles]
      cases found : s.parameters.lookup (sharedParameterName target) with
      | some p =>
        rw [found] at known
        simp [failure?, known.mp rfl]
      | none =>
        rw [found] at known
        have absent : sharedParameterName target ∉ s.parameters.map (·.1) := by simpa using known
        obtain ⟨t⟩ := e
        simp only [failure?, Option.some.injEq, UnresolvedReference.mk.injEq]
        exact ⟨fun same => ⟨same.symm, notExcluded, notProxy, absent⟩, fun dangles => dangles.1.symm⟩

/-! ## The walk -/

theorem failure?_step (s : Specification) (o : Options) (w : Walk) (e : Endpoint) :
    failure? (w.step s o e) =
      (entriesOf e.item e.operation).findSome? fun entry => failure? (boundParameter? s entry) := by
  -- Neither the name nor anything else of the walk decides whether a step fails.
  rw [step_eq, failure?_map, methodOf, failure?_map, boundParameters, failure?_map, failure?_mapM]

theorem visitedEntries_eq (s : Specification) :
    visitedEntries s = (endpoints s).flatMap fun e => entriesOf e.item e.operation := by
  simp only [visitedEntries, endpoints, entriesOf, List.flatMap_assoc, List.flatMap_map]

/-- Building a view fails as the first entry does that the walk comes to and that fails. -/
theorem failure?_ofSpecification (s : Specification) (o : Options) :
    failure? (ofSpecification s o) = (visitedEntries s).findSome? fun entry => failure? (boundParameter? s entry) := by
  rw [ofSpecification, failure?_map, walk, failure?_foldlM (failure?_step s o), visitedEntries_eq, findSome?_flatMap]

theorem failure?_boundParameter_none (s : Specification) (entry : ParameterEntry) :
    failure? (boundParameter? s entry) = none ↔ ∀ t, ¬ Dangles s entry t := by
  rw [Option.eq_none_iff_forall_ne_some]
  constructor
  · intro never t dangles
    exact never ⟨t⟩ ((failure?_boundParameter s entry ⟨t⟩).mpr dangles)
  · intro never e fails
    exact never e.target ((failure?_boundParameter s entry e).mp fails)

/-- The failure is that of the first entry that dangles. -/
theorem ofSpecification_error (s : Specification) (o : Options) (e : UnresolvedReference) :
    ofSpecification s o = .error e ↔
      ∃ before entry after, visitedEntries s = before ++ entry :: after ∧ Dangles s entry e.target ∧
        ∀ earlier ∈ before, ∀ t, ¬ Dangles s earlier t := by
  rw [← failure?_eq_some, failure?_ofSpecification, List.findSome?_eq_some_iff]
  simp only [failure?_boundParameter, failure?_boundParameter_none]

theorem mem_visitedEntries (s : Specification) (entry : ParameterEntry) :
    entry ∈ visitedEntries s ↔
      ∃ p ∈ s.paths, ∃ v ∈ p.2.operations, entry ∈ v.2.parameters ++ p.2.parameters := by
  simp only [visitedEntries, List.mem_flatMap]

/-- There is a failure as soon as any entry dangles. -/
theorem ofSpecification_fails (s : Specification) (o : Options) :
    (∃ e, ofSpecification s o = .error e) ↔ ∃ entry ∈ visitedEntries s, ∃ t, Dangles s entry t := by
  have found : (∃ e, ofSpecification s o = .error e) ↔
      ((visitedEntries s).findSome? fun entry => failure? (boundParameter? s entry)).isSome = true := by
    rw [← failure?_ofSpecification s o, Option.isSome_iff_exists]
    exact exists_congr fun e => failure?_eq_some.symm
  rw [found, List.findSome?_isSome_iff]
  refine exists_congr fun entry => and_congr_right fun _ => ?_
  simp only [Option.isSome_iff_exists, failure?_boundParameter]
  exact ⟨fun ⟨e, dangles⟩ => ⟨e.target, dangles⟩, fun ⟨t, dangles⟩ => ⟨⟨t⟩, dangles⟩⟩

/-- A 1.x document always has a view. A 2.0 document has none exactly if an entry of an operation or of the path
    that it stands under dangles, and the failure then is the whole reference of the first such entry, where
    paths and operations come in document order and the entries of an operation before those of its path. -/
theorem ofDocument_error_iff (o : Options) :
    (∀ s e, ofDocument (.specification s) o = .error e ↔
      ∃ before entry after, visitedEntries s = before ++ entry :: after ∧ Dangles s entry e.target ∧
        ∀ earlier ∈ before, ∀ t, ¬ Dangles s earlier t) ∧
    (∀ s, (∃ e, ofDocument (.specification s) o = .error e) ↔
      ∃ p ∈ s.paths, ∃ v ∈ p.2.operations, ∃ entry ∈ v.2.parameters ++ p.2.parameters, ∃ t, Dangles s entry t) ∧
    ∀ d, ∃ model, ofDocument (.declaration d) o = .ok model := by
  refine ⟨fun s e => ofSpecification_error s o e, ?_, fun d => ⟨_, rfl⟩⟩
  intro s
  refine (ofSpecification_fails s o).trans ?_
  constructor
  · rintro ⟨entry, visited, dangles⟩
    obtain ⟨p, inPaths, v, inItem, inEntries⟩ := (mem_visitedEntries s entry).mp visited
    exact ⟨p, inPaths, v, inItem, entry, inEntries, dangles⟩
  · rintro ⟨p, inPaths, v, inItem, entry, inEntries, dangles⟩
    exact ⟨entry, (mem_visitedEntries s entry).mpr ⟨p, inPaths, v, inItem, inEntries⟩, dangles⟩

/-- The reference of an operation is reported before that of its path, and a flagged one not at all. -/
example : ofDocument (.specification (pathsOnly [
    ("/empty", ⟨[.reference "#/parameters/none" none none], []⟩),
    ("/pets", ⟨[.reference "#/parameters/path" none none], [(.get, { blankOperation with parameters := [
      .reference "#/parameters/flagged" (some true) none, .reference "#/parameters/own" none none] })]⟩)]))
    .default = .error ⟨"#/parameters/own"⟩ := rfl

end ApiBindings.References
