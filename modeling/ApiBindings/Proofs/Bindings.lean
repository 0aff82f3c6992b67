import ApiBindings.Proofs.Locations
import ApiBindings.Proofs.References
import ApiBindings.Proofs.TagGroups

/-!
# Bound parameters

Which parameters a method binds. Flags can keep a parameter out, and they can stand beside a reference as well
as on the parameter that it names. The parameters of a method are those of its operation that no flag keeps
out, as often and in the order as they are declared (`parameters_bound`); what is kept out comes back neither
by location nor in a group.
-/

namespace ApiBindings.Bindings
open ApiBindings.Document ApiBindings.View ApiBindings.Walks ApiBindings.Locations

/-! ## Flags -/

/-- Flags that keep a parameter out: it is excluded, or a proxy sets the header. -/
def KeptOut (excluded : Option Bool) (proxyHeader : Option Json.Value) : Prop :=
  excluded = some true ∨ ∃ v, proxyHeader = some v ∧ isTruthy v = true

instance (excluded : Option Bool) (proxyHeader : Option Json.Value) : Decidable (KeptOut excluded proxyHeader) :=
  decidable_of_iff (excluded = some true ∨ proxyHeader.any isTruthy = true) <| by
    rw [KeptOut, Option.any_eq_true]

/-- The flags of a parameter keep it out. -/
abbrev ParameterOut (p : Parameter) : Prop := KeptOut p.excluded p.proxyHeader

/-- The flags of an entry keep it out, whatever it stands for. -/
def EntryOut : ParameterEntry → Prop
  | .reference _ excluded proxyHeader => KeptOut excluded proxyHeader
  | .inline p => ParameterOut p

instance (entry : ParameterEntry) : Decidable (EntryOut entry) := by
  cases entry <;> unfold EntryOut <;> infer_instance

theorem parameter_skipped (p : Parameter) : p.isSkipped = true ↔ ParameterOut p := by
  simp [Parameter.isSkipped, Parameter.isExcluded, Parameter.isProxyHeader, KeptOut, Option.any_eq_true]

theorem entry_skipped (entry : ParameterEntry) : entry.isSkipped = true ↔ EntryOut entry := by
  cases entry with
  | inline p => exact parameter_skipped p
  | reference target excluded proxyHeader =>
    simp [ParameterEntry.isSkipped, ParameterEntry.isExcluded, ParameterEntry.isProxyHeader, EntryOut, KeptOut,
      Option.any_eq_true]

/-! ## What entries bind -/

/-- The parameter that an entry stands for, if there is one. -/
def resolution? (s : Specification) : ParameterEntry → Option Parameter
  | .inline p => some p
  | .reference target _ _ => s.parameters.lookup (sharedParameterName target)

/-- The parameter that an entry binds: the one it stands for, unless flags of either keep it out. -/
def binding? (s : Specification) (entry : ParameterEntry) : Option Parameter :=
  (resolution? s entry).filter fun p => ¬ EntryOut entry ∧ ¬ ParameterOut p

/-- What the operations of a document bind, one by one in document order; those that become no method are left
    out. -/
def bindings : Document → List (List Parameter)
  | .declaration d => d.apis.flatMap fun api =>
      (boundOperations api).map fun op => op.parameters.filter fun p => ¬ ParameterOut p
  | .specification s => s.paths.flatMap fun (_, item) =>
      item.operations.map fun (_, op) => (op.parameters ++ item.parameters).filterMap (binding? s)

theorem resolve_eq (s : Specification) (entry : ParameterEntry) {p : Parameter} (found : resolve s entry = .ok p) :
    resolution? s entry = some p := by
  cases entry with
  | inline q =>
    cases found
    rfl
  | reference target excluded proxyHeader =>
    rw [resolve] at found
    rw [resolution?]
    cases shared : s.parameters.lookup (sharedParameterName target) with
    | none => simp [shared] at found
    | some q => simpa [shared] using found

/-- An entry that does not fail gives the parameter that it binds, and stands for one unless its flags keep it
    out. -/
theorem boundParameter_eq {s : Specification} {entry : ParameterEntry} {bound : Option Parameter}
    (given : boundParameter? s entry = .ok bound) :
    bound = binding? s entry ∧ (¬ EntryOut entry → ∃ p, resolution? s entry = some p) := by
  unfold boundParameter? at given
  unfold binding?
  by_cases out : EntryOut entry
  · rw [if_pos ((entry_skipped entry).mpr out)] at given
    cases given
    refine ⟨?_, fun inside => absurd out inside⟩
    cases resolution? s entry <;> simp [out]
  · rw [if_neg (mt (entry_skipped entry).mp out)] at given
    obtain ⟨p, found, rfl⟩ := ok_of_map given
    have stands := resolve_eq s entry found
    refine ⟨?_, fun _ => ⟨p, stands⟩⟩
    rw [stands, Option.filter_some]
    by_cases flagged : ParameterOut p
    · simp [(parameter_skipped p).mpr flagged, flagged]
    · simp [mt (parameter_skipped p).mp flagged, flagged, out]

/-- Entries of which none fails give what each of them binds, in order. -/
theorem mapM_boundParameter {s : Specification} {entries : List ParameterEntry} {bound : List (Option Parameter)}
    (run : entries.mapM (boundParameter? s) = .ok bound) :
    bound = entries.map (binding? s) ∧
      ∀ entry ∈ entries, ¬ EntryOut entry → ∃ p, resolution? s entry = some p := by
  induction entries generalizing bound with
  | nil =>
    cases run
    exact ⟨rfl, by simp⟩
  | cons entry rest ih =>
    obtain ⟨b, others, first, later, rfl⟩ := ok_of_mapM_cons run
    obtain ⟨rfl, stands⟩ := boundParameter_eq first
    obtain ⟨rfl, standRest⟩ := ih later
    exact ⟨rfl, List.forall_mem_cons.mpr ⟨stands, standRest⟩⟩

/-! ## The parameters of a method -/

/-- A view without its marks of place. -/
def bare (v : ParameterView) : ParameterView := unmarked (unnumbered v)

theorem viewOf_bare (document : Document) (o : Options) (p : Parameter) :
    bare (viewOf document o p) = viewOf document o p := by
  cases document <;> rfl

/-- Views put in place are the views of the same parameters but for the marks. -/
theorem place_views (document : Document) (o : Options) (bound : List Parameter) :
    (placeParameters (bound.map (viewOf document o))).1.map bare = bound.map (viewOf document o) := by
  have placed := place_bare (bound.map (viewOf document o))
  rw [List.map_map (l := bound)] at placed
  exact placed.trans (List.map_congr_left fun p _ => viewOf_bare document o p)

theorem shows_parameters {s : Specification} {o : Options} {e : Endpoint} {m : Method} (shown : Shows s o e m) :
    m.parameters.map bare =
      ((e.operation.parameters ++ e.item.parameters).filterMap (binding? s)).map (viewOf (.specification s) o) := by
  obtain ⟨parameters, found, same⟩ := shown.method
  obtain ⟨list, run, rfl⟩ := ok_of_map found
  have merged : ((entriesOf e.item e.operation).map (binding? s)).filterMap id =
      (entriesOf e.item e.operation).filterMap (binding? s) := by
    rw [List.filterMap_map]
    rfl
  rw [(mapM_boundParameter run).1, merged] at same
  rw [same]
  exact place_views (.specification s) o _

theorem showsApi_parameters {d : Declaration} {o : Options} {e : ApiEndpoint} {m : Method}
    (shown : ShowsApi d o e m) :
    m.parameters.map bare =
      (e.operation.parameters.filter fun p => ¬ ParameterOut p).map (viewOf (.declaration d) o) := by
  have kept : (e.operation.parameters.filter fun p => !p.isSkipped) =
      e.operation.parameters.filter fun p => ¬ ParameterOut p := by
    refine List.filter_congr fun p _ => ?_
    rw [Bool.eq_iff_iff]
    simpa using not_congr (parameter_skipped p)
  rw [shown, ← kept]
  exact place_views (.declaration d) o _

/-- The parameters of the methods, without their marks, are the views of what the operations bind. -/
theorem methods_parameters {document : Document} {o : Options} {model : Model}
    (built : ofDocument document o = .ok model) :
    List.Forall₂ (fun bound m => m.parameters.map bare = bound.map (viewOf document o)) (bindings document)
      model.methods := by
  cases document with
  | declaration d =>
    cases built
    rw [bindings, ← map_apiEndpoints, List.forall₂_map_left_iff]
    exact (walkDeclaration_shows d o).imp fun _ _ => showsApi_parameters
  | specification s =>
    obtain ⟨w, run, rfl⟩ := ok_of_map built
    have listed := map_endpoints s fun e => (e.operation.parameters ++ e.item.parameters).filterMap (binding? s)
    rw [bindings, ← listed, List.forall₂_map_left_iff]
    exact (walk_shows run).imp fun _ _ => shows_parameters

/-- No parameter of a method is one that its flags keep out, neither in its list nor by location. -/
structure NoneOut (m : Method) : Prop where
  listed : ∀ v ∈ m.parameters, ¬ ParameterOut v.parameter
  located : ∀ l, ∀ v ∈ m.byIn.bucket l, ¬ ParameterOut v.parameter

theorem viewOf_out (document : Document) (o : Options) (p : Parameter) :
    ParameterOut (viewOf document o p).parameter ↔ ParameterOut p := by
  cases document with
  | declaration d =>
    obtain ⟨others, same⟩ := of_parameter p (p.paramType.bind Location.ofParamType) o.untyped
    rw [viewOf, declarationParameter, same]
  | specification s =>
    obtain ⟨others, same⟩ := of_parameter p (p.place.bind Location.ofIn) (o.computed s (.parameter p))
    rw [viewOf, specificationParameter, same]

/-- Nothing that an operation binds is kept out. -/
theorem bindings_out {document : Document} {bound : List Parameter} (member : bound ∈ bindings document)
    {p : Parameter} (inside : p ∈ bound) : ¬ ParameterOut p := by
  cases document with
  | declaration d =>
    simp only [bindings, List.mem_flatMap, List.mem_map] at member
    obtain ⟨api, _, op, _, rfl⟩ := member
    simpa using (List.mem_filter.mp inside).2
  | specification s =>
    simp only [bindings, List.mem_flatMap, List.mem_map] at member
    obtain ⟨path, _, v, _, rfl⟩ := member
    obtain ⟨entry, _, binds⟩ := List.mem_filterMap.mp inside
    have kept := (Option.filter_eq_some_iff.mp binds).2
    exact (of_decide_eq_true kept).2

/-- What a method has by location it has in its list. -/
theorem bucket_listed {document : Document} {o : Options} {model : Model} (built : ofDocument document o = .ok model)
    {m : Method} (member : m ∈ model.methods) {l : Location} {v : ParameterView} (inside : v ∈ m.byIn.bucket l) :
    v ∈ m.parameters := by
  obtain ⟨placed, both⟩ := method_parameters built member
  obtain ⟨list, index⟩ := Prod.mk.inj both
  have arranged : Arranged document m.parameters m.byIn := by
    rw [list, index]
    exact place_arranged document o placed
  rw [arranged.bucket l] at inside
  exact (List.mem_filter.mp inside).1

theorem methods_noneOut {document : Document} {o : Options} {model : Model}
    (built : ofDocument document o = .ok model) {m : Method} (member : m ∈ model.methods) : NoneOut m := by
  obtain ⟨bound, inBindings, views⟩ := exists_of_forall₂ (methods_parameters built) member
  have listed : ∀ v ∈ m.parameters, ¬ ParameterOut v.parameter := by
    intro v inside
    have bared : bare v ∈ bound.map (viewOf document o) := by
      rw [← views]
      exact List.mem_map_of_mem inside
    obtain ⟨p, binds, same⟩ := List.mem_map.mp bared
    have parameter : (viewOf document o p).parameter = v.parameter := congrArg (·.parameter) same
    rw [← parameter, viewOf_out]
    exact bindings_out inBindings binds
  exact ⟨listed, fun l v inside => listed v (bucket_listed built member inside)⟩

/-- The members of the groups of a view are methods of the view. -/
theorem group_members {document : Document} {o : Options} {model : Model}
    (built : ofDocument document o = .ok model) {part : SpecificationPart} (has : model.specification = some part)
    {g : TagGroup} (group : g ∈ part.byTags) {m : Method} (member : m ∈ g.methods) : m ∈ model.methods := by
  cases document with
  | declaration d =>
    cases built
    cases has
  | specification s =>
    obtain ⟨w, run, rfl⟩ := ok_of_map built
    cases has
    obtain ⟨e, inside, rfl⟩ := List.mem_map.mp group
    rw [(TagGroups.walk_grouped run).members e inside] at member
    exact (List.mem_filter.mp member).1

/-- Where a view can be built, every entry stands for a parameter unless its flags keep it out. -/
theorem visited_resolved {s : Specification} {o : Options} {model : Model}
    (built : ofDocument (.specification s) o = .ok model) {entry : ParameterEntry}
    (visited : entry ∈ References.visitedEntries s) (inside : ¬ EntryOut entry) :
    ∃ p, resolution? s entry = some p := by
  have never := References.failure?_ofSpecification s o
  change ofSpecification s o = .ok model at built
  rw [built] at never
  have passes := List.findSome?_eq_none_iff.mp never.symm entry visited
  cases given : boundParameter? s entry with
  | error failure => simp [given, References.failure?] at passes
  | ok bound => exact (boundParameter_eq given).2 inside

/-- A view has exactly the parameters that the operations of its document bind: those of the methods are the views
    of them, but for the marks of place; no other entry fails to stand for a parameter; and nothing that is kept
    out is in a method or in a copy of one in a group. -/
structure BindsExactly (document : Document) (o : Options) (model : Model) : Prop where
  exact : List.Forall₂ (fun bound m => m.parameters.map bare = bound.map (viewOf document o)) (bindings document)
    model.methods
  resolved : ∀ s, document = .specification s → ∀ entry ∈ References.visitedEntries s, ¬ EntryOut entry →
    ∃ p, resolution? s entry = some p
  methods : ∀ m ∈ model.methods, NoneOut m
  groups : ∀ part, model.specification = some part → ∀ g ∈ part.byTags, ∀ m ∈ g.methods, NoneOut m

/-- The parameters of a method are those that the entries of its operation and of its path stand for, in a 1.x
    document those of its operation, in order and without the ones that flags keep out. -/
theorem parameters_bound {document : Document} {o : Options} {model : Model}
    (built : ofDocument document o = .ok model) : BindsExactly document o model where
  exact := methods_parameters built
  resolved := by
    rintro s rfl entry visited inside
    exact visited_resolved built visited inside
  methods m member := methods_noneOut built member
  groups := by
    intro part has g group m member
    exact methods_noneOut built (group_members built has group member)

/-- A document in which flags stand on entries and on shared parameters: a flagged reference to nothing, an
    unset flag beside a reference to an excluded parameter, a header that a proxy sets, and one reference that
    binds, twice. -/
def flaggedEntries : Specification :=
  { pathsOnly [("/pets", ⟨[.reference "#/parameters/limit" none none],
      [(.get, { blankOperation with parameters := [
        .reference "#/parameters/nothing" (some true) none,
        .reference "#/parameters/secret" (some false) none,
        .reference "#/parameters/limit" none (some (.int 0)),
        .inline { plainParameter "trace" (some "header") with proxyHeader := some (.string "yes") }] })]⟩)] with
    parameters := [("limit", plainParameter "limit" (some "query")),
      ("secret", { plainParameter "secret" (some "query") with excluded := some true })] }

theorem parameters_bound_flagged :
    ∃ model, ofDocument (.specification flaggedEntries) .default = .ok model ∧
      (model.methods.map fun m => m.parameters.map (·.camelCaseName)) = [["limit", "limit"]] ∧
      BindsExactly (.specification flaggedEntries) .default model := by
  have built : ofDocument (.specification flaggedEntries) .default = .ok (modelOf flaggedEntries .default _) := rfl
  exact ⟨_, built, by decide +kernel, parameters_bound built⟩

end ApiBindings.Bindings
