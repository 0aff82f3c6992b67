import ApiBindings.Proofs.Walks

/-!
# Security schemes in use

Which kinds of security scheme the methods of a view are marked with. Merging the requirements of an operation
into those of its document neither loses nor invents the name of a scheme (`names_mergeRequirements`), so that a
method has the mark of a kind exactly if a scheme of that kind is declared under a name that one of the
requirements has (`methods_secured`).
-/

namespace ApiBindings.SchemesInUse
open ApiBindings.Document ApiBindings.View ApiBindings.Walks

/-! ## Flags of kinds -/

/-- The flag of a kind of scheme. A scheme of an unknown kind has none. -/
def flag (f : SecurityFlags) : SchemeKind → Bool
  | .oauth2 => f.token
  | .apiKey => f.apiKey
  | .basic => f.basic
  | .other => false

theorem flag_none (kind : SchemeKind) : flag .none kind = false := by
  cases kind <;> rfl

theorem flag_add (f : SecurityFlags) {kind : SchemeKind} (known : kind ≠ .other) (added : SchemeKind) :
    flag (f.add added) kind = true ↔ flag f kind = true ∨ added = kind := by
  cases added <;> cases kind <;> simp_all [flag, SecurityFlags.add]

/-- A flag is set exactly if a scheme of its kind is there. -/
theorem flag_ofKinds (kinds : List SchemeKind) {kind : SchemeKind} (known : kind ≠ .other) :
    flag (.ofKinds kinds) kind = true ↔ kind ∈ kinds := by
  refine foldl_states (P := fun done f => flag f kind = true ↔ kind ∈ done) (by simp [flag_none]) ?_ kinds
  intro done added f holds
  rw [flag_add f known, holds, List.mem_append, List.mem_singleton, eq_comm (a := kind)]

theorem flag_flagsOfNames (names : List String) (schemes : Schemes) {kind : SchemeKind} (known : kind ≠ .other) :
    flag (flagsOfNames names schemes) kind = true ↔
      ∃ scheme ∈ schemes, scheme.2.kind = kind ∧ scheme.1 ∈ names := by
  simp only [flagsOfNames, flag_ofKinds _ known, List.mem_map, List.mem_filter, List.contains_iff_mem]
  exact exists_congr fun scheme => by tauto

/-! ## Names of requirements -/

/-- The names of the schemes that a requirement asks for. -/
def schemeNames (requirement : Requirement) : List String := requirement.map (·.1)

/-- The names of the schemes that some requirement of a list asks for. -/
def namesIn (requirements : List Requirement) : List String := requirements.flatMap schemeNames

theorem names_mergeScheme (target : Requirement) (merged : String) (scopes : List String) (name : String) :
    name ∈ schemeNames (mergeScheme target merged scopes) ↔ name ∈ schemeNames target ∨ name = merged := by
  induction target with
  | nil => simp [mergeScheme, schemeNames]
  | cons e rest ih =>
    obtain ⟨n, old⟩ := e
    simp only [schemeNames] at ih
    rw [mergeScheme]
    by_cases same : n = merged
    · simp [same, schemeNames]
      tauto
    · simp [same, schemeNames, ih, or_assoc]

/-- Merging one requirement into another has the names of both. -/
theorem names_mergeRequirement (target source : Requirement) (name : String) :
    name ∈ schemeNames (mergeRequirement target source) ↔ name ∈ schemeNames target ∨ name ∈ schemeNames source := by
  refine foldl_states
    (P := fun done (merged : Requirement) =>
      name ∈ schemeNames merged ↔ name ∈ schemeNames target ∨ name ∈ schemeNames done)
    (by simp [schemeNames]) ?_ source
  intro done e merged holds
  rw [names_mergeScheme, holds]
  simp [schemeNames, or_assoc]

/-- Merging two lists has the names of both, wherever in the lists they stand. -/
theorem names_mergeRequirements (document operation : List Requirement) (name : String) :
    name ∈ namesIn (mergeRequirements document operation) ↔ name ∈ namesIn document ∨ name ∈ namesIn operation := by
  fun_induction mergeRequirements document operation with
  | case1 document => simp [namesIn]
  | case2 operation => simp [namesIn]
  | case3 d document o operation ih =>
    simp only [namesIn, List.flatMap_cons, List.mem_append, names_mergeRequirement] at ih ⊢
    rw [ih]
    tauto

/-! ## The schemes of a method -/

/-- The schemes that a document declares. -/
def declaredSchemes : Document → Schemes
  | .declaration d => d.authorizations.getD []
  | .specification s => s.securityDefinitions.getD []

/-- The names of schemes that go for the operations of a document, one by one in document order: those in the
    requirements of the document and of the operation, in a 1.x document those of the operation. -/
def requiredNames : Document → List (List String)
  | .declaration d => d.apis.flatMap fun api =>
      (boundOperations api).map fun op => (op.authorizations.getD []).map (·.1)
  | .specification s => s.paths.flatMap fun (_, item) =>
      item.operations.map fun (_, op) => namesIn (s.security.getD []) ++ namesIn (op.security.getD [])

/-- A method has the flag of a kind exactly if the document declares a scheme of that kind under one of some
    names. -/
def SecuredBy (document : Document) (names : List String) (m : Method) : Prop :=
  ∀ kind, kind ≠ .other →
    (flag m.security kind = true ↔ ∃ scheme ∈ declaredSchemes document, scheme.2.kind = kind ∧ scheme.1 ∈ names)

theorem flagsOf_specification (s : Specification) (op : Operation) {kind : SchemeKind} (known : kind ≠ .other) :
    flag (s.flagsOf op) kind = true ↔ ∃ scheme ∈ declaredSchemes (.specification s),
      scheme.2.kind = kind ∧ scheme.1 ∈ namesIn (s.security.getD []) ++ namesIn (op.security.getD []) := by
  rw [Specification.flagsOf, declaredSchemes]
  cases s.securityDefinitions with
  | none => simp [flag_none]
  | some schemes =>
    simp only [flag_flagsOfNames _ _ known, Option.getD_some, List.mem_append, ← names_mergeRequirements]
    rfl

theorem flagsOf_declaration (d : Declaration) (op : ApiOperation) {kind : SchemeKind} (known : kind ≠ .other) :
    flag (d.flagsOf op) kind = true ↔ ∃ scheme ∈ declaredSchemes (.declaration d),
      scheme.2.kind = kind ∧ scheme.1 ∈ (op.authorizations.getD []).map (·.1) := by
  rw [Declaration.flagsOf, declaredSchemes]
  cases d.authorizations with
  | none => simp [flag_none]
  | some schemes =>
    cases op.authorizations with
    | none => simp [flag_none]
    | some selected => exact flag_flagsOfNames _ _ known

theorem shows_secured {s : Specification} {o : Options} {e : Endpoint} {m : Method} (shown : Shows s o e m) :
    SecuredBy (.specification s) (namesIn (s.security.getD []) ++ namesIn (e.operation.security.getD [])) m := by
  obtain ⟨bound, _, same⟩ := shown.method
  intro kind known
  rw [same]
  exact flagsOf_specification s e.operation known

theorem showsApi_secured {d : Declaration} {o : Options} {e : ApiEndpoint} {m : Method} (shown : ShowsApi d o e m) :
    SecuredBy (.declaration d) ((e.operation.authorizations.getD []).map (·.1)) m := by
  intro kind known
  rw [shown]
  exact flagsOf_declaration d e.operation known

theorem requiredNames_secured {document : Document} {o : Options} {model : Model}
    (built : ofDocument document o = .ok model) :
    List.Forall₂ (SecuredBy document) (requiredNames document) model.methods := by
  cases document with
  | declaration d =>
    cases built
    rw [requiredNames, ← map_apiEndpoints, List.forall₂_map_left_iff]
    exact (walkDeclaration_shows d o).imp fun _ _ => showsApi_secured
  | specification s =>
    obtain ⟨w, run, rfl⟩ := ok_of_map built
    have listed := map_endpoints s fun e =>
      namesIn (s.security.getD []) ++ namesIn (e.operation.security.getD [])
    rw [requiredNames, ← listed, List.forall₂_map_left_iff]
    exact (walk_shows run).imp fun _ _ => shows_secured

/-! ## More requirements -/

/-- One document is another one whose lists of requirements may have grown, at whatever places. -/
structure AddsRequirements (s s' : Specification) : Prop where
  schemes : s'.securityDefinitions = s.securityDefinitions
  document : s.security.getD [] ⊆ s'.security.getD []
  operations : List.Forall₂ (fun e e' => e.operation.security.getD [] ⊆ e'.operation.security.getD [])
    (endpoints s) (endpoints s')

/-- What goes for two lists pairwise goes for those that they stand in relation to. -/
theorem forall₂_across {α α' β β' : Type} {S : α → α' → Prop} {R : α → β → Prop} {R' : α' → β' → Prop}
    {T : β → β' → Prop} (step : ∀ a a' b b', S a a' → R a b → R' a' b' → T b b') {as : List α} {as' : List α'}
    {bs : List β} {bs' : List β'} (pairs : List.Forall₂ S as as') (shown : List.Forall₂ R as bs)
    (shown' : List.Forall₂ R' as' bs') : List.Forall₂ T bs bs' := by
  induction pairs generalizing bs bs' with
  | nil =>
    cases shown
    cases shown'
    exact .nil
  | cons pair _ ih =>
    obtain _ | ⟨here, later⟩ := shown
    obtain _ | ⟨here', later'⟩ := shown'
    exact .cons (step _ _ _ _ pair here here') (ih later later')

theorem namesIn_subset {old new : List Requirement} (more : old ⊆ new) : namesIn old ⊆ namesIn new := by
  intro name member
  obtain ⟨r, inside, named⟩ := List.mem_flatMap.mp member
  exact List.mem_flatMap.mpr ⟨r, more inside, named⟩

theorem requiredNames_grow {s s' : Specification} (more : AddsRequirements s s') :
    List.Forall₂ (· ⊆ ·) (requiredNames (.specification s)) (requiredNames (.specification s')) := by
  have listed (s : Specification) := map_endpoints s fun e =>
    namesIn (s.security.getD []) ++ namesIn (e.operation.security.getD [])
  rw [requiredNames, requiredNames, ← listed s, ← listed s', List.forall₂_map_left_iff, List.forall₂_map_right_iff]
  refine more.operations.imp fun e e' grows => ?_
  exact List.append_subset.mpr ⟨List.subset_append_of_subset_left _ (namesIn_subset more.document),
    List.subset_append_of_subset_right _ (namesIn_subset grows)⟩

/-- A flag that is set stays set when names are added. -/
theorem SecuredBy.mono {document document' : Document} (schemes : declaredSchemes document' = declaredSchemes document)
    {names names' : List String} (more : names ⊆ names') {m m' : Method} (old : SecuredBy document names m)
    (new : SecuredBy document' names' m') (kind : SchemeKind) (set : flag m.security kind = true) :
    flag m'.security kind = true := by
  by_cases known : kind = .other
  · subst known
    cases set
  · obtain ⟨scheme, declared, same, named⟩ := (old kind known).mp set
    exact (new kind known).mpr ⟨scheme, schemes ▸ declared, same, more named⟩

theorem flags_kept {s s' : Specification} {o o' : Options} {model model' : Model} (more : AddsRequirements s s')
    (built : ofDocument (.specification s) o = .ok model) (built' : ofDocument (.specification s') o' = .ok model') :
    List.Forall₂ (fun m m' => ∀ kind, flag m.security kind = true → flag m'.security kind = true) model.methods
      model'.methods := by
  have schemes : declaredSchemes (.specification s') = declaredSchemes (.specification s) := by
    rw [declaredSchemes, declaredSchemes, more.schemes]
  refine forall₂_across ?_ (requiredNames_grow more) (requiredNames_secured built) (requiredNames_secured built')
  intro names names' m m' grows old new
  exact old.mono schemes grows new

/-- A method is marked with a kind of scheme exactly if its document declares a scheme of that kind under a name that
    a requirement of the document or of the operation has, in a 1.x document under a name that the operation
    selects. More requirements, wherever they are added, take no mark away. -/
theorem methods_secured {document : Document} {o : Options} {model : Model}
    (built : ofDocument document o = .ok model) :
    List.Forall₂ (SecuredBy document) (requiredNames document) model.methods ∧
      ∀ s s' o' model', document = .specification s → AddsRequirements s s' →
        ofDocument (.specification s') o' = .ok model' →
        List.Forall₂ (fun m m' => ∀ kind, flag m.security kind = true → flag m'.security kind = true)
          model.methods model'.methods := by
  refine ⟨requiredNames_secured built, ?_⟩
  rintro s s' o' model' rfl more built'
  exact flags_kept more built built'

/-- A document that requires a token of every operation, one of which asks for a key at the second place and for a
    scheme that is not declared. -/
def mixedRequirements : Specification :=
  { pathsOnly [("/pets", ⟨[], [(.get, blankOperation),
      (.post, { blankOperation with security := some [[("missing", [])], [("key", []), ("login", ["write"])]] })]⟩)] with
    securityDefinitions := some [("key", ⟨.apiKey, none, []⟩), ("login", ⟨.oauth2, none, []⟩),
      ("password", ⟨.basic, none, []⟩)]
    security := some [[("login", ["read"])]] }

/-- The same document with two more requirements, which move the first one to the third place. -/
def grownRequirements : Specification :=
  { mixedRequirements with security := some [[], [("password", [])], [("login", ["read"])]] }

theorem methods_secured_mixed :
    ∃ model model', ofDocument (.specification mixedRequirements) .default = .ok model ∧
      AddsRequirements mixedRequirements grownRequirements ∧
      ofDocument (.specification grownRequirements) .default = .ok model' ∧
      model.methods.map (·.security) = [⟨true, false, false⟩, ⟨true, true, false⟩] ∧
      model'.methods.map (·.security) = [⟨true, false, true⟩, ⟨true, true, true⟩] ∧
      List.Forall₂ (SecuredBy (.specification mixedRequirements)) (requiredNames (.specification mixedRequirements))
        model.methods ∧
      List.Forall₂ (fun m m' => ∀ kind, flag m.security kind = true → flag m'.security kind = true)
        model.methods model'.methods := by
  have built : ofDocument (.specification mixedRequirements) .default = .ok (modelOf mixedRequirements .default _) :=
    rfl
  have built' : ofDocument (.specification grownRequirements) .default = .ok (modelOf grownRequirements .default _) :=
    rfl
  have more : AddsRequirements mixedRequirements grownRequirements :=
    ⟨rfl, by simp [mixedRequirements, grownRequirements], List.forall₂_same.mpr fun _ _ _ => id⟩
  exact ⟨_, _, built, more, built', by decide +kernel, by decide +kernel, (methods_secured built).1,
    (methods_secured built).2 _ _ _ _ rfl more built'⟩

end ApiBindings.SchemesInUse
