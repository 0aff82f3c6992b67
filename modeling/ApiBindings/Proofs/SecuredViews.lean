import ApiBindings.Proofs.SchemesInUse

/-!
# Secured views

The security flags of a view against those of its methods (`flags_consistent`). A walk collects its flags beside its
methods, and the two stay in step (`Collected`). Whether a method and its view count as secured is told by other parts
of the document; a flag that is set needs all of them (`shows_secure`, `showsApi_secure`).
-/

namespace ApiBindings.SecuredViews
open ApiBindings.Document ApiBindings.View ApiBindings.Walks ApiBindings.SchemesInUse

/-! ## Flags that are collected -/

theorem flag_union (f g : SecurityFlags) (kind : SchemeKind) :
    flag (f.union g) kind = true ↔ flag f kind = true ∨ flag g kind = true := by
  cases kind <;> simp [flag, SecurityFlags.union]

/-- Flags are those of some methods: each is set exactly if one of the methods has it. -/
def Collected (flags : SecurityFlags) (methods : List Method) : Prop :=
  ∀ kind, flag flags kind = true ↔ ∃ m ∈ methods, flag m.security kind = true

theorem collected_none : Collected .none [] := by
  intro kind
  simp [flag_none]

theorem Collected.concat {flags : SecurityFlags} {methods : List Method} (old : Collected flags methods) (m : Method) :
    Collected (flags.union m.security) (methods ++ [m]) := by
  intro kind
  rw [flag_union, old kind]
  simp only [List.mem_append, List.mem_singleton, or_and_right, exists_or, exists_eq_left]

theorem push_security (s : Specification) (w : Walk) (m : Method) :
    (w.push s m).security = w.security.union m.security := by
  simp only [Walk.push, insertMethod_fst]

theorem walk_collected {s : Specification} {o : Options} {w : Walk} (run : walk s o = .ok w) :
    Collected w.security w.methods := by
  refine walk_states (P := fun _ w => Collected w.security w.methods) collected_none ?_ run
  intro done e w m old _
  rw [push_methods, push_security]
  -- The marks of place do not touch the flags of a method.
  exact old.concat (marked _ m)

theorem walkDeclaration_collected (d : Declaration) (o : Options) :
    Collected (walkDeclaration d o).security (walkDeclaration d o).methods :=
  walkDeclaration_states (P := fun _ w => Collected w.security w.methods) collected_none fun _ _ _ old => old.concat _

/-! ## What a flag needs -/

/-- An operation of a 2.0 document has a flag only if schemes are declared and someone requires one. -/
theorem flagsOf_needs {s : Specification} {op : Operation} {kind : SchemeKind}
    (set : flag (s.flagsOf op) kind = true) : s.isSecured op = true ∧ s.securityDefinitions.isSome = true := by
  by_cases known : kind = .other
  · subst known
    cases set
  · obtain ⟨scheme, declared, _, required⟩ := (flagsOf_specification s op known).mp set
    constructor
    · cases document : s.security with
      | some _ => simp [Specification.isSecured, document]
      | none =>
        cases own : op.security with
        | some _ => simp [Specification.isSecured, own]
        | none => simp [document, own, namesIn] at required
    · cases schemes : s.securityDefinitions with
      | some _ => rfl
      | none => simp [declaredSchemes, schemes] at declared

/-- An operation of a 1.x document has a flag only if schemes are declared and it selects one. -/
theorem apiFlagsOf_needs {d : Declaration} {op : ApiOperation} {kind : SchemeKind}
    (set : flag (d.flagsOf op) kind = true) : op.authorizations.isSome = true ∧ d.authorizations.isSome = true := by
  unfold Declaration.flagsOf at set
  split at set
  next schemes selected => exact ⟨by simp [selected], by simp [schemes]⟩
  next => simp [flag_none] at set

theorem shows_secure {s : Specification} {o : Options} {e : Endpoint} {m : Method} (shown : Shows s o e m)
    {kind : SchemeKind} (set : flag m.security kind = true) :
    m.isSecure = true ∧ s.securityDefinitions.isSome = true := by
  obtain ⟨bound, _, same⟩ := shown.method
  rw [same] at set ⊢
  exact flagsOf_needs set

theorem showsApi_secure {d : Declaration} {o : Options} {e : ApiEndpoint} {m : Method} (shown : ShowsApi d o e m)
    {kind : SchemeKind} (set : flag m.security kind = true) : m.isSecure = true ∧ d.authorizations.isSome = true := by
  rw [shown] at set ⊢
  exact apiFlagsOf_needs set

/-! ## The flags of a view -/

/-- A view has the flag of a kind exactly if one of its methods has it; a method that has any is secured, and so is
    the view. -/
theorem flags_consistent {document : Document} {o : Options} {model : Model}
    (built : ofDocument document o = .ok model) :
    (∀ kind, flag model.security kind = true ↔ ∃ m ∈ model.methods, flag m.security kind = true) ∧
      ∀ m ∈ model.methods, ∀ kind, flag m.security kind = true → m.isSecure = true ∧ model.isSecure = true := by
  cases document with
  | declaration d =>
    cases built
    refine ⟨walkDeclaration_collected d o, fun m member kind set => ?_⟩
    obtain ⟨e, _, shown⟩ := exists_of_forall₂ (walkDeclaration_shows d o) member
    exact showsApi_secure shown set
  | specification s =>
    obtain ⟨w, run, rfl⟩ := ok_of_map built
    refine ⟨walk_collected run, fun m member kind set => ?_⟩
    obtain ⟨e, _, shown⟩ := exists_of_forall₂ (walk_shows run) member
    exact shows_secure shown set

/-- A document that requires nothing itself: one operation requires nothing either, one a key, and one a scheme that
    is not declared. -/
def partlySecured : Specification :=
  { pathsOnly [("/pets", ⟨[], [(.get, blankOperation),
      (.post, { blankOperation with security := some [[("key", [])]] }),
      (.put, { blankOperation with security := some [[("missing", [])]] })]⟩)] with
    securityDefinitions := some [("login", ⟨.oauth2, none, []⟩), ("key", ⟨.apiKey, none, []⟩)] }

theorem flags_consistent_partly :
    ∃ model, ofDocument (.specification partlySecured) .default = .ok model ∧
      model.security = ⟨false, true, false⟩ ∧
      model.methods.map (fun m => (m.isSecure, m.security)) =
        [(false, ⟨false, false, false⟩), (true, ⟨false, true, false⟩), (true, ⟨false, false, false⟩)] ∧
      (∀ kind, flag model.security kind = true ↔ ∃ m ∈ model.methods, flag m.security kind = true) ∧
      ∀ m ∈ model.methods, ∀ kind, flag m.security kind = true → m.isSecure = true ∧ model.isSecure = true := by
  have built : ofDocument (.specification partlySecured) .default = .ok (modelOf partlySecured .default _) := rfl
  exact ⟨_, built, by decide +kernel, by decide +kernel, flags_consistent built⟩

end ApiBindings.SecuredViews
