import ApiBindings.Proofs.Answers
import ApiBindings.Proofs.SchemesInUse

/-!
# Documents that grow at their end

Operations that are added behind all others change nothing that stands before them (`view_kept`): methods keep
their names and their marks, groups keep their names, tags and first members, and no flag of the document is
cleared. Only a converter that looks at the added operations can give other types (`types_not_kept`). A walk sees of
a document only the stops that it makes, one after another (`walk_stops`, `walkDeclaration_stops`), so that a longer
walk goes on where a shorter one ended.
-/

namespace ApiBindings.Growth
open ApiBindings.Document ApiBindings.View ApiBindings.Walks ApiBindings.Answers ApiBindings.SchemesInUse

/-! ## Stops -/

/-- Where the walk over a 2.0 document stops: at an operation, with its verb, its path and the entries that the
    path shares. -/
structure Stop where
  path : String
  shared : List ParameterEntry
  verb : Verb
  operation : Operation
  deriving DecidableEq

/-- The stops of the walk over a 2.0 document, in order. -/
def stops (s : Specification) : List Stop :=
  s.paths.flatMap fun (path, item) => item.operations.map fun (verb, op) => ⟨path, item.parameters, verb, op⟩

/-- Where the walk over a 1.x document stops: at an operation, with its path and whether it is the first one that
    is listed there. -/
structure ApiStop where
  path : String
  begins : Bool
  operation : ApiOperation
  deriving DecidableEq

/-- Operations listed one after another on a path. -/
def stopsOn (path : String) (begins : Bool) : List ApiOperation → List ApiStop
  | [] => []
  | op :: rest => ⟨path, begins, op⟩ :: stopsOn path false rest

/-- The stops of the walk over a 1.x document, in order. -/
def apiStops (d : Declaration) : List ApiStop := d.apis.flatMap fun api => stopsOn api.path true api.operations

/-- A document grows into another one of its version: they agree on all but their operations, and those of the
    second begin with those of the first. -/
def GrowsInto : Document → Document → Prop
  | .declaration d, .declaration d' => { d with apis := d'.apis } = d' ∧ apiStops d <+: apiStops d'
  | .specification s, .specification s' => { s with paths := s'.paths } = s' ∧ stops s <+: stops s'
  | _, _ => False

/-! ## Walks by their stops -/

/-- The endpoint of a stop, as far as it matters. -/
def endpointAt (stop : Stop) : Endpoint := ⟨stop.path, ⟨stop.shared, []⟩, stop.verb, stop.operation⟩

/-- The walk over a 2.0 document after one more stop. -/
def pass (s : Specification) (o : Options) (w : Walk) (stop : Stop) : Except UnresolvedReference Walk :=
  w.step s o (endpointAt stop)

theorem walk_stops (s : Specification) (o : Options) : walk s o = (stops s).foldlM (pass s o) {} := by
  have seen : stops s = (endpoints s).map fun e => ⟨e.path, e.item.parameters, e.verb, e.operation⟩ :=
    (map_endpoints s fun e => (⟨e.path, e.item.parameters, e.verb, e.operation⟩ : Stop)).symm
  rw [walk, seen, List.foldlM_map]
  rfl

/-- What a stop adds does not depend on the paths of a document, as long as the converter does not. -/
theorem pass_paths {s : Specification} {o : Options} {paths : List (String × PathItem)}
    (same : o.answers { s with paths } = o.answers s) : pass { s with paths } o = pass s o := by
  funext w stop
  rw [pass, pass, step_paths same]

/-- The walk over a 1.x document after one more stop; beside it stands whether the next method opens its path. -/
def passApi (d : Declaration) (o : Options) (known : ApiWalk × Bool) (stop : ApiStop) : ApiWalk × Bool :=
  let opens := stop.begins || known.2
  if isPassedOver stop.operation then (known.1, opens)
  else (known.1.step d o ⟨stop.path, none, []⟩ opens stop.operation, false)

theorem passApi_apis (d : Declaration) (o : Options) (apis : List Api) : passApi { d with apis } o = passApi d o := rfl

theorem stopsOn_fold (d : Declaration) (o : Options) (api : Api) (ops : List ApiOperation) (opens : Bool)
    (w : ApiWalk) :
    ((stopsOn api.path false ops).foldl (passApi d o) (w, opens)).1 = walkOperations d o api opens w ops := by
  induction ops generalizing opens w with
  | nil => rfl
  | cons op rest ih =>
    rw [stopsOn, List.foldl_cons, walkOperations]
    by_cases passed : isPassedOver op = true
    · simp only [passApi, passed, Bool.false_or, if_true, ih]
    · simp only [passApi, passed, Bool.false_or, if_false, ih, Bool.false_eq_true]
      rfl

/-- The first stop on a path makes the next method open it, whatever stood before. -/
theorem stopsOn_walk (d : Declaration) (o : Options) (api : Api) (known : ApiWalk × Bool) :
    ((stopsOn api.path true api.operations).foldl (passApi d o) known).1 =
      walkOperations d o api true known.1 api.operations := by
  obtain ⟨w, opens⟩ := known
  cases listed : api.operations with
  | nil => rfl
  | cons op rest =>
    rw [← stopsOn_fold, stopsOn, stopsOn, List.foldl_cons, List.foldl_cons]
    rfl

theorem walkDeclaration_stops (d : Declaration) (o : Options) :
    walkDeclaration d o = ((apiStops d).foldl (passApi d o) ({}, true)).1 := by
  have general : ∀ (apis : List Api) (known : ApiWalk × Bool),
      ((apis.flatMap fun api => stopsOn api.path true api.operations).foldl (passApi d o) known).1 =
        apis.foldl (fun w api => walkOperations d o api true w api.operations) known.1 := by
    intro apis
    induction apis with
    | nil => intro known; rfl
    | cons api rest ih =>
      intro known
      rw [List.flatMap_cons, List.foldl_append, List.foldl_cons, ih, stopsOn_walk]
  exact (general d.apis ({}, true)).symm

/-! ## What is kept -/

/-- A group is kept: its name and its tags are, and its methods are the first ones. -/
structure GroupKept (g g' : TagGroup) : Prop where
  name : g'.name = g.name
  tags : g'.tags = g.tags
  methods : g.methods <+: g'.methods

theorem GroupKept.refl (g : TagGroup) : GroupKept g g := ⟨rfl, rfl, List.prefix_refl _⟩

theorem GroupKept.trans {g g' g'' : TagGroup} (first : GroupKept g g') (second : GroupKept g' g'') :
    GroupKept g g'' where
  name := second.name.trans first.name
  tags := second.tags.trans first.tags
  methods := first.methods.trans second.methods

/-- Every group of a list is kept at its place. -/
def GroupsKept (groups groups' : List TagGroup) : Prop :=
  ∀ (i : Nat) (g : TagGroup), groups[i]? = some g → ∃ g', groups'[i]? = some g' ∧ GroupKept g g'

theorem groupsKept_append (groups more : List TagGroup) : GroupsKept groups (groups ++ more) := by
  intro i g there
  have inside : i < groups.length := (List.getElem?_eq_some_iff.mp there).1
  exact ⟨g, by rw [List.getElem?_append_left inside, there], .refl g⟩

theorem GroupsKept.trans {groups groups' groups'' : List TagGroup} (first : GroupsKept groups groups')
    (second : GroupsKept groups' groups'') : GroupsKept groups groups'' := by
  intro i g there
  obtain ⟨g', there', kept⟩ := first i g there
  obtain ⟨g'', there'', kept'⟩ := second i g' there'
  exact ⟨g'', there'', kept.trans kept'⟩

theorem addToGroup_kept (key : String) (m : Method) (groups : List (String × TagGroup)) :
    GroupsKept (groups.map (·.2)) ((addToGroup key m groups).map (·.2)) := by
  induction groups with
  | nil => intro i g there; simp at there
  | cons e rest ih =>
    obtain ⟨k, g⟩ := e
    intro i old there
    rw [addToGroup]
    by_cases same : k = key
    · rw [if_pos same]
      cases i with
      | zero =>
        simp only [List.map_cons, List.getElem?_cons_zero, Option.some.injEq] at there
        subst there
        exact ⟨_, rfl, rfl, rfl, List.prefix_append _ _⟩
      | succ i => exact ⟨old, by simpa using there, .refl old⟩
    · rw [if_neg same]
      cases i with
      | zero => exact ⟨old, by simpa using there, .refl old⟩
      | succ i => simpa using ih i old (by simpa using there)

theorem insertMethod_kept (s : Specification) (key : String) (m : Method) (groups : List (String × TagGroup)) :
    GroupsKept (groups.map (·.2)) ((insertMethod s key m groups).2.map (·.2)) := by
  unfold insertMethod
  cases groups.lookup key with
  | some g => exact addToGroup_kept key _ groups
  | none =>
    rw [List.map_append]
    exact groupsKept_append _ _

/-- Every flag that is set stays set. -/
def FlagsKept (f f' : SecurityFlags) : Prop := ∀ kind, flag f kind = true → flag f' kind = true

theorem flagsKept_union (f g : SecurityFlags) : FlagsKept f (f.union g) := by
  intro kind set
  cases kind <;> simp_all [flag, SecurityFlags.union]

/-- What a walk has come to is kept by what it comes to later. -/
structure WalkKept (w w' : Walk) : Prop where
  methods : w.methods <+: w'.methods
  groups : GroupsKept (w.groups.map (·.2)) (w'.groups.map (·.2))
  flags : FlagsKept w.security w'.security

theorem WalkKept.refl (w : Walk) : WalkKept w w where
  methods := List.prefix_refl _
  groups := by simpa using groupsKept_append (w.groups.map (·.2)) []
  flags _ set := set

theorem WalkKept.trans {w w' w'' : Walk} (first : WalkKept w w') (second : WalkKept w' w'') : WalkKept w w'' where
  methods := first.methods.trans second.methods
  groups := first.groups.trans second.groups
  flags kind set := second.flags kind (first.flags kind set)

/-- One more method keeps what there is. -/
theorem push_kept (s : Specification) (w : Walk) (m : Method) : WalkKept w (w.push s m) where
  methods := by
    rw [push_methods]
    exact List.prefix_append _ _
  groups := insertMethod_kept s _ _ w.groups
  flags := flagsKept_union _ _

theorem pass_kept {s : Specification} {o : Options} {w w' : Walk} {stop : Stop} (passed : pass s o w stop = .ok w') :
    WalkKept w w' := by
  rw [pass, step_eq] at passed
  obtain ⟨m, _, rfl⟩ := ok_of_map passed
  have kept := push_kept s { w with names := w.names ++ [nextName w (endpointAt stop)] } m
  exact ⟨kept.methods, kept.groups, kept.flags⟩

theorem passes_kept {s : Specification} {o : Options} {w w' : Walk} {more : List Stop}
    (run : more.foldlM (pass s o) w = .ok w') : WalkKept w w' := by
  refine foldlM_states (P := fun _ state => WalkKept w state) (.refl w) ?_ run
  intro done stop state next kept passed
  exact kept.trans (pass_kept passed)

theorem passesApi_kept (d : Declaration) (o : Options) (known : ApiWalk × Bool) (more : List ApiStop) :
    known.1.methods <+: (more.foldl (passApi d o) known).1.methods ∧
      FlagsKept known.1.security (more.foldl (passApi d o) known).1.security := by
  refine foldl_states
    (P := fun _ (state : ApiWalk × Bool) =>
      known.1.methods <+: state.1.methods ∧ FlagsKept known.1.security state.1.security)
    ⟨List.prefix_refl _, fun _ set => set⟩ ?_ more
  rintro done stop state ⟨methods, flags⟩
  by_cases passed : isPassedOver stop.operation = true
  · simpa only [passApi, passed, if_true] using And.intro methods flags
  · simp only [passApi, passed, if_false, Bool.false_eq_true]
    refine ⟨methods.trans (List.prefix_append _ _), ?_⟩
    intro kind set
    exact flagsKept_union _ _ kind (flags kind set)

/-! ## Views -/

/-- A view is kept by that of a document which has grown: its methods are the first ones, as they are; its groups
    are the first ones, with their names, their tags and their methods in front; and every flag of the document
    that is set stays set. -/
structure Kept (model model' : Model) : Prop where
  methods : model.methods <+: model'.methods
  groups : ∀ part, model.specification = some part → ∃ part', model'.specification = some part' ∧
    part.byTags.map (·.name) <+: part'.byTags.map (·.name) ∧ GroupsKept part.byTags part'.byTags
  isSecure : model.isSecure = true → model'.isSecure = true
  flags : FlagsKept model.security model'.security

theorem groupNames_prefix {groups groups' : List TagGroup} (kept : GroupsKept groups groups') :
    groups.map (·.name) <+: groups'.map (·.name) := by
  rw [List.prefix_iff_getElem?]
  intro i inside
  have inGroups : i < groups.length := by simpa using inside
  obtain ⟨g', there, same⟩ := kept i groups[i] (List.getElem?_eq_getElem inGroups)
  simp [there, same.name]

theorem specification_kept {s s' : Specification} {o : Options} {model' : Model}
    (others : { s with paths := s'.paths } = s') (longer : stops s <+: stops s')
    (same : o.answers s = o.answers s') (built : ofSpecification s' o = .ok model') :
    ∃ model, ofSpecification s o = .ok model ∧ Kept model model' := by
  obtain ⟨w', run, rfl⟩ := ok_of_map built
  obtain ⟨more, split⟩ := longer
  have passes : pass s' o = pass s o := by
    rw [← others] at same ⊢
    exact pass_paths same.symm
  rw [walk_stops, passes, ← split, List.foldlM_append, ← walk_stops] at run
  cases reached : walk s o with
  | error failure =>
    rw [reached] at run
    cases run
  | ok w =>
    rw [reached] at run
    have kept : WalkKept w w' := passes_kept run
    refine ⟨modelOf s o w, by rw [ofSpecification, reached]; rfl, kept.methods, ?_, ?_, kept.flags⟩
    · intro part has
      cases has
      exact ⟨_, rfl, groupNames_prefix kept.groups, kept.groups⟩
    · intro secure
      rw [← others]
      exact secure

theorem declaration_kept {d d' : Declaration} (o : Options) (others : { d with apis := d'.apis } = d')
    (longer : apiStops d <+: apiStops d') : Kept (ofDeclaration d o) (ofDeclaration d' o) := by
  obtain ⟨more, split⟩ := longer
  have passes : passApi d' o = passApi d o := by
    rw [← others, passApi_apis]
  have later : walkDeclaration d' o =
      (more.foldl (passApi d o) ((apiStops d).foldl (passApi d o) ({}, true))).1 := by
    rw [walkDeclaration_stops, passes, ← split, List.foldl_append]
  obtain ⟨methods, flags⟩ := passesApi_kept d o ((apiStops d).foldl (passApi d o) ({}, true)) more
  rw [← later, ← walkDeclaration_stops] at methods flags
  refine ⟨methods, ?_, ?_, flags⟩
  · intro part has
    cases has
  · intro secure
    rw [← others]
    exact secure

/-- Where a document grows at its end and the view of what it has become can be built, what it was has a view as well,
    all of which is kept but for what a converter answers. -/
theorem view_kept {document document' : Document} {o : Options} {model' : Model} (grows : GrowsInto document document')
    (built : ofDocument document' o = .ok model') :
    HasView o document document' fun model => Kept model model' := by
  cases document with
  | declaration d =>
    cases document' with
    | specification s' => exact grows.elim
    | declaration d' =>
      refine HasView.of (fun _ => rfl) fun o' others _ => ?_
      cases others.trans built
      exact ⟨_, rfl, declaration_kept o' grows.1 grows.2⟩
  | specification s =>
    cases document' with
    | declaration d' => exact grows.elim
    | specification s' =>
      refine HasView.of (fun _ => by simp only [answersFor, answers_answering]) fun o' others same => ?_
      exact specification_kept grows.1 grows.2 same (others.trans built)

/-- A document with one operation, which takes a shared parameter of its path and needs a token. -/
def onePet : Specification :=
  { pathsOnly [("/pets", ⟨[.reference "limit" none none],
      [(.get, { blankOperation with
        operationId := some "pets", tags := ["pet"], security := some [[("login", [])]] })]⟩)] with
    parameters := [("limit", plainParameter "limit" (some "query"))]
    securityDefinitions := some [("login", ⟨.oauth2, none, []⟩)] }

/-- The same document with one more operation on the path, under the same name and tag but without parameters of
    its own, and with a second path. -/
def morePets : Specification :=
  { onePet with paths := [
      ("/pets", ⟨[.reference "limit" none none],
        [(.get, { blankOperation with
          operationId := some "pets", tags := ["pet"], security := some [[("login", [])]] }),
        (.post, { blankOperation with operationId := some "pets", tags := ["pet"] })]⟩),
      ("/more", ⟨[], [(.get, { blankOperation with operationId := some "pets_1" })]⟩)] }

theorem view_kept_pets :
    GrowsInto (.specification onePet) (.specification morePets) ∧
      answersFor (.specification onePet) typing = answersFor (.specification morePets) typing ∧
      ∃ model', ofDocument (.specification morePets) typing = .ok model' ∧
        model'.methods.map (fun m => (m.methodName, m.isFirstPath, m.notFirstByTag)) =
          [("pets", true, false), ("pets_1", false, true), ("pets_1_1", true, false)] ∧
        ∃ model, ofDocument (.specification onePet) typing = .ok model ∧ Kept model model' := by
  have grows : GrowsInto (.specification onePet) (.specification morePets) := by
    refine ⟨rfl, ?_⟩
    decide +kernel
  have built : ofDocument (.specification morePets) typing = .ok (modelOf morePets typing _) := rfl
  have same : answersFor (.specification onePet) typing = answersFor (.specification morePets) typing :=
    answers_plain (.inr rfl) _ _
  exact ⟨grows, same, _, built, by decide +kernel, (view_kept grows built).same same⟩

/-- Where every type is the number of paths, the parameter of the first path has the type 1 until there is a second
    path. -/
theorem types_not_kept :
    GrowsInto (.specification onePet) (.specification morePets) ∧
      ∃ model', ofDocument (.specification morePets) countingPaths = .ok model' ∧
        ¬ ∃ model, ofDocument (.specification onePet) countingPaths = .ok model ∧ Kept model model' := by
  have grows : GrowsInto (.specification onePet) (.specification morePets) := by
    refine ⟨rfl, ?_⟩
    decide +kernel
  have built : ofDocument (.specification morePets) countingPaths = .ok (modelOf morePets countingPaths _) := rfl
  refine ⟨grows, _, built, ?_⟩
  rintro ⟨model, found, kept⟩
  cases found
  have first := kept.methods
  revert first
  decide +kernel

end ApiBindings.Growth
