import ApiBindings.Proofs.Walks

/-!
# Parameters by location

How the parameters of a method are put in place. The parameters of every method are indexed by the locations
that the document declares, and their marks and flags follow from their order and their location
(`parameters_arranged`). The index is built in one pass, which keeps it in step with the parameters that it
has seen (`enter_indexes`). The marks that are there before count for nothing (`enter_remarked`), so that a list that
is sorted stays as it is (`sorting_settles`).
-/

namespace ApiBindings.Locations
open ApiBindings.Document ApiBindings.View ApiBindings.Walks

/-! ## The index -/

theorem bucket_push (b : ByIn) (l l' : Location) (v : ParameterView) :
    (b.push l v).bucket l' = if l = l' then b.bucket l' ++ [v] else b.bucket l' := by
  cases l <;> cases l' <;> rfl

theorem has_push (b : ByIn) (l l' : Location) (v : ParameterView) :
    (b.push l v).has l' = if l = l' then true else b.has l' := by
  cases l <;> cases l' <;> rfl

/-- An index is in step with a list: at every location stand the parameters of the list with that location, in
    order, and the flag says whether there are any. -/
structure Indexes (b : ByIn) (list : List ParameterView) : Prop where
  bucket : ∀ l, b.bucket l = list.filter fun v => v.location = some l
  has : ∀ l, b.has l = true ↔ b.bucket l ≠ []

theorem indexes_empty : Indexes .empty [] where
  bucket := by intro l; cases l <;> rfl
  has := by intro l; cases l <;> simp [ByIn.empty, ByIn.has, ByIn.bucket]

theorem indexes_unlocated {b : ByIn} {list : List ParameterView} (old : Indexes b list) {v : ParameterView}
    (nowhere : v.location = none) : Indexes b (list ++ [v]) := by
  refine ⟨fun l => ?_, old.has⟩
  rw [old.bucket l, List.filter_append]
  simp [nowhere]

theorem indexes_push {b : ByIn} {list : List ParameterView} (old : Indexes b list) {v : ParameterView} {l : Location}
    (place : v.location = some l) : Indexes (b.push l v) (list ++ [v]) := by
  constructor
  · intro l'
    rw [bucket_push, List.filter_append, old.bucket l']
    by_cases same : l = l'
    · simp [same, place]
    · simp [same, place]
  · intro l'
    rw [has_push, bucket_push]
    by_cases same : l = l'
    · simp [same]
    · simpa [same] using old.has l'

/-- A mark by location: it says whether a parameter before has the same location. -/
def MarkedByIn (before : List ParameterView) (v : ParameterView) : Prop :=
  v.notFirstByIn = true ↔ ∃ l, v.location = some l ∧ ∃ earlier ∈ before, earlier.location = some l

theorem Indexes.has_iff {b : ByIn} {list : List ParameterView} (old : Indexes b list) (l : Location) :
    b.has l = true ↔ ∃ earlier ∈ list, earlier.location = some l := by
  rw [old.has, old.bucket, Ne, List.filter_eq_nil_iff]
  simp

theorem enter_unlocated {v : ParameterView} (nowhere : v.location = none) (b : ByIn) (rest : List ParameterView) :
    enterParameters b (v :: rest) = (v :: (enterParameters b rest).1, (enterParameters b rest).2) := by
  simp only [enterParameters, nowhere]

theorem enter_located {v : ParameterView} {l : Location} (place : v.location = some l) (b : ByIn)
    (rest : List ParameterView) :
    enterParameters b (v :: rest) =
      ({ v with notFirstByIn := b.has l } ::
          (enterParameters (b.push l { v with notFirstByIn := b.has l }) rest).1,
        (enterParameters (b.push l { v with notFirstByIn := b.has l }) rest).2) := by
  simp only [enterParameters, place]

/-- A mark by location, at a parameter that has one. -/
def MarkedAt (before : List ParameterView) (v : ParameterView) : Prop :=
  ∀ l, v.location = some l → (v.notFirstByIn = true ↔ ∃ earlier ∈ before, earlier.location = some l)

/-- Parameters that enter an index come back marked where they have a location, and the index is in step with
    them. -/
theorem enter_indexes {list before : List ParameterView} {b : ByIn} (old : Indexes b before)
    (marks : Successive MarkedAt before) :
    Indexes (enterParameters b list).2 (before ++ (enterParameters b list).1) ∧
      Successive MarkedAt (before ++ (enterParameters b list).1) := by
  -- The members that come back join those before, so that the next mark sees them.
  induction list generalizing b before with
  | nil => simpa [enterParameters] using ⟨old, marks⟩
  | cons v rest ih =>
    cases place : v.location with
    | none =>
      rw [enter_unlocated place]
      have mark : MarkedAt before v := by simp [MarkedAt, place]
      simpa using ih (indexes_unlocated old place) (successive_concat marks mark)
    | some l =>
      rw [enter_located place]
      have mark : MarkedAt before { v with notFirstByIn := b.has l } := by
        simpa [MarkedAt, place] using old.has_iff l
      simpa using ih (indexes_push (v := { v with notFirstByIn := b.has l }) old place)
        (successive_concat marks mark)

/-- Parameters are marked by location where they have one, and where those without one have no mark. -/
theorem marked_byIn {list : List ParameterView} (marks : Successive MarkedAt list)
    (unmarked : ∀ v ∈ list, v.location = none → v.notFirstByIn = false) : Successive MarkedByIn list := by
  intro before v after split
  cases place : v.location with
  | none =>
    have plain := unmarked v (by simp [split]) place
    simp [MarkedByIn, place, plain]
  | some l =>
    have mark := marks before v after split l place
    simpa [MarkedByIn, place] using mark

/-! ## Marks that are there before -/

/-- A view remarked: with another mark by location if it has a location, and as it was if it has none. -/
inductive Remarked : ParameterView → ParameterView → Prop
  | unlocated {v : ParameterView} (nowhere : v.location = none) : Remarked v v
  | located {v : ParameterView} {l : Location} (place : v.location = some l) (mark : Bool) :
    Remarked v { v with notFirstByIn := mark }

/-- Parameters that enter an index are remarked, and nothing else becomes of them. -/
theorem enter_remarks (b : ByIn) (list : List ParameterView) :
    List.Forall₂ Remarked list (enterParameters b list).1 := by
  induction list generalizing b with
  | nil => exact .nil
  | cons v rest ih =>
    cases place : v.location with
    | none =>
      rw [enter_unlocated place]
      exact .cons (.unlocated place) (ih b)
    | some l =>
      rw [enter_located place]
      exact .cons (.located place _) (ih _)

/-- The marks that they come with count for nothing. -/
theorem enter_remarked {list list' : List ParameterView} (remarked : List.Forall₂ Remarked list list') (b : ByIn) :
    enterParameters b list' = enterParameters b list := by
  induction remarked generalizing b with
  | nil => rfl
  | @cons v v' _ _ here _ ih =>
    cases here with
    | unlocated nowhere => rw [enter_unlocated nowhere, enter_unlocated nowhere, ih]
    | @located l place mark =>
      have place' : { v with notFirstByIn := mark }.location = some l := place
      rw [enter_located place, enter_located place', ih]

theorem sortByIn_remarked {list list' : List ParameterView} (remarked : List.Forall₂ Remarked list list') :
    sortByIn list' = sortByIn list := by
  simp only [sortByIn, enter_remarked remarked]

/-! ## The list -/

/-- A view without its mark by location. -/
def unmarked (v : ParameterView) : ParameterView := { v with notFirstByIn := false }

/-- A view without its mark by order. -/
def unnumbered (v : ParameterView) : ParameterView := { v with notFirstParameter := false }

/-- A mark by order: it says whether there is a parameter before. -/
def MarkedByOrder (before : List ParameterView) (v : ParameterView) : Prop :=
  v.notFirstParameter = true ↔ before ≠ []

/-- Entering an index changes marks by location and nothing else. -/
theorem enter_unmarked (b : ByIn) (list : List ParameterView) :
    (enterParameters b list).1.map unmarked = list.map unmarked := by
  induction list generalizing b with
  | nil => rfl
  | cons v rest ih =>
    cases place : v.location with
    | none => simp [enter_unlocated place, ih]
    | some l => simp [enter_located place, ih, unmarked]

/-- Putting parameters in a list changes marks by order and nothing else. -/
theorem push_unnumbered (views : List ParameterView) :
    (views.foldl pushParameter []).map unnumbered = views.map unnumbered := by
  refine foldl_states (P := fun done (list : List ParameterView) => list.map unnumbered = done.map unnumbered)
    rfl ?_ views
  intro done v list same
  simp [pushParameter, same, unnumbered]

theorem push_order (views : List ParameterView) : Successive MarkedByOrder (views.foldl pushParameter []) := by
  refine foldl_states (P := fun _ list => Successive MarkedByOrder list) (successive_nil _) ?_ views
  intro done v list marks
  exact successive_concat marks (by simp [MarkedByOrder])

/-! ## Parameters in place -/

theorem place_order (views : List ParameterView) : Successive MarkedByOrder (placeParameters views).1 := by
  refine successive_of_map_eq (f := unmarked) ?_ (enter_unmarked .empty _).symm (push_order views)
  intro before before' v v' front here marked
  have flag : v.notFirstParameter = v'.notFirstParameter := congrArg (·.notFirstParameter) here
  have empty : before = [] ↔ before' = [] := by
    rw [← List.map_eq_nil_iff (f := unmarked), front, List.map_eq_nil_iff]
  rw [MarkedByOrder, ← flag, Ne, ← empty]
  exact marked

/-- Putting parameters in place changes their marks of place and nothing else. -/
theorem place_bare (views : List ParameterView) :
    (placeParameters views).1.map (unmarked ∘ unnumbered) = views.map (unmarked ∘ unnumbered) := by
  have byIn (list : List ParameterView) :
      list.map (unmarked ∘ unnumbered) = (list.map unmarked).map unnumbered := by rw [List.map_map]; rfl
  have byOrder (list : List ParameterView) :
      list.map (unmarked ∘ unnumbered) = (list.map unnumbered).map unmarked := by rw [List.map_map]
  have entered : (placeParameters views).1.map unmarked = (views.foldl pushParameter []).map unmarked :=
    enter_unmarked .empty _
  rw [byIn, entered, ← byIn, byOrder, push_unnumbered, ← byOrder]

/-- A parameter in place is one of the views but for its marks of place. -/
theorem exists_bare {views : List ParameterView} {v : ParameterView} (member : v ∈ (placeParameters views).1) :
    ∃ u ∈ views, unmarked (unnumbered u) = unmarked (unnumbered v) := by
  have inside : unmarked (unnumbered v) ∈ views.map (unmarked ∘ unnumbered) := by
    rw [← place_bare]
    exact List.mem_map_of_mem (f := unmarked ∘ unnumbered) member
  exact List.mem_map.mp inside

theorem indexes_both {b : ByIn} {list : List ParameterView} (old : Indexes b list) (both : Bool) :
    Indexes { b with hasQueryAndBody := both } list where
  bucket := by intro l; rw [← old.bucket l]; cases l <;> rfl
  has := by intro l; have := old.has l; cases l <;> exact this

/-- The index of sorted parameters is in step with them, and they are marked where they have a location. -/
theorem sort_indexes (list : List ParameterView) :
    Indexes (sortByIn list).2 (sortByIn list).1 ∧ Successive MarkedAt (sortByIn list).1 := by
  have entered : Indexes (enterParameters .empty list).2 (enterParameters .empty list).1 ∧
      Successive MarkedAt (enterParameters .empty list).1 := enter_indexes indexes_empty (successive_nil _)
  exact ⟨indexes_both entered.1 _, entered.2⟩

/-- The index of parameters in place is in step with them, and they are marked by location. -/
theorem place_indexes {views : List ParameterView} (plain : ∀ v ∈ views, v.notFirstByIn = false) :
    Indexes (placeParameters views).2 (placeParameters views).1 ∧
      Successive MarkedByIn (placeParameters views).1 := by
  have pushed : ∀ v ∈ views.foldl pushParameter [], v.notFirstByIn = false := by
    intro v member
    have inside : unnumbered v ∈ views.map unnumbered := by
      rw [← push_unnumbered]
      exact List.mem_map_of_mem member
    obtain ⟨u, original, same⟩ := List.mem_map.mp inside
    have flag : u.notFirstByIn = v.notFirstByIn := congrArg (·.notFirstByIn) same
    rw [← flag]
    exact plain u original
  obtain ⟨index, marks⟩ := sort_indexes (views.foldl pushParameter [])
  refine ⟨index, marked_byIn marks fun v member nowhere => ?_⟩
  obtain ⟨u, original, remarked⟩ := exists_of_forall₂ (enter_remarks .empty _) member
  cases remarked with
  | unlocated _ => exact pushed v original
  | located place mark =>
    have somewhere := place.symm.trans nowhere
    cases somewhere

theorem place_both (views : List ParameterView) :
    (placeParameters views).2.hasQueryAndBody =
      ((placeParameters views).2.hasQuery && (placeParameters views).2.hasBody) := rfl

/-- Sorting parameters by location changes nothing but the marks by location of those that have one. These marks say
    whether a parameter before has the same location, and the index is in step with the list. What comes out of it
    comes out unchanged a second time, with the same index. -/
theorem sorting_settles (list : List ParameterView) :
    List.Forall₂ Remarked list (sortByIn list).1 ∧
      Indexes (sortByIn list).2 (sortByIn list).1 ∧ Successive MarkedAt (sortByIn list).1 ∧
      sortByIn (sortByIn list).1 = sortByIn list := by
  have remarks : List.Forall₂ Remarked list (sortByIn list).1 := enter_remarks .empty list
  obtain ⟨index, marks⟩ := sort_indexes list
  exact ⟨remarks, index, marks, sortByIn_remarked remarks⟩

/-! ## The parameters of a method -/

/-- The text by which a parameter declares its location: its `in`, in 1.x documents its `paramType`. -/
def declaredText : Document → Parameter → Option String
  | .declaration _, p => p.paramType
  | .specification _, p => p.place

/-- The text that stands for a location. -/
def locationText (document : Document) : Location → String
  | .body => "body"
  | .path => "path"
  | .query => "query"
  | .header => "header"
  | .formData => match document with
    | .declaration _ => "form"
    | .specification _ => "formData"

/-- The flag of a view for a location. -/
def flagAt (v : ParameterView) : Location → Bool
  | .body => v.isBodyParameter
  | .path => v.isPathParameter
  | .query => v.isQueryParameter
  | .header => v.isHeaderParameter
  | .formData => v.isFormParameter

theorem ofIn_eq_some (s : Specification) (name : String) (l : Location) :
    Location.ofIn name = some l ↔ name = locationText (.specification s) l := by
  unfold Location.ofIn
  split_ifs <;> cases l <;> simp_all [locationText]

theorem ofParamType_eq_some (d : Declaration) (name : String) (l : Location) :
    Location.ofParamType name = some l ↔ name = locationText (.declaration d) l := by
  unfold Location.ofParamType
  split_ifs <;> cases l <;> simp_all [locationText]

/-- What the view of a parameter says of its location. -/
structure Located (document : Document) (v : ParameterView) : Prop where
  declared : ∀ l, v.location = some l ↔ declaredText document v.parameter = some (locationText document l)
  flags : ∀ l, flagAt v l = true ↔ v.location = some l

theorem of_flags (p : Parameter) (location : Option Location) (c : Computed) (l : Location) :
    flagAt (.of p location c) l = true ↔ location = some l := by
  cases l <;> simp [flagAt, ParameterView.of]

theorem of_parameter (p : Parameter) (location : Option Location) (c : Computed) :
    ∃ others, (ParameterView.of p location c).parameter = { p with others } := by
  simp only [ParameterView.of]
  generalize (if location = some .query then p.namePattern else none) = pattern
  cases pattern with
  | none => exact ⟨p.others, rfl⟩
  | some text => exact ⟨_, rfl⟩

theorem of_declared (document : Document) (p : Parameter) (location : Option Location) (c : Computed) :
    declaredText document (ParameterView.of p location c).parameter = declaredText document p := by
  obtain ⟨others, same⟩ := of_parameter p location c
  rw [same]
  cases document <;> rfl

theorem viewOf_located (document : Document) (o : Options) (p : Parameter) : Located document (viewOf document o p) := by
  cases document with
  | declaration d =>
    refine ⟨fun l => ?_, of_flags _ _ _⟩
    rw [viewOf, declarationParameter, of_declared]
    cases text : p.paramType with
    | none => simp [ParameterView.of, declaredText, text]
    | some name => simp [ParameterView.of, declaredText, text, ofParamType_eq_some d]
  | specification s =>
    refine ⟨fun l => ?_, of_flags _ _ _⟩
    rw [viewOf, specificationParameter, of_declared]
    cases text : p.place with
    | none => simp [ParameterView.of, declaredText, text]
    | some name => simp [ParameterView.of, declaredText, text, ofIn_eq_some s]

/-- Parameters are arranged by location: the index has at every location the parameters there, as they are and
    in order, and says where there are any; every parameter stands at the location that it declares, has its
    flag and no other, and is marked by order and by location. -/
structure Arranged (document : Document) (list : List ParameterView) (b : ByIn) : Prop where
  bucket : ∀ l, b.bucket l = list.filter fun v => v.location = some l
  has : ∀ l, b.has l = true ↔ b.bucket l ≠ []
  both : b.hasQueryAndBody = true ↔ b.query ≠ [] ∧ b.body ≠ []
  declared : ∀ v ∈ list, ∀ l, v ∈ b.bucket l ↔ declaredText document v.parameter = some (locationText document l)
  apart : ∀ v l l', v ∈ b.bucket l → v ∈ b.bucket l' → l = l'
  flags : ∀ v ∈ list, ∀ l, flagAt v l = true ↔ v.location = some l
  order : ∀ before v after, list = before ++ v :: after → (v.notFirstParameter = true ↔ before ≠ [])
  byIn : ∀ before v after, list = before ++ v :: after →
    (v.notFirstByIn = true ↔ ∃ l, v.location = some l ∧ ∃ earlier ∈ before, earlier.location = some l)

theorem bare_located {document : Document} {u v : ParameterView} (located : Located document u)
    (same : unmarked (unnumbered u) = unmarked (unnumbered v)) : Located document v := by
  have parameter : u.parameter = v.parameter := congrArg (·.parameter) same
  have location : u.location = v.location := congrArg (·.location) same
  have flags : ∀ l, flagAt u l = flagAt v l := fun l => by
    have flag : flagAt (unmarked (unnumbered u)) l = flagAt (unmarked (unnumbered v)) l := by rw [same]
    cases l <;> exact flag
  refine ⟨fun l => ?_, fun l => ?_⟩
  · rw [← location, ← parameter]
    exact located.declared l
  · rw [← flags l, ← location]
    exact located.flags l

/-- Views of the parameters of a document are arranged by location when they are put in place. -/
theorem place_arranged (document : Document) (o : Options) (bound : List Parameter) :
    Arranged document (placeParameters (bound.map (viewOf document o))).1
      (placeParameters (bound.map (viewOf document o))).2 := by
  have plain : ∀ v ∈ bound.map (viewOf document o), v.notFirstByIn = false := by
    intro v member
    obtain ⟨p, _, rfl⟩ := List.mem_map.mp member
    cases document <;> rfl
  obtain ⟨index, marks⟩ := place_indexes plain
  have located : ∀ v ∈ (placeParameters (bound.map (viewOf document o))).1, Located document v := by
    intro v member
    obtain ⟨u, original, same⟩ := exists_bare member
    obtain ⟨p, _, rfl⟩ := List.mem_map.mp original
    exact bare_located (viewOf_located document o p) same
  have inBucket : ∀ v l, v ∈ (placeParameters (bound.map (viewOf document o))).2.bucket l ↔
      v ∈ (placeParameters (bound.map (viewOf document o))).1 ∧ v.location = some l := by
    intro v l
    rw [index.bucket l, List.mem_filter, decide_eq_true_eq]
  refine ⟨index.bucket, index.has, ?_, ?_, ?_, ?_, place_order _, marks⟩
  · rw [place_both, Bool.and_eq_true]
    exact and_congr (index.has .query) (index.has .body)
  · intro v member l
    rw [inBucket, ← (located v member).declared l]
    exact and_iff_right member
  · intro v l l' first second
    have one := ((inBucket v l).mp first).2
    rw [((inBucket v l').mp second).2] at one
    exact (Option.some.inj one).symm
  · intro v member
    exact (located v member).flags

/-- The parameters of every method of a view are arranged by location. -/
theorem parameters_arranged {document : Document} {o : Options} {model : Model}
    (built : ofDocument document o = .ok model) {m : Method} (member : m ∈ model.methods) :
    Arranged document m.parameters m.byIn := by
  obtain ⟨bound, placed⟩ := method_parameters built member
  obtain ⟨list, index⟩ := Prod.mk.inj placed
  rw [list, index]
  exact place_arranged document o bound

/-- A document with an operation whose parameters change between locations, with one that is left out, one of an
    unknown location and one without any between them. -/
def changingPlaces : Specification :=
  pathsOnly [("/pets", ⟨[.inline (plainParameter "page" (some "query")), .inline (plainParameter "trace" none)],
    [(.post, { blankOperation with parameters := [
      .inline (plainParameter "limit" (some "query")),
      .inline { plainParameter "secret" (some "query") with excluded := some true },
      .inline (plainParameter "session" (some "cookie")),
      .inline (plainParameter "pet" (some "body"))] })]⟩)]

theorem parameters_arranged_changing :
    ∃ model m, ofDocument (.specification changingPlaces) .default = .ok model ∧ m ∈ model.methods ∧
      m.parameters.map (fun v => (v.camelCaseName, v.notFirstParameter, v.notFirstByIn)) =
        [("limit", false, false), ("session", true, false), ("pet", true, false), ("page", true, true),
          ("trace", true, false)] ∧
      Arranged (.specification changingPlaces) m.parameters m.byIn := by
  have built : ofDocument (.specification changingPlaces) .default = .ok (modelOf changingPlaces .default _) := rfl
  exact ⟨_, _, built, List.mem_singleton_self _, by decide +kernel,
    parameters_arranged built (List.mem_singleton_self _)⟩

end ApiBindings.Locations
