import ApiBindings.Proofs.Answers
import ApiBindings.Proofs.MethodNames
import Mathlib.Data.List.Induction

/-!
# Methods in order and their marks of place

The methods of a view are those of the operations of its document, one for one and in document order, and their
marks say where they stand (`methods_placed`). In 2.0 documents the mark of a new path compares a method with the
one before it; since no path is listed twice, methods of one path stand together (`together_paths`), so that this
is the same as being the first method of the path. In 1.x documents an operation that is passed over takes no
mark with it.
-/

namespace ApiBindings.Places
open ApiBindings.Document ApiBindings.View ApiBindings.Walks ApiBindings.Answers

/-! ## Texts that stand together -/

/-- Equal texts of a list stand together: one that was there before is the one just before. -/
def Together (list : List String) : Prop :=
  Successive (fun before a => a ∈ before → before.getLast? = some a) list

theorem together_replicate {list : List String} (old : Together list) {a : String} (new : a ∉ list) (n : Nat) :
    Together (list ++ List.replicate n a) := by
  induction n with
  | zero => simpa using old
  | succ n ih =>
    rw [List.replicate_succ', ← List.append_assoc]
    refine successive_concat ih ?_
    intro there
    cases n with
    | zero => exact absurd there (by simpa using new)
    | succ n => simp [List.replicate_succ']

/-- What is read off the paths of a list stands together if no path is listed twice. -/
theorem together_paths (paths : List (String × PathItem)) (distinct : (paths.map (·.1)).Nodup) :
    Together (paths.flatMap fun p => p.2.operations.map fun _ => p.1) := by
  induction paths using List.reverseRecOn with
  | nil => exact successive_nil _
  | append_singleton paths p ih =>
    rw [List.map_append, List.nodup_append] at distinct
    obtain ⟨front, _, apart⟩ := distinct
    rw [List.flatMap_append, List.flatMap_singleton, List.map_const']
    refine together_replicate (ih front) ?_ _
    intro there
    obtain ⟨q, inside, listed⟩ := List.mem_flatMap.mp there
    obtain ⟨_, _, same⟩ := List.mem_map.mp listed
    exact apart q.1 (List.mem_map_of_mem inside) p.1 (by simp) same

/-- In a list in which equal texts stand together, a text differs from the one before it exactly if it has not been
    there at all. -/
theorem together_new {list : List String} (together : Together list) {before after : List String} {a : String}
    (split : list = before ++ a :: after) : (before.getLast? ≠ some a) ↔ a ∉ before := by
  constructor
  · intro differs there
    exact differs (together before a after split there)
  · intro new last
    exact new (List.mem_of_getLast? last)

/-! ## 2.0 documents -/

/-- A verb in capitals. -/
def capitals (verb : String) : String := String.ofList (Text.toUpper verb.toList)

/-- The marks of a method of a 2.0 document say where it stands: whether its path differs from that of the method
    before, and whether there is one before. -/
def MarkedByPath (before : List Method) (m : Method) : Prop :=
  (m.isFirstPath = true ↔ (before.map (·.path)).getLast? ≠ some m.path) ∧
    (m.notFirstMethod = true ↔ before ≠ []) ∧ m.isFirstMethod = false ∧ m.notFirstPath = false

theorem walk_marked {s : Specification} {o : Options} {w : Walk} (run : walk s o = .ok w) :
    Successive MarkedByPath w.methods := by
  -- The last path of the walk is that of its last method.
  have both : w.lastPath = (w.methods.map (·.path)).getLast? ∧ Successive MarkedByPath w.methods := by
    refine walk_states
      (P := fun _ w => w.lastPath = (w.methods.map (·.path)).getLast? ∧ Successive MarkedByPath w.methods)
      ⟨rfl, successive_nil _⟩ ?_ run
    rintro done e w m ⟨last, marks⟩ built
    obtain ⟨bound, _, rfl⟩ := ok_of_map built
    rw [push_methods]
    refine ⟨?_, successive_concat marks ?_⟩
    · rw [List.map_append, List.map_cons, List.map_nil, List.getLast?_concat]
      simp [Walk.push, insertMethod_fst, marked]
    · refine ⟨?_, ?_, rfl, rfl⟩
      · rw [← last]
        simp [marked]
      · simp [marked]
  exact both.2

/-- A method is listed under a path and a verb. -/
def ListedAs (path verb : String) (m : Method) : Prop := m.path = path ∧ m.verb = capitals verb

/-- The methods of a 2.0 document in place: one for each operation, paths and operations in document order, with
    the marks of the first method of a path and of every method but the first of all. -/
structure SpecificationPlaced (s : Specification) (o : Options) (methods : List Method) : Prop where
  listed : List.Forall₂ (fun e m => ListedAs e.path e.verb.name m ∧ Shows s o e m) (endpoints s) methods
  firstOfPath : ∀ before m after, methods = before ++ m :: after →
    (m.isFirstPath = true ↔ ∀ earlier ∈ before, earlier.path ≠ m.path)
  change : ∀ before m after, methods = before ++ m :: after →
    (m.isFirstPath = true ↔ ∀ previous, before.getLast? = some previous → previous.path ≠ m.path)
  notFirst : ∀ before m after, methods = before ++ m :: after → (m.notFirstMethod = true ↔ before ≠ [])
  plain : ∀ m ∈ methods, m.isFirstMethod = false ∧ m.notFirstPath = false

theorem shows_listed {s : Specification} {o : Options} {e : Endpoint} {m : Method} (shown : Shows s o e m) :
    ListedAs e.path e.verb.name m := MethodNames.shows_answers shown

theorem paths_together {s : Specification} {o : Options} {methods : List Method}
    (distinct : (s.paths.map (·.1)).Nodup) (listed : List.Forall₂ (Shows s o) (endpoints s) methods) :
    Together (methods.map (·.path)) := by
  have paths : methods.map (·.path) = (endpoints s).map (·.path) := by
    rw [← List.forall₂_eq_eq_eq, List.forall₂_map_left_iff, List.forall₂_map_right_iff]
    exact listed.flip.imp fun _ _ shown => (shows_listed shown).1
  rw [paths, map_endpoints]
  exact together_paths s.paths distinct

theorem walk_placed {s : Specification} {o : Options} {w : Walk} (distinct : (s.paths.map (·.1)).Nodup)
    (run : walk s o = .ok w) : SpecificationPlaced s o w.methods := by
  have shown := walk_shows run
  have marks := walk_marked run
  refine ⟨shown.imp fun _ _ here => ⟨shows_listed here, here⟩, ?_, ?_, ?_, ?_⟩
  · intro before m after split
    have paths : w.methods.map (·.path) = before.map (·.path) ++ m.path :: after.map (·.path) := by
      rw [split, List.map_append, List.map_cons]
    rw [(marks before m after split).1, together_new (paths_together distinct shown) paths]
    simp
  · intro before m after split
    rw [(marks before m after split).1, List.getLast?_map]
    cases before.getLast? <;> simp
  · intro before m after split
    exact (marks before m after split).2.1
  · intro m member
    obtain ⟨before, after, split⟩ := List.append_of_mem member
    exact (marks before m after split).2.2

/-! ## 1.x documents -/

/-- The operations of a 1.x document that become methods, in document order, each with its path and its number among
    those of the path. -/
def numberedOperations (d : Declaration) : List (Api × Nat × ApiOperation) :=
  d.apis.flatMap fun api => (boundOperations api).mapIdx fun i op => (api, i, op)

/-- The methods of a 1.x document in place: one for each operation that is not passed over, in document order, with
    the marks of the first method of all and of every method but the first of its path. -/
structure DeclarationPlaced (d : Declaration) (o : Options) (methods : List Method) : Prop where
  listed : List.Forall₂
    (fun e m => ListedAs e.1.path e.2.2.method m ∧ ShowsApi d o ⟨e.1, e.2.1 == 0, e.2.2⟩ m ∧
      (m.notFirstPath = false ↔ e.2.1 = 0))
    (numberedOperations d) methods
  first : ∀ before m after, methods = before ++ m :: after → (m.isFirstMethod = true ↔ before = [])
  plain : ∀ m ∈ methods, m.isFirstPath = false ∧ m.notFirstMethod = false ∧ m.notFirstByTag = false

/-- The first operation on a path is the one that opens it. -/
theorem onPath_eq (api : Api) (ops : List ApiOperation) :
    onPath api true ops = ops.mapIdx fun i op => ⟨api, i == 0, op⟩ := by
  have later : ∀ (ops : List ApiOperation) (k : Nat),
      onPath api false ops = ops.mapIdx fun i op => ⟨api, i + k + 1 == 0, op⟩ := by
    intro ops
    induction ops with
    | nil => intro k; rfl
    | cons op rest ih =>
      intro k
      rw [onPath, List.mapIdx_cons, ih (k + 1)]
      simp
  cases ops with
  | nil => rfl
  | cons op rest =>
    rw [onPath, List.mapIdx_cons, later rest 0]
    rfl

theorem apiEndpoints_eq (d : Declaration) :
    apiEndpoints d = (numberedOperations d).map fun e => ⟨e.1, e.2.1 == 0, e.2.2⟩ := by
  simp only [apiEndpoints, numberedOperations, onPath_eq, List.map_flatMap, List.mapIdx_eq_zipIdx_map, List.map_map,
    Function.comp_def]

theorem walkDeclaration_opens (d : Declaration) (o : Options) :
    List.Forall₂ (fun e m => ShowsApi d o e m ∧ m.notFirstPath = !e.opens) (apiEndpoints d)
      (walkDeclaration d o).methods := by
  refine walkDeclaration_states
    (P := fun done w => List.Forall₂ (fun e m => ShowsApi d o e m ∧ m.notFirstPath = !e.opens) done w.methods)
    .nil ?_
  intro done e w shown
  exact List.rel_append shown (.cons ⟨rfl, rfl⟩ .nil)

/-- The mark of the first method of a 1.x document says that there is none before; the marks of 2.0 documents are
    not set. -/
def MarkedFirst (before : List Method) (m : Method) : Prop :=
  (m.isFirstMethod = true ↔ before = []) ∧
    m.isFirstPath = false ∧ m.notFirstMethod = false ∧ m.notFirstByTag = false

theorem walkDeclaration_marked (d : Declaration) (o : Options) :
    Successive MarkedFirst (walkDeclaration d o).methods := by
  refine walkDeclaration_states (P := fun _ w => Successive MarkedFirst w.methods) (successive_nil _) ?_
  intro done e w marks
  exact successive_concat marks ⟨List.isEmpty_iff, rfl, rfl, rfl⟩

theorem walkDeclaration_placed (d : Declaration) (o : Options) :
    DeclarationPlaced d o (walkDeclaration d o).methods := by
  have marks := walkDeclaration_marked d o
  refine ⟨?_, ?_, ?_⟩
  · have shown := walkDeclaration_opens d o
    rw [apiEndpoints_eq, List.forall₂_map_left_iff] at shown
    refine shown.imp fun e m here => ⟨MethodNames.showsApi_answers here.1, here.1, ?_⟩
    rw [here.2]
    simp
  · intro before m after split
    exact (marks before m after split).1
  · intro m member
    obtain ⟨before, after, split⟩ := List.append_of_mem member
    exact (marks before m after split).2

/-! ## What is passed over -/

/-- Paths of a 2.0 document without those that have no operation. -/
def occupiedPaths (paths : List (String × PathItem)) : List (String × PathItem) :=
  paths.filter fun p => !p.2.operations.isEmpty

/-- A path of a 1.x document without the operations that are passed over. -/
def boundApi (api : Api) : Api := { api with operations := boundOperations api }

/-- Paths of a 1.x document without the operations that are passed over, and without those that have no other. -/
def occupiedApis (apis : List Api) : List Api := (apis.map boundApi).filter fun api => !api.operations.isEmpty

/-- A document without what becomes no method. -/
def withoutPassedOver : Document → Document
  | .declaration d => .declaration { d with apis := occupiedApis d.apis }
  | .specification s => .specification { s with paths := occupiedPaths s.paths }

theorem endpoints_occupied (s : Specification) (paths : List (String × PathItem)) :
    endpoints { s with paths := occupiedPaths paths } = endpoints { s with paths } := by
  induction paths with
  | nil => rfl
  | cons p rest ih =>
    simp only [endpoints, occupiedPaths, List.flatMap_cons] at ih ⊢
    rw [← ih]
    cases listed : p.2.operations with
    | nil => simp [listed]
    | cons v more => simp [listed]

theorem walk_occupied {s : Specification} {o : Options}
    (same : o.answers { s with paths := occupiedPaths s.paths } = o.answers s) :
    walk { s with paths := occupiedPaths s.paths } o = walk s o := by
  rw [walk, endpoints_occupied, step_paths same]
  rfl

theorem walkOperations_bound (d : Declaration) (o : Options) (apis : List Api) (api : Api) (ops : List ApiOperation)
    (opens : Bool) (w : ApiWalk) :
    walkOperations { d with apis } o (boundApi api) opens w (ops.filter fun op => !isPassedOver op) =
      walkOperations d o api opens w ops := by
  induction ops generalizing opens w with
  | nil => rfl
  | cons op rest ih =>
    rw [walkOperations]
    by_cases passed : isPassedOver op = true
    · simp only [passed, Bool.not_true, Bool.false_eq_true, not_false_eq_true, List.filter_cons_of_neg, if_true, ih]
    · simp only [passed, Bool.not_false, List.filter_cons_of_pos, if_false, Bool.false_eq_true, walkOperations, ih]
      rfl

theorem foldl_occupied (d : Declaration) (o : Options) (bound apis : List Api) (w : ApiWalk) :
    (occupiedApis apis).foldl (fun w api => walkOperations { d with apis := bound } o api true w api.operations) w =
      apis.foldl (fun w api => walkOperations d o api true w api.operations) w := by
  induction apis generalizing w with
  | nil => rfl
  | cons api rest ih =>
    have here : walkOperations { d with apis := bound } o (boundApi api) true w (boundApi api).operations =
        walkOperations d o api true w api.operations := walkOperations_bound d o bound api api.operations true w
    rw [List.foldl_cons, ← here, ← ih, occupiedApis, List.map_cons]
    cases left : (boundApi api).operations with
    | nil => simp [left, walkOperations, occupiedApis]
    | cons op more => simp [left, occupiedApis]

theorem walkDeclaration_occupied (d : Declaration) (o : Options) :
    walkDeclaration { d with apis := occupiedApis d.apis } o = walkDeclaration d o :=
  foldl_occupied d o (occupiedApis d.apis) d.apis {}

/-! ## Documents -/

/-- No path of a 2.0 document is listed twice, as in every document that is read from a text
    (`DistinctKeys.read_distinctPaths`). In a 1.x document paths may come again. -/
def DistinctPaths : Document → Prop
  | .declaration _ => True
  | .specification s => (s.paths.map (·.1)).Nodup

/-- The methods of a document in place. -/
def Placed : Document → Options → List Method → Prop
  | .declaration d, o, methods => DeclarationPlaced d o methods
  | .specification s, o, methods => SpecificationPlaced s o methods

/-- The document without what becomes no method has the methods of the whole one, with the same marks, but for what a
    converter answers. -/
theorem passedOver_inert {document : Document} {o : Options} {model : Model}
    (built : ofDocument document o = .ok model) :
    HasView o (withoutPassedOver document) document fun model' => model'.methods = model.methods := by
  cases document with
  | declaration d =>
    refine HasView.of (fun _ => rfl) fun o' others _ => ⟨_, rfl, ?_⟩
    cases others.trans built
    rw [ofDeclaration, walkDeclaration_occupied]
    rfl
  | specification s =>
    have fixed (answers) : answersFor (withoutPassedOver (.specification s)) (answering o answers) =
        answersFor (.specification s) (answering o answers) := by
      simp only [withoutPassedOver, answersFor, answers_answering]
    refine HasView.of fixed fun o' others same => ?_
    obtain ⟨w, run, rfl⟩ := ok_of_map (others.trans built)
    refine ⟨modelOf { s with paths := occupiedPaths s.paths } o' w, ?_, rfl⟩
    rw [withoutPassedOver, ofDocument, ofSpecification, walk_occupied same, run]
    rfl

/-- The methods of a view are those of the operations of its document, one for one and in document order, each
    marked by its place. They are the same, with the same marks, for the document without what becomes no method, but
    for what a converter answers. -/
theorem methods_placed {document : Document} {o : Options} {model : Model} (distinct : DistinctPaths document)
    (built : ofDocument document o = .ok model) :
    Placed document o model.methods ∧
      HasView o (withoutPassedOver document) document fun model' => model'.methods = model.methods := by
  refine ⟨?_, passedOver_inert built⟩
  cases document with
  | declaration d =>
    cases built
    exact walkDeclaration_placed d o
  | specification s =>
    obtain ⟨w, run, rfl⟩ := ok_of_map built
    exact walk_placed distinct run

/-- A 2.0 document with a path without operations between two others. -/
def emptyBetween : Specification :=
  pathsOnly [("/pets", ⟨[], [(.get, blankOperation), (.options, blankOperation)]⟩), ("/none", ⟨[], []⟩),
    ("/store", ⟨[], [(.get, blankOperation)]⟩)]

/-- A 1.x document that lists a path twice, with operations that are passed over in front and on their own. -/
def optionsBefore : Declaration :=
  let op (method : String) : ApiOperation := ⟨method, none, none, none, [], none, none, none, none⟩
  ⟨none, none, none, none,
    [⟨"/pets", none, [op "Options", op "get", op "post"]⟩, ⟨"/none", none, [op "OPTIONS"]⟩,
      ⟨"/pets", none, [op "put", op "options"]⟩], none, none, none⟩

theorem methods_placed_between :
    (∃ model, ofDocument (.specification emptyBetween) .default = .ok model ∧
      model.methods.map (fun m => (m.methodName, m.isFirstPath, m.notFirstMethod)) =
        [("getPets", true, false), ("optionsPets", false, true), ("getStore", true, true)] ∧
      Placed (.specification emptyBetween) .default model.methods) ∧
    ∃ model, ofDocument (.declaration optionsBefore) .default = .ok model ∧
      model.methods.map (fun m => (m.methodName, m.isFirstMethod, m.notFirstPath)) =
        [("getPets", true, false), ("postPets", false, true), ("putPets", false, false)] ∧
      Placed (.declaration optionsBefore) .default model.methods := by
  have built : ofDocument (.specification emptyBetween) .default = .ok (modelOf emptyBetween .default _) := rfl
  have builtApi : ofDocument (.declaration optionsBefore) .default = .ok (ofDeclaration optionsBefore .default) := rfl
  have unlisted : DistinctPaths (.declaration optionsBefore) := trivial
  have distinct : DistinctPaths (.specification emptyBetween) := by simp [DistinctPaths, emptyBetween, pathsOnly]
  exact ⟨⟨_, built, by decide +kernel, (methods_placed distinct built).1⟩,
    _, builtApi, by decide +kernel, (methods_placed unlisted builtApi).1⟩

end ApiBindings.Places
