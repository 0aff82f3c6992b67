import ApiBindings.Proofs.DistinctKeys
import ApiBindings.Proofs.Origins
import ApiBindings.Proofs.SchemesInUse

/-!
# Merged requirements

What the requirements of a document become when those of an operation are merged into them: place by place, scheme by
scheme and scope by scope the operation counts before the document, and whatever is new goes to the end. Merging scopes
is described by what stands at each place (`getElem?_mergeScopes`), merging requirements by their names in order and
the scopes under each (`names_merged`, `scopesOf_merged`). Requirements are maps, which are told by these two
(`requirement_ext`), so that merging is associative and idempotent (`requirements_overlaid`).
-/

namespace ApiBindings.MergedRequirements
open ApiBindings.Document ApiBindings.Walks ApiBindings.SchemesInUse
open ApiBindings.Json (Value)

/-! ## Scopes -/

@[simp] theorem mergeScopes_nil (scopes : List String) : mergeScopes scopes [] = scopes := by
  cases scopes <;> rfl

@[simp] theorem nil_mergeScopes (scopes : List String) : mergeScopes [] scopes = scopes := by
  cases scopes <;> rfl

theorem length_mergeScopes (old new : List String) :
    (mergeScopes old new).length = max old.length new.length := by
  fun_induction mergeScopes old new with
  | case1 old => simp
  | case2 new => simp
  | case3 _ old s new ih =>
    simp only [List.length_cons, ih]
    omega

/-- At a place stands the new scope, and the old one where there is no new one. -/
theorem getElem?_mergeScopes (old new : List String) (j : Nat) :
    (mergeScopes old new)[j]? = new[j]?.or old[j]? := by
  fun_induction mergeScopes old new generalizing j with
  | case1 old => simp
  | case2 new => simp
  | case3 _ old s new ih =>
    cases j with
    | zero => simp
    | succ j => simpa using ih j

theorem mergeScopes_assoc (a b c : List String) :
    mergeScopes (mergeScopes a b) c = mergeScopes a (mergeScopes b c) := by
  apply List.ext_getElem?
  intro j
  simp only [getElem?_mergeScopes, Option.or_assoc]

theorem mergeScopes_self (scopes : List String) : mergeScopes scopes scopes = scopes := by
  apply List.ext_getElem?
  intro j
  rw [getElem?_mergeScopes, Option.or_self]

/-! ## Requirements as maps -/

/-- The scopes that a requirement has for a scheme: none where it does not name it. -/
def scopesOf (requirement : Requirement) (name : String) : List String := (requirement.lookup name).getD []

/-- A requirement is a map: it names no scheme twice. -/
def IsMap (requirement : Requirement) : Prop := (schemeNames requirement).Nodup

instance (requirement : Requirement) : Decidable (IsMap requirement) :=
  inferInstanceAs (Decidable (schemeNames requirement).Nodup)

@[simp] theorem schemeNames_nil : schemeNames [] = [] := rfl

@[simp] theorem schemeNames_cons (n : String) (scopes : List String) (rest : Requirement) :
    schemeNames ((n, scopes) :: rest) = n :: schemeNames rest := rfl

@[simp] theorem scopesOf_nil (name : String) : scopesOf [] name = [] := rfl

theorem scopesOf_cons (n name : String) (scopes : List String) (rest : Requirement) :
    scopesOf ((n, scopes) :: rest) name = if name = n then scopes else scopesOf rest name := by
  by_cases same : name = n
  · simp [scopesOf, same]
  · simp [scopesOf, List.lookup_cons, same, beq_false_of_ne same]

theorem isMap_cons {n : String} {scopes : List String} {rest : Requirement} :
    IsMap ((n, scopes) :: rest) ↔ n ∉ schemeNames rest ∧ IsMap rest := by
  rw [IsMap, schemeNames_cons, List.nodup_cons, IsMap]

theorem scopesOf_unnamed {requirement : Requirement} {name : String} (unnamed : name ∉ schemeNames requirement) :
    scopesOf requirement name = [] := by
  have absent : requirement.lookup name = none := by
    rw [← Option.not_isSome_iff_eq_none, lookup_isSome_keys]
    exact unnamed
  rw [scopesOf, absent, Option.getD_none]

/-- A map is told by its names in order and by the scopes under each of them. -/
theorem requirement_ext {r r' : Requirement} (map : IsMap r) (names : schemeNames r = schemeNames r')
    (scopes : ∀ name, scopesOf r name = scopesOf r' name) : r = r' := by
  induction r generalizing r' with
  | nil => exact (List.map_eq_nil_iff.mp names.symm).symm
  | cons e rest ih =>
    obtain ⟨n, here⟩ := e
    obtain ⟨⟨n', here'⟩, rest', rfl, first, later⟩ := List.map_eq_cons_iff.mp names.symm
    obtain rfl : n' = n := first
    obtain ⟨fresh, map⟩ := isMap_cons.mp map
    have fresh' : n' ∉ schemeNames rest' := by rwa [schemeNames, later]
    have same : here = here' := by simpa [scopesOf_cons] using scopes n'
    rw [same, ih map later.symm]
    intro name
    by_cases named : name = n'
    · rw [named, scopesOf_unnamed fresh, scopesOf_unnamed fresh']
    · simpa [scopesOf_cons, named] using scopes name

/-! ## Merging one requirement into another -/

theorem schemeNames_mergeScheme (target : Requirement) (name : String) (scopes : List String) :
    schemeNames (mergeScheme target name scopes) =
      if name ∈ schemeNames target then schemeNames target else schemeNames target ++ [name] := by
  induction target with
  | nil => simp [mergeScheme]
  | cons e rest ih =>
    obtain ⟨n, old⟩ := e
    rw [mergeScheme]
    by_cases same : n = name
    · simp [same]
    · have other : ¬ name = n := fun eq => same eq.symm
      rw [if_neg same, schemeNames_cons, schemeNames_cons, ih]
      by_cases there : name ∈ schemeNames rest
      · simp [there]
      · simp [there, other]

theorem scopesOf_mergeScheme (target : Requirement) (merged name : String) (scopes : List String) :
    scopesOf (mergeScheme target merged scopes) name =
      if name = merged then mergeScopes (scopesOf target name) scopes else scopesOf target name := by
  induction target with
  | nil => simp [mergeScheme, scopesOf_cons]
  | cons e rest ih =>
    obtain ⟨n, old⟩ := e
    rw [mergeScheme]
    by_cases same : n = merged
    · subst same
      by_cases here : name = n <;> simp [scopesOf_cons, here]
    · rw [if_neg same, scopesOf_cons, scopesOf_cons, ih]
      by_cases here : name = n
      · simp [here, same]
      · simp [here]

section Merged

variable {target source : Requirement} (map : IsMap source)
include map

/-- The names of a merged requirement: those that were there, and behind them the new ones. -/
theorem names_merged :
    schemeNames (mergeRequirement target source) =
      schemeNames target ++ (schemeNames source).filter fun name => name ∉ schemeNames target := by
  induction source generalizing target with
  | nil => simp [mergeRequirement]
  | cons e rest ih =>
    obtain ⟨n, scopes⟩ := e
    obtain ⟨fresh, map⟩ := isMap_cons.mp map
    rw [mergeRequirement, List.foldl_cons, ← mergeRequirement, ih map, schemeNames_mergeScheme, schemeNames_cons]
    by_cases there : n ∈ schemeNames target
    · rw [if_pos there, List.filter_cons_of_neg (by simpa using there)]
    · rw [if_neg there, List.filter_cons_of_pos (by simpa using there), List.append_assoc, List.singleton_append]
      congr 2
      -- The name that was added does not come again.
      refine List.filter_congr fun name inside => ?_
      have other : name ≠ n := fun same => fresh (same ▸ inside)
      simp [other]

theorem scopesOf_merged (name : String) :
    scopesOf (mergeRequirement target source) name = mergeScopes (scopesOf target name) (scopesOf source name) := by
  induction source generalizing target with
  | nil => simp [mergeRequirement]
  | cons e rest ih =>
    obtain ⟨n, scopes⟩ := e
    obtain ⟨fresh, map⟩ := isMap_cons.mp map
    rw [mergeRequirement, List.foldl_cons, ← mergeRequirement, ih map, scopesOf_mergeScheme, scopesOf_cons]
    by_cases here : name = n
    · rw [if_pos here, if_pos here, here, scopesOf_unnamed fresh, mergeScopes_nil]
    · rw [if_neg here, if_neg here]

/-- What is merged into a map leaves it a map. -/
theorem isMap_merged (old : IsMap target) : IsMap (mergeRequirement target source) := by
  rw [IsMap, names_merged map, List.nodup_append]
  refine ⟨old, map.filter _, ?_⟩
  rintro name there _ new rfl
  simp [there] at new

theorem nil_mergeRequirement : mergeRequirement [] source = source := by
  refine requirement_ext (isMap_merged map List.nodup_nil) ?_ fun name => ?_
  · simp [names_merged map]
  · simp [scopesOf_merged map]

theorem mergeRequirement_self : mergeRequirement source source = source := by
  refine requirement_ext (isMap_merged map map) ?_ fun name => ?_
  · simp [names_merged map]
  · rw [scopesOf_merged map, mergeScopes_self]

end Merged

theorem mergeRequirement_assoc {a b c : Requirement} (first : IsMap a) (second : IsMap b) (third : IsMap c) :
    mergeRequirement (mergeRequirement a b) c = mergeRequirement a (mergeRequirement b c) := by
  have inner := isMap_merged third second
  refine requirement_ext (isMap_merged third (isMap_merged second first)) ?_ fun name => ?_
  · rw [names_merged third, names_merged second, names_merged inner, names_merged third, List.filter_append,
      List.append_assoc, List.filter_filter]
    congr 2
    refine List.filter_congr fun name _ => ?_
    by_cases there : name ∈ schemeNames a <;> simp [there]
  · rw [scopesOf_merged third, scopesOf_merged second, scopesOf_merged inner, scopesOf_merged third, mergeScopes_assoc]

/-! ## Merging lists of requirements -/

/-- The requirement at a place of a list: an empty one behind its end. -/
def requirementAt (list : List Requirement) (i : Nat) : Requirement := list[i]?.getD []

/-- All requirements of a list are maps. -/
def AreMaps (list : List Requirement) : Prop := ∀ r ∈ list, IsMap r

instance (list : List Requirement) : Decidable (AreMaps list) := List.decidableBAll _ list

theorem isMap_requirementAt {list : List Requirement} (maps : AreMaps list) (i : Nat) :
    IsMap (requirementAt list i) := by
  rw [requirementAt]
  cases here : list[i]? with
  | none => exact List.nodup_nil
  | some r => exact maps r (List.mem_of_getElem? here)

theorem requirements_ext {list list' : List Requirement} (length : list.length = list'.length)
    (each : ∀ i, requirementAt list i = requirementAt list' i) : list = list' := by
  refine List.ext_getElem length fun i inside inside' => ?_
  simpa [requirementAt, inside, inside'] using each i

theorem length_mergeRequirements (document operation : List Requirement) :
    (mergeRequirements document operation).length = max document.length operation.length := by
  fun_induction mergeRequirements document operation with
  | case1 document => simp
  | case2 operation => simp
  | case3 d document o operation ih =>
    simp only [List.length_cons, ih]
    omega

theorem requirementAt_merged {operation : List Requirement} (maps : AreMaps operation) (document : List Requirement)
    (i : Nat) : requirementAt (mergeRequirements document operation) i =
      mergeRequirement (requirementAt document i) (requirementAt operation i) := by
  fun_induction mergeRequirements document operation generalizing i with
  | case1 document => rfl
  | case2 operation => exact (nil_mergeRequirement (isMap_requirementAt maps i)).symm
  | case3 d document o operation ih =>
    cases i with
    | zero => rfl
    | succ i => exact ih (fun r inside => maps r (List.mem_cons_of_mem o inside)) i

theorem areMaps_merged {document operation : List Requirement} (first : AreMaps document)
    (second : AreMaps operation) : AreMaps (mergeRequirements document operation) := by
  intro r inside
  obtain ⟨i, here⟩ := List.mem_iff_getElem?.mp inside
  have same := requirementAt_merged second document i
  rw [requirementAt, here, Option.getD_some] at same
  rw [same]
  exact isMap_merged (isMap_requirementAt second i) (isMap_requirementAt first i)

/-- The requirements that are read from a value without repeated keys are maps. -/
theorem areMaps_read {v : Value} (distinct : DistinctKeys.Distinct v) {list : List Requirement}
    (read : requirementsShape v = .ok list) : AreMaps list := by
  cases distinct with
  | array each =>
    intro r inside
    obtain ⟨item, among, shaped⟩ := exists_of_forall₂ (Origins.forall₂_of_mapM read) inside
    cases each item among with
    | object keys _ =>
      have same := DistinctKeys.mapM_keys (fun e b made => by
        obtain ⟨_, _, rfl⟩ := ok_of_map made
        rfl) shaped
      rw [IsMap, schemeNames, same]
      exact keys
    | _ => cases shaped
  | _ => cases read

/-- A list of requirements is what becomes of those of a document under those of an operation: at every place the
    names of the document and then the new ones of the operation, and under each name, scope by scope, those of the
    operation and where it has none those of the document. What is behind the end of a list counts as empty. -/
structure Overlaid (document operation merged : List Requirement) : Prop where
  length : merged.length = max document.length operation.length
  names : ∀ i, schemeNames (requirementAt merged i) = schemeNames (requirementAt document i) ++
    (schemeNames (requirementAt operation i)).filter fun name => name ∉ schemeNames (requirementAt document i)
  reach : ∀ i name, (scopesOf (requirementAt merged i) name).length =
    max (scopesOf (requirementAt document i) name).length (scopesOf (requirementAt operation i) name).length
  scopes : ∀ i name (j : Nat), (scopesOf (requirementAt merged i) name)[j]? =
    (scopesOf (requirementAt operation i) name)[j]?.or (scopesOf (requirementAt document i) name)[j]?

theorem overlaid_merged {operation : List Requirement} (maps : AreMaps operation) (document : List Requirement) :
    Overlaid document operation (mergeRequirements document operation) where
  length := length_mergeRequirements document operation
  names i := by rw [requirementAt_merged maps, names_merged (isMap_requirementAt maps i)]
  reach i name := by
    rw [requirementAt_merged maps, scopesOf_merged (isMap_requirementAt maps i), length_mergeScopes]
  scopes i name j := by
    rw [requirementAt_merged maps, scopesOf_merged (isMap_requirementAt maps i), getElem?_mergeScopes]

section Laws

variable {a b c : List Requirement}

theorem nil_mergeRequirements (list : List Requirement) : mergeRequirements [] list = list := by
  cases list <;> rfl

theorem mergeRequirements_nil (list : List Requirement) : mergeRequirements list [] = list := by
  cases list <;> rfl

theorem mergeRequirements_assoc (first : AreMaps a) (second : AreMaps b) (third : AreMaps c) :
    mergeRequirements (mergeRequirements a b) c = mergeRequirements a (mergeRequirements b c) := by
  refine requirements_ext ?_ fun i => ?_
  · simp only [length_mergeRequirements, Nat.max_assoc]
  · rw [requirementAt_merged third, requirementAt_merged second, requirementAt_merged (areMaps_merged second third),
      requirementAt_merged third]
    exact mergeRequirement_assoc (isMap_requirementAt first i) (isMap_requirementAt second i)
      (isMap_requirementAt third i)

theorem mergeRequirements_self (maps : AreMaps a) : mergeRequirements a a = a := by
  refine requirements_ext ?_ fun i => ?_
  · rw [length_mergeRequirements, Nat.max_self]
  · rw [requirementAt_merged maps, mergeRequirement_self (isMap_requirementAt maps i)]

end Laws

/-- Merging the requirements of an operation into those of a document overlays them, and leaves maps. Of three lists it
    does not matter which two are merged first; an empty list changes nothing on either side, and neither does a list
    that is merged into itself or once more. -/
theorem requirements_overlaid {document operation more : List Requirement} (first : AreMaps document)
    (second : AreMaps operation) (third : AreMaps more) :
    Overlaid document operation (mergeRequirements document operation) ∧
      AreMaps (mergeRequirements document operation) ∧
      mergeRequirements (mergeRequirements document operation) more =
        mergeRequirements document (mergeRequirements operation more) ∧
      mergeRequirements [] document = document ∧
      mergeRequirements document [] = document ∧
      mergeRequirements document document = document ∧
      mergeRequirements (mergeRequirements document operation) operation = mergeRequirements document operation := by
  refine ⟨overlaid_merged second document, areMaps_merged first second, mergeRequirements_assoc first second third,
    nil_mergeRequirements document, mergeRequirements_nil document, mergeRequirements_self first, ?_⟩
  rw [mergeRequirements_assoc first second second, mergeRequirements_self second]

/-- Requirements of a document: a login with two scopes. -/
def documentLogin : List Requirement := [[("login", ["read", "write"])]]

/-- Requirements of an operation: the login with one scope and a key besides, and a password at a second place. -/
def operationLogin : List Requirement := [[("login", ["admin"]), ("key", [])], [("password", [])]]

/-- Requirements with a key before the login, which has three scopes. -/
def longerLogin : List Requirement := [[("key", ["all"]), ("login", ["a", "b", "c"])]]

theorem requirements_overlaid_login :
    AreMaps documentLogin ∧ AreMaps operationLogin ∧ AreMaps longerLogin ∧
      mergeRequirements documentLogin operationLogin =
        [[("login", ["admin", "write"]), ("key", [])], [("password", [])]] ∧
      mergeRequirements (mergeRequirements documentLogin operationLogin) longerLogin =
        [[("login", ["a", "b", "c"]), ("key", ["all"])], [("password", [])]] ∧
      Overlaid documentLogin operationLogin (mergeRequirements documentLogin operationLogin) ∧
      AreMaps (mergeRequirements documentLogin operationLogin) ∧
      mergeRequirements (mergeRequirements documentLogin operationLogin) longerLogin =
        mergeRequirements documentLogin (mergeRequirements operationLogin longerLogin) ∧
      mergeRequirements [] documentLogin = documentLogin ∧
      mergeRequirements documentLogin [] = documentLogin ∧
      mergeRequirements documentLogin documentLogin = documentLogin ∧
      mergeRequirements (mergeRequirements documentLogin operationLogin) operationLogin =
        mergeRequirements documentLogin operationLogin := by
  have first : AreMaps documentLogin := by decide
  have second : AreMaps operationLogin := by decide
  have third : AreMaps longerLogin := by decide
  exact ⟨first, second, third, by decide +kernel, by decide +kernel, requirements_overlaid first second third⟩

end ApiBindings.MergedRequirements
