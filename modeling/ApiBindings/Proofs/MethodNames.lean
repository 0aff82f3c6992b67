import ApiBindings.Proofs.ClaimedNames
import ApiBindings.Proofs.Walks
import Mathlib.Data.List.Nodup

/-!
# Names of methods

The names of a view's methods are pairwise distinct, and each is the name asked for its operation or that
name with the least free number (`methodNames_given`). The set of taken names grows with the methods of the
walk, so it is enough to know what one claim hands out (`claimName_given`), as long as the numbers do not run out.
-/

namespace ApiBindings.MethodNames
open ApiBindings.Document ApiBindings.View ApiBindings.Walks ApiBindings.ClaimedNames

/-! ## One name -/

/-- The name that is given for one that is asked for when others are given already: the name itself as long
    as it is free, else the one with the least number from one on that is. -/
def GivenAfter (earlier : List String) (asked given : String) : Prop :=
  (asked ∉ earlier ∧ given = asked) ∨
    (asked ∈ earlier ∧ ∃ k, 1 ≤ k ∧ given = numbered asked k ∧ numbered asked k ∉ earlier ∧
      ∀ j, 1 ≤ j → j < k → numbered asked j ∈ earlier)

/-- What is handed out for one name, as long as there are more numbers than names taken. -/
theorem claimName_given {taken : List String} (few : taken.length ≤ lastNumber) (name : String) :
    GivenAfter taken name (claimName taken name) := by
  have left : ¬ RunsOut taken name := by
    intro out
    have many := out.card
    have size := List.toFinset_card_le taken
    have last : lastNumber + 1 = 2 ^ 31 := rfl
    omega
  obtain ⟨given, handed, claimed⟩ := exists_claimed left
  have same : claimName taken name = given := by rw [claimName, claim, handed, Option.getD_some]
  rw [same]
  by_cases met : name ∈ taken
  · obtain ⟨k, _, ends, _, rfl⟩ := claimed.ends met
    exact .inr ⟨met, k, ends.some, rfl, ends.free, ends.passed⟩
  · exact .inl ⟨met, claimed.kept.mpr met⟩

theorem GivenAfter.fresh {earlier : List String} {asked given : String} (after : GivenAfter earlier asked given) :
    given ∉ earlier := by
  rcases after with ⟨free, rfl⟩ | ⟨_, k, _, rfl, free, _⟩
  · exact free
  · exact free

/-! ## Names in turn -/

theorem claimNames_concat (taken names : List String) (name : String) :
    claimNames taken (names ++ [name]) =
      claimNames taken names ++ [claimName (taken ++ claimNames taken names) name] := by
  induction names generalizing taken with
  | nil => simp [claimNames]
  | cons first rest ih => simp [claimNames, ih]

theorem claimNames_nodup {taken names : List String} (distinct : taken.Nodup)
    (few : taken.length + names.length ≤ lastNumber + 1) : (taken ++ claimNames taken names).Nodup := by
  induction names generalizing taken with
  | nil => simpa [claimNames] using distinct
  | cons name rest ih =>
    rw [List.length_cons] at few
    have left : taken.length ≤ lastNumber := by omega
    have given := claimName_given left name
    have longer : (taken ++ [claimName taken name]).Nodup := by
      rw [← List.concat_eq_append]
      exact distinct.concat given.fresh
    simpa [claimNames] using ih longer (by rw [List.length_append, List.length_singleton]; omega)

/-- What is handed out at each place for names asked for in turn. -/
theorem claimNames_given {taken names : List String} {i : Nat} {asked given : String}
    (few : taken.length + names.length ≤ lastNumber + 1) (ask : names[i]? = some asked)
    (give : (claimNames taken names)[i]? = some given) :
    GivenAfter (taken ++ (claimNames taken names).take i) asked given := by
  induction names generalizing taken i with
  | nil => simp at ask
  | cons name rest ih =>
    rw [List.length_cons] at few
    cases i with
    | zero =>
      simp only [claimNames, List.getElem?_cons_zero, Option.some.injEq] at ask give
      subst ask give
      simpa using claimName_given (by omega) name
    | succ i =>
      simp only [claimNames, List.getElem?_cons_succ] at ask give
      simpa [claimNames] using ih (by rw [claim_snd, List.length_append, List.length_singleton]; omega) ask give

/-! ## Names of a view -/

/-- What the name of a method is made of: its path, its verb and the explicit identifier, if there is one. -/
structure Request where
  path : String
  verb : String
  id : Option String

/-- The name that is asked for. -/
def Request.name (r : Request) : String :=
  match r.id with
  | some id => normalizedName id
  | none => pathName r.verb r.path

/-- What the operations of a document that become methods ask for, in document order. -/
def requests : Document → List Request
  | .declaration d => d.apis.flatMap fun api =>
      (api.operations.filter fun op => !isPassedOver op).map fun op => ⟨api.path, op.method, op.nickname⟩
  | .specification s => s.paths.flatMap fun (path, item) =>
      item.operations.map fun (verb, op) => ⟨path, verb.name, op.operationId⟩

/-- What an endpoint asks for. -/
def requestOf (e : Endpoint) : Request := ⟨e.path, e.verb.name, e.operation.operationId⟩

/-- What an endpoint of a 1.x document asks for. -/
def apiRequestOf (e : ApiEndpoint) : Request := ⟨e.api.path, e.operation.method, e.operation.nickname⟩

theorem requests_specification (s : Specification) :
    requests (.specification s) = (endpoints s).map requestOf := (map_endpoints s requestOf).symm

theorem requests_declaration (d : Declaration) :
    requests (.declaration d) = (apiEndpoints d).map apiRequestOf :=
  (map_apiEndpoints d fun api op => (⟨api.path, op.method, op.nickname⟩ : Request)).symm

/-- What has been handed out: the names that were asked for have been claimed in turn, and the methods have
    them. -/
structure Handed (asked names : List String) (methods : List Method) : Prop where
  claimed : names = claimNames [] asked
  shown : methods.map (·.methodName) = names

theorem handed_concat {asked names : List String} {methods : List Method} (old : Handed asked names methods)
    {name : String} {m : Method} (given : m.methodName = claimName names name) :
    Handed (asked ++ [name]) (names ++ [claimName names name]) (methods ++ [m]) where
  claimed := by rw [claimNames_concat, List.nil_append, ← old.claimed]
  shown := by rw [List.map_append, old.shown, List.map_cons, given, List.map_nil]

theorem walk_handed {s : Specification} {o : Options} {w : Walk} (run : walk s o = .ok w) :
    Handed ((requests (.specification s)).map Request.name) w.names w.methods := by
  rw [requests_specification]
  refine walk_states (P := fun done w => Handed ((done.map requestOf).map Request.name) w.names w.methods)
    ⟨rfl, rfl⟩ ?_ run
  intro done e w m handed built
  have given : m.methodName = nextName w e := methodOf_name built
  rw [push_methods, push_names, List.map_append, List.map_append]
  exact handed_concat handed given

theorem walkDeclaration_handed (d : Declaration) (o : Options) :
    Handed ((requests (.declaration d)).map Request.name) (walkDeclaration d o).names
      (walkDeclaration d o).methods := by
  rw [requests_declaration]
  refine walkDeclaration_states
    (P := fun done w => Handed ((done.map apiRequestOf).map Request.name) w.names w.methods) ⟨rfl, rfl⟩ ?_
  intro done e w handed
  rw [List.map_append, List.map_append, stepTo_names]
  exact handed_concat handed rfl

/-- The names of the methods of a view are the names handed out in turn for what the operations ask for. -/
theorem methodNames_claimed {document : Document} {o : Options} {model : Model}
    (built : ofDocument document o = .ok model) :
    model.methods.map (·.methodName) = claimNames [] ((requests document).map Request.name) := by
  cases document with
  | declaration d =>
    cases built
    have handed := walkDeclaration_handed d o
    exact handed.shown.trans handed.claimed
  | specification s =>
    obtain ⟨w, run, rfl⟩ := ok_of_map built
    have handed := walk_handed run
    exact handed.shown.trans handed.claimed

theorem verb_upper (v : Verb) : String.ofList (Text.toUpper v.name.toList) = v.name := by
  cases v <;> decide +kernel

/-- A method is that of what was asked for: it has its path, and its verb in capitals. -/
def Answers (r : Request) (m : Method) : Prop :=
  m.path = r.path ∧ m.verb = String.ofList (Text.toUpper r.verb.toList)

theorem shows_answers {s : Specification} {o : Options} {e : Endpoint} {m : Method} (shown : Shows s o e m) :
    Answers (requestOf e) m := by
  obtain ⟨bound, _, same⟩ := shown.method
  rw [same]
  exact ⟨rfl, (verb_upper e.verb).symm⟩

theorem showsApi_answers {d : Declaration} {o : Options} {e : ApiEndpoint} {m : Method} (shown : ShowsApi d o e m) :
    Answers (apiRequestOf e) m := by
  rw [shown]
  exact ⟨rfl, rfl⟩

/-- The methods of a view answer what the operations ask for, one by one and in order. -/
theorem methods_answer {document : Document} {o : Options} {model : Model}
    (built : ofDocument document o = .ok model) : List.Forall₂ Answers (requests document) model.methods := by
  cases document with
  | declaration d =>
    cases built
    rw [requests_declaration, List.forall₂_map_left_iff]
    exact (walkDeclaration_shows d o).imp fun _ _ => showsApi_answers
  | specification s =>
    obtain ⟨w, run, rfl⟩ := ok_of_map built
    rw [requests_specification, List.forall₂_map_left_iff]
    exact (walk_shows run).imp fun _ _ => shows_answers

/-- The names of the methods of a view are pairwise distinct, as long as there are not more operations than numbers.
    At every place stands the method of the operation at that place, and its name is the one asked for if no method
    before it has that name, else that one with the least number from one on that no method before it was given. -/
theorem methodNames_given {document : Document} {o : Options} {model : Model}
    (built : ofDocument document o = .ok model) (few : (requests document).length ≤ 2 ^ 31) :
    (model.methods.map (·.methodName)).Nodup ∧
      List.Forall₂ Answers (requests document) model.methods ∧
      ∀ i r m, (requests document)[i]? = some r → model.methods[i]? = some m →
        GivenAfter ((model.methods.take i).map (·.methodName)) r.name m.methodName := by
  have names := methodNames_claimed built
  have room : ([] : List String).length + ((requests document).map Request.name).length ≤ lastNumber + 1 := by
    rwa [List.length_nil, Nat.zero_add, List.length_map]
  refine ⟨?_, methods_answer built, ?_⟩
  · rw [names]
    exact claimNames_nodup List.nodup_nil room
  · intro i r m asked shown
    have ask : ((requests document).map Request.name)[i]? = some r.name := by simp [asked]
    have give : (claimNames [] ((requests document).map Request.name))[i]? = some m.methodName := by
      rw [← names]
      simp [shown]
    have given := claimNames_given room ask give
    rwa [List.nil_append, ← names, ← List.map_take] at given

/-- A document whose names meet: a name that is derived from a path, the same as an explicit one, that one with
    a number as an explicit one, and the first again. -/
def meetingNames : Specification :=
  pathsOnly [
    ("/items", ⟨[], [(.get, blankOperation), (.post, { blankOperation with operationId := some "getItems" })]⟩),
    ("/more", ⟨[], [(.get, { blankOperation with operationId := some "getItems_1" }),
      (.put, { blankOperation with operationId := some "getItems" })]⟩)]

theorem methodNames_given_meeting :
    ∃ model, ofDocument (.specification meetingNames) .default = .ok model ∧
      (requests (.specification meetingNames)).length ≤ 2 ^ 31 ∧
      model.methods.map (·.methodName) = ["getItems", "getItems_1", "getItems_1_1", "getItems_2"] ∧
      (model.methods.map (·.methodName)).Nodup ∧
        List.Forall₂ Answers (requests (.specification meetingNames)) model.methods ∧
        ∀ i r m, (requests (.specification meetingNames))[i]? = some r → model.methods[i]? = some m →
          GivenAfter ((model.methods.take i).map (·.methodName)) r.name m.methodName := by
  have built : ofDocument (.specification meetingNames) .default = .ok (modelOf meetingNames .default _) := rfl
  have few : (requests (.specification meetingNames)).length ≤ 2 ^ 31 := by decide
  exact ⟨_, built, few, by decide +kernel, methodNames_given built few⟩

end ApiBindings.MethodNames
