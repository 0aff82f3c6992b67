import ApiBindings.Proofs.AttachedTypes

/-!
# What operations return

Every response of an operation is listed under the key that it is declared with. What the operation returns is decided
by the first of them that is one of success and has a schema; where there is none, by the default type of the caller
(`returns_decided`). All other responses have no say: with any of them taken out the operation returns the same.
-/

namespace ApiBindings.Returns
open ApiBindings.Document ApiBindings.View ApiBindings.Walks ApiBindings.LastWritten
open ApiBindings.AttachedTypes (document_shown)
open ApiBindings.DerivedKeys (shows_responses)
open ApiBindings.Json (Value Entries)

/-! ## Responses that decide -/

/-- A response offers a schema to return: it is one of success, and the schema is its own. -/
def Offers (r : String × Response) (schema : Entries) : Prop := isSuccess r.1 = true ∧ r.2.schema = some schema

def Idle (r : String × Response) : Prop := ∀ schema, ¬ Offers r schema

/-- Responses settle on the schema that the first of them offers which is not idle. -/
def SettleOn (responses : List (String × Response)) (schema : Entries) : Prop :=
  ∃ before r after, responses = before ++ r :: after ∧ Offers r schema ∧ ∀ earlier ∈ before, Idle earlier

theorem offered_eq_some {r : String × Response} {schema : Entries} :
    (if isSuccess r.1 then r.2.schema else none) = some schema ↔ Offers r schema := by
  by_cases success : isSuccess r.1 = true
  · simp [Offers, success]
  · simp [Offers, success]

theorem offered_eq_none {r : String × Response} : (if isSuccess r.1 then r.2.schema else none) = none ↔ Idle r := by
  rw [Option.eq_none_iff_forall_ne_some]
  exact forall_congr' fun schema => not_congr offered_eq_some

theorem returned?_eq_some {responses : List (String × Response)} {schema : Entries} :
    returned? responses = some schema ↔ SettleOn responses schema := by
  rw [returned?, List.findSome?_eq_some_iff]
  refine exists_congr fun before => exists_congr fun r => exists_congr fun after => and_congr_right fun _ => ?_
  exact and_congr offered_eq_some (forall₂_congr fun earlier _ => offered_eq_none)

theorem returned?_eq_none {responses : List (String × Response)} :
    returned? responses = none ↔ ∀ r ∈ responses, Idle r := by
  rw [returned?, List.findSome?_eq_none_iff]
  exact forall₂_congr fun r _ => offered_eq_none

/-- A response that offers nothing, or stands behind one that does, can be taken out. -/
theorem returned?_without {before after : List (String × Response)} {r : String × Response}
    (silent : Idle r ∨ ∃ earlier ∈ before, ¬ Idle earlier) :
    returned? (before ++ r :: after) = returned? (before ++ after) := by
  have parted (front back : List (String × Response)) :
      returned? (front ++ back) = (returned? front).or (returned? back) := List.findSome?_append
  rw [parted before, parted before, ← List.singleton_append, parted [r]]
  rcases silent with idle | ⟨earlier, inside, active⟩
  · have alone : returned? [r] = none := by
      rw [returned?_eq_none]
      intro only inside
      rwa [List.mem_singleton.mp inside]
    rw [alone, Option.none_or]
  · cases first : returned? before with
    | some schema => rfl
    | none => exact absurd (returned?_eq_none.mp first earlier inside) active

/-! ## Methods -/

/-- A method answers as the responses of its operation say. Null is a default type like any other. -/
structure Answers (s : Specification) (o : Options) (op : Operation) (m : Method) : Prop where
  listed : m.responses.map (fun v => (v.code, v.response)) = op.responses
  settled : ∀ schema, SettleOn op.responses schema →
    m.returns = some (.schema schema (o.computed s (.schema schema))) ∧
      held? "return" m.toJson = some (.object (schema ++ (o.computed s (.schema schema)).toEntries))
  unsettled : (∀ r ∈ op.responses, Idle r) →
    m.returns = o.defaultType.map .default ∧ held? "return" m.toJson = o.defaultType
  unmoved : ∀ before r after, op.responses = before ++ r :: after → (Idle r ∨ ∃ earlier ∈ before, ¬ Idle earlier) →
    m.returns = (responsesOf s o { op with responses := before ++ after }).2

theorem shows_answers {s : Specification} {o : Options} {e : Endpoint} {m : Method} (shown : Shows s o e m) :
    Answers s o e.operation m := by
  have returns := shows_returns shown
  rw [responsesOf_eq] at returns
  refine ⟨?listed, ?settled, ?unsettled, ?unmoved⟩
  case listed =>
    rw [shows_responses shown, List.map_map]
    exact List.map_id _
  case settled =>
    intro schema settles
    rw [returned?_eq_some.mpr settles] at returns
    constructor
    · exact returns
    · rw [return_toJson, returns]
      rfl
  case unsettled =>
    intro idle
    rw [returned?_eq_none.mpr idle] at returns
    constructor
    · exact returns
    · rw [return_toJson, returns]
      cases o.defaultType <;> rfl
  case unmoved =>
    intro before r after split silent
    rw [returns, responsesOf_eq, split, returned?_without silent]

/-- The operations of a document answer as their responses say, one by one in document order. -/
theorem returns_decided {s : Specification} {o : Options} {model : Model}
    (built : ofDocument (.specification s) o = .ok model) :
    List.Forall₂ (fun e m => Answers s o e.operation m) (endpoints s) model.methods := by
  obtain ⟨part, shown⟩ := document_shown built
  exact shown.methods.imp fun e m => shows_answers

/-- An operation whose third response decides, and one with no response of success. -/
def petResponses : Specification :=
  pathsOnly [("/pets", ⟨[], [
    (.get, { blankOperation with responses := [
      ("404", ⟨none, some [("type", .string "string")], []⟩), ("204", ⟨none, none, []⟩),
      ("200", ⟨none, some [("type", .string "array")], []⟩),
      ("201", ⟨none, some [("type", .string "object")], []⟩)] }),
    (.delete, { blankOperation with responses := [("default", ⟨none, some [], []⟩)] })]⟩)]

theorem returns_decided_pets :
    ∃ model, ofDocument (.specification petResponses) { Options.default with defaultType := some .null } = .ok model ∧
      model.methods.map (·.returns) =
        [some (.schema [("type", .string "array")] ⟨"__type", none⟩), some (.default .null)] ∧
      List.Forall₂ (fun e m => Answers petResponses { Options.default with defaultType := some .null } e.operation m)
        (endpoints petResponses) model.methods := by
  have built : ofDocument (.specification petResponses) { Options.default with defaultType := some .null } =
      .ok (modelOf petResponses { Options.default with defaultType := some .null } _) := rfl
  exact ⟨_, built, by decide +kernel, returns_decided built⟩

end ApiBindings.Returns
