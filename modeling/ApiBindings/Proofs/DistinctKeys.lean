import ApiBindings.Document.Reader
import ApiBindings.Proofs.Places

/-!
# Distinct keys

Texts are read as values in which no object has a key twice, whichever notation they are in. So no document that is
read lists a path twice.
-/

namespace ApiBindings.DistinctKeys
open ApiBindings.Walks
open ApiBindings.Json (Value Entries)

/-! ## Settled entries -/

theorem set_keys (entries : Entries) (key : String) (value : Value) :
    (entries.set key value).map (·.1) =
      if key ∈ entries.map (·.1) then entries.map (·.1) else entries.map (·.1) ++ [key] := by
  induction entries with
  | nil => rfl
  | cons e rest ih =>
    obtain ⟨k, v⟩ := e
    by_cases same : k = key
    · simp [Entries.set, same]
    · have other : ¬ key = k := fun eq => same eq.symm
      rw [Entries.set, if_neg same, List.map_cons, ih]
      by_cases there : key ∈ rest.map (·.1)
      · simp [there]
      · simp [there, other]

theorem set_distinct {entries : Entries} (distinct : (entries.map (·.1)).Nodup) (key : String) (value : Value) :
    ((entries.set key value).map (·.1)).Nodup := by
  rw [set_keys]
  split
  · exact distinct
  · rename_i new
    rw [List.nodup_append]
    refine ⟨distinct, by simp, ?_⟩
    rintro _ there _ last rfl
    exact new (List.mem_singleton.mp last ▸ there)

theorem mem_set {entries : Entries} {key : String} {value : Value} {e : String × Value}
    (member : e ∈ entries.set key value) : e ∈ entries ∨ e = (key, value) := by
  induction entries with
  | nil => exact .inr (List.mem_singleton.mp member)
  | cons first rest ih =>
    obtain ⟨k, v⟩ := first
    rw [Entries.set] at member
    split at member
    · rename_i same
      rcases List.mem_cons.mp member with rfl | later
      · exact .inr (by rw [same])
      · exact .inl (List.mem_cons_of_mem _ later)
    · rcases List.mem_cons.mp member with rfl | later
      · exact .inl List.mem_cons_self
      · exact (ih later).imp (List.mem_cons_of_mem _) id

/-- Settled entries have distinct keys, and no entries but those that they are made from. -/
theorem settled_distinct (entries : Entries) :
    (entries.settled.map (·.1)).Nodup ∧ ∀ e ∈ entries.settled, e ∈ entries := by
  refine foldl_states (P := fun (done state : Entries) => (state.map (·.1)).Nodup ∧ ∀ e ∈ state, e ∈ done)
    ?_ ?_ entries
  · exact ⟨List.nodup_nil, by simp⟩
  · rintro done ⟨key, value⟩ state ⟨distinct, known⟩
    refine ⟨set_distinct distinct key value, ?_⟩
    intro e member
    rcases mem_set member with old | rfl
    · exact List.mem_append_left _ (known e old)
    · simp

/-! ## Values -/

/-- A value in which no object has a key twice. -/
inductive Distinct : Value → Prop
  | null : Distinct .null
  | bool (b : Bool) : Distinct (.bool b)
  | int (n : Int) : Distinct (.int n)
  | real (x : Decimal.Binary64) : Distinct (.real x)
  | string (s : String) : Distinct (.string s)
  | array {items : List Value} (each : ∀ v ∈ items, Distinct v) : Distinct (.array items)
  | object {entries : Entries} (keys : (entries.map (·.1)).Nodup) (each : ∀ e ∈ entries, Distinct e.2) :
    Distinct (.object entries)

theorem distinct_settled {entries : Entries} (each : ∀ e ∈ entries, Distinct e.2) :
    Distinct (.object entries.settled) := by
  obtain ⟨keys, known⟩ := settled_distinct entries
  exact .object keys fun e member => each e (known e member)

/-! ## Steps of reading -/

/-- What a step gives, if it does not fail, has a property. -/
def Gives {σ ε α : Type} (step : StateT σ (Except ε) α) (P : α → Prop) : Prop :=
  ∀ s a s', step s = .ok (a, s') → P a

section Steps
variable {σ ε α β : Type} {P : α → Prop} {Q : β → Prop} {step : StateT σ (Except ε) α}
  {next : α → StateT σ (Except ε) β}

theorem gives_pure {a : α} (holds : P a) : Gives (pure a : StateT σ (Except ε) α) P := by
  intro s b s' run
  cases run
  exact holds

theorem gives_throw (e : ε) : Gives (throw e : StateT σ (Except ε) α) P := by
  intro s a s' run
  cases run

theorem gives_bind (first : Gives step P) (behind : ∀ a, P a → Gives (next a) Q) : Gives (step >>= next) Q := by
  intro s b s' run
  change (step s).bind (fun r => next r.1 r.2) = .ok (b, s') at run
  cases here : step s with
  | error e =>
    rw [here] at run
    cases run
  | ok r =>
    rw [here] at run
    exact behind r.1 (first s r.1 r.2 here) r.2 b s' run

/-- What a step gives does not matter where all that follows has the property. -/
theorem gives_after (behind : ∀ a, Gives (next a) Q) : Gives (step >>= next) Q :=
  gives_bind (P := fun _ => True) (fun _ _ _ _ => trivial) fun a _ => behind a

end Steps

/-! ## Reading JSON -/

section Json
open ApiBindings.Json

theorem failNext_gives {α : Type} {P : α → Prop} (fault : Fault) : Gives (failNext fault : Json.Reading α) P :=
  gives_after fun _ => gives_throw _

theorem failHere_gives {α : Type} {P : α → Prop} (fault : Fault) : Gives (failHere fault : Json.Reading α) P :=
  gives_after fun _ => gives_throw _

theorem failIn_gives {α : Type} {P : α → Prop} (c : Char) (fault : Fault) :
    Gives (failIn c fault : Json.Reading α) P :=
  gives_after fun _ => gives_throw _

theorem word_distinct {value : Value} (distinct : Distinct value) (more : List Char) :
    Gives (word value more) Distinct := by
  induction more with
  | nil => exact gives_pure distinct
  | cons c more ih =>
    refine gives_after fun next => ?_
    cases next with
    | none => exact failHere_gives _
    | some d =>
      dsimp only
      split
      · exact ih
      · exact failIn_gives _ _

theorem scaledNumber_distinct (negative : Bool) (n : Nat) (power : Int) :
    Gives (scaledNumber negative n power) Distinct := by
  unfold scaledNumber
  split
  · exact gives_pure (.real _)
  · exact failHere_gives _

theorem exponent_distinct (negative : Bool) (n : Nat) (power : Int) : Gives (exponent negative n power) Distinct := by
  unfold exponent
  refine gives_after fun below => gives_after fun next => ?_
  cases next with
  | none => exact failHere_gives _
  | some c =>
    dsimp only
    split
    · exact failIn_gives _ _
    · refine gives_after fun cursor => gives_after fun digits => ?_
      split
      · exact scaledNumber_distinct _ _ _
      · split
        · exact gives_throw _
        · exact gives_pure (.real _)

theorem exponentOrEnd_distinct (negative : Bool) (n : Nat) (power : Int) :
    Gives (exponentOrEnd negative n power) Distinct := by
  refine gives_after fun next => ?_
  cases next with
  | none => exact scaledNumber_distinct _ _ _
  | some c =>
    dsimp only
    split
    · exact gives_after fun _ => exponent_distinct _ _ _
    · exact scaledNumber_distinct _ _ _

theorem fraction_distinct (negative : Bool) (n : Nat) (power : Int) : Gives (fraction negative n power) Distinct := by
  refine gives_after fun digits => ?_
  dsimp only
  split
  · refine gives_after fun next => ?_
    cases next with
    | none => exact failNext_gives _
    | some c => exact failNext_gives _
  · exact exponentOrEnd_distinct _ _ _

theorem whole_distinct (negative : Bool) (n power : Nat) : Gives (afterWhole.whole negative n power) Distinct := by
  unfold afterWhole.whole
  split
  · exact scaledNumber_distinct _ _ _
  · split
    · split
      · split
        · exact gives_pure (.real _)
        · exact failHere_gives _
      · exact gives_pure (.int _)
    · exact gives_pure (.int _)

theorem afterWhole_distinct (negative : Bool) (n power : Nat) : Gives (afterWhole negative n power) Distinct := by
  refine gives_after fun next => ?_
  cases next with
  | none => exact whole_distinct _ _ _
  | some c =>
    dsimp only
    split
    · exact gives_after fun _ => fraction_distinct _ _ _
    · split
      · exact gives_after fun _ => exponent_distinct _ _ _
      · exact whole_distinct _ _ _

theorem number_distinct (negative : Bool) : Gives (number negative) Distinct := by
  refine gives_after fun next => ?_
  cases next with
  | none => exact failHere_gives _
  | some c =>
    dsimp only
    split
    · refine gives_after fun next => ?_
      cases next with
      | none => exact afterWhole_distinct _ _ _
      | some d =>
        dsimp only
        split
        · exact failNext_gives _
        · exact afterWhole_distinct _ _ _
    · split
      · exact gives_after fun digits => afterWhole_distinct _ _ _
      · exact failIn_gives _ _

/-- What the four functions that read values give within some steps has distinct keys. -/
structure Within (fuel : Nat) : Prop where
  value : ∀ depth, Gives (valueIn depth fuel) Distinct
  items : ∀ depth done, (∀ v ∈ done, Distinct v) → Gives (itemsIn depth fuel done) fun items => ∀ v ∈ items, Distinct v
  entries : ∀ depth done, (∀ e ∈ done, Distinct e.2) →
    Gives (entriesIn depth fuel done) fun entries => Distinct (.object entries)
  entry : ∀ depth done, (∀ e ∈ done, Distinct e.2) →
    Gives (entryIn depth fuel done) fun entries => Distinct (.object entries)

theorem within_zero : Within 0 where
  value _ := by
    unfold valueIn
    exact failNext_gives _
  items _ _ _ := by
    unfold itemsIn
    exact failNext_gives _
  entries _ _ _ := by
    unfold entriesIn
    exact failNext_gives _
  entry _ _ _ := by
    unfold entryIn
    exact failNext_gives _

theorem value_within {fuel : Nat} (before : Within fuel) (depth : Nat) : Gives (valueIn depth (fuel + 1)) Distinct := by
  unfold valueIn
  refine gives_after fun next => ?_
  cases next with
  | none => exact failNext_gives _
  | some c =>
    dsimp only
    split
    · exact gives_after fun _ => word_distinct .null _
    · split
      · exact gives_after fun _ => word_distinct (.bool _) _
      · split
        · exact gives_after fun _ => word_distinct (.bool _) _
        · split
          · exact gives_after fun _ => number_distinct _
          · split
            · exact number_distinct _
            · split
              · exact gives_after fun _ => gives_after fun _ => gives_pure (.string _)
              · split
                · split
                  · exact failNext_gives _
                  · refine gives_after fun _ => gives_bind (before.items _ _ (by simp)) fun items each => ?_
                    exact gives_pure (.array each)
                · split
                  · split
                    · exact failNext_gives _
                    · refine gives_after fun _ => gives_bind (before.entries _ _ (by simp)) fun entries each => ?_
                      exact gives_pure each
                  · exact failNext_gives _

theorem items_within {fuel : Nat} (before : Within fuel) (depth : Nat) (done : List Value)
    (each : ∀ v ∈ done, Distinct v) :
    Gives (itemsIn depth (fuel + 1) done) fun items => ∀ v ∈ items, Distinct v := by
  unfold itemsIn
  refine gives_after fun next => ?_
  cases next with
  | none => exact failNext_gives _
  | some c =>
    dsimp only
    split
    · refine gives_after fun _ => gives_pure ?_
      simpa using each
    · split
      · refine gives_bind (before.value depth) fun v distinct => before.items depth [v] ?_
        simpa using distinct
      · split
        · refine gives_after fun _ => gives_after fun next => ?_
          cases next with
          | none => exact failNext_gives _
          | some d =>
            dsimp only
            split
            · exact failNext_gives _
            · refine gives_bind (before.value depth) fun v distinct => before.items depth (v :: done) ?_
              exact List.forall_mem_cons.mpr ⟨distinct, each⟩
        · exact failNext_gives _

theorem entries_within {fuel : Nat} (before : Within fuel) (depth : Nat) (done : Entries)
    (each : ∀ e ∈ done, Distinct e.2) :
    Gives (entriesIn depth (fuel + 1) done) fun entries => Distinct (.object entries) := by
  unfold entriesIn
  refine gives_after fun next => ?_
  cases next with
  | none => exact failNext_gives _
  | some c =>
    dsimp only
    split
    · refine gives_after fun _ => gives_pure (distinct_settled ?_)
      intro e member
      exact each e (List.mem_reverse.mp member)
    · split
      · split
        · exact before.entry depth done each
        · exact failNext_gives _
      · split
        · refine gives_after fun _ => gives_after fun next => ?_
          cases next with
          | none => exact failNext_gives _
          | some d =>
            dsimp only
            split
            · exact before.entry depth done each
            · split
              · exact failNext_gives _
              · exact failNext_gives _
        · exact failNext_gives _

theorem entry_within {fuel : Nat} (before : Within fuel) (depth : Nat) (done : Entries)
    (each : ∀ e ∈ done, Distinct e.2) :
    Gives (entryIn depth (fuel + 1) done) fun entries => Distinct (.object entries) := by
  unfold entryIn
  refine gives_after fun _ => gives_after fun key => gives_after fun next => ?_
  cases next with
  | none => exact failNext_gives _
  | some c =>
    dsimp only
    split
    · refine gives_after fun _ => gives_bind (before.value depth) fun v distinct => ?_
      exact before.entries depth ((key, v) :: done) (List.forall_mem_cons.mpr ⟨distinct, each⟩)
    · exact failNext_gives _

theorem within (fuel : Nat) : Within fuel := by
  induction fuel with
  | zero => exact within_zero
  | succ fuel before =>
    exact ⟨value_within before, items_within before, entries_within before, entry_within before⟩

theorem leading_distinct : Gives leading Distinct :=
  gives_after fun _ => (within _).value _

/-- What is made of a text in JSON is made of a value with distinct keys. -/
theorem made_distinct {ε α : Type} {ofFailure : Failure → ε} {make : Value → Except ε α} {text : String} {a : α}
    (given : readWith ofFailure make text = .ok a) : ∃ v, Distinct v ∧ make v = .ok a := by
  obtain ⟨⟨v, rest⟩, first, given⟩ := ok_of_bind given
  obtain ⟨b, made, given⟩ := ok_of_bind given
  obtain ⟨_, _, same⟩ := ok_of_bind given
  cases same
  exact ⟨v, leading_distinct _ _ _ (ok_of_mapError first), made⟩

end Json

/-! ## Reading YAML -/

section Yaml
open ApiBindings.Yaml ApiBindings.Yaml.Reading

/-- What a step gives on the events of any text, if it does not fail, has a property. -/
def GivesOn {α : Type} (step : Yaml.Reading α) (P : α → Prop) : Prop := ∀ events : Events, Gives (step events) P

variable {α β : Type} {P : α → Prop} {Q : β → Prop} {step : Yaml.Reading α} {next : α → Yaml.Reading β}

theorem givesOn_pure {a : α} (holds : P a) : GivesOn (pure a) P := fun _ => gives_pure holds

theorem givesOn_throw (e : Yaml.Failure) : GivesOn (throw e : Yaml.Reading α) P := fun _ => gives_throw e

theorem givesOn_bind (first : GivesOn step P) (behind : ∀ a, P a → GivesOn (next a) Q) : GivesOn (step >>= next) Q :=
  fun events => gives_bind (first events) fun a holds => behind a holds events

theorem givesOn_after (behind : ∀ a, GivesOn (next a) Q) : GivesOn (step >>= next) Q :=
  fun events => gives_after fun a => behind a events

theorem givesOn_thrown (e : Yaml.Failure) : GivesOn (throw e >>= next) Q :=
  givesOn_bind (givesOn_throw (P := fun _ => False) e) fun _ => False.elim

theorem givesOn_tryCatch {handler : Yaml.Failure → Yaml.Reading α} (gives : GivesOn step P)
    (handled : ∀ e, GivesOn (handler e) P) : GivesOn (tryCatch step handler) P := by
  intro events s a s' run
  cases here : step events s with
  | ok r =>
    have same : tryCatch step handler events s = .ok r := by
      show tryCatchThe Yaml.Failure (step events s) (fun e => handler e events s) = .ok r
      rw [here]
      rfl
    rw [same] at run
    cases run
    exact gives events s a s' here
  | error e =>
    have same : tryCatch step handler events s = handler e events s := by
      show tryCatchThe Yaml.Failure (step events s) (fun e => handler e events s) = _
      rw [here]
      rfl
    rw [same] at run
    exact handled e events s a s' run

theorem placed_gives (path : Path) (mark : Mark) (gives : GivesOn step P) : GivesOn (placed path mark step) P := by
  unfold placed
  refine givesOn_tryCatch gives fun e => ?_
  split
  · exact givesOn_throw _
  · exact givesOn_throw _

theorem atAnchor_gives (anchor : Nat) (gives : GivesOn step P) : GivesOn (atAnchor anchor step) P := by
  have follow (target : Nat) (c : Cursor) : GivesOn (do
      set (⟨target, c.aliases + 1⟩ : Cursor)
      let a ← step
      modify fun d => { d with position := c.position }
      return a) P :=
    givesOn_after fun _ => givesOn_bind gives fun a holds => givesOn_after fun _ => givesOn_pure holds
  refine givesOn_after fun events => givesOn_after fun c => ?_
  dsimp only
  split
  · refine givesOn_after fun _ => ?_
    split
    · exact givesOn_throw _
    · exact follow _ c
  · split
    · exact givesOn_throw _
    · exact follow _ c

theorem scalarValue_distinct (text : String) (tag : Option Octets) (isPlain : Bool) :
    GivesOn (scalarValue text tag isPlain) Distinct := by
  unfold scalarValue
  split
  · exact givesOn_throw _
  · split
    · exact givesOn_pure .null
    · exact givesOn_pure (.bool _)
    · exact givesOn_pure (.int _)
    · exact givesOn_throw _
    · exact givesOn_pure (.real _)
    · exact givesOn_pure .null
    · exact givesOn_pure .null
    · exact givesOn_pure (.string _)

/-- What the three functions that read nodes as values give within some steps has distinct keys. -/
structure NodesWithin (fuel : Nat) : Prop where
  value : ∀ path depth, GivesOn (Reading.valueIn fuel path depth) Distinct
  items : ∀ path depth index, GivesOn (Reading.itemsIn fuel path depth index) fun items => ∀ v ∈ items, Distinct v
  entries : ∀ path depth, GivesOn (Reading.entriesIn fuel path depth) fun entries => ∀ e ∈ entries, Distinct e.2

theorem nodesWithin_zero : NodesWithin 0 where
  value _ _ := by
    unfold Reading.valueIn
    exact givesOn_throw _
  items _ _ _ := by
    unfold Reading.itemsIn
    exact givesOn_throw _
  entries _ _ := by
    unfold Reading.entriesIn
    exact givesOn_throw _

theorem value_nodesWithin {fuel : Nat} (before : NodesWithin fuel) (path : Path) (depth : Nat) :
    GivesOn (Reading.valueIn (fuel + 1) path depth) Distinct := by
  unfold Reading.valueIn
  refine givesOn_after fun next => placed_gives _ _ ?_
  split
  · exact atAnchor_gives _ (before.value _ _)
  · split
    · exact givesOn_throw _
    · exact scalarValue_distinct _ _ _
  · dsimp only
    split
    · exact givesOn_thrown _
    · split
      · exact givesOn_thrown _
      · exact givesOn_bind (before.items _ _ _) fun items each => givesOn_pure (.array each)
  · dsimp only
    split
    · exact givesOn_thrown _
    · split
      · exact givesOn_thrown _
      · exact givesOn_bind (before.entries _ _) fun entries each => givesOn_pure (distinct_settled each)
  · exact givesOn_pure .null
  · exact givesOn_throw _

theorem items_nodesWithin {fuel : Nat} (before : NodesWithin fuel) (path : Path) (depth index : Nat) :
    GivesOn (Reading.itemsIn (fuel + 1) path depth index) fun items => ∀ v ∈ items, Distinct v := by
  unfold Reading.itemsIn
  refine givesOn_after fun next => ?_
  split
  · exact givesOn_after fun _ => givesOn_pure (by simp)
  · refine givesOn_bind (before.value _ _) fun v distinct => givesOn_bind (before.items _ _ _) fun items each => ?_
    exact givesOn_pure (List.forall_mem_cons.mpr ⟨distinct, each⟩)

theorem entries_nodesWithin {fuel : Nat} (before : NodesWithin fuel) (path : Path) (depth : Nat) :
    GivesOn (Reading.entriesIn (fuel + 1) path depth) fun entries => ∀ e ∈ entries, Distinct e.2 := by
  unfold Reading.entriesIn
  refine givesOn_after fun next => ?_
  split
  · exact givesOn_after fun _ => givesOn_pure (by simp)
  · refine givesOn_after fun key => givesOn_bind (before.value _ _) fun v distinct => ?_
    refine givesOn_bind (before.entries _ _) fun entries each => ?_
    exact givesOn_pure (List.forall_mem_cons.mpr ⟨distinct, each⟩)

theorem nodesWithin (fuel : Nat) : NodesWithin fuel := by
  induction fuel with
  | zero => exact nodesWithin_zero
  | succ fuel before => exact ⟨value_nodesWithin before, items_nodesWithin before, entries_nodesWithin before⟩

theorem readAs_gives (gives : GivesOn step P) {text : String} {a : α} (given : readAs step text = .ok a) : P a := by
  obtain ⟨⟨b, rest⟩, first, given⟩ := ok_of_bind given
  have holds := gives (eventsOf text) ⟨0, 0⟩ b rest first
  dsimp only at given
  split at given
  · cases given
  · split at given
    · cases given
    · cases given
      exact holds

/-- A value that is read from a text in YAML has distinct keys. -/
theorem readYaml_distinct {text : String} {v : Value} (given : Yaml.read text = .ok v) : Distinct v :=
  readAs_gives (givesOn_after fun _ => (nodesWithin _).value _ _) given

end Yaml

/-! ## Documents -/

section Documents
open ApiBindings.Document ApiBindings.Json

/-- Where the entries of an object are given to a part of a record, what comes out has a property. -/
def Reads {α : Type} (entries : Entries) (part : Members α) (P : α → Prop) : Prop :=
  ∀ a, part.ofEntries entries = .ok a → P a

variable {α β : Type} {P : α → Prop} {Q : β → Prop} {entries : Entries}

theorem reads_pure {a : α} (holds : P a) : Reads entries (pure a) P := by
  rintro _ ⟨⟩
  exact holds

/-- A part whose outcome matters. -/
theorem reads_seq {f : Members (α → β)} {x : Members α} (argument : Reads entries x P)
    (function : Reads entries f fun g => ∀ a, P a → Q (g a)) : Reads entries (f <*> x) Q := by
  intro b made
  change (Members.seq f fun _ => x).ofEntries entries = .ok b at made
  dsimp only [Members.seq] at made
  split at made
  · rename_i g a first second
    cases made
    exact function g first a (argument a second)
  · cases made
  · cases made
  · cases made

/-- A part whose outcome does not matter. -/
theorem reads_skip {f : Members (α → β)} {x : Members α} (function : Reads entries f fun g => ∀ a, Q (g a)) :
    Reads entries (f <*> x) Q :=
  reads_seq (P := fun _ => True) (fun _ _ => trivial) fun g made a _ => function g made a

theorem mem_of_locate {key : String} {i j : Nat} {v : Value} (found : Members.locate key i entries = some (j, v)) :
    (key, v) ∈ entries := by
  induction entries generalizing i with
  | nil => cases found
  | cons e rest ih =>
    obtain ⟨k, u⟩ := e
    rw [Members.locate] at found
    split at found
    · rename_i same
      cases found
      rw [same]
      exact List.mem_cons_self
    · exact List.mem_cons_of_mem _ (ih found)

theorem reads_required {key : String} {shape : Shape α}
    (shaped : ∀ v, (key, v) ∈ entries → ∀ a, shape v = .ok a → P a) : Reads entries (.required key shape) P := by
  intro a made
  dsimp only [Members.required, Members.keyed] at made
  split at made
  · rename_i i v found
    exact shaped v (mem_of_locate found) a (ok_of_mapError made)
  · cases made

theorem mapM_keys {f : String × Value → Except Mismatch (String × α)} (keeps : ∀ e b, f e = .ok b → b.1 = e.1)
    {made : List (String × α)} (run : entries.mapM f = .ok made) : made.map (·.1) = entries.map (·.1) := by
  induction entries generalizing made with
  | nil =>
    cases run
    rfl
  | cons e rest ih =>
    obtain ⟨b, others, first, later, rfl⟩ := ok_of_mapM_cons run
    rw [List.map_cons, List.map_cons, keeps e b first, ih later]

theorem pathsShape_distinct {v : Value} (distinct : Distinct v) {paths : List (String × PathItem)}
    (shaped : pathsShape v = .ok paths) : (paths.map (·.1)).Nodup := by
  cases distinct with
  | object keys each =>
    have same := mapM_keys (fun e b made => by
      obtain ⟨item, _, same⟩ := ok_of_bind made
      cases same
      rfl) shaped
    rw [same]
    exact keys.sublist (List.filter_sublist.map _)
  | _ => cases shaped

theorem specification_distinct {entries : Entries} (distinct : Distinct (.object entries)) {s : Specification}
    (shaped : Specification.shape (.object entries) = .ok s) : (s.paths.map (·.1)).Nodup := by
  cases distinct with
  | object keys each =>
  have made := ok_of_mapError shaped
  refine (?_ : Reads entries _ fun s : Specification => (s.paths.map (·.1)).Nodup) s made
  iterate 5 refine reads_skip ?_
  refine reads_seq (reads_required fun v member paths => pathsShape_distinct (each _ member)) ?_
  iterate 6 refine reads_skip ?_
  refine reads_skip (reads_pure ?_)
  intros
  assumption

/-- A document that is read from a value with distinct keys lists no path twice. -/
theorem shape_distinct {v : Value} (distinct : Distinct v) {document : ApiBindings.Document}
    (shaped : Document.shape v = .ok document) : Places.DistinctPaths document := by
  unfold Document.shape at shaped
  split at shaped
  · rename_i two
    obtain ⟨s, given, rfl⟩ := ok_of_map shaped
    cases v with
    | object entries => exact specification_distinct distinct given
    | _ => cases two
  · obtain ⟨d, _, rfl⟩ := ok_of_map shaped
    trivial

/-- No document that is read from a text lists a path twice. -/
theorem read_distinctPaths {text : String} {document : ApiBindings.Document}
    (given : readJson text = .ok document ∨ readJsonEagerly text = .ok document ∨ readYaml text = .ok document) :
    Places.DistinctPaths document := by
  rcases given with json | eager | yaml
  · obtain ⟨v, read, shaped⟩ := ok_of_bind json
    obtain ⟨v', distinct, same⟩ := made_distinct (ok_of_mapError read)
    cases same
    exact shape_distinct distinct (ok_of_mapError shaped)
  · obtain ⟨v, distinct, shaped⟩ := made_distinct eager
    exact shape_distinct distinct (ok_of_mapError shaped)
  · obtain ⟨v, read, shaped⟩ := ok_of_bind yaml
    exact shape_distinct (readYaml_distinct (ok_of_mapError read)) (ok_of_mapError shaped)

end Documents

end ApiBindings.DistinctKeys
