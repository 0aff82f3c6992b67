import ApiBindings.Document.Reader
import ApiBindings.Proofs.DerivedKeys

/-!
# What is read off a record

A record is read from the entries of an object or, some of them, from the items of an array. Either way a member is
read from one value, the one under its key or the one at its place, and where there is none it has its default
(`Takes`). A record that keeps the entries it does not know is written with every value it was read from, but for
members that are null (`valuesIn_rewritten`).
-/

namespace ApiBindings.Readings
open ApiBindings.Json ApiBindings.Document ApiBindings.Walks ApiBindings.DerivedKeys

variable {α β : Type} {P : Value → α → Prop} {Q : Value → β → Prop}

/-! ## Members -/

/-- The value of a member: under its key in an object, at its place in an array. -/
def member? (key : String) (place : Nat) : Value → Option Value
  | .object entries => Entries.find? entries key
  | .array items => items[place]?
  | _ => none

/-- What a member is, by the value that it has in a record: read from it, or the default where there is none. -/
def Given (shape : Shape α) (absent : Option α) (value? : Option Value) (a : α) : Prop :=
  match value? with
  | some v => shape v = .ok a
  | none => absent = some a

/-- A member without a default has a value. -/
theorem given_value {shape : Shape α} {value? : Option Value} {a : α} (given : Given shape none value? a) :
    ∃ v, value? = some v ∧ shape v = .ok a := by
  cases value? with
  | none => cases given
  | some v => exact ⟨v, rfl, given⟩

theorem locate_eq (key : String) (i : Nat) (entries : Entries) :
    (Members.locate key i entries).map (·.2) = entries.find? key := by
  induction entries generalizing i with
  | nil => rfl
  | cons e rest ih =>
    obtain ⟨k, v⟩ := e
    rw [Members.locate]
    by_cases here : k = key
    · simp [Entries.find?, here]
    · rw [if_neg here, ih]
      simp [Entries.find?, List.lookup_cons, beq_false_of_ne (Ne.symm here)]

/-- A part of a record takes the entries of an object, or the items of an array from a place on up to another; what
    comes out stands in a relation to the record. -/
structure Takes (start stop : Nat) (part : Members α) (P : Value → α → Prop) : Prop where
  entries : ∀ entries a, part.ofEntries entries = .ok a → P (.object entries) a
  items : ∀ expected i items a j rest, part.ofItems expected i (items.drop start) = .ok (a, j, rest) →
    rest = items.drop stop ∧ P (.array items) a

theorem takes_pure {n : Nat} {a : α} (holds : ∀ v, P v a) : Takes n n (pure a) P where
  entries _ _ made := by
    cases made
    exact holds _
  items _ _ _ _ _ _ made := by
    cases made
    exact ⟨rfl, holds _⟩

/-- The last part of a record comes behind the others. -/
theorem takes_seq {start middle stop : Nat} {f : Members (α → β)} {x : Members α} (argument : Takes middle stop x P)
    (function : Takes start middle f fun v g => ∀ a, P v a → Q v (g a)) : Takes start stop (f <*> x) Q where
  entries entries b made := by
    change (Members.seq f fun _ => x).ofEntries entries = .ok b at made
    dsimp only [Members.seq] at made
    split at made
    · rename_i g a first second
      cases made
      exact function.entries entries g first a (argument.entries entries a second)
    · cases made
    · cases made
    · cases made
  items expected i items b j rest made := by
    obtain ⟨⟨g, i', middle'⟩, first, made⟩ := ok_of_bind made
    obtain ⟨rfl, applies⟩ := function.items expected i items g i' middle' first
    obtain ⟨⟨a, j', rest'⟩, second, made⟩ := ok_of_bind made
    obtain ⟨stops, holds⟩ := argument.items expected i' items a j' rest' second
    cases made
    exact ⟨stops, applies a holds⟩

theorem takes_imp {start stop : Nat} {part : Members α} {P' : Value → α → Prop} (holds : ∀ v a, P v a → P' v a)
    (takes : Takes start stop part P) : Takes start stop part P' where
  entries entries a made := holds _ a (takes.entries entries a made)
  items expected i items a j rest made := by
    obtain ⟨stops, there⟩ := takes.items expected i items a j rest made
    exact ⟨stops, holds _ a there⟩

/-- A member takes the value under its key or at its place. An array that is too short for it is none of an object's
    business, but it may not give a default of its own. -/
theorem takes_keyed {n : Nat} {key : String} {shape : Shape α} {absent short : Option α}
    (default : ∀ a, short = some a → absent = some a) :
    Takes n (n + 1) (.keyed key shape absent short) fun v => Given shape absent (member? key n v) where
  entries entries a made := by
    have found := locate_eq key 0 entries
    dsimp only [Members.keyed] at made
    rw [member?, ← found]
    cases here : Members.locate key 0 entries with
    | some place =>
      rw [here] at made
      exact ok_of_mapError made
    | none =>
      rw [here] at made
      cases absent with
      | some b =>
        cases made
        rfl
      | none => cases made
  items expected i items a j rest made := by
    have there : (items.drop n).head? = items[n]? := List.head?_drop
    have behind : (items.drop n).tail = items.drop (n + 1) := List.tail_drop
    dsimp only [Members.keyed] at made
    rw [member?, ← there, ← behind]
    cases here : items.drop n with
    | cons v more =>
      rw [here] at made
      obtain ⟨b, shaped, same⟩ := ok_of_map made
      cases same
      exact ⟨rfl, shaped⟩
    | nil =>
      rw [here] at made
      cases short with
      | some b =>
        cases made
        exact ⟨rfl, default _ rfl⟩
      | none => cases made

/-- A member that does not matter. -/
theorem takes_skip {start n : Nat} {key : String} {shape : Shape α} {absent short : Option α} {f : Members (α → β)}
    (default : ∀ a, short = some a → absent = some a) (function : Takes start n f fun v g => ∀ a, Q v (g a)) :
    Takes start (n + 1) (f <*> .keyed key shape absent short) Q :=
  takes_seq (takes_keyed default) (takes_imp (fun _ _ holds a _ => holds a) function)

theorem takes_others {n : Nat} (known : List String) :
    Takes n n (.others known) fun v others => ∀ entries, v = .object entries →
      others = entries.filter fun e => !known.contains e.1 where
  entries entries _ made := by
    cases made
    rintro _ ⟨⟩
    rfl
  items _ _ _ _ _ _ made := by
    cases made
    exact ⟨rfl, nofun⟩

theorem fromObject_takes {name : String} {part : Members α} {n : Nat} {R : Entries → α → Prop}
    (takes : Takes 0 n part fun v a => ∀ entries, v = .object entries → R entries a) {v : Value} {a : α}
    (read : Members.fromObject name part v = .ok a) : ∃ entries, v = .object entries ∧ R entries a := by
  cases v with
  | object entries => exact ⟨entries, rfl, takes.entries entries a (ok_of_mapError read) entries rfl⟩
  | _ => cases read

theorem fromObjectOrArray_takes {name : String} {size : Nat} {part : Members α} {n : Nat} (takes : Takes 0 n part P)
    {v : Value} {a : α} (read : Members.fromObjectOrArray name size part v = .ok a) : P v a := by
  cases v with
  | object entries => exact takes.entries entries a (ok_of_mapError read)
  | array items =>
    obtain ⟨⟨b, j, rest⟩, taken, read⟩ := ok_of_bind read
    have holds := (takes.items _ 0 items b j rest taken).2
    dsimp only at read
    split at read
    · cases read
      exact holds
    · cases read
  | _ => cases read

/-! ## Members that are written as they were read -/

/-- What is read in a shape is written as it was read. -/
def Faithful (shape : Shape α) (toJson : α → Value) : Prop := ∀ v a, shape v = .ok a → v = toJson a

theorem text_faithful : Faithful Shape.text .string := by
  rintro (_ | _ | _ | _ | s | _ | _) a ⟨⟩
  rfl

theorem flag_faithful : Faithful Shape.flag .bool := by
  rintro (_ | b | _ | _ | _ | _ | _) a ⟨⟩
  rfl

theorem object_faithful : Faithful Shape.object .object := by
  rintro (_ | _ | _ | _ | _ | _ | entries) a ⟨⟩
  rfl

theorem any_faithful : Faithful Shape.any id := by
  rintro v a ⟨⟩
  rfl

theorem items_faithful : Faithful (.list .any) .array := by
  rintro (_ | _ | _ | _ | _ | items | _) a read <;> try cases read
  have same : ∀ (items made : List Value), items.mapM Shape.any = .ok made → items = made := by
    intro items
    induction items with
    | nil =>
      intro made run
      cases run
      rfl
    | cons v rest ih =>
      intro made run
      obtain ⟨_, others, ⟨⟩, later, rfl⟩ := ok_of_mapM_cons run
      rw [ih others later]
  rw [same items a read]

/-- What is not null. -/
def notNull (value? : Option Value) : Option Value := value?.filter (· ≠ .null)

/-- What is read of an optional member says what its value is. -/
theorem eq_some_iff {toJson : α → Value} (injective : Function.Injective toJson) {a : α} (solid : toJson a ≠ .null)
    {a? : Option α} {value? : Option Value} (read : a?.map toJson = notNull value?) :
    a? = some a ↔ value? = some (toJson a) := by
  have mapped : a? = some a ↔ a?.map toJson = some (toJson a) := by
    rw [← Option.map_some, (Option.map_injective injective).eq_iff]
  rw [mapped, read, notNull, Option.filter_eq_some_iff]
  simp [solid]

theorem nullable_eq {shape : Shape α} {v : Value} (given : v ≠ .null) : shape.nullable v = (shape v).map some := by
  cases v with
  | null => exact absurd rfl given
  | _ => rfl

/-- The value of an optional member is written as it was read, unless it is null. -/
theorem takes_optional {n : Nat} {key : String} {shape : Shape α} {toJson : α → Value}
    (faithful : Faithful shape toJson) :
    Takes n (n + 1) (.optional key shape) fun v a? => a?.map toJson = notNull (member? key n v) := by
  refine takes_imp ?_ (takes_keyed (by simp))
  intro v a? given
  cases here : member? key n v with
  | none =>
    rw [here] at given
    cases given
    rfl
  | some u =>
    rw [here] at given
    by_cases null : u = .null
    · subst null
      cases given
      rfl
    · have shaped : (shape u).map some = .ok a? := by
        rw [← given, Shape.nullable.eq_def]
        cases u <;> first | rfl | exact absurd rfl null
      obtain ⟨a, read, rfl⟩ := ok_of_map shaped
      rw [faithful u a read, notNull, Option.filter_some, if_pos (by simp [← faithful u a read, null])]
      rfl

/-- A member that is written so can be read. -/
theorem given_nullable {shape : Shape α} {toJson : α → Value} (reads : ∀ a, shape (toJson a) = .ok a)
    {value? : Option Value} {a? : Option α} (written : a?.map toJson = notNull value?) :
    Given shape.nullable (some none) value? a? := by
  cases value? with
  | none =>
    rw [Option.map_eq_none_iff.mp written]
    rfl
  | some u =>
    by_cases null : u = .null
    · subst null
      rw [Option.map_eq_none_iff.mp written]
      rfl
    · rw [notNull, Option.filter_some, if_pos (by simp [null])] at written
      obtain ⟨a, rfl, rfl⟩ := Option.map_eq_some_iff.mp written
      show shape.nullable (toJson a) = _
      rw [nullable_eq null, reads]
      rfl

theorem takes_required {n : Nat} {key : String} {shape : Shape α} {toJson : α → Value}
    (faithful : Faithful shape toJson) :
    Takes n (n + 1) (.required key shape) fun v a => member? key n v = some (toJson a) := by
  refine takes_imp ?_ (takes_keyed (by simp))
  intro v a given
  cases here : member? key n v with
  | none =>
    rw [here] at given
    cases given
  | some u =>
    rw [here] at given
    rw [faithful u a given]

theorem takes_defaulted {n : Nat} {key : String} {shape : Shape α} {default : α} {toJson : α → Value}
    (faithful : Faithful shape toJson) :
    Takes n (n + 1) (.defaulted key default shape) fun v a => toJson a = (member? key n v).getD (toJson default) := by
  refine takes_imp ?_ (takes_keyed (by simp))
  intro v a given
  cases here : member? key n v with
  | none =>
    rw [here] at given
    cases given
    rfl
  | some u =>
    rw [here] at given
    rw [faithful u a given]
    rfl

/-! ## Records that are written again -/

theorem find?_eq_head? (entries : Entries) (key : String) : entries.find? key = (valuesIn key entries).head? := by
  induction entries with
  | nil => rfl
  | cons e rest ih =>
    obtain ⟨k, v⟩ := e
    by_cases here : k = key
    · simp [Entries.find?, valuesIn, here]
    · have passed : Entries.find? ((k, v) :: rest) key = Entries.find? rest key := by
        simp [Entries.find?, List.lookup_cons, beq_false_of_ne (Ne.symm here)]
      rw [passed, ih]
      simp [valuesIn, here]

theorem find?_written {table : List (String × Option Value)} (distinct : (table.map (·.1)).Nodup) {key : String}
    {v? : Option Value} (listed : (key, v?) ∈ table) : Entries.find? (written table) key = v? := by
  rw [find?_eq_head?, valuesIn_written distinct listed]
  cases v? <;> rfl

theorem find?_written_other {table : List (String × Option Value)} {key : String} (other : key ∉ table.map (·.1)) :
    Entries.find? (written table) key = none := by
  rw [find?_eq_head?, valuesIn_written_other other]
  rfl

/-- What a table has for a key is found in front of entries that do not have the key. -/
theorem find?_written_append {table : List (String × Option Value)} (distinct : (table.map (·.1)).Nodup)
    {key : String} {v? : Option Value} (listed : (key, v?) ∈ table) {rest : Entries} (apart : key ∉ rest.map (·.1)) :
    Entries.find? (written table ++ rest) key = v? := by
  rw [find?_eq_head?, valuesIn_append, (valuesIn_eq_nil key rest).mpr apart, List.append_nil, ← find?_eq_head?,
    find?_written distinct listed]

theorem valuesIn_unknown (known : List String) (key : String) (entries : Entries) :
    valuesIn key (entries.filter fun e => !known.contains e.1) = if key ∈ known then [] else valuesIn key entries := by
  split
  · rename_i inside
    rw [valuesIn_eq_nil]
    intro there
    obtain ⟨e, member, rfl⟩ := List.mem_map.mp there
    simpa [inside] using (List.mem_filter.mp member).2
  · rename_i outside
    rw [valuesIn, List.filterMap_filter, valuesIn]
    refine List.filterMap_congr fun e _ => ?_
    by_cases here : e.1 = key
    · simp [here, outside]
    · simp [here]

/-- A record that is written member by member, with the entries that it does not know behind, has under the key of a
    member its value, and under any other key what it was read from. -/
theorem valuesIn_rewritten {known : List String} (distinct : known.Nodup) (value : String → Option Value)
    (entries : Entries) (key : String) :
    valuesIn key (written (known.map fun k => (k, value k)) ++ entries.filter fun e => !known.contains e.1) =
      if key ∈ known then (value key).toList else valuesIn key entries := by
  have keys : (known.map fun k => (k, value k)).map (·.1) = known := by
    rw [List.map_map]
    exact List.map_id known
  rw [valuesIn_append, valuesIn_unknown]
  by_cases inside : key ∈ known
  · have listed : (key, value key) ∈ known.map fun k => (k, value k) := List.mem_map_of_mem inside
    rw [valuesIn_written (by rwa [keys]) listed, if_pos inside, if_pos inside, List.append_nil]
  · rw [valuesIn_written_other (by rwa [keys]), if_neg inside, if_neg inside, List.nil_append]

end ApiBindings.Readings
