import ApiBindings.Json.Order
import ApiBindings.Proofs.DerivedKeys

/-!
# The last entry of a key

The entries of a view may have a key twice. Who enters them one after another into a map is left with the value of
the last one; that is what an object holds under a key.
-/

namespace ApiBindings.LastWritten
open ApiBindings.Document ApiBindings.View ApiBindings.Walks ApiBindings.DerivedKeys
open ApiBindings.Locations (locationText)
open ApiBindings.Json (Value Entries)

/-- The value that an object holds under a key when its entries have been entered one after another. -/
def held? (key : String) (object : Value) : Option Value :=
  (object.entries?.map Entries.settled).bind fun entries => entries.find? key

/-- The items of the array that an object holds under a key. -/
def itemsAt (key : String) (object : Value) : List Value := ((held? key object).bind Value.items?).getD []

theorem find?_cons (k other : String) (v : Value) (rest : Entries) :
    Entries.find? ((k, v) :: rest) other = if k = other then some v else rest.find? other := by
  by_cases here : k = other
  · simp [Entries.find?, here]
  · simp [Entries.find?, List.lookup_cons, here, beq_false_of_ne (Ne.symm here)]

theorem find?_replaced (k other : String) (u v : Value) (rest : Entries) :
    Entries.find? ((k, v) :: rest) other = if k = other then some v else Entries.find? ((k, u) :: rest) other := by
  rw [find?_cons, find?_cons]
  split <;> rfl

/-- What is found behind an entry with another key is found behind that entry. -/
theorem find?_behind {k key other : String} (apart : ¬ k = key) {u v : Value} {rest rest' : Entries}
    (found : rest'.find? other = if key = other then some v else rest.find? other) :
    Entries.find? ((k, u) :: rest') other = if key = other then some v else Entries.find? ((k, u) :: rest) other := by
  rw [find?_cons, find?_cons, found]
  by_cases first : k = other
  · have later : ¬ key = other := fun same => apart (first.trans same.symm)
    rw [if_pos first, if_pos first, if_neg later]
  · rw [if_neg first, if_neg first]

theorem find?_set (entries : Entries) (key other : String) (v : Value) :
    (entries.set key v).find? other = if key = other then some v else entries.find? other := by
  induction entries with
  | nil => rw [Entries.set, find?_cons]
  | cons e rest ih =>
    obtain ⟨k, u⟩ := e
    rw [Entries.set]
    split
    · rename_i here
      exact here ▸ find?_replaced k other u v rest
    · rename_i apart
      exact find?_behind apart ih

theorem find?_insert (map : Entries) (key other : String) (v : Value) :
    (map.insert key v).find? other = if key = other then some v else map.find? other := by
  induction map with
  | nil => rw [Entries.insert, find?_cons]
  | cons e rest ih =>
    obtain ⟨k, u⟩ := e
    rw [Entries.insert]
    split
    · exact find?_cons key other v _
    · split
      · rename_i here
        exact here ▸ find?_replaced k other u v rest
      · rename_i apart
        exact find?_behind apart ih

/-- Entries that are entered one after another leave the last of their values under a key. -/
theorem entered_last {enter : Entries → String → Value → Entries}
    (enters : ∀ map key other v, (enter map key v).find? other = if key = other then some v else map.find? other)
    (entries : Entries) (key : String) :
    Entries.find? (entries.foldl (fun map e => enter map e.1 e.2) []) key = (valuesIn key entries).getLast? := by
  refine foldl_states (P := fun (done state : Entries) => state.find? key = (valuesIn key done).getLast?) rfl ?_ entries
  rintro done ⟨k, v⟩ state same
  rw [enters, valuesIn_append, List.getLast?_append, same]
  by_cases here : k = key
  · simp [valuesIn, here]
  · simp [valuesIn, here]

theorem held?_eq (key : String) (object : Value) : held? key object = (valuesUnder key object).getLast? := by
  cases object with
  | object entries => exact entered_last find?_set entries key
  | _ => rfl

/-- What is written at the end of an object is what it holds. -/
theorem held?_last (key : String) (front : Entries) (v : Value) :
    held? key (.object (front ++ [(key, v)])) = some v := by
  have last : (valuesIn key (front ++ [(key, v)])).getLast? = some v := by
    simp [valuesIn]
  exact (held?_eq key _).trans last

theorem held?_object (key : String) (entries : Entries) :
    held? key (.object entries) = (valuesIn key entries).getLast? := held?_eq key _

theorem valuesIn_byKeyEntries (key : String) (entries : Entries) :
    valuesIn key (Json.byKeyEntries entries) = (valuesIn key entries).map Value.byKey := by
  induction entries with
  | nil => rfl
  | cons e rest ih =>
    obtain ⟨k, v⟩ := e
    rw [Json.byKeyEntries, valuesIn, List.filterMap_cons, ← valuesIn, ih, valuesIn, valuesIn, List.filterMap_cons]
    by_cases here : k = key
    · simp [here]
    · simp [here]

/-- A value whose objects are in the order of their keys has in its own place what an object holds. -/
theorem get?_byKey (key : String) (object : Value) : object.byKey.get? key = (held? key object).map Value.byKey := by
  rw [held?_eq]
  cases object with
  | object entries =>
    show Entries.find? (Entries.byKey (Json.byKeyEntries entries)) key = _
    rw [Entries.byKey, entered_last find?_insert, valuesIn_byKeyEntries, List.getLast?_map]
    rfl
  | _ => rfl

/-! ## Values under the keys of a record -/

attribute [simp] valuesIn_append

@[simp] theorem valuesIn_nil (key : String) : valuesIn key [] = [] := rfl

@[simp] theorem valuesIn_cons (key k : String) (v : Value) (rest : Entries) :
    valuesIn key ((k, v) :: rest) = (if k = key then [v] else []) ++ valuesIn key rest := by
  by_cases here : k = key <;> simp [valuesIn, here]

@[simp] theorem valuesIn_entry? {α : Type} (key k : String) (toJson : α → Value) (value : Option α) :
    valuesIn key (Parameter.entry? k toJson value) = if k = key then (value.map toJson).toList else [] := by
  cases value with
  | none => simp [Parameter.entry?]
  | some a => simp [Parameter.entry?]

@[simp] theorem valuesIn_flagEntry (key k : String) (b : Bool) :
    valuesIn key (ParameterView.flagEntry k b) = if k = key ∧ b = true then [.bool true] else [] := by
  cases b with
  | false => simp [ParameterView.flagEntry]
  | true => simp [ParameterView.flagEntry]

@[simp] theorem valuesIn_listEntry (key k : String) (list : List ParameterView) :
    valuesIn key (ByIn.listEntry k list) =
      if k = key ∧ list ≠ [] then [.array (list.map ParameterView.toJson)] else [] := by
  cases list with
  | nil => simp [ByIn.listEntry]
  | cons v rest => simp [ByIn.listEntry]

@[simp] theorem valuesIn_type (key : String) (c : Computed) :
    valuesIn key c.toEntries = if c.key = key then c.type.toList else [] := by
  obtain ⟨k, type⟩ := c
  cases type with
  | none => simp [Computed.toEntries]
  | some t => simp [Computed.toEntries]

/-! ## The records of a view -/

theorem items_of_held {key : String} {object : Value} {items : List Value}
    (held : held? key object = some (.array items)) : itemsAt key object = items := by
  rw [itemsAt, held]
  rfl

theorem methods_toJson (model : Model) : itemsAt "methods" model.toJson = model.methods.map Method.toJson := by
  refine items_of_held ?_
  cases part : model.specification <;>
    simp [Model.toJson, held?_object, securityEntries, SpecificationPart.toEntries, part]

theorem definitions_toJson (model : Model) :
    itemsAt "definitions" model.toJson = model.definitions.map DefinitionView.toJson := by
  refine items_of_held ?_
  cases part : model.specification <;>
    simp [Model.toJson, held?_object, securityEntries, SpecificationPart.toEntries, part]

theorem groups_toJson {model : Model} {part : SpecificationPart} (has : model.specification = some part) :
    itemsAt "byTags" model.toJson = part.byTags.map TagGroup.toJson := by
  refine items_of_held ?_
  simp [Model.toJson, held?_object, securityEntries, SpecificationPart.toEntries, has]

theorem info_toJson {model : Model} {part : SpecificationPart} (has : model.specification = some part) :
    held? "info" model.toJson = some part.info.toJson := by
  simp [Model.toJson, held?_object, securityEntries, SpecificationPart.toEntries, has]

theorem tags_toJson {model : Model} {part : SpecificationPart} (has : model.specification = some part) :
    itemsAt "tags" model.toJson = part.tags.map Tag.toJson := by
  refine items_of_held ?_
  simp [Model.toJson, held?_object, securityEntries, SpecificationPart.toEntries, has]

theorem groupName_toJson (g : TagGroup) : held? "name" g.toJson = some (.string g.name) := by
  simp [TagGroup.toJson, held?_object]

theorem groupMethods_toJson (g : TagGroup) : itemsAt "methods" g.toJson = g.methods.map Method.toJson := by
  refine items_of_held ?_
  simp [TagGroup.toJson, held?_object]

theorem parameters_toJson (m : Method) : itemsAt "parameters" m.toJson = m.parameters.map ParameterView.toJson := by
  refine items_of_held ?_
  cases tags : m.tags <;> cases responses : m.responses <;>
    simp [Method.toJson, held?_object, securityEntries, tags, responses]

theorem index_toJson (m : Method) : held? "byIn" m.toJson = some m.byIn.toJson := by
  cases tags : m.tags <;> cases responses : m.responses <;>
    simp [Method.toJson, held?_object, securityEntries, tags, responses]

theorem return_toJson (m : Method) : held? "return" m.toJson = m.returns.map ReturnView.toJson := by
  cases tags : m.tags <;> cases responses : m.responses <;> cases returns : m.returns <;>
    simp [Method.toJson, held?_object, securityEntries, tags, responses, returns]

theorem responses_toJson (m : Method) : itemsAt "responses" m.toJson = m.responses.map ResponseView.toJson := by
  cases tags : m.tags <;> cases responses : m.responses <;>
    simp [itemsAt, Value.items?, Method.toJson, held?_object, securityEntries, tags, responses]

/-- A location at which there is nothing has no entry, which is as good as an empty list. -/
theorem bucket_toJson (s : Specification) (b : ByIn) (l : Location) :
    itemsAt (locationText (.specification s) l) b.toJson = (b.bucket l).map ParameterView.toJson := by
  have entry (list : List ParameterView) :
      (((if list = [] then [] else [Value.array (list.map ParameterView.toJson)]).getLast?).bind Value.items?).getD [] =
        list.map ParameterView.toJson := by
    cases list <;> rfl
  cases l <;> simp [itemsAt, held?_object, ByIn.toJson, ByIn.bucket, locationText, entry]

end ApiBindings.LastWritten
