import ApiBindings.Proofs.TypeTexts
import Mathlib.Data.List.Forall2

/-!
# Coherent types

A descriptor says its type twice: as a text, and by flags with the descriptors of elements and fields. The two agree
in the descriptor of every schema and in all descriptors that stand in it (`types_coherent`). What stands in a
descriptor is the descriptor of a schema again, apart from the name and the mark of a field (`carries_nested`).
-/

namespace ApiBindings.CoherentTypes
open ApiBindings.Json ApiBindings.TypeScript ApiBindings.TypeTexts

/-! ## Descriptors that agree with their text -/

/-- The flags of a descriptor. -/
def flags : List String := ["isRef", "isArray", "isObject", "isAtomic"]

/-- A flag of a descriptor is set. -/
def IsSet (d : Value) (flag : String) : Prop := d.get? flag = some (.bool true)

/-- A descriptor holds a text as its type. -/
def Writes (d : Value) (text : String) : Prop := d.get? "tsType" = some (.string text)

/-- A schema names a property among those that it requires. -/
def Requires (schema : Value) (name : String) : Prop :=
  ∃ names, schema.get? "required" = some (.array names) ∧ .string name ∈ names

/-- A field has the name of a property, and is optional if the schema does not require it. -/
structure StandsFor (schema : Value) (property : String × Value) (field : Value) : Prop where
  name : field.get? "name" = some (.string property.1)
  mark : ∃ isOptional, field.get? "optional" = some (.bool isOptional) ∧
    (isOptional = true ↔ ¬ Requires schema property.1)

/-- A text is made of the name of a field, a question mark if the field is optional, and the text of its type. -/
def IsTextOf (text : String) (field : Value) : Prop :=
  ∃ name isOptional type, field.get? "name" = some (.string name) ∧ field.get? "optional" = some (.bool isOptional) ∧
    Writes field type ∧ text = name ++ (if isOptional then "?" else "") ++ ": " ++ type

/-- The text of an array has the text of an element before brackets, in parentheses if it holds a bar. -/
def AgreesWithElement (d element : Value) : Prop :=
  ∃ text, Writes element text ∧ Writes d (if '|' ∈ text.toList then "(" ++ text ++ ")[]" else text ++ "[]")

/-- The text of an object is made of the texts of its fields, which stand for the properties of a schema in order. -/
def AgreesWithFields (schema d : Value) (fields : List Value) : Prop :=
  fields ≠ [] ∧
  (∃ properties, schema.get? "properties" = some (.object properties) ∧
    List.Forall₂ (StandsFor schema) properties fields) ∧
  ∃ texts, List.Forall₂ IsTextOf texts fields ∧ Writes d ("\x7b " ++ "; ".intercalate texts ++ " \x7d")

/-- The flags, the parts and the text of the descriptor of a schema agree. -/
structure Coherent (schema d : Value) : Prop where
  text : ∃ text, Writes d text
  flag : ∃ kind ∈ flags, ∀ flag ∈ flags, d.get? flag = some (.bool (flag == kind))
  target : (d.get? "target").isSome ↔ IsSet d "isRef"
  targeted : ∀ target, d.get? "target" = some target → d.get? "tsType" = some target
  element : (d.get? "elementType").isSome ↔ IsSet d "isArray"
  bracketed : ∀ element, d.get? "elementType" = some element → AgreesWithElement d element
  fields : (d.get? "properties").isSome ↔
    IsSet d "isObject" ∧ ∃ properties ≠ [], schema.get? "properties" = some (.object properties)
  listed : ∀ v, d.get? "properties" = some v → ∃ fields, v = .array fields ∧ AgreesWithFields schema d fields

/-! ## Descriptors in a descriptor -/

/-- The schema of the items of a schema, null where there is none. -/
def itemsOf (schema : Value) : Value := (schema.get? "items").getD .null

/-- The properties of a schema. -/
def propertiesOf (schema : Value) : Entries := ((schema.get? "properties").bind Value.entries?).getD []

/-- The schema of the property at a place, null where there is none. -/
def propertyAt (schema : Value) (place : Nat) : Value := ((propertiesOf schema)[place]?.map Prod.snd).getD .null

/-- The descriptors that stand in the descriptor `d` of a schema, each with the schema that it is of. -/
inductive Nested (schema d : Value) : Value → Value → Prop
  | self : Nested schema d schema d
  | element {s t e : Value} (outer : Nested schema d s t) (found : t.get? "elementType" = some e) :
      Nested schema d (itemsOf s) e
  | field {s t field : Value} {fields : List Value} {place : Nat} (outer : Nested schema d s t)
      (found : t.get? "properties" = some (.array fields)) (there : fields[place]? = some field) :
      Nested schema d (propertyAt s place) field

/-! ## Kinds of descriptors -/

/-- What the type of a schema can be: what its items and its properties describe where it has such parts. -/
inductive Described (schema : Value) : Descriptor → Prop
  | reference (target : String) : Described schema (.reference target)
  | atom (text : String) : Described schema (.atom text)
  | array : Described schema (.array (describeValue (itemsOf schema)))
  | fields {properties : Entries} {names : List String} (given : properties ≠ [])
      (found : schema.get? "properties" = some (.object properties))
      (required : ∀ name, name ∈ names ↔ Requires schema name) :
      Described schema (.fields (properties.map fun p => (p.1, !names.contains p.1, describeValue p.2)))
  | record (values : Descriptor)
      (bare : ∀ properties ≠ [], schema.get? "properties" ≠ some (.object properties)) :
      Described schema (.record values)

theorem mem_requiredNames {schema : Entries} {name : String} :
    name ∈ requiredNames schema ↔ Requires (.object schema) name := by
  have text (v : Value) : v.text? = some name ↔ v = .string name := by cases v <;> simp [Value.text?]
  rw [requiredNames, Requires]
  show _ ↔ ∃ names, Entries.find? schema "required" = _ ∧ _
  simp only [List.mem_filterMap, text]
  cases Entries.find? schema "required" with
  | none => simp
  | some v => cases v <;> simp [Value.items?]

theorem described_final {schema : Entries} {d : Descriptor} (reading : readingOf schema = .final d) :
    Described (.object schema) d := by
  unfold readingOf at reading
  split at reading
  · cases reading
    exact .reference _
  split at reading
  · cases reading
    exact .atom _
  unfold stringType at reading
  split at reading <;> (try split_ifs at reading) <;> cases reading
  all_goals exact .atom _

/-- The type of a schema is of one of the kinds. -/
theorem described (schema : Value) : Described schema (describeValue schema) := by
  cases schema with
  | object entries =>
    rw [describeValue]
    cases reading : readingOf entries with
    | final d =>
      rw [describe_final reading]
      exact described_final reading
    | items =>
      have element : (Entries.find? entries "items").elim .unknown describeValue =
          describeValue (itemsOf (.object entries)) := by
        show _ = describeValue ((Entries.find? entries "items").getD .null)
        cases Entries.find? entries "items" <;> simp [describeValue]
      rw [describe_items reading, element]
      exact .array
    | object =>
      by_cases listed : ∃ properties ≠ [], Entries.find? entries "properties" = some (.object properties)
      · obtain ⟨properties, given, found⟩ := listed
        obtain ⟨p, rest, rfl⟩ := List.exists_cons_of_ne_nil given
        rw [describe_fields reading found, describeFields_eq]
        exact .fields given found fun name => mem_requiredNames
      · have bare : ∀ properties ≠ [], Entries.find? entries "properties" ≠ some (.object properties) :=
          fun properties given found => listed ⟨properties, given, found⟩
        rw [describe_record reading fun p properties => bare _ (List.cons_ne_nil p properties)]
        exact .record _ bare
  | _ => simpa [describeValue, Descriptor.unknown] using Described.atom "unknown"

/-! ## What is found in a descriptor -/

/-- The flag that is set in a descriptor. -/
def flagOf : Descriptor → String
  | .reference _ => "isRef"
  | .atom _ => "isAtomic"
  | .array _ => "isArray"
  | .fields _ | .record _ => "isObject"

theorem flagOf_mem (d : Descriptor) : flagOf d ∈ flags := by cases d <;> simp [flagOf, flags]

theorem toJson_flag (d : Descriptor) {flag : String} (inside : flag ∈ flags) :
    d.toJson.get? flag = some (.bool (flag == flagOf d)) := by
  simp only [flags, List.mem_cons, List.not_mem_nil, or_false] at inside
  cases d <;> rcases inside with rfl | rfl | rfl | rfl <;> rfl

theorem toJson_target (d : Descriptor) :
    d.toJson.get? "target" = match d with
      | .reference target => some (.string target)
      | _ => none := by cases d <;> rfl

theorem toJson_elementType (d : Descriptor) :
    d.toJson.get? "elementType" = match d with
      | .array element => some element.toJson
      | _ => none := by cases d <;> rfl

/-- The entries of a field. -/
def fieldJson (f : String × Bool × Descriptor) : Value :=
  .object (("name", .string f.1) :: ("optional", .bool f.2.1) :: f.2.2.toEntries)

theorem fieldsJson_eq (list : List (String × Bool × Descriptor)) : Descriptor.fieldsJson list = list.map fieldJson := by
  induction list with
  | nil => rfl
  | cons f rest ih => rw [List.map_cons, ← ih]; rfl

theorem toJson_properties (d : Descriptor) :
    d.toJson.get? "properties" = match d with
      | .fields list => some (.array (list.map fieldJson))
      | _ => none := by
  cases d with
  | fields list => exact congrArg (fun fields => some (Value.array fields)) (fieldsJson_eq list)
  | _ => rfl

/-! ## Nested descriptors carry types -/

/-- A value has the entries of a descriptor, besides the name and the mark of a field. -/
def Carries (t : Value) (d : Descriptor) : Prop :=
  ∀ key, key ≠ "name" → key ≠ "optional" → t.get? key = d.toJson.get? key

theorem carries_toJson (d : Descriptor) : Carries d.toJson d := fun _ _ _ => rfl

theorem carries_fieldJson (f : String × Bool × Descriptor) : Carries (fieldJson f) f.2.2 := by
  intro key notName notMark
  simp [fieldJson, Descriptor.toJson, Value.get?, Value.entries?, Entries.find?, List.lookup_cons,
    beq_false_of_ne notName, beq_false_of_ne notMark]

theorem carries_element {s t e : Value} (carried : Carries t (describeValue s))
    (found : t.get? "elementType" = some e) : Carries e (describeValue (itemsOf s)) := by
  rw [carried "elementType" (by decide) (by decide), toJson_elementType] at found
  have made := described s
  generalize describeValue s = d at made found
  cases made with
  | array =>
    cases found
    exact carries_toJson _
  | _ => cases found

theorem carries_field {s t field : Value} {fields : List Value} {place : Nat} (carried : Carries t (describeValue s))
    (found : t.get? "properties" = some (.array fields)) (there : fields[place]? = some field) :
    Carries field (describeValue (propertyAt s place)) := by
  rw [carried "properties" (by decide) (by decide), toJson_properties] at found
  have made := described s
  generalize describeValue s = d at made found
  cases made with
  | fields _ listed required =>
    cases found
    rw [List.map_map, List.getElem?_map] at there
    obtain ⟨p, here, rfl⟩ := Option.map_eq_some_iff.mp there
    have same : propertyAt s place = p.2 := by
      rw [propertyAt, propertiesOf, listed, Option.bind_some, Value.entries?, Option.getD_some, here]
      rfl
    rw [same]
    exact carries_fieldJson _
  | _ => cases found

/-- What stands in the descriptor of a schema carries the type of a schema. -/
theorem carries_nested {schema s t : Value} (nested : Nested schema (describeValue schema).toJson s t) :
    Carries t (describeValue s) := by
  induction nested with
  | self => exact carries_toJson _
  | element _ found ih => exact carries_element ih found
  | field _ found there ih => exact carries_field ih found there

/-! ## Coherence -/

theorem Carries.writes {t : Value} {d : Descriptor} (carried : Carries t d) : Writes t d.text :=
  (carried "tsType" (by decide) (by decide)).trans (toJson_tsType d)

theorem Carries.flag {t : Value} {d : Descriptor} (carried : Carries t d) {flag : String} (inside : flag ∈ flags) :
    t.get? flag = some (.bool (flag == flagOf d)) := by
  have other : "name" ∉ flags ∧ "optional" ∉ flags := by decide
  have notName : flag ≠ "name" := fun same => other.1 (same ▸ inside)
  have notMark : flag ≠ "optional" := fun same => other.2 (same ▸ inside)
  exact (carried flag notName notMark).trans (toJson_flag d inside)

theorem Carries.isSet {t : Value} {d : Descriptor} (carried : Carries t d) {flag : String} (inside : flag ∈ flags) :
    IsSet t flag ↔ flag = flagOf d := by
  rw [IsSet, carried.flag inside]
  simp

theorem agreesWithElement {t : Value} {element : Descriptor} (written : Writes t (Descriptor.array element).text) :
    AgreesWithElement t element.toJson := by
  refine ⟨element.text, toJson_tsType element, ?_⟩
  simpa [Descriptor.arrayText, Descriptor.hasBar] using written

theorem isTextOf_fieldJson (f : String × Bool × Descriptor) :
    IsTextOf (Descriptor.fieldText f.1 f.2.1 f.2.2.text) (fieldJson f) :=
  ⟨f.1, f.2.1, f.2.2.text, rfl, rfl, (carries_fieldJson f).writes, rfl⟩

theorem agreesWithFields {s t : Value} {properties : Entries} {names : List String} (given : properties ≠ [])
    (found : s.get? "properties" = some (.object properties)) (required : ∀ name, name ∈ names ↔ Requires s name)
    {list : List (String × Bool × Descriptor)}
    (described : list = properties.map fun p => (p.1, !names.contains p.1, describeValue p.2))
    (written : Writes t (Descriptor.fields list).text) : AgreesWithFields s t (list.map fieldJson) := by
  refine ⟨by simpa [described] using given, ⟨properties, found, ?_⟩, ?_⟩
  · rw [described, List.map_map, List.forall₂_map_right_iff, List.forall₂_same]
    exact fun p _ => ⟨rfl, _, rfl, by simp [required]⟩
  · rw [Descriptor.text_fields, Descriptor.fieldTexts_eq] at written
    refine ⟨_, ?_, written⟩
    rw [List.forall₂_map_left_iff, List.forall₂_map_right_iff, List.forall₂_same]
    exact fun f _ => isTextOf_fieldJson f

/-- What carries the type that a schema describes agrees with itself. -/
theorem coherent_described {s t : Value} {d : Descriptor} (made : Described s d) (carried : Carries t d) :
    Coherent s t := by
  have written := carried.writes
  have target := (carried "target" (by decide) (by decide)).trans (toJson_target d)
  have element := (carried "elementType" (by decide) (by decide)).trans (toJson_elementType d)
  have properties := (carried "properties" (by decide) (by decide)).trans (toJson_properties d)
  refine ⟨⟨_, written⟩, ⟨flagOf d, flagOf_mem d, fun _ => carried.flag⟩, ?target, ?targeted, ?element, ?bracketed,
    ?fields, ?listed⟩
  case target =>
    rw [target, carried.isSet (by decide)]
    cases made <;> simp [flagOf]
  case targeted =>
    intro v found
    rw [target] at found
    cases made with
    | reference =>
      cases found
      exact written
    | _ => cases found
  case element =>
    rw [element, carried.isSet (by decide)]
    cases made <;> simp [flagOf]
  case bracketed =>
    intro e found
    rw [element] at found
    cases made with
    | array =>
      cases found
      exact agreesWithElement written
    | _ => cases found
  case fields =>
    rw [properties, carried.isSet (by decide)]
    cases made with
    | fields given found required => simpa [flagOf] using ⟨_, given, found⟩
    | record values bare => simpa [flagOf] using bare
    | _ => simp [flagOf]
  case listed =>
    intro v found
    rw [properties] at found
    cases made with
    | fields given listed required =>
      cases found
      exact ⟨_, rfl, agreesWithFields given listed required rfl written⟩
    | _ => cases found

/-- The descriptor of a schema and all descriptors that stand in it agree with themselves: one flag of each is set, it
    has the parts that the flag tells of and no others, and its text is made of theirs. -/
theorem types_coherent {schema : Entries} {s t : Value}
    (nested : Nested (.object schema) (describe schema).toJson s t) : Coherent s t := by
  rw [← describeValue] at nested
  exact coherent_described (described s) (carries_nested nested)

theorem describe_listSchema : describe listSchema = .array (.fields [("kind", false, .atom "\"a|b\" | -1")]) := by
  simp [describe, describeValue, describeFields, readingOf, listSchema, itemSchema, kindSchema, textOf?, enumerated?,
    requiredNames, literalText, Value.compact, Entries.find?, Entries.has, List.lookup_cons, Value.text?, Value.items?]
  rfl

/-- The field of an object in an array stands two levels deep in the descriptor, where it agrees with itself. -/
theorem types_coherent_field : ∃ field,
    Nested (.object listSchema) (describe listSchema).toJson (.object kindSchema) field ∧
      field.get? "name" = some (.string "kind") ∧ Writes field "\"a|b\" | -1" ∧
      Coherent (.object kindSchema) field := by
  have deep : Nested (.object listSchema) (describe listSchema).toJson (.object kindSchema)
      (fieldJson ("kind", false, .atom "\"a|b\" | -1")) := by
    rw [describe_listSchema]
    exact @Nested.field _ _ _ _ _ _ 0 (.element .self rfl) rfl rfl
  exact ⟨_, deep, rfl, rfl, types_coherent deep⟩

end ApiBindings.CoherentTypes
