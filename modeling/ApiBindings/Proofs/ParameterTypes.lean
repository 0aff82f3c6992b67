import ApiBindings.Proofs.Origins
import ApiBindings.TypeScript.OfSchema

/-!
# Types of parameters

A parameter object that has no schema is one itself: what it says of its type it says under the keys that a schema
has. It is described from the members that were read off it, and that is the type of the object as it stands, whatever
else the object holds (`parameters_typed`). A parameter that has a schema has the type of the schema.
-/

namespace ApiBindings.ParameterTypes
open ApiBindings.Json ApiBindings.Document ApiBindings.TypeScript ApiBindings.Readings ApiBindings.Origins
open ApiBindings.DerivedKeys (written members entry?_eq)

/-! ## Schemas that do not tell of members -/

/-- A schema that does not tell of the members of objects. -/
def Memberless (schema : Entries) : Prop :=
  schema.find? "properties" = none ∧ schema.find? "additionalProperties" = none

/-- Two schemas hold the same under a key, where null is as good as nothing. -/
def SameUnder (a b : Entries) (key : String) : Prop := notNull (a.find? key) = notNull (b.find? key)

/-- Who takes null for nothing does not miss it. -/
theorem read_notNull {α : Type} {read : Option Value → α} (silent : read (some .null) = read none)
    (value? : Option Value) : read (notNull value?) = read value? := by
  cases value? with
  | none => rfl
  | some v =>
    by_cases null : v = .null
    · subst null
      exact silent.symm
    · rw [notNull, Option.filter_some, if_pos (by simpa using null)]

theorem has_eq_false {schema : Entries} {key : String} (absent : schema.find? key = none) :
    Entries.has schema key = false := by
  rw [Entries.find?, List.lookup_eq_none_iff] at absent
  rw [Entries.has, List.any_eq_false]
  intro e inside same
  exact bne_iff_ne.mp (absent e inside) (beq_iff_eq.mp same).symm

section Same

variable {a b : Entries} {key : String}

theorem SameUnder.read (same : SameUnder a b key) {α : Type} (read : Option Value → α)
    (silent : read (some .null) = read none) : read (a.find? key) = read (b.find? key) := by
  rw [← read_notNull silent, same, read_notNull silent]

theorem SameUnder.text (same : SameUnder a b key) : textOf? a key = textOf? b key :=
  same.read (·.bind Value.text?) rfl

theorem SameUnder.items (same : SameUnder a b key) :
    (a.find? key).bind Value.items? = (b.find? key).bind Value.items? :=
  same.read (·.bind Value.items?) rfl

theorem SameUnder.enumerated (same : SameUnder a b "enum") : enumerated? a = enumerated? b := by
  rw [enumerated?, enumerated?, same.items]

theorem SameUnder.element (same : SameUnder a b key) :
    (a.find? key).elim .unknown describeValue = (b.find? key).elim .unknown describeValue :=
  same.read (·.elim .unknown describeValue) (by simp [describeValue])

end Same

/-- The keys that the type of a schema depends on if it does not tell of members. -/
def typeKeys : List String := ["$ref", "type", "format", "enum", "items"]

/-- The keys that count decide on the type. -/
theorem describe_same {a b : Entries} (bare : Memberless a) (bare' : Memberless b)
    (same : ∀ key ∈ typeKeys, SameUnder a b key) : describe a = describe b := by
  have reading : readingOf a = readingOf b := by
    simp only [readingOf, stringType, (same "$ref" (by decide)).text, (same "enum" (by decide)).enumerated,
      (same "type" (by decide)).text, (same "format" (by decide)).text, has_eq_false bare.1, has_eq_false bare'.1]
  cases way : readingOf b with
  | final d => rw [describe_final (reading.trans way), describe_final way]
  | items => rw [describe_items (reading.trans way), describe_items way, (same "items" (by decide)).element]
  | object =>
    have found : ∀ p properties, a.find? "properties" ≠ some (.object (p :: properties)) := by
      intro p properties
      rw [bare.1]
      nofun
    have found' : ∀ p properties, b.find? "properties" ≠ some (.object (p :: properties)) := by
      intro p properties
      rw [bare'.1]
      nofun
    rw [describe_record (reading.trans way) found, describe_record way found', bare.2, bare'.2]

/-! ## Parameters as schemas -/

/-- A parameter object that gives its type by itself: it has no schema or a null one, refers to nothing, and does not
    tell of the members of objects. -/
structure GivesType (v : Value) : Prop where
  schema : v.get? "schema" = none ∨ v.get? "schema" = some .null
  reference : v.get? "$ref" = none
  properties : v.get? "properties" = none
  additional : v.get? "additionalProperties" = none

/-- The members of a parameter that a schema has as well. -/
def typeMembers (p : Parameter) : List (String × Option Value) :=
  [("type", p.type.map .string), ("format", p.format.map .string), ("enum", p.enum.map .array), ("items", p.items)]

theorem describeParameter_members {p : Parameter} (none : p.schema = none) :
    describeParameter p = describe (written (typeMembers p)) := by
  simp [describeParameter, none, written, typeMembers, entry?_eq]

theorem typeMembers_read {entries : Entries} {p : Parameter} (holds : ParameterRead entries p) {key : String}
    {value? : Option Value} (listed : (key, value?) ∈ typeMembers p) : value? = notNull (entries.find? key) := by
  have inside : (key, value?) ∈ members p := by
    simp only [typeMembers, List.mem_cons, List.not_mem_nil, or_false] at listed
    rcases listed with same | same | same | same <;> simp [same, members]
  refine holds.optional inside ?_
  rintro rfl
  simp [typeMembers] at listed

theorem schema_read {entries : Entries} {p : Parameter} (holds : ParameterRead entries p) :
    p.schema.map .object = notNull (entries.find? "schema") :=
  holds.optional (by simp [members]) (by decide)

theorem schema_given {entries : Entries} {p : Parameter} (holds : ParameterRead entries p) {schema : Entries}
    (given : entries.find? "schema" = some (.object schema)) : p.schema = some schema := by
  have read := schema_read holds
  rw [given] at read
  obtain ⟨_, here, same⟩ := Option.map_eq_some_iff.mp read
  rw [here, Value.object.inj same]

/-- A parameter object without a schema, or with a null one, is read as a parameter without. -/
theorem schema_missing {entries : Entries} {p : Parameter} (holds : ParameterRead entries p)
    (missing : entries.find? "schema" = none ∨ entries.find? "schema" = some .null) : p.schema = none := by
  have read := schema_read holds
  rcases missing with absent | null
  · rw [absent] at read
    exact Option.map_eq_none_iff.mp read
  · rw [null] at read
    exact Option.map_eq_none_iff.mp read

theorem typeMembers_same {entries : Entries} {p : Parameter} (holds : ParameterRead entries p)
    (reference : entries.find? "$ref" = none) : ∀ key ∈ typeKeys, SameUnder (written (typeMembers p)) entries key := by
  intro key counts
  have distinct : ((typeMembers p).map (·.1)).Nodup := by simp [typeMembers]
  have counted : key = "$ref" ∨ key ∈ (typeMembers p).map (·.1) := List.mem_cons.mp counts
  rcases counted with rfl | member
  · rw [SameUnder, find?_written_other (by simp [typeMembers]), reference]
  · obtain ⟨⟨key, value?⟩, listed, rfl⟩ := List.mem_map.mp member
    rw [SameUnder, find?_written distinct listed, typeMembers_read holds listed]
    simp [notNull]

/-- A parameter object that gives its type by itself has that type as a schema, and as the parameter that is read off
    it. Where there is a schema, in an object or in a parameter however it came about, nothing but the schema counts. -/
theorem parameters_typed :
    (∀ v p, Parameter.shape v = .ok p → GivesType v → describeParameter p = describeValue v) ∧
    (∀ v p schema, Parameter.shape v = .ok p → v.get? "schema" = some (.object schema) →
      describeParameter p = describe schema) ∧
    ∀ (p : Parameter) (schema : Entries) (type format : Option String) (enum : Option (List Value))
      (items : Option Value),
      describeParameter { p with schema := some schema, type, format, enum, items } = describe schema := by
  refine ⟨?own, ?schema, ?whatever⟩
  case own =>
    intro v p read gives
    obtain ⟨entries, rfl, holds⟩ := parameter_read read
    rw [describeParameter_members (schema_missing holds gives.schema), describeValue]
    have bare : Memberless (written (typeMembers p)) :=
      ⟨find?_written_other (by simp [typeMembers]), find?_written_other (by simp [typeMembers])⟩
    exact describe_same bare ⟨gives.properties, gives.additional⟩ (typeMembers_same holds gives.reference)
  case schema =>
    intro v p schema read given
    obtain ⟨entries, rfl, holds⟩ := parameter_read read
    rw [describeParameter, schema_given holds given]
  case whatever =>
    intro p schema type format enum items
    rfl

/-- A parameter object with a null format, an empty enumeration, items of its own, and keys that are none of its type. -/
def sortObject : Value :=
  .object [("enum", .array []), ("maximum", .null), ("name", .string "sort"), ("format", .null),
    ("items", .object [("enum", .array [.string "name", .string "age"])]), ("type", .string "array"),
    ("required", .bool true), ("schema", .null)]

theorem describe_sortObject : describeValue sortObject = .array (.atom "\"name\" | \"age\"") := by
  rw [sortObject, describeValue, describe_items rfl]
  show Descriptor.array (describeValue (.object [("enum", .array [.string "name", .string "age"])])) = _
  rw [describeValue, describe_final rfl]
  rfl

/-- A parameter object with a schema and a type of its own beside it. -/
def bodyObject : Value :=
  .object [("name", .string "pet"), ("in", .string "body"), ("type", .string "integer"),
    ("schema", .object [("$ref", .string "#/definitions/Pet")])]

theorem parameters_typed_sort :
    (∃ p, Parameter.shape sortObject = .ok p ∧ GivesType sortObject ∧
      describeParameter p = .array (.atom "\"name\" | \"age\"")) ∧
    ∃ p, Parameter.shape bodyObject = .ok p ∧
      bodyObject.get? "schema" = some (.object [("$ref", .string "#/definitions/Pet")]) ∧
      describeParameter p = .reference "Pet" := by
  have gives : GivesType sortObject := ⟨.inr rfl, rfl, rfl, rfl⟩
  constructor
  · refine ⟨_, rfl, gives, ?_⟩
    rw [parameters_typed.1 sortObject _ rfl gives, describe_sortObject]
  · refine ⟨_, rfl, rfl, ?_⟩
    rw [parameters_typed.2.1 bodyObject _ _ rfl rfl]
    exact describe_final rfl

end ApiBindings.ParameterTypes
