import ApiBindings.TypeScript.Descriptor
import ApiBindings.View.Options

/-!
# Types of schemas and parameters

The type that a schema describes: a reference, the union of its enumerated values, or what its `type`
names, down through items, properties and additional properties.
-/

namespace ApiBindings.TypeScript

open ApiBindings.Json ApiBindings.Document

/-- The last piece of a reference between slashes. -/
def referenceTarget (reference : String) : String :=
  String.ofList (reference.toList.reverse.takeWhile (· ≠ '/')).reverse

/-- An enumerated value as a literal. -/
def literalText : Value → String
  | .string s => "\"" ++ s ++ "\""
  | v => v.compact

/-- The enumerated values of a schema, where there are any. -/
def enumerated? (schema : Entries) : Option (List Value) :=
  match (Entries.find? schema "enum").bind Value.items? with
  | some (v :: rest) => some (v :: rest)
  | _ => none

/-- The text under a key of a schema. -/
def textOf? (schema : Entries) (key : String) : Option String :=
  (Entries.find? schema key).bind Value.text?

/-- The type of a text by its format. -/
def stringType (schema : Entries) : Descriptor :=
  if textOf? schema "format" = some "binary" then .atom "Blob" else .atom "string"

/-- The names that a schema requires. -/
def requiredNames (schema : Entries) : List String :=
  (((Entries.find? schema "required").bind Value.items?).getD []).filterMap Value.text?

/-- How the type of a schema is to be found. -/
inductive Reading where
  | final (type : Descriptor)
  | items
  | object

/-- How the type of a schema is to be found, by its reference, its enumeration and its `type`. -/
def readingOf (schema : Entries) : Reading :=
  match textOf? schema "$ref" with
  | some reference => .final (.reference (referenceTarget reference))
  | none =>
    match enumerated? schema with
    | some values => .final (.atom (" | ".intercalate (values.map literalText)))
    | none =>
      match textOf? schema "type" with
      | some "string" => .final (stringType schema)
      | some "number" => .final (.atom "number")
      | some "integer" => .final (.atom "number")
      | some "boolean" => .final (.atom "boolean")
      | some "file" => .final (.atom "Blob")
      | some "null" => .final (.atom "null")
      | some "array" => .items
      | some "object" => .object
      | _ => if Entries.has schema "properties" then .object else .final .unknown

/-- A value found among entries is smaller than the entries. -/
theorem sizeOf_lt_of_find? {entries : Entries} {key : String} {v : Value}
    (h : Entries.find? entries key = some v) : sizeOf v < sizeOf entries := by
  induction entries with
  | nil => simp [Entries.find?] at h
  | cons e rest ih =>
    obtain ⟨k, w⟩ := e
    simp only [Entries.find?, List.lookup_cons] at h ih
    split at h
    · cases h
      simp only [List.cons.sizeOf_spec, Prod.mk.sizeOf_spec]
      omega
    · have := ih h
      simp only [List.cons.sizeOf_spec]
      omega

mutual

/-- The type that a schema describes. -/
def describe (schema : Entries) : Descriptor :=
  match readingOf schema with
  | .final type => type
  | .items =>
    match _found : Entries.find? schema "items" with
    | some v => .array (describeValue v)
    | none => .array .unknown
  | .object =>
    match _found : Entries.find? schema "properties" with
    | some (.object (p :: ps)) => .fields (describeFields (requiredNames schema) (p :: ps))
    | _ =>
      match _found : Entries.find? schema "additionalProperties" with
      | some (.object values) => .record (describe values)
      | _ => .record .unknown
termination_by (sizeOf schema, 0)
decreasing_by
  all_goals
    have := sizeOf_lt_of_find? _found
    simp_all [Prod.lex_def] <;> omega

/-- The type that a value describes as a schema; only an object does. -/
def describeValue (v : Value) : Descriptor :=
  match v with
  | .object schema => describe schema
  | _ => .unknown
termination_by (sizeOf v, 0)

/-- The fields of properties; a name that is not required is optional. -/
def describeFields (required : List String) (properties : List (String × Value)) :
    List (String × Bool × Descriptor) :=
  match properties with
  | [] => []
  | (name, v) :: rest => (name, !required.contains name, describeValue v) :: describeFields required rest
termination_by (sizeOf properties, 0)

end

theorem describe_final {schema : Entries} {d : Descriptor} (reading : readingOf schema = .final d) :
    describe schema = d := by rw [describe, reading]

theorem describe_items {schema : Entries} (reading : readingOf schema = .items) :
    describe schema = .array ((Entries.find? schema "items").elim .unknown describeValue) := by
  rw [describe, reading]
  dsimp only
  split <;> simp_all

theorem describe_fields {schema properties : Entries} {p : String × Value} (reading : readingOf schema = .object)
    (found : Entries.find? schema "properties" = some (.object (p :: properties))) :
    describe schema = .fields (describeFields (requiredNames schema) (p :: properties)) := by
  rw [describe, reading]
  dsimp only
  split <;> simp_all

theorem describe_record {schema : Entries} (reading : readingOf schema = .object)
    (bare : ∀ p properties, Entries.find? schema "properties" ≠ some (.object (p :: properties))) :
    describe schema = .record ((Entries.find? schema "additionalProperties").elim .unknown describeValue) := by
  rw [describe, reading]
  dsimp only
  split
  next found => exact absurd found (bare _ _)
  next =>
    split
    next found => rw [found, Option.elim_some, describeValue]
    next other =>
      cases found : Entries.find? schema "additionalProperties" with
      | none => rfl
      | some v =>
        cases v with
        | object values => exact absurd found (other values)
        | _ => simp [describeValue]

theorem describeFields_eq (required : List String) (properties : List (String × Value)) :
    describeFields required properties =
      properties.map fun p => (p.1, !required.contains p.1, describeValue p.2) := by
  induction properties with
  | nil => rw [describeFields, List.map_nil]
  | cons p rest ih => rw [describeFields, ih, List.map_cons]

/-- The type of a parameter: that of its schema, else that of its members as a schema. -/
def describeParameter (p : Parameter) : Descriptor :=
  match p.schema with
  | some schema => describe schema
  | none => describe (
      Parameter.entry? "type" .string p.type ++
      Parameter.entry? "format" .string p.format ++
      Parameter.entry? "enum" .array p.enum ++
      Parameter.entry? "items" id p.items)

/-- The converter that attaches the descriptors of types. A type depends on nothing but the part of the document that
has it. -/
def converter : View.Converter := fun shown =>
  match shown.node with
  | .parameter p => (describeParameter p).toJson
  | .schema s => (describe s).toJson

end ApiBindings.TypeScript
