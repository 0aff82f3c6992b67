import ApiBindings.Proofs.Literals
import ApiBindings.Proofs.Parts
import ApiBindings.Proofs.TypeTexts

/-!
# Strings and names in types

What the type of a schema shows of the strings of a document: enumerated strings and names of properties. They stand
in its text in order, as they are (`shown_inOrder`), and so for themselves as far as their characters do
(`readsBack_iff`).
-/

namespace ApiBindings.TypePieces
open ApiBindings.Json ApiBindings.TypeScript ApiBindings.TypeTexts ApiBindings.Literals ApiBindings.Parts
open ApiBindings.TypeScript.Descriptor (arrayText fieldText)

/-! ## Pieces of types -/

/-- What a type shows of the strings of a document: an enumerated string, or the name of a property, with whether the
    property is optional. -/
inductive Piece where
  | literal (s : String)
  | name (name : String) (isOptional : Bool)
  deriving DecidableEq

namespace Piece

/-- A piece as it is written, a name with the mark behind it. -/
def written : Piece → String
  | literal s => literalText (.string s)
  | name n isOptional => fieldText n isOptional ""

/-- A piece is written as what stands for it. -/
def ReadsBack (l : Lexicon) : Piece → Prop
  | literal s => LiteralDenotes '"' (literalText (.string s)).toList (units s.toList)
  | name n _ => l.NameDenotes n.toList (units n.toList)

/-- A piece needs no escapes: every character of a string stands for itself, and a name is an identifier or a number
    that stands for itself. -/
def IsPlain (l : Lexicon) : Piece → Prop
  | literal s => ∀ c ∈ s.toList, StandsBetween '"' c
  | name n _ => l.IsIdentifier n.toList ∨ l.numeral n.toList = some (units n.toList)

/-- A piece does not hold the mark that ends it. -/
def IsClosed : Piece → Prop
  | literal s => '"' ∉ s.toList
  | name n _ => '?' ∉ n.toList ∧ ':' ∉ n.toList

end Piece

theorem literalText_string (s : String) : (literalText (.string s)).toList = '"' :: (s.toList ++ ['"']) := by
  simp [literalText, String.toList_append]

theorem readsBack_iff (l : Lexicon) (p : Piece) : p.ReadsBack l ↔ p.IsPlain l := by
  cases p with
  | literal s =>
    rw [Piece.ReadsBack, literalText_string]
    exact denotes_self '"' s.toList
  | name n isOptional => exact l.names_self n.toList

/-- A piece that is plain is closed: no mark that ends one stands in a name or a number. -/
theorem closed_of_plain {l : Lexicon} {p : Piece} (plain : p.IsPlain l) : p.IsClosed := by
  cases p with
  | literal s => exact fun inside => (plain _ inside).1 rfl
  | name n isOptional =>
    have outside : ∀ c ∈ n.toList, c ≠ '?' ∧ c ≠ ':' := by
      intro c inside
      rcases plain with identifier | value
      · rcases identifier.2 c inside with letter | ⟨beyond, -⟩
        · constructor <;> rintro rfl <;> cases letter
        · constructor <;> rintro rfl <;> exact absurd beyond (by decide)
      · have word := (l.numeral_spelled value).2 c inside
        constructor <;> rintro rfl <;> cases word
    exact ⟨fun inside => (outside _ inside).1 rfl, fun inside => (outside _ inside).2 rfl⟩

/-! ## What a schema shows -/

/-- The text of enumerated values. -/
def valuesText (values : List Value) : String := " | ".intercalate (values.map literalText)

/-- The piece of an enumerated value: a string is one, and any other value has none. -/
def pieceOf : Value → List Piece
  | .string s => [.literal s]
  | _ => []

/-- A schema does not enumerate values, or is a reference, beside which they do not count. -/
def EnumeratesNone (schema : Entries) : Prop := textOf? schema "$ref" = none → enumerated? schema = none

/-- The strings that a schema enumerates, in order, unless it is a reference. -/
def enumeratedPieces (schema : Entries) : List Piece :=
  match textOf? schema "$ref" with
  | some _ => []
  | none => ((enumerated? schema).getD []).flatMap pieceOf

mutual

/-- The pieces of the type of a schema, in order. -/
def shown (schema : Entries) : List Piece :=
  match readingOf schema with
  | .final _ => enumeratedPieces schema
  | .items =>
    match _found : Entries.find? schema "items" with
    | some v => shownValue v
    | none => []
  | .object =>
    match _found : Entries.find? schema "properties" with
    | some (.object (p :: ps)) => shownFields (requiredNames schema) (p :: ps)
    | _ =>
      match _found : Entries.find? schema "additionalProperties" with
      | some v => shownValue v
      | none => []
termination_by (sizeOf schema, 0)
decreasing_by
  all_goals
    have := sizeOf_lt_of_find? _found
    simp_all [Prod.lex_def] <;> omega

/-- The pieces of the type of a value as a schema. -/
def shownValue (v : Value) : List Piece :=
  match v with
  | .object schema => shown schema
  | _ => []
termination_by (sizeOf v, 0)

/-- The pieces of fields: the name of each, and then the pieces of its type. -/
def shownFields (required : List String) (properties : List (String × Value)) : List Piece :=
  match properties with
  | [] => []
  | (name, v) :: rest => .name name (!required.contains name) :: shownValue v ++ shownFields required rest
termination_by (sizeOf properties, 0)

end

/-- The schema under a key of a schema. -/
def schemaAt (schema : Entries) (key : String) : Option Entries := (Entries.find? schema key).bind Value.entries?

/-- The text of a type, if there is a schema. -/
def textAt (schema? : Option Entries) : String := (schema?.elim .unknown describe).text

/-- The pieces of a type, if there is a schema. -/
def shownAt (schema? : Option Entries) : List Piece := schema?.elim [] shown

/-- A field of an object. -/
structure Field where
  name : String
  isOptional : Bool
  schema? : Option Entries

/-- The text of a field. -/
def Field.text (f : Field) : String := fieldText f.name f.isOptional (textAt f.schema?)

/-- The pieces of a field. -/
def Field.pieces (f : Field) : List Piece := .name f.name f.isOptional :: shownAt f.schema?

/-- The fields that a schema names. -/
def fieldsOf (schema : Entries) : List Field :=
  ((schemaAt schema "properties").getD []).map fun p => ⟨p.1, !(requiredNames schema).contains p.1, p.2.entries?⟩

theorem describeValue_text (v : Value) : (describeValue v).text = textAt v.entries? := by
  cases v <;> simp [describeValue, textAt, Value.entries?]

theorem shownValue_eq (v : Value) : shownValue v = shownAt v.entries? := by
  cases v <;> simp [shownValue, shownAt, Value.entries?]

theorem shownFields_eq (required : List String) (properties : List (String × Value)) :
    shownFields required properties =
      (properties.map fun p => (⟨p.1, !required.contains p.1, p.2.entries?⟩ : Field)).flatMap Field.pieces := by
  induction properties with
  | nil => simp [shownFields]
  | cons p rest ih =>
    rw [shownFields, ih, shownValue_eq, List.map_cons, List.flatMap_cons]
    rfl

theorem elim_text (schema : Entries) (key : String) :
    ((Entries.find? schema key).elim .unknown describeValue).text = textAt (schemaAt schema key) := by
  rw [schemaAt]
  cases Entries.find? schema key with
  | none => rfl
  | some v => exact describeValue_text v

/-! ## Types by their reading -/

section Reading

variable {schema : Entries}

theorem shown_final {d : Descriptor} (reading : readingOf schema = .final d) :
    shown schema = enumeratedPieces schema := by
  rw [shown, reading]

/-- The text and the pieces of enumerated values. -/
theorem of_values {values : List Value} (reference : textOf? schema "$ref" = none)
    (enumerated : enumerated? schema = some values) :
    (describe schema).text = valuesText values ∧ shown schema = values.flatMap pieceOf := by
  have reading : readingOf schema = .final (.atom (valuesText values)) := by
    rw [readingOf, reference, enumerated, valuesText]
  constructor
  · rw [describe_final reading, Descriptor.text_atom]
  · rw [shown_final reading, enumeratedPieces, reference, enumerated, Option.getD_some]

theorem enumerates_of_not (given : ¬ EnumeratesNone schema) :
    ∃ values, textOf? schema "$ref" = none ∧ enumerated? schema = some values := by
  obtain ⟨reference, given⟩ := Classical.not_imp.mp given
  obtain ⟨values, enumerated⟩ := Option.ne_none_iff_exists'.mp given
  exact ⟨values, reference, enumerated⟩

/-- Without enumerated values there are no pieces of such. -/
theorem enumeratedPieces_bare (bare : EnumeratesNone schema) : enumeratedPieces schema = [] := by
  rw [enumeratedPieces]
  split
  next => rfl
  next reference => rw [bare reference]; rfl

theorem text_items (reading : readingOf schema = .items) :
    (describe schema).text = arrayText (textAt (schemaAt schema "items")) := by
  rw [describe_items reading, Descriptor.text_array, elim_text]

theorem shown_items (reading : readingOf schema = .items) : shown schema = shownAt (schemaAt schema "items") := by
  rw [shown, reading, schemaAt]
  dsimp only
  split
  next v found => rw [found, shownValue_eq]; rfl
  next missing => rw [missing]; rfl

/-- The text and the pieces of a record. -/
theorem of_record (reading : readingOf schema = .object) (empty : fieldsOf schema = []) :
    (describe schema).text = "Record<string, " ++ textAt (schemaAt schema "additionalProperties") ++ ">" ∧
      shown schema = shownAt (schemaAt schema "additionalProperties") := by
  have bare : ∀ p properties, Entries.find? schema "properties" ≠ some (.object (p :: properties)) := by
    intro p properties found
    simp [fieldsOf, schemaAt, found, Value.entries?] at empty
  constructor
  · rw [describe_record reading bare, Descriptor.text_record, elim_text]
  · rw [shown, reading, schemaAt]
    dsimp only
    split
    next found => exact absurd found (bare _ _)
    next =>
      split
      next v found => rw [found, shownValue_eq]; rfl
      next missing => rw [missing]; rfl

/-- The text and the pieces of an object with fields. -/
theorem of_fields (reading : readingOf schema = .object) (given : fieldsOf schema ≠ []) :
    (describe schema).text = "\x7b " ++ "; ".intercalate ((fieldsOf schema).map Field.text) ++ " \x7d" ∧
      shown schema = (fieldsOf schema).flatMap Field.pieces := by
  obtain ⟨p, properties, found⟩ : ∃ p ps, Entries.find? schema "properties" = some (.object (p :: ps)) := by
    rw [fieldsOf, schemaAt] at given
    match found : Entries.find? schema "properties" with
    | some (.object (p :: ps)) => exact ⟨p, ps, rfl⟩
    | some (.object []) | none => simp [found, Value.entries?] at given
    | some .null | some (.bool _) | some (.int _) | some (.real _) | some (.string _) | some (.array _) =>
      simp [found, Value.entries?] at given
  constructor
  · rw [describe_fields reading found, Descriptor.text_fields, Descriptor.fieldTexts_eq, describeFields_eq]
    simp [fieldsOf, schemaAt, found, Value.entries?, Field.text, Function.comp_def, describeValue_text]
  · rw [shown, reading]
    dsimp only
    split
    next found' =>
      rw [shownFields_eq, fieldsOf, schemaAt, found']
      rfl
    next other => exact absurd found (other _ _)

end Reading

/-! ## Pieces in order -/

theorem inside_smaller {schema s : Entries} (inside : Inside schema s) : sizeOf s < sizeOf schema := by
  cases inside with
  | items found =>
    have := sizeOf_lt_of_find? found
    simp only [Value.object.sizeOf_spec] at this
    omega
  | property found member =>
    have := sizeOf_lt_of_find? found
    have := List.sizeOf_lt_of_mem member
    simp only [Value.object.sizeOf_spec, Prod.mk.sizeOf_spec] at *
    omega
  | values found =>
    have := sizeOf_lt_of_find? found
    simp only [Value.object.sizeOf_spec] at this
    omega

/-- What holds of a schema as soon as it does of those inside of it holds of every schema. -/
theorem schema_induction {P : Entries → Prop} (step : ∀ schema, (∀ s, Inside schema s → P s) → P schema)
    (schema : Entries) : P schema :=
  step schema fun s inside =>
    have := inside_smaller inside
    schema_induction step s
termination_by sizeOf schema

theorem find?_of_schemaAt {schema s : Entries} {key : String} (found : schemaAt schema key = some s) :
    Entries.find? schema key = some (.object s) := by
  obtain ⟨v, found, object⟩ := Option.bind_eq_some_iff.mp found
  cases v <;> cases object
  exact found

theorem inside_field {schema s : Entries} {f : Field} (member : f ∈ fieldsOf schema) (found : f.schema? = some s) :
    Inside schema s := by
  obtain ⟨p, inside, rfl⟩ := List.mem_map.mp member
  obtain ⟨n, v⟩ := p
  cases properties : schemaAt schema "properties" with
  | none => simp [properties] at inside
  | some ps =>
    rw [properties, Option.getD_some] at inside
    cases v <;> cases found
    exact .property (find?_of_schemaAt properties) inside

theorem inOrder_at {schema? : Option Entries}
    (inner : ∀ s, schema? = some s → InOrder ((shown s).map Piece.written) (describe s).text) :
    InOrder ((shownAt schema?).map Piece.written) (textAt schema?) := by
  cases schema? with
  | none => exact .none _
  | some s => exact inner s rfl

theorem inOrder_array {parts : List String} {s : String} (inner : InOrder parts s) : InOrder parts (arrayText s) := by
  rw [arrayText]
  split
  · exact (inner.before "(").behind ")[]"
  · exact inner.behind "[]"

theorem field_text (f : Field) : f.text = fieldText f.name f.isOptional "" ++ textAt f.schema? := by
  simp [Field.text, fieldText]

theorem inOrder_field {f : Field}
    (inner : InOrder ((shownAt f.schema?).map Piece.written) (textAt f.schema?)) :
    InOrder (f.pieces.map Piece.written) f.text := by
  rw [field_text]
  exact (inOrder_self _).append inner

theorem inOrder_values (values : List Value) :
    InOrder ((values.flatMap pieceOf).map Piece.written) (valuesText values) := by
  rw [valuesText, List.map_flatMap, List.flatMap_def]
  refine inOrder_intercalate _ ?_
  rw [List.forall₂_map_left_iff, List.forall₂_map_right_iff, List.forall₂_same]
  intro v _
  cases v with
  | string s => exact inOrder_self _
  | _ => exact .none _

/-- The pieces of a type stand in its text in order. -/
theorem shown_inOrder (schema : Entries) : InOrder ((shown schema).map Piece.written) (describe schema).text := by
  induction schema using schema_induction with
  | step schema ih =>
    cases reading : readingOf schema with
    | final d =>
      by_cases bare : EnumeratesNone schema
      · rw [shown_final reading, enumeratedPieces_bare bare]
        exact .none _
      · obtain ⟨values, reference, enumerated⟩ := enumerates_of_not bare
        obtain ⟨text, pieces⟩ := of_values reference enumerated
        rw [text, pieces]
        exact inOrder_values values
    | items =>
      rw [shown_items reading, text_items reading]
      exact inOrder_array (inOrder_at fun s found => ih s (.items (find?_of_schemaAt found)))
    | object =>
      by_cases empty : fieldsOf schema = []
      · obtain ⟨text, pieces⟩ := of_record reading empty
        rw [text, pieces]
        exact ((inOrder_at fun s found => ih s (.values (find?_of_schemaAt found))).before _).behind _
      · obtain ⟨text, pieces⟩ := of_fields reading empty
        rw [text, pieces, List.map_flatMap, List.flatMap_def]
        refine ((inOrder_intercalate _ ?_).before _).behind _
        rw [List.forall₂_map_left_iff, List.forall₂_map_right_iff, List.forall₂_same]
        exact fun f member => inOrder_field (inOrder_at fun s found => ih s (inside_field member found))

end ApiBindings.TypePieces
