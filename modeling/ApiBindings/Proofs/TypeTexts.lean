import ApiBindings.Proofs.TypeTokens
import ApiBindings.TypeScript.OfSchema
import Mathlib.Data.List.TakeWhile
import Mathlib.Tactic.Choose

/-!
# Texts of types

The text of the type of a schema is read back as the type that the schema describes, and as no other
(`describe_readsAs`), if its references and the names of its properties can stand as they are; a word may be no name, or
the name of another type (`words_misread`). Brackets behind the text of an element hold the whole of it: the element
stands in parentheses as soon as its text holds a bar, though the bar may be one inside of an object or of a string.
-/

namespace ApiBindings.TypeTexts
open ApiBindings.Json ApiBindings.TypeScript ApiBindings.TypeGrammar
open ApiBindings.TypeScript.Descriptor (arrayText hasBar fieldText fieldTexts)

/-! ## The type that a schema describes -/

/-- The type of what nothing is known about. -/
def unknownType : TypeExpr := .keyword .unknown

/-- The type of an enumerated value alone. -/
def literalType : Value → TypeExpr
  | .null => .keyword .null
  | .bool b => .keyword (if b then .true else .false)
  | .int n => .number (toString n)
  | .real x => .number (realText x)
  | .string s => .text s
  | .array _ | .object _ => unknownType

/-- The name that a reference ends with, behind its slashes. -/
def nameIn (reference : String) : String := String.ofList ((reference.toList.splitOn '/').getLast?.getD [])

/-- The type of files and of binary texts. -/
def blobType : TypeExpr := .reference "Blob"

/-- The union of types; one type is its own union. -/
def unionOf : List TypeExpr → TypeExpr
  | [t] => t
  | members => .union members

mutual

/-- The type that a schema describes: a reference before anything else, then the enumerated values, then what its
    `type` names. -/
def typeOf (schema : Entries) : TypeExpr :=
  match textOf? schema "$ref", enumerated? schema, textOf? schema "type" with
  | some reference, _, _ => .reference (nameIn reference)
  | none, some values, _ => unionOf (values.map literalType)
  | none, none, some "string" => if textOf? schema "format" = some "binary" then blobType else .keyword .string
  | none, none, some "number" => .keyword .number
  | none, none, some "integer" => .keyword .number
  | none, none, some "boolean" => .keyword .boolean
  | none, none, some "file" => blobType
  | none, none, some "null" => .keyword .null
  | none, none, some "array" => typeOfArray schema
  | none, none, some "object" => typeOfObject schema
  | none, none, _ => if Entries.has schema "properties" then typeOfObject schema else unknownType
termination_by (sizeOf schema, 1)

/-- The type that a schema of an array describes. -/
def typeOfArray (schema : Entries) : TypeExpr :=
  match _found : Entries.find? schema "items" with
  | some v => .array (typeOfValue v)
  | none => .array unknownType
termination_by (sizeOf schema, 0)
decreasing_by
  have := sizeOf_lt_of_find? _found
  simp_all [Prod.lex_def]

/-- The type that a schema of an object describes: its fields, or a record where it names none. -/
def typeOfObject (schema : Entries) : TypeExpr :=
  match _found : Entries.find? schema "properties" with
  | some (.object (p :: properties)) => .object (typeOfFields (requiredNames schema) (p :: properties))
  | _ =>
    match _found : Entries.find? schema "additionalProperties" with
    | some v => .record (typeOfValue v)
    | none => .record unknownType
termination_by (sizeOf schema, 0)
decreasing_by
  all_goals
    have := sizeOf_lt_of_find? _found
    simp_all [Prod.lex_def]
  omega

/-- The type that a value describes as a schema; only an object does. -/
def typeOfValue (v : Value) : TypeExpr :=
  match v with
  | .object schema => typeOf schema
  | _ => unknownType
termination_by (sizeOf v, 0)

/-- The fields that properties describe. What is not required is optional. -/
def typeOfFields (required : List String) (properties : List (String × Value)) : List (String × Bool × TypeExpr) :=
  match properties with
  | [] => []
  | (name, v) :: rest => (name, !required.contains name, typeOfValue v) :: typeOfFields required rest
termination_by (sizeOf properties, 0)

end

theorem nameIn_eq (reference : String) : nameIn reference = referenceTarget reference := by
  rw [nameIn, referenceTarget]
  congr 1
  by_cases slash : '/' ∈ reference.toList.reverse
  · obtain ⟨back, front, parts, none⟩ := List.eq_append_cons_of_mem slash
    have text : reference.toList = front.reverse ++ '/' :: back.reverse := by
      simpa using congrArg List.reverse parts
    have last : back.reverse.splitOn '/' = [back.reverse] := List.splitOn_eq_singleton (by simpa using none)
    have other : ∀ c ∈ back, c ≠ '/' := fun c inside same => none (same ▸ inside)
    have taken : (back ++ '/' :: front).takeWhile (· ≠ '/') = back := by
      rw [List.takeWhile_append_of_pos (by simpa using other)]
      simp
    rw [parts, text, List.splitOn_append_cons_self, last, taken]
    simp
  · have alone : reference.toList.splitOn '/' = [reference.toList] :=
      List.splitOn_eq_singleton (by simpa using slash)
    have other : ∀ c ∈ reference.toList.reverse, c ≠ '/' := fun c inside same => slash (same ▸ inside)
    rw [alone, List.takeWhile_eq_self_iff.mpr (by simpa using other)]
    simp

theorem typeOfArray_eq (schema : Entries) :
    typeOfArray schema = .array ((Entries.find? schema "items").elim unknownType typeOfValue) := by
  rw [typeOfArray]
  split <;> simp_all

theorem typeOfObject_eq (schema : Entries) :
    typeOfObject schema =
      match Entries.find? schema "properties" with
      | some (.object (p :: properties)) => .object (typeOfFields (requiredNames schema) (p :: properties))
      | _ => .record ((Entries.find? schema "additionalProperties").elim unknownType typeOfValue) := by
  rw [typeOfObject]
  split
  · simp_all
  · split <;> simp_all

theorem typeOfFields_eq (required : List String) (properties : List (String × Value)) :
    typeOfFields required properties = properties.map fun p => (p.1, !required.contains p.1, typeOfValue p.2) := by
  induction properties with
  | nil => simp [typeOfFields]
  | cons p rest ih => rw [typeOfFields, ih, List.map_cons]

/-! ## Texts that are read as a type -/

/-- A text is read as a type, wherever it stands. -/
def Readable (level : Level) (s : String) (t : TypeExpr) : Prop := ∃ ts, Spells s.toList ts ∧ Reads level ts t

/-- A text is read as a type, and where it has no bar, brackets behind it bind to the whole of it. -/
structure Prints (s : String) (t : TypeExpr) : Prop where
  whole : Readable .whole s t
  bracketed : hasBar s = false → Readable .bracketed s t

theorem Readable.readsAs {s : String} {t : TypeExpr} (readable : Readable .whole s t) : ReadsAs s t := by
  obtain ⟨ts, spelled, reads⟩ := readable
  exact ⟨ts, tokens?_eq spelled, reads⟩

theorem Readable.mono {s : String} {t : TypeExpr} {level level' : Level} (readable : Readable level s t)
    (loosens : ∀ {ts}, Reads level ts t → Reads level' ts t) : Readable level' s t := by
  obtain ⟨ts, spelled, reads⟩ := readable
  exact ⟨ts, spelled, loosens reads⟩

theorem prints_bracketed {s : String} {t : TypeExpr} (readable : Readable .bracketed s t) : Prints s t :=
  ⟨readable.mono .single, fun _ => readable⟩

theorem prints_piece {s : String} {t : TypeExpr} (readable : Readable .piece s t) : Prints s t :=
  prints_bracketed (readable.mono .piece)

/-! ### Words and literals -/

theorem readable_reference {w : String} (name : IsReference w) : Readable .piece w (.reference w) :=
  ⟨_, spells_word (isWord_of_isName name.1), .reference name⟩

theorem readable_keyword (k : Keyword) : Readable .piece k.word (.keyword k) :=
  ⟨_, spells_word (isWord_of_isName (isName_keyword k)), .keyword k⟩

theorem readable_number {w : String} (spelled : IsNumber w) : Readable .piece w (.number w) :=
  ⟨_, spells_word (isWord_of_isNumber spelled), .number spelled⟩

theorem readable_text {s : String} (each : ∀ c ∈ s.toList, IsLiteralChar c) :
    Readable .piece ("\"" ++ s ++ "\"") (.text s) := by
  refine ⟨_, ?_, .text⟩
  simpa [String.toList_append] using spells_literal each

/-! ### Brackets -/

theorem readable_group {s : String} {t : TypeExpr} (inner : Readable .whole s t) :
    Readable .piece ("(" ++ s ++ ")") t := by
  obtain ⟨ts, spelled, reads⟩ := inner
  refine ⟨_, ?_, .group reads⟩
  simpa [String.toList_append] using spells_mark (c := '(') (by decide)
    (spells_before_mark (c := ')') spelled (by decide) spells_nil)

theorem readable_array {s : String} {t : TypeExpr} (element : Readable .bracketed s t) :
    Readable .bracketed (s ++ "[]") (.array t) := by
  obtain ⟨ts, spelled, reads⟩ := element
  refine ⟨_, ?_, .array reads⟩
  simpa [String.toList_append] using
    spells_before_mark (c := '[') spelled (by decide) (spells_mark (c := ']') (by decide) spells_nil)

/-- Brackets behind a text stand behind the whole of it. -/
theorem prints_array {s : String} {t : TypeExpr} (element : Prints s t) : Prints (arrayText s) (.array t) := by
  refine prints_bracketed ?_
  rw [arrayText]
  split_ifs with bar
  · have parts : "(" ++ s ++ ")[]" = "(" ++ s ++ ")" ++ "[]" := by simp [← String.toList_inj]
    rw [parts]
    exact readable_array ((readable_group element.whole).mono .piece)
  · exact readable_array (element.bracketed (by simpa using bar))

theorem readable_record {s : String} {t : TypeExpr} (values : Readable .whole s t) :
    Readable .piece ("Record<string, " ++ s ++ ">") (.record t) := by
  obtain ⟨ts, spelled, reads⟩ := values
  refine ⟨_, ?_, .record reads⟩
  have record := spells_word (isWord_of_isName (by decide : IsName "Record"))
  have string := spells_word (isWord_of_isName (by decide : IsName "string"))
  simpa [String.toList_append, recordHead] using
    spells_before_mark (c := '<') record (by decide) (spells_before_mark (c := ',') string (by decide)
      (spells_blank (spells_before_mark (c := '>') spelled (by decide) spells_nil)))

/-! ### Unions and objects -/

theorem readable_union {α : Type} {items : List α} {text : α → String} {type : α → TypeExpr}
    (many : 2 ≤ items.length) (each : ∀ a ∈ items, Readable .bracketed (text a) (type a)) :
    Readable .whole (" | ".intercalate (items.map text)) (.union (items.map type)) := by
  choose! tokens spelled reads using each
  have union := @Reads.union (items.map fun a => (tokens a, type a)) (by simpa using many) (by simpa using reads)
  refine ⟨parted '|' (items.map tokens), spells_joined ?_ ?_ spelled, by simpa [Function.comp_def] using union⟩
  · simp [Apart, isWordChar, isNameChar]
  · intro cs ts spelled
    exact spells_blank (spells_mark (by decide) (spells_blank spelled))

/-- A union of two members or more has a bar. -/
theorem hasBar_intercalate (a b : String) (rest : List String) :
    hasBar (" | ".intercalate (a :: b :: rest)) = true := by
  simp [hasBar, String.toList_intercalate]

theorem spells_field {f : Field} {s : String} (name : IsFieldName f.name) (type : Spells s.toList f.tokens) :
    Spells (fieldText f.name f.isOptional s).toList f.spelled := by
  have word := spells_word (isWord_of_isFieldName name)
  have typed := spells_blank type
  unfold Field.spelled fieldText
  cases f.isOptional with
  | false => simpa [String.toList_append] using spells_before_mark (c := ':') word (by decide) typed
  | true =>
    simpa [String.toList_append] using
      spells_before_mark (c := '?') word (by decide) (spells_mark (c := ':') (by decide) typed)

/-- The text of an object, by the texts of the types of its fields. -/
theorem spells_object {fields : List (Field × String)} (names : ∀ f ∈ fields, IsFieldName f.1.name)
    (types : ∀ f ∈ fields, Spells f.2.toList f.1.tokens) :
    Spells ("\x7b " ++ "; ".intercalate (fields.map fun f => fieldText f.1.name f.1.isOptional f.2) ++ " \x7d").toList
      (.mark '\x7b' :: (parted ';' (fields.map fun f => f.1.spelled) ++ [.mark '\x7d'])) := by
  have each : ∀ f ∈ fields, Spells (fieldText f.1.name f.1.isOptional f.2).toList f.1.spelled :=
    fun f inside => spells_field (names f inside) (types f inside)
  have joined : Spells ("; ".intercalate (fields.map fun f => fieldText f.1.name f.1.isOptional f.2)).toList
      (parted ';' (fields.map fun f => f.1.spelled)) := by
    refine spells_joined ?_ ?_ each
    · simp [Apart, isWordChar, isNameChar]
    · intro cs ts spelled
      exact spells_mark (by decide) (spells_blank spelled)
  have closed : Spells [' ', '\x7d'] [.mark '\x7d'] := spells_blank (spells_mark (by decide) spells_nil)
  have apart : Apart [' ', '\x7d'] := by simp [Apart, isWordChar, isNameChar]
  simpa [String.toList_append] using
    spells_mark (c := '\x7b') (by decide) (spells_blank (spells_append joined closed apart))

theorem readable_object {α : Type} {items : List α} (some : items ≠ []) {name text : α → String}
    {isOptional : α → Bool} {type : α → TypeExpr} (names : ∀ a ∈ items, IsFieldName (name a))
    (each : ∀ a ∈ items, Readable .whole (text a) (type a)) :
    Readable .piece
      ("\x7b " ++ "; ".intercalate (items.map fun a => fieldText (name a) (isOptional a) (text a)) ++ " \x7d")
      (.object (items.map fun a => (name a, isOptional a, type a))) := by
  choose! tokens spelled reads using each
  have object := @Reads.object (items.map fun a => ⟨name a, isOptional a, tokens a, type a⟩) (by simpa using some)
    (by simpa using names) (by simpa using reads)
  have text := @spells_object (items.map fun a => (⟨name a, isOptional a, tokens a, type a⟩, text a))
    (by simpa using names) (by simpa using spelled)
  simp only [List.map_map, Function.comp_def, Field.typed] at object text
  exact ⟨_, text, object⟩

/-! ## Plain schemas -/

/-- The schemas that stand directly inside of a schema. -/
inductive Inside (schema : Entries) : Entries → Prop
  | items {s : Entries} (found : Entries.find? schema "items" = some (.object s)) : Inside schema s
  | property {properties s : Entries} {name : String}
      (found : Entries.find? schema "properties" = some (.object properties))
      (member : (name, .object s) ∈ properties) : Inside schema s
  | values {s : Entries} (found : Entries.find? schema "additionalProperties" = some (.object s)) : Inside schema s

/-- An enumerated value that is written as it is: a number, a truth value, null, or a string without quotes,
    backslashes and control characters. -/
def PlainValue : Value → Prop
  | .string s => ∀ c ∈ s.toList, c ≠ '"' ∧ c ≠ '\\' ∧ 32 ≤ c.toNat
  | .array _ | .object _ => False
  | _ => True

/-- A schema of which the reference ends with a name of types, the properties are called by names of fields, and the
    enumerated values are plain. -/
structure PlainHere (IsType IsField : String → Prop) (schema : Entries) : Prop where
  reference : ∀ r, textOf? schema "$ref" = some r → IsType (nameIn r)
  properties : ∀ ps, Entries.find? schema "properties" = some (.object ps) → ∀ p ∈ ps, IsField p.1
  values : ∀ vs, Entries.find? schema "enum" = some (.array vs) → ∀ v ∈ vs, PlainValue v

/-- A schema that is plain at every depth. -/
inductive Plain (IsType IsField : String → Prop) : Entries → Prop
  | intro {schema : Entries} (here : PlainHere IsType IsField schema)
      (inside : ∀ s, Inside schema s → Plain IsType IsField s) : Plain IsType IsField schema

/-! ## Texts of schemas -/

theorem prints_keyword (k : Keyword) : Prints k.word (.keyword k) := prints_piece (readable_keyword k)

theorem prints_unknown : Prints Descriptor.unknown.text unknownType := prints_keyword .unknown

theorem prints_blob : Prints "Blob" blobType := prints_piece (readable_reference (by decide))

theorem readable_literal {v : Value} (plain : PlainValue v) : Readable .piece (literalText v) (literalType v) := by
  cases v with
  | null => exact readable_keyword .null
  | bool b =>
    cases b with
    | true => exact readable_keyword .true
    | false => exact readable_keyword .false
  | int n => exact readable_number (isNumber_int n)
  | real x => exact readable_number (isNumber_real x)
  | string s =>
    refine readable_text fun c inside => ?_
    obtain ⟨quote, escape, control⟩ := plain c inside
    exact ⟨quote, escape, by rintro rfl; simp at control, by rintro rfl; simp at control⟩
  | array _ => exact plain.elim
  | object _ => exact plain.elim

/-- Enumerated values are read as their union. -/
theorem prints_enumerated {values : List Value} (some : values ≠ []) (plain : ∀ v ∈ values, PlainValue v) :
    Prints (" | ".intercalate (values.map literalText)) (unionOf (values.map literalType)) := by
  match values with
  | [v] => exact prints_piece (by simpa [unionOf] using readable_literal (plain v (by simp)))
  | v :: w :: rest =>
    refine ⟨readable_union (by simp) fun x inside => (readable_literal (plain x inside)).mono .piece, ?_⟩
    intro noBar
    rw [List.map_cons, List.map_cons, hasBar_intercalate] at noBar
    cases noBar

theorem prints_value {v : Value} (inside : ∀ s, v = .object s → Prints (describe s).text (typeOf s)) :
    Prints (describeValue v).text (typeOfValue v) := by
  cases v with
  | object s =>
    rw [describeValue, typeOfValue]
    exact inside s rfl
  | _ => simpa [describeValue, typeOfValue] using prints_unknown

section Parts

variable {schema : Entries} (inside : ∀ s, Inside schema s → Prints (describe s).text (typeOf s))
include inside

/-- The type of what stands under a key that holds schemas. -/
theorem prints_found {key : String} (within : ∀ s, Entries.find? schema key = some (.object s) → Inside schema s) :
    Prints ((Entries.find? schema key).elim .unknown describeValue).text
      ((Entries.find? schema key).elim unknownType typeOfValue) := by
  cases found : Entries.find? schema key with
  | none => exact prints_unknown
  | some v => exact prints_value fun s same => inside s (within s (same ▸ found))

theorem prints_typeOfArray (reading : readingOf schema = .items) :
    Prints (describe schema).text (typeOfArray schema) := by
  rw [describe_items reading, typeOfArray_eq, Descriptor.text_array]
  exact prints_array (prints_found inside fun s => .items)

theorem prints_typeOfObject (here : PlainHere IsReference IsFieldName schema) (reading : readingOf schema = .object) :
    Prints (describe schema).text (typeOfObject schema) := by
  rw [typeOfObject_eq]
  split
  next p properties found =>
    rw [describe_fields reading found, Descriptor.text_fields, Descriptor.fieldTexts_eq, describeFields_eq,
      List.map_map, typeOfFields_eq]
    refine prints_piece (readable_object (by simp) (here.properties _ found) fun q member => ?_)
    refine (prints_value fun s same => ?_).whole
    have inner : (q.1, Value.object s) ∈ p :: properties := by rwa [← same]
    exact inside s (.property found inner)
  next bare =>
    rw [describe_record reading bare, Descriptor.text_record]
    exact prints_piece (readable_record (prints_found inside fun s => .values).whole)

theorem prints_typed (here : PlainHere IsReference IsFieldName schema) (reference : textOf? schema "$ref" = none)
    (enumerated : enumerated? schema = none) : Prints (describe schema).text (typeOf schema) := by
  have named {w : String} {t : TypeExpr} (prints : Prints w t) (reading : readingOf schema = .final (.atom w)) :
      Prints (describe schema).text t := by
    rw [describe_final reading, Descriptor.text_atom]
    exact prints
  rw [typeOf, reference, enumerated]
  split
  next none => exact nomatch none
  next none => exact nomatch none
  next type =>
    have reading : readingOf schema = .final (stringType schema) := by simp [readingOf, reference, enumerated, type]
    rw [stringType] at reading
    split_ifs at reading ⊢ with binary
    · exact named prints_blob reading
    · exact named (prints_keyword .string) reading
  next type => exact named (prints_keyword .number) (by simp [readingOf, reference, enumerated, type, Keyword.word])
  next type => exact named (prints_keyword .number) (by simp [readingOf, reference, enumerated, type, Keyword.word])
  next type => exact named (prints_keyword .boolean) (by simp [readingOf, reference, enumerated, type, Keyword.word])
  next type => exact named prints_blob (by simp [readingOf, reference, enumerated, type])
  next type => exact named (prints_keyword .null) (by simp [readingOf, reference, enumerated, type, Keyword.word])
  next type => exact prints_typeOfArray inside (by simp [readingOf, reference, enumerated, type])
  next type => exact prints_typeOfObject inside here (by simp [readingOf, reference, enumerated, type])
  next =>
    have reading : readingOf schema = if Entries.has schema "properties" then .object else .final .unknown := by
      rw [readingOf, reference, enumerated]
      split <;> simp_all
    split_ifs with has
    · exact prints_typeOfObject inside here (by rw [reading, if_pos has])
    · exact named prints_unknown (by rw [reading, if_neg has]; rfl)

end Parts

/-- The enumerated values of a plain schema are some and plain. -/
theorem enumerated_plain {IsType IsField : String → Prop} {schema : Entries}
    (here : PlainHere IsType IsField schema) {values : List Value}
    (enumerated : enumerated? schema = some values) : values ≠ [] ∧ ∀ v ∈ values, PlainValue v := by
  unfold enumerated? at enumerated
  split at enumerated
  next v rest found =>
    cases enumerated
    obtain ⟨w, listed, items⟩ := Option.bind_eq_some_iff.mp found
    cases w <;> cases items
    exact ⟨by simp, here.values _ listed⟩
  next => cases enumerated

/-- The text of the type of a plain schema is read as the type that the schema describes. -/
theorem prints_describe {schema : Entries} (plain : Plain IsReference IsFieldName schema) :
    Prints (describe schema).text (typeOf schema) := by
  induction plain with
  | @intro schema here _ inside =>
    cases reference : textOf? schema "$ref" with
    | some r =>
      have reading : readingOf schema = .final (.reference (referenceTarget r)) := by rw [readingOf, reference]
      rw [describe_final reading, typeOf, reference, ← nameIn_eq]
      exact prints_piece (readable_reference (here.reference r reference))
    | none =>
      cases enumerated : enumerated? schema with
      | some values =>
        obtain ⟨some, plain⟩ := enumerated_plain here enumerated
        have reading : readingOf schema = .final (.atom (" | ".intercalate (values.map literalText))) := by
          rw [readingOf, reference, enumerated]
        rw [describe_final reading, typeOf, reference, enumerated]
        exact prints_enumerated some plain
      | none => exact prints_typed inside here reference enumerated

theorem toJson_tsType (d : Descriptor) : d.toJson.get? "tsType" = some (.string d.text) := by
  cases d <;> simp [Descriptor.toJson, Descriptor.toEntries, Descriptor.flagEntries, Value.get?, Value.entries?,
    Entries.find?]

/-- The text that templates are given for the type of a plain schema is read as the type that the schema describes,
    and as no other. -/
theorem describe_readsAs {schema : Entries} (plain : Plain IsReference IsFieldName schema) :
    ∃ text, (describe schema).toJson.get? "tsType" = some (.string text) ∧
      ∀ t, ReadsAs text t ↔ t = typeOf schema := by
  have reads := (prints_describe plain).whole.readsAs
  refine ⟨(describe schema).text, toJson_tsType _, fun t => ⟨readsAs_unique reads, ?_⟩⟩
  rintro rfl
  exact reads

/-- A schema of a string with a bar in it or a number. -/
def kindSchema : Entries := [("enum", .array [.string "a|b", .int (-1)])]

/-- A schema of an object with one field. -/
def itemSchema : Entries :=
  [("required", .array [.string "kind"]), ("properties", .object [("kind", .object kindSchema)])]

/-- A schema of an array of such objects. -/
def listSchema : Entries := [("type", .string "array"), ("items", .object itemSchema)]

theorem plain_listSchema : Plain IsReference IsFieldName listSchema := by
  have kind : Plain IsReference IsFieldName kindSchema := by
    refine .intro ⟨?_, ?_, ?_⟩ fun s inside => ?_
    · simp [kindSchema, textOf?, Entries.find?, List.lookup_cons]
    · simp [kindSchema, Entries.find?, List.lookup_cons]
    · simp [kindSchema, Entries.find?, PlainValue]
    · cases inside <;> simp_all [kindSchema, Entries.find?, List.lookup_cons]
  have item : Plain IsReference IsFieldName itemSchema := by
    have name : IsFieldName "kind" := .inl (by decide)
    refine .intro ⟨?_, ?_, ?_⟩ fun s inside => ?_
    · simp [itemSchema, textOf?, Entries.find?, List.lookup_cons]
    · simp [itemSchema, Entries.find?, List.lookup_cons, name]
    · simp [itemSchema, Entries.find?, List.lookup_cons]
    · cases inside with
      | property found member =>
        obtain rfl : [("kind", Value.object kindSchema)] = _ := by
          simpa [itemSchema, Entries.find?, List.lookup_cons] using found
        obtain ⟨_, rfl⟩ : _ ∧ s = kindSchema := by simpa using member
        exact kind
      | _ found => simp [itemSchema, Entries.find?, List.lookup_cons] at found
  refine .intro ⟨?_, ?_, ?_⟩ fun s inside => ?_
  · simp [listSchema, textOf?, Entries.find?, List.lookup_cons]
  · simp [listSchema, Entries.find?, List.lookup_cons]
  · simp [listSchema, Entries.find?, List.lookup_cons]
  · cases inside <;> simp_all [listSchema, Entries.find?, List.lookup_cons]

theorem typeOf_listSchema :
    typeOf listSchema = .array (.object [("kind", false, .union [.text "a|b", .number "-1"])]) := by
  simp [typeOf, typeOfArray, typeOfObject, typeOfValue, typeOfFields, listSchema, itemSchema, kindSchema, textOf?,
    enumerated?, requiredNames, unionOf, literalType, Entries.find?, Entries.has, List.lookup_cons, Value.text?,
    Value.items?]
  rfl

/-- The bar of the string makes the text put parentheses around the element, which they leave as it is. -/
theorem describe_readsAs_list : Plain IsReference IsFieldName listSchema ∧
    ∃ text, (describe listSchema).toJson.get? "tsType" = some (.string text) ∧
      ∀ t, ReadsAs text t ↔ t = .array (.object [("kind", false, .union [.text "a|b", .number "-1"])]) := by
  refine ⟨plain_listSchema, ?_⟩
  rw [← typeOf_listSchema]
  exact describe_readsAs plain_listSchema

/-! ## Words that are no names -/

/-- A word of letters, digits, underscores and dollar signs. -/
def IsLetters (w : String) : Prop := w ≠ "" ∧ ∀ c ∈ w.toList, isNameChar c = true

instance (w : String) : Decidable (IsLetters w) :=
  have := List.decidableBAll (fun c : Char => isNameChar c = true) w.toList
  inferInstanceAs (Decidable (_ ∧ _))

/-- A schema of an object with a field that begins with a digit. -/
def digitSchema : Entries := [("properties", .object [("2fa", .object [])])]

/-- A schema that refers to a type which is called like a keyword. -/
def keywordSchema : Entries := [("$ref", .string "#/definitions/string")]

theorem plain_digitSchema : Plain IsLetters IsLetters digitSchema := by
  have empty : Plain IsLetters IsLetters [] := by
    refine .intro ⟨?_, ?_, ?_⟩ fun s inside => ?_
    · simp [textOf?, Entries.find?]
    · simp [Entries.find?]
    · simp [Entries.find?]
    · cases inside <;> simp_all [Entries.find?]
  have name : IsLetters "2fa" := by decide
  refine .intro ⟨?_, ?_, ?_⟩ fun s inside => ?_
  · simp [digitSchema, textOf?, Entries.find?, List.lookup_cons]
  · simp [digitSchema, Entries.find?, name]
  · simp [digitSchema, Entries.find?, List.lookup_cons]
  · cases inside with
    | property found member =>
      obtain rfl : [("2fa", Value.object [])] = _ := by
        simpa [digitSchema, Entries.find?, List.lookup_cons] using found
      obtain ⟨_, rfl⟩ : _ ∧ s = [] := by simpa using member
      exact empty
    | _ found => simp [digitSchema, Entries.find?, List.lookup_cons] at found

theorem plain_keywordSchema : Plain IsLetters IsLetters keywordSchema := by
  refine .intro ⟨?_, ?_, ?_⟩ fun s inside => ?_
  · rintro r found
    obtain rfl : "#/definitions/string" = r := by
      simpa [keywordSchema, textOf?, Entries.find?, Value.text?] using found
    decide +kernel
  · simp [keywordSchema, Entries.find?, List.lookup_cons]
  · simp [keywordSchema, Entries.find?, List.lookup_cons]
  · cases inside <;> simp_all [keywordSchema, Entries.find?, List.lookup_cons]

/-- `2fa` is neither a name nor a number. -/
theorem digits_no_name : ¬ IsFieldName "2fa" := by
  rintro (name | ⟨n, _, same, _⟩)
  · revert name
    decide
  · have letter : 'f' ∈ Decimal.natDigits n := by
      have digits : Decimal.natDigits n = "2fa".toList := congrArg String.toList same.symm
      simp [digits]
    have digit := (digits_natDigits n).2 'f' letter
    revert digit
    decide

theorem text_digitSchema : (describe digitSchema).text = "\x7b 2fa?: unknown \x7d" := by
  have reading : readingOf digitSchema = .object := by
    simp [readingOf, textOf?, enumerated?, digitSchema, Entries.find?, Entries.has, List.lookup_cons]
  have found : Entries.find? digitSchema "properties" = some (.object [("2fa", .object [])]) := by
    simp [digitSchema, Entries.find?]
  have fields : describeFields (requiredNames digitSchema) [("2fa", .object [])] = [("2fa", true, .unknown)] := by
    have inner : describe [] = .unknown := describe_final rfl
    simp [describeFields, describeValue, inner, requiredNames, digitSchema, Entries.find?, List.lookup_cons]
  rw [describe_fields reading found, fields]
  rfl

theorem text_keywordSchema : (describe keywordSchema).text = Keyword.string.word := by
  have reading : readingOf keywordSchema = .final (.reference (referenceTarget "#/definitions/string")) := by
    simp [readingOf, textOf?, keywordSchema, Entries.find?, Value.text?]
  rw [describe_final reading]
  decide +kernel

/-- Where names are just words, a type can be misread: one with a field that begins with a digit is no type at all, and
    a reference to a type that is called like a keyword is that keyword. -/
theorem words_misread :
    (Plain IsLetters IsLetters digitSchema ∧
      ∃ text, (describe digitSchema).toJson.get? "tsType" = some (.string text) ∧ ∀ t, ¬ ReadsAs text t) ∧
    Plain IsLetters IsLetters keywordSchema ∧
      ∃ text, (describe keywordSchema).toJson.get? "tsType" = some (.string text) ∧
        ReadsAs text (.keyword .string) ∧ ¬ ReadsAs text (typeOf keywordSchema) := by
  refine ⟨⟨plain_digitSchema, _, toJson_tsType _, ?_⟩, plain_keywordSchema, _, toJson_tsType _, ?_⟩
  · rw [text_digitSchema]
    rintro t ⟨ts, cut, reads⟩
    have tokens : tokens? "\x7b 2fa?: unknown \x7d" = some [.mark '\x7b', .word "2fa", .mark '?', .mark ':',
        .word "unknown", .mark '\x7d'] := by decide +kernel
    obtain rfl := Option.some.inj (tokens.symm.trans cut)
    exact digits_no_name (reads_firstField reads (List.append_nil _))
  · have keyword : ReadsAs (describe keywordSchema).text (.keyword .string) := by
      rw [text_keywordSchema]
      exact (prints_keyword .string).whole.readsAs
    refine ⟨keyword, fun reference => ?_⟩
    have same := readsAs_unique keyword reference
    simp [typeOf, textOf?, keywordSchema, Entries.find?, Value.text?] at same

end ApiBindings.TypeTexts
