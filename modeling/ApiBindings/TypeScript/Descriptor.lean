import ApiBindings.Json.Writer

/-!
# Type descriptors

TypeScript types as data, the text of a type expression, and the JSON form that templates are given:
the text with the flags and the nested descriptors beside it.
-/

namespace ApiBindings.TypeScript

open ApiBindings.Json

/-- A type. An atom is an expression that has no parts to speak of: a basic type or a union of
literals. -/
inductive Descriptor where
  | reference (target : String)
  | atom (text : String)
  | array (element : Descriptor)
  | fields (list : List (String × Bool × Descriptor))
  | record (values : Descriptor)
  deriving Inhabited

namespace Descriptor

/-- The type of what nothing is known about. -/
def unknown : Descriptor := .atom "unknown"

/-- Whether a text holds a union bar. -/
def hasBar (s : String) : Bool := s.toList.contains '|'

/-- The text of an array of a type: an element whose text holds a bar stands in parentheses. -/
def arrayText (element : String) : String :=
  if hasBar element then "(" ++ element ++ ")[]" else element ++ "[]"

/-- The text of one field. -/
def fieldText (name : String) (isOptional : Bool) (type : String) : String :=
  name ++ (if isOptional then "?" else "") ++ ": " ++ type

mutual

/-- The type expression. -/
def text : Descriptor → String
  | .reference target => target
  | .atom text => text
  | .array element => arrayText element.text
  | .fields list => "\x7b " ++ "; ".intercalate (fieldTexts list) ++ " \x7d"
  | .record values => "Record<string, " ++ values.text ++ ">"

/-- The texts of fields. -/
def fieldTexts : List (String × Bool × Descriptor) → List String
  | [] => []
  | (name, isOptional, type) :: rest => fieldText name isOptional type.text :: fieldTexts rest

end

@[simp] theorem text_reference (target : String) : (reference target).text = target := rfl

@[simp] theorem text_atom (s : String) : (atom s).text = s := rfl

@[simp] theorem text_array (element : Descriptor) : (array element).text = arrayText element.text := rfl

@[simp] theorem text_fields (list : List (String × Bool × Descriptor)) :
    (fields list).text = "\x7b " ++ "; ".intercalate (fieldTexts list) ++ " \x7d" := rfl

@[simp] theorem text_record (values : Descriptor) :
    (record values).text = "Record<string, " ++ values.text ++ ">" := rfl

theorem fieldTexts_eq (list : List (String × Bool × Descriptor)) :
    fieldTexts list = list.map fun f => fieldText f.1 f.2.1 f.2.2.text := by
  induction list with
  | nil => rfl
  | cons f rest ih => rw [List.map_cons, ← ih]; rfl

/-- The entries every descriptor has, of which one flag is set. -/
def flagEntries (text : String) (target : Option String) (isRef isArray isObject isAtomic : Bool) : Entries :=
  ("tsType", .string text) :: (target.map fun t => ("target", .string t)).toList ++
    [("isRef", .bool isRef), ("isArray", .bool isArray), ("isObject", .bool isObject),
      ("isAtomic", .bool isAtomic)]

mutual

/-- The descriptor as entries. -/
def toEntries : Descriptor → Entries
  | .reference target => flagEntries target (some target) true false false false
  | .atom text => flagEntries text none false false false true
  | .array element =>
    flagEntries (arrayText element.text) none false true false false ++
      [("elementType", .object element.toEntries)]
  | .fields list =>
    flagEntries (text (.fields list)) none false false true false ++
      [("properties", .array (fieldsJson list))]
  | .record values => flagEntries (text (.record values)) none false false true false

/-- Fields as JSON, each with the entries of its type. -/
def fieldsJson : List (String × Bool × Descriptor) → List Value
  | [] => []
  | (name, isOptional, type) :: rest =>
    .object (("name", .string name) :: ("optional", .bool isOptional) :: type.toEntries) :: fieldsJson rest

end

/-- The descriptor as JSON. -/
def toJson (d : Descriptor) : Value := .object d.toEntries

end Descriptor

end ApiBindings.TypeScript
