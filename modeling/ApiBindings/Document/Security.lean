import ApiBindings.Json.Shape

/-!
# Security schemes and requirements

The schemes a document declares and the requirements that name them.
-/

namespace ApiBindings.Document

open ApiBindings.Json

/-- The kind of a security scheme. -/
inductive SchemeKind where
  | basic
  | apiKey
  | oauth2
  | other
  deriving DecidableEq, Repr

namespace SchemeKind

/-- The kind that a name stands for. -/
def ofName (name : String) : SchemeKind :=
  if name = "basic" ∨ name = "basicAuth" then .basic
  else if name = "apiKey" then .apiKey
  else if name = "oauth2" then .oauth2
  else .other

/-- The name under which a kind is written. -/
def name : SchemeKind → String
  | .basic => "basic"
  | .apiKey => "apiKey"
  | .oauth2 => "oauth2"
  | .other => "Other"

/-- A kind is a name, or an object with that name as its one key and null under it. -/
def shape : Shape SchemeKind
  | .string s => .ok (ofName s)
  | .object [(k, .null)] => .ok (ofName k)
  | .object [(_, v)] => .error (.kind v "unit")
  | .object _ => .error .notSingle
  | v => .error (.kind v "string or map")

end SchemeKind

/-- A declared security scheme. -/
structure SecurityScheme where
  kind : SchemeKind
  description : Option String
  others : Entries
  deriving DecidableEq

namespace SecurityScheme

/-- A scheme is read from an object. -/
def shape : Shape SecurityScheme :=
  Members.fromObject "SecurityScheme" <|
    SecurityScheme.mk <$> .required "type" SchemeKind.shape
      <*> .optional "description" Shape.text
      <*> .others ["type", "description"]

/-- The scheme as JSON. -/
def toJson (s : SecurityScheme) : Value :=
  .object (("type", .string s.kind.name) ::
    (s.description.map fun d => ("description", .string d)).toList ++ s.others)

end SecurityScheme

/-- Named schemes, in the order they are declared. -/
abbrev Schemes := List (String × SecurityScheme)

/-- A requirement: scopes by the name of a scheme. -/
abbrev Requirement := List (String × List String)

/-- A list of requirements. -/
def requirementsShape : Shape (List Requirement) :=
  .list (.map (.list .text))

end ApiBindings.Document
