import ApiBindings.Json.Shape

/-!
# Parameters

The parameters of operations, the references to shared ones, and where a parameter travels.
-/

namespace ApiBindings.Document

open ApiBindings.Json

/-! ## Location -/

/-- Where a parameter travels. -/
inductive Location where
  | body
  | path
  | query
  | header
  | formData
  deriving DecidableEq, Repr

namespace Location

/-- The location that an `in` of a 2.0 document names. -/
def ofIn (name : String) : Option Location :=
  if name = "body" then some .body
  else if name = "path" then some .path
  else if name = "query" then some .query
  else if name = "header" then some .header
  else if name = "formData" then some .formData
  else none

/-- The location that a `paramType` of a 1.x document names. -/
def ofParamType (name : String) : Option Location :=
  if name = "body" then some .body
  else if name = "path" then some .path
  else if name = "query" then some .query
  else if name = "header" then some .header
  else if name = "form" then some .formData
  else none

end Location

/-! ## Parameters -/

/-- A parameter; 2.0 documents give its place in `in`, 1.x documents in `paramType`. -/
structure Parameter where
  name : String
  place : Option String
  paramType : Option String
  description : Option String
  required : Bool
  type : Option String
  format : Option String
  enum : Option (List Value)
  items : Option Value
  schema : Option Entries
  excluded : Option Bool
  proxyHeader : Option Value
  namePattern : Option String
  others : Entries
  deriving DecidableEq, Inhabited

namespace Parameter

/-- The keys that have a meaning of their own. -/
def knownKeys : List String :=
  ["name", "in", "paramType", "description", "required", "type", "format", "enum", "items", "schema",
    "x-exclude-from-bindings", "x-proxy-header", "x-name-pattern"]

/-- The members of a parameter. -/
def members : Members Parameter :=
  Parameter.mk <$> .required "name" Shape.text
    <*> .optional "in" Shape.text
    <*> .optional "paramType" Shape.text
    <*> .optional "description" Shape.text
    <*> .defaulted "required" false Shape.flag
    <*> .optional "type" Shape.text
    <*> .optional "format" Shape.text
    <*> .optional "enum" (.list .any)
    <*> .optional "items" Shape.any
    <*> .optional "schema" Shape.object
    <*> .optional "x-exclude-from-bindings" Shape.flag
    <*> .optional "x-proxy-header" Shape.any
    <*> .optional "x-name-pattern" Shape.text
    <*> .others knownKeys

/-- A parameter is read from an object. -/
def shape : Shape Parameter := members.fromObject "Parameter"

/-- The entry of a member that may be absent. -/
def entry? {α : Type} (key : String) (toJson : α → Value) (value : Option α) : Entries :=
  (value.map fun a => (key, toJson a)).toList

/-- The parameter as entries: the members with a meaning in their order, then the others. -/
def toEntries (p : Parameter) : Entries :=
  ("name", .string p.name) ::
    entry? "in" .string p.place ++
    entry? "paramType" .string p.paramType ++
    entry? "description" .string p.description ++
    ("required", .bool p.required) ::
    entry? "type" .string p.type ++
    entry? "format" .string p.format ++
    entry? "enum" .array p.enum ++
    entry? "items" id p.items ++
    entry? "schema" .object p.schema ++
    entry? "x-exclude-from-bindings" .bool p.excluded ++
    entry? "x-proxy-header" id p.proxyHeader ++
    entry? "x-name-pattern" .string p.namePattern ++
    p.others

/-- The parameter as JSON. -/
def toJson (p : Parameter) : Value := .object p.toEntries

end Parameter

/-- Whether a flag of any type is set: null, false, zero and the empty text are not. -/
def isTruthy : Value → Bool
  | .null => false
  | .bool b => b
  | .int n => n ≠ 0
  | .real x => !x.isZero
  | .string s => s ≠ ""
  | .array _ => true
  | .object _ => true

namespace Parameter

/-- A parameter that says it is no part of the bindings. -/
def isExcluded (p : Parameter) : Bool := p.excluded == some true

/-- A header that a proxy sets, not the client. -/
def isProxyHeader (p : Parameter) : Bool := p.proxyHeader.any isTruthy

/-- A parameter that is left out of the bindings. -/
def isSkipped (p : Parameter) : Bool := p.isExcluded || p.isProxyHeader

/-- The one value that an enumeration of length one allows. -/
def singleton? (p : Parameter) : Option Value :=
  match p.enum with
  | some [only] => some only
  | _ => none

end Parameter

/-! ## Entries of a parameter list -/

/-- An entry of a parameter list: a reference to a shared parameter, with flags beside it, or a
parameter in place. -/
inductive ParameterEntry where
  | reference (target : String) (excluded : Option Bool) (proxyHeader : Option Value)
  | inline (parameter : Parameter)
  deriving DecidableEq

namespace ParameterEntry

/-- The members of a reference. -/
def referenceMembers : Members ParameterEntry :=
  ParameterEntry.reference <$> .required "$ref" Shape.text
    <*> .optional "x-exclude-from-bindings" Shape.flag
    <*> .optional "x-proxy-header" Shape.any

/-- An entry is a reference if it can be read as one, else a parameter. -/
def shape : Shape ParameterEntry := fun v =>
  match referenceMembers.fromObject "Ref" v with
  | .ok e => .ok e
  | .error _ =>
    match Parameter.shape v with
    | .ok p => .ok (.inline p)
    | .error _ => .error (.noVariant "ParameterOrRef")

/-- The entry as JSON. -/
def toJson : ParameterEntry → Value
  | .reference target excluded proxyHeader =>
    .object (("$ref", .string target) ::
      Parameter.entry? "x-exclude-from-bindings" .bool excluded ++
      Parameter.entry? "x-proxy-header" id proxyHeader)
  | .inline p => p.toJson

/-- An entry that says itself that it is no part of the bindings. -/
def isExcluded : ParameterEntry → Bool
  | .reference _ excluded _ => excluded == some true
  | .inline p => p.isExcluded

/-- An entry that says itself that a proxy sets the header. -/
def isProxyHeader : ParameterEntry → Bool
  | .reference _ _ proxyHeader => proxyHeader.any isTruthy
  | .inline p => p.isProxyHeader

/-- An entry that is left out before its reference is resolved. -/
def isSkipped (e : ParameterEntry) : Bool := e.isExcluded || e.isProxyHeader

end ParameterEntry

end ApiBindings.Document
