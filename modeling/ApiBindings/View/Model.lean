import ApiBindings.SecurityFlags
import ApiBindings.View.Parameter

/-!
# The view model

What a template is given: the methods of a document one by one, the groups they form by their tags, the
definitions, and the document's own data. The JSON form fixes the keys and their order.
-/

namespace ApiBindings.View

open ApiBindings.Json ApiBindings.Document

/-! ## Methods -/

/-- A header that every request of a method carries. -/
structure Header where
  name : String
  value : String
  deriving DecidableEq, Repr

/-- The header as JSON. -/
def Header.toJson (h : Header) : Value := .object [("name", .string h.name), ("value", .string h.value)]

/-- A response under its status key. -/
structure ResponseView where
  code : String
  response : Response
  deriving DecidableEq

/-- The response as JSON, its status key first. -/
def ResponseView.toJson (r : ResponseView) : Value :=
  .object (("responseCode", .string r.code) :: r.response.toEntries)

/-- What a method returns: the schema of a response with its type, or the type the caller set. -/
inductive ReturnView where
  | schema (entries : Entries) (computed : Computed)
  | default (type : Value)
  deriving DecidableEq

namespace ReturnView

/-- What is returned, as JSON. -/
def toJson : ReturnView → Value
  | .schema entries computed => .object (entries ++ computed.toEntries)
  | .default type => type

/-- The type of what is returned. -/
def type? : ReturnView → Option Value
  | .schema _ computed => computed.type
  | .default type => some type

end ReturnView

/-- An operation as templates see it. -/
structure Method where
  path : String
  className : String
  methodName : String
  verb : String
  summary : Option String := none
  externalDocs : Option Value := none
  deprecated : Bool := false
  isSecure : Bool
  security : SecurityFlags
  parameters : List ParameterView
  byIn : ByIn
  headers : List Header
  returns : Option ReturnView := none
  tags : List String := []
  tagGroup : Option String := none
  notFirstByTag : Bool := false
  responses : List ResponseView := []
  isFirstPath : Bool := false
  notFirstMethod : Bool := false
  notFirstPath : Bool := false
  isFirstMethod : Bool := false
  deriving DecidableEq

/-- The entries of the security flags. -/
def securityEntries (isSecure : Bool) (f : SecurityFlags) : Entries :=
  [("isSecure", .bool isSecure), ("isSecureToken", .bool f.token), ("isSecureApiKey", .bool f.apiKey),
    ("isSecureBasic", .bool f.basic)]

/-- The texts of a list as JSON. -/
def textsJson (list : List String) : Value := .array (list.map .string)

namespace Method

/-- The type of what a method returns. -/
def returnType? (m : Method) : Option Value := m.returns.bind ReturnView.type?

/-- The method as JSON. -/
def toJson (m : Method) : Value :=
  .object ([("path", .string m.path), ("className", .string m.className),
      ("methodName", .string m.methodName), ("method", .string m.verb),
      ("isGET", .bool (m.verb == "GET")), ("isPOST", .bool (m.verb == "POST"))] ++
    Document.Parameter.entry? "summary" .string m.summary ++
    Document.Parameter.entry? "externalDocs" id m.externalDocs ++
    ParameterView.flagEntry "deprecated" m.deprecated ++
    securityEntries m.isSecure m.security ++
    [("parameters", .array (m.parameters.map ParameterView.toJson)), ("byIn", m.byIn.toJson),
      ("headers", .array (m.headers.map Header.toJson))] ++
    Document.Parameter.entry? "return" ReturnView.toJson m.returns ++
    (if m.tags.isEmpty then [] else [("tags", textsJson m.tags)]) ++
    Document.Parameter.entry? "tagGroup" .string m.tagGroup ++
    ParameterView.flagEntry "notFirstByTag" m.notFirstByTag ++
    (if m.responses.isEmpty then [] else [("responses", .array (m.responses.map ResponseView.toJson))]) ++
    ParameterView.flagEntry "isFirstPath" m.isFirstPath ++
    ParameterView.flagEntry "notFirstMethod" m.notFirstMethod ++
    ParameterView.flagEntry "notFirstPath" m.notFirstPath ++
    ParameterView.flagEntry "isFirstMethod" m.isFirstMethod)

end Method

/-! ## Groups and definitions -/

/-- The methods that share a list of tags. -/
structure TagGroup where
  name : String
  tags : List Tag
  methods : List Method
  deriving DecidableEq

/-- The group as JSON. -/
def TagGroup.toJson (g : TagGroup) : Value :=
  .object [("name", .string g.name), ("tags", .array (g.tags.map Tag.toJson)),
    ("methods", .array (g.methods.map Method.toJson))]

/-- A property of a definition. -/
structure PropertyView where
  name : String
  schema : Value
  computed : Computed
  deriving DecidableEq

/-- The property as JSON. -/
def PropertyView.toJson (p : PropertyView) : Value :=
  .object ([("name", .string p.name), ("schema", p.schema)] ++ p.computed.toEntries)

/-- A definition of a document. -/
structure DefinitionView where
  name : String
  description : Option String
  properties : Option (List PropertyView)
  computed : Computed
  deriving DecidableEq

/-- The definition as JSON. -/
def DefinitionView.toJson (d : DefinitionView) : Value :=
  .object (("name", .string d.name) ::
    Document.Parameter.entry? "description" .string d.description ++
    Document.Parameter.entry? "properties" (fun ps => .array (ps.map PropertyView.toJson)) d.properties ++
    d.computed.toEntries)

/-! ## Models -/

/-- What only a 2.0 document gives. -/
structure SpecificationPart where
  byTags : List TagGroup
  hasTags : Bool
  info : Info
  host : Option String
  basePath : Option String
  tags : List Tag
  schemes : List String
  deriving DecidableEq

/-- The part of a 2.0 document as entries. -/
def SpecificationPart.toEntries (p : SpecificationPart) : Entries :=
  [("hasTags", .bool p.hasTags), ("byTags", .array (p.byTags.map TagGroup.toJson)), ("info", p.info.toJson)] ++
    Document.Parameter.entry? "host" .string p.host ++
    Document.Parameter.entry? "basePath" .string p.basePath ++
    [("tags", .array (p.tags.map Tag.toJson)), ("schemes", textsJson p.schemes)]

/-- The view model of a document. -/
structure Model where
  description : Option String
  moduleName : String
  className : String
  imports : List String
  domain : String
  isSecure : Bool
  security : SecurityFlags
  methods : List Method
  definitions : List DefinitionView
  specification : Option SpecificationPart
  deriving DecidableEq

/-- The model as JSON. -/
def Model.toJson (m : Model) : Value :=
  .object (Document.Parameter.entry? "description" .string m.description ++
    [("moduleName", .string m.moduleName), ("className", .string m.className),
      ("imports", textsJson m.imports), ("domain", .string m.domain)] ++
    securityEntries m.isSecure m.security ++
    [("methods", .array (m.methods.map Method.toJson)),
      ("definitions", .array (m.definitions.map DefinitionView.toJson))] ++
    (m.specification.map SpecificationPart.toEntries).getD [])

end ApiBindings.View
