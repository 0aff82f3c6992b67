import ApiBindings.Document.Operation

/-!
# Documents

Swagger documents of the two generations. A document whose `swagger` is the text `2.0` is a
specification; everything else is read as a declaration of version 1.x.
-/

namespace ApiBindings.Document

open ApiBindings.Json

/-! ## Parts of both generations -/

/-- What a document says about itself. -/
structure Info where
  title : Option String
  description : Option String
  version : Option String
  others : Entries
  deriving DecidableEq

namespace Info

/-- The info is read from an object. -/
def shape : Shape Info :=
  Members.fromObject "Info" <|
    Info.mk <$> .optional "title" Shape.text
      <*> .optional "description" Shape.text
      <*> .optional "version" Shape.text
      <*> .others ["title", "description", "version"]

/-- The info as JSON. -/
def toJson (i : Info) : Value :=
  .object (Parameter.entry? "title" .string i.title ++
    Parameter.entry? "description" .string i.description ++
    Parameter.entry? "version" .string i.version ++ i.others)

end Info

/-- A tag that operations can be sorted under. -/
structure Tag where
  name : String
  description : Option String
  others : Entries
  deriving DecidableEq

namespace Tag

/-- A tag is read from an object. -/
def shape : Shape Tag :=
  Members.fromObject "Tag" <|
    Tag.mk <$> .required "name" Shape.text
      <*> .optional "description" Shape.text
      <*> .others ["name", "description"]

/-- The tag as JSON. -/
def toJson (t : Tag) : Value :=
  .object (("name", .string t.name) ::
    Parameter.entry? "description" .string t.description ++ t.others)

end Tag

/-! ## Version 2.0 -/

/-- A 2.0 document. -/
structure Specification where
  swagger : String
  info : Info
  host : Option String
  basePath : Option String
  schemes : List String
  produces : Option (List String)
  consumes : Option (List String)
  paths : List (String × PathItem)
  definitions : List (String × Entries)
  parameters : List (String × Parameter)
  securityDefinitions : Option Schemes
  security : Option (List Requirement)
  tags : List Tag
  deriving DecidableEq

namespace Specification

/-- The members of a 2.0 document. -/
def shape : Shape Specification :=
  Members.fromObjectOrArray "SwaggerV2" 13 <|
    Specification.mk <$> .required "swagger" Shape.text
      <*> .required "info" Info.shape
      <*> .optional "host" Shape.text
      <*> .optional "basePath" Shape.text
      <*> .defaulted "schemes" [] (.list .text)
      <*> .optional "produces" (.list .text)
      <*> .optional "consumes" (.list .text)
      <*> .required "paths" pathsShape
      <*> .defaulted "definitions" [] (.map .object)
      <*> .defaulted "parameters" [] (.map Parameter.shape)
      <*> .optional "securityDefinitions" (.map SecurityScheme.shape)
      <*> .optional "security" requirementsShape
      <*> .defaulted "tags" [] (.list Tag.shape)

/-- A text without the slashes at its end. -/
def trimSlashes (s : String) : String :=
  String.ofList (s.toList.reverse.dropWhile (· = '/')).reverse

/-- The base address where scheme, host and base path are all declared, else the empty text. -/
def domain (s : Specification) : String :=
  match s.schemes, s.host, s.basePath with
  | scheme :: _, some host, some basePath => scheme ++ "://" ++ host ++ trimSlashes basePath
  | _, _, _ => ""

/-- The first tag with a name. -/
def tag? (s : Specification) (name : String) : Option Tag :=
  s.tags.find? (·.name == name)

end Specification

/-! ## Version 1.x -/

/-- An operation of a 1.x document. -/
structure ApiOperation where
  method : String
  nickname : Option String
  summary : Option String
  notes : Option String
  parameters : List Parameter
  produces : Option (List String)
  consumes : Option (List String)
  authorizations : Option Entries
  responseType : Option String
  deriving DecidableEq

/-- A 1.x operation is read from an object or an array. -/
def ApiOperation.shape : Shape ApiOperation :=
  Members.fromObjectOrArray "OperationV1" 9 <|
    ApiOperation.mk <$> .required "method" Shape.text
      <*> .optional "nickname" Shape.text
      <*> .optional "summary" Shape.text
      <*> .optional "notes" Shape.text
      <*> .defaulted "parameters" [] (.list Parameter.shape)
      <*> .optional "produces" (.list .text)
      <*> .optional "consumes" (.list .text)
      <*> .optional "authorizations" Shape.object
      <*> .optional "type" Shape.text

/-- A path of a 1.x document with its operations. -/
structure Api where
  path : String
  description : Option String
  operations : List ApiOperation
  deriving DecidableEq

/-- A path of a 1.x document is read from an object or an array. -/
def Api.shape : Shape Api :=
  Members.fromObjectOrArray "Api" 3 <|
    Api.mk <$> .required "path" Shape.text
      <*> .optional "description" Shape.text
      <*> .defaulted "operations" [] (.list ApiOperation.shape)

/-- A 1.x document. -/
structure Declaration where
  swaggerVersion : Option String
  ownDescription : Option String
  info : Option Info
  basePath : Option String
  apis : List Api
  produces : Option (List String)
  consumes : Option (List String)
  authorizations : Option Schemes
  deriving DecidableEq

namespace Declaration

/-- The members of a 1.x document. -/
def shape : Shape Declaration :=
  Members.fromObjectOrArray "SwaggerV1" 8 <|
    Declaration.mk <$> .optional "swaggerVersion" Shape.text
      <*> .optional "description" Shape.text
      <*> .optional "info" Info.shape
      <*> .optional "basePath" Shape.text
      <*> .required "apis" (.list Api.shape)
      <*> .optional "produces" (.list .text)
      <*> .optional "consumes" (.list .text)
      <*> .optional "authorizations" (.map SecurityScheme.shape)

/-- The description of a 1.x document, else that of its info. -/
def description (d : Declaration) : Option String :=
  d.ownDescription <|> d.info.bind Info.description

end Declaration

end ApiBindings.Document

namespace ApiBindings

open ApiBindings.Json ApiBindings.Document

/-! ## Documents of either version -/

/-- A Swagger document. -/
inductive Document where
  | declaration (d : Declaration)
  | specification (s : Specification)
  deriving DecidableEq

namespace Document

/-- Whether a value declares version 2.0. -/
def isVersionTwo (v : Value) : Bool := v.get? "swagger" == some (.string "2.0")

/-- A document is read by the version it declares. -/
def shape : Shape Document := fun v =>
  if isVersionTwo v then (Specification.shape v).map .specification
  else (Declaration.shape v).map .declaration

/-- The version that a document declares. -/
def version : Document → Option String
  | .declaration d => d.swaggerVersion
  | .specification s => some s.swagger

end Document

end ApiBindings
