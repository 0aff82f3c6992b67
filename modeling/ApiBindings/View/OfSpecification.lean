import ApiBindings.View.Model

/-!
# Views of 2.0 documents

The operations of a document are walked in document order. A method's content depends on its operation
and the document alone; the walk adds the name that is still free, the marks of place, and the tag
group.
-/

namespace ApiBindings.View

open ApiBindings.Json ApiBindings.Document

/-- Why no view can be built: a reference to a shared parameter that is not there. -/
structure UnresolvedReference where
  target : String
  deriving DecidableEq, Repr

/-- The wording of an unresolved reference. -/
def UnresolvedReference.message (e : UnresolvedReference) : String :=
  "unresolved parameter reference: " ++ e.target

/-! ## Parameters -/

/-- The name of the shared parameter that a reference names: the whole of it where there is no slash,
else the third of the pieces between slashes. -/
def sharedParameterName (target : String) : String :=
  match Text.pieces (· = '/') target.toList with
  | [whole] => String.ofList whole
  | _ :: _ :: name :: _ => String.ofList name
  | _ => ""

/-- The parameter that an entry stands for. -/
def resolve (s : Specification) : ParameterEntry → Except UnresolvedReference Parameter
  | .inline p => .ok p
  | .reference target _ _ =>
    match s.parameters.lookup (sharedParameterName target) with
    | some p => .ok p
    | none => .error ⟨target⟩

/-- The entries that apply to an operation: its own, then those of its path. -/
def entriesOf (item : PathItem) (op : Operation) : List ParameterEntry :=
  op.parameters ++ item.parameters

/-- The parameter of an entry, unless entry or parameter are left out of the bindings. -/
def boundParameter? (s : Specification) (entry : ParameterEntry) :
    Except UnresolvedReference (Option Parameter) :=
  if entry.isSkipped then .ok none
  else (resolve s entry).map fun p => if p.isSkipped then none else some p

/-- The parameters of the bindings of an operation. -/
def boundParameters (s : Specification) (item : PathItem) (op : Operation) :
    Except UnresolvedReference (List Parameter) :=
  ((entriesOf item op).mapM (boundParameter? s)).map fun bound => bound.filterMap id

/-- The view of a parameter of a 2.0 document. -/
def specificationParameter (s : Specification) (o : Options) (p : Parameter) : ParameterView :=
  .of p (p.place.bind Location.ofIn) (o.computed s (.parameter p))

/-! ## Headers, responses and names -/

/-- The headers of an operation; its own lists count before those of the document. -/
def headersOf (s : Specification) (op : Operation) : List Header :=
  let accept := (op.produces <|> s.produces).map fun types =>
    (⟨"Accept", "'" ++ ", ".intercalate types ++ "'"⟩ : Header)
  let content := (op.consumes <|> s.consumes).map fun types =>
    (⟨"Content-Type", "'" ++ ",".intercalate types ++ "'"⟩ : Header)
  accept.toList ++ content.toList

/-- The responses of an operation so far, and what it returns by them, after one more response. The first
successful response with a schema decides. -/
def recordResponse (s : Specification) (o : Options) (seen : List ResponseView × Option ReturnView)
    (r : String × Response) : List ResponseView × Option ReturnView :=
  let returns :=
    if seen.2.isSome || !isSuccess r.1 then seen.2
    else r.2.schema.map fun schema => .schema schema (o.computed s (.schema schema))
  (seen.1 ++ [⟨r.1, r.2⟩], returns)

/-- The responses of an operation in order, and what it returns: a schema of its own, else the default type. -/
def responsesOf (s : Specification) (o : Options) (op : Operation) : List ResponseView × Option ReturnView :=
  let (responses, returns) := op.responses.foldl (recordResponse s o) ([], none)
  (responses, returns <|> o.defaultType.map .default)

/-- The name that is asked for an operation. -/
def requestedName (path : String) (verb : Verb) (op : Operation) : String :=
  match op.operationId with
  | some id => normalizedName id
  | none => pathName verb.name path

/-- The group of methods without tags. -/
def untagged : String := "none"

/-- The name of the group of a list of tags. -/
def groupName (tags : List String) : String :=
  if tags.isEmpty then untagged else ",".intercalate tags

/-! ## Methods -/

/-- An operation with the path and the path item it stands under. -/
structure Endpoint where
  path : String
  item : PathItem
  verb : Verb
  operation : Operation

/-- The operations of a document in document order. -/
def endpoints (s : Specification) : List Endpoint :=
  s.paths.flatMap fun (path, item) => item.operations.map fun (verb, op) => ⟨path, item, verb, op⟩

/-- The method of an endpoint under a name and with certain parameters, before its place in the walk is
known. -/
def methodWith (s : Specification) (o : Options) (e : Endpoint) (name : String) (bound : List Parameter) : Method :=
  let op := e.operation
  let (parameters, byIn) := placeParameters (bound.map (specificationParameter s o))
  let (responses, returns) := responsesOf s o op
  { path := e.path
    className := o.className
    methodName := name
    verb := e.verb.name
    summary := op.description <|> op.summary
    externalDocs := op.externalDocs
    deprecated := op.deprecated.getD false
    isSecure := s.isSecured op
    security := s.flagsOf op
    parameters
    byIn
    headers := headersOf s op
    returns
    tags := op.tags
    tagGroup := some (groupName op.tags)
    responses }

/-- The method of an endpoint under a name, where all of its references can be resolved. -/
def methodOf (s : Specification) (o : Options) (e : Endpoint) (name : String) : Except UnresolvedReference Method :=
  (boundParameters s e.item e.operation).map (methodWith s o e name)

/-! ## The walk -/

/-- What is known after some endpoints of the walk; the groups stand under the names of their keys. -/
structure Walk where
  names : List String := []
  methods : List Method := []
  groups : List (String × TagGroup) := []
  security : SecurityFlags := .none
  lastPath : Option String := none

/-- A method added to the group under a key. -/
def addToGroup (key : String) (m : Method) : List (String × TagGroup) → List (String × TagGroup)
  | [] => []
  | (k, g) :: rest =>
    if k = key then (k, { g with methods := g.methods ++ [m] }) :: rest else (k, g) :: addToGroup key m rest

/-- A method put under its key: a copy of it, marked, into the group that is there, else into a new group
at the end, with the tags of the method as the document describes them. -/
def insertMethod (s : Specification) (key : String) (m : Method) (groups : List (String × TagGroup)) :
    Method × List (String × TagGroup) :=
  match groups.lookup key with
  | some _ =>
    let m := { m with notFirstByTag := true }
    (m, addToGroup key m groups)
  | none => (m, groups ++ [(key, ⟨key, m.tags.filterMap s.tag?, [m]⟩)])

/-- The walk after one more method. -/
def Walk.push (s : Specification) (w : Walk) (m : Method) : Walk :=
  let m := { m with isFirstPath := w.lastPath != some m.path, notFirstMethod := !w.methods.isEmpty }
  let (m, groups) := insertMethod s (m.tagGroup.getD untagged) m w.groups
  { w with
    methods := w.methods ++ [m]
    groups
    security := w.security.union m.security
    lastPath := some m.path }

/-- The walk after one more endpoint, whose method takes a name that is still free. -/
def Walk.step (s : Specification) (o : Options) (w : Walk) (e : Endpoint) : Except UnresolvedReference Walk := do
  let (name, names) := claim w.names (requestedName e.path e.verb e.operation)
  let m ← methodOf s o e name
  return { w with names }.push s m

/-- The walk over the endpoints of a document. -/
def walk (s : Specification) (o : Options) : Except UnresolvedReference Walk :=
  (endpoints s).foldlM (Walk.step s o) {}

/-! ## Definitions and the model -/

/-- The view of a property of a definition; one that is no object has no type. -/
def propertyView (s : Specification) (o : Options) (name : String) (schema : Value) : PropertyView :=
  ⟨name, schema, match schema with
    | .object entries => o.computed s (.schema entries)
    | _ => o.untyped⟩

/-- The view of a definition. -/
def definitionView (s : Specification) (o : Options) (name : String) (schema : Entries) : DefinitionView where
  name
  description := (Entries.find? schema "description").bind Value.text?
  properties := ((Entries.find? schema "properties").bind Value.entries?).map fun ps =>
    ps.map fun (name, schema) => propertyView s o name schema
  computed := o.computed s (.schema schema)

/-- The view model of a 2.0 document after its walk. -/
def modelOf (s : Specification) (o : Options) (w : Walk) : Model where
  description := s.info.description
  moduleName := o.moduleName
  className := o.className
  imports := o.imports
  domain := s.domain
  isSecure := s.securityDefinitions.isSome
  security := w.security
  methods := w.methods
  definitions := s.definitions.map fun (name, schema) => definitionView s o name schema
  specification := some {
    byTags := w.groups.map (·.2)
    hasTags := w.methods.any fun m => !m.tags.isEmpty
    info := s.info
    host := s.host
    basePath := s.basePath
    tags := s.tags
    schemes := s.schemes }

/-- The view model of a 2.0 document. -/
def ofSpecification (s : Specification) (o : Options) : Except UnresolvedReference Model :=
  (walk s o).map (modelOf s o)

end ApiBindings.View
