import ApiBindings.View.Model

/-!
# Views of 1.x documents

These documents have no responses by status, no tags and no shared definitions, so methods have neither
a type to return nor a group. Operations of the verb `OPTIONS` are passed over.
-/

namespace ApiBindings.View

open ApiBindings.Json ApiBindings.Document

/-- Whether an operation is passed over: one of the verb `OPTIONS`, in whatever case. -/
def isPassedOver (op : ApiOperation) : Bool := sameUpToCase op.method "OPTIONS"

/-- The name that is asked for an operation. -/
def requestedApiName (api : Api) (op : ApiOperation) : String :=
  match op.nickname with
  | some nickname => normalizedName nickname
  | none => pathName op.method api.path

/-- The view of a parameter of a 1.x document. -/
def declarationParameter (o : Options) (p : Parameter) : ParameterView :=
  .of p (p.paramType.bind Location.ofParamType) o.untyped

/-- The header of an operation: each type it produces between quotes of its own. -/
def apiHeaders (op : ApiOperation) : List Header :=
  (op.produces.map fun types =>
    (⟨"Accept", ", ".intercalate (types.map fun t => "'" ++ t ++ "'")⟩ : Header)).toList

/-- The method of an operation under a name, before its place is known. -/
def apiMethod (d : Declaration) (o : Options) (api : Api) (op : ApiOperation) (name : String) : Method :=
  let bound := op.parameters.filter fun p => !p.isSkipped
  let (parameters, byIn) := placeParameters (bound.map (declarationParameter o))
  { path := api.path
    className := o.className
    methodName := name
    verb := String.ofList (Text.toUpper op.method.toList)
    summary := op.summary
    isSecure := op.authorizations.isSome
    security := d.flagsOf op
    parameters
    byIn
    headers := apiHeaders op }

/-! ## The walk -/

/-- What is known after some operations of the walk. -/
structure ApiWalk where
  names : List String := []
  methods : List Method := []
  security : SecurityFlags := .none

/-- The walk after one more operation, which opens its path or comes after another one of it. -/
def ApiWalk.step (d : Declaration) (o : Options) (w : ApiWalk) (api : Api) (opens : Bool) (op : ApiOperation) :
    ApiWalk :=
  let (name, names) := claim w.names (requestedApiName api op)
  let m := { apiMethod d o api op name with isFirstMethod := w.methods.isEmpty, notFirstPath := !opens }
  { names
    methods := w.methods ++ [m]
    security := w.security.union m.security }

/-- The walk over the operations of a path; the first one that is not passed over opens the path. -/
def walkOperations (d : Declaration) (o : Options) (api : Api) (opens : Bool) (w : ApiWalk) :
    List ApiOperation → ApiWalk
  | [] => w
  | op :: rest =>
    if isPassedOver op then walkOperations d o api opens w rest
    else walkOperations d o api false (w.step d o api opens op) rest

/-- The walk over the paths of a 1.x document in document order. -/
def walkDeclaration (d : Declaration) (o : Options) : ApiWalk :=
  d.apis.foldl (fun w api => walkOperations d o api true w api.operations) {}

/-- The view model of a 1.x document. -/
def ofDeclaration (d : Declaration) (o : Options) : Model :=
  let w := walkDeclaration d o
  { description := d.description
    moduleName := o.moduleName
    className := o.className
    imports := o.imports
    domain := d.basePath.getD ""
    isSecure := d.authorizations.isSome
    security := w.security
    methods := w.methods
    definitions := []
    specification := none }

end ApiBindings.View
