import ApiBindings.Naming
import ApiBindings.View.Options

/-!
# Views of parameters

A parameter with the flags that templates branch on, and the index of a method's parameters by
location.
-/

namespace ApiBindings.View

open ApiBindings.Json ApiBindings.Document

/-! ## One parameter -/

/-- A parameter enriched for templates. -/
structure ParameterView where
  parameter : Parameter
  location : Option Location
  camelCaseName : String
  isBodyParameter : Bool
  isPathParameter : Bool
  isQueryParameter : Bool
  isHeaderParameter : Bool
  isFormParameter : Bool
  isSingleton : Bool
  singleton : Option Value
  isPatternType : Bool
  pattern : Option String
  cardinality : String
  notFirstParameter : Bool
  notFirstByIn : Bool
  computed : Computed
  deriving DecidableEq, Inhabited

namespace ParameterView

/-- The view of a parameter at a location, before its place among others is known. A pattern counts in
a query only, and takes the place of a declared `pattern`. The cardinality is the question mark of a
parameter that need not be given. -/
def of (p : Parameter) (location : Option Location) (computed : Computed) : ParameterView :=
  let pattern := if location = some .query then p.namePattern else none
  { parameter := if pattern.isSome then { p with others := Entries.without p.others "pattern" } else p
    location
    camelCaseName := ApiBindings.camelCaseName p.name
    isBodyParameter := location == some .body
    isPathParameter := location == some .path
    isQueryParameter := location == some .query
    isHeaderParameter := location == some .header
    isFormParameter := location == some .formData
    isSingleton := p.singleton?.isSome
    singleton := p.singleton?
    isPatternType := pattern.isSome
    pattern
    cardinality := if p.required then "" else "?"
    notFirstParameter := false
    notFirstByIn := false
    computed }

/-- The entry of a flag that is written only where it is set. -/
def flagEntry (key : String) (b : Bool) : Entries := if b then [(key, .bool true)] else []

/-- The entries that a view adds to those of its parameter. -/
def addedEntries (v : ParameterView) : Entries :=
  ("camelCaseName", .string v.camelCaseName) ::
    flagEntry "isBodyParameter" v.isBodyParameter ++
    flagEntry "isPathParameter" v.isPathParameter ++
    flagEntry "isQueryParameter" v.isQueryParameter ++
    flagEntry "isHeaderParameter" v.isHeaderParameter ++
    flagEntry "isFormParameter" v.isFormParameter ++
    flagEntry "isSingleton" v.isSingleton ++
    Document.Parameter.entry? "singleton" id v.singleton ++
    flagEntry "isPatternType" v.isPatternType ++
    Document.Parameter.entry? "pattern" .string v.pattern ++
    ("cardinality", .string v.cardinality) ::
    flagEntry "notFirstParameter" v.notFirstParameter ++
    flagEntry "notFirstByIn" v.notFirstByIn ++
    v.computed.toEntries

/-- The view as JSON: the parameter's entries, then what the view adds. A key may stand there twice. -/
def toJson (v : ParameterView) : Value := .object (v.parameter.toEntries ++ v.addedEntries)

end ParameterView

/-- A parameter put at the end of a list; all but the first are marked. -/
def pushParameter (list : List ParameterView) (v : ParameterView) : List ParameterView :=
  list ++ [{ v with notFirstParameter := !list.isEmpty }]

/-! ## Index by location -/

/-- Parameters by location, in order, with a flag for each location at which there are any. -/
structure ByIn where
  body : List ParameterView
  path : List ParameterView
  query : List ParameterView
  header : List ParameterView
  formData : List ParameterView
  hasBody : Bool
  hasPath : Bool
  hasQuery : Bool
  hasHeader : Bool
  hasFormData : Bool
  hasQueryAndBody : Bool
  deriving DecidableEq, Inhabited

namespace ByIn

/-- The index of no parameters. -/
def empty : ByIn := ⟨[], [], [], [], [], false, false, false, false, false, false⟩

/-- The parameters at a location. -/
def bucket (b : ByIn) : Location → List ParameterView
  | .body => b.body
  | .path => b.path
  | .query => b.query
  | .header => b.header
  | .formData => b.formData

/-- The flag of a location. -/
def has (b : ByIn) : Location → Bool
  | .body => b.hasBody
  | .path => b.hasPath
  | .query => b.hasQuery
  | .header => b.hasHeader
  | .formData => b.hasFormData

/-- The index with one more parameter at a location, whose flag is set. -/
def push (b : ByIn) (l : Location) (v : ParameterView) : ByIn :=
  match l with
  | .body => { b with body := b.body ++ [v], hasBody := true }
  | .path => { b with path := b.path ++ [v], hasPath := true }
  | .query => { b with query := b.query ++ [v], hasQuery := true }
  | .header => { b with header := b.header ++ [v], hasHeader := true }
  | .formData => { b with formData := b.formData ++ [v], hasFormData := true }

/-- The entry of a list that is written only where it holds something. -/
def listEntry (key : String) (list : List ParameterView) : Entries :=
  if list.isEmpty then [] else [(key, .array (list.map ParameterView.toJson))]

/-- The index as JSON. -/
def toJson (b : ByIn) : Value :=
  .object (listEntry "body" b.body ++ listEntry "path" b.path ++ listEntry "query" b.query ++
    listEntry "header" b.header ++ listEntry "formData" b.formData ++
    [("hasBody", .bool b.hasBody), ("hasPath", .bool b.hasPath), ("hasQuery", .bool b.hasQuery),
      ("hasHeader", .bool b.hasHeader), ("hasFormData", .bool b.hasFormData),
      ("hasQueryAndBody", .bool b.hasQueryAndBody)])

end ByIn

/-- Parameters entered into an index, each marked if its location is taken. The parameters come back
with their marks; those without a location are left as they are and enter nothing. -/
def enterParameters (b : ByIn) : List ParameterView → List ParameterView × ByIn
  | [] => ([], b)
  | v :: rest =>
    match v.location with
    | none =>
      let (marked, b) := enterParameters b rest
      (v :: marked, b)
    | some l =>
      let v := { v with notFirstByIn := b.has l }
      let (marked, b) := enterParameters (b.push l v) rest
      (v :: marked, b)

/-- The parameters of a method marked by location, and their index. -/
def sortByIn (list : List ParameterView) : List ParameterView × ByIn :=
  let (marked, b) := enterParameters .empty list
  (marked, { b with hasQueryAndBody := b.hasQuery && b.hasBody })

/-- The parameters of a method from their views: put in a list one after the other, then marked by location. -/
def placeParameters (views : List ParameterView) : List ParameterView × ByIn :=
  sortByIn (views.foldl pushParameter [])

end ApiBindings.View
