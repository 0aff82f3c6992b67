import ApiBindings.Decimal.Notation
import ApiBindings.Text.Quoted
import ApiBindings.Yaml.Event

/-!
# Steps of reading YAML

The events of a document are gone through one by one. A mismatch is reported with the path to the node
and the place where it stands. Aliases are followed to the events of their anchors; their number is
bounded.
-/

namespace ApiBindings.Yaml

/-! ## Failures -/

/-- The way to a node from the root of a document. -/
inductive Path where
  | root
  | item (parent : Path) (index : Nat)
  | member (parent : Path) (key : String)
  /-- A member whose key is no scalar. -/
  | unnamed (parent : Path)

namespace Path

/-- The wording of a path. -/
def text : Path → String
  | .root => "."
  | .item parent index => parent.text ++ "[" ++ toString index ++ "]"
  | .member .root key => key
  | .member parent key => parent.text ++ "." ++ key
  | .unnamed .root => "?"
  | .unnamed parent => parent.text ++ ".?"

end Path

/-- Why a text cannot be read. -/
inductive Failure where
  | fault (fault : Fault)
  | endOfStream
  | moreDocuments
  | tooDeep (mark : Mark)
  | tooManyAliases
  /-- A node that does not fit, with its way and place as soon as they are known. -/
  | mismatch (message : String) (place : Option (Path × Mark))

/-- The wording of a failure. -/
def Failure.message : Failure → String
  | .fault f => f.message
  | .endOfStream => "EOF while parsing a value"
  | .moreDocuments => "deserializing from YAML containing more than one document is not supported"
  | .tooDeep mark => "recursion limit exceeded" ++ Fault.atMark mark
  | .tooManyAliases => "repetition limit exceeded"
  | .mismatch message none => message
  | .mismatch message (some (path, mark)) =>
    (match path with
      | .root => message
      | path => path.text ++ ": " ++ message) ++ Fault.atMark mark

/-! ## Scalars -/

/-- The tags of the core schema. -/
def coreTag (name : String) : Octets := octetsOf ("tag:yaml.org,2002:" ++ name)

/-- What a scalar stands for, by its tag or, where it has none, by its text if that is plain. -/
def scalarOf (text : String) (tag : Option Octets) (isPlain : Bool) : Except String Scalar :=
  let wrong (expected : String) : Except String Scalar :=
    .error ("invalid value: string " ++ Text.cited text ++ ", expected " ++ expected)
  match tag with
  | none => .ok (if isPlain then resolve text else .text)
  | some t =>
    if t = coreTag "bool" then
      match truth? text with
      | some b => .ok (.bool b)
      | none => wrong "a boolean"
    else if t = coreTag "int" then
      match whole? text with
      | some n => .ok n
      | none => wrong "an integer"
    else if t = coreTag "float" then
      match floating? text with
      | some x => .ok x
      | none => wrong "a float"
    else if t = coreTag "null" then
      if isNull text then .ok .null else wrong "null"
    else if (octetsOf "!").isPrefixOf t && isPlain then .ok (resolve text)
    else .ok .text

/-- The name that a tag of the document's own gives: what stands behind its exclamation mark, or that mark if
it stands alone. Octets that are no text give no name. -/
def ownTag? (tag : Option Octets) : Option String :=
  match tag with
  | some (mark :: name) =>
    if mark = 0x21 then String.fromUTF8? ⟨(if name.isEmpty then [mark] else name).toArray⟩ else none
  | _ => none

/-- A scalar as a message names it. -/
def describeScalar (text : String) : Scalar → String
  | .null => "unit value"
  | .bool b => "boolean `" ++ (if b then "true" else "false") ++ "`"
  | .int n => "integer `" ++ toString n ++ "`"
  | .wide n => "integer `" ++ toString n ++ "` as " ++ (if n < 0 then "i128" else "u128")
  | .real x => "floating point `" ++ String.ofList (Decimal.Style.plain.write x) ++ "`"
  | .infinite negative => "floating point `" ++ (if negative then "-inf.0" else "inf.0") ++ "`"
  | .notNumber => "floating point `NaN.0`"
  | .text => "string " ++ Text.cited text

/-- The failure over an event of another kind than expected. -/
def wrongKind (event : Event) (expected : String) : Failure :=
  let say (found : String) : Failure :=
    .mismatch ("invalid type: " ++ found ++ ", expected " ++ expected) none
  match event with
  | .scalar text tag isPlain =>
    match scalarOf text tag isPlain with
    | .ok s => say (describeScalar text s)
    | .error message => .mismatch message none
  | .sequenceStart _ => say "sequence"
  | .mappingStart _ => say "map"
  | _ => .endOfStream

/-! ## Steps -/

/-- Where reading stands: the place among the events, and the number of aliases that were followed. -/
structure Cursor where
  position : Nat
  aliases : Nat

/-- A step of reading the events of a document. -/
abbrev Reading := ReaderT Events (StateT Cursor (Except Failure))

namespace Reading

/-- The next event, which stays. -/
def peek : Reading (Event × Mark) := do
  let events ← read
  match events.list[(← get).position]? with
  | some e => return e
  | none => throw (match events.fault with
    | some f => .fault f
    | none => .endOfStream)

/-- The next event is passed. -/
def skip : Reading Unit := modify fun c => { c with position := c.position + 1 }

/-- The next event, which is passed. -/
def next : Reading (Event × Mark) := do
  let e ← peek
  skip
  return e

/-- A mismatch of a step is placed, unless it has its place. -/
def placed {α : Type} (path : Path) (mark : Mark) (step : Reading α) : Reading α :=
  tryCatch step fun
    | .mismatch message none => throw (.mismatch message (some (path, mark)))
    | e => throw e

/-- A step at the events of an anchor, after which reading goes on behind the alias. -/
def atAnchor {α : Type} (anchor : Nat) (step : Reading α) : Reading α := do
  let events ← read
  let c ← get
  if 100 * events.list.size < c.aliases + 1 then throw .tooManyAliases
  match events.targets.lookup anchor with
  | none => throw .endOfStream
  | some target =>
    set (⟨target, c.aliases + 1⟩ : Cursor)
    let a ← step
    modify fun d => { d with position := c.position }
    return a

/-- A step on the next event, or on the one that the next event is an alias of. -/
def resolved {α : Type} (path : Path) (step : Event → Mark → Reading α) : Reading α := do
  let (event, mark) ← next
  placed path mark <|
    match event with
    | .alias anchor => atAnchor anchor do
      let (event, mark) ← next
      placed path mark (step event mark)
    | _ => step event mark

/-- Whether an event stands for nothing at all. -/
def isAbsent : Event → Bool
  | .void => true
  | .scalar text _ isPlain => text.isEmpty && isPlain
  | _ => false

/-- The number of collections that may be open. -/
def depthLimit : Nat := 128

end Reading

end ApiBindings.Yaml
