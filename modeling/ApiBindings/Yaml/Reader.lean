import ApiBindings.Json.Value
import ApiBindings.Yaml.Reading

/-!
# Reading YAML

What a node holds: a text, something that may be left out, a sequence, a record, one of several names,
or any value. Nesting is bounded.
-/

namespace ApiBindings.Yaml

open ApiBindings.Json (Value Entries)

namespace Reading

/-! ## Plain nodes -/

/-- The text of a scalar, of whatever type. -/
def text (expected : String) (path : Path) : Reading String :=
  resolved path fun event _ =>
    match event with
    | .scalar text _ _ => return text
    | _ => throw (wrongKind event expected)

/-- Whether a node that may be left out is there; one that is not is passed. -/
def isPresent : Reading Bool := do
  let (event, _) ← peek
  let judge (event : Event) : Reading Bool := do
    match event with
    | .scalar text tag isPlain =>
      if !isPlain then return true
      else match tag with
        | none => return !(text.isEmpty || isNull text)
        | some t =>
          if t = coreTag "null" then
            if isNull text then return false
            else throw (.mismatch ("invalid value: string " ++ Text.cited text ++ ", expected null") none)
          else return true
    | .void => return false
    | _ => return true
  let present ← match event with
    | .alias anchor => do
      let before ← get
      let present ← atAnchor anchor (do judge (← peek).1)
      set before
      pure present
    | _ => judge event
  if !present then skip
  return present

/-- A node that may be left out. -/
def optional {α : Type} (step : Reading α) : Reading (Option α) := do
  if ← isPresent then return some (← step) else return none

/-- A node is passed with all that belongs to it. -/
def ignore : Reading Unit := do
  let mut depth := 0
  for _ in [0:(← read).list.size + 1] do
    match (← next).1 with
    | .sequenceStart _ => depth := depth + 1
    | .mappingStart _ => depth := depth + 1
    | .sequenceEnd => depth := depth - 1
    | .mappingEnd => depth := depth - 1
    | _ => pure ()
    if depth == 0 then break

/-- The steps that the loop over a collection can take. -/
def loopBound : Reading Nat := do return (← read).list.size + 1

/-- The items of a sequence from an index on, in at most `fuel` steps. -/
def itemsWith {α : Type} (item : Path → Reading α) (path : Path) : Nat → Nat → Reading (List α)
  | 0, _ => return []
  | fuel + 1, index => do
    match (← peek).1 with
    | .sequenceEnd =>
      skip
      return []
    | _ =>
      let a ← item (.item path index)
      return a :: (← itemsWith item path fuel (index + 1))

/-- A sequence; where nothing stands it is empty. -/
def sequence {α : Type} (item : Path → Reading α) (path : Path) : Reading (List α) := do
  let bound ← loopBound
  resolved path fun event _ =>
    match event with
    | .sequenceStart _ => itemsWith item path bound 0
    | _ => if isAbsent event then return [] else throw (wrongKind event "a sequence")

/-- The members of a mapping, in at most `fuel` steps. A step takes what is known so far, a key and the
way to its value. -/
def membersWith {σ : Type} (member : σ → String → Path → Reading σ) (path : Path) : Nat → σ → Reading σ
  | 0, known => return known
  | fuel + 1, known => do
    match (← peek).1 with
    | .mappingEnd =>
      skip
      return known
    | event =>
      let key ← text "field identifier" path
      let below := match event with
        | .scalar key _ _ => Path.member path key
        | _ => .unnamed path
      membersWith member path fuel (← member known key below)

/-- A record that is read member by member; where nothing stands it has none. -/
def record {σ : Type} (name : String) (empty : σ) (member : σ → String → Path → Reading σ) (path : Path) :
    Reading σ := do
  let bound ← loopBound
  resolved path fun event _ =>
    match event with
    | .mappingStart _ => membersWith member path bound empty
    | _ => if isAbsent event then return empty else throw (wrongKind event ("struct " ++ name))

/-- What is read under a tag that names a variant: nothing. -/
def unitUnderTag (path : Path) : Reading Unit :=
  resolved path fun event _ =>
    match event with
    | .scalar text _ isPlain =>
      if isPlain && (text.isEmpty || isNull text) then return ()
      else throw (.mismatch ("invalid value: string " ++ Text.cited text ++ ", expected null") none)
    | .void => return ()
    | _ => throw (wrongKind event "unit")

/-- The failure over a name that is none of the variants. -/
def unknownVariant (name : String) (variants : List String) : Failure :=
  .mismatch ("unknown variant `" ++ name ++ "`, expected " ++
    " or ".intercalate (variants.map fun v => "`" ++ v ++ "`")) none

/-- One of several names, given as a scalar or as a tag with nothing under it. -/
def variant {α : Type} (variants : List (String × α)) (path : Path) : Reading α := do
  let choose (name : String) : Reading α :=
    match variants.lookup name with
    | some a => return a
    | none => throw (unknownVariant name (variants.map (·.1)))
  let (event, mark) ← peek
  let here (event : Event) (mark : Mark) : Reading α := do
    let tagged (name : String) : Reading α := do
      let a ← choose name
      unitUnderTag path
      return a
    match event with
    | .scalar _ tag _ =>
      match ownTag? tag with
      | some name => tagged name
      | none => placed path mark (resolved path fun event _ =>
        match event with
        | .scalar name _ _ => choose name
        | _ => throw (wrongKind event "variant identifier"))
    | .sequenceStart tag =>
      match ownTag? tag with
      | some name => tagged name
      | none => placed path mark (throw (wrongKind event "a YAML tag starting with '!'"))
    | .mappingStart tag =>
      match ownTag? tag with
      | some name => tagged name
      | none => placed path mark (throw (wrongKind event "a YAML tag starting with '!'"))
    | _ => throw .endOfStream
  match event with
  | .alias anchor =>
    skip
    placed path mark (atAnchor anchor (do
      let (event, mark) ← peek
      here event mark))
  | _ => here event mark

/-! ## Values -/

/-- A scalar as a value; what is no finite number becomes null. -/
def scalarValue (text : String) (tag : Option Octets) (isPlain : Bool) : Reading Value :=
  match scalarOf text tag isPlain with
  | .error message => throw (.mismatch message none)
  | .ok s => match s with
    | .null => return .null
    | .bool b => return .bool b
    | .int n => return .int n
    | .wide _ => throw (.mismatch "JSON number out of range" none)
    | .real x => return .real x
    | .infinite _ => return .null
    | .notNumber => return .null
    | .text => return .string text

/-- The failure over a node with a tag of the document's own. -/
def taggedValue : Failure := .mismatch "invalid type: enum, expected any valid JSON value" none

mutual

/-- A node as a value, under `depth` further levels, in at most `fuel` steps. -/
def valueIn : Nat → Path → Nat → Reading Value
  | 0, _, _ => throw .endOfStream
  | fuel + 1, path, depth => do
    let (event, mark) ← next
    placed path mark <|
      match event with
      | .alias anchor => atAnchor anchor (valueIn fuel path depth)
      | .scalar text tag isPlain =>
        if (ownTag? tag).isSome then throw taggedValue else scalarValue text tag isPlain
      | .sequenceStart tag => do
        if (ownTag? tag).isSome then throw taggedValue
        if depth == 0 then throw (.tooDeep mark)
        return .array (← itemsIn fuel path (depth - 1) 0)
      | .mappingStart tag => do
        if (ownTag? tag).isSome then throw taggedValue
        if depth == 0 then throw (.tooDeep mark)
        return .object (Entries.settled (← entriesIn fuel path (depth - 1)))
      | .void => return .null
      | _ => throw .endOfStream

/-- The items of a sequence from an index on. -/
def itemsIn : Nat → Path → Nat → Nat → Reading (List Value)
  | 0, _, _, _ => throw .endOfStream
  | fuel + 1, path, depth, index => do
    match (← peek).1 with
    | .sequenceEnd =>
      skip
      return []
    | _ =>
      let v ← valueIn fuel (.item path index) depth
      return v :: (← itemsIn fuel path depth (index + 1))

/-- The entries of a mapping; a key is the text of a scalar, of whatever type. -/
def entriesIn : Nat → Path → Nat → Reading (List (String × Value))
  | 0, _, _ => throw .endOfStream
  | fuel + 1, path, depth => do
    match (← peek).1 with
    | .mappingEnd =>
      skip
      return []
    | event =>
      let key ← text "a string key" path
      let below := match event with
        | .scalar key _ _ => Path.member path key
        | _ => .unnamed path
      let v ← valueIn fuel below depth
      return (key, v) :: (← entriesIn fuel path depth)

end

/-- A node as a value. -/
def value (path : Path) (depth : Nat) : Reading Value := do
  valueIn ((depthLimit + 2) * ((← read).list.size + 3)) path depth

end Reading

/-! ## Texts -/

/-- What a step reads from a text, which has to hold one document at most. -/
def readAs {α : Type} (step : Reading α) (text : String) : Except Failure α := do
  let events := eventsOf text
  let (a, _) ← (step.run events).run ⟨0, 0⟩
  match events.fault with
  | some f => throw (.fault f)
  | none => if events.hasMore then throw .moreDocuments else return a

/-- The value that a text holds. -/
def read (text : String) : Except Failure Value := readAs (Reading.value .root Reading.depthLimit) text

end ApiBindings.Yaml
