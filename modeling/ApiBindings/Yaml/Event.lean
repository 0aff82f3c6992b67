import ApiBindings.Yaml.Token.Lexer

/-!
# Events

The nodes of a document as a sequence of events: scalars, aliases, and the beginnings and ends of
collections. A fault ends the sequence and is kept beside it, for what stands before it may be read.
-/

namespace ApiBindings.Yaml

/-- An event. An alias gives the number of its anchor. -/
inductive Event where
  | alias (anchor : Nat)
  | scalar (text : String) (tag : Option Octets) (isPlain : Bool)
  | sequenceStart (tag : Option Octets)
  | sequenceEnd
  | mappingStart (tag : Option Octets)
  | mappingEnd
  /-- What stands for a document in a text that holds none. -/
  | void
  deriving DecidableEq, Repr, Inhabited

/-- The first document of a text. -/
structure Events where
  list : Array (Event × Mark)
  /-- The place among the events that each anchor number stands for, latest first. -/
  targets : List (Nat × Nat)
  fault : Option Fault
  /-- Whether something follows the document. -/
  hasMore : Bool

/-- What is known while tokens are made events. -/
structure Grammar where
  tokens : List Token
  stop : Option Fault
  events : Array (Event × Mark)
  anchors : List (String × Nat)
  targets : List (Nat × Nat)
  handles : List (String × Octets)

/-- A step of the grammar; the events before a fault are kept. -/
abbrev Parsing := ExceptT Fault (StateM Grammar)

namespace Parsing

/-! ## Tokens and events -/

/-- The next token, which stays. -/
def peek : Parsing Token := do
  let g ← get
  match g.tokens with
  | t :: _ => return t
  | [] => throw (g.stop.getD (.grammar "did not find expected node content" .start none))

/-- The next token is passed. -/
def skip : Parsing Unit := modify fun g => { g with tokens := g.tokens.drop 1 }

/-- The kind of the next token, after the current one is passed. -/
def skipAndPeek : Parsing TokenKind := do
  skip
  return (← peek).kind

/-- One more event. -/
def emit (event : Event) (mark : Mark) : Parsing Unit :=
  modify fun g => { g with events := g.events.push (event, mark) }

/-- A scalar that is not there. -/
def emptyScalar (mark : Mark) : Parsing Unit := emit (.scalar "" none true) mark

/-- The next event gets an anchor, if there is one. An anchor whose name is taken gets a number, but
does not count for the numbers of later ones. -/
def setAnchor (name : Option String) : Parsing Unit := do
  match name with
  | none => return ()
  | some name =>
    modify fun g =>
      let number := g.anchors.length
      { g with
        anchors := (name, number) :: g.anchors.filter (·.1 ≠ name)
        targets := (number, g.events.size) :: g.targets }

/-- Failure at a place, while a node that began at another place was read. -/
def failIn {α : Type} (context : String) (start : Mark) (problem : String) (mark : Mark) : Parsing α :=
  throw (.grammar problem mark (some (context, some start)))

/-! ## Properties of nodes -/

/-- What may stand before a node. -/
structure Properties where
  anchor : Option String
  tag : Option Octets
  first : Mark

/-- The tag that a handle and a suffix stand for. -/
def expandTag (handle : String) (suffix : Octets) (start mark : Mark) : Parsing Octets := do
  if handle.isEmpty then return suffix
  match (← get).handles.lookup handle with
  | some value => return value ++ suffix
  | none => failIn "while parsing a node" start "found undefined tag handle" mark

/-- Anchor and tag of a node, in either order. -/
def properties : Parsing Properties := do
  let t ← peek
  match t.kind with
  | .anchor name =>
    skip
    let u ← peek
    match u.kind with
    | .tag handle suffix =>
      skip
      let _ ← peek
      return ⟨some name, some (← expandTag handle suffix t.first u.first), t.first⟩
    | _ => return ⟨some name, none, t.first⟩
  | .tag handle suffix =>
    skip
    let u ← peek
    let name ← match u.kind with
      | .anchor name => do
        skip
        let _ ← peek
        pure (some name)
      | _ => pure none
    return ⟨name, some (← expandTag handle suffix t.first t.first), t.first⟩
  | _ => return ⟨none, none, t.first⟩

/-! ## Nodes -/

/-- The tokens after which a node of a block mapping is missing. -/
def endsMappingNode (k : TokenKind) : Bool := k == .key || k == .value || k == .blockEnd

/-- A node of which there is nothing but its properties. -/
def missing (p : Properties) (u : Token) (isBlock : Bool) : Parsing Unit := do
  if p.anchor.isSome || p.tag.isSome then
    setAnchor p.anchor
    emit (.scalar "" p.tag true) p.first
  else
    failIn (if isBlock then "while parsing a block node" else "while parsing a flow node") p.first
      "did not find expected node content" u.first

mutual

/-- A node, which may be a block collection, or a sequence at the level of its key. -/
def node : Nat → Bool → Bool → Parsing Unit
  | 0, _, _ => throw (.grammar "did not find expected node content" .start none)
  | fuel + 1, isBlock, mayBeIndentless => do
    let t ← peek
    match t.kind with
    | .alias name =>
      match (← get).anchors.lookup name with
      | some number =>
        emit (.alias number) t.first
        skip
      | none => throw (.unknownAnchor t.first)
    | _ =>
      let p ← properties
      let u ← peek
      if mayBeIndentless && u.kind == .blockEntry then
        setAnchor p.anchor
        emit (.sequenceStart p.tag) p.first
        indentlessSequence fuel
      else match u.kind with
        | .scalar text isPlain =>
          setAnchor p.anchor
          emit (.scalar text p.tag isPlain) p.first
          skip
        | .flowSequenceStart =>
          setAnchor p.anchor
          emit (.sequenceStart p.tag) p.first
          skip
          flowSequence fuel u.first true
        | .flowMappingStart =>
          setAnchor p.anchor
          emit (.mappingStart p.tag) p.first
          skip
          flowMapping fuel u.first true
        | .blockSequenceStart =>
          if isBlock then
            setAnchor p.anchor
            emit (.sequenceStart p.tag) p.first
            skip
            blockSequence fuel u.first
          else missing p u isBlock
        | .blockMappingStart =>
          if isBlock then
            setAnchor p.anchor
            emit (.mappingStart p.tag) p.first
            skip
            blockMapping fuel u.first
          else missing p u isBlock
        | _ => missing p u isBlock

/-- The entries of a block sequence that began at a place. -/
def blockSequence : Nat → Mark → Parsing Unit
  | 0, _ => return ()
  | fuel + 1, start => do
    let t ← peek
    match t.kind with
    | .blockEntry =>
      let k ← skipAndPeek
      if k == .blockEntry || k == .blockEnd then emptyScalar t.last
      else node fuel true false
      blockSequence fuel start
    | .blockEnd =>
      emit .sequenceEnd t.first
      skip
    | _ => failIn "while parsing a block collection" start "did not find expected '-' indicator" t.first

/-- The entries of a sequence at the level of its key. -/
def indentlessSequence : Nat → Parsing Unit
  | 0 => return ()
  | fuel + 1 => do
    let t ← peek
    match t.kind with
    | .blockEntry =>
      let k ← skipAndPeek
      if k == .blockEntry || endsMappingNode k then emptyScalar t.last
      else node fuel true false
      indentlessSequence fuel
    | _ => emit .sequenceEnd t.first

/-- The entries of a block mapping that began at a place. -/
def blockMapping : Nat → Mark → Parsing Unit
  | 0, _ => return ()
  | fuel + 1, start => do
    let t ← peek
    match t.kind with
    | .key =>
      let k ← skipAndPeek
      if endsMappingNode k then emptyScalar t.last
      else node fuel true true
      let v ← peek
      match v.kind with
      | .value =>
        let k ← skipAndPeek
        if endsMappingNode k then emptyScalar v.last
        else node fuel true true
      | _ => emptyScalar v.first
      blockMapping fuel start
    | .blockEnd =>
      emit .mappingEnd t.first
      skip
    | _ => failIn "while parsing a block mapping" start "did not find expected key" t.first

/-- The entries of a flow sequence that began at a place. -/
def flowSequence : Nat → Mark → Bool → Parsing Unit
  | 0, _, _ => return ()
  | fuel + 1, start, isFirst => do
    let t ← peek
    if t.kind ≠ .flowSequenceEnd && !isFirst then
      if t.kind == .flowEntry then skip
      else failIn "while parsing a flow sequence" start "did not find expected ',' or ']'" t.first
    let t ← peek
    match t.kind with
    | .flowSequenceEnd =>
      emit .sequenceEnd t.first
      skip
    | .key =>
      emit (.mappingStart none) t.first
      skip
      flowPair fuel
      flowSequence fuel start false
    | _ =>
      node fuel false false
      flowSequence fuel start false

/-- The one entry of a mapping that stands in a flow sequence without braces. -/
def flowPair : Nat → Parsing Unit
  | 0 => return ()
  | fuel + 1 => do
    let t ← peek
    match t.kind with
    | .value | .flowEntry | .flowSequenceEnd =>
      skip
      emptyScalar t.last
    | _ => node fuel false false
    let v ← peek
    match v.kind with
    | .value =>
      skip
      let u ← peek
      if u.kind == .flowEntry || u.kind == .flowSequenceEnd then emptyScalar u.first
      else node fuel false false
    | _ => emptyScalar v.first
    emit .mappingEnd (← peek).first

/-- The entries of a flow mapping that began at a place. -/
def flowMapping : Nat → Mark → Bool → Parsing Unit
  | 0, _, _ => return ()
  | fuel + 1, start, isFirst => do
    let t ← peek
    if t.kind ≠ .flowMappingEnd && !isFirst then
      if t.kind == .flowEntry then skip
      else failIn "while parsing a flow mapping" start "did not find expected ',' or '\x7d'" t.first
    let t ← peek
    match t.kind with
    | .flowMappingEnd =>
      emit .mappingEnd t.first
      skip
    | .key =>
      skip
      let u ← peek
      if u.kind == .value || u.kind == .flowEntry || u.kind == .flowMappingEnd then emptyScalar u.first
      else node fuel false false
      let v ← peek
      match v.kind with
      | .value =>
        skip
        let u ← peek
        if u.kind == .flowEntry || u.kind == .flowMappingEnd then emptyScalar u.first
        else node fuel false false
      | _ => emptyScalar v.first
      flowMapping fuel start false
    | _ =>
      node fuel false false
      emptyScalar (← peek).first
      flowMapping fuel start false

end

/-! ## Documents -/

/-- The handles that need no directive. -/
def defaultHandles : List (String × Octets) := [("!", octetsOf "!"), ("!!", octetsOf "tag:yaml.org,2002:")]

/-- The directives before a document; `versioned` says that a version was given. -/
def directives : Nat → Bool → Parsing Unit
  | 0, _ => return ()
  | fuel + 1, versioned => do
    let t ← peek
    match t.kind with
    | .version major minor =>
      if versioned then throw (.grammar "found duplicate %YAML directive" t.first none)
      if major ≠ 1 || (minor ≠ 1 && minor ≠ 2) then
        throw (.grammar "found incompatible YAML document" t.first none)
      skip
      directives fuel true
    | .tagDirective handle value =>
      if ((← get).handles.lookup handle).isSome then
        throw (.grammar "found duplicate %TAG directive" t.first none)
      modify fun g => { g with handles := g.handles ++ [(handle, value)] }
      skip
      directives fuel versioned
    | _ => modify fun g => { g with handles := g.handles ++ defaultHandles }

/-- The first document of a text, if it holds one. -/
def document (fuel : Nat) : Parsing Unit := do
  skip
  let t ← peek
  match t.kind with
  | .streamEnd => emit .void t.first
  | .version .. | .tagDirective .. | .documentStart =>
    directives fuel false
    let t ← peek
    if t.kind ≠ .documentStart then
      throw (.grammar "did not find expected <document start>" t.first none)
    skip
    let t ← peek
    match t.kind with
    | .version .. | .tagDirective .. | .documentStart | .documentEnd | .streamEnd => emptyScalar t.first
    | _ => node fuel true false
  | _ =>
    directives fuel false
    node fuel true false
  let _ ← peek

end Parsing

/-- The first document of a text. -/
def eventsOf (text : String) : Events :=
  let (tokens, stop) := tokensOf text
  let fuel := 4 * tokens.length + 8
  let (result, g) := ((Parsing.document fuel).run).run ⟨tokens, stop, #[], [], [], []⟩
  let left := g.tokens.dropWhile (·.kind == .documentEnd)
  { list := g.events
    targets := g.targets
    fault := match result with
      | .ok () => none
      | .error fault => some fault
    hasMore := left.head?.all (·.kind ≠ .streamEnd) }

end ApiBindings.Yaml
