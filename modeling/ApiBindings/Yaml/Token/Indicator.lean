import ApiBindings.Yaml.Token.Lexing

/-!
# Indicators

The marks of one to three characters that open, close and part documents and collections.
-/

namespace ApiBindings.Yaml.Lexing

/-- The marker of a document's beginning or end. -/
def documentMarker (kind : TokenKind) : Lexing Unit := do
  closeBlocks (-1)
  dropKey
  allowKey false
  let start ← here
  skip 3
  emit kind start (← here)

/-- A mark of one character. -/
def single (kind : TokenKind) : Lexing Unit := do
  let start ← here
  skip 1
  emit kind start (← here)

/-- The beginning of a flow collection. -/
def flowStart (kind : TokenKind) : Lexing Unit := do
  saveKey
  modify fun s => { s with keys := .none :: s.keys, flowLevel := s.flowLevel + 1 }
  allowKey true
  single kind

/-- The end of a flow collection. -/
def flowEnd (kind : TokenKind) : Lexing Unit := do
  dropKey
  modify fun s =>
    if s.flowLevel == 0 then s else { s with keys := s.keys.drop 1, flowLevel := s.flowLevel - 1 }
  allowKey false
  single kind

/-- The comma of a flow collection. -/
def flowEntry : Lexing Unit := do
  dropKey
  allowKey true
  single .flowEntry

/-- The dash of a block sequence. -/
def blockEntry : Lexing Unit := do
  let s ← get
  if s.flowLevel == 0 then
    if !s.keyAllowed then failPlain "block sequence entries are not allowed in this context"
    openBlock s.mark.column none .blockSequenceStart s.mark
  dropKey
  allowKey true
  single .blockEntry

/-- The question mark of a key. -/
def keyMark : Lexing Unit := do
  let s ← get
  if s.flowLevel == 0 then
    if !s.keyAllowed then failPlain "mapping keys are not allowed in this context"
    openBlock s.mark.column none .blockMappingStart s.mark
  dropKey
  allowKey (s.flowLevel == 0)
  single .key

/-- The colon of a value. -/
def valueMark : Lexing Unit := do
  let s ← get
  let key ← currentKey
  if key.isPossible then
    emitBefore key.number .key key.mark
    openBlock key.mark.column (some key.number) .blockMappingStart key.mark
    setKey { key with isPossible := false }
    allowKey false
  else
    if s.flowLevel == 0 then
      if !s.keyAllowed then failPlain "mapping values are not allowed in this context"
      openBlock s.mark.column none .blockMappingStart s.mark
    allowKey (s.flowLevel == 0)
  single .value

end ApiBindings.Yaml.Lexing
