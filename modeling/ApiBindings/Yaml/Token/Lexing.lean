import ApiBindings.Yaml.Token
import ApiBindings.Yaml.Writer

/-!
# Steps of the lexer

The characters that are left, the tokens that wait, and the collections that are open. A mapping key is
known as such only at its colon, so the tokens that may be keys are remembered with the place they stand
at, and the token that marks a key is put in front of it afterwards.
-/

namespace ApiBindings.Yaml

/-! ## State -/

/-- A token that may turn out to be a key. -/
structure PossibleKey where
  isPossible : Bool
  isRequired : Bool
  number : Nat
  mark : Mark
  deriving Inhabited

/-- No possible key. -/
def PossibleKey.none : PossibleKey := ⟨false, false, 0, .start⟩

/-- What the lexer knows at a place. -/
structure Lexer where
  /-- The characters that are left. -/
  rest : List Char
  mark : Mark
  /-- A bound on the steps that any loop can take. -/
  bound : Nat
  /-- The tokens that wait to be handed on. -/
  waiting : List Token
  /-- The number of tokens that were handed on. -/
  handed : Nat
  flowLevel : Nat
  /-- The column of the open block collection, or -1. -/
  indent : Int
  indents : List Int
  keyAllowed : Bool
  /-- The possible key of each flow level, the innermost first. -/
  keys : List PossibleKey
  hasStarted : Bool

/-- A step of the lexer. -/
abbrev Lexing := StateT Lexer (Except Fault)

namespace Lexing

/-! ## Characters -/

/-- The end of the text, blank or line end. -/
def isBlankOrEnd : Option Char → Bool
  | none => true
  | some c => isBlankOrBreak c

/-- Line end or the end of the text. -/
def isBreakOrEnd : Option Char → Bool
  | none => true
  | some c => isBreak c

/-- Blank or tab. -/
def isBlank (c : Char) : Bool := c = ' ' || c = '\t'

/-- The characters of anchors and handles. -/
def isWordChar (c : Char) : Bool := c.isAlphanum || c = '-' || c = '_'

/-- The next character. -/
def peek : Lexing (Option Char) := do return (← get).rest.head?

/-- The character some places ahead. -/
def peekAt (n : Nat) : Lexing (Option Char) := do return (← get).rest[n]?

/-- Whether a certain character stands next. -/
def isNext (c : Char) : Lexing Bool := do return (← peek) == some c

/-- The place that is reached. -/
def here : Lexing Mark := do return (← get).mark

/-- Failure with what was being read. -/
def failWhile {α : Type} (context : String) (start : Mark) (problem : String) : Lexing α := do
  throw (.grammar problem (← here) (some (context, some start)))

/-- Failure with nothing more to say. -/
def failPlain {α : Type} (problem : String) : Lexing α := do
  throw (.grammar problem (← here) none)

/-- The number of bytes of characters. -/
def byteSize (cs : List Char) : Nat := cs.foldl (fun n c => n + c.utf8Size) 0

/-- Some characters of one line are passed. -/
def skip (n : Nat) : Lexing Unit :=
  modify fun s => { s with
    rest := s.rest.drop n
    mark := ⟨s.mark.index + byteSize (s.rest.take n), s.mark.line, s.mark.column + n⟩ }

/-- The characters of a class that stand next, which are passed. The class holds no line end. -/
def takeWhile (p : Char → Bool) : Lexing (List Char) := do
  let taken := (← get).rest.takeWhile p
  skip taken.length
  return taken

/-- Blanks and tabs are passed. -/
def skipBlanks : Lexing Unit := do
  let _ ← takeWhile isBlank

/-- A comment is passed, if one stands next. -/
def skipComment : Lexing Unit := do
  if ← isNext '#' then
    let _ ← takeWhile fun c => !isBreak c

/-- The line end that stands next is passed; the characters it stands for. -/
def takeLineEnd : Lexing (List Char) := do
  let s ← get
  let (taken, text) : Nat × List Char := match s.rest with
    | '\r' :: '\n' :: _ => (2, ['\n'])
    | c :: _ =>
      if c = '\r' || c = '\n' || c.toNat == 0x85 then (1, ['\n'])
      else if isBreak c then (1, [c])
      else (0, [])
    | [] => (0, [])
  if taken ≠ 0 then
    set { s with rest := s.rest.drop taken, mark := ⟨s.mark.index + byteSize (s.rest.take taken), s.mark.line + 1, 0⟩ }
  return text

/-- A line end is passed, if one stands next. -/
def skipLineEnd : Lexing Unit := do
  let _ ← takeLineEnd

/-- Whether the marker of a document's beginning or end stands next, at the beginning of a line. -/
def isDocumentMarker (c : Char) : Lexing Bool := do
  let s ← get
  return s.mark.column == 0 && [c, c, c].isPrefixOf s.rest && isBlankOrEnd s.rest[3]?

/-! ## Tokens, keys and indentation -/

/-- A token is put at the end of those that wait. -/
def emit (kind : TokenKind) (first last : Mark) : Lexing Unit :=
  modify fun s => { s with waiting := s.waiting ++ [⟨kind, first, last⟩] }

/-- A token is put in front of the one with a number. -/
def emitBefore (number : Nat) (kind : TokenKind) (mark : Mark) : Lexing Unit :=
  modify fun s =>
    let n := number - s.handed
    { s with waiting := s.waiting.take n ++ ⟨kind, mark, mark⟩ :: s.waiting.drop n }

/-- The possible key of the innermost level. -/
def currentKey : Lexing PossibleKey := do return (← get).keys.headD .none

/-- Another possible key for the innermost level. -/
def setKey (key : PossibleKey) : Lexing Unit :=
  modify fun s => { s with keys := key :: s.keys.drop 1 }

/-- Failure over a key that had to be one. -/
def failKey {α : Type} (key : PossibleKey) : Lexing α :=
  failWhile "while scanning a simple key" key.mark "could not find expected ':'"

/-- Keys that spread over lines or more than 1024 bytes are given up. -/
def dropStaleKeys : Lexing Unit := do
  let s ← get
  -- the outermost level is looked at first
  let isStale (key : PossibleKey) : Bool :=
    key.isPossible && (key.mark.line < s.mark.line || key.mark.index + 1024 < s.mark.index)
  match s.keys.reverse.find? fun key => isStale key && key.isRequired with
  | some key => failKey key
  | none =>
    set { s with keys := s.keys.map fun key => if isStale key then { key with isPossible := false } else key }

/-- The possible key of the innermost level is given up. -/
def dropKey : Lexing Unit := do
  let key ← currentKey
  if key.isPossible && key.isRequired then failKey key
  setKey { key with isPossible := false }

/-- The token that comes next may be a key. -/
def saveKey : Lexing Unit := do
  let s ← get
  if s.keyAllowed then
    dropKey
    setKey ⟨true, s.flowLevel == 0 && s.indent == s.mark.column, s.handed + s.waiting.length, s.mark⟩

/-- Whether a key may stand next is set. -/
def allowKey (b : Bool) : Lexing Unit := modify fun s => { s with keyAllowed := b }

/-- A block collection begins at a column, if it stands further in than the open one. Its token is put
in front of the one with a number, else at the end. -/
def openBlock (column : Nat) (number : Option Nat) (kind : TokenKind) (mark : Mark) : Lexing Unit := do
  let s ← get
  if s.flowLevel == 0 && s.indent < column then
    set { s with indents := s.indent :: s.indents, indent := (column : Int) }
    match number with
    | none => emit kind mark mark
    | some n => emitBefore n kind mark

/-- The block collections further in than a column end. -/
def closeBlocks (column : Int) : Lexing Unit := do
  let s ← get
  if s.flowLevel == 0 then
    let closed := (s.indent :: s.indents).takeWhile (column < ·)
    let open_ := (s.indent :: s.indents).dropWhile (column < ·)
    set { s with
      waiting := s.waiting ++ closed.map fun _ => (⟨.blockEnd, s.mark, s.mark⟩ : Token)
      indent := open_.headD (-1)
      indents := open_.drop 1 }

/-! ## Between tokens -/

/-- Blanks, comments and line ends are passed, and a byte order mark at the beginning of a line, which takes up
a column of its own. -/
def skipToToken : Lexing Unit := do
  for _ in [0:(← get).bound] do
    let s ← get
    if s.mark.column == 0 && s.rest.head? == some '\uFEFF' then skip 1
    let s ← get
    let _ ← takeWhile fun c => c = ' ' || ((s.flowLevel ≠ 0 || !s.keyAllowed) && c = '\t')
    skipComment
    match ← peek with
    | some c =>
      if isBreak c then
        skipLineEnd
        if (← get).flowLevel == 0 then allowKey true
      else break
    | none => break

end Lexing

end ApiBindings.Yaml
