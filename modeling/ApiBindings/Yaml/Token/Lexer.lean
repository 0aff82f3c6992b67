import ApiBindings.Yaml.Token.Indicator
import ApiBindings.Yaml.Token.Property
import ApiBindings.Yaml.Token.Scalar

/-!
# From characters to tokens

The text is read from the left, a token at a time. A token is handed on when it can no longer turn out
to be a key.
-/

namespace ApiBindings.Yaml

namespace Lexing

/-! ## The next token -/

/-- The end of the text. -/
def streamEnd : Lexing Unit := do
  modify fun s =>
    if s.mark.column ≠ 0 then { s with mark := ⟨s.mark.index, s.mark.line + 1, 0⟩ } else s
  closeBlocks (-1)
  dropKey
  allowKey false
  let mark ← here
  emit .streamEnd mark mark

/-- The characters that a plain scalar does not begin with, or only before something other than a
blank. -/
def isReserved (c : Char) : Bool := "-?:,[]\x7b\x7d#&*!|>'\"%@\x60".toList.contains c

/-- One more token is read, or several where indentation ends. -/
def fetch : Lexing Unit := do
  let s ← get
  if !s.hasStarted then
    set { s with hasStarted := true, keys := [.none], keyAllowed := true }
    emit .streamStart s.mark s.mark
  else
    skipToToken
    dropStaleKeys
    closeBlocks (← here).column
    let s ← get
    let inFlow := s.flowLevel ≠ 0
    let after := s.rest[1]?
    let blankAfter := isBlankOrEnd after
    match s.rest.head? with
    | none => streamEnd
    | some c =>
      if s.mark.column == 0 && c = '%' then directive
      else if ← isDocumentMarker '-' then documentMarker .documentStart
      else if ← isDocumentMarker '.' then documentMarker .documentEnd
      else if c = '[' then flowStart .flowSequenceStart
      else if c = '\x7b' then flowStart .flowMappingStart
      else if c = ']' then flowEnd .flowSequenceEnd
      else if c = '\x7d' then flowEnd .flowMappingEnd
      else if c = ',' then flowEntry
      else if c = '-' && blankAfter then blockEntry
      else if c = '?' && (inFlow || blankAfter) then keyMark
      else if c = ':' && (inFlow || blankAfter) then valueMark
      else if c = '*' then anchor true
      else if c = '&' then anchor false
      else if c = '!' then tag
      else if c = '|' && !inFlow then blockScalar true
      else if c = '>' && !inFlow then blockScalar false
      else if c = '\'' then quoted true
      else if c = '"' then quoted false
      else if !(isBlankOrBreak c || isReserved c) || (c = '-' && !(after.any isBlank)) ||
          (!inFlow && (c = '?' || c = ':') && !blankAfter) then plain
      else
        failWhile "while scanning for the next token" s.mark "found character that cannot start any token"

/-- Whether the first waiting token can be handed on. -/
def isSettled (s : Lexer) : Bool :=
  !s.waiting.isEmpty && !s.keys.any fun key => key.isPossible && key.number == s.handed

/-- Tokens are read until the first one can be handed on. -/
def settle : Lexing Unit := do
  for _ in [0:(← get).bound] do
    let s ← get
    if !s.waiting.isEmpty then dropStaleKeys
    if isSettled (← get) then break
    fetch

end Lexing

/-! ## Forbidden characters -/

/-- The characters that may occur in a text. -/
def isAllowed (c : Char) : Bool :=
  let n := c.toNat
  n == 0x09 || n == 0x0A || n == 0x0D || (0x20 ≤ n && n ≤ 0x7E) || n == 0x85 ||
    (0xA0 ≤ n && n ≤ 0xD7FF) || (0xE000 ≤ n && n ≤ 0xFFFD) || 0x10000 ≤ n

/-- The greatest number of bytes that are looked through at a time. -/
def stretchSize : Nat := 16384

/-- A character that may not occur, and the beginning of the stretch it was found in: the bytes before each of
them. -/
structure Forbidden where
  stretch : Nat
  offset : Nat
  deriving DecidableEq, Repr

/-- The first character that may not occur. The text is looked through in stretches; one more character that
does not fit into a stretch begins the next one. -/
def forbidden? (stretch offset : Nat) : List Char → Option Forbidden
  | [] => none
  | c :: rest =>
    let stretch := if stretch + stretchSize < offset + c.utf8Size then offset else stretch
    if isAllowed c then forbidden? stretch (offset + c.utf8Size) rest else some ⟨stretch, offset⟩

/-- Whether the stretch of a forbidden character begins at a place or before it. -/
def Forbidden.reaches (f : Option Forbidden) (mark : Mark) : Bool :=
  match f with
  | some f => f.stretch ≤ mark.index
  | none => false

/-- The fault of a forbidden character. -/
def Forbidden.fault (f : Forbidden) : Fault := .forbidden f.offset

/-! ## All tokens -/

/-- The tokens up to the end of the text, or to the first fault, in at most `fuel` steps. A forbidden character
is a fault as soon as its stretch is come to. -/
def Lexer.tokens (f : Option Forbidden) (s : Lexer) : Nat → List Token × Option Fault
  | 0 => ([], none)
  | fuel + 1 =>
    match (Lexing.settle.run s) with
    | .error fault =>
      let isReached := match fault with
        | .grammar _ mark _ => Forbidden.reaches f mark
        | _ => false
      ([], if isReached then f.map Forbidden.fault else some fault)
    | .ok ((), s) =>
      if Forbidden.reaches f s.mark then ([], f.map Forbidden.fault)
      else match s.waiting with
        | [] => ([], none)
        | t :: waiting =>
          if t.kind = .streamEnd then ([t], none)
          else
            let (more, fault) := Lexer.tokens f { s with waiting, handed := s.handed + 1 } fuel
            (t :: more, fault)

/-- The tokens of a text, up to the first fault. -/
def tokensOf (text : String) : List Token × Option Fault :=
  let cs := text.toList
  let n := cs.length
  Lexer.tokens (forbidden? 0 0 cs) ⟨cs, .start, n + 3, [], 0, 0, -1, [], false, [], false⟩ (4 * n + 8)

end ApiBindings.Yaml
