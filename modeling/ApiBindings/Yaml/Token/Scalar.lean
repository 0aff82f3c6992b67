import ApiBindings.Yaml.Token.Lexing

/-!
# Scalars

The texts of a document: over indented lines, between quotes, or plain on the line. A line end inside a
text becomes a blank, and the empty lines behind it stay, except where lines are kept as they stand.
-/

namespace ApiBindings.Yaml.Lexing

open ApiBindings.Decimal (digitValue)

/-! ## Block scalars -/

/-- The line ends before the next line of a block scalar, and the indentation, which is found out at the
first line where it is not given. -/
def blockBreaks (indent : Nat) (start : Mark) : Lexing (Nat × List Char × Mark) := do
  let mut breaks : List Char := []
  let mut last ← here
  let mut widest := 0
  for _ in [0:(← get).bound] do
    let s ← get
    let spaces := (s.rest.takeWhile (· = ' ')).length
    skip (if indent == 0 then spaces else min spaces (indent - s.mark.column))
    let column := (← here).column
    widest := max widest column
    if (indent == 0 || column < indent) && (← isNext '\t') then
      failWhile "while scanning a block scalar" start
        "found a tab character where an indentation space is expected"
    if (← peek).any isBreak then
      breaks := breaks ++ (← takeLineEnd)
      last ← here
    else break
  let parent := (← get).indent
  let found := if indent ≠ 0 then indent else max (max widest (parent + 1).toNat) 1
  return (found, breaks, last)

/-- The marks after the bar of a block scalar: what becomes of the line ends at its end, and its
indentation. -/
def blockHeader (start : Mark) : Lexing (Option Char × Nat) := do
  let sign : Lexing (Option Char) := do
    match ← peek with
    | some c => if c = '+' || c = '-' then (do skip 1; pure (some c)) else pure none
    | none => pure none
  let width : Lexing Nat := do
    match ← peek with
    | some c =>
      if c = '0' then
        failWhile "while scanning a block scalar" start "found an indentation indicator equal to 0"
      else if c.isDigit then (do skip 1; pure (digitValue c))
      else pure 0
    | none => pure 0
  match ← sign with
  | some c => return (some c, ← width)
  | none =>
    let n ← width
    if n == 0 then return (none, 0) else return (← sign, n)

/-- A block scalar. Its line ends are kept, or single ones between full lines are made blanks. -/
def blockScalar (isLiteral : Bool) : Lexing Unit := do
  dropKey
  allowKey true
  let start ← here
  skip 1
  let (chomping, width) ← blockHeader start
  skipBlanks
  skipComment
  if !isBreakOrEnd (← peek) then
    failWhile "while scanning a block scalar" start "did not find expected comment or line break"
  skipLineEnd
  let parent := (← get).indent
  let given := if width == 0 then 0 else if 0 ≤ parent then parent.toNat + width else width
  let (indent, breaks, last) ← blockBreaks given start
  let mut done : List Char := []
  let mut lineEnd : List Char := []
  let mut breaks := breaks
  let mut last := last
  let mut afterBlank := false
  for _ in [0:(← get).bound] do
    let s ← get
    if s.mark.column ≠ indent || s.rest.isEmpty then break
    let beforeBlank := (← peek).any isBlank
    if !isLiteral && lineEnd == ['\n'] && !afterBlank && !beforeBlank then
      if breaks.isEmpty then done := ' ' :: done
    else
      done := lineEnd.reverse ++ done
    done := breaks.reverse ++ done
    afterBlank := beforeBlank
    let line ← takeWhile fun c => !isBreak c
    done := line.reverse ++ done
    lineEnd ← takeLineEnd
    let (_, nextBreaks, nextLast) ← blockBreaks indent start
    breaks := nextBreaks
    last := nextLast
  if chomping ≠ some '-' then done := lineEnd.reverse ++ done
  if chomping == some '+' then done := breaks.reverse ++ done
  emit (.scalar (String.ofList done.reverse) false) start last

/-! ## Scalars on the line -/

/-- Blanks and line ends between words: the blanks where there is no line end, else the line ends with
a single one made a blank. `joined` says that a line end was passed already. -/
def gap (joined : Bool) (checkTab : Bool → Lexing Unit) : Lexing (Bool × List Char) := do
  let mut blanks : List Char := []
  let mut lineEnd : List Char := []
  let mut more : List Char := []
  let mut broken := joined
  for _ in [0:(← get).bound] do
    match ← peek with
    | some c =>
      if isBlank c then
        checkTab broken
        skip 1
        if !broken then blanks := blanks ++ [c]
      else if isBreak c then
        if !broken then
          blanks := []
          lineEnd ← takeLineEnd
          broken := true
        else more := more ++ (← takeLineEnd)
      else break
    | none => break
  if broken then
    if lineEnd == ['\n'] then return (true, if more.isEmpty then [' '] else more)
    else return (true, lineEnd ++ more)
  else return (false, blanks)

/-- The character of an escape with digits in base 16. -/
def codeEscape (start : Mark) (width : Nat) : Lexing Char := do
  let ds := (← get).rest.take width
  if ds.length < width || ds.any fun c => 16 ≤ digitValue c then
    failWhile "while parsing a quoted scalar" start "did not find expected hexdecimal number"
  else
    let n := ds.foldl (fun n c => n * 16 + digitValue c) 0
    if (0xD800 ≤ n && n ≤ 0xDFFF) || 0x10FFFF < n then
      failWhile "while parsing a quoted scalar" start "found invalid Unicode character escape code"
    else
      skip width
      return Char.ofNat n

/-- The character of an escape whose backslash stands next. -/
def escape (start : Mark) : Lexing Char := do
  let plain (c : Char) : Lexing Char := do skip 2; return c
  let coded (width : Nat) : Lexing Char := do skip 2; codeEscape start width
  match ← peekAt 1 with
  | some '0' => plain (Char.ofNat 0)
  | some 'a' => plain (Char.ofNat 7)
  | some 'b' => plain (Char.ofNat 8)
  | some 't' => plain '\t'
  | some '\t' => plain '\t'
  | some 'n' => plain '\n'
  | some 'v' => plain (Char.ofNat 11)
  | some 'f' => plain (Char.ofNat 12)
  | some 'r' => plain '\r'
  | some 'e' => plain (Char.ofNat 27)
  | some ' ' => plain ' '
  | some '"' => plain '"'
  | some '/' => plain '/'
  | some '\\' => plain '\\'
  | some 'N' => plain (Char.ofNat 0x85)
  | some '_' => plain (Char.ofNat 0xA0)
  | some 'L' => plain (Char.ofNat 0x2028)
  | some 'P' => plain (Char.ofNat 0x2029)
  | some 'x' => coded 2
  | some 'u' => coded 4
  | some 'U' => coded 8
  | _ => failWhile "while parsing a quoted scalar" start "found unknown escape character"

/-- The characters of a quoted scalar up to a blank, its end or an escaped line end, of which it says
whether one was passed. -/
def quotedWord (isSingle : Bool) (start : Mark) : Lexing (Bool × List Char) := do
  let mut done : List Char := []
  let mut joined := false
  for _ in [0:(← get).bound] do
    let next ← peek
    let after ← peekAt 1
    if isBlankOrEnd next then break
    else if isSingle && next == some '\'' && after == some '\'' then
      skip 2
      done := '\'' :: done
    else if next == some (if isSingle then '\'' else '"') then break
    else if !isSingle && next == some '\\' && after.any isBreak then
      skip 1
      skipLineEnd
      joined := true
      break
    else if !isSingle && next == some '\\' then
      done := (← escape start) :: done
    else match next with
      | some c =>
        skip 1
        done := c :: done
      | none => break
  return (joined, done.reverse)

/-- A scalar in quotes. -/
def quoted (isSingle : Bool) : Lexing Unit := do
  saveKey
  allowKey false
  let start ← here
  skip 1
  let mut done : List Char := []
  for _ in [0:(← get).bound] do
    if (← isDocumentMarker '-') || (← isDocumentMarker '.') then
      failWhile "while scanning a quoted scalar" start "found unexpected document indicator"
    if (← peek).isNone then
      failWhile "while scanning a quoted scalar" start "found unexpected end of stream"
    let (joined, word) ← quotedWord isSingle start
    done := word.reverse ++ done
    if (← peek) == some (if isSingle then '\'' else '"') then break
    let (_, space) ← gap joined fun _ => pure ()
    done := space.reverse ++ done
  skip 1
  emit (.scalar (String.ofList done.reverse) false) start (← here)

/-- The indicators of flow collections. -/
def isFlowIndicator (c : Char) : Bool := ",[]\x7b\x7d".toList.contains c

/-- The characters of a plain scalar up to a blank or its end. -/
def plainWord (start : Mark) : Lexing (List Char) := do
  let inFlow := (← get).flowLevel ≠ 0
  let mut done : List Char := []
  for _ in [0:(← get).bound] do
    let next ← peek
    let after ← peekAt 1
    if isBlankOrEnd next then break
    if inFlow && next == some ':' && after.any fun c => c = '?' || isFlowIndicator c then
      failWhile "while scanning a plain scalar" start "found unexpected ':'"
    if (next == some ':' && isBlankOrEnd after) || (inFlow && next.any isFlowIndicator) then break
    match next with
    | some c =>
      skip 1
      done := c :: done
    | none => break
  return done.reverse

/-- A scalar without quotes. -/
def plain : Lexing Unit := do
  saveKey
  allowKey false
  let start ← here
  let s ← get
  let indent := s.indent + 1
  let mut done : List Char := []
  let mut space : List Char := []
  let mut last := start
  let mut broken := false
  for _ in [0:s.bound] do
    if (← isDocumentMarker '-') || (← isDocumentMarker '.') || (← isNext '#') then break
    let word ← plainWord start
    if !word.isEmpty then
      done := word.reverse ++ (space.reverse ++ done)
      space := []
      broken := false
      last ← here
    if !((← peek).any isBlankOrBreak) then break
    let checkTab (afterBreak : Bool) : Lexing Unit := do
      if afterBreak && (← here).column < indent && (← isNext '\t') then
        failWhile "while scanning a plain scalar" start "found a tab character that violates indentation"
    let (wasBroken, gapText) ← gap false checkTab
    space := gapText
    broken := wasBroken
    if s.flowLevel == 0 && (← here).column < indent then break
  emit (.scalar (String.ofList done.reverse) true) start last
  if broken then allowKey true

end ApiBindings.Yaml.Lexing
