import ApiBindings.Json.Value

/-!
# Steps of reading JSON

A text is read from the left; the first fault ends the reading and is reported with the place where it
was met, counted in bytes. Beside the steps themselves stand the words and the strings of the format.
-/

namespace ApiBindings.Json

/-! ## Faults -/

/-- What can be wrong with a text. -/
inductive Fault where
  | endInArray
  | endInObject
  | endInString
  | endInValue
  | noColon
  | noCommaInArray
  | noCommaInObject
  | noWord
  | noValue
  | badEscape
  | badNumber
  | tooLarge
  | controlCharacter
  | keyNotString
  | loneSurrogate
  | trailingComma
  | trailingCharacters
  | brokenPair
  | tooDeep
  deriving DecidableEq, Repr

/-- The wording of a fault. -/
def Fault.message : Fault → String
  | .endInArray => "EOF while parsing a list"
  | .endInObject => "EOF while parsing an object"
  | .endInString => "EOF while parsing a string"
  | .endInValue => "EOF while parsing a value"
  | .noColon => "expected `:`"
  | .noCommaInArray => "expected `,` or `]`"
  | .noCommaInObject => "expected `,` or `\x7d`"
  | .noWord => "expected ident"
  | .noValue => "expected value"
  | .badEscape => "invalid escape"
  | .badNumber => "invalid number"
  | .tooLarge => "number out of range"
  | .controlCharacter => "control character (\\u0000-\\u001F) found while parsing a string"
  | .keyNotString => "key must be a string"
  | .loneSurrogate => "lone leading surrogate in hex escape"
  | .trailingComma => "trailing comma"
  | .trailingCharacters => "trailing characters"
  | .brokenPair => "unexpected end of hex escape"
  | .tooDeep => "recursion limit exceeded"

/-- A fault and the number of bytes before the place it is reported at. -/
structure Failure where
  fault : Fault
  offset : Nat
  deriving DecidableEq, Repr

/-- The bytes of a text. -/
def byteCount (s : List Char) : Nat := s.foldl (fun n c => n + c.utf8Size) 0

/-- Line, counted from one, and column in bytes, after `offset` bytes of a text. -/
def lineAndColumn (offset line column : Nat) : List Char → Nat × Nat
  | [] => (line, column + offset)
  | c :: rest =>
    if offset < c.utf8Size then (line, column + offset)
    else if c = '\n' then lineAndColumn (offset - 1) (line + 1) 0 rest
    else lineAndColumn (offset - c.utf8Size) line (column + c.utf8Size) rest

/-- The report of a failure in a text. -/
def Failure.message (text : String) (f : Failure) : String :=
  let (line, column) := lineAndColumn f.offset 1 0 text.toList
  f.fault.message ++ " at line " ++ toString line ++ " column " ++ toString column

/-! ## Steps -/

/-- What is left of a text, and the number of bytes before it. -/
structure Cursor where
  rest : List Char
  offset : Nat

/-- A step of reading: it moves on in the text or fails. -/
abbrev Reading := StateT Cursor (Except Failure)

/-- Failure at the place that is reached, after what was taken. -/
def failHere {α : Type} (fault : Fault) : Reading α := do
  throw ⟨fault, (← get).offset⟩

/-- Failure at the byte that stands next, as far as there is one. -/
def failNext {α : Type} (fault : Fault) : Reading α := do
  let c ← get
  throw ⟨fault, c.offset + (if c.rest.isEmpty then 0 else 1)⟩

/-- Failure at the first byte of a character that is taken. -/
def failIn {α : Type} (c : Char) (fault : Fault) : Reading α := do
  throw ⟨fault, (← get).offset + 1 - c.utf8Size⟩

/-- The next character, which stays. -/
def peek : Reading (Option Char) := do
  return (← get).rest.head?

/-- The next character, which is taken. -/
def next : Reading (Option Char) := do
  match (← get).rest with
  | [] => return none
  | c :: rest =>
    modify fun cur => ⟨rest, cur.offset + c.utf8Size⟩
    return some c

/-- The characters of a class that stand next, which are taken. -/
def takeWhile (p : Char → Bool) : Reading (List Char) := do
  let cur ← get
  let taken := cur.rest.takeWhile p
  set (⟨cur.rest.dropWhile p, cur.offset + byteCount taken⟩ : Cursor)
  return taken

/-- The blanks between tokens. -/
def isSpace (c : Char) : Bool := c = ' ' || c = '\n' || c = '\t' || c = '\r'

/-- The next character after blanks, which stays. -/
def peekToken : Reading (Option Char) := do
  let _ ← takeWhile isSpace
  peek

/-- The rest of a word whose first letter is taken. -/
def word (value : Value) : List Char → Reading Value
  | [] => return value
  | c :: more => do
    match ← next with
    | none => failHere .endInValue
    | some d => if c = d then word value more else failIn d .noWord

/-! ## Strings -/

/-- The value of a digit in base 16. -/
def hexValue? (c : Char) : Option Nat :=
  if c.isDigit then some (c.toNat - 48)
  else if 'a' ≤ c && c ≤ 'f' then some (c.toNat - 87)
  else if 'A' ≤ c && c ≤ 'F' then some (c.toNat - 55)
  else none

/-- A number of four digits in base 16. The four bytes after the escape are looked at together. -/
def hexUnit : Reading Nat := do
  let cur ← get
  if byteCount cur.rest < 4 then
    set (⟨[], cur.offset + byteCount cur.rest⟩ : Cursor)
    failHere .endInString
  else
    match (cur.rest.take 4).mapM hexValue? with
    | some [a, b, c, d] =>
      set (⟨cur.rest.drop 4, cur.offset + 4⟩ : Cursor)
      return ((a * 16 + b) * 16 + c) * 16 + d
    | _ => throw ⟨.badEscape, cur.offset + 4⟩

/-- One of the two characters between the halves of a pair of escapes. -/
def pairMark (c : Char) : Reading Unit := do
  match ← next with
  | none => failHere .endInString
  | some d =>
    if c = d then return ()
    else failIn d .brokenPair

/-- The character of a `\u` escape; one beyond sixteen bits is written as a pair of escapes. -/
def unicodeEscape : Reading Char := do
  let high ← hexUnit
  if 0xDC00 ≤ high && high ≤ 0xDFFF then failHere .loneSurrogate
  else if high < 0xD800 || 0xDBFF < high then return Char.ofNat high
  else do
    pairMark '\\'
    pairMark 'u'
    let low ← hexUnit
    if low < 0xDC00 || 0xDFFF < low then failHere .loneSurrogate
    else return Char.ofNat ((high - 0xD800) * 0x400 + (low - 0xDC00) + 0x10000)

/-- The character of an escape whose backslash is taken. -/
def escape : Reading Char := do
  match ← next with
  | none => failHere .endInString
  | some c =>
    if c = '"' || c = '\\' || c = '/' then return c
    else if c = 'b' then return Char.ofNat 8
    else if c = 'f' then return Char.ofNat 12
    else if c = 'n' then return '\n'
    else if c = 'r' then return '\r'
    else if c = 't' then return '\t'
    else if c = 'u' then unicodeEscape
    else failIn c .badEscape

/-- The characters of a string up to its closing quote, in at most `fuel` steps. -/
def stringRest : Nat → List Char → Reading String
  | 0, _ => failHere .endInString
  | fuel + 1, done => do
    match ← next with
    | none => failHere .endInString
    | some c =>
      if c = '"' then return String.ofList done.reverse
      else if c = '\\' then do
        let d ← escape
        stringRest fuel (d :: done)
      else if c.toNat < 0x20 then failHere .controlCharacter
      else stringRest fuel (c :: done)

/-- A string whose opening quote is taken. -/
def string : Reading String := do
  stringRest ((← get).rest.length + 1) []

end ApiBindings.Json
