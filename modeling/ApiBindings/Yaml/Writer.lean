import ApiBindings.Decimal.Notation
import ApiBindings.Json.Value
import ApiBindings.Text.Quoted
import ApiBindings.Yaml.Scalar

/-!
# YAML text of a value

Objects and arrays are spread over lines, an array below a key at the level of the key. A text stands
plain where it would be read back as that text, else in quotes, and over lines where it holds a line
end. Lines are never folded.
-/

namespace ApiBindings.Yaml

open ApiBindings.Decimal (Binary64 Style)
open ApiBindings.Json (Value)

/-! ## Characters -/

/-- The line ends. -/
def isBreak (c : Char) : Bool :=
  c = '\n' || c = '\r' || c.toNat == 0x85 || c.toNat == 0x2028 || c.toNat == 0x2029

/-- Blank, tab, line end or the null character. -/
def isBlankOrBreak (c : Char) : Bool := c = ' ' || c = '\t' || c = '\x00' || isBreak c

/-- The characters that may stand outside of escapes. -/
def isPrintable (c : Char) : Bool :=
  let n := c.toNat
  n == 0x0A || (0x20 ≤ n && n ≤ 0x7E) || (0xA0 ≤ n && n ≤ 0xD7FF) ||
    (0xE000 ≤ n && n ≤ 0xFFFD && n != 0xFEFF) || 0x10000 ≤ n

/-! ## What a text allows -/

/-- Which forms a text may take in a block. -/
structure Forms where
  multiline : Bool
  plain : Bool
  single : Bool
  block : Bool

/-- The characters that may not begin a plain text. -/
def opensIndicator (c : Char) : Bool :=
  [',', '#', '[', ']', '\x7b', '\x7d', '&', '*', '!', '|', '>', '\'', '"', '%', '@', '\x60'].contains c

/-- Whether a place in a text looks like the start of something other than text. The character is given
with the one before it and the one after it, where there are any. -/
def isIndicator (before : Option Char) (c : Char) (after : Option Char) : Bool :=
  let blankAfter := after.all isBlankOrBreak
  match before with
  | none => opensIndicator c || ((c = '?' || c = ':' || c = '-') && blankAfter)
  | some b => (c = ':' && blankAfter) || (c = '#' && isBlankOrBreak b)

/-- Whether some place in a text looks like the start of something other than text. -/
def hasIndicator (before : Option Char) : List Char → Bool
  | [] => false
  | c :: rest => isIndicator before c rest.head? || hasIndicator (some c) rest

/-- Whether two characters of given classes stand side by side. -/
def hasPair (p q : Char → Bool) : List Char → Bool
  | a :: b :: rest => (p a && q b) || hasPair p q (b :: rest)
  | _ => false

/-- The forms that a text may take. -/
def formsOf (s : List Char) : Forms :=
  if s.isEmpty then ⟨false, true, true, false⟩
  else
    let isSpace (c : Char) : Bool := c = ' '
    let special := s.any fun c => !isPrintable c
    let breaks := s.any isBreak
    let spaceBreak := hasPair isSpace isBreak s
    let breakSpace := hasPair isBreak isSpace s
    let edge (c : Option Char) : Bool := c.any fun c => isSpace c || isBreak c
    let marks := ['-', '-', '-'].isPrefixOf s || ['.', '.', '.'].isPrefixOf s
    { multiline := breaks
      plain := !(special || breaks || spaceBreak || breakSpace || edge s.head? || edge s.getLast? || marks ||
        hasIndicator none s)
      single := !(special || spaceBreak || breakSpace)
      block := !(special || spaceBreak || s.getLast? == some ' ') }

/-! ## Styles -/

/-- The forms of a scalar. -/
inductive Form where
  | plain
  | single
  | double
  | literal
  deriving DecidableEq

/-- The form of a text, which may have to stay on the line as a key. -/
def formOf (onLine : Bool) (s : String) : Form :=
  let forms := formsOf s.toList
  let wanted : Form :=
    if s.toList.contains '\n' then .literal
    else if resolve s != .text || hasIdleZero s.toList then .single
    else .plain
  if onLine && forms.multiline then .double
  else match wanted with
    | .plain => if forms.plain then .plain else if forms.single then .single else .double
    | .single => if forms.single then .single else .double
    | .literal => if forms.block && !onLine then .literal else .double
    | .double => .double

/-- Numbers have a point from a hundred-thousandth up to ten to the sixteenth, and beyond that an
exponent without a plus sign. -/
def numberStyle : Style := ⟨some (-5), some 15, false⟩

/-! ## The pen -/

/-- The text so far, last character first, with the column that is reached, and whether a blank, or
only the marks of a line's beginning, stand before it. -/
structure Pen where
  written : List Char
  column : Nat
  afterBlank : Bool
  atStart : Bool

namespace Pen

/-- One more character. -/
def put (p : Pen) (c : Char) : Pen := { p with written := c :: p.written, column := p.column + 1 }

/-- More characters on the line. -/
def puts (p : Pen) (s : List Char) : Pen := s.foldl put p

/-- A line end. -/
def endLine (p : Pen) (c : Char) : Pen := { p with written := c :: p.written, column := 0 }

/-- The beginning of a line at an indentation, unless it is reached already. -/
def indent (p : Pen) (level : Nat) : Pen :=
  let p := if !p.atStart || level < p.column || (p.column == level && !p.afterBlank) then p.endLine '\n' else p
  { p.puts (List.replicate (level - p.column) ' ') with afterBlank := true, atStart := true }

/-- A mark, after a blank where one is needed. -/
def mark (p : Pen) (s : List Char) (needsBlank isBlank keepsStart : Bool) : Pen :=
  let p := if needsBlank && !p.afterBlank then p.put ' ' else p
  { p.puts s with afterBlank := isBlank, atStart := p.atStart && keepsStart }

/-- The text within single quotes: quotes are doubled, and a line begins at the indentation. -/
def singleText (level : Nat) (afterBreak : Bool) (p : Pen) : List Char → Pen
  | [] => if afterBreak then p.indent level else p
  | c :: rest =>
    if isBreak c then
      let p := if !afterBreak && c = '\n' then p.endLine '\n' else p
      singleText level true { p.endLine c with atStart := true } rest
    else
      let p := if afterBreak && c ≠ ' ' then p.indent level else p
      let p := if c = '\'' then p.put '\'' else p
      if c = ' ' then singleText level afterBreak (p.put c) rest
      else singleText level false { p.put c with atStart := false } rest

/-- The lines of a block text, each at the indentation. -/
def blockText (level : Nat) (afterBreak : Bool) (p : Pen) : List Char → Pen
  | [] => p
  | c :: rest =>
    if isBreak c then blockText level true { p.endLine c with atStart := true } rest
    else
      let p := if afterBreak then p.indent level else p
      blockText level false { p.put c with atStart := false } rest

end Pen

/-- A number in base 16 with capitals, of a given width. -/
def hexField (width n : Nat) : List Char :=
  let ds := (Text.hexDigits n).map Char.toUpper
  List.replicate (width - ds.length) '0' ++ ds

/-- The letter of an escape that has one. -/
def escapeLetter? (c : Char) : Option Char :=
  match c.toNat with
  | 0x00 => some '0'
  | 0x07 => some 'a'
  | 0x08 => some 'b'
  | 0x09 => some 't'
  | 0x0A => some 'n'
  | 0x0B => some 'v'
  | 0x0C => some 'f'
  | 0x0D => some 'r'
  | 0x1B => some 'e'
  | 0x22 => some '"'
  | 0x5C => some '\\'
  | 0x85 => some 'N'
  | 0x2028 => some 'L'
  | 0x2029 => some 'P'
  | _ => none

/-- A character within double quotes. -/
def doubleChar (c : Char) : List Char :=
  if !isPrintable c || isBreak c || c = '"' || c = '\\' then
    match escapeLetter? c with
    | some l => ['\\', l]
    | none =>
      if c.toNat ≤ 0xFF then '\\' :: 'x' :: hexField 2 c.toNat
      else if c.toNat ≤ 0xFFFF then '\\' :: 'u' :: hexField 4 c.toNat
      else '\\' :: 'U' :: hexField 8 c.toNat
  else [c]

/-- The marks after the bar of a block text: its indentation where the first line does not show it, and
what becomes of the line ends at its end. -/
def blockHints (s : List Char) : List Char :=
  let first := match s.head? with
    | some c => if c = ' ' || isBreak c then ['2'] else []
    | none => []
  let last := match s.reverse with
    | [] => ['-']
    | [c] => if isBreak c then ['+'] else ['-']
    | c :: d :: _ => if !isBreak c then ['-'] else if isBreak d then ['+'] else []
  first ++ last

/-- A scalar in a form. Its further lines stand at the indentation. -/
def Pen.scalar (p : Pen) (level : Nat) (form : Form) (s : List Char) : Pen :=
  match form with
  | .plain =>
    let p := if !p.afterBlank && !s.isEmpty then p.put ' ' else p
    { p.puts s with afterBlank := false, atStart := false }
  | .single =>
    let p := (p.mark ['\''] true false false).singleText level false s
    p.mark ['\''] false false false
  | .double =>
    let p := (p.mark ['"'] true false false).puts (s.flatMap doubleChar)
    p.mark ['"'] false false false
  | .literal =>
    let p := (p.mark ['|'] true false false).mark (blockHints s) false false false
    { p.endLine '\n' with afterBlank := true, atStart := true }.blockText level true s

/-! ## Values -/

/-- The length beyond which a key does not stay on the line. -/
def keyLimit : Nat := 128

/-- Whether a key can stay on the line before its colon. -/
def isShortKey (s : String) : Bool := !(formsOf s.toList).multiline && s.utf8ByteSize ≤ keyLimit

mutual

/-- A value within a collection that is indented by `level`; `underKey` says that the collection is an
object. -/
def Pen.value (p : Pen) (level : Nat) (underKey : Bool) : Value → Pen
  | .null => p.scalar (level + 2) .plain "null".toList
  | .bool b => p.scalar (level + 2) .plain (if b then "true".toList else "false".toList)
  | .int n => p.scalar (level + 2) .plain (toString n).toList
  | .real x => p.scalar (level + 2) .plain (numberStyle.write x)
  | .string s => p.scalar (level + 2) (formOf false s) s.toList
  | .array [] => (p.mark ['['] true true false).mark [']'] false false false
  | .array (v :: rest) =>
    p.items (if underKey && !p.atStart then level else level + 2) (v :: rest)
  | .object [] => (p.mark ['\x7b'] true true false).mark ['\x7d'] false false false
  | .object (e :: rest) => p.entries (level + 2) (e :: rest)

/-- The items of an array, each on a line of its own after a dash. -/
def Pen.items (p : Pen) (level : Nat) : List Value → Pen
  | [] => p
  | v :: rest =>
    let p := ((p.indent level).mark ['-'] true false true).value level false v
    p.items level rest

/-- The entries of an object, each on a line of its own. -/
def Pen.entries (p : Pen) (level : Nat) : List (String × Value) → Pen
  | [] => p
  | (k, v) :: rest =>
    let p := p.indent level
    let p :=
      if isShortKey k then
        (p.scalar (level + 2) (formOf true k) k.toList).mark [':'] false false false
      else
        let p := (p.mark ['?'] true false true).scalar (level + 2) (formOf false k) k.toList
        (p.indent level).mark [':'] true false true
    (p.value level true v).entries level rest

end

/-- The value of a whole text. -/
def Pen.root (p : Pen) : Value → Pen
  | .array (v :: rest) => p.items 0 (v :: rest)
  | .object (e :: rest) => p.entries 0 (e :: rest)
  | v => p.value 0 false v

/-- The YAML text of a value. -/
def write (v : Value) : String :=
  let p := (Pen.root ⟨[], 0, true, true⟩ v).indent 0
  String.ofList p.written.reverse

end ApiBindings.Yaml
