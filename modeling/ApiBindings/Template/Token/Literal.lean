import ApiBindings.Decimal.Digits
import ApiBindings.Template.Token

/-!
# Numbers and strings of templates

A number is a whole one in base two, eight, ten or sixteen, or one with places behind a point or with an
exponent. A string stands between quotes, and a backslash in it begins an escape.
-/

namespace ApiBindings.Template

open ApiBindings.Decimal (Binary64 digitValue exponent? natural?)

/-! ## Numbers -/

/-- Whether a character can stand among the digits of a number; a lower line only parts them. -/
def isFigure (c : Char) : Bool := c.isDigit || c == '_'

/-- The digits of a number without what parts them. -/
def figures (cs : List Char) : List Char := cs.filter (· ≠ '_')

/-- Whole numbers stay below this one. -/
def intBound : Nat := Nat.pow 2 128

/-- A whole number in a base, as it is written. -/
def wholeToken (base : Nat) (written : List Char) : Token :=
  if written.getLast? = some '_' then .fault .openNumber
  else match natural? base (figures written) with
    | some n => if n < intBound then .int n else .fault .badInteger
    | none => .fault .badInteger

/-- A number with a point or an exponent, as it is written. -/
def realToken (whole places exponent : List Char) : Token :=
  if (whole ++ places ++ exponent).getLast? = some '_' then .fault .openNumber
  else match if exponent.isEmpty then some 0 else exponent? (figures exponent.tail) with
    | some power =>
      .real (Binary64.ofDigits false (figures (whole ++ places)) (power - (figures places).length))
    | none => .fault .badReal

/-- What stands after the mark of a base, with the base. -/
def basedDigits? : List Char → Option (Nat × List Char)
  | '0' :: c :: rest =>
    if c = 'x' ∨ c = 'X' then some (16, rest)
    else if c = 'o' ∨ c = 'O' then some (8, rest)
    else if c = 'b' ∨ c = 'B' then some (2, rest)
    else none
  | _ => none

/-- The places behind a point, if a digit follows it, and what comes after them. -/
def cutPlaces : List Char → Option (List Char) × List Char
  | '.' :: c :: rest =>
    if c.isDigit then (some ((c :: rest).takeWhile isFigure), (c :: rest).dropWhile isFigure)
    else (none, '.' :: c :: rest)
  | rest => (none, rest)

/-- An exponent with its letter, if there is one, and what comes after it. -/
def cutExponent : List Char → List Char × List Char
  | c :: rest =>
    if c = 'e' ∨ c = 'E' then
      let gap := rest.takeWhile (· == '_')
      let (sign, rest) := match rest.dropWhile (· == '_') with
        | '-' :: rest => (['-'], rest)
        | '+' :: rest => (['+'], rest)
        | rest => ([], rest)
      (c :: gap ++ sign ++ rest.takeWhile isFigure, rest.dropWhile isFigure)
    else ([], c :: rest)
  | [] => ([], [])

/-- The number that a text begins with, and what comes after it. -/
def numberToken (cs : List Char) : Token × List Char :=
  match basedDigits? cs with
  | some (base, rest) =>
    let isInside (c : Char) : Bool := isFigure c || base == 16 && digitValue c < 16
    (wholeToken base (rest.takeWhile isInside), rest.dropWhile isInside)
  | none =>
    let whole := cs.takeWhile isFigure
    let (places?, rest) := cutPlaces (cs.dropWhile isFigure)
    let (exponent, rest) := cutExponent rest
    (if places?.isNone && exponent.isEmpty then wholeToken 10 whole
      else realToken whole (places?.getD []) exponent, rest)

/-! ## Strings -/

/-- A string up to its closing quote, as it is written, and what comes after that. -/
def cutAtQuote (quote : Char) : List Char → Option (List Char × List Char)
  | [] => none
  | '\\' :: c :: rest => (cutAtQuote quote rest).map fun (inside, after) => ('\\' :: c :: inside, after)
  | c :: rest =>
    if c = quote then some ([], rest)
    else if c = '\\' then none
    else (cutAtQuote quote rest).map fun (inside, after) => (c :: inside, after)

/-- What a letter or a mark behind a backslash stands for. -/
def shortEscape? (c : Char) : Option Char :=
  if c = '"' ∨ c = '\\' ∨ c = '/' ∨ c = '\'' then some c
  else if c = 'b' then some '\x08'
  else if c = 'f' then some '\x0c'
  else if c = 'n' then some '\n'
  else if c = 'r' then some '\r'
  else if c = 't' then some '\t'
  else none

/-- The number that a certain count of digits in base 16 writes; a plus sign may stand for the first one. -/
def hexNumber? (count : Nat) (ds : List Char) : Option Nat :=
  if ds.length < count then none
  else natural? 16 (match ds with
    | '+' :: rest => rest
    | ds => ds)

/-- Whether a character is a digit in base eight. -/
def isOctal (c : Char) : Bool := digitValue c < 8

/-- The numbers of the characters that an escape stands for, behind its backslash, and what comes after it.
An escape of no meaning stands for itself. -/
def escape : List Char → Option (List Nat × List Char)
  | [] => none
  | c :: rest =>
    match shortEscape? c with
    | some d => some ([d.toNat], rest)
    | none =>
      if c = 'u' then (hexNumber? 4 (rest.take 4)).map fun n => ([n], rest.drop 4)
      else if c = 'x' then (hexNumber? 2 (rest.take 2)).map fun n => ([n], rest.drop 2)
      else if isOctal c then do
        let more := (rest.take 2).takeWhile isOctal
        let n ← natural? 8 (c :: more)
        if n < 256 then some ([n], rest.drop more.length) else none
      else some (['\\'.toNat, c.toNat], rest)

/-- The numbers of the characters of a written string, in at most `fuel` steps. -/
def characterNumbers : Nat → List Char → Option (List Nat)
  | 0, _ => some []
  | _, [] => some []
  | fuel + 1, '\\' :: rest => do
    let (numbers, rest) ← escape rest
    return numbers ++ (← characterNumbers fuel rest)
  | fuel + 1, c :: rest => do return c.toNat :: (← characterNumbers fuel rest)

/-- Whether a number is the first half of a character that is written as two. -/
def isFirstHalf (n : Nat) : Bool := 0xd800 ≤ n && n < 0xdc00

/-- Whether a number is the second half of a character that is written as two. -/
def isSecondHalf (n : Nat) : Bool := 0xdc00 ≤ n && n < 0xe000

/-- The characters of numbers. A first half needs its second half behind it, and no second half stands
alone. -/
def joinHalves : List Nat → Option (List Char)
  | [] => some []
  | n :: rest =>
    if isFirstHalf n then
      match rest with
      | m :: rest =>
        if isSecondHalf m then
          (joinHalves rest).map (Char.ofNat (0x10000 + 0x400 * (n - 0xd800) + (m - 0xdc00)) :: ·)
        else none
      | [] => none
    else if isSecondHalf n then none
    else (joinHalves rest).map (Char.ofNat n :: ·)

/-- What a written string stands for. -/
def unescaped (written : List Char) : Option (List Char) :=
  (characterNumbers written.length written).bind joinHalves

/-- A pair of halves is one character, and a half alone is none. -/
example : joinHalves [0xd83d, 0xde00] = some ['😀'] ∧ joinHalves [0xd83d, 0x61] = none := by decide

end ApiBindings.Template
