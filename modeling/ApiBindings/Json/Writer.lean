import ApiBindings.Decimal.Notation
import ApiBindings.Json.Value
import ApiBindings.Text.Quoted

/-!
# JSON text of a value

The compact text, and the one spread over lines with two blanks for each level. Entries are written as
they stand, a key that occurs twice included.
-/

namespace ApiBindings.Json

open ApiBindings.Decimal (Binary64 Style)

/-! ## Scalars -/

/-- Numbers have a point from a hundred-thousandth up to ten to the sixteenth, and beyond that an
exponent with its sign. -/
def numberStyle : Style := ⟨some (-5), some 15, true⟩

/-- The text of a number of 64 bits. -/
def realText (x : Binary64) : String := String.ofList (numberStyle.write x)

/-- A character within a string. -/
def escaped (c : Char) : List Char :=
  if c = '"' then ['\\', '"']
  else if c = '\\' then ['\\', '\\']
  else if c = '\n' then ['\\', 'n']
  else if c = '\r' then ['\\', 'r']
  else if c = '\t' then ['\\', 't']
  else if c.toNat = 8 then ['\\', 'b']
  else if c.toNat = 12 then ['\\', 'f']
  else if c.toNat < 16 then ['\\', 'u', '0', '0', '0'] ++ Text.hexDigits c.toNat
  else if c.toNat < 32 then ['\\', 'u', '0', '0'] ++ Text.hexDigits c.toNat
  else [c]

/-- A string between its quotes. -/
def stringText (s : String) : String :=
  String.ofList ('"' :: s.toList.flatMap escaped ++ ['"'])

/-! ## Compact text -/

mutual

/-- The text of a value without any blank. -/
def Value.compact : Value → String
  | .null => "null"
  | .bool b => if b then "true" else "false"
  | .int n => toString n
  | .real x => realText x
  | .string s => stringText s
  | .array items => "[" ++ compactItems items ++ "]"
  | .object entries => "\x7b" ++ compactEntries entries ++ "\x7d"

/-- The items of an array, with commas between them. -/
def compactItems : List Value → String
  | [] => ""
  | [v] => v.compact
  | v :: w :: rest => v.compact ++ "," ++ compactItems (w :: rest)

/-- The entries of an object, with commas between them. -/
def compactEntries : List (String × Value) → String
  | [] => ""
  | [(k, v)] => stringText k ++ ":" ++ v.compact
  | (k, v) :: e :: rest => stringText k ++ ":" ++ v.compact ++ "," ++ compactEntries (e :: rest)

end

/-! ## Text over lines -/

/-- A line end and the blanks of a level. -/
def lineAt (level : Nat) : String := "\n" ++ String.ofList (List.replicate (2 * level) ' ')

mutual

/-- The text of a value that stands at a level, over lines. -/
def Value.prettyAt (level : Nat) : Value → String
  | .array [] => "[]"
  | .array (v :: rest) =>
    "[" ++ lineAt (level + 1) ++ v.prettyAt (level + 1) ++ prettyItems (level + 1) rest ++ lineAt level ++ "]"
  | .object [] => "\x7b\x7d"
  | .object ((k, v) :: rest) =>
    "\x7b" ++ lineAt (level + 1) ++ stringText k ++ ": " ++ v.prettyAt (level + 1) ++
      prettyEntries (level + 1) rest ++ lineAt level ++ "\x7d"
  | .null => "null"
  | .bool b => if b then "true" else "false"
  | .int n => toString n
  | .real x => realText x
  | .string s => stringText s

/-- The items after the first one, each after a comma on a line of its own. -/
def prettyItems (level : Nat) : List Value → String
  | [] => ""
  | v :: rest => "," ++ lineAt level ++ v.prettyAt level ++ prettyItems level rest

/-- The entries after the first one, each after a comma on a line of its own. -/
def prettyEntries (level : Nat) : List (String × Value) → String
  | [] => ""
  | (k, v) :: rest =>
    "," ++ lineAt level ++ stringText k ++ ": " ++ v.prettyAt level ++ prettyEntries level rest

end

/-- The text of a value over lines. -/
def Value.pretty (v : Value) : String := v.prettyAt 0

end ApiBindings.Json
