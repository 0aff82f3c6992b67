import ApiBindings.Text.Words

/-!
# Names

The names of methods and parameters: an explicit identifier made safe, a name derived from a path, the
camel case of a parameter's name, and the suffix that keeps method names apart.
-/

namespace ApiBindings

open Text

/-! ## Explicit names -/

/-- A character that may stand in an identifier, for one that is taken from a document. -/
def safeChar (c : Char) : Char :=
  if c = '.' ∨ c = '-' ∨ c = '\x7b' ∨ c = '\x7d' then '_' else c

/-- An explicit identifier with dots, dashes and braces made underscores. -/
def normalizedName (id : String) : String := String.ofList (id.toList.map safeChar)

/-- The camel case of a parameter's name; letters and digits make words of their own. -/
def camelCaseName (name : String) : String := String.ofList (lowerCamel (breakDigits name.toList))

/-! ## Names from paths -/

/-- What stands between braces that enclose a segment. -/
def inBraces? (segment : List Char) : Option (List Char) :=
  match segment with
  | '\x7b' :: rest => if rest.getLast? = some '\x7d' then some rest.dropLast else none
  | _ => none

/-- A segment as it counts for a name: `by` and the variable for one in braces. -/
def segmentWords (segment : List Char) : List Char :=
  match inBraces? segment with
  | some v => 'b' :: 'y' :: raiseFirst v
  | none => segment

/-- A path without one slash at its end. -/
def withoutLastSlash (path : List Char) : List Char :=
  if path.getLast? = some '/' then path.dropLast else path

/-- The name of the operation of a verb on a path. What stands before the first slash does not count;
the root has the verb itself for a name. -/
def pathName (verb path : String) : String :=
  if path = "" ∨ path = "/" then verb
  else
    let segments := (pieces (· = '/') (withoutLastSlash path.toList)).drop 1
    let rest := lowerCamel (breakDigits (['-'].intercalate (segments.map segmentWords)))
    String.ofList (toLower verb.toList ++ raiseFirst rest)

/-! ## Distinct names -/

/-- A name with a number after it. -/
def numbered (name : String) (k : Nat) : String := name ++ "_" ++ toString k

/-- Different numbers make different names. -/
theorem numbered_inj {name : String} {j k : Nat} (same : numbered name j = numbered name k) : j = k := by
  have spelling : (toString j : String) = toString k := by simpa [numbered, String.append_assoc] using same
  have digits : Nat.toDigits 10 j = Nat.toDigits 10 k := by simpa [Nat.repr] using congrArg String.toList spelling
  rw [← Nat.ofDigitChars_ten_toDigits (n := j), digits, Nat.ofDigitChars_ten_toDigits]

/-- The greatest number behind a name. Numbers are counted in words of thirty-two bits, one of them for the sign. -/
def lastNumber : Nat := 2147483647

/-- The first number from `k` on that makes a name which is not taken; none if the numbers run out before. -/
def freeNumber? (taken : List String) (name : String) (k : Nat) : Option Nat :=
  if numbered name k ∈ taken then
    if k < lastNumber then freeNumber? taken name (k + 1) else none
  else some k
termination_by lastNumber - k

/-- A name claimed: the one that is handed out, and what is taken from then on. It is the name itself as long as that
is free, else that one with the first free number from one on. -/
def claim? (taken : List String) (name : String) : Option (String × List String) :=
  let given? := if name ∈ taken then (freeNumber? taken name 1).map (numbered name) else some name
  given?.map fun given => (given, taken ++ [given])

/-- A name claimed in a walk. The numbers outlast any walk of at most 2³¹ operations; past them, where no name is left
to hand out, the one that is asked for stays. -/
def claim (taken : List String) (name : String) : String × List String :=
  (claim? taken name).getD (name, taken ++ [name])

/-- The name that is handed out in a walk. -/
def claimName (taken : List String) (name : String) : String := (claim taken name).1

@[simp] theorem claim_fst (taken : List String) (name : String) : (claim taken name).1 = claimName taken name := rfl

@[simp] theorem claim_snd (taken : List String) (name : String) :
    (claim taken name).2 = taken ++ [claimName taken name] := by
  unfold claimName claim claim?
  cases (if name ∈ taken then (freeNumber? taken name 1).map (numbered name) else some name) <;> rfl

/-- The names that are handed out for a list of names asked for in turn. -/
def claimNames (taken : List String) : List String → List String
  | [] => []
  | name :: rest => (claim taken name).1 :: claimNames (claim taken name).2 rest

end ApiBindings
