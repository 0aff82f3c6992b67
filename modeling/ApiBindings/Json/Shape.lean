import ApiBindings.Json.Writer

/-!
# Shapes of values

Reading a value as a text, a list, a map or a record, and the mismatch that is reported where it does
not have that shape. The members of a record are independent of each other; of several mismatches the
one that stands first in the object is reported, and a missing member only where all others are right.
-/

namespace ApiBindings.Json

/-! ## Mismatches -/

/-- Why a value does not have the shape that is asked for. -/
inductive Mismatch where
  /-- A value of another kind. -/
  | kind (found : Value) (expected : String)
  /-- An array that is too short or too long. -/
  | length (found : Nat) (expected : String)
  /-- A record without a member it needs. -/
  | missing (member : String)
  /-- An object that should hold one key only. -/
  | notSingle
  /-- A value that fits none of several shapes. -/
  | noVariant (union : String)
  /-- A mismatch below a key. -/
  | under (key : String) (cause : Mismatch)

/-- A value as a message names it. -/
def Value.described : Value → String
  | .null => "null"
  | .bool b => "boolean `" ++ (if b then "true" else "false") ++ "`"
  | .int n => "integer `" ++ toString n ++ "`"
  | .real x => "floating point `" ++ realText x ++ "`"
  | .string s => "string " ++ Text.cited s
  | .array _ => "sequence"
  | .object _ => "map"

/-- The wording of a mismatch. -/
def Mismatch.message : Mismatch → String
  | .kind found expected => "invalid type: " ++ found.described ++ ", expected " ++ expected
  | .length found expected => "invalid length " ++ toString found ++ ", expected " ++ expected
  | .missing member => "missing field `" ++ member ++ "`"
  | .notSingle => "invalid value: map, expected map with a single key"
  | .noVariant union => "data did not match any variant of untagged enum " ++ union
  | .under key cause => key ++ ": " ++ cause.message

/-- A way of reading a value. -/
abbrev Shape (α : Type) := Value → Except Mismatch α

/-! ## Plain shapes -/

namespace Shape

/-- Any value as it stands. -/
def any : Shape Value := fun v => .ok v

/-- A text. -/
def text : Shape String
  | .string s => .ok s
  | v => .error (.kind v "a string")

/-- A truth value. -/
def flag : Shape Bool
  | .bool b => .ok b
  | v => .error (.kind v "a boolean")

/-- An array whose items have a shape. -/
def list {α : Type} (item : Shape α) : Shape (List α)
  | .array items => items.mapM item
  | v => .error (.kind v "a sequence")

/-- An object, entries as they stand. -/
def object : Shape Entries
  | .object entries => .ok entries
  | v => .error (.kind v "a map")

/-- An object whose values have a shape. -/
def map {α : Type} (value : Shape α) : Shape (List (String × α))
  | .object entries => entries.mapM fun (k, v) => (value v).map (k, ·)
  | v => .error (.kind v "a map")

/-- A value that may be null. -/
def nullable {α : Type} (value : Shape α) : Shape (Option α)
  | .null => .ok none
  | v => (value v).map some

end Shape

/-! ## Records -/

/-- A part of a record: how it is read from the entries of an object, where a mismatch comes with its
place, and how from the items of an array from an index on. -/
structure Members (α : Type) where
  ofEntries : Entries → Except (Nat × Mismatch) α
  ofItems : String → Nat → List Value → Except Mismatch (α × Nat × List Value)

namespace Members

/-- A part that holds nothing. -/
def pure {α : Type} (a : α) : Members α where
  ofEntries _ := .ok a
  ofItems _ i items := .ok (a, i, items)

/-- Two parts, one after the other; the mismatch that stands first in the object is reported. -/
def seq {α β : Type} (f : Members (α → β)) (x : Unit → Members α) : Members β where
  ofEntries entries :=
    match f.ofEntries entries, (x ()).ofEntries entries with
    | .ok g, .ok a => .ok (g a)
    | .error e, .ok _ => .error e
    | .ok _, .error e => .error e
    | .error e, .error e' => .error (if e'.1 < e.1 then e' else e)
  ofItems expected i items := do
    let (g, i, items) ← f.ofItems expected i items
    let (a, i, items) ← (x ()).ofItems expected i items
    return (g a, i, items)

instance : Applicative Members where
  pure := pure
  seq := seq

/-- The place of a key among entries, and its value. -/
def locate (key : String) : Nat → Entries → Option (Nat × Value)
  | _, [] => none
  | i, (k, v) :: rest => if k = key then some (i, v) else locate key (i + 1) rest

/-- A member with a key: its value read as a shape, or what stands for it where it is absent. -/
def keyed {α : Type} (key : String) (shape : Shape α) (absent : Option α) (short : Option α) : Members α where
  ofEntries entries :=
    match locate key 0 entries with
    | some (i, v) => (shape v).mapError (i, ·)
    | none => match absent with
      | some a => .ok a
      | none => .error (entries.length, .missing key)
  ofItems expected i items :=
    match items with
    | v :: rest => (shape v).map (·, i + 1, rest)
    | [] => match short with
      | some a => .ok (a, i + 1, [])
      | none => .error (.length i expected)

/-- A member that has to be there. -/
def required {α : Type} (key : String) (shape : Shape α) : Members α :=
  keyed key shape none none

/-- A member that may be absent or null; in an array its place has to be there. -/
def optional {α : Type} (key : String) (shape : Shape α) : Members (Option α) :=
  keyed key shape.nullable (some none) none

/-- A member that has a default where it is absent. -/
def defaulted {α : Type} (key : String) (default : α) (shape : Shape α) : Members α :=
  keyed key shape (some default) (some default)

/-- The entries whose keys are not among the known ones. -/
def others (known : List String) : Members Entries where
  ofEntries entries := .ok (entries.filter fun e => !known.contains e.1)
  ofItems _ i items := .ok ([], i, items)

/-- A record that is read from an object only. -/
def fromObject {α : Type} (name : String) (members : Members α) : Shape α
  | .object entries => (members.ofEntries entries).mapError (·.2)
  | v => .error (.kind v ("struct " ++ name))

/-- A record of `size` members that is read from an object, or from an array in the order of its
members. -/
def fromObjectOrArray {α : Type} (name : String) (size : Nat) (members : Members α) : Shape α
  | .object entries => (members.ofEntries entries).mapError (·.2)
  | .array items => do
    let (a, _, rest) ← members.ofItems ("struct " ++ name ++ " with " ++ toString size ++ " elements") 0 items
    if rest.isEmpty then return a
    else throw (.length items.length "fewer elements in array")
  | v => .error (.kind v ("struct " ++ name))

end Members

end ApiBindings.Json
