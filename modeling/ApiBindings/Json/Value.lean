import ApiBindings.Decimal.Binary64

/-!
# JSON values

Values with the entries of an object in order. An entry list may hold a key twice, as the text of a
view does; the lists that are read from a text hold each key once.
-/

namespace ApiBindings.Json

open ApiBindings.Decimal (Binary64)

/-- A JSON value; a number is an integer or a finite number of 64 bits. -/
inductive Value where
  | null
  | bool (b : Bool)
  | int (n : Int)
  | real (x : Binary64)
  | string (s : String)
  | array (items : List Value)
  | object (entries : List (String × Value))
  deriving Inhabited

/-- The entries of an object, in order. -/
abbrev Entries := List (String × Value)

/-! ## Equality -/

mutual

/-- Equality of values is decided. -/
def Value.decEq : (a b : Value) → Decidable (a = b)
  | .null, .null => isTrue rfl
  | .bool a, .bool b =>
    if h : a = b then isTrue (by rw [h]) else isFalse fun e => h (Value.bool.inj e)
  | .int a, .int b =>
    if h : a = b then isTrue (by rw [h]) else isFalse fun e => h (Value.int.inj e)
  | .real a, .real b =>
    if h : a = b then isTrue (by rw [h]) else isFalse fun e => h (Value.real.inj e)
  | .string a, .string b =>
    if h : a = b then isTrue (by rw [h]) else isFalse fun e => h (Value.string.inj e)
  | .array a, .array b =>
    match Value.decEqItems a b with
    | isTrue h => isTrue (by rw [h])
    | isFalse h => isFalse fun e => h (Value.array.inj e)
  | .object a, .object b =>
    match Value.decEqEntries a b with
    | isTrue h => isTrue (by rw [h])
    | isFalse h => isFalse fun e => h (Value.object.inj e)
  | .null, .bool _ | .null, .int _ | .null, .real _ | .null, .string _ | .null, .array _ | .null, .object _
  | .bool _, .null | .bool _, .int _ | .bool _, .real _ | .bool _, .string _ | .bool _, .array _
  | .bool _, .object _
  | .int _, .null | .int _, .bool _ | .int _, .real _ | .int _, .string _ | .int _, .array _
  | .int _, .object _
  | .real _, .null | .real _, .bool _ | .real _, .int _ | .real _, .string _ | .real _, .array _
  | .real _, .object _
  | .string _, .null | .string _, .bool _ | .string _, .int _ | .string _, .real _ | .string _, .array _
  | .string _, .object _
  | .array _, .null | .array _, .bool _ | .array _, .int _ | .array _, .real _ | .array _, .string _
  | .array _, .object _
  | .object _, .null | .object _, .bool _ | .object _, .int _ | .object _, .real _ | .object _, .string _
  | .object _, .array _ => isFalse nofun

/-- Equality of lists of values is decided. -/
def Value.decEqItems : (a b : List Value) → Decidable (a = b)
  | [], [] => isTrue rfl
  | [], _ :: _ => isFalse nofun
  | _ :: _, [] => isFalse nofun
  | x :: xs, y :: ys =>
    match Value.decEq x y, Value.decEqItems xs ys with
    | isTrue h, isTrue t => isTrue (by rw [h, t])
    | isFalse h, _ => isFalse fun e => h (List.cons.inj e).1
    | _, isFalse t => isFalse fun e => t (List.cons.inj e).2

/-- Equality of entry lists is decided. -/
def Value.decEqEntries : (a b : List (String × Value)) → Decidable (a = b)
  | [], [] => isTrue rfl
  | [], _ :: _ => isFalse nofun
  | _ :: _, [] => isFalse nofun
  | (k, x) :: xs, (l, y) :: ys =>
    if hk : k = l then
      match Value.decEq x y, Value.decEqEntries xs ys with
      | isTrue h, isTrue t => isTrue (by rw [hk, h, t])
      | isFalse h, _ => isFalse fun e => h (Prod.mk.inj (List.cons.inj e).1).2
      | _, isFalse t => isFalse fun e => t (List.cons.inj e).2
    else isFalse fun e => hk (Prod.mk.inj (List.cons.inj e).1).1

end

instance : DecidableEq Value := Value.decEq

/-! ## Entries -/

namespace Entries

/-- The value of the first entry with a key. -/
def find? (entries : Entries) (key : String) : Option Value := entries.lookup key

/-- Whether some entry has a key. -/
def has (entries : Entries) (key : String) : Bool := entries.any (·.1 == key)

/-- The entries with a key set: in its place where it is there already, else at the end. -/
def set (entries : Entries) (key : String) (value : Value) : Entries :=
  match entries with
  | [] => [(key, value)]
  | (k, v) :: rest => if k = key then (k, value) :: rest else (k, v) :: set rest key value

/-- The entries with each key once: in the place of its first entry, with the value of its last. -/
def settled (entries : Entries) : Entries :=
  entries.foldl (fun done e => done.set e.1 e.2) []

/-- The entries without a key. -/
def without (entries : Entries) (key : String) : Entries := entries.filter (·.1 ≠ key)

end Entries

mutual

/-- The value with each key of its objects once, in the place of the first entry and with the value of
the last. -/
def Value.settle : Value → Value
  | .array items => .array (settleItems items)
  | .object entries => .object (Entries.settled (settleEntries entries))
  | v => v

/-- The items of an array, settled. -/
def settleItems : List Value → List Value
  | [] => []
  | v :: rest => v.settle :: settleItems rest

/-- The values of entries, settled. -/
def settleEntries : List (String × Value) → List (String × Value)
  | [] => []
  | (k, v) :: rest => (k, v.settle) :: settleEntries rest

end

/-! ## Views of a value -/

namespace Value

/-- The text of a string. -/
def text? : Value → Option String
  | .string s => some s
  | _ => none

/-- The items of an array. -/
def items? : Value → Option (List Value)
  | .array items => some items
  | _ => none

/-- The entries of an object. -/
def entries? : Value → Option Entries
  | .object entries => some entries
  | _ => none

/-- The value of a key of an object. -/
def get? (v : Value) (key : String) : Option Value :=
  v.entries?.bind (Entries.find? · key)

end Value

end ApiBindings.Json
