import ApiBindings.Decimal.Notation
import ApiBindings.Json.Value
import ApiBindings.Template.Fault
import ApiBindings.Text.Quoted

/-!
# Data of templates

What an expression of a template stands for, which of its parts can be taken, and the text it is printed
as. The entries of an object come in the order they have in it.
-/

namespace ApiBindings.Template

open ApiBindings.Json (Value Entries)

/-- A round of a loop: its number from zero, the number of all rounds where that is known beforehand, and the
items of the rounds beside it. -/
structure Round where
  index : Nat
  count? : Option Nat
  previous? : Option Value
  next? : Option Value
  deriving DecidableEq

/-- What an expression stands for. -/
inductive Datum where
  /-- What is not there. -/
  | absent
  | value (v : Value)
  /-- A number beyond the range of those with a value. -/
  | endless (negative : Bool)
  /-- Text that is printed as it stands. -/
  | markup (s : String)
  | round (r : Round)
  deriving DecidableEq, Inhabited

/-! ## Texts of values -/

/-- The text of a truth value. -/
def boolText (b : Bool) : String := if b then "True" else "False"

/-- A number on its own is written with a point and never with an exponent. -/
def ownNumber : Decimal.Style := .plain

/-- A number inside a list or an object is written with a point from one ten-thousandth up to sixteen
digits before the point, else with an exponent. -/
def innerNumber : Decimal.Style := ⟨some (-4), some 15, false⟩

/-- The text of a number in a notation. -/
def realText (style : Decimal.Style) (x : Decimal.Binary64) : String := String.ofList (style.write x)

mutual

/-- The text of a value inside a list or an object. -/
def inspect : Value → String
  | .null => "None"
  | .bool b => boolText b
  | .int n => toString n
  | .real x => realText innerNumber x
  | .string s => Text.cited s
  | .array items => "[" ++ ", ".intercalate (inspectItems items) ++ "]"
  | .object entries => "\x7b" ++ ", ".intercalate (inspectEntries entries) ++ "\x7d"

/-- The texts of items. -/
def inspectItems : List Value → List String
  | [] => []
  | v :: rest => inspect v :: inspectItems rest

/-- The texts of entries. -/
def inspectEntries : List (String × Value) → List String
  | [] => []
  | (k, v) :: rest => (Text.cited k ++ ": " ++ inspect v) :: inspectEntries rest

end

/-- The text of a round: its number among all rounds. -/
def Round.text (r : Round) : String :=
  "<loop " ++ toString r.index ++ "/" ++ ((r.count?.map toString).getD "?") ++ ">"

namespace Datum

/-- The text of a datum. -/
def text : Datum → String
  | .absent => ""
  | .value (.string s) => s
  | .value (.real x) => realText ownNumber x
  | .value v => inspect v
  | .endless negative => if negative then "-inf" else "inf"
  | .markup s => s
  | .round r => r.text

/-- The kind of a datum, as messages name it. -/
def kind : Datum → String
  | .absent => "undefined"
  | .value .null => "none"
  | .value (.bool _) => "bool"
  | .value (.int _) | .value (.real _) | .endless _ => "number"
  | .value (.string _) | .markup _ => "string"
  | .value (.array _) => "sequence"
  | .value (.object _) | .round _ => "map"

/-- Whether a datum counts as true: what is not there, zero and what is empty do not. -/
def isTrue : Datum → Bool
  | .absent => false
  | .value .null => false
  | .value (.bool b) => b
  | .value (.int n) => n ≠ 0
  | .value (.real x) => !x.isZero
  | .value (.string s) => s ≠ ""
  | .value (.array items) => !items.isEmpty
  | .value (.object entries) => !entries.isEmpty
  | .endless _ => true
  | .markup s => s ≠ ""
  | .round _ => true

/-- Whether a datum is there. -/
def isDefined : Datum → Bool
  | .absent => false
  | _ => true

/-- A datum from what may be there. -/
def ofOption : Option Value → Datum
  | some v => .value v
  | none => .absent

/-- The value of a datum inside a list or an object; what is no value becomes null. -/
def toValue : Datum → Value
  | .value v => v
  | .markup s => .string s
  | _ => .null

/-! ## Parts -/

/-- What a loop tells about one of its rounds. -/
def roundPart (r : Round) : String → Option Value
  | "index" => some (.int (r.index + 1))
  | "index0" => some (.int r.index)
  | "length" => r.count?.map fun n => .int n
  | "revindex" => r.count?.map fun n => .int (n - r.index : Nat)
  | "revindex0" => r.count?.map fun n => .int (n - r.index - 1 : Nat)
  | "first" => some (.bool (r.index == 0))
  | "last" => some (.bool (r.count? == some (r.index + 1)))
  | "depth" => some (.int 1)
  | "depth0" => some (.int 0)
  | "previtem" => r.previous?
  | "nextitem" => r.next?
  | _ => none

/-- The part of a datum under a name; what is not there has no parts at all. -/
def member (d : Datum) (name : String) : Except Fault Datum :=
  match d with
  | .absent => .error .absent
  | .value (.object entries) => .ok (ofOption (Entries.find? entries name))
  | .round r => .ok (ofOption (roundPart r name))
  | _ => .ok .absent

/-- The whole number that a number of 64 bits is equal to. -/
def wholeNumber? (x : Decimal.Binary64) : Option Int :=
  let (n, d) := x.ratio
  if n % d = 0 then some (if x.negative then -((n / d : Nat) : Int) else (n / d : Nat)) else none

/-- The index that a datum can serve as. -/
def index? : Datum → Option Int
  | .value (.int n) => some n
  | .value (.real x) => wholeNumber? x
  | .value (.bool b) => some (if b then 1 else 0)
  | _ => none

/-- The item of a list at an index; a negative one counts from the end. -/
def itemAt {α : Type} (items : List α) (index : Int) : Option α :=
  if 0 ≤ index then items[index.toNat]?
  else if items.length < index.natAbs then none
  else items[items.length - index.natAbs]?

/-- The characters of a text, each as a text of its own. -/
def characters (s : String) : List Value := s.toList.map fun c => .string (String.ofList [c])

/-- The part of a datum at an index or under a key. -/
def item (d key : Datum) : Except Fault Datum :=
  match d with
  | .absent => .error .absent
  | .value (.array items) => .ok (ofOption (key.index?.bind (itemAt items)))
  | .value (.string s) | .markup s => .ok (ofOption (key.index?.bind (itemAt (characters s))))
  | _ =>
    match key with
    | .value (.string name) | .markup name => d.member name
    | _ => .ok .absent

/-- What a loop over a datum runs through: items, keys or characters. -/
def items : Datum → Except Fault (List Value)
  | .absent => .ok []
  | .value .null => .ok []
  | .value (.array items) => .ok items
  | .value (.object entries) => .ok (entries.map fun (k, _) => .string k)
  | .value (.string s) | .markup s => .ok (characters s)
  | d => .error (.notIterable d.kind)

/-- Whether the number of items of a datum is known before a loop has run through them. -/
def isCounted : Datum → Bool
  | .value (.string _) | .markup _ => false
  | _ => true

/-- The number of items of a datum. -/
def size : Datum → Except Fault Nat
  | .value (.array items) => .ok items.length
  | .value (.object entries) => .ok entries.length
  | .value (.string s) | .markup s => .ok s.length
  | d => .error (.noLength d.kind)

end Datum

end ApiBindings.Template
