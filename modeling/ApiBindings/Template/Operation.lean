import ApiBindings.Template.Basic

/-!
# Operations on data

What the operators of expressions make of two data: order and equality across kinds of numbers, exact
arithmetic with one rounding, and containment.
-/

namespace ApiBindings.Template

open ApiBindings.Decimal (Binary64)
open ApiBindings.Json (Value Entries)

/-! ## Numbers -/

/-- The greatest whole number, which fits 128 bits with a sign. -/
def intLimit : Int := Nat.pow 2 127 - 1

/-- A whole number within bounds. -/
def boundedInt? (n : Int) : Option Datum :=
  if -intLimit - 1 ≤ n ∧ n ≤ intLimit then some (.value (.int n)) else none

/-- A number with its sign turned. -/
def Datum.negated : Datum → Except Fault Datum
  | .value (.int n) => if n ≤ intLimit + 1 then .ok (.value (.int (-n))) else .error .notNumber
  | .value (.real x) => .ok (.value (.real (x.withSign !x.negative)))
  | .endless negative => .ok (.endless !negative)
  | _ => .error .notNumber

/-- A number to calculate with: a whole one, or one of 64 bits. -/
inductive Number where
  | int (n : Int)
  | real (x : Binary64)

/-- The number that a datum can serve as; a truth value is one or zero. -/
def Datum.number? : Datum → Option Number
  | .value (.int n) => some (.int n)
  | .value (.bool b) => some (.int (if b then 1 else 0))
  | .value (.real x) => some (.real x)
  | _ => none

namespace Number

/-- A number as a quotient with a positive denominator. -/
def quotient : Number → Int × Nat
  | .int n => (n, 1)
  | .real x =>
    let (n, d) := x.ratio
    (if x.negative then -(n : Int) else n, d)

/-- The order of two numbers, whichever their kinds. -/
def compare (a b : Number) : Ordering :=
  let (m, c) := a.quotient
  let (n, d) := b.quotient
  Ord.compare (m * d) (n * c)

/-- The number of 64 bits nearest to a quotient. -/
def rounded (num : Int) (den : Nat) : Datum :=
  match Binary64.nearest (num < 0) num.natAbs den with
  | some x => .value (.real x)
  | none => .endless (num < 0)

/-- The whole part of a division that leaves no negative remainder. -/
def wholeQuotient (a b : Number) : Int × Nat :=
  let (m, c) := a.quotient
  let (n, d) := b.quotient
  ((m * d) / (n * c), 1)

/-- What such a division leaves. -/
def rest (a b : Number) : Int × Nat :=
  let (m, c) := a.quotient
  let (n, d) := b.quotient
  ((m * d) % (n * c), c * d)

/-- A power with a whole exponent that is not negative. -/
def raised (a b : Number) : Option (Int × Nat) :=
  let (m, c) := a.quotient
  let (n, d) := b.quotient
  if 0 ≤ n ∧ d = 1 ∧ n < 1024 then some (m.pow n.toNat, Nat.pow c n.toNat) else none

/-- The exact result of an operator, as a quotient. -/
def quotientOf? (op : Operator) (a b : Number) : Option (Int × Nat) :=
  let (m, c) := a.quotient
  let (n, d) := b.quotient
  match op with
  | .plus => some (m * d + n * c, c * d)
  | .minus => some (m * d - n * c, c * d)
  | .times => some (m * n, c * d)
  | .over => if n = 0 then none else some (m * d * n.sign, c * n.natAbs)
  | .wholeOver => if n = 0 then none else some (wholeQuotient a b)
  | .remainder => if n = 0 then none else some (rest a b)
  | .power => raised a b
  | _ => none

/-- The result of an operator. Only whole numbers have a whole result, and a quotient is never whole. -/
def result? (op : Operator) (a b : Number) : Option Datum := do
  let (num, den) ← quotientOf? op a b
  match op, a, b with
  | .over, _, _ => return rounded num den
  | _, .int _, .int _ => boundedInt? num
  | _, _, _ => return rounded num den

end Number

/-! ## Order -/

mutual

/-- Whether two values are equal. Numbers are compared by what they are worth, and objects without regard to
the order of their entries. -/
def sameValue : Value → Value → Bool
  | .array a, .array b => sameItems a b
  | .object a, .object b => a.length == b.length && sameEntries a b
  | .null, .null => true
  | .string a, .string b => a == b
  | a, b =>
    match (Datum.value a).number?, (Datum.value b).number? with
    | some a, some b => a.compare b == .eq
    | _, _ => false

/-- Whether two lists of values are equal. -/
def sameItems : List Value → List Value → Bool
  | [], [] => true
  | a :: as, b :: bs => sameValue a b && sameItems as bs
  | _, _ => false

/-- Whether an object has all of several entries. -/
def sameEntries : List (String × Value) → Entries → Bool
  | [], _ => true
  | (k, a) :: rest, entries =>
    (match entries.lookup k with
      | some b => sameValue a b
      | none => false) && sameEntries rest entries

end

/-- The place of a kind among the kinds. -/
def Datum.rank : Datum → Nat
  | .absent => 0
  | .value .null => 1
  | .value (.bool _) => 2
  | .value (.int _) | .value (.real _) | .endless _ => 3
  | .value (.string _) | .markup _ => 4
  | .value (.array _) => 5
  | .value (.object _) | .round _ => 6

namespace Datum

/-- The text of a datum that is text. -/
def ownText? : Datum → Option String
  | .value (.string s) | .markup s => some s
  | _ => none

/-- Whether two data are equal. -/
def same (a b : Datum) : Bool :=
  match a, b with
  | .value a, .value b => sameValue a b
  | a, b =>
    match a.ownText?, b.ownText? with
    | some a, some b => a == b
    | _, _ => a == b

end Datum

mutual

/-- The order of two values: by kind, then numbers by what they are worth, texts by their characters and lists
by their first different items. -/
def compareValues : Value → Value → Ordering
  | .array a, .array b => compareItems a b
  | .string a, .string b => compare a b
  | a, b =>
    (compare (Datum.value a).rank (Datum.value b).rank).then
      (match (Datum.value a).number?, (Datum.value b).number? with
        | some a, some b => a.compare b
        | _, _ => .eq)

/-- The order of two lists of values. -/
def compareItems : List Value → List Value → Ordering
  | [], [] => .eq
  | [], _ :: _ => .lt
  | _ :: _, [] => .gt
  | a :: as, b :: bs => (compareValues a b).then (compareItems as bs)

end

namespace Datum

/-- The side of the numbers with a value that a datum is on. -/
def side : Datum → Int
  | .endless negative => if negative then -1 else 1
  | _ => 0

/-- The order of two data. What is beyond the range of numbers is above or below all of them. -/
def order (a b : Datum) : Ordering :=
  match a, b with
  | .value a, .value b => compareValues a b
  | a, b =>
    match a.ownText?, b.ownText? with
    | some a, some b => compare a b
    | _, _ => (compare a.rank b.rank).then (compare a.side b.side)

/-! ## Stretches -/

/-- The place that an end of a stretch stands for, a negative one counted from the end, between two bounds. -/
def place (length lower upper : Int) (n : Int) : Int :=
  max lower (min upper (if n < 0 then length + n else n))

/-- Every `step`-th item, the first one among them. -/
def everyNth {α : Type} (step : Nat) (items : List α) : List α :=
  items.zipIdx.filterMap fun (a, i) => if i % step = 0 then some a else none

/-- The items of a stretch. Where the step is negative it runs backwards from its start. -/
def stretchOf {α : Type} (items : List α) (start? stop? : Option Int) (step : Int) : List α :=
  let n : Int := items.length
  if 0 ≤ step then
    let first := place n 0 n (start?.getD 0)
    let last := place n 0 n (stop?.getD n)
    everyNth step.toNat ((items.take last.toNat).drop first.toNat)
  else
    let first := place n (-1) (n - 1) (start?.getD (n - 1))
    let last := (stop?.map (place n (-1) (n - 1))).getD (-1)
    everyNth step.natAbs ((items.take (first + 1).toNat).drop (last + 1).toNat).reverse

/-- An end of a stretch or its step, where it is given. -/
def ofStretch : Datum → Except Fault (Option Int)
  | .value .null => .ok none
  | d =>
    match d.index? with
    | some n => .ok (some n)
    | none => .error .notNumber

/-- A stretch of a text or a list. -/
def stretch (d start stop step : Datum) : Except Fault Datum := do
  let start? ← start.ofStretch
  let stop? ← stop.ofStretch
  let step := (← step.ofStretch).getD 1
  if step = 0 then .error .noStep
  match d with
  | .absent | .value .null => return .value (.array [])
  | .value (.array items) => return .value (.array (stretchOf items start? stop? step))
  | .value (.string s) | .markup s =>
    return .value (.string (String.ofList (stretchOf s.toList start? stop? step)))
  | d => .error (.notStretch d.kind)

/-! ## Operators -/

/-- Whether a text has a certain part. -/
def hasPart (part : List Char) : List Char → Bool
  | [] => part.isEmpty
  | c :: rest => part.isPrefixOf (c :: rest) || hasPart part rest

/-- Whether a datum holds another one: a text a part of it, a list an item, an object a key. -/
def contains (d part : Datum) : Except Fault Bool :=
  match d with
  | .absent => .ok false
  | .value (.array items) => .ok (items.any fun v => (Datum.value v).same part)
  | .value (.object entries) => .ok (part.ownText?.any fun k => Entries.has entries k)
  | .value (.string s) | .markup s => .ok (hasPart part.text.toList s.toList)
  | _ => .error .notContainer

/-- The result of an arithmetic operator: texts and lists can be added, and numbers can be calculated with. -/
def arithmetic (op : Operator) (a b : Datum) : Except Fault Datum :=
  match op, a, b with
  | .plus, .value (.array xs), .value (.array ys) => .ok (.value (.array (xs ++ ys)))
  | op, a, b =>
    match if op = .plus then a.ownText?.bind fun s => b.ownText?.map fun t => s ++ t else none with
    | some s => .ok (.value (.string s))
    | none =>
      match a.number?, b.number? with
      | some m, some n =>
        match m.result? op n with
        | some d => .ok d
        | none => .error (.noResult op.symbol a.text b.text)
      | _, _ => .error (.badOperands op.symbol a.kind b.kind)

/-- A truth value as a datum. -/
def ofBool (b : Bool) : Datum := .value (.bool b)

/-- The result of an operator. -/
def apply (op : Operator) (a b : Datum) : Except Fault Datum :=
  match op with
  | .equal => .ok (ofBool (a.same b))
  | .different => .ok (ofBool !a.same b)
  | .less => .ok (ofBool (a.order b).isLT)
  | .atMost => .ok (ofBool (a.order b).isLE)
  | .greater => .ok (ofBool (a.order b).isGT)
  | .atLeast => .ok (ofBool (a.order b).isGE)
  | .within => (b.contains a).map ofBool
  | .beside => .ok (.value (.string (a.text ++ b.text)))
  | op => arithmetic op a b

end Datum

end ApiBindings.Template
