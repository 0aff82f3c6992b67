import ApiBindings.Json.Number

/-!
# Reading JSON text

The value that a text holds. Nesting is bounded.
-/

namespace ApiBindings.Json

/-! ## Values -/

/-- The number of brackets that may be open, and one more. -/
def depthLimit : Nat := 128

mutual

/-- A value under `depth` further levels, in at most `fuel` steps. -/
def valueIn (depth : Nat) : Nat → Reading Value
  | 0 => failNext .endInValue
  | fuel + 1 => do
    match ← peekToken with
    | none => failNext .endInValue
    | some c =>
      if c = 'n' then do let _ ← next; word .null ['u', 'l', 'l']
      else if c = 't' then do let _ ← next; word (.bool true) ['r', 'u', 'e']
      else if c = 'f' then do let _ ← next; word (.bool false) ['a', 'l', 's', 'e']
      else if c = '-' then do let _ ← next; number true
      else if c.isDigit then number false
      else if c = '"' then do let _ ← next; return .string (← string)
      else if c = '[' then
        if depth ≤ 1 then failNext .tooDeep
        else do
          let _ ← next
          return .array (← itemsIn (depth - 1) fuel [])
      else if c = '\x7b' then
        if depth ≤ 1 then failNext .tooDeep
        else do
          let _ ← next
          return .object (← entriesIn (depth - 1) fuel [])
      else failNext .noValue

/-- The items of an array after those in `done`, up to the closing bracket. -/
def itemsIn (depth : Nat) : Nat → List Value → Reading (List Value)
  | 0, _ => failNext .endInArray
  | fuel + 1, done => do
    match ← peekToken with
    | none => failNext .endInArray
    | some c =>
      if c = ']' then do let _ ← next; return done.reverse
      else if done.isEmpty then do
        let v ← valueIn depth fuel
        itemsIn depth fuel [v]
      else if c = ',' then do
        let _ ← next
        match ← peekToken with
        | none => failNext .endInValue
        | some d =>
          if d = ']' then failNext .trailingComma
          else do
            let v ← valueIn depth fuel
            itemsIn depth fuel (v :: done)
      else failNext .noCommaInArray

/-- The entries of an object after those in `done`, up to the closing brace. -/
def entriesIn (depth : Nat) : Nat → List (String × Value) → Reading (List (String × Value))
  | 0, _ => failNext .endInObject
  | fuel + 1, done => do
    match ← peekToken with
    | none => failNext .endInObject
    | some c =>
      if c = '\x7d' then do let _ ← next; return Entries.settled done.reverse
      else if done.isEmpty then
        if c = '"' then entryIn depth fuel done else failNext .keyNotString
      else if c = ',' then do
        let _ ← next
        match ← peekToken with
        | none => failNext .endInValue
        | some d =>
          if d = '"' then entryIn depth fuel done
          else if d = '\x7d' then failNext .trailingComma
          else failNext .keyNotString
      else failNext .noCommaInObject

/-- The entry whose key stands next, and those after it. -/
def entryIn (depth : Nat) : Nat → List (String × Value) → Reading (List (String × Value))
  | 0, _ => failNext .endInObject
  | fuel + 1, done => do
    let _ ← next
    let key ← string
    match ← peekToken with
    | none => failNext .endInObject
    | some c =>
      if c = ':' then do
        let _ ← next
        let v ← valueIn depth fuel
        entriesIn depth fuel ((key, v) :: done)
      else failNext .noColon

end

/-- The value that a text begins with. -/
def leading : Reading Value := do
  valueIn depthLimit (3 * (← get).rest.length + 3)

/-- The rest of a text, where nothing but blanks may stand. -/
def finish : Reading Unit := do
  match ← peekToken with
  | none => return ()
  | some _ => failNext .trailingCharacters

/-- What a text holds, given what is to be made of its value. What stands behind the value is looked at last. -/
def readWith {ε α : Type} (ofFailure : Failure → ε) (make : Value → Except ε α) (text : String) :
    Except ε α := do
  let (v, rest) ← (leading.run ⟨text.toList, 0⟩).mapError ofFailure
  let a ← make v
  let _ ← (finish.run rest).mapError ofFailure
  return a

/-- The value that a text holds. -/
def read (text : String) : Except Failure Value := readWith id .ok text

end ApiBindings.Json
