import ApiBindings.Template.Operation
import ApiBindings.Template.Reading

/-!
# Reading expressions

An expression is read from its loosest operators inwards: a choice, `or`, `and`, `not`, comparisons,
arithmetic, and last an operand with its parts, filters and tests.
-/

namespace ApiBindings.Template.Reading

/-! ## Operands -/

/-- A string together with those behind it, which is one string, in at most `bound` steps. -/
def moreStrings : Nat → String → Reading String
  | 0, s => return s
  | bound + 1, s => do
    match ← peek? with
    | some ⟨.string t, _⟩ => do
      let _ ← next?
      moreStrings bound (s ++ t)
    | _ => return s

/-- What a word stands for. -/
def wordExpr (line : Nat) (s : String) : Expr :=
  match s with
  | "true" | "True" => .literal line (.value (.bool true))
  | "false" | "False" => .literal line (.value (.bool false))
  | "none" | "None" => .literal line (.value .null)
  | s => .name line s

/-- What stands in round brackets, of which the first one is taken: an expression, or a list where a comma
follows it. -/
def bracketed (expr : Reading Expr) (bound line : Nat) : Reading Expr := do
  if ← skip (.symbol ")") then return .list line []
  let e ← expr
  if ← isNext (.symbol ",") then return .list line (e :: (← itemsUpTo expr ")" bound false))
  takeSymbol ")"
  return e

/-- An entry of an object. -/
def entry (expr : Reading Expr) : Reading (Expr × Expr) := do
  let key ← expr
  takeSymbol ":"
  return (key, ← expr)

/-- A literal, a name, a list, an object or what stands in brackets. -/
def primary (expr : Reading Expr) (bound : Nat) : Reading Expr := nested do
  let t ← next "expression"
  let line := (← get).line
  match t with
  | .name s => return wordExpr line s
  | .string s => return .literal line (.value (.string (← moreStrings bound s)))
  | .int n => return .literal line (.value (.int n))
  | .real (some x) => return .literal line (.value (.real x))
  | .real none => return .literal line (.endless false)
  | .symbol "(" => bracketed expr bound line
  | .symbol "[" => return .list line (← itemsUpTo expr "]" bound true)
  | .symbol "\x7b" => return .object line (← itemsUpTo (entry expr) "\x7d" bound true)
  | t => fail (.noExpression t.described)

/-- An expression with its sign turned; the sign of a number that stands there is its own. -/
def turned (line : Nat) (e : Expr) : Expr :=
  match e with
  | .literal _ d =>
    match d.negated with
    | .ok d => .literal line d
    | .error _ => .minus line e
  | e => .minus line e

/-- A primary expression with a minus sign for each one before it, in at most `bound` steps. -/
def signed (primary : Reading Expr) : Nat → Reading Expr
  | 0 => fail .tooDeep
  | bound + 1 => do
    if ← skip (.symbol "-") then
      let line := (← get).line
      return turned line (← signed primary bound)
    else primary

/-- The arguments in the brackets that follow, where there are any. -/
def arguments (expr : Reading Expr) (bound : Nat) : Reading (List Expr) := do
  if ← skip (.symbol "(") then itemsUpTo expr ")" bound true else return []

/-- One end of a stretch or its step, where it is given. -/
def bound? (expr : Reading Expr) (ends : List Token) : Reading (Option Expr) := do
  if ← isNextOf ends then return none else return some (← expr)

/-- What stands in the square brackets behind an expression, of which the first one is taken: a key, or a
start, a stop and a step with colons between them. -/
def inBrackets (expr : Reading Expr) (e : Expr) : Reading Expr := do
  let start? ← bound? expr [.symbol ":"]
  let given (before : Expr) (e? : Option Expr) : Expr := e?.getD (.literal before.line (.value .null))
  match start?, ← skip (.symbol ":") with
  | some key, false =>
    takeSymbol "]"
    return .item e key
  | _, _ =>
    let stop? ← bound? expr [.symbol ":", .symbol "]"]
    let step? ← if ← skip (.symbol ":") then bound? expr [.symbol "]"] else pure none
    takeSymbol "]"
    let start := given e start?
    let stop := given start stop?
    return .stretch e start stop (given stop step?)

/-- The parts that are taken of an expression and the calls of it, in at most `bound` steps. -/
def parts (expr : Reading Expr) : Nat → Expr → Reading Expr
  | 0, _ => fail .tooDeep
  | bound + 1, e => do
    if ← skip (.symbol ".") then
      match ← next partText with
      | .name s => parts expr bound (.member e s)
      | .int n => parts expr bound (.item e (.literal (← get).line (.value (.int n))))
      | t => fail (.unexpected t.described partText)
    else if ← skip (.symbol "[") then parts expr bound (← inBrackets expr e)
    else if ← isNext (.symbol "(") then parts expr bound (.call e (← arguments expr bound))
    else return e
where
  /-- What messages call that which has to stand behind a point. -/
  partText : String := "identifier or integer"

/-- The filters and tests behind an expression, in at most `bound` steps. Their names may have points. -/
def filters (expr : Reading Expr) : Nat → Expr → Reading Expr
  | 0, _ => fail .tooDeep
  | bound + 1, e => do
    if ← skip (.symbol "|") then
      let s ← moreNames bound (← name)
      filters expr bound (.filtered e s (← arguments expr bound))
    else if ← skip (.name "is") then
      let isNegated ← skip (.name "not")
      let s ← moreNames bound (← name)
      let t := Expr.tested e s (← arguments expr bound)
      filters expr bound (if isNegated then .negation t else t)
    else return e

/-- A signed expression with its parts, filters and tests. -/
def operand (expr : Reading Expr) (bound : Nat) : Reading Expr := do
  filters expr bound (← parts expr bound (← signed (primary expr bound) bound))

/-! ## Operators -/

/-- Operators by the tokens that they are written as. -/
abbrev Joins := List (Token × (Expr → Expr → Expr))

/-- Operands with operators between them, after the first one, from left to right, in at most `bound` steps. -/
def joined (joins : Joins) (operand : Reading Expr) : Nat → Expr → Reading Expr
  | 0, _ => fail .tooDeep
  | bound + 1, e => do
    match (← peek?).bind fun p => joins.lookup p.token with
    | some join => do
      let _ ← next?
      joined joins operand bound (join e (← operand))
    | none => return e

/-- Operands with operators between them. -/
def level (bound : Nat) (joins : Joins) (operand : Reading Expr) : Reading Expr := do
  joined joins operand bound (← operand)

/-- Operators by their symbols. -/
def symbolJoins (ops : List Operator) : Joins := ops.map fun op => (.symbol op.symbol, .binary op)

/-- The operators of arithmetic, the loosest ones first. -/
def arithmetic : List (List Operator) :=
  [[.plus, .minus], [.beside], [.times, .over, .wholeOver, .remainder], [.power]]

/-- The comparison that is next, which is taken, and whether it is denied. -/
def comparison? : Reading (Option (Operator × Bool)) := do
  if ← skip (.name "in") then return some (.within, false)
  if ← skip (.name "not") then
    take (.name "in") "in"
    return some (.within, true)
  match (← peek?).bind fun p => symbols.find? fun op => p.token == .symbol op.symbol with
  | some op => do
    let _ ← next?
    return some (op, false)
  | none => return none
where
  /-- The comparisons that are symbols. -/
  symbols : List Operator := [.equal, .different, .less, .atMost, .greater, .atLeast]

/-- Operands with comparisons between them, after the first one, in at most `bound` steps. -/
def comparisons (operand : Reading Expr) : Nat → Expr → Reading Expr
  | 0, _ => fail .tooDeep
  | bound + 1, e => do
    match ← comparison? with
    | some (op, isDenied) => do
      let e := Expr.binary op e (← operand)
      comparisons operand bound (if isDenied then .negation e else e)
    | none => return e

/-- An operand, negated once for each `not` before it, in at most `bound` steps. -/
def negations (operand : Reading Expr) : Nat → Reading Expr
  | 0 => fail .tooDeep
  | bound + 1 => do
    if ← skip (.name "not") then return .negation (← negations operand bound) else operand

/-- An expression without a choice, given how to read the expressions inside it. -/
def disjunction (expr : Reading Expr) (bound : Nat) : Reading Expr :=
  let sum := arithmetic.foldr (fun ops operand => level bound (symbolJoins ops) operand) (operand expr bound)
  let negated := negations (do comparisons sum bound (← sum)) bound
  level bound [(.name "or", .either)] (level bound [(.name "and", .both)] negated)

/-- The choices behind an expression, in at most `bound` steps. -/
def choices (expr disjunction : Reading Expr) : Nat → Expr → Reading Expr
  | 0, _ => fail .tooDeep
  | bound + 1, e => do
    if ← skip (.name "if") then
      let condition ← disjunction
      let no ← if ← skip (.name "else") then expr else pure (.literal e.line .absent)
      choices expr disjunction bound (.choice condition e no)
    else return e

/-- An expression in which others nest at most `depth` deep. -/
def expression (bound : Nat) : Nat → Reading Expr
  | 0 => fail .tooDeep
  | depth + 1 => do
    let expr := expression bound depth
    choices expr (disjunction expr bound) bound (← disjunction expr bound)

end ApiBindings.Template.Reading
