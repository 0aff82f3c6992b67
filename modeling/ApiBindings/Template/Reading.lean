import ApiBindings.Template.Basic
import ApiBindings.Template.Token

/-!
# Steps of reading templates

The tokens of a template are taken from the left. A token that does not fit is reported on its line; where
the tokens end too early the line is that of the last one.
-/

namespace ApiBindings.Template

/-- The tokens that are left, the line of the last one that was taken, and the number of statements and
brackets that are open. -/
structure Rest where
  tokens : List Placed
  line : Nat
  depth : Nat

/-- A step of reading. -/
abbrev Reading := StateT Rest (Except Failure)

namespace Reading

/-- A fault on the line of the last token. -/
def fail {α : Type} (f : Fault) : Reading α := do throw ⟨f, (← get).line⟩

/-! ## Tokens -/

/-- The next token, which stays. A string with a bad escape is reported like a token that does not fit. -/
def peek? : Reading (Option Placed) := do
  match (← get).tokens with
  | [] => return none
  | ⟨.fault .badEscape, _⟩ :: _ => fail .badEscape
  | ⟨.fault f, line⟩ :: _ => throw ⟨f, line⟩
  | p :: _ => return some p

/-- The next token, which is taken. -/
def next? : Reading (Option Token) := do
  match ← peek? with
  | none => return none
  | some p =>
    modify fun r => { r with tokens := r.tokens.tail, line := p.line }
    return some p.token

/-- What messages call the end of the tokens. -/
def endText : String := "end of input"

/-- The next token, where some token has to stand. -/
def next (expected : String) : Reading Token := do
  match ← next? with
  | some t => return t
  | none => fail (.unexpected endText expected)

/-- A certain token is taken. -/
def take (token : Token) (expected : String) : Reading Unit := do
  let t ← next expected
  if t = token then return () else fail (.unexpected t.described expected)

/-- A certain symbol is taken. -/
def takeSymbol (s : String) : Reading Unit := take (.symbol s) ("\x60" ++ s ++ "\x60")

/-- The end of a statement is taken. -/
def takeBlockEnd : Reading Unit := take .blockEnd "end of block"

/-- Whether a certain token is next. -/
def isNext (token : Token) : Reading Bool := return (← peek?).map (·.token) == some token

/-- Whether one of several tokens is next. -/
def isNextOf (tokens : List Token) : Reading Bool :=
  return match ← peek? with
    | some p => tokens.contains p.token
    | none => false

/-- A certain token is taken if it is next. -/
def skip (token : Token) : Reading Bool := do
  if ← isNext token then
    let _ ← next?
    return true
  else return false

/-- The line of the next token. -/
def lineOfNext : Reading Nat := do
  match ← peek? with
  | some p => return p.line
  | none => return (← get).line

/-! ## Names -/

/-- A name. -/
def name : Reading String := do
  match ← next "identifier" with
  | .name s => return s
  | t => fail (.unexpected t.described "identifier")

/-- Names with points between them, after the first one, in at most `bound` steps. -/
def moreNames : Nat → String → Reading String
  | 0, s => return s
  | bound + 1, s => do
    if ← skip (.symbol ".") then moreNames bound (s ++ "." ++ (← name)) else return s

/-- The names that no variable may have. -/
def reservedNames : List String := ["true", "True", "false", "False", "none", "None", "loop", "self"]

/-- The name of a variable. -/
def variableName : Reading String := do
  let s ← name
  if reservedNames.contains s then fail (.reserved s) else return s

/-! ## Nesting -/

/-- The number of statements and brackets that may be open. -/
def depthLimit : Nat := 150

/-- A step inside one more statement or pair of brackets. -/
def nested {α : Type} (step : Reading α) : Reading α := do
  let depth := (← get).depth
  if depthLimit ≤ depth then fail .tooDeep
  modify fun r => { r with depth := depth + 1 }
  let a ← step
  modify fun r => { r with depth }
  return a

/-- Items with commas between them up to a closing symbol, in at most `bound` steps. -/
def itemsUpTo {α : Type} (item : Reading α) (close : String) : Nat → Bool → Reading (List α)
  | 0, _ => fail .tooDeep
  | bound + 1, isFirst => do
    if ← skip (.symbol close) then return []
    if !isFirst then
      takeSymbol ","
      if ← skip (.symbol close) then return []
    let a ← item
    return a :: (← itemsUpTo item close bound false)

end Reading

end ApiBindings.Template
