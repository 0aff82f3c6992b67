import ApiBindings.Template.Reader.Expression
import ApiBindings.Template.Token.Lexer

/-!
# Reading templates

The tokens of a template are read as nodes: text, output, and the statements with what they enclose.
-/

namespace ApiBindings.Template

namespace Reading

/-! ## Targets -/

/-- What may follow the names of a loop. -/
def targetEnds : List Token := [.symbol ")", .outputEnd, .blockEnd, .name "in"]

mutual

/-- The names of a loop: one, or several that share the parts of an item. -/
def target : Nat → Reading Target
  | 0 => fail .tooDeep
  | bound + 1 => do
    let line ← lineOfNext
    match ← targetParts bound with
    | ([t], false) => return t
    | (ts, _) => return .several line ts

/-- Names with commas between them, and whether there is a comma. -/
def targetParts : Nat → Reading (List Target × Bool)
  | 0 => fail .tooDeep
  | bound + 1 => do
    if ← isNextOf targetEnds then return ([], false)
    let t ← if ← skip (.symbol "(") then do
        let t ← target bound
        takeSymbol ")"
        pure t
      else pure (.one (← variableName))
    if ← skip (.symbol ",") then
      let (ts, _) ← targetParts bound
      return (t :: ts, true)
    else return ([t], false)

end

/-! ## Nodes -/

mutual

/-- The nodes up to the end of the tokens or to a statement of one of several names, which stays. -/
def nodesUpTo (expr : Reading Expr) (bound : Nat) : Nat → List String → Reading (List Node)
  | 0, _ => fail .tooDeep
  | depth + 1, ends => do
    match ← next? with
    | some (.text s) => return .text s :: (← nodesUpTo expr bound depth ends)
    | some .outputStart =>
      let e ← expr
      take .outputEnd "end of variable block"
      return .output e :: (← nodesUpTo expr bound depth ends)
    | some .blockStart =>
      match ← peek? with
      | none => fail (.unexpected endText "keyword")
      | some p =>
        let isEnd := match p.token with
          | .name s => ends.contains s
          | _ => false
        if isEnd then return []
        let node ← nested (statement expr bound depth)
        takeBlockEnd
        return node :: (← nodesUpTo expr bound depth ends)
    | _ => return []

/-- A statement, without the end of its last tag. -/
def statement (expr : Reading Expr) (bound : Nat) : Nat → Reading Node
  | 0 => fail .tooDeep
  | depth + 1 => do
    match ← next "block keyword" with
    | .name "for" => loop expr bound depth
    | .name "if" => conditional expr bound depth
    | .name "macro" => definition expr bound depth
    | .name s => fail (.unknownStatement s)
    | t => fail (.noStatement t.described)

/-- A loop, behind its keyword. -/
def loop (expr : Reading Expr) (bound : Nat) : Nat → Reading Node
  | 0 => fail .tooDeep
  | depth + 1 => do
    let t ← target bound
    take (.name "in") "in"
    let items ← disjunction expr bound
    let condition ← if ← skip (.name "if") then pure (some (← expr)) else pure none
    takeBlockEnd
    let body ← nodesUpTo expr bound depth ["endfor", "else"]
    let hasElse ← skip (.name "else")
    let otherwise ←
      if hasElse then do
        takeBlockEnd
        nodesUpTo expr bound depth ["endfor"]
      else pure []
    let _ ← next?
    return .each t items condition body otherwise

/-- A conditional, behind its keyword. -/
def conditional (expr : Reading Expr) (bound : Nat) : Nat → Reading Node
  | 0 => fail .tooDeep
  | depth + 1 => do
    let condition ← expr
    takeBlockEnd
    let yes ← nodesUpTo expr bound depth ["endif", "else", "elif"]
    let no ← match ← next? with
      | some (.name "else") => do
        takeBlockEnd
        let no ← nodesUpTo expr bound depth ["endif"]
        let _ ← next?
        pure no
      | some (.name "elif") => do pure [← conditional expr bound depth]
      | _ => pure []
    return .branch condition yes no

/-- A definition of a function, behind its keyword. -/
def definition (expr : Reading Expr) (bound : Nat) : Nat → Reading Node
  | 0 => fail .tooDeep
  | depth + 1 => do
    let s ← name
    takeSymbol "("
    let parameters ← itemsUpTo variableName ")" bound true
    takeBlockEnd
    let body ← nodesUpTo expr bound depth ["endmacro"]
    let _ ← next?
    return .define s parameters body

end

end Reading

/-- The nodes of a template. -/
def readChars (cs : List Char) : Except Failure (List Node) := do
  let tokens := tokensOf cs
  let bound := tokens.length + 1
  let (nodes, _) ← (Reading.nodesUpTo (Reading.expression bound bound) bound (2 * bound) []).run ⟨tokens, 1, 0⟩
  return nodes

/-- The nodes of the text of a template. -/
def read (text : String) : Except Failure (List Node) := readChars text.toList

end ApiBindings.Template
