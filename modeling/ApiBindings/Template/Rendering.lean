import ApiBindings.Json.Order
import ApiBindings.Template.Reader
import ApiBindings.Text.Comment

/-!
# Rendering templates

The text of a template with given data. The recursion is on the template, so each piece of text can be
traced to the node it comes from. In templates whose name says that they write markup, data are escaped.
-/

namespace ApiBindings.Template

open ApiBindings.Json (Value Entries)

/-! ## Escaping -/

/-- A character as it stands in markup. -/
def markupChar (c : Char) : List Char :=
  if c = '<' then ['&', 'l', 't', ';']
  else if c = '>' then ['&', 'g', 't', ';']
  else if c = '&' then ['&', 'a', 'm', 'p', ';']
  else if c = '"' then ['&', 'q', 'u', 'o', 't', ';']
  else if c = '\'' then ['&', '#', 'x', '2', '7', ';']
  else if c = '/' then ['&', '#', 'x', '2', 'f', ';']
  else [c]

/-- A text as it stands in markup. -/
def markupText (s : String) : String := String.ofList (s.toList.flatMap markupChar)

/-- The extension of a name, behind its last point; a name without a point is its own extension. -/
def extension (cs : List Char) : List Char := (cs.reverse.takeWhile (· ≠ '.')).reverse

/-- The endings of names that say no more than that a text is a template. -/
def templateEndings : List (List Char) := [".j2".toList, ".jinja2".toList, ".jinja".toList]

/-- A name without an ending that says no more than that a text is a template. -/
def withoutTemplateEnding (cs : List Char) : List Char :=
  match templateEndings.find? (·.isSuffixOf cs) with
  | some ending => cs.take (cs.length - ending.length)
  | none => cs

/-- Whether a template with a name writes markup. -/
def writesMarkup (name : String) : Bool :=
  ["html".toList, "htm".toList, "xml".toList].contains (extension (withoutTemplateEnding name.toList))

/-! ## Scopes -/

/-- What names mean at a place in a template. -/
structure Scope where
  isMarkup : Bool
  names : List (String × Datum)
  functions : List (String × (Nat → List Datum → Except Failure Datum))

namespace Scope

/-- The datum of a name. -/
def find (scope : Scope) (name : String) : Datum := (scope.names.lookup name).getD .absent

/-- The scope with one more name. -/
def withName (scope : Scope) (name : String) (d : Datum) : Scope :=
  { scope with names := (name, d) :: scope.names }

/-- The scope with one more function. -/
def withFunction (scope : Scope) (name : String) (f : Nat → List Datum → Except Failure Datum) : Scope :=
  { scope with functions := (name, f) :: scope.functions }

/-- The scope with names for the arguments of a function; an argument that is not given is absent. -/
def withArguments (scope : Scope) : List String → List Datum → Scope
  | [], _ => scope
  | p :: ps, [] => (scope.withArguments ps []).withName p .absent
  | p :: ps, d :: ds => (scope.withArguments ps ds).withName p d

/-- The text of a datum as it is printed. Words and numbers have nothing in them to escape. -/
def printed (scope : Scope) (d : Datum) : String :=
  match d with
  | .markup s => s
  | d => if scope.isMarkup then markupText d.text else d.text

end Scope

/-! ## Expressions -/

/-- A filter applied to a datum. -/
def applyFilter (filter : String) (d : Datum) (arguments : List Datum) : Except Fault Datum :=
  match filter, arguments with
  | "escape_comment", [] => .ok (.value (.string (String.ofList (Text.commentText d.text.toList))))
  | "length", [] => d.size.map fun n => .value (.int n)
  | "default", [] => .ok (if d.isDefined then d else .value (.string ""))
  | "default", [other] => .ok (if d.isDefined then d else other)
  | "escape_comment", _ | "length", _ | "default", _ => .error .tooManyArguments
  | _, _ => .error (.unknownFilter filter)

/-- A test applied to a datum. -/
def applyTest (test : String) (d : Datum) (arguments : List Datum) : Except Fault Bool :=
  match test, arguments with
  | "defined", [] => .ok d.isDefined
  | "undefined", [] => .ok !d.isDefined
  | "defined", _ | "undefined", _ => .error .tooManyArguments
  | _, _ => .error (.unknownTest test)

/-- A fault on a line. -/
def onLine {α : Type} (line : Nat) (r : Except Fault α) : Except Failure α :=
  r.mapError fun f => ⟨f, line⟩

/-- A function called with data. -/
def Scope.call (scope : Scope) (line : Nat) (function : String) (ds : List Datum) : Except Failure Datum :=
  match scope.functions.lookup function with
  | some f => f line ds
  | none =>
    match scope.names.lookup function with
    | some d => .error ⟨.notFunction d.kind, line⟩
    | none => .error ⟨.unknownFunction function, line⟩

mutual

/-- What an expression stands for in a scope. -/
def Expr.eval (scope : Scope) : Expr → Except Failure Datum
  | .literal _ d => .ok d
  | .list _ items => do return .value (.array ((← evalAll scope items).map Datum.toValue))
  | .object _ entries => do return .value (.object (Entries.byKey (← evalEntries scope entries)))
  | .name _ n => .ok (scope.find n)
  | .member e name => do onLine e.line ((← e.eval scope).member name)
  | .item e key => do
    let d ← e.eval scope
    onLine key.line (d.item (← key.eval scope))
  | .stretch e start stop step => do
    let d ← e.eval scope
    let first ← start.eval scope
    let last ← stop.eval scope
    onLine step.line (d.stretch first last (← step.eval scope))
  | .filtered e filter arguments => do
    let d ← e.eval scope
    onLine (lastLine e.line arguments) (applyFilter filter d (← evalAll scope arguments))
  | .tested e test arguments => do
    let d ← e.eval scope
    let b ← onLine (lastLine e.line arguments) (applyTest test d (← evalAll scope arguments))
    return .ofBool b
  | .call (.name line n) arguments => do scope.call (lastLine line arguments) n (← evalAll scope arguments)
  | .call (.member e name) arguments => do
    let d ← e.eval scope
    let _ ← evalAll scope arguments
    .error ⟨.unknownMethod d.kind name, lastLine e.line arguments⟩
  | .call e arguments => do
    let d ← e.eval scope
    let _ ← evalAll scope arguments
    .error ⟨.notFunction d.kind, lastLine e.line arguments⟩
  | .negation e => do return .ofBool !(← e.eval scope).isTrue
  | .minus line e => do onLine line (← e.eval scope).negated
  | .binary op a b => do
    let d ← a.eval scope
    onLine b.line (d.apply op (← b.eval scope))
  | .both a b => do
    let d ← a.eval scope
    if d.isTrue then b.eval scope else return d
  | .either a b => do
    let d ← a.eval scope
    if d.isTrue then return d else b.eval scope
  | .choice condition yes no => do
    let d ← condition.eval scope
    if d.isTrue then yes.eval scope else no.eval scope

/-- The entries that stand for keys and values; a key is written as text. -/
def evalEntries (scope : Scope) : List (Expr × Expr) → Except Failure Entries
  | [] => .ok []
  | (k, e) :: rest => do
    let key ← k.eval scope
    let d ← e.eval scope
    return (key.text, d.toValue) :: (← evalEntries scope rest)

/-- What the expressions of a list stand for. -/
def evalAll (scope : Scope) : List Expr → Except Failure (List Datum)
  | [] => .ok []
  | e :: rest => do
    let d ← e.eval scope
    return d :: (← evalAll scope rest)

end

/-! ## Nodes -/

/-- The parts of an item that several names can share: items or keys. -/
def partsOf : Value → Option (List Value)
  | .array items => some items
  | .object entries => some (entries.map fun (k, _) => .string k)
  | _ => none

mutual

/-- The scope in which an item is given to the names of a loop. -/
def Target.bind (scope : Scope) : Target → Value → Except Failure Scope
  | .one name, v => .ok (scope.withName name (.value v))
  | .several line targets, v =>
    match partsOf v with
    | none => .error ⟨.noParts, line⟩
    | some vs =>
      if vs.length = targets.length then bindAll scope targets vs
      else .error ⟨.wrongCount targets.length vs.length, line⟩

/-- The scope in which values are given to the names of a loop, one to each. -/
def bindAll (scope : Scope) : List Target → List Value → Except Failure Scope
  | t :: ts, v :: vs => do bindAll (← t.bind scope v) ts vs
  | _, _ => .ok scope

end

/-- The texts of the rounds of a loop from one of them on, one after another. -/
def rounds (body : Round → Value → Except Failure String) (count? : Option Nat) :
    Nat → Option Value → List Value → Except Failure String
  | _, _, [] => .ok ""
  | index, previous?, v :: rest => do
    let s ← body ⟨index, count?, previous?, rest.head?⟩ v
    return s ++ (← rounds body count? (index + 1) (some v) rest)

/-- The items that meet a condition when they are given to the names of a loop. -/
def itemsWhere (scope : Scope) (target : Target) (condition : Expr) : List Value → Except Failure (List Value)
  | [] => .ok []
  | v :: rest => do
    let d ← condition.eval (← target.bind scope v)
    let kept ← itemsWhere scope target condition rest
    return if d.isTrue then v :: kept else kept

mutual

/-- The text of a node, and the scope of the nodes behind it: a definition adds to it. -/
def Node.render : Node → Scope → Except Failure (String × Scope)
  | .text s, scope => .ok (s, scope)
  | .output e, scope => do return (scope.printed (← e.eval scope), scope)
  | .branch condition yes no, scope => do
    let d ← condition.eval scope
    return (← if d.isTrue then renderAll yes scope else renderAll no scope, scope)
  | .each target items condition body otherwise, scope => do
    let d ← items.eval scope
    let all ← onLine items.line d.items
    let vs ← match condition with
      | none => pure all
      | some e => itemsWhere scope target e all
    let count? := if condition.isSome || d.isCounted then some vs.length else none
    let s ← if vs.isEmpty then renderAll otherwise scope
      else rounds (fun r v => do
        renderAll body ((← target.bind scope v).withName "loop" (.round r))) count? 0 none vs
    return (s, scope)
  | .define name parameters body, scope =>
    .ok ("", scope.withFunction name fun line ds =>
      if parameters.length < ds.length then .error ⟨.tooManyArguments, line⟩
      else (renderAll body (scope.withArguments parameters ds)).map .markup)

/-- The texts of nodes, one after another. -/
def renderAll : List Node → Scope → Except Failure String
  | [], _ => .ok ""
  | node :: rest, scope => do
    let (s, scope) ← node.render scope
    return s ++ (← renderAll rest scope)

end

/-! ## Templates -/

/-- The text of a template with a name, given its source and the entries that its names stand for. -/
def render (name source : String) (entries : Entries) : Except Failure String := do
  let nodes ← read source
  renderAll nodes ⟨writesMarkup name, entries.map fun (k, v) => (k, .value v), []⟩

end ApiBindings.Template
