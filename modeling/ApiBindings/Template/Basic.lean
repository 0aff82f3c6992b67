import ApiBindings.Template.Datum

/-!
# Templates

A template as data: expressions, and the nodes that text, tags and what stands between them make up.
-/

namespace ApiBindings.Template

/-! ## Expressions -/

/-- An operator between two data. -/
inductive Operator where
  | equal
  | different
  | less
  | atMost
  | greater
  | atLeast
  /-- Whether the left one is in the right one. -/
  | within
  | plus
  | minus
  | times
  | over
  /-- Division with a whole result. -/
  | wholeOver
  | remainder
  | power
  /-- The texts of both, one behind the other. -/
  | beside
  deriving DecidableEq, Repr

/-- An operator as it is written. -/
def Operator.symbol : Operator → String
  | .equal => "=="
  | .different => "!="
  | .less => "<"
  | .atMost => "<="
  | .greater => ">"
  | .atLeast => ">="
  | .within => "in"
  | .plus => "+"
  | .minus => "-"
  | .times => "*"
  | .over => "/"
  | .wholeOver => "//"
  | .remainder => "%"
  | .power => "**"
  | .beside => "~"

/-- An expression. Names and literals carry their lines, and so does what may hold none of them. -/
inductive Expr where
  | literal (line : Nat) (d : Datum)
  | list (line : Nat) (items : List Expr)
  | object (line : Nat) (entries : List (Expr × Expr))
  | name (line : Nat) (n : String)
  /-- A part under a name, after a point. -/
  | member (e : Expr) (name : String)
  /-- A part at an index or under a key, in brackets. -/
  | item (e key : Expr)
  /-- A stretch from a start to a stop, in steps. -/
  | stretch (e start stop step : Expr)
  /-- A filter, after a bar. -/
  | filtered (e : Expr) (filter : String) (arguments : List Expr)
  /-- A test, after `is`. -/
  | tested (e : Expr) (test : String) (arguments : List Expr)
  | call (function : Expr) (arguments : List Expr)
  | negation (e : Expr)
  /-- A number with its sign turned. -/
  | minus (line : Nat) (e : Expr)
  | binary (op : Operator) (a b : Expr)
  | both (a b : Expr)
  | either (a b : Expr)
  /-- One of two expressions, by a condition. -/
  | choice (condition yes no : Expr)
  deriving Inhabited

mutual

/-- The line that an operation on an expression is reported on: that of its last name or literal. -/
def Expr.line : Expr → Nat
  | .literal line _ | .name line _ => line
  | .list line items => lastLine line items
  | .object line entries => lastEntryLine line entries
  | .member e _ | .negation e | .minus _ e => e.line
  | .item _ key => key.line
  | .stretch _ _ _ step => step.line
  | .filtered e _ arguments | .tested e _ arguments | .call e arguments => lastLine e.line arguments
  | .binary _ _ b | .both _ b | .either _ b => b.line
  | .choice _ _ no => no.line

/-- The line of the last name or literal of several expressions, if there are any. -/
def lastLine (line : Nat) : List Expr → Nat
  | [] => line
  | e :: rest => lastLine e.line rest

/-- The line of the last name or literal of entries, if there are any. -/
def lastEntryLine (line : Nat) : List (Expr × Expr) → Nat
  | [] => line
  | (_, e) :: rest => lastEntryLine e.line rest

end

/-! ## Nodes -/

/-- What an item of a loop is given to: one name, or several that share its parts. -/
inductive Target where
  | one (name : String)
  | several (line : Nat) (parts : List Target)
  deriving Inhabited

/-- A part of a template. -/
inductive Node where
  | text (s : String)
  | output (e : Expr)
  | branch (condition : Expr) (yes no : List Node)
  /-- A loop over those items of a datum that meet a condition, and what stands in its place where there are
  none. -/
  | each (target : Target) (items : Expr) (condition : Option Expr) (body otherwise : List Node)
  /-- A function whose value is the text of its body. -/
  | define (name : String) (parameters : List String) (body : List Node)
  deriving Inhabited

end ApiBindings.Template
