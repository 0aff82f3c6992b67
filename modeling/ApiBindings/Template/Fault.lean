/-!
# Template faults

What can be wrong with a template: its grammar, the names it uses, and what it does with the data it is
given. A failure says on which line of the template that is.
-/

namespace ApiBindings.Template

/-- The classes of faults. -/
inductive FaultKind where
  | grammar
  | escape
  | absent
  | filter
  | test
  | function
  | method
  | operation
  | unpacking
  | tooManyArguments
  deriving DecidableEq, Repr

/-- The wording of a class. -/
def FaultKind.text : FaultKind → String
  | .grammar => "syntax error"
  | .escape => "bad string escape"
  | .absent => "undefined value"
  | .filter => "unknown filter"
  | .test => "unknown test"
  | .function => "unknown function"
  | .method => "unknown method"
  | .operation => "invalid operation"
  | .unpacking => "cannot unpack"
  | .tooManyArguments => "too many arguments"

/-- What can be wrong with a template. -/
inductive Fault where
  /-- Something stands where something else has to. -/
  | unexpected (found expected : String)
  /-- Something stands where an expression has to. -/
  | noExpression (found : String)
  /-- Something stands where the name of a statement has to. -/
  | noStatement (found : String)
  | unknownStatement (name : String)
  /-- A name that no variable may have. -/
  | reserved (name : String)
  | unknownCharacter
  | openComment
  | openString
  | badEscape
  /-- A number that ends in a lower line. -/
  | openNumber
  | badInteger
  | badReal
  | tooDeep
  /-- A part of what is not there. -/
  | absent
  | unknownFilter (name : String)
  | unknownTest (name : String)
  | unknownFunction (name : String)
  /-- A datum of some kind has no function of a name. -/
  | unknownMethod (kind name : String)
  /-- A datum of some kind is no function. -/
  | notFunction (kind : String)
  /-- A datum of some kind has no items. -/
  | notIterable (kind : String)
  /-- A datum of some kind has no length. -/
  | noLength (kind : String)
  /-- What has no sign. -/
  | notNumber
  /-- An operator between data of kinds that it does not join. -/
  | badOperands (operator left right : String)
  /-- An operator between numbers, by their texts, without a result. -/
  | noResult (operator left right : String)
  /-- What nothing can be in. -/
  | notContainer
  /-- A datum of some kind of which no stretch can be taken. -/
  | notStretch (kind : String)
  /-- A stretch in steps of no length. -/
  | noStep
  /-- What several names cannot share among them. -/
  | noParts
  /-- Names in a number other than that of the parts. -/
  | wrongCount (names parts : Nat)
  | tooManyArguments
  deriving DecidableEq, Repr

namespace Fault

/-- The class of a fault. -/
def kind : Fault → FaultKind
  | .badEscape => .escape
  | .absent => .absent
  | .unknownFilter _ => .filter
  | .unknownTest _ => .test
  | .unknownFunction _ => .function
  | .unknownMethod .. => .method
  | .notFunction _ | .notIterable _ | .noLength _ | .notNumber | .badOperands .. | .noResult .. | .notContainer
  | .notStretch _ | .noStep => .operation
  | .noParts | .wrongCount .. => .unpacking
  | .tooManyArguments => .tooManyArguments
  | _ => .grammar

/-- What is said about a fault beside its class. -/
def detail? : Fault → Option String
  | .unexpected found expected => some ("unexpected " ++ found ++ ", expected " ++ expected)
  | .noExpression found => some ("unexpected " ++ found)
  | .noStatement found => some ("unknown " ++ found ++ ", expected statement")
  | .unknownStatement name => some ("unknown statement " ++ name)
  | .reserved name => some ("cannot assign to reserved variable name " ++ name)
  | .unknownCharacter => some "unexpected character"
  | .openComment => some "unexpected end of comment"
  | .openString => some "unexpected end of string"
  | .openNumber => some "'_' may not occur at end of number"
  | .badInteger => some "invalid integer"
  | .badReal => some "invalid float"
  | .tooDeep => some "template exceeds maximum recursion limits"
  | .unknownFilter name => some ("filter " ++ name ++ " is unknown")
  | .unknownTest name => some ("test " ++ name ++ " is unknown")
  | .unknownFunction name => some (name ++ " is unknown")
  | .unknownMethod kind name => some (kind ++ " has no method named " ++ name)
  | .notFunction kind => some ("value of type " ++ kind ++ " is not callable")
  | .notIterable kind => some (kind ++ " is not iterable")
  | .noLength kind => some ("cannot calculate length of value of type " ++ kind)
  | .badOperands operator left right =>
    some ("tried to use " ++ operator ++ " operator on unsupported types " ++ left ++ " and " ++ right)
  | .noResult operator left right => some ("unable to calculate " ++ left ++ " " ++ operator ++ " " ++ right)
  | .notContainer => some "cannot perform a containment check on this value"
  | .notStretch kind => some ("value of type " ++ kind ++ " cannot be sliced")
  | .noStep => some "cannot slice by step size of 0"
  | .noParts => some "value is not iterable"
  | .wrongCount names parts =>
    some ("sequence of wrong length (expected " ++ toString names ++ ", got " ++ toString parts ++ ")")
  | .badEscape | .absent | .notNumber | .tooManyArguments => none

/-- The wording of a fault. -/
def text (f : Fault) : String :=
  match f.detail? with
  | some detail => f.kind.text ++ ": " ++ detail
  | none => f.kind.text

end Fault

/-- A fault and its line. -/
structure Failure where
  fault : Fault
  line : Nat
  deriving DecidableEq, Repr

/-- The wording of a failure of a template with a name. -/
def Failure.message (f : Failure) (name : String) : String :=
  f.fault.text ++ " (in " ++ name ++ ":" ++ toString f.line ++ ")"

end ApiBindings.Template
