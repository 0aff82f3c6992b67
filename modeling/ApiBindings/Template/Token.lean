import ApiBindings.Decimal.Binary64
import ApiBindings.Template.Fault

/-!
# Tokens of templates

What a template is made of: text, the marks around its tags, and the words, numbers, strings and symbols
inside them.
-/

namespace ApiBindings.Template

/-- What a template is made of. -/
inductive Token where
  | text (s : String)
  | outputStart
  | outputEnd
  | blockStart
  | blockEnd
  | name (s : String)
  | string (s : String)
  | int (n : Nat)
  /-- A number of 64 bits; none stands for one beyond their range. -/
  | real (x? : Option Decimal.Binary64)
  | symbol (s : String)
  /-- The place where the tokens cannot go on. -/
  | fault (f : Fault)
  deriving DecidableEq

/-- A token as messages name it. -/
def Token.described : Token → String
  | .text _ => "template data"
  | .outputStart => "start of variable block"
  | .outputEnd => "end of variable block"
  | .blockStart => "start of block"
  | .blockEnd => "end of block"
  | .name _ => "identifier"
  | .string _ => "string"
  | .int _ => "integer"
  | .real _ => "float"
  | .symbol s => "\x60" ++ s ++ "\x60"
  | .fault _ => ""

/-- A token and the line it begins on. -/
structure Placed where
  token : Token
  line : Nat
  deriving DecidableEq

end ApiBindings.Template
