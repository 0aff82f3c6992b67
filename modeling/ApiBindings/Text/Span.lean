/-!
# Spans of code points

A class of characters is a table of spans: a first and a last code point, and the step between its members.
-/

namespace ApiBindings.Text

/-- The code points `first, first + step, …, last`. -/
structure Span where
  first : Nat
  last : Nat
  step : Nat

/-- Membership of a code point in a span. -/
def Span.contains (s : Span) (n : Nat) : Bool :=
  s.first ≤ n && n ≤ s.last && (n - s.first) % s.step == 0

/-- Membership of a character in a table of spans. -/
def inSpans (table : Array Span) (c : Char) : Bool :=
  table.any (·.contains c.toNat)

end ApiBindings.Text
