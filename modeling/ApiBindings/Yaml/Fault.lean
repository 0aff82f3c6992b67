/-!
# Places and faults

A place in a YAML text, and the faults of its grammar with the places they are reported at.
-/

namespace ApiBindings.Yaml

/-- A place in a text: the bytes before it, and its line and column in characters, all counted from zero. -/
structure Mark where
  index : Nat
  line : Nat
  column : Nat
  deriving DecidableEq, Repr, Inhabited

namespace Mark

/-- The beginning of a text. -/
def start : Mark := ⟨0, 0, 0⟩

/-- Whether a place is other than the beginning of the first line. -/
def isInside (m : Mark) : Bool := m.line ≠ 0 || m.column ≠ 0

/-- The wording of a place. -/
def text (m : Mark) : String :=
  if m.isInside then "line " ++ toString (m.line + 1) ++ " column " ++ toString (m.column + 1)
  else "position " ++ toString m.index

end Mark

/-- What can be wrong with the grammar of a text. -/
inductive Fault where
  /-- A character that may not occur, with the number of bytes before it. -/
  | forbidden (offset : Nat)
  /-- A problem at a place, with what was being read and where that began. -/
  | grammar (problem : String) (mark : Mark) (context : Option (String × Option Mark))
  /-- An alias of an anchor that is not there. -/
  | unknownAnchor (mark : Mark)
  deriving DecidableEq, Repr

namespace Fault

/-- The wording of a place that is given only where it is not the beginning. -/
def atMark (m : Mark) : String := if m.isInside then " at " ++ m.text else ""

/-- The wording of a fault. -/
def message : Fault → String
  | .forbidden offset =>
    "control characters are not allowed" ++ (if offset = 0 then "" else " at position " ++ toString offset)
  | .grammar problem mark context =>
    problem ++ atMark mark ++
      match context with
      | none => ""
      | some (what, none) => ", " ++ what
      | some (what, some start) =>
        ", " ++ what ++
          (if start.isInside && (start.line ≠ mark.line || start.column ≠ mark.column) then " at " ++ start.text
            else "")
  | .unknownAnchor mark => "unknown anchor" ++ atMark mark

end Fault

end ApiBindings.Yaml
