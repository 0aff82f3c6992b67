/-!
# Lines

A text as the list of its lines.
-/

namespace ApiBindings.Text

/-- The text of lines, each with its line end. -/
def ofLines (lines : List String) : String := String.ofList (lines.flatMap fun line => line.toList ++ ['\n'])

end ApiBindings.Text
