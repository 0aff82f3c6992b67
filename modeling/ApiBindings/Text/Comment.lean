/-!
# Text inside block comments

A block comment ends at the first `*/`. Text that is put inside one has a backslash between the two
characters wherever they stand together.
-/

namespace ApiBindings.Text

/-- A text as it can stand inside a block comment. -/
def commentText : List Char → List Char
  | [] => []
  | '*' :: '/' :: rest => '*' :: '\\' :: '/' :: commentText rest
  | c :: rest => c :: commentText rest

example : commentText "a*/b**/*/".toList = "a*\\/b**\\/*\\/".toList := by decide +kernel

end ApiBindings.Text
