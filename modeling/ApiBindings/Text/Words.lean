import ApiBindings.Text.Case

/-!
# Words and camel case

A text is cut into words at every character that is neither letter nor number and at the humps within
a run of such characters: before a capital that follows a small letter, and before the last capital of
a row that a small letter follows. In camel case the words stand together, all but the first with a
capital.
-/

namespace ApiBindings.Text

/-! ## Breaks at digits -/

/-- A digit of ASCII beside a letter, in either order. -/
def meetsDigit (a b : Char) : Bool :=
  (a.isDigit && isAlphabetic b) || (isAlphabetic a && b.isDigit)

/-- A text with `_` put between every letter and the ASCII digit beside it. -/
def breakDigits : List Char → List Char
  | [] => []
  | [c] => [c]
  | a :: b :: rest =>
    if meetsDigit a b then a :: '_' :: breakDigits (b :: rest) else a :: breakDigits (b :: rest)

/-! ## Words -/

/-- The case of the last cased character of the word being read. -/
inductive Hump where
  | none
  | lower
  | upper
  deriving DecidableEq

/-- What the last case is after one more character. -/
def Hump.after (h : Hump) (c : Char) : Hump :=
  if isLower c then .lower else if isUpper c then .upper else h

/-- The words of a run of letters and numbers, of which `word` is read already. -/
def humps (h : Hump) (word : List Char) : List Char → List (List Char)
  | [] => []
  | [c] => [word ++ [c]]
  | c :: next :: rest =>
    if h.after c = .lower ∧ isUpper next then
      (word ++ [c]) :: humps .none [] (next :: rest)
    else if h = .upper ∧ isUpper c ∧ isLower next then
      word :: humps .none [c] (next :: rest)
    else
      humps (h.after c) (word ++ [c]) (next :: rest)

/-- The longest pieces of a text that hold no character of a class. -/
def pieces (cut : Char → Bool) : List Char → List (List Char)
  | [] => [[]]
  | c :: rest =>
    if cut c then [] :: pieces cut rest
    else match pieces cut rest with
      | [] => [[c]]
      | piece :: more => (c :: piece) :: more

/-- The words of a text. -/
def words (s : List Char) : List (List Char) :=
  (pieces (fun c => !isAlphanumeric c) s).flatMap (humps .none [])

/-! ## Camel case -/

/-- A word in lower case: a sigma at its end is written `ς`. -/
def lowerWord : List Char → List Char
  | [] => []
  | ['Σ'] => ['ς']
  | c :: rest => lowerOf c ++ lowerWord rest

/-- A word with a capital at its head and small letters after it. -/
def capitalWord : List Char → List Char
  | [] => []
  | c :: rest => upperOf c ++ lowerWord rest

/-- The words of a text run together, the first in lower case, the others with a capital. -/
def lowerCamel (s : List Char) : List Char :=
  match words s with
  | [] => []
  | first :: rest => lowerWord first ++ rest.flatMap capitalWord

end ApiBindings.Text
