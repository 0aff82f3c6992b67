import ApiBindings.Template.Token.Literal
import ApiBindings.Text.Letter

/-!
# Finding the tokens of templates

A template is text with tags in it: `{{ … }}` around an expression, `{% … %}` around a statement,
`{# … #}` around a comment. The line end that follows a statement or a comment belongs to
the tag, and so does the line end that ends the template. A minus sign at the edge of a tag takes the blanks
beyond that edge away.
-/

namespace ApiBindings.Template

/-! ## Pieces of text -/

/-- The number of line ends in a text. -/
def lineEnds (cs : List Char) : Nat := cs.count '\n'

/-- The text up to the first tag, and all from that tag on. -/
def cutAtTag : List Char → List Char × List Char
  | [] => ([], [])
  | '\x7b' :: c :: rest =>
    if c = '\x7b' ∨ c = '%' ∨ c = '#' then ([], '\x7b' :: c :: rest)
    else
      let (before, after) := cutAtTag (c :: rest)
      ('\x7b' :: before, after)
  | c :: rest =>
    let (before, after) := cutAtTag rest
    (c :: before, after)

/-- The text of a comment and what comes after its end, if it ends. -/
def cutAtCommentEnd : List Char → Option (List Char × List Char)
  | [] => none
  | '#' :: '\x7d' :: rest => some ([], rest)
  | c :: rest => (cutAtCommentEnd rest).map fun (inside, after) => (c :: inside, after)

/-- A text without the blanks at its end. -/
def withoutBlankEnd (cs : List Char) : List Char := (cs.reverse.dropWhile Text.isBlank).reverse

/-- The line end that a text begins with, if any: it may be two characters or one of them. -/
def lineEnd : List Char → List Char
  | '\r' :: '\n' :: _ => ['\r', '\n']
  | '\r' :: _ => ['\r']
  | '\n' :: _ => ['\n']
  | _ => []

/-- A text without a line end at its beginning. -/
def withoutLineEnd (cs : List Char) : List Char := cs.drop (lineEnd cs).length

/-- The characters of a template that count: without a line end at its very end. -/
def countedChars (cs : List Char) : List Char :=
  let back := match cs.reverse with
    | '\n' :: rest => rest
    | back => back
  (match back with
    | '\r' :: rest => rest
    | back => back).reverse

/-! ## Words and symbols -/

/-- Whether a character can begin a name. -/
def beginsName (c : Char) : Bool := c == '_' || c.isAlpha

/-- Whether a character can stand inside a name. -/
def insideName (c : Char) : Bool := c == '_' || c.isAlphanum

/-- The symbols of two characters. -/
def longSymbols : List (List Char) :=
  [['/', '/'], ['*', '*'], ['=', '='], ['!', '='], ['>', '='], ['<', '=']]

/-- The symbols of one character. -/
def shortSymbols : List Char :=
  ['+', '-', '*', '/', '%', '.', ',', ':', '~', '=', '|', '>', '<', '(', ')', '[', ']', '\x7b', '\x7d']

/-- The brackets that a character leaves open, of those that were; where more are closed than were open the
number is negative. -/
def bracketsAfter (c : Char) (depth : Int) : Int :=
  if c = '(' ∨ c = '[' ∨ c = '\x7b' then depth + 1
  else if c = ')' ∨ c = ']' ∨ c = '\x7d' then depth - 1
  else depth

/-! ## Tokens -/

/-- Where scanning stands: in text, of which a tag may have claimed the first blanks, or in a tag, inside
some brackets. -/
inductive Mode where
  | text (blanksTaken : Bool)
  | tag (isBlock : Bool) (depth : Int)

/-- What is behind the end of a tag, with the sign that stood at it, if a text begins with one. -/
def cutTagEnd (isBlock : Bool) (cs : List Char) : Option (Option Char × List Char) :=
  let mark := if isBlock then '%' else '\x7d'
  match cs with
  | a :: b :: rest =>
    if a = mark ∧ b = '\x7d' then some (none, rest)
    else match rest with
      | c :: after =>
        if (a = '-' ∨ a = '+') ∧ b = mark ∧ c = '\x7d' then some (some a, after) else none
      | [] => none
  | _ => none

/-- A text with its tag sign taken away, and whether that was a minus sign. -/
def tagSign : List Char → Bool × List Char
  | '-' :: rest => (true, rest)
  | '+' :: rest => (false, rest)
  | rest => (false, rest)

/-- What stands behind a tag: the text that is left, whether its first blanks go as well, and the number of
line ends that the tag has taken. -/
structure Behind where
  rest : List Char
  blanksTaken : Bool
  lines : Nat

/-- What the sign at the end of a tag leaves of the text behind it. -/
def behindTag (ownsLineEnd : Bool) (sign : Option Char) (cs : List Char) : Behind :=
  match sign with
  | some '-' => ⟨cs, true, 0⟩
  | some _ => ⟨cs, false, 0⟩
  | none =>
    if ownsLineEnd then ⟨withoutLineEnd cs, false, lineEnds (lineEnd cs)⟩ else ⟨cs, false, 0⟩

/-- A piece of text as a token, where there is any. -/
def textToken (line : Nat) (cs : List Char) : List Placed :=
  if cs.isEmpty then [] else [⟨.text (String.ofList cs), line⟩]

/-- The tokens of a text from a line on, in at most `fuel` steps. A comment or a string that does not end is
reported where the text ends. -/
def scan : Nat → Mode → Nat → List Char → List Placed
  | 0, _, _, _ => []
  | fuel + 1, .text blanksTaken, line, cs =>
    let line := if blanksTaken then line + lineEnds (cs.takeWhile Text.isBlank) else line
    let (before, tag) := cutAtTag (if blanksTaken then cs.dropWhile Text.isBlank else cs)
    match tag with
    | _ :: kind :: rest =>
      let (isTrimmed, rest) := tagSign rest
      textToken line (if isTrimmed then withoutBlankEnd before else before) ++
        (let line := line + lineEnds before
        if kind = '#' then
          match cutAtCommentEnd rest with
          | none => [⟨.fault .openComment, line + lineEnds rest⟩]
          | some (inside, after) =>
            let sign := inside.getLast?.filter fun c => c == '-' || c == '+'
            let behind := behindTag true sign after
            scan fuel (.text behind.blanksTaken) (line + lineEnds inside + behind.lines) behind.rest
        else if kind = '%' then ⟨.blockStart, line⟩ :: scan fuel (.tag true 0) line rest
        else ⟨.outputStart, line⟩ :: scan fuel (.tag false 0) line rest)
    | _ => textToken line before
  | fuel + 1, .tag isBlock depth, line, cs =>
    match if depth = 0 then cutTagEnd isBlock cs else none with
    | some (sign, after) =>
      let behind := behindTag isBlock sign after
      ⟨if isBlock then .blockEnd else .outputEnd, line⟩ ::
        scan fuel (.text behind.blanksTaken) (line + behind.lines) behind.rest
    | none =>
      match cs with
      | [] => []
      | c :: rest =>
        if c = ' ' ∨ c = '\t' ∨ c = '\r' ∨ c = '\x0c' then scan fuel (.tag isBlock depth) line rest
        else if c = '\n' then scan fuel (.tag isBlock depth) (line + 1) rest
        else if c = '"' ∨ c = '\'' then
          match cutAtQuote c rest with
          | none => [⟨.fault .openString, line + lineEnds rest⟩]
          | some (written, after) =>
            match unescaped written with
            | none => [⟨.fault .badEscape, line⟩]
            | some s =>
              ⟨.string (String.ofList s), line⟩ ::
                scan fuel (.tag isBlock depth) (line + lineEnds written) after
        else if c.isDigit then
          let (token, after) := numberToken cs
          ⟨token, line⟩ :: scan fuel (.tag isBlock depth) line after
        else if beginsName c then
          ⟨.name (String.ofList (cs.takeWhile insideName)), line⟩ ::
            scan fuel (.tag isBlock depth) line (cs.dropWhile insideName)
        else if longSymbols.contains (cs.take 2) then
          ⟨.symbol (String.ofList (cs.take 2)), line⟩ :: scan fuel (.tag isBlock depth) line (rest.drop 1)
        else if shortSymbols.contains c then
          ⟨.symbol (String.ofList [c]), line⟩ :: scan fuel (.tag isBlock (bracketsAfter c depth)) line rest
        else [⟨.fault .unknownCharacter, line⟩]

/-- The tokens of a template. -/
def tokensOf (cs : List Char) : List Placed :=
  let counted := countedChars cs
  scan (counted.length + 1) (.text false) 1 counted

end ApiBindings.Template
