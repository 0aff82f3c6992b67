/-!
# Text without control sequences

Text may hold sequences that a terminal carries out and does not show: an escape character and what it
governs. `visible` takes them out, and with them every control character that is not blank.
-/

namespace ApiBindings.Text

/-- The place in a control sequence. -/
inductive Sequence where
  /-- Outside of any sequence. -/
  | outside
  /-- Behind the escape character. -/
  | escape
  /-- Behind the escape character and an intermediate character. -/
  | intermediate
  /-- Inside a sequence of parameters that a letter ends. -/
  | parameters
  /-- Inside the head of a device command. -/
  | deviceHead
  /-- Inside a text for the terminal, up to the end of the sequence. -/
  | embedded
  /-- Inside a command that a bell may end too. -/
  | command
  deriving DecidableEq, Repr

namespace Sequence

/-- Whether a character is a control character that is blank. -/
def isBlankControl (c : Char) : Bool := c == '\t' || c == '\n' || c == '\x0c' || c == '\r'

/-- Whether the code of a character ends a text that is embedded in a sequence: a byte of it does. -/
def endsEmbedded (c : Char) : Bool := (String.utf8EncodeChar c).contains 0x9c

/-- The place behind a character. -/
def after (place : Sequence) (c : Char) : Sequence :=
  if c = '\x1b' then .escape
  else if c = '\x18' ∨ c = '\x1a' then .outside
  else match place with
    | .outside => .outside
    | .escape =>
      if c = '[' then .parameters
      else if c = ']' then .command
      else if c = 'P' then .deviceHead
      else if c = 'X' ∨ c = '^' ∨ c = '_' then .embedded
      else if ' ' ≤ c ∧ c ≤ '/' then .intermediate
      else if '0' ≤ c ∧ c ≤ '~' then .outside
      else .escape
    | .intermediate => if '0' ≤ c ∧ c ≤ '~' then .outside else .intermediate
    | .parameters => if '@' ≤ c ∧ c ≤ '~' then .outside else .parameters
    | .deviceHead => if '@' ≤ c ∧ c ≤ '~' then .embedded else .deviceHead
    | .embedded => if endsEmbedded c then .outside else .embedded
    | .command => if c = '\x07' then .outside else .command

/-- Whether a character is seen at a place. Blank control characters are carried out at once in the middle of
a sequence, so they are seen there. -/
def shows (place : Sequence) (c : Char) : Bool :=
  match place with
  | .outside => isBlankControl c || (' ' ≤ c && c != '\x7f')
  | .escape | .intermediate | .parameters => isBlankControl c
  | .deviceHead | .embedded | .command => false

end Sequence

/-- What is seen of a text behind some place. While characters are seen one after another the place is that
of plain text; a character that is not seen goes back to the place before them, unless a character beyond
ASCII stood between. -/
def visibleFrom (place : Sequence) (isShowing : Bool) : List Char → List Char
  | [] => []
  | c :: rest =>
    let seenAt := if isShowing then .outside else place
    if seenAt.shows c then c :: visibleFrom (if 128 ≤ c.toNat then .outside else place) true rest
    else visibleFrom (place.after c) false rest

/-- What is seen of a text. -/
def visible (s : String) : String := String.ofList (visibleFrom .outside false s.toList)

end ApiBindings.Text
