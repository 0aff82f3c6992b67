import ApiBindings.Json.Reading
import ApiBindings.Proofs.TypeGrammar

/-!
# Literals and names

What string literals and names of properties stand for in TypeScript: units of sixteen bits, which characters and
escapes write. An escape stands for less than it is written with, so a text is written as it is exactly if every
character of it stands for itself (`spelled_self`): between quotes (`denotes_self`), and as a name (`names_self`).
-/

namespace ApiBindings.Literals
open ApiBindings.Json (hexValue?)

/-! ## Units -/

/-- The units of a code point: one, or two halves beyond sixteen bits. -/
def pointUnits (n : Nat) : List Nat :=
  if n < 0x10000 then [n] else [0xd800 + (n - 0x10000) / 0x400, 0xdc00 + (n - 0x10000) % 0x400]

/-- The units of a text. -/
def units (cs : List Char) : List Nat := cs.flatMap fun c => pointUnits c.toNat

@[simp] theorem units_nil : units [] = [] := rfl

@[simp] theorem units_cons (c : Char) (cs : List Char) : units (c :: cs) = pointUnits c.toNat ++ units cs := rfl

@[simp] theorem units_append (cs ds : List Char) : units (cs ++ ds) = units cs ++ units ds := List.flatMap_append

theorem pointUnits_length (n : Nat) : 1 ≤ (pointUnits n).length ∧ (pointUnits n).length ≤ 2 := by
  unfold pointUnits
  split <;> simp

/-! ## Escapes -/

/-- The number that digits in base 16 write. -/
def hexNumber? (digits : List Char) : Option Nat :=
  (digits.mapM hexValue?).map fun values => values.foldl (fun n value => 16 * n + value) 0

/-- A `u` with four digits behind it, or with digits between braces, and the units it stands for. -/
inductive UnicodeEscape : List Char → List Nat → List Char → Prop
  | unit {digits rest : List Char} {n : Nat} (four : digits.length = 4) (value : hexNumber? digits = some n) :
      UnicodeEscape ('u' :: (digits ++ rest)) [n] rest
  | point {digits rest : List Char} {n : Nat} (given : digits ≠ []) (value : hexNumber? digits = some n)
      (bounded : n ≤ 0x10ffff) :
      UnicodeEscape ('u' :: '\x7b' :: (digits ++ '\x7d' :: rest)) (pointUnits n) rest

/-- The letters that stand for a control character behind a backslash. -/
def controls : List (Char × Nat) := [('b', 8), ('t', 9), ('n', 10), ('v', 11), ('f', 12), ('r', 13)]

/-- The ends of lines; a backslash before one continues the line. -/
def lineEnds : List (List Char) := [['\n'], ['\r', '\n'], ['\r'], ['\u2028'], ['\u2029']]

/-- What stands behind a backslash in a string literal, the units it stands for, and the rest behind it. -/
inductive Escape : List Char → List Nat → List Char → Prop
  | unicode {cs rest : List Char} {us : List Nat} (escape : UnicodeEscape cs us rest) : Escape cs us rest
  | byte {digits rest : List Char} {n : Nat} (two : digits.length = 2) (value : hexNumber? digits = some n) :
      Escape ('x' :: (digits ++ rest)) [n] rest
  | control {c : Char} {n : Nat} {rest : List Char} (known : (c, n) ∈ controls) : Escape (c :: rest) [n] rest
  | null {rest : List Char} (alone : ∀ d ∈ rest.head?, d.isDigit = false) : Escape ('0' :: rest) [0] rest
  | continued {lineEnd rest : List Char} (known : lineEnd ∈ lineEnds) : Escape (lineEnd ++ rest) [] rest
  | itself {c : Char} {rest : List Char} (other : c ≠ 'u' ∧ c ≠ 'x' ∧ c.isDigit = false ∧ [c] ∉ lineEnds)
      (letter : c ∉ controls.map (·.1)) : Escape (c :: rest) (pointUnits c.toNat) rest

/-- A text of characters that stand for themselves and of escapes, with the units it stands for. -/
inductive Spelled (plain : Char → Prop) (escape : List Char → List Nat → List Char → Prop) :
    List Char → List Nat → Prop
  | nil : Spelled plain escape [] []
  | char {c : Char} {rest : List Char} {us : List Nat} (itself : plain c) (behind : Spelled plain escape rest us) :
      Spelled plain escape (c :: rest) (pointUnits c.toNat ++ us)
  | escape {cs rest : List Char} {us vs : List Nat} (cut : escape cs us rest)
      (behind : Spelled plain escape rest vs) : Spelled plain escape ('\\' :: cs) (us ++ vs)

/-- Escapes stand for no more than they are written with, the backslash left out. -/
def Shrinks (escape : List Char → List Nat → List Char → Prop) : Prop :=
  ∀ cs us rest, escape cs us rest → us.length + (units rest).length ≤ (units cs).length

theorem unicodeEscape_shrinks : Shrinks UnicodeEscape := by
  intro cs us rest cut
  cases cut with
  | @unit digits _ n four value =>
    simp only [units_cons, units_append, List.length_append, List.length_singleton]
    have := (pointUnits_length 'u'.toNat).1
    omega
  | @point digits _ n _ value bounded =>
    have := (pointUnits_length 'u'.toNat).1
    have := (pointUnits_length '\x7b'.toNat).1
    have := (pointUnits_length n).2
    simp only [units_cons, units_append, List.length_append]
    omega

theorem escape_shrinks : Shrinks Escape := by
  intro cs us rest cut
  cases cut with
  | unicode escape => exact unicodeEscape_shrinks _ _ _ escape
  | byte two value =>
    have := (pointUnits_length 'x'.toNat).1
    simp only [units_cons, units_append, List.length_append, List.length_singleton]
    omega
  | @control c n rest known =>
    have := (pointUnits_length c.toNat).1
    simp only [units_cons, List.length_append, List.length_singleton]
    omega
  | null alone =>
    have := (pointUnits_length '0'.toNat).1
    simp only [units_cons, List.length_append, List.length_singleton]
    omega
  | continued known => simp
  | itself other letter => simp

section Spelled

variable {plain : Char → Prop} {escape : List Char → List Nat → List Char → Prop}

/-- A text stands for no more units than it has, and for as many only if it has no escapes. -/
theorem spelled_length (shrinks : Shrinks escape) {cs : List Char} {us : List Nat}
    (spelled : Spelled plain escape cs us) :
    us.length ≤ (units cs).length ∧ (us.length = (units cs).length → ∀ c ∈ cs, plain c) := by
  induction spelled with
  | nil => simp
  | char itself behind ih =>
    simp only [units_cons, List.length_append, List.forall_mem_cons]
    exact ⟨by omega, fun same => ⟨itself, ih.2 (by omega)⟩⟩
  | escape cut behind ih =>
    have shorter := shrinks _ _ _ cut
    have := (pointUnits_length '\\'.toNat).1
    simp only [units_cons, List.length_append]
    exact ⟨by omega, fun same => by omega⟩

/-- A text is written as it is exactly if all of its characters stand for themselves. -/
theorem spelled_self (shrinks : Shrinks escape) (cs : List Char) :
    Spelled plain escape cs (units cs) ↔ ∀ c ∈ cs, plain c := by
  constructor
  · exact fun spelled => (spelled_length shrinks spelled).2 rfl
  · intro each
    induction cs with
    | nil => exact .nil
    | cons c cs ih =>
      obtain ⟨here, later⟩ := List.forall_mem_cons.mp each
      exact .char here (ih later)

end Spelled

/-! ## String literals -/

/-- A character that stands for itself between quotes. -/
def StandsBetween (quote c : Char) : Prop := c ≠ quote ∧ c ≠ '\\' ∧ c ≠ '\n' ∧ c ≠ '\r'

instance (quote c : Char) : Decidable (StandsBetween quote c) := inferInstanceAs (Decidable (_ ∧ _))

/-- A string literal between quotes, and the units it stands for. -/
def LiteralDenotes (quote : Char) (written : List Char) (us : List Nat) : Prop :=
  ∃ body, written = quote :: (body ++ [quote]) ∧ Spelled (StandsBetween quote) Escape body us

/-- Between quotes a text stands for itself exactly if each of its characters does. -/
theorem denotes_self (quote : Char) (cs : List Char) :
    LiteralDenotes quote (quote :: (cs ++ [quote])) (units cs) ↔ ∀ c ∈ cs, StandsBetween quote c := by
  rw [← spelled_self escape_shrinks]
  constructor
  · rintro ⟨body, same, spelled⟩
    obtain rfl : cs = body := by simpa using same
    exact spelled
  · exact fun spelled => ⟨cs, rfl, spelled⟩

/-- A literal stands for less than it is written with. -/
theorem literal_shorter {quote : Char} {cs : List Char} {us : List Nat} (literal : LiteralDenotes quote cs us) :
    us.length < (units cs).length := by
  obtain ⟨body, rfl, spelled⟩ := literal
  have inner := (spelled_length escape_shrinks spelled).1
  have := (pointUnits_length quote.toNat).1
  simp only [units_cons, units_append, List.length_append]
  omega

/-! ## Names of properties -/

/-- What a version of the language decides about names: the characters beyond ASCII that begin names and that go on
    with them, and what the numbers that are names stand for. A number is a word that begins with a digit or a
    point. -/
structure Lexicon where
  starts : Char → Bool
  continues : Char → Bool
  numeral : List Char → Option (List Nat)
  numeral_spelled : ∀ {cs us}, numeral cs = some us →
    (∃ c ∈ cs.head?, c.isDigit = true ∨ c = '.') ∧ ∀ c ∈ cs, TypeGrammar.isWordChar c = true

namespace Lexicon

variable (l : Lexicon)

/-- A character that a name may begin with. -/
def IsStart (c : Char) : Prop := c.isAlpha = true ∨ c = '_' ∨ c = '$' ∨ 128 ≤ c.toNat ∧ l.starts c = true

/-- A character that may stand in a name. -/
def IsPart (c : Char) : Prop := TypeGrammar.isNameChar c = true ∨ 128 ≤ c.toNat ∧ l.continues c = true

/-- A name without escapes. -/
def IsIdentifier (cs : List Char) : Prop := (∃ c ∈ cs.head?, l.IsStart c) ∧ ∀ c ∈ cs, l.IsPart c

/-- A name, with escapes or without, behind its first character. -/
abbrev SpelledName : List Char → List Nat → Prop :=
  Spelled l.IsPart fun cs us rest => UnicodeEscape cs us rest ∧ ∃ c, l.IsPart c ∧ us = pointUnits c.toNat

/-- The name of a property, and the units it stands for: an identifier, a string literal or a number. Names that are
    computed are left out. -/
inductive NameDenotes : List Char → List Nat → Prop
  | plain {c : Char} {rest : List Char} {us : List Nat} (start : l.IsStart c) (spelled : l.SpelledName (c :: rest) us) :
      NameDenotes (c :: rest) us
  | escaped {cs rest : List Char} {c : Char} {us : List Nat} (start : l.IsStart c)
      (cut : UnicodeEscape cs (pointUnits c.toNat) rest) (spelled : l.SpelledName rest us) :
      NameDenotes ('\\' :: cs) (pointUnits c.toNat ++ us)
  | literal {quote : Char} {cs : List Char} {us : List Nat} (kind : quote = '"' ∨ quote = '\'')
      (denotes : LiteralDenotes quote cs us) : NameDenotes cs us
  | numeral {cs : List Char} {us : List Nat} (value : l.numeral cs = some us) : NameDenotes cs us

theorem nameEscape_shrinks : Shrinks fun cs us rest =>
    UnicodeEscape cs us rest ∧ ∃ c, l.IsPart c ∧ us = pointUnits c.toNat :=
  fun cs us rest cut => unicodeEscape_shrinks cs us rest cut.1

/-- As the name of a property a text stands for itself exactly if it is an identifier, or a number that does. -/
theorem names_self (cs : List Char) :
    l.NameDenotes cs (units cs) ↔ l.IsIdentifier cs ∨ l.numeral cs = some (units cs) := by
  constructor
  · intro denotes
    generalize same : units cs = us at denotes
    cases denotes with
    | plain start spelled =>
      subst same
      exact .inl ⟨⟨_, rfl, start⟩, (spelled_self l.nameEscape_shrinks _).mp spelled⟩
    | escaped start cut spelled =>
      -- The backslash is one unit too many.
      have lengths := congrArg List.length same
      have first := unicodeEscape_shrinks _ _ _ cut
      have later := (spelled_length l.nameEscape_shrinks spelled).1
      have := (pointUnits_length '\\'.toNat).1
      simp only [units_cons, List.length_append] at lengths
      omega
    | literal kind denotes =>
      have shorter := literal_shorter denotes
      rw [same] at shorter
      exact absurd shorter (Nat.lt_irrefl _)
    | numeral value => exact .inr value
  · rintro (⟨⟨c, head, start⟩, parts⟩ | value)
    · obtain ⟨rest, rfl⟩ := List.head?_eq_some_iff.mp head
      exact .plain start ((spelled_self l.nameEscape_shrinks _).mpr parts)
    · exact .numeral value

end Lexicon

end ApiBindings.Literals
