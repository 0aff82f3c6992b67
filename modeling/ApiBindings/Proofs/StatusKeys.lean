import ApiBindings.Document.Operation
import Mathlib.Data.List.TakeWhile
import Mathlib.Data.Nat.Digits.Defs
import Mathlib.Tactic.Ring

/-!
# Status keys

Blanks may stand at the head of a status key, then digits, and what follows the last digit is passed over. The digits
are taken into a word of 64 bits one by one, and each step is checked. A key has a status code exactly if the number
that its digits write fits the word, and it is one of success exactly if that number lies between zero and four hundred
(`statusKeys_classified`). Zeros at the head of the digits do not count, and no number comes back as another one.
-/

namespace ApiBindings.StatusKeys
open ApiBindings.Document ApiBindings.Decimal

/-! ## Digits of a key -/

/-- The number that a digit stands for. -/
def digitOf (c : Char) : Nat := c.toNat - '0'.toNat

/-- The whole number that decimal digits write, however many there are. -/
def numeral (run : List Char) : Nat := Nat.ofDigits 10 (run.reverse.map digitOf)

/-- A key opens with a run of digits: there are only blanks before it, and behind it no further digit. -/
def OpensWith (key : String) (run : List Char) : Prop :=
  ∃ blanks rest, key.toList = blanks ++ (run ++ rest) ∧
    (∀ c ∈ blanks, Text.isBlank c) ∧ (∀ c ∈ (run ++ rest).head?, ¬ Text.isBlank c) ∧
    (∀ c ∈ run, c.isDigit) ∧ ∀ c ∈ rest.head?, ¬ c.isDigit

theorem head_dropWhile (p : Char → Bool) (text : List Char) : ∀ c ∈ (text.dropWhile p).head?, ¬ p c := by
  intro c first
  have stops := List.head?_dropWhile_not p text
  rw [Option.mem_def.mp first] at stops
  simpa using stops

theorem takeWhile_exact {p : Char → Bool} {front back : List Char} (inside : ∀ c ∈ front, p c)
    (stops : ∀ c ∈ back.head?, ¬ p c) : (front ++ back).takeWhile p = front := by
  rw [List.takeWhile_append_of_pos inside]
  cases back with
  | nil => simp
  | cons c rest => simp [stops c rfl]

theorem dropWhile_exact {p : Char → Bool} {front back : List Char} (inside : ∀ c ∈ front, p c)
    (stops : ∀ c ∈ back.head?, ¬ p c) : (front ++ back).dropWhile p = back := by
  rw [List.dropWhile_append_of_pos inside]
  cases back with
  | nil => rfl
  | cons c rest => simp [stops c rfl]

/-- A key opens with one run of digits alone, which may be empty. -/
theorem opensWith_iff (key : String) (run : List Char) :
    OpensWith key run ↔ run = (key.toList.dropWhile Text.isBlank).takeWhile Char.isDigit := by
  constructor
  · rintro ⟨blanks, rest, split, blank, solid, digits, behind⟩
    rw [split, dropWhile_exact blank solid, takeWhile_exact digits behind]
  · rintro rfl
    refine ⟨key.toList.takeWhile Text.isBlank, (key.toList.dropWhile Text.isBlank).dropWhile Char.isDigit,
      ?_, ?_, ?_, ?_, ?_⟩
    · rw [List.takeWhile_append_dropWhile, List.takeWhile_append_dropWhile]
    · intro c inside
      exact List.mem_takeWhile_imp inside
    · rw [List.takeWhile_append_dropWhile]
      exact head_dropWhile _ _
    · intro c inside
      exact List.mem_takeWhile_imp inside
    · exact head_dropWhile _ _

/-! ## Checked steps -/

theorem numeral_cons (c : Char) (run : List Char) :
    numeral (c :: run) = digitOf c * 10 ^ run.length + numeral run := by
  rw [numeral, List.reverse_cons, List.map_append, Nat.ofDigits_append, List.map_singleton, Nat.ofDigits_singleton,
    List.length_map, List.length_reverse, numeral]
  ring

theorem digitValue_digit {c : Char} (digit : c.isDigit) : digitValue c = digitOf c := by
  rw [digitValue, if_pos digit]
  rfl

theorem digitOf_lt {c : Char} (digit : c.isDigit) : digitOf c < 10 := by
  have range : 48 ≤ c.toNat ∧ c.toNat ≤ 57 := by simpa [Char.isDigit, UInt32.le_iff_toNat_le] using digit
  have zero : '0'.toNat = 48 := rfl
  rw [digitOf]
  omega

/-- A word that is right up to wrapping around is given where the number is one, and nothing where it is not. -/
theorem checked_eq_some {k : Nat} {wrapped p : UInt64} (wraps : wrapped.toNat = k % UInt64.size) :
    (if k < UInt64.size then some wrapped else none) = some p ↔ p.toNat = k := by
  have bound : p.toNat < UInt64.size := p.toNat_lt
  by_cases fits : k < UInt64.size
  · rw [if_pos fits, Option.some_inj, ← UInt64.toNat_inj, wraps, Nat.mod_eq_of_lt fits, eq_comm]
  · rw [if_neg fits]
    constructor
    · intro given
      cases given
    · intro same
      exact absurd (same ▸ bound) fits

theorem product64?_eq_some {m n p : UInt64} : product64? m n = some p ↔ p.toNat = m.toNat * n.toNat :=
  checked_eq_some (UInt64.toNat_mul m n)

theorem sum64?_eq_some {m n p : UInt64} : sum64? m n = some p ↔ p.toNat = m.toNat + n.toNat :=
  checked_eq_some (UInt64.toNat_add m n)

/-- A step gives the number with one more digit, or nothing where that is no word. -/
theorem withDigit?_eq_some {n m : UInt64} {c : Char} (digit : c.isDigit) :
    withDigit? n c = some m ↔ m.toNat = n.toNat * 10 + digitOf c := by
  have small : (UInt64.ofNat (digitValue c)).toNat = digitOf c := by
    have below := digitOf_lt digit
    rw [digitValue_digit digit, UInt64.toNat_ofNat']
    omega
  have ten : (10 : UInt64).toNat = 10 := rfl
  show (product64? n 10).bind _ = _ ↔ _
  rw [Option.bind_eq_some_iff]
  constructor
  · rintro ⟨p, product, sum⟩
    rw [sum64?_eq_some.mp sum, product64?_eq_some.mp product, small, ten]
  · intro same
    -- The product is no greater than the number with the digit, so it is a word as well.
    have bound := m.toNat_lt
    have fits : (UInt64.ofNat (n.toNat * 10)).toNat = n.toNat * 10 := by
      rw [UInt64.toNat_ofNat']
      omega
    exact ⟨_, product64?_eq_some.mpr fits, sum64?_eq_some.mpr (by rw [same, fits, small])⟩

/-- Steps along a run of digits give the number that it writes behind the word they begin with, or nothing where that
    is no word. -/
theorem foldlM_withDigit?_eq_some {run : List Char} (digits : ∀ c ∈ run, c.isDigit) (n m : UInt64) :
    run.foldlM withDigit? n = some m ↔ m.toNat = n.toNat * 10 ^ run.length + numeral run := by
  induction run generalizing n with
  | nil =>
    simp [numeral, ← UInt64.toNat_inj, eq_comm]
  | cons c run ih =>
    rw [List.forall_mem_cons] at digits
    obtain ⟨first, others⟩ := digits
    have whole : n.toNat * 10 ^ (c :: run).length + numeral (c :: run) =
        (n.toNat * 10 + digitOf c) * 10 ^ run.length + numeral run := by
      rw [numeral_cons, List.length_cons]
      ring
    rw [List.foldlM_cons, whole]
    show (withDigit? n c).bind _ = _ ↔ _
    rw [Option.bind_eq_some_iff]
    constructor
    · rintro ⟨next, step, rest⟩
      rw [(ih others next).mp rest, (withDigit?_eq_some first).mp step]
    · intro same
      -- What the digits write so far is no greater than what all of them write, so every step fits.
      have bound := m.toNat_lt
      have power : 1 ≤ 10 ^ run.length := Nat.one_le_pow _ _ (by decide)
      have below : n.toNat * 10 + digitOf c ≤ m.toNat := by
        rw [same]
        exact (Nat.le_mul_of_pos_right _ power).trans (Nat.le_add_right _ _)
      have fits : (UInt64.ofNat (n.toNat * 10 + digitOf c)).toNat = n.toNat * 10 + digitOf c := by
        rw [UInt64.toNat_ofNat']
        omega
      exact ⟨_, (withDigit?_eq_some first).mpr fits, (ih others _).mpr (by rw [same, fits])⟩

theorem word?_eq_some {run : List Char} (digits : ∀ c ∈ run, c.isDigit) {m : UInt64} :
    word? run = some m ↔ run ≠ [] ∧ m.toNat = numeral run := by
  rw [word?]
  by_cases empty : run = []
  · simp [empty]
  · rw [if_neg (by simpa using empty), foldlM_withDigit?_eq_some digits]
    simp [empty]

/-! ## Status codes -/

/-- A key has a status code if it opens with digits and the number they write is a word. -/
theorem statusCode?_eq_some {key : String} {n : Nat} :
    statusCode? key = some n ↔ ∃ run, OpensWith key run ∧ run ≠ [] ∧ n = numeral run ∧ n < 2 ^ 64 := by
  simp only [opensWith_iff, exists_eq_left]
  rw [statusCode?, Option.map_eq_some_iff]
  have digits : ∀ c ∈ (key.toList.dropWhile Text.isBlank).takeWhile Char.isDigit, c.isDigit := by
    intro c inside
    exact List.mem_takeWhile_imp inside
  constructor
  · rintro ⟨m, written, rfl⟩
    obtain ⟨given, same⟩ := (word?_eq_some digits).mp written
    exact ⟨given, same, m.toNat_lt⟩
  · rintro ⟨given, rfl, fits⟩
    have same : (UInt64.ofNat (numeral ((key.toList.dropWhile Text.isBlank).takeWhile Char.isDigit))).toNat =
        numeral ((key.toList.dropWhile Text.isBlank).takeWhile Char.isDigit) := by
      rw [UInt64.toNat_ofNat', Nat.mod_eq_of_lt fits]
    exact ⟨_, (word?_eq_some digits).mpr ⟨given, same⟩, same⟩

/-- A key is one of success if the digits that it opens with write a number between zero and four hundred, and it has
    a status code if they write one below two to the sixty-fourth; that number is the code. -/
theorem statusKeys_classified (key : String) :
    (isSuccess key = true ↔ ∃ run, OpensWith key run ∧ 0 < numeral run ∧ numeral run < 400) ∧
    ∀ n, statusCode? key = some n ↔ ∃ run, OpensWith key run ∧ run ≠ [] ∧ n = numeral run ∧ n < 2 ^ 64 := by
  refine ⟨?_, fun n => statusCode?_eq_some⟩
  rw [isSuccess, Option.any_eq_true]
  constructor
  · rintro ⟨n, code, between⟩
    obtain ⟨run, opens, _, rfl, _⟩ := statusCode?_eq_some.mp code
    simp only [Bool.and_eq_true, decide_eq_true_eq] at between
    exact ⟨run, opens, between⟩
  · rintro ⟨run, opens, positive, small⟩
    have given : run ≠ [] := by
      rintro rfl
      exact absurd positive (lt_irrefl 0)
    have fits : numeral run < 2 ^ 64 := small.trans (by norm_num)
    refine ⟨numeral run, statusCode?_eq_some.mpr ⟨run, opens, given, rfl, fits⟩, ?_⟩
    simp [positive, small]

example : statusCode? " 00000000000000000000200x" = some 200 ∧
    statusCode? "18446744073709551615" = some (2 ^ 64 - 1) ∧ statusCode? "18446744073709551616" = none := by
  decide +kernel

end ApiBindings.StatusKeys
