import ApiBindings.Decimal.Notation
import Mathlib.Data.List.Basic
import Mathlib.Tactic.Common

/-!
# Leading digits

No number is written with a zero in front of other digits. The digits of a natural number begin with none unless it is
zero, and the shortest digits that read back as a number of 64 bits are not zero unless it is (`shortest_zero`): every
decimal that rounds to it lies above zero.
-/

namespace ApiBindings.LeadingDigits
open ApiBindings.Decimal

/-! ## Natural numbers -/

/-- The digits of a positive number have no zero in front. -/
theorem toDigits_front {n : Nat} (positive : 0 < n) (rest : List Char) : Nat.toDigits 10 n ≠ '0' :: rest := by
  induction n using Nat.strongRecOn generalizing rest with
  | ind n ih =>
    rcases Nat.lt_or_ge n 10 with small | large
    · have digits : ∀ d < 10, 0 < d → Nat.digitChar d ≠ '0' := by decide
      rw [Nat.toDigits_of_lt_base small]
      exact fun same => digits n small positive (List.cons.inj same).1
    · rw [Nat.toDigits_of_base_le (by decide) large]
      intro same
      obtain ⟨d, more, first⟩ := List.exists_cons_of_ne_nil (Nat.toDigits_ne_nil (n := n / 10) (b := 10))
      rw [first, List.cons_append] at same
      obtain ⟨rfl, _⟩ := List.cons.inj same
      exact ih (n / 10) (by omega) (by omega) more first

theorem natDigits_front {n : Nat} (positive : 0 < n) (rest : List Char) : natDigits n ≠ '0' :: rest := by
  rw [natDigits, Nat.toList_repr]
  exact toDigits_front positive rest

/-! ## Shortest digits -/

theorem holds_zero {i : Interval} (above : 0 < i.low) (power : Int) : i.holds 0 power = false := by
  have nonzero : i.low ≠ 0 := Nat.ne_of_gt above
  have reached : i.low * 10 ^ (-power).toNat ≠ 0 := Nat.mul_ne_zero nonzero (Nat.ne_of_gt (Nat.pow_pos (by decide)))
  by_cases sign : 0 ≤ power <;> by_cases closed : i.closed = true <;>
    simp [Interval.holds, sign, closed, nonzero, reached]

theorem roundHalfEven_le (num den : Nat) : num / den ≤ Binary64.roundHalfEven num den := by
  unfold Binary64.roundHalfEven
  dsimp only
  split_ifs <;> omega

theorem onGrid_pos {i : Interval} (above : 0 < i.low) {power : Int} {n : Nat} (hit : i.onGrid power = some n) :
    0 < n := by
  have inside {m : Nat} (holds : i.holds m power = true) : 0 < m := by
    rcases Nat.eq_zero_or_pos m with rfl | positive
    · rw [holds_zero above] at holds
      cases holds
    · exact positive
  unfold Interval.onGrid at hit
  dsimp only at hit
  split at hit
  next here _ =>
    cases hit
    exact Nat.lt_of_lt_of_le (inside here) (roundHalfEven_le _ _)
  next here _ =>
    cases hit
    exact inside here
  next =>
    cases hit
    exact Nat.succ_pos _
  next => cases hit

theorem search_pos {i : Interval} (above : 0 < i.low) {power : Int} {fuel : Nat} {d : Digits}
    (found : i.search power fuel = some d) : 0 < d.digits := by
  induction fuel generalizing power with
  | zero => cases found
  | succ fuel ih =>
    rw [Interval.search] at found
    cases hit : i.onGrid power with
    | none =>
      rw [hit] at found
      exact ih found
    | some n =>
      rw [hit] at found
      cases found
      exact onGrid_pos above hit

theorem trim_pos {d : Digits} (positive : 0 < d.digits) (fuel : Nat) : 0 < (d.trim fuel).digits := by
  induction fuel generalizing d with
  | zero => exact positive
  | succ fuel ih =>
    rw [Digits.trim]
    split_ifs with zeros
    · have tenth : 0 < d.digits / 10 := by omega
      exact ih tenth
    · exact positive

theorem low_pos {x : Binary64} (given : x.isZero = false) : 0 < (Interval.of x).low := by
  have some : 0 < x.significand := Nat.pos_of_ne_zero (by simpa [Binary64.isZero] using given)
  have scale (k : Nat) : 0 < Nat.pow 2 k := Nat.pow_pos (by decide)
  unfold Interval.of
  dsimp only
  split_ifs
  · exact Nat.mul_pos (by omega) (scale _)
  · dsimp only
    omega
  · exact Nat.mul_pos (by omega) (scale _)
  · dsimp only
    omega

/-- The shortest digits of a number are zero at no power but that of the units. -/
theorem shortest_zero {x : Binary64} (zero : (shortest x).digits = 0) : (shortest x).power = 0 := by
  unfold shortest at zero ⊢
  split_ifs at zero ⊢ with none
  · rfl
  · dsimp only at zero ⊢
    cases found : (Interval.of x).search (leadingPower (Interval.of x).value (Interval.of x).denominator) 17 with
    | none => rfl
    | some d =>
      rw [found] at zero
      have positive := trim_pos (search_pos (low_pos (by simpa using none)) found) 17
      exact absurd zero (Nat.ne_of_gt positive)

end ApiBindings.LeadingDigits
