import ApiBindings.Naming
import Mathlib.Data.Finset.Card
import Mathlib.Order.Interval.Finset.Nat

/-!
# Claimed names

What it is to claim a name while others are taken (`claim_decided`). The search for a free number ends, since the name
itself and those with the numbers that it has gone past are different names of one finite set, so that their number
is bounded by its size (`passed_le_card`). It finds none only where all numbers are taken, and a set is that large which
has more names than there are numbers (`list_runs_out`).
-/

namespace ApiBindings.ClaimedNames

/-! ## The search -/

/-- A search ends at a number: its name is free, and those of the numbers from one on before it are taken. -/
structure EndsAt (taken : List String) (name : String) (k : Nat) : Prop where
  some : 1 ≤ k
  counted : k ≤ lastNumber
  free : numbered name k ∉ taken
  passed : ∀ j, 1 ≤ j → j < k → numbered name j ∈ taken

/-- The numbers run out: the name is taken, and so is that with each of the numbers. -/
structure RunsOut (taken : List String) (name : String) : Prop where
  met : name ∈ taken
  passed : ∀ k, 1 ≤ k → k ≤ lastNumber → numbered name k ∈ taken

theorem freeNumber?_eq_some {taken : List String} {name : String} {k n : Nat} (counted : k ≤ lastNumber)
    (found : freeNumber? taken name k = some n) :
    k ≤ n ∧ n ≤ lastNumber ∧ numbered name n ∉ taken ∧ ∀ j, k ≤ j → j < n → numbered name j ∈ taken := by
  fun_induction freeNumber? taken name k with
  | case1 k met more ih =>
    obtain ⟨from_k, upTo, free, passed⟩ := ih more found
    refine ⟨by omega, upTo, free, fun j above below => ?_⟩
    rcases Nat.eq_or_lt_of_le above with same | later
    · exact same ▸ met
    · exact passed j later below
  | case2 k met last => cases found
  | case3 k free =>
    cases found
    exact ⟨Nat.le_refl _, counted, free, by omega⟩

theorem freeNumber?_eq_none {taken : List String} {name : String} {k : Nat}
    (none : freeNumber? taken name k = none) : ∀ j, k ≤ j → j ≤ lastNumber → numbered name j ∈ taken := by
  fun_induction freeNumber? taken name k with
  | case1 k met more ih =>
    intro j above upTo
    rcases Nat.eq_or_lt_of_le above with same | later
    · exact same ▸ met
    · exact ih none j later upTo
  | case2 k met last =>
    intro j above upTo
    obtain rfl : k = j := by omega
    exact met
  | case3 k free => cases none

/-- From one on a search ends at a number, or all of them are taken. -/
theorem search_ends {taken : List String} {name : String} (met : name ∈ taken) :
    (∃ k, freeNumber? taken name 1 = some k ∧ EndsAt taken name k) ∨
      freeNumber? taken name 1 = none ∧ RunsOut taken name := by
  cases found : freeNumber? taken name 1 with
  | none => exact .inr ⟨rfl, met, freeNumber?_eq_none found⟩
  | some k =>
    obtain ⟨some, counted, free, passed⟩ := freeNumber?_eq_some (by decide) found
    exact .inl ⟨k, rfl, some, counted, free, passed⟩

theorem RunsOut.search {taken : List String} {name : String} (out : RunsOut taken name) :
    freeNumber? taken name 1 = none := by
  rcases search_ends out.met with ⟨k, _, ends⟩ | ⟨none, _⟩
  · exact absurd (out.passed k ends.some ends.counted) ends.free
  · exact none

/-! ## Names that are passed -/

theorem numbered_ne (name : String) (k : Nat) : numbered name k ≠ name := by
  intro same
  have lengths := congrArg String.length same
  simp only [numbered, String.length_append] at lengths
  have mark : "_".length = 1 := rfl
  omega

/-- A search for a name that is taken itself goes past fewer numbers than there are names taken. -/
theorem passed_le_card {taken : List String} {name : String} {k : Nat} (met : name ∈ taken) (some : 1 ≤ k)
    (passed : ∀ j, 1 ≤ j → j < k → numbered name j ∈ taken) : k ≤ taken.toFinset.card := by
  have other : name ∉ (Finset.Ico 1 k).image (numbered name) := by
    intro among
    obtain ⟨j, _, same⟩ := Finset.mem_image.mp among
    exact numbered_ne name j same
  have inside : insert name ((Finset.Ico 1 k).image (numbered name)) ⊆ taken.toFinset := by
    intro t among
    rw [List.mem_toFinset]
    rcases Finset.mem_insert.mp among with rfl | among
    · exact met
    · obtain ⟨j, bounds, rfl⟩ := Finset.mem_image.mp among
      obtain ⟨from_one, below⟩ := Finset.mem_Ico.mp bounds
      exact passed j from_one below
  calc
    k = (Finset.Ico 1 k).card + 1 := by rw [Nat.card_Ico]; omega
    _ = ((Finset.Ico 1 k).image (numbered name)).card + 1 := by
      rw [Finset.card_image_of_injective _ fun _ _ => numbered_inj]
    _ = (insert name ((Finset.Ico 1 k).image (numbered name))).card := (Finset.card_insert_of_notMem other).symm
    _ ≤ taken.toFinset.card := Finset.card_le_card inside

/-- Only a set with more names than there are numbers has all of them taken. -/
theorem RunsOut.card {taken : List String} {name : String} (out : RunsOut taken name) :
    2 ^ 31 ≤ taken.toFinset.card := by
  have passed : ∀ j, 1 ≤ j → j < lastNumber + 1 → numbered name j ∈ taken :=
    fun j some below => out.passed j some (Nat.le_of_lt_succ below)
  exact passed_le_card out.met (Nat.succ_le_succ (Nat.zero_le lastNumber)) passed

/-! ## One claim -/

/-- A name claimed: what is taken before, what is asked for, what is handed out and what is taken afterwards. If the
    name itself is taken, the search for a number ends, at one that is no greater than the number of taken names. -/
structure Claimed (before : List String) (asked given : String) (after : List String) : Prop where
  ends : asked ∈ before → ∃ k, freeNumber? before asked 1 = some k ∧ EndsAt before asked k ∧
    k ≤ before.toFinset.card ∧ given = numbered asked k
  fresh : given ∉ before
  kept : given = asked ↔ asked ∉ before
  taken : after.toFinset = insert given before.toFinset

/-- What is taken afterwards is what was, with the name that is handed out. -/
theorem toFinset_after (taken : List String) (given : String) :
    (taken ++ [given]).toFinset = insert given taken.toFinset := by
  rw [List.toFinset_append, Finset.union_comm]
  rfl

theorem claimed_free {taken : List String} {name : String} (free : name ∉ taken) :
    Claimed taken name name (taken ++ [name]) where
  ends met := absurd met free
  fresh := free
  kept := iff_of_true rfl free
  taken := toFinset_after taken name

theorem claimed_numbered {taken : List String} {name : String} {k : Nat} (met : name ∈ taken)
    (found : freeNumber? taken name 1 = some k) (ends : EndsAt taken name k) :
    Claimed taken name (numbered name k) (taken ++ [numbered name k]) where
  ends _ := ⟨k, found, ends, passed_le_card met ends.some ends.passed, rfl⟩
  fresh := ends.free
  kept := iff_of_false (numbered_ne name k) (not_not_intro met)
  taken := toFinset_after taken (numbered name k)

theorem RunsOut.claim {taken : List String} {name : String} (out : RunsOut taken name) : claim? taken name = none := by
  simp [claim?, out.met, out.search]

/-- As long as the numbers do not run out, a name is claimed. -/
theorem exists_claimed {taken : List String} {name : String} (left : ¬ RunsOut taken name) :
    ∃ given, claim? taken name = some (given, taken ++ [given]) ∧ Claimed taken name given (taken ++ [given]) := by
  by_cases met : name ∈ taken
  · rcases search_ends met with ⟨k, found, ends⟩ | ⟨_, out⟩
    · exact ⟨_, by simp [claim?, met, found], claimed_numbered met found ends⟩
    · exact absurd out left
  · exact ⟨_, by simp [claim?, met], claimed_free met⟩

/-- Whatever is taken and whatever is asked for, a name is claimed, or the numbers run out. -/
theorem claim_decided (taken : List String) (name : String) :
    (∃ given after, claim? taken name = some (given, after) ∧ Claimed taken name given after) ∨
      claim? taken name = none ∧ RunsOut taken name ∧ 2 ^ 31 ≤ taken.toFinset.card := by
  by_cases out : RunsOut taken name
  · exact .inr ⟨out.claim, out, out.card⟩
  · obtain ⟨given, handed, claimed⟩ := exists_claimed out
    exact .inl ⟨given, _, handed, claimed⟩

example : claim? ["list", "list_1", "list_3"] "list" = some ("list_2", ["list", "list_1", "list_3", "list_2"]) := by
  decide +kernel

/-- A name and that name with each of the numbers. -/
def allNumbered (name : String) : List String := name :: (List.range lastNumber).map fun k => numbered name (k + 1)

theorem allNumbered_runsOut (name : String) : RunsOut (allNumbered name) name where
  met := List.mem_cons_self
  passed k some counted := by
    refine List.mem_cons_of_mem name (List.mem_map.mpr ⟨k - 1, List.mem_range.mpr (by omega), ?_⟩)
    rw [Nat.sub_add_cancel some]

/-- Where `list` is taken, with each of the numbers as well, no name is left for it. -/
theorem list_runs_out :
    claim? (allNumbered "list") "list" = none ∧
      ¬ ∀ taken name, ∃ given after, claim? taken name = some (given, after) ∧ Claimed taken name given after := by
  have none := (allNumbered_runsOut "list").claim
  refine ⟨none, fun always => ?_⟩
  obtain ⟨given, after, found, _⟩ := always (allNumbered "list") "list"
  rw [none] at found
  cases found

end ApiBindings.ClaimedNames
