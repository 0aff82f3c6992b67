import ApiBindings.Proofs.Comments
import Mathlib.Data.List.Infix

/-!
# Escaped texts

What becomes of a text that is escaped for a comment (`escaped_brokenUp`). It closes no comment afterwards, and one that
closes none is left as it is (`commentText_eq_self`). It falls into as many pieces as `*/` stands in it, and one more,
with these two characters between them; escaped it has the same pieces, with a backslash between the two
(`commentText_brokenUp`).
-/

namespace ApiBindings.EscapedTexts
open ApiBindings.Text ApiBindings.Comments ApiBindings.ClassText

/-- How often `*/` stands in a text. -/
def closings (cs : List Char) : Nat := cs.tails.countP fun rest => ['*', '/'].isPrefixOf rest

theorem closings_cons (c : Char) (cs : List Char) :
    closings (c :: cs) = closings cs + if c = '*' ∧ cs.head? = some '/' then 1 else 0 := by
  have begins : ['*', '/'].isPrefixOf (c :: cs) = true ↔ c = '*' ∧ cs.head? = some '/' := by
    rw [List.isPrefixOf_iff_prefix, List.cons_prefix_cons]
    cases cs with
    | nil => simp
    | cons d rest => simp [eq_comm]
  rw [closings, List.tails_cons, List.countP_cons, closings]
  congr 1
  exact if_congr begins rfl rfl

theorem closings_closing (rest : List Char) : closings ('*' :: '/' :: rest) = closings rest + 1 := by
  simp [closings_cons]

theorem closings_other {c : Char} {rest : List Char} (other : ∀ behind, c = '*' → rest = '/' :: behind → False) :
    closings (c :: rest) = closings rest := by
  have apart : ¬ (c = '*' ∧ rest.head? = some '/') := by
    rintro ⟨star, slash⟩
    obtain ⟨behind, same⟩ := List.head?_eq_some_iff.mp slash
    exact other behind star same
  rw [closings_cons, if_neg apart, Nat.add_zero]

/-- A text and the same one broken up: both fall into the same pieces, which close no comment, the one with a `*/`
    between them wherever it has one, and the other with a backslash between the two characters there. -/
def BrokenUp (cs broken : List Char) : Prop :=
  ∃ pieces : List (List Char), pieces.length = closings cs + 1 ∧ (∀ piece ∈ pieces, Harmless piece) ∧
    ['*', '/'].intercalate pieces = cs ∧ ['*', '\\', '/'].intercalate pieces = broken

theorem brokenUp_closing {rest broken : List Char} (behind : BrokenUp rest broken) :
    BrokenUp ('*' :: '/' :: rest) ('*' :: '\\' :: '/' :: broken) := by
  obtain ⟨pieces, length, harmless, whole, parts⟩ := behind
  obtain ⟨first, more, rfl⟩ := List.exists_cons_of_length_eq_add_one length
  refine ⟨[] :: first :: more, ?_, ?_, ?_, ?_⟩
  · rw [List.length_cons, length, closings_closing]
  · exact List.forall_mem_cons.mpr ⟨harmless_nil, harmless⟩
  · rw [List.intercalate_cons_cons, whole]
    rfl
  · rw [List.intercalate_cons_cons, parts]
    rfl

/-- One more character before the first piece. -/
theorem intercalate_before (mark : List Char) (c : Char) (first : List Char) (more : List (List Char)) :
    mark.intercalate ((c :: first) :: more) = c :: mark.intercalate (first :: more) := by
  cases more with
  | nil => rfl
  | cons second more => simp [List.intercalate_cons_cons]

theorem brokenUp_other {c : Char} {rest broken : List Char}
    (other : ∀ behind, c = '*' → rest = '/' :: behind → False) (behind : BrokenUp rest broken) :
    BrokenUp (c :: rest) (c :: broken) := by
  obtain ⟨pieces, length, harmless, whole, parts⟩ := behind
  obtain ⟨first, more, rfl⟩ := List.exists_cons_of_length_eq_add_one length
  obtain ⟨here, later⟩ := List.forall_mem_cons.mp harmless
  refine ⟨(c :: first) :: more, ?_, ?_, ?_, ?_⟩
  · rw [closings_other other]
    exact length
  · refine List.forall_mem_cons.mpr ⟨(harmless_cons c first).mpr ⟨?_, here⟩, later⟩
    rintro ⟨star, slash⟩
    obtain ⟨front, rfl⟩ := List.head?_eq_some_iff.mp slash
    rw [intercalate_before] at whole
    exact other _ star whole.symm
  · rw [intercalate_before, whole]
  · rw [intercalate_before, parts]

theorem commentText_brokenUp (cs : List Char) : BrokenUp cs (commentText cs) := by
  fun_induction commentText cs with
  | case1 => exact ⟨[[]], rfl, List.forall_mem_singleton.mpr harmless_nil, rfl, rfl⟩
  | case2 rest ih => exact brokenUp_closing ih
  | case3 c rest other ih => exact brokenUp_other other ih

theorem commentText_eq_self {cs : List Char} (harmless : Harmless cs) : commentText cs = cs := by
  fun_induction commentText cs with
  | case1 => rfl
  | case2 rest ih => exact absurd ⟨rfl, rfl⟩ ((harmless_cons '*' ('/' :: rest)).mp harmless).1
  | case3 c rest other ih => rw [ih ((harmless_cons c rest).mp harmless).2]

theorem escaped_eq_self_iff (s : String) : escaped s = s ↔ Harmless s.toList := by
  constructor
  · intro same
    rw [← same, escaped, String.toList_ofList]
    exact commentText_harmless s.toList
  · intro harmless
    rw [escaped, commentText_eq_self harmless, String.ofList_toList]

/-- An escaped text closes no comment. A text is left as it is exactly if it closes none, so that a text which is escaped
    already stays the same. It is broken up wherever `*/` stands in it, by one backslash each, and nowhere else. -/
theorem escaped_brokenUp (s : String) :
    Harmless (escaped s).toList ∧ (escaped s = s ↔ Harmless s.toList) ∧ escaped (escaped s) = escaped s ∧
      BrokenUp s.toList (escaped s).toList := by
  have spelling : (escaped s).toList = commentText s.toList := String.toList_ofList
  have harmless : Harmless (escaped s).toList := by
    rw [spelling]
    exact commentText_harmless s.toList
  refine ⟨harmless, escaped_eq_self_iff s, (escaped_eq_self_iff (escaped s)).mpr harmless, ?_⟩
  rw [spelling]
  exact commentText_brokenUp s.toList

example : closings "**//*/*/".toList = 3 ∧ escaped "**//*/*/" = "**\\//*\\/*\\/" := by decide +kernel

end ApiBindings.EscapedTexts
