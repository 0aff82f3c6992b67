import ApiBindings.Proofs.PathNames
import Mathlib.Data.List.Chain

/-!
# Names of parameters

What the camel case of a name of ASCII keeps of it (`camelCaseName_spelled`). The words of a text stand in it as they
are (`infix_words`), so where digits and letters are kept apart no word has both (`words_unmixed`), and a letter behind
a digit begins a word of its own and is raised (`isChain_runTogether`). But for its case the text is that of the name
without what is neither letter nor digit (`caseless_lowerCamel`).
-/

namespace ApiBindings.ParameterNames
open ApiBindings.Text ApiBindings.Identifiers ApiBindings.PathNames

/-! ## Words as they stand in a text -/

/-- The pieces between cuts stand in the text, the first one at its beginning. -/
theorem pieces_stand (cut : Char → Bool) (s : List Char) :
    (∀ piece ∈ (pieces cut s).head?, piece <+: s) ∧ ∀ piece ∈ pieces cut s, piece <:+: s := by
  induction s with
  | nil => simp [pieces]
  | cons c rest ih =>
    obtain ⟨begins, stand⟩ := ih
    have later {piece : List Char} (among : piece ∈ pieces cut rest) : piece <:+: c :: rest :=
      List.infix_cons (stand piece among)
    rw [pieces]
    split
    · constructor
      · simp
      · intro piece among
        rcases List.mem_cons.mp among with rfl | behind
        · exact ⟨[], c :: rest, rfl⟩
        · exact later behind
    · obtain ⟨first, more, same⟩ := List.exists_cons_of_ne_nil (pieces_eq cut rest ▸ List.splitOnP_ne_nil cut rest)
      have front : c :: first <+: c :: rest := List.cons_prefix_cons.mpr ⟨rfl, begins first (by simp [same])⟩
      rw [same]
      constructor
      · simpa using front
      · intro piece among
        rcases List.mem_cons.mp among with rfl | behind
        · exact front.isInfix
        · exact later (same ▸ List.mem_cons_of_mem first behind)

theorem infix_humps {h : Hump} {word s piece : List Char} (among : piece ∈ humps h word s) : piece <:+: word ++ s := by
  fun_induction humps h word s with
  | case1 => cases among
  | case2 h word c =>
    obtain rfl := List.mem_singleton.mp among
    exact List.infix_rfl
  | case3 h word c next rest _ ih =>
    have whole : word ++ c :: next :: rest = (word ++ [c]) ++ next :: rest := by simp
    rw [whole]
    rcases List.mem_cons.mp among with rfl | later
    · exact (List.prefix_append _ _).isInfix
    · exact (ih later).trans (List.suffix_append _ _).isInfix
  | case4 h word c next rest _ _ ih =>
    rcases List.mem_cons.mp among with rfl | later
    · exact (List.prefix_append _ _).isInfix
    · exact (ih later).trans (List.suffix_append _ _).isInfix
  | case5 h word c next rest _ _ ih => simpa using ih among

/-- The words of a text stand in it as they are. -/
theorem infix_words {s word : List Char} (among : word ∈ words s) : word <:+: s := by
  obtain ⟨piece, between, hump⟩ := List.mem_flatMap.mp among
  have inside : word <:+: piece := by simpa using infix_humps hump
  exact inside.trans ((pieces_stand _ s).2 piece between)

theorem humps_ne_nil {h : Hump} {word s piece : List Char} (some : h = .none ∨ word ≠ [])
    (among : piece ∈ humps h word s) : piece ≠ [] := by
  fun_induction humps h word s with
  | case1 => cases among
  | case2 h word c => simp [List.mem_singleton.mp among]
  | case3 h word c next rest _ ih =>
    rcases List.mem_cons.mp among with rfl | later
    · simp
    · exact ih (.inl rfl) later
  | case4 h word c next rest _ rises ih =>
    rcases List.mem_cons.mp among with rfl | later
    · -- The hump is cut before the last capital of a row, so another one was read before.
      rcases some with none | given
      · rw [none] at rises
        cases rises.1
      · exact given
    · exact ih (.inl rfl) later
  | case5 h word c next rest _ _ ih => exact ih (.inr (by simp)) among

theorem words_ne_nil {s word : List Char} (among : word ∈ words s) : word ≠ [] := by
  obtain ⟨piece, _, hump⟩ := List.mem_flatMap.mp among
  exact humps_ne_nil (.inl rfl) hump

/-! ## Digits and letters apart -/

/-- Two characters in a row that are no letter behind a digit. -/
def Unmixed (d c : Char) : Prop := d.isDigit = true → c.isAlpha = false

theorem unmixed_of_meetsDigit {d c : Char} (apart : meetsDigit d c = false) : Unmixed d c := by
  intro digit
  rw [meetsDigit, digit, Bool.true_and, Bool.or_eq_false_iff] at apart
  by_contra letter
  rw [Bool.not_eq_false] at letter
  have ascii := ascii_of_isAlphanum (isAlphanum_of_isAlpha letter)
  simp [isAlphabetic, ascii, letter] at apart

theorem head_breakDigits (s : List Char) : (breakDigits s).head? = s.head? := by
  fun_cases breakDigits s <;> rfl

/-- With the breaks no letter stands behind a digit. -/
theorem breakDigits_unmixed (s : List Char) : (breakDigits s).IsChain Unmixed := by
  have mark : isAlphanumeric '_' = false := by decide +kernel
  fun_induction breakDigits s with
  | case1 => exact List.isChain_nil
  | case2 => exact List.isChain_singleton _
  | case3 a b rest _ ih =>
    refine List.isChain_cons_cons.mpr ⟨unmixed_of_meetsDigit (meetsDigit_mark mark a).1, List.isChain_cons.mpr ⟨?_, ih⟩⟩
    intro c _
    exact unmixed_of_meetsDigit (meetsDigit_mark mark c).2
  | case4 a b rest apart ih =>
    refine List.isChain_cons.mpr ⟨?_, ih⟩
    intro c head
    rw [head_breakDigits] at head
    cases head
    exact unmixed_of_meetsDigit (Bool.not_eq_true _ ▸ apart)

theorem words_unmixed {s word : List Char} (among : word ∈ words (breakDigits s)) : word.IsChain Unmixed := by
  obtain ⟨front, back, whole⟩ := infix_words among
  have unmixed := breakDigits_unmixed s
  rw [← whole] at unmixed
  exact unmixed.left_of_append.right_of_append

/-- Case does not matter for that. -/
theorem caseless_unmixed {s : List Char} (ascii : IsAscii s) : (caseless s).IsChain Unmixed ↔ s.IsChain Unmixed := by
  rw [caseless, List.isChain_map]
  refine List.IsChain.iff_of_mem_imp fun d c digit letter => ?_
  rw [Unmixed, Unmixed, isDigit_toLower (ascii d digit), isAlpha_toLower (ascii c letter)]

theorem unmixed_cased {s t : List Char} (ascii : IsAscii s) (ascii' : IsAscii t) (same : caseless s = caseless t)
    (unmixed : t.IsChain Unmixed) : s.IsChain Unmixed := by
  rw [← caseless_unmixed ascii, same, caseless_unmixed ascii']
  exact unmixed

/-! ## Raised letters -/

/-- Two characters in a row of which the second is raised, if it is a letter behind a digit. -/
def Raised (d c : Char) : Prop := d.isDigit = true → c.isAlpha = true → c.isUpper = true

theorem Unmixed.raised {d c : Char} (unmixed : Unmixed d c) : Raised d c := by
  intro digit letter
  rw [unmixed digit] at letter
  cases letter

theorem isUpper_toUpper {c : Char} (ascii : c.toNat < 128) : c.toUpper.isAlpha = true → c.toUpper.isUpper = true :=
  forall_ascii (P := fun c => c.toUpper.isAlpha = true → c.toUpper.isUpper = true) (by decide +kernel) ascii

theorem isUpper_toLower {c : Char} (ascii : c.toNat < 128) : c.toLower.isUpper = false :=
  forall_ascii (P := fun c => c.toLower.isUpper = false) (by decide +kernel) ascii

/-- A word begins raised: with a capital if it begins with a letter. -/
theorem head_capitalWord {word : List Char} (ascii : IsAscii word) :
    ∀ c ∈ (capitalWord word).head?, c.isAlpha = true → c.isUpper = true := by
  cases word with
  | nil => exact nofun
  | cons c rest =>
    have head := ascii c List.mem_cons_self
    rw [capitalWord, upperOf_eq head]
    rintro _ ⟨⟩
    exact isUpper_toUpper head

theorem head_lowerWord {word : List Char} (ascii : IsAscii word) :
    ∀ c ∈ (lowerWord word).head?, c.isUpper = false := by
  fun_cases lowerWord word with
  | case1 => exact nofun
  | case2 => exact absurd (ascii 'Σ' List.mem_cons_self) (by decide)
  | case3 c rest _ =>
    have head := ascii c List.mem_cons_self
    rw [lowerOf_eq head]
    rintro _ ⟨⟩
    exact isUpper_toLower head

section Cased

variable {word : List Char} (ascii : IsAscii word)
include ascii

theorem isAscii_lowerWord : IsAscii (lowerWord word) := by
  refine forall_lowerWord (fun sigma => absurd (ascii 'Σ' sigma) (by decide)) fun c inside => ?_
  rw [lowerOf_eq (ascii c inside)]
  simpa using ascii_toLower (ascii c inside)

theorem isAscii_capitalWord : IsAscii (capitalWord word) := by
  refine forall_capitalWord (fun sigma => absurd (ascii 'Σ' sigma) (by decide)) (fun c inside => ?_) fun c inside => ?_
  · rw [lowerOf_eq (ascii c inside)]
    simpa using ascii_toLower (ascii c inside)
  · rw [upperOf_eq (ascii c inside)]
    simpa using ascii_toUpper (ascii c inside)

theorem lowerWord_unmixed (unmixed : word.IsChain Unmixed) : (lowerWord word).IsChain Unmixed :=
  unmixed_cased (isAscii_lowerWord ascii) ascii (caseless_lowerWord ascii) unmixed

theorem capitalWord_unmixed (unmixed : word.IsChain Unmixed) : (capitalWord word).IsChain Unmixed :=
  unmixed_cased (isAscii_capitalWord ascii) ascii (caseless_capitalWord ascii) unmixed

end Cased

theorem head_capitals {list : List (List Char)} (ascii : ∀ word ∈ list, IsAscii word) :
    ∀ c ∈ (list.flatMap capitalWord).head?, c.isAlpha = true → c.isUpper = true := by
  induction list with
  | nil => exact nofun
  | cons word rest ih =>
    obtain ⟨head, tail⟩ := List.forall_mem_cons.mp ascii
    rw [List.flatMap_cons, List.head?_append]
    intro c first
    rcases Option.or_eq_some_iff.mp first with here | ⟨_, later⟩
    · exact head_capitalWord head c here
    · exact ih tail c later

theorem isChain_capitals {list : List (List Char)} (ascii : ∀ word ∈ list, IsAscii word)
    (unmixed : ∀ word ∈ list, word.IsChain Unmixed) : (list.flatMap capitalWord).IsChain Raised := by
  induction list with
  | nil => exact List.isChain_nil
  | cons word rest ih =>
    obtain ⟨ascii_head, ascii_tail⟩ := List.forall_mem_cons.mp ascii
    obtain ⟨head, tail⟩ := List.forall_mem_cons.mp unmixed
    have here := (capitalWord_unmixed ascii_head head).imp fun _ _ => Unmixed.raised
    exact here.append (ih ascii_tail tail) fun _ _ c first _ => head_capitals ascii_tail c first

/-- Words that are run together are raised behind digits: what begins a word is, and inside a word no letter stands
    behind a digit. -/
theorem isChain_runTogether {list : List (List Char)} (ascii : ∀ word ∈ list, IsAscii word)
    (unmixed : ∀ word ∈ list, word.IsChain Unmixed) : (runTogether list).IsChain Raised := by
  cases list with
  | nil => exact List.isChain_nil
  | cons first rest =>
    obtain ⟨ascii_head, ascii_tail⟩ := List.forall_mem_cons.mp ascii
    obtain ⟨head, tail⟩ := List.forall_mem_cons.mp unmixed
    have here := (lowerWord_unmixed ascii_head head).imp fun _ _ => Unmixed.raised
    exact here.append (isChain_capitals ascii_tail tail) fun _ _ c begins _ => head_capitals ascii_tail c begins

/-- Words that are run together begin with no capital. -/
theorem head_runTogether {list : List (List Char)} (ascii : ∀ word ∈ list, IsAscii word) (given : [] ∉ list) :
    ∀ c ∈ (runTogether list).head?, c.isUpper = false := by
  cases list with
  | nil => exact nofun
  | cons first rest =>
    have head := ascii first List.mem_cons_self
    rw [runTogether, List.head?_append]
    intro c begins
    rcases Option.or_eq_some_iff.mp begins with here | ⟨none, _⟩
    · exact head_lowerWord head c here
    · have empty := congrArg caseless (List.head?_eq_none_iff.mp none)
      rw [caseless_lowerWord head] at empty
      obtain rfl : first = [] := List.map_eq_nil_iff.mp empty
      exact absurd List.mem_cons_self given

/-! ## The camel case of a name -/

theorem filter_caseless {s : List Char} (ascii : IsAscii s) :
    (caseless s).filter Char.isAlphanum = caseless (s.filter isAlphanumeric) := by
  rw [caseless, List.filter_map, caseless]
  congr 1
  refine List.filter_congr fun c inside => ?_
  rw [Function.comp_apply, isAlphanum_toLower (ascii c inside), isAlphanumeric_eq (ascii c inside)]

/-- A text spells a name in camel case: it is made of letters and digits and begins with no capital, every letter
    behind a digit is a capital, and but for its case it is the name without what is neither letter nor digit. -/
structure SpellsName (name camel : String) : Prop where
  plain : IsPlain camel.toList
  start : ∀ c ∈ camel.toList.head?, c.isUpper = false
  raised : ∀ before d c after, camel.toList = before ++ d :: c :: after → d.isDigit = true → c.isAlpha = true →
    c.isUpper = true
  spelled : caseless camel.toList = (caseless name.toList).filter Char.isAlphanum

/-- The camel case of a name of ASCII spells the name. -/
theorem camelCaseName_spelled {name : String} (ascii : IsAscii name.toList) :
    SpellsName name (camelCaseName name) := by
  have broken := isAscii_breakDigits ascii
  have words_ascii := isAscii_words broken
  have spelling : (camelCaseName name).toList = lowerCamel (breakDigits name.toList) := String.toList_ofList
  constructor
  · rw [spelling]
    exact isPlain_lowerCamel broken
  · rw [spelling, lowerCamel_eq]
    exact head_runTogether words_ascii fun among => words_ne_nil among rfl
  · intro before d c after same
    rw [spelling, lowerCamel_eq] at same
    have raised := isChain_runTogether words_ascii fun word => words_unmixed
    exact List.isChain_iff_forall_rel_of_append_cons_cons.mp raised same
  · rw [spelling, caseless_lowerCamel broken, flatten_words, filter_breakDigits, filter_caseless ascii]

/-- A name with capitals, digits and marks of every kind in it. -/
def mixedName : String := "9x-API2key_v2Beta 3D_4--.5e\x7bHTTPs\x7d"

theorem camelCaseName_spelled_mixed :
    IsAscii mixedName.toList ∧ camelCaseName mixedName = "9XApi2KeyV2Beta3D45EHttPs" ∧
      SpellsName mixedName (camelCaseName mixedName) := by
  have ascii : IsAscii mixedName.toList := by decide
  exact ⟨ascii, by decide +kernel, camelCaseName_spelled ascii⟩

end ApiBindings.ParameterNames
