import ApiBindings.Proofs.Bindings
import ApiBindings.Proofs.MethodNames
import ApiBindings.Proofs.TypeGrammar

/-!
# Names that are identifiers

Which methods of a view have names that are identifiers (`methodNames_identify`). A name that is derived from a
path is one: it is its verb, with nothing behind it but the letters and digits of the path
(`pathName_identifies`). An explicit name is one exactly if it has no characters besides those of identifiers and
the four that are replaced (`normalizedName_identifies`). A number behind a name decides nothing
(`numbered_identifies`).
-/

namespace ApiBindings.Identifiers
open ApiBindings.Text ApiBindings.Document ApiBindings.View ApiBindings.Walks ApiBindings.MethodNames
open ApiBindings.TypeGrammar (isNameChar)

/-! ## Identifiers -/

/-- A character that an identifier may begin with. -/
def isFirstChar (c : Char) : Bool := c.isAlpha || c == '_' || c == '$'

/-- An identifier: a letter, `_` or `$`, and then any number of these and of digits. -/
def isIdentifier (name : String) : Bool :=
  match name.toList with
  | [] => false
  | first :: rest => isFirstChar first && rest.all isNameChar

theorem isIdentifier_ofList (first : Char) (rest : List Char) :
    isIdentifier (String.ofList (first :: rest)) = (isFirstChar first && rest.all isNameChar) := by
  rw [isIdentifier, String.toList_ofList]

/-- Digits are all that may stand in an identifier but not at its beginning. -/
theorem isFirstChar_of_not_isDigit {c : Char} (other : c.isDigit = false) : isFirstChar c = isNameChar c := by
  simp [isFirstChar, isNameChar, Char.isAlphanum, other]

theorem isNameChar_of_isAlphanum {c : Char} (plain : c.isAlphanum = true) : isNameChar c = true := by
  simp [isNameChar, plain]

theorem isAlphanum_of_isAlpha {c : Char} (letter : c.isAlpha = true) : c.isAlphanum = true := by
  simp [Char.isAlphanum, letter]

theorem isFirstChar_of_isAlpha {c : Char} (letter : c.isAlpha = true) : isFirstChar c = true := by
  simp [isFirstChar, letter]

/-! ## Numbers behind names -/

theorem toString_digits (k : Nat) : ∀ c ∈ (toString k).toList, c.isDigit = true := by
  intro c inside
  refine Nat.isDigit_of_mem_toDigits (by decide) (Nat.le_refl 10) (n := k) ?_
  simpa [Nat.repr] using inside

/-- A name with a number behind it is an identifier exactly if the name is. -/
theorem numbered_identifies {name : String} (given : name ≠ "") (k : Nat) :
    isIdentifier (numbered name k) = isIdentifier name := by
  have digits : (toString k).toList.all isNameChar = true := by
    rw [List.all_eq_true]
    intro c inside
    exact isNameChar_of_isAlphanum (by simp [Char.isAlphanum, toString_digits k c inside])
  have spelled : (numbered name k).toList = name.toList ++ '_' :: (toString k).toList := by
    simp [numbered]
  have some_char : name.toList ≠ [] := by simpa using given
  obtain ⟨first, rest, same⟩ := List.exists_cons_of_ne_nil some_char
  rw [isIdentifier, isIdentifier, spelled, same, List.cons_append]
  show (_ && (rest ++ _).all isNameChar) = _
  rw [List.all_append, List.all_cons, digits]
  simp [isNameChar]

/-- A name that is handed out is the one that is asked for, or that one with a number behind it. -/
theorem claimName_cases (taken : List String) (name : String) :
    claimName taken name = name ∨ ∃ k, claimName taken name = numbered name k := by
  unfold claimName claim claim?
  by_cases met : name ∈ taken
  · rw [if_pos met]
    cases freeNumber? taken name 1 with
    | none => exact .inl rfl
    | some k => exact .inr ⟨k, rfl⟩
  · rw [if_neg met]
    exact .inl rfl

/-- The name that is handed out for one that is asked for is an identifier exactly if that one is. -/
theorem claimName_identifies (taken : List String) {name : String} (given : name ≠ "") :
    isIdentifier (claimName taken name) = isIdentifier name := by
  rcases claimName_cases taken name with same | ⟨k, same⟩
  · rw [same]
  · rw [same, numbered_identifies given]

/-! ## Explicit names -/

/-- The characters that explicit names are rid of. -/
def replaced : List Char := ['.', '-', '\x7b', '\x7d']

/-- A text without characters besides those of identifiers and those that are replaced. -/
def IsCovered (id : String) : Prop := ∀ c ∈ id.toList, isNameChar c = true ∨ c ∈ replaced

instance (id : String) : Decidable (IsCovered id) := List.decidableBAll _ id.toList

theorem safeChar_eq (c : Char) : safeChar c = if c ∈ replaced then '_' else c := by
  simp [safeChar, replaced]

theorem isNameChar_safeChar (c : Char) : isNameChar (safeChar c) = true ↔ isNameChar c = true ∨ c ∈ replaced := by
  rw [safeChar_eq]
  split
  · rename_i met
    simp [met, isNameChar]
  · rename_i free
    simp [free]

theorem isFirstChar_safeChar {c : Char} (other : c.isDigit = false) :
    isFirstChar (safeChar c) = isNameChar (safeChar c) := by
  refine isFirstChar_of_not_isDigit ?_
  rw [safeChar_eq]
  split
  · rfl
  · exact other

/-- An explicit name that begins with no digit is an identifier, once it is made safe, exactly if nothing in it is
left over. -/
theorem normalizedName_identifies {id : String} (some_id : id ≠ "")
    (undigited : ∀ c ∈ id.toList.head?, c.isDigit = false) :
    isIdentifier (normalizedName id) = true ↔ IsCovered id := by
  have some_char : id.toList ≠ [] := by simpa using some_id
  obtain ⟨first, rest, same⟩ := List.exists_cons_of_ne_nil some_char
  have start := undigited first (by rw [same]; rfl)
  rw [normalizedName, IsCovered, same, List.map_cons, isIdentifier_ofList, isFirstChar_safeChar start]
  simp [isNameChar_safeChar]

/-! ## Letters and digits -/

/-- What holds of the characters of ASCII by their numbers holds of each. -/
theorem forall_ascii {P : Char → Prop} (each : ∀ n < 128, P (Char.ofNat n)) {c : Char} (ascii : c.toNat < 128) :
    P c := by
  have here := each c.toNat ascii
  rwa [Char.ofNat_toNat] at here

/-- A text of letters and digits of ASCII. -/
def IsPlain (s : List Char) : Prop := ∀ c ∈ s, c.isAlphanum = true

/-- A text of ASCII. -/
def IsAscii (s : List Char) : Prop := ∀ c ∈ s, c.toNat < 128

instance (s : List Char) : Decidable (IsAscii s) := List.decidableBAll _ s

theorem ascii_of_isAlphanum {c : Char} (plain : c.isAlphanum = true) : c.toNat < 128 := by
  have below (last : Char) (met : c.val ≤ last.val) (ascii : last.toNat < 128) : c.toNat < 128 :=
    Nat.lt_of_le_of_lt (UInt32.le_iff_toNat_le.mp met) ascii
  rcases Bool.or_eq_true_iff.mp plain with letter | digit
  · rcases Bool.or_eq_true_iff.mp letter with upper | lower
    · exact below 'Z' (of_decide_eq_true upper).2 (by decide)
    · exact below 'z' (of_decide_eq_true (Bool.and_eq_true_iff.mp lower).2) (by decide)
  · exact below '9' (of_decide_eq_true (Bool.and_eq_true_iff.mp digit).2) (by decide)

theorem isAlphanumeric_eq {c : Char} (ascii : c.toNat < 128) : isAlphanumeric c = c.isAlphanum := by
  simp [isAlphanumeric, isAlphabetic, isNumeric, ascii, Char.isAlphanum]

theorem lowerOf_eq {c : Char} (ascii : c.toNat < 128) : lowerOf c = [c.toLower] := by
  simp [lowerOf, ascii]

theorem upperOf_eq {c : Char} (ascii : c.toNat < 128) : upperOf c = [c.toUpper] := by
  simp [upperOf, ascii]

/-- What changing the case of a character of ASCII leaves as it is: all of its kind but the case. -/
theorem cased_ascii {c : Char} (ascii : c.toNat < 128) :
    (c.toLower.toNat < 128 ∧ c.toUpper.toNat < 128) ∧ c.toLower.isDigit = c.isDigit ∧
      c.toLower.isAlpha = c.isAlpha ∧ c.toUpper.isAlphanum = c.isAlphanum :=
  forall_ascii
    (P := fun c => (c.toLower.toNat < 128 ∧ c.toUpper.toNat < 128) ∧ c.toLower.isDigit = c.isDigit ∧
      c.toLower.isAlpha = c.isAlpha ∧ c.toUpper.isAlphanum = c.isAlphanum)
    (by decide +kernel) ascii

theorem ascii_toLower {c : Char} (ascii : c.toNat < 128) : c.toLower.toNat < 128 := (cased_ascii ascii).1.1

theorem ascii_toUpper {c : Char} (ascii : c.toNat < 128) : c.toUpper.toNat < 128 := (cased_ascii ascii).1.2

theorem isDigit_toLower {c : Char} (ascii : c.toNat < 128) : c.toLower.isDigit = c.isDigit := (cased_ascii ascii).2.1

theorem isAlpha_toLower {c : Char} (ascii : c.toNat < 128) : c.toLower.isAlpha = c.isAlpha := (cased_ascii ascii).2.2.1

theorem isAlphanum_toLower {c : Char} (ascii : c.toNat < 128) : c.toLower.isAlphanum = c.isAlphanum := by
  rw [Char.isAlphanum, isDigit_toLower ascii, isAlpha_toLower ascii, Char.isAlphanum]

theorem isAlphanum_toUpper {c : Char} (ascii : c.toNat < 128) : c.toUpper.isAlphanum = c.isAlphanum :=
  (cased_ascii ascii).2.2.2

theorem isPlain_lowerOf {c : Char} (plain : c.isAlphanum = true) : IsPlain (lowerOf c) := by
  have ascii := ascii_of_isAlphanum plain
  rw [lowerOf_eq ascii]
  simpa [IsPlain, isAlphanum_toLower ascii] using plain

theorem isPlain_upperOf {c : Char} (plain : c.isAlphanum = true) : IsPlain (upperOf c) := by
  have ascii := ascii_of_isAlphanum plain
  rw [upperOf_eq ascii]
  simpa [IsPlain, isAlphanum_toUpper ascii] using plain

theorem IsPlain.append {s t : List Char} (front : IsPlain s) (back : IsPlain t) : IsPlain (s ++ t) :=
  List.forall_mem_append.mpr ⟨front, back⟩

theorem isPlain_raiseFirst {s : List Char} (plain : IsPlain s) : IsPlain (raiseFirst s) := by
  cases s with
  | nil => exact plain
  | cons c rest =>
    obtain ⟨head, tail⟩ := List.forall_mem_cons.mp plain
    exact (isPlain_upperOf head).append tail

theorem isAscii_raiseFirst {s : List Char} (ascii : IsAscii s) : IsAscii (raiseFirst s) := by
  cases s with
  | nil => exact ascii
  | cons c rest =>
    obtain ⟨head, tail⟩ := List.forall_mem_cons.mp ascii
    rw [raiseFirst, upperOf_eq head]
    exact List.forall_mem_cons.mpr ⟨ascii_toUpper head, tail⟩

/-- In ASCII no letter has a case that depends on its neighbours. -/
theorem toLower_eq {s : List Char} (ascii : IsAscii s) : toLower s = s.map Char.toLower := by
  -- What stands before matters for a sigma only.
  suffices after : ∀ before, toLowerAfter before s = s.map Char.toLower from after []
  induction s with
  | nil => exact fun _ => rfl
  | cons c rest ih =>
    intro before
    obtain ⟨head, tail⟩ := List.forall_mem_cons.mp ascii
    have no_sigma : c ≠ 'Σ' := by
      rintro rfl
      exact absurd head (by decide)
    rw [toLowerAfter, if_neg no_sigma, lowerOf_eq head, ih tail]
    rfl

/-! ## Words -/

/-- The pieces between cuts are made of what is no cut. -/
theorem mem_pieces {cut : Char → Bool} {s piece : List Char} (among : piece ∈ pieces cut s) :
    ∀ c ∈ piece, c ∈ s ∧ cut c = false := by
  induction s generalizing piece with
  | nil =>
    rw [pieces, List.mem_singleton] at among
    simp [among]
  | cons d rest ih =>
    intro c inside
    rw [pieces] at among
    split at among
    · rcases List.mem_cons.mp among with rfl | later
      · cases inside
      · obtain ⟨old, uncut⟩ := ih later c inside
        exact ⟨List.mem_cons_of_mem d old, uncut⟩
    · rename_i uncut
      have here : d ∈ d :: rest ∧ cut d = false := ⟨List.mem_cons_self, by simpa using uncut⟩
      split at among
      · obtain rfl := List.mem_singleton.mp among
        obtain rfl := List.mem_singleton.mp inside
        exact here
      · rename_i first more same
        have later {old : List Char} (piece : old ∈ first :: more) (met : c ∈ old) :
            c ∈ d :: rest ∧ cut c = false := by
          obtain ⟨there, uncut⟩ := ih (same ▸ piece) c met
          exact ⟨List.mem_cons_of_mem d there, uncut⟩
        rcases List.mem_cons.mp among with rfl | other
        · rcases List.mem_cons.mp inside with rfl | met
          · exact here
          · exact later List.mem_cons_self met
        · exact later (List.mem_cons_of_mem first other) inside

theorem mem_humps {h : Hump} {word s piece : List Char} (among : piece ∈ humps h word s) :
    ∀ c ∈ piece, c ∈ word ∨ c ∈ s := by
  fun_induction humps h word s with
  | case1 h word => cases among
  | case2 h word c =>
    rw [List.mem_singleton.mp among]
    simp
  | case3 h word c next rest falls ih =>
    rcases List.mem_cons.mp among with rfl | later <;> grind
  | case4 h word c next rest _ rises ih =>
    rcases List.mem_cons.mp among with rfl | later <;> grind
  | case5 h word c next rest _ _ ih => grind

/-- The words of a text are made of its letters and numbers. -/
theorem mem_words {s word : List Char} (among : word ∈ words s) : ∀ c ∈ word, c ∈ s ∧ isAlphanumeric c = true := by
  intro c inside
  obtain ⟨piece, between, hump⟩ := List.mem_flatMap.mp among
  have there : c ∈ piece := by simpa using mem_humps hump c inside
  simpa using mem_pieces between c there

theorem isAscii_words {s : List Char} (ascii : IsAscii s) : ∀ word ∈ words s, IsAscii word :=
  fun _ among c inside => ascii c (mem_words among c inside).1

section Cased

variable {P : Char → Prop}

theorem forall_lowerWord {word : List Char} (sigma : 'Σ' ∈ word → P 'ς') (lower : ∀ c ∈ word, ∀ d ∈ lowerOf c, P d) :
    ∀ d ∈ lowerWord word, P d := by
  fun_induction lowerWord word with
  | case1 => exact nofun
  | case2 => simpa using sigma
  | case3 c rest _ ih =>
    obtain ⟨head, tail⟩ := List.forall_mem_cons.mp lower
    exact List.forall_mem_append.mpr ⟨head, ih (fun there => sigma (List.mem_cons_of_mem c there)) tail⟩

theorem forall_capitalWord {word : List Char} (sigma : 'Σ' ∈ word → P 'ς')
    (lower : ∀ c ∈ word, ∀ d ∈ lowerOf c, P d) (upper : ∀ c ∈ word, ∀ d ∈ upperOf c, P d) :
    ∀ d ∈ capitalWord word, P d := by
  cases word with
  | nil => exact nofun
  | cons c rest =>
    have tail := (List.forall_mem_cons.mp lower).2
    have behind := forall_lowerWord (fun there => sigma (List.mem_cons_of_mem c there)) tail
    exact List.forall_mem_append.mpr ⟨upper c List.mem_cons_self, behind⟩

/-- What holds of the letters and numbers of a text in either case holds of its camel case. -/
theorem forall_lowerCamel {s : List Char} (sigma : 'Σ' ∈ s → P 'ς')
    (lower : ∀ c ∈ s, isAlphanumeric c = true → ∀ d ∈ lowerOf c, P d)
    (upper : ∀ c ∈ s, isAlphanumeric c = true → ∀ d ∈ upperOf c, P d) : ∀ d ∈ lowerCamel s, P d := by
  have sigmaIn {word : List Char} (among : word ∈ words s) (there : 'Σ' ∈ word) : P 'ς' :=
    sigma (mem_words among _ there).1
  have lowerIn {word : List Char} (among : word ∈ words s) : ∀ c ∈ word, ∀ d ∈ lowerOf c, P d := fun c inside =>
    lower c (mem_words among c inside).1 (mem_words among c inside).2
  have upperIn {word : List Char} (among : word ∈ words s) : ∀ c ∈ word, ∀ d ∈ upperOf c, P d := fun c inside =>
    upper c (mem_words among c inside).1 (mem_words among c inside).2
  unfold lowerCamel
  split
  · exact nofun
  · rename_i first rest same
    have head : first ∈ words s := by simp [same]
    refine List.forall_mem_append.mpr ⟨forall_lowerWord (sigmaIn head) (lowerIn head), fun d inside => ?_⟩
    obtain ⟨word, among, met⟩ := List.mem_flatMap.mp inside
    have later : word ∈ words s := by simp [same, among]
    exact forall_capitalWord (sigmaIn later) (lowerIn later) (upperIn later) d met

end Cased

/-- The camel case of a text of ASCII is made of letters and digits. -/
theorem isPlain_lowerCamel {s : List Char} (ascii : IsAscii s) : IsPlain (lowerCamel s) := by
  have plain {c : Char} (inside : c ∈ s) (alphanumeric : isAlphanumeric c = true) : c.isAlphanum = true := by
    rwa [isAlphanumeric_eq (ascii c inside)] at alphanumeric
  refine forall_lowerCamel (fun sigma => ?_) (fun c inside letter => ?_) fun c inside letter => ?_
  · exact absurd (ascii 'Σ' sigma) (by decide)
  · exact isPlain_lowerOf (plain inside letter)
  · exact isPlain_upperOf (plain inside letter)

/-! ## Names from paths -/

theorem isAscii_breakDigits {s : List Char} (ascii : IsAscii s) : IsAscii (breakDigits s) := by
  fun_induction breakDigits s with
  | case1 => exact ascii
  | case2 => exact ascii
  | case3 a b rest _ ih =>
    obtain ⟨head, tail⟩ := List.forall_mem_cons.mp ascii
    exact List.forall_mem_cons.mpr ⟨head, List.forall_mem_cons.mpr ⟨by decide, ih tail⟩⟩
  | case4 a b rest _ ih =>
    obtain ⟨head, tail⟩ := List.forall_mem_cons.mp ascii
    exact List.forall_mem_cons.mpr ⟨head, ih tail⟩

theorem isAscii_segmentWords {segment : List Char} (ascii : IsAscii segment) : IsAscii (segmentWords segment) := by
  unfold segmentWords
  split
  · rename_i v braced
    have inner : IsAscii v := by
      unfold inBraces? at braced
      split at braced
      · rename_i rest
        split at braced
        · cases braced
          intro c inside
          exact ascii c (List.mem_cons_of_mem _ (List.dropLast_subset rest inside))
        · cases braced
      · cases braced
    exact List.forall_mem_cons.mpr ⟨by decide, List.forall_mem_cons.mpr ⟨by decide, isAscii_raiseFirst inner⟩⟩
  · exact ascii

theorem isAscii_intercalate {list : List (List Char)} (ascii : ∀ s ∈ list, IsAscii s) :
    IsAscii (['-'].intercalate list) := by
  induction list with
  | nil => exact fun _ => nofun
  | cons s rest ih =>
    obtain ⟨head, tail⟩ := List.forall_mem_cons.mp ascii
    cases rest with
    | nil => simpa using head
    | cons t rest =>
      rw [List.intercalate_cons_cons]
      exact List.forall_mem_append.mpr ⟨List.forall_mem_append.mpr ⟨head, by simp⟩, ih tail⟩

theorem isAscii_withoutLastSlash {path : List Char} (ascii : IsAscii path) : IsAscii (withoutLastSlash path) := by
  unfold withoutLastSlash
  split
  · exact fun c inside => ascii c (List.dropLast_subset path inside)
  · exact ascii

/-- What a path has for a name: its segments as they count, with breaks between them and at digits. -/
def pathText (path : String) : List Char :=
  breakDigits (['-'].intercalate (((pieces (· = '/') (withoutLastSlash path.toList)).drop 1).map segmentWords))

theorem pathName_eq (verb path : String) :
    pathName verb path = if path = "" ∨ path = "/" then verb
      else String.ofList (toLower verb.toList ++ raiseFirst (lowerCamel (pathText path))) := rfl

theorem isAscii_pathText {path : String} (ascii : IsAscii path.toList) : IsAscii (pathText path) := by
  refine isAscii_breakDigits (isAscii_intercalate fun words among => ?_)
  obtain ⟨segment, between, rfl⟩ := List.mem_map.mp among
  refine isAscii_segmentWords fun c inside => ?_
  exact isAscii_withoutLastSlash ascii c (mem_pieces (List.mem_of_mem_drop between) c inside).1

/-- A letter with letters and digits behind it is an identifier. -/
theorem plain_identifies {first : Char} {rest : List Char} (letter : first.isAlpha = true) (plain : IsPlain rest) :
    isIdentifier (String.ofList (first :: rest)) = true := by
  rw [isIdentifier_ofList, isFirstChar_of_isAlpha letter, Bool.true_and, List.all_eq_true]
  exact fun c inside => isNameChar_of_isAlphanum (plain c inside)

/-- A verb: a word of letters. -/
def IsVerb (verb : String) : Prop := verb ≠ "" ∧ ∀ c ∈ verb.toList, c.isAlpha = true

instance (verb : String) : Decidable (IsVerb verb) :=
  have := List.decidableBAll (fun c : Char => c.isAlpha = true) verb.toList
  inferInstanceAs (Decidable (_ ∧ _))

/-- The name of an operation of a verb on a path of ASCII is made of letters and digits, letters first. -/
theorem pathName_identifies {verb path : String} (word : IsVerb verb) (ascii : IsAscii path.toList) :
    isIdentifier (pathName verb path) = true := by
  have some_char : verb.toList ≠ [] := by simpa using word.1
  obtain ⟨first, rest, same⟩ := List.exists_cons_of_ne_nil some_char
  have letters := word.2
  rw [same] at letters
  obtain ⟨head, tail⟩ := List.forall_mem_cons.mp letters
  rw [pathName_eq]
  split
  · rw [← String.ofList_toList (s := verb), same]
    exact plain_identifies head fun c inside => isAlphanum_of_isAlpha (tail c inside)
  · have ascii_verb : IsAscii verb.toList := fun c inside =>
      ascii_of_isAlphanum (isAlphanum_of_isAlpha (word.2 c inside))
    have small {c : Char} (letter : c.isAlpha = true) : c.toLower.isAlpha = true := by
      rwa [isAlpha_toLower (ascii_of_isAlphanum (isAlphanum_of_isAlpha letter))]
    rw [toLower_eq ascii_verb, same, List.map_cons, List.cons_append]
    refine plain_identifies (small head) (IsPlain.append ?_ ?_)
    · intro c inside
      obtain ⟨letter, among, rfl⟩ := List.mem_map.mp inside
      exact isAlphanum_of_isAlpha (small (tail letter among))
    · exact isPlain_raiseFirst (isPlain_lowerCamel (isAscii_pathText ascii))

theorem pathName_ne_empty {verb path : String} (word : IsVerb verb) (ascii : IsAscii path.toList) :
    pathName verb path ≠ "" := by
  intro empty
  have identifies := pathName_identifies word ascii
  rw [empty] at identifies
  cases identifies

/-! ## Names of a view -/

/-- What is asked for without trouble: by a verb that is a word of letters, on a path of ASCII, and under an
    explicit name, if there is one, that is not empty and begins with no digit. -/
structure IsOrdinary (r : Request) : Prop where
  verb : IsVerb r.verb
  path : IsAscii r.path.toList
  named : ∀ id ∈ r.id, id ≠ ""
  undigited : ∀ id ∈ r.id, ∀ c ∈ id.toList.head?, c.isDigit = false

instance (r : Request) : Decidable (IsOrdinary r) :=
  have := fun id : String => Option.decidableForallMem (p := fun c : Char => c.isDigit = false) id.toList.head?
  decidable_of_iff (IsVerb r.verb ∧ IsAscii r.path.toList ∧ (∀ id ∈ r.id, id ≠ "") ∧
      ∀ id ∈ r.id, ∀ c ∈ id.toList.head?, c.isDigit = false)
    ⟨fun ⟨verb, path, named, undigited⟩ => ⟨verb, path, named, undigited⟩,
      fun ordinary => ⟨ordinary.verb, ordinary.path, ordinary.named, ordinary.undigited⟩⟩

/-- The name that is asked for is an identifier exactly if nothing is left over in the explicit one, if there is
    one. -/
theorem request_identifies {r : Request} (ordinary : IsOrdinary r) :
    r.name ≠ "" ∧ (isIdentifier r.name = true ↔ ∀ id ∈ r.id, IsCovered id) := by
  obtain ⟨path, verb, id⟩ := r
  cases id with
  | none =>
    refine ⟨pathName_ne_empty ordinary.verb ordinary.path, ?_⟩
    exact iff_of_true (pathName_identifies ordinary.verb ordinary.path) nofun
  | some id =>
    have given := ordinary.named id rfl
    refine ⟨?_, ?_⟩
    · simpa [Request.name, normalizedName] using given
    · have identifies := normalizedName_identifies given (ordinary.undigited id rfl)
      simpa [Request.name] using identifies

theorem claimNames_each (taken names : List String) :
    List.Forall₂ (fun asked given => ∃ earlier, given = claimName earlier asked) names (claimNames taken names) := by
  induction names generalizing taken with
  | nil => exact .nil
  | cons name rest ih => exact .cons ⟨taken, rfl⟩ (ih _)

/-- Each method of a view has a name that was handed out for the one asked for. -/
theorem methodNames_each {document : Document} {o : Options} {model : Model}
    (built : ofDocument document o = .ok model) :
    List.Forall₂ (fun r m => ∃ earlier, m.methodName = claimName earlier r.name) (requests document)
      model.methods := by
  have each := claimNames_each [] ((requests document).map Request.name)
  rwa [← methodNames_claimed built, List.forall₂_map_left_iff, List.forall₂_map_right_iff] at each

/-- Where nothing but what is ordinary is asked for, the name of a method is an identifier exactly if nothing is
    left over in the explicit name of its operation; so it always is where that has none. The methods in the groups
    of the view are among these. -/
theorem methodNames_identify {document : Document} {o : Options} {model : Model}
    (ordinary : ∀ r ∈ requests document, IsOrdinary r) (built : ofDocument document o = .ok model) :
    List.Forall₂ (fun r m => isIdentifier m.methodName = true ↔ ∀ id ∈ r.id, IsCovered id)
        (requests document) model.methods ∧
      ∀ part, model.specification = some part → ∀ g ∈ part.byTags, ∀ m ∈ g.methods, m ∈ model.methods := by
  refine ⟨?_, fun part has g group m member => Bindings.group_members built has group member⟩
  have each := (List.forall₂_and_left _ _).mpr ⟨ordinary, methodNames_each built⟩
  refine each.imp ?_
  rintro r m ⟨plain, earlier, handed⟩
  obtain ⟨some_name, identifies⟩ := request_identifies plain
  rw [handed, claimName_identifies earlier some_name]
  exact identifies

/-- A document with names of every kind: an explicit one that is left as it is, one with characters that are
    replaced, one with a blank, which is not, and one from a path with braces, digits and other marks. The second is
    given twice. -/
def mixedNames : Specification :=
  pathsOnly [
    ("/pets", ⟨[], [(.get, { blankOperation with operationId := some "listPets" }),
      (.post, { blankOperation with operationId := some "pets.add-\x7bone\x7d" }),
      (.put, { blankOperation with operationId := some "list pets" }),
      (.patch, { blankOperation with operationId := some "pets.add-\x7bone\x7d" })]⟩),
    ("/pets('\x7bid\x7d')/v2beta/*", ⟨[], [(.get, blankOperation)]⟩)]

theorem mixedNames_ordinary : ∀ r ∈ requests (.specification mixedNames), IsOrdinary r := by
  decide +kernel

theorem methodNames_identify_mixed :
    (∀ r ∈ requests (.specification mixedNames), IsOrdinary r) ∧
      ∃ model, ofDocument (.specification mixedNames) .default = .ok model ∧
        model.methods.map (·.methodName) =
          ["listPets", "pets_add__one_", "list pets", "pets_add__one__1", "getPetsIdV2Beta"] ∧
        List.Forall₂ (fun r m => isIdentifier m.methodName = true ↔ ∀ id ∈ r.id, IsCovered id)
          (requests (.specification mixedNames)) model.methods ∧
        ∀ part, model.specification = some part → ∀ g ∈ part.byTags, ∀ m ∈ g.methods, m ∈ model.methods := by
  have built : ofDocument (.specification mixedNames) .default = .ok (modelOf mixedNames .default _) := rfl
  exact ⟨mixedNames_ordinary, _, built, by decide +kernel, methodNames_identify mixedNames_ordinary built⟩

/-- An explicit name with a blank in it is handed out as it is, and is no identifier. -/
theorem mixedNames_blank :
    (∀ r ∈ requests (.specification mixedNames), IsOrdinary r ∧ ∀ id ∈ r.id, IsAscii id.toList) ∧
      ∃ model, ofDocument (.specification mixedNames) .default = .ok model ∧
        ∃ m ∈ model.methods, m.methodName = "list pets" ∧ isIdentifier m.methodName = false := by
  have built : ofDocument (.specification mixedNames) .default = .ok (modelOf mixedNames .default _) := rfl
  exact ⟨by decide +kernel, _, built, by decide +kernel⟩

end ApiBindings.Identifiers
