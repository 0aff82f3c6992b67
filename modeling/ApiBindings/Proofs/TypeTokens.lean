import ApiBindings.Json.Writer
import ApiBindings.Proofs.LeadingDigits
import ApiBindings.Proofs.TypeGrammar

/-!
# Tokens of texts

How texts that are put together fall into tokens. A word ends where a character comes next that belongs to no
word, so that the tokens of a text can be told apart from those of what stands behind it (`Spells`). The texts of
numbers are words, and numbers of the grammar (`isNumber_int`, `isNumber_real`).
-/

namespace ApiBindings.TypeGrammar
open ApiBindings.Decimal hiding Digits
open ApiBindings.LeadingDigits

/-! ## What stands behind a word -/

/-- What a word does not go on with. -/
def Apart (cs : List Char) : Prop := ∀ c ∈ cs.head?, isWordChar c = false

theorem Apart.append {xs ys : List Char} (first : Apart xs) (second : Apart ys) : Apart (xs ++ ys) := by
  cases xs with
  | nil => exact second
  | cons c xs => exact first

/-- Characters that make a word. -/
def IsWord (cs : List Char) : Prop := cs ≠ [] ∧ ∀ c ∈ cs, isWordChar c = true

theorem tokensFrom_end (word : List Char) : tokensFrom (.outside word) [] = some (wordTokens word) := rfl

theorem tokensFrom_outside (word : List Char) (c : Char) (rest : List Char) :
    tokensFrom (.outside word) (c :: rest) =
      if isWordChar c then tokensFrom (.outside (word ++ [c])) rest
      else if c = '"' then (tokensFrom (.inside []) rest).map (wordTokens word ++ ·)
      else if c = ' ' then (tokensFrom (.outside []) rest).map (wordTokens word ++ ·)
      else if marks.contains c then (tokensFrom (.outside []) rest).map (wordTokens word ++ .mark c :: ·)
      else none := rfl

theorem tokensFrom_inside (literal : List Char) (c : Char) (rest : List Char) :
    tokensFrom (.inside literal) (c :: rest) =
      if c = '"' then (tokensFrom (.outside []) rest).map (.text (String.ofList literal) :: ·)
      else if c = '\\' ∨ c = '\n' ∨ c = '\r' then none
      else tokensFrom (.inside (literal ++ [c])) rest := rfl

theorem tokensFrom_word {w : List Char} (each : ∀ c ∈ w, isWordChar c = true) (word rest : List Char) :
    tokensFrom (.outside word) (w ++ rest) = tokensFrom (.outside (word ++ w)) rest := by
  induction w generalizing word with
  | nil => simp
  | cons c w ih =>
    obtain ⟨here, later⟩ := List.forall_mem_cons.mp each
    rw [List.cons_append, tokensFrom_outside, if_pos here, ih later, List.append_assoc]
    rfl

/-- A word ends where something else comes. -/
theorem tokensFrom_apart {rest : List Char} (apart : Apart rest) (word : List Char) :
    tokensFrom (.outside word) rest = (tokensFrom (.outside []) rest).map (wordTokens word ++ ·) := by
  cases rest with
  | nil => simp [tokensFrom_end, wordTokens]
  | cons c rest =>
    have other : isWordChar c = false := apart c rfl
    simp only [tokensFrom_outside, other, Bool.false_eq_true, if_false]
    split_ifs <;> simp [wordTokens, Function.comp_def]

/-! ## Texts and their tokens -/

/-- Characters that are cut into certain tokens, whatever comes behind them, as long as it is apart. -/
def Spells (cs : List Char) (ts : List Token) : Prop :=
  ∀ rest, Apart rest → tokensFrom (.outside []) (cs ++ rest) = (tokensFrom (.outside []) rest).map (ts ++ ·)

theorem spells_nil : Spells [] [] := fun rest _ => by simp

theorem spells_append {xs ys : List Char} {ts us : List Token} (first : Spells xs ts) (second : Spells ys us)
    (apart : Apart ys) : Spells (xs ++ ys) (ts ++ us) := by
  intro rest behind
  rw [List.append_assoc, first _ (apart.append behind), second _ behind]
  simp [Function.comp_def]

theorem spells_word {w : String} (word : IsWord w.toList) : Spells w.toList [.word w] := by
  intro rest behind
  rw [tokensFrom_word word.2, tokensFrom_apart behind]
  simp [wordTokens, word.1]

/-- A blank is no token, nor does a word go on behind it. -/
theorem spells_blank {cs : List Char} {ts : List Token} (spelled : Spells cs ts) : Spells (' ' :: cs) ts := by
  intro rest behind
  have blank : isWordChar ' ' = false := by decide
  rw [List.cons_append, tokensFrom_outside, if_neg (by simp [blank]), if_neg (by decide), if_pos rfl,
    spelled rest behind]
  simp [wordTokens, Function.comp_def]

theorem marks_apart : ∀ c ∈ marks, isWordChar c = false ∧ c ≠ '"' ∧ c ≠ ' ' := by
  simp [marks, isWordChar, isNameChar]

theorem spells_mark {c : Char} (mark : c ∈ marks) {cs : List Char} {ts : List Token} (spelled : Spells cs ts) :
    Spells (c :: cs) (.mark c :: ts) := by
  intro rest behind
  obtain ⟨word, quote, blank⟩ := marks_apart c mark
  rw [List.cons_append, tokensFrom_outside, if_neg (by simp [word]), if_neg quote, if_neg blank,
    if_pos (by simpa using mark), spelled rest behind]
  simp [wordTokens, Function.comp_def]

/-- What comes before a mark falls into its own tokens. -/
theorem spells_before_mark {xs ys : List Char} {ts us : List Token} {c : Char} (first : Spells xs ts)
    (mark : c ∈ marks) (second : Spells ys us) : Spells (xs ++ c :: ys) (ts ++ .mark c :: us) := by
  refine spells_append first (spells_mark mark second) ?_
  rintro _ ⟨⟩
  exact (marks_apart c mark).1

/-- A character that stands in a literal as it is. -/
def IsLiteralChar (c : Char) : Prop := c ≠ '"' ∧ c ≠ '\\' ∧ c ≠ '\n' ∧ c ≠ '\r'

theorem tokensFrom_literal {s : List Char} (each : ∀ c ∈ s, IsLiteralChar c) (literal rest : List Char) :
    tokensFrom (.inside literal) (s ++ '"' :: rest) =
      (tokensFrom (.outside []) rest).map (.text (String.ofList (literal ++ s)) :: ·) := by
  induction s generalizing literal with
  | nil => simp [tokensFrom_inside]
  | cons c s ih =>
    obtain ⟨⟨quote, escape, line, feed⟩, later⟩ := List.forall_mem_cons.mp each
    rw [List.cons_append, tokensFrom_inside, if_neg quote, if_neg (by simp [escape, line, feed]), ih later]
    simp

theorem spells_literal {s : String} (each : ∀ c ∈ s.toList, IsLiteralChar c) :
    Spells ('"' :: (s.toList ++ ['"'])) [.text s] := by
  intro rest _
  have quote : isWordChar '"' = false := by decide
  rw [List.cons_append, tokensFrom_outside, if_neg (by simp [quote]), if_pos rfl, List.append_assoc]
  simp only [List.cons_append, List.nil_append, tokensFrom_literal each]
  simp [wordTokens, Function.comp_def]

/-- Texts with a separator between them, which is a mark among blanks, fall into their tokens with the mark
    between them. -/
theorem spells_joined {sep : String} {c : Char} (apart : ∀ more, Apart (sep.toList ++ more))
    (between : ∀ {cs ts}, Spells cs ts → Spells (sep.toList ++ cs) (.mark c :: ts)) {α : Type} {items : List α}
    {text : α → String} {tokens : α → List Token} (each : ∀ a ∈ items, Spells (text a).toList (tokens a)) :
    Spells (sep.intercalate (items.map text)).toList (parted c (items.map tokens)) := by
  rw [String.toList_intercalate]
  induction items with
  | nil => simpa [parted] using spells_nil
  | cons a items ih =>
    obtain ⟨here, later⟩ := List.forall_mem_cons.mp each
    cases items with
    | nil => simpa [parted] using here
    | cons b items =>
      simp only [List.map_cons, List.intercalate_cons_cons, parted_cons] at ih ⊢
      rw [List.append_assoc]
      exact spells_append here (between (ih later)) (apart _)

theorem tokens?_eq {s : String} {ts : List Token} (spelled : Spells s.toList ts) : tokens? s = some ts := by
  have alone := spelled [] (by simp [Apart])
  simpa [tokens?, tokensFrom_end, wordTokens] using alone

/-! ## Names and numbers -/

theorem isWord_of_isName {w : String} (name : IsName w) : IsWord w.toList := by
  refine ⟨by simpa using name.1, fun c inside => ?_⟩
  rw [isWordChar, name.2.2 c inside]
  rfl

theorem isWordChar_of_digit {c : Char} (digit : c.isDigit = true) : isWordChar c = true := by
  simp [isWordChar, isNameChar, Char.isAlphanum, digit]

theorem isWord_of_digits {cs : List Char} (digits : Digits cs) : IsWord cs :=
  ⟨digits.1, fun c inside => isWordChar_of_digit (digits.2 c inside)⟩

theorem isWord_of_isMagnitude {cs : List Char} (magnitude : IsMagnitude cs) : IsWord cs := by
  obtain ⟨whole, places, exponent, rfl, digits, placed, raised⟩ := magnitude
  refine ⟨by simp [digits.1.1], ?_⟩
  rw [List.forall_mem_append, List.forall_mem_append]
  refine ⟨⟨(isWord_of_digits digits.1).2, ?_⟩, ?_⟩
  · rcases placed with rfl | ⟨ds, rfl, digits⟩
    · simp
    · exact List.forall_mem_cons.mpr ⟨by decide, (isWord_of_digits digits).2⟩
  · rcases raised with rfl | ⟨sign, ds, rfl, signed, digits⟩
    · simp
    · refine List.forall_mem_append.mpr ⟨?_, (isWord_of_digits digits).2⟩
      rcases signed with rfl | rfl | rfl <;> simp [isWordChar, isNameChar]

theorem isWord_of_isNumber {w : String} (number : IsNumber w) : IsWord w.toList := by
  obtain ⟨cs, magnitude, text | text⟩ := number
  · rw [text]
    exact isWord_of_isMagnitude magnitude
  · rw [text]
    exact ⟨by simp, List.forall_mem_cons.mpr ⟨by decide, (isWord_of_isMagnitude magnitude).2⟩⟩

theorem digits_natDigits (n : Nat) : Digits (natDigits n) := by
  rw [natDigits, Nat.toList_repr]
  exact ⟨Nat.toDigits_ne_nil, fun c inside => Nat.isDigit_of_mem_toDigits (b := 10) (by decide) (by decide) inside⟩

theorem wholeDigits_natDigits (n : Nat) : WholeDigits (natDigits n) := by
  refine ⟨digits_natDigits n, fun rest same => ?_⟩
  rcases Nat.eq_zero_or_pos n with rfl | positive
  · exact (List.cons.inj same).2.symm
  · exact absurd same (natDigits_front positive rest)

theorem wholeDigits_digit {d : Char} (digit : d.isDigit = true) : WholeDigits [d] :=
  ⟨⟨by simp, by simpa using digit⟩, fun rest same => (List.cons.inj same).2.symm⟩

theorem isWord_of_isFieldName {w : String} (name : IsFieldName w) : IsWord w.toList := by
  rcases name with name | ⟨n, _, rfl, _⟩
  · exact isWord_of_isName name
  · rw [show (toString n).toList = natDigits n from rfl]
    exact isWord_of_digits (digits_natDigits n)

theorem digits_append {xs ys : List Char} (first : Digits xs) (second : ∀ c ∈ ys, c.isDigit = true) :
    Digits (xs ++ ys) := ⟨by simp [first.1], List.forall_mem_append.mpr ⟨first.2, second⟩⟩

theorem digits_zeros (n : Nat) : ∀ c ∈ List.replicate n '0', c.isDigit = true := by
  intro c inside
  rw [List.eq_of_mem_replicate inside]
  decide

theorem isMagnitude_digits {ds : List Char} (digits : WholeDigits ds) : IsMagnitude ds :=
  ⟨ds, [], [], by simp, digits, .inl rfl, .inl rfl⟩

/-- The point notation has digits on both sides of the point. Before the point is no zero in front, if there is none in
    front of the digits, or they are a zero that stands right before the point. -/
theorem isMagnitude_pointed {ds : List Char} (digits : Digits ds) {places : Int}
    (front : ∀ rest, ds = '0' :: rest → rest = [] ∧ places ≤ 1) : IsMagnitude (pointed ds places) := by
  have around {whole behind : List Char} (front : WholeDigits whole) (back : Digits behind) :
      IsMagnitude (whole ++ '.' :: behind) :=
    ⟨whole, '.' :: behind, [], by simp, front, .inr ⟨_, rfl, back⟩, .inl rfl⟩
  have zero : WholeDigits ['0'] := wholeDigits_digit (by decide)
  simp only [pointed]
  split_ifs with below short
  · have back : Digits (List.replicate (-places).toNat '0' ++ ds) :=
      ⟨by simp [digits.1], List.forall_mem_append.mpr ⟨digits_zeros _, digits.2⟩⟩
    simpa using around zero back
  · refine around ⟨digits_append digits (digits_zeros _), fun rest same => ?_⟩ zero.1
    obtain ⟨d, more, rfl⟩ := List.exists_cons_of_ne_nil digits.1
    obtain ⟨rfl, behind⟩ := List.cons.inj same
    obtain ⟨rfl, units⟩ := front more rfl
    have none : places.toNat - ['0'].length = 0 := by simp; omega
    rw [← behind, none]
    rfl
  · obtain ⟨d, more, rfl⟩ := List.exists_cons_of_ne_nil digits.1
    obtain ⟨k, some⟩ : ∃ k, places.toNat = k + 1 := ⟨places.toNat - 1, by omega⟩
    rw [some] at short ⊢
    refine around ⟨⟨by simp, fun c inside => digits.2 c (List.mem_of_mem_take inside)⟩, fun rest same => ?_⟩
      ⟨by simpa using short, fun c inside => digits.2 c (List.mem_of_mem_drop inside)⟩
    obtain ⟨rfl, _⟩ := List.cons.inj same
    obtain ⟨rfl, _⟩ := front more rfl
    simp at short

/-- The exponent notation has one digit before the point, and no point where no digit comes behind it. -/
theorem isMagnitude_withExponent {ds : List Char} (digits : Digits ds) (plus : Bool) (power : Int) :
    IsMagnitude (withExponent plus ds power) := by
  have signs : ∀ sign, (if power < 0 then ['-'] else if plus then ['+'] else []) = sign →
      sign = [] ∨ sign = ['+'] ∨ sign = ['-'] := by
    rintro sign rfl
    split_ifs <;> simp
  match ds, digits with
  | [d], digits =>
    exact ⟨[d], [], _, by simp [withExponent], wholeDigits_digit (digits.2 d (by simp)), .inl rfl,
      .inr ⟨_, natDigits power.natAbs, rfl, signs _ rfl, digits_natDigits _⟩⟩
  | d :: e :: more, digits =>
    obtain ⟨here, later⟩ := List.forall_mem_cons.mp digits.2
    exact ⟨[d], '.' :: e :: more, _, by simp [withExponent], wholeDigits_digit here,
      .inr ⟨_, rfl, by simp, later⟩, .inr ⟨_, natDigits power.natAbs, rfl, signs _ rfl, digits_natDigits _⟩⟩

theorem isNumber_int (n : Int) : IsNumber (toString n) := by
  cases n with
  | ofNat n =>
    exact ⟨natDigits n, isMagnitude_digits (wholeDigits_natDigits n), .inl (by simp [natDigits, toString, Int.repr])⟩
  | negSucc n =>
    exact ⟨natDigits (n + 1), isMagnitude_digits (wholeDigits_natDigits _),
      .inr (by simp [natDigits, toString, Int.repr])⟩

theorem isNumber_real (x : Binary64) : IsNumber (Json.realText x) := by
  have digits := digits_natDigits (shortest x).digits
  have signed {cs : List Char} : (if x.negative then ['-'] else []) ++ cs = cs ∨
      (if x.negative then ['-'] else []) ++ cs = '-' :: cs := by cases x.negative <;> simp
  rw [IsNumber, Json.realText, String.toList_ofList]
  refine ⟨_, iteInduction ?_ ?_, signed⟩
  · refine fun _ => isMagnitude_pointed digits fun rest same => ?_
    rcases Nat.eq_zero_or_pos (shortest x).digits with zero | positive
    · rw [shortest_zero zero, same]
      rw [zero] at same
      obtain rfl := (List.cons.inj same).2
      simp
    · exact absurd same (natDigits_front positive rest)
  · exact fun _ => isMagnitude_withExponent digits _ _

end ApiBindings.TypeGrammar
