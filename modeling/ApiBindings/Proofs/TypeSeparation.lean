import ApiBindings.Proofs.TypePieces

/-!
# Texts that give their pieces away

A string ends at the first quote behind its own, and a name at the first question mark or colon. So, as long as none
of them holds the mark that ends it, texts of types that are built in one way go on alike only if their strings and
names are the same. Brackets of arrays do not change that, though the parentheses in front of them depend on the
strings (`told_array`).
-/

namespace ApiBindings.TypeSeparation
open ApiBindings.Json ApiBindings.TypeScript ApiBindings.Parts ApiBindings.TypePieces
open ApiBindings.TypeGrammar (isWordChar isNumber_int isNumber_real isWord_of_isNumber IsWord)
open ApiBindings.TypeScript.Descriptor (arrayText hasBar fieldText)

/-- Two texts with something behind each, of a certain kind, are the same only if their pieces are, and what stands
    behind them is, as long as the pieces are closed. -/
def Determine (kind : List Char → Prop) (s t : String) (ps qs : List Piece) : Prop :=
  (∀ p ∈ ps, p.IsClosed) → (∀ q ∈ qs, q.IsClosed) → ∀ r r', kind r → kind r' →
    s.toList ++ r = t.toList ++ r' → ps = qs ∧ r = r'

/-- Whatever stands behind a text. -/
def Anything (_ : List Char) : Prop := True

/-- What stands behind a type: a union does not go on with it. -/
def NoBar (r : List Char) : Prop := ¬ [' ', '|'] <+: r

theorem determine_same (s : String) : Determine Anything s s [] [] :=
  fun _ _ _ _ _ _ same => ⟨rfl, List.append_cancel_left same⟩

section Determine

variable {kind kind' : List Char → Prop} {s t u v : String} {ps qs ps' qs' : List Piece}

theorem Determine.append (first : Determine kind s t ps qs) (second : Determine kind' u v ps' qs')
    (left : ∀ r, kind' r → kind (u.toList ++ r)) (right : ∀ r, kind' r → kind (v.toList ++ r)) :
    Determine kind' (s ++ u) (t ++ v) (ps ++ ps') (qs ++ qs') := by
  intro closed closed' r r' here here' same
  rw [List.forall_mem_append] at closed closed'
  rw [String.toList_append, String.toList_append, List.append_assoc, List.append_assoc] at same
  obtain ⟨rfl, rest⟩ := first closed.1 closed'.1 _ _ (left r here) (right r' here') same
  obtain ⟨rfl, ends⟩ := second closed.2 closed'.2 _ _ here here' rest
  exact ⟨rfl, ends⟩

theorem Determine.before (u : String) (given : Determine kind s t ps qs) : Determine kind (u ++ s) (u ++ t) ps qs :=
  (determine_same u).append given (fun _ _ => trivial) (fun _ _ => trivial)

theorem Determine.behind (given : Determine NoBar s t ps qs) (other : ∀ r, NoBar (u.toList ++ r)) :
    Determine Anything (s ++ u) (t ++ u) ps qs := by
  simpa using given.append (determine_same u) (fun r _ => other r) (fun r _ => other r)

theorem Determine.mono (given : Determine Anything s t ps qs) : Determine kind s t ps qs :=
  fun closed closed' r r' _ _ => given closed closed' r r' trivial trivial

end Determine

/-- A name ends at the first question mark or colon. -/
theorem determine_name (n m : String) (o o' : Bool) :
    Determine Anything (fieldText n o "") (fieldText m o' "") [.name n o] [.name m o'] := by
  intro closed closed' r r' _ _ same
  have free {n : String} {o : Bool} (closed : ∀ p ∈ [Piece.name n o], p.IsClosed) :
      ∀ x ∈ n.toList, ¬ (x = '?' ∨ x = ':') := by
    obtain ⟨question, colon⟩ := closed _ List.mem_cons_self
    rintro x inside (rfl | rfl)
    · exact question inside
    · exact colon inside
  have text (n : String) (o : Bool) (r : List Char) : (fieldText n o "").toList ++ r =
      n.toList ++ (if o then '?' else ':') :: ((if o then [':', ' '] else [' ']) ++ r) := by
    cases o <;> simp [fieldText]
  rw [text, text] at same
  have mark (o : Bool) : (if o then '?' else ':') = '?' ∨ (if o then '?' else ':') = ':' := by cases o <;> simp
  obtain ⟨names, marks, ends⟩ := cut_at_mark (free closed) (free closed') (mark o) (mark o') same
  rw [String.toList_inj] at names
  subst names
  obtain rfl : o = o' := by cases o <;> cases o' <;> first | rfl | cases marks
  exact ⟨rfl, List.append_cancel_left ends⟩

/-! ## Enumerated values -/

theorem isWord_head {w : String} (word : IsWord w.toList) : ∃ c ∈ w.toList.head?, c ≠ '(' ∧ c ≠ '"' := by
  obtain ⟨given, each⟩ := word
  have first : isWordChar (w.toList.head given) = true := each _ (List.head_mem given)
  refine ⟨_, List.head_mem_head? given, ?_, ?_⟩
  · intro opening
    rw [opening] at first
    cases first
  · intro quote
    rw [quote] at first
    cases first

/-- The text of a value begins with a quote exactly if the value is a string, and never with a parenthesis. -/
theorem literalText_head (v : Value) :
    ∃ c ∈ (literalText v).toList.head?, c ≠ '(' ∧ (c = '"' ↔ v.text?.isSome = true) := by
  cases v with
  | null => exact ⟨'n', by simp [literalText, Value.compact, Value.text?]⟩
  | bool b => cases b <;> simp [literalText, Value.compact, Value.text?]
  | int n =>
    obtain ⟨c, head, opening, quote⟩ := isWord_head (isWord_of_isNumber (isNumber_int n))
    exact ⟨c, head, opening, by simp [quote, Value.text?]⟩
  | real x =>
    obtain ⟨c, head, opening, quote⟩ := isWord_head (isWord_of_isNumber (isNumber_real x))
    exact ⟨c, head, opening, by simp [quote, Value.text?]⟩
  | string s => exact ⟨'"', by simp [literalText_string, Value.text?]⟩
  | array items => exact ⟨'[', by simp [literalText, Value.compact, Value.text?]⟩
  | object entries => exact ⟨'\x7b', by simp [literalText, Value.compact, Value.text?]⟩

theorem head?_append_of_mem {s t : List Char} {c : Char} (head : c ∈ s.head?) : (s ++ t).head? = some c := by
  rw [List.head?_append, Option.mem_def.mp head, Option.some_or]

theorem eq_string {v : Value} {s : String} (text : v.text? = some s) : v = .string s := by
  cases v <;> cases text
  rfl

/-- A string ends at its second quote, if it has none itself. -/
theorem string_apart {s t : String} (closed : '"' ∉ s.toList) (closed' : '"' ∉ t.toList) {r r' : List Char}
    (same : (literalText (.string s)).toList ++ r = (literalText (.string t)).toList ++ r') : s = t ∧ r = r' := by
  have free {s : String} (closed : '"' ∉ s.toList) : ∀ x ∈ s.toList, ¬ x = '"' := by
    rintro x inside rfl
    exact closed inside
  simp only [literalText_string, List.cons_append, List.append_assoc, List.nil_append, List.cons.injEq,
    true_and] at same
  obtain ⟨texts, -, ends⟩ := cut_at_mark (free closed) (free closed') rfl rfl same
  exact ⟨String.toList_inj.mp texts, ends⟩

/-- Values whose texts go on alike are the same, as long as those that are no strings are, and strings are closed. -/
theorem value_apart {v w : Value} (closed : ∀ p ∈ pieceOf v, p.IsClosed) (closed' : ∀ p ∈ pieceOf w, p.IsClosed)
    (unchanged : v.text? = none → w.text? = none → v = w) {r r' : List Char}
    (same : (literalText v).toList ++ r = (literalText w).toList ++ r') : v = w ∧ r = r' := by
  obtain ⟨c, head, -, quote⟩ := literalText_head v
  obtain ⟨c', head', -, quote'⟩ := literalText_head w
  have first := congrArg List.head? same
  rw [head?_append_of_mem head, head?_append_of_mem head', Option.some_inj] at first
  rw [← first, quote] at quote'
  cases text : v.text? with
  | none =>
    obtain rfl := unchanged text (by simpa [text] using quote')
    exact ⟨rfl, List.append_cancel_left same⟩
  | some s =>
    obtain ⟨t, text'⟩ := Option.isSome_iff_exists.mp (quote'.mp (by rw [text]; rfl))
    obtain rfl := eq_string text
    obtain rfl := eq_string text'
    obtain ⟨rfl, ends⟩ := string_apart (closed _ List.mem_cons_self) (closed' _ List.mem_cons_self) same
    exact ⟨rfl, ends⟩

/-- The values that are no strings. -/
def others (values : List Value) : List Value := values.filter (·.text?.isNone)

theorem others_head {v w : Value} {vs ws : List Value} (same : others (v :: vs) = others (w :: ws))
    (text : v.text? = none) (text' : w.text? = none) : v = w := by
  simp only [others, List.filter_cons, text, text', Option.isNone_none, if_true] at same
  exact (List.cons.inj same).1

theorem others_tail {v : Value} {vs ws : List Value} (same : others (v :: vs) = others (v :: ws)) :
    others vs = others ws := by
  simp only [others, List.filter_cons] at same
  split at same
  · exact (List.cons.inj same).2
  · exact same

theorem valuesText_single (v : Value) : (valuesText [v]).toList = (literalText v).toList := by simp [valuesText]

theorem valuesText_cons (v w : Value) (ws : List Value) :
    (valuesText (v :: w :: ws)).toList =
      (literalText v).toList ++ ([' ', '|', ' '] ++ (valuesText (w :: ws)).toList) := by
  simp [valuesText, String.intercalate_cons_cons]

/-- One value is not taken for several. -/
theorem single_apart {v w x : Value} {ws : List Value} (same : others [v] = others (w :: x :: ws))
    (closed : ∀ p ∈ pieceOf v, p.IsClosed) (closed' : ∀ p ∈ pieceOf w, p.IsClosed) {r : List Char} (ends : NoBar r)
    (r' : List Char) : (valuesText [v]).toList ++ r ≠ (valuesText (w :: x :: ws)).toList ++ r' := by
  intro texts
  rw [valuesText_single, valuesText_cons, List.append_assoc] at texts
  obtain ⟨-, rfl⟩ := value_apart closed closed' (others_head same) texts
  exact ends (by simp)

/-- The strings among enumerated values are given away by the text of all. -/
theorem determine_values {v w : Value} {vs ws : List Value} (same : others (v :: vs) = others (w :: ws)) :
    Determine NoBar (valuesText (v :: vs)) (valuesText (w :: ws)) ((v :: vs).flatMap pieceOf)
      ((w :: ws).flatMap pieceOf) := by
  intro closed closed' r r' ends ends' texts
  induction vs generalizing v w ws with
  | nil =>
    rw [List.flatMap_singleton] at closed ⊢
    obtain ⟨here', -⟩ := List.forall_mem_append.mp (List.flatMap_cons ▸ closed')
    cases ws with
    | nil =>
      rw [valuesText_single, valuesText_single] at texts
      obtain ⟨rfl, rest⟩ := value_apart closed here' (others_head same) texts
      exact ⟨by simp, rest⟩
    | cons y ws => exact absurd texts (single_apart same closed here' ends r')
  | cons x vs ih =>
    obtain ⟨here, later⟩ := List.forall_mem_append.mp (List.flatMap_cons ▸ closed)
    obtain ⟨here', later'⟩ := List.forall_mem_append.mp (List.flatMap_cons ▸ closed')
    cases ws with
    | nil => exact absurd texts.symm (single_apart same.symm here' here ends' r)
    | cons y ws =>
      simp only [valuesText_cons, List.append_assoc] at texts
      obtain ⟨rfl, rest⟩ := value_apart here here' (others_head same) texts
      obtain ⟨pieces, ends⟩ := ih (others_tail same) later later' (List.append_cancel_left rest)
      exact ⟨by rw [List.flatMap_cons, pieces, ← List.flatMap_cons], ends⟩

/-! ## Types -/

/-- The text of one of two types has a bar, that of the other has none, and begins with a parenthesis. -/
def Mixed (s t : String) : Prop := hasBar s = true ∧ hasBar t = false ∧ t.toList.head? = some '('

/-- The texts of two types give their pieces away, and a parenthesis in front of either is one around an array. -/
structure Told (s t : String) (ps qs : List Piece) : Prop where
  determine : Determine NoBar s t ps qs
  left : ¬ Mixed s t
  right : ¬ Mixed t s

theorem told_same (s : String) : Told s s [] [] where
  determine := (determine_same s).mono
  left := fun ⟨bar, bare, _⟩ => Bool.noConfusion (bar.symm.trans bare)
  right := fun ⟨bar, bare, _⟩ => Bool.noConfusion (bar.symm.trans bare)

theorem valuesText_head (v : Value) (vs : List Value) : (valuesText (v :: vs)).toList.head? ≠ some '(' := by
  obtain ⟨c, head, other, -⟩ := literalText_head v
  have first : (valuesText (v :: vs)).toList.head? = some c := by
    cases vs with
    | nil => rwa [valuesText_single]
    | cons w vs => rw [valuesText_cons, head?_append_of_mem head]
  rw [first]
  simpa using other

theorem told_values {v w : Value} {vs ws : List Value} (same : others (v :: vs) = others (w :: ws)) :
    Told (valuesText (v :: vs)) (valuesText (w :: ws)) ((v :: vs).flatMap pieceOf) ((w :: ws).flatMap pieceOf) where
  determine := determine_values same
  left := fun ⟨_, _, opening⟩ => valuesText_head w ws opening
  right := fun ⟨_, _, opening⟩ => valuesText_head v vs opening

theorem hasBar_arrayText (s : String) : hasBar (arrayText s) = hasBar s := by
  rw [arrayText]
  split
  next bar => simp_all [hasBar]
  next none => simp_all [hasBar]

theorem arrayText_bar {s : String} (bar : hasBar s = true) : arrayText s = "(" ++ s ++ ")[]" := if_pos bar

theorem arrayText_bare {s : String} (bare : hasBar s = false) : arrayText s = s ++ "[]" := if_neg (by simp [bare])

/-- A text without a bar begins with a parenthesis if brackets behind it make one that does. -/
theorem mixed_of_opening {s t : String} (bar : hasBar s = true) (bare : hasBar t = false) {r : List Char}
    (opening : ((arrayText t).toList ++ r).head? = some '(') : Mixed s t := by
  refine ⟨bar, bare, ?_⟩
  rw [arrayText_bare bare, String.toList_append, List.append_assoc, List.head?_append] at opening
  cases head : t.toList.head? with
  | none => simp [head] at opening
  | some c => simpa [head] using opening

theorem not_mixed_array {s t : String} (given : ¬ Mixed s t) : ¬ Mixed (arrayText s) (arrayText t) := by
  rintro ⟨bar, bare, opening⟩
  rw [hasBar_arrayText] at bar bare
  exact given (mixed_of_opening bar bare (r := []) (by simpa using opening))

/-- Brackets go alike around texts that give their pieces away. -/
theorem told_array {s t : String} {ps qs : List Piece} (told : Told s t ps qs) :
    Told (arrayText s) (arrayText t) ps qs where
  determine := by
    have opens {s t : String} (bar : hasBar s = true) (bare : hasBar t = false) {r r' : List Char}
        (same : (arrayText s).toList ++ r = (arrayText t).toList ++ r') : Mixed s t :=
      mixed_of_opening bar bare (r := r') (by rw [← same, arrayText_bar bar]; simp)
    cases bar : hasBar s with
    | true =>
      cases bar' : hasBar t with
      | true =>
        rw [arrayText_bar bar, arrayText_bar bar']
        exact ((told.determine.before "(").behind (by simp [NoBar])).mono
      | false => exact fun _ _ _ _ _ _ same => absurd (opens bar bar' same) told.left
    | false =>
      cases bar' : hasBar t with
      | true => exact fun _ _ _ _ _ _ same => absurd (opens bar' bar same.symm) told.right
      | false =>
        rw [arrayText_bare bar, arrayText_bare bar']
        exact (told.determine.behind (by simp [NoBar])).mono
  left := not_mixed_array told.left
  right := not_mixed_array told.right

theorem not_mixed_head {s t : String} {c : Char} (head : t.toList.head? = some c) (other : c ≠ '(') : ¬ Mixed s t := by
  rintro ⟨-, -, opening⟩
  rw [head, Option.some_inj] at opening
  exact other opening

theorem told_record {s t : String} {ps qs : List Piece} (told : Told s t ps qs) :
    Told ("Record<string, " ++ s ++ ">") ("Record<string, " ++ t ++ ">") ps qs where
  determine := ((told.determine.before "Record<string, ").behind (by simp [NoBar])).mono
  left := not_mixed_head (c := 'R') (by simp) (by decide)
  right := not_mixed_head (c := 'R') (by simp) (by decide)

theorem determine_field {f g : Field}
    (told : Told (textAt f.schema?) (textAt g.schema?) (shownAt f.schema?) (shownAt g.schema?)) :
    Determine NoBar f.text g.text f.pieces g.pieces := by
  rw [field_text, field_text]
  exact (determine_name f.name g.name f.isOptional g.isOptional).append told.determine
    (fun _ _ => trivial) (fun _ _ => trivial)

theorem determine_fields {fs gs : List Field}
    (each : List.Forall₂ (fun f g => Determine NoBar f.text g.text f.pieces g.pieces) fs gs) :
    Determine NoBar ("; ".intercalate (fs.map Field.text)) ("; ".intercalate (gs.map Field.text))
      (fs.flatMap Field.pieces) (gs.flatMap Field.pieces) := by
  induction each with
  | nil => exact (determine_same _).mono
  | @cons f g fs gs here later ih =>
    cases later with
    | nil => simpa using here
    | cons =>
      simp only [List.map_cons, String.intercalate_cons_cons, List.flatMap_cons, String.append_assoc] at ih ⊢
      exact here.append (ih.before "; ") (by simp [NoBar]) (by simp [NoBar])

theorem told_fields {fs gs : List Field}
    (each : List.Forall₂ (fun f g => Determine NoBar f.text g.text f.pieces g.pieces) fs gs) :
    Told ("\x7b " ++ "; ".intercalate (fs.map Field.text) ++ " \x7d")
      ("\x7b " ++ "; ".intercalate (gs.map Field.text) ++ " \x7d")
      (fs.flatMap Field.pieces) (gs.flatMap Field.pieces) where
  determine := (((determine_fields each).before "\x7b ").behind (by simp [NoBar])).mono
  left := not_mixed_head (c := '\x7b') (by simp) (by decide)
  right := not_mixed_head (c := '\x7b') (by simp) (by decide)

end ApiBindings.TypeSeparation
