import ApiBindings.Decimal.Notation
import Mathlib.Data.List.Nodup

/-!
# Type expressions

How the text of a type is read: cut into words, string literals and marks, and then by the grammar of types, in
which brackets behind a type bind tighter than the bars of a union and parentheses group. A word is a name, a keyword
or a number, never two of these (`keyword_not_reference`, `number_not_name`). A text is read in one way at most
(`reads_unique`), since every mark that parts two pieces stands outside of all brackets, and no mark of the same kind
inside of a piece does (`reads_passes`).
-/

namespace ApiBindings.TypeGrammar

/-! ## Types -/

/-- The types that are called by a word of the language. -/
inductive Keyword where
  | any | unknown | never | void | undefined | null | object | string | number | bigint | boolean | symbol | this
  | true | false

/-- The word of a keyword. -/
def Keyword.word : Keyword → String
  | .any => "any"
  | .unknown => "unknown"
  | .never => "never"
  | .void => "void"
  | .undefined => "undefined"
  | .null => "null"
  | .object => "object"
  | .string => "string"
  | .number => "number"
  | .bigint => "bigint"
  | .boolean => "boolean"
  | .symbol => "symbol"
  | .this => "this"
  | .true => "true"
  | .false => "false"

/-- All keywords. -/
def Keyword.all : List Keyword :=
  [.any, .unknown, .never, .void, .undefined, .null, .object, .string, .number, .bigint, .boolean, .symbol, .this,
    .true, .false]

theorem Keyword.mem_all (k : Keyword) : k ∈ Keyword.all := by
  cases k <;> simp [Keyword.all]

theorem Keyword.word_inj {k k' : Keyword} (same : k.word = k'.word) : k = k' :=
  List.inj_on_of_nodup_map (by decide : (Keyword.all.map Keyword.word).Nodup) k.mem_all k'.mem_all same

/-- A type: a reference to one that is declared elsewhere, a keyword, a number as it is written, a string, or made from
    other types. -/
inductive TypeExpr where
  | reference (name : String)
  | keyword (k : Keyword)
  | number (written : String)
  | text (s : String)
  | union (members : List TypeExpr)
  | array (element : TypeExpr)
  | object (fields : List (String × Bool × TypeExpr))
  | record (values : TypeExpr)

/-! ## Tokens -/

/-- What the text of a type is made of. -/
inductive Token where
  | word (w : String)
  | text (s : String)
  | mark (c : Char)
  deriving DecidableEq

/-- A character of a name. -/
def isNameChar (c : Char) : Bool := c.isAlphanum || c == '_' || c == '$'

/-- A character of a word, which may be a number. -/
def isWordChar (c : Char) : Bool := isNameChar c || c == '.' || c == '+' || c == '-'

/-- The marks of the grammar. -/
def marks : List Char := ['(', ')', '[', ']', '\x7b', '\x7d', '<', '>', '|', ';', ':', ',', '?']

/-- A word that is being read, once it has ended. -/
def wordTokens (word : List Char) : List Token := if word.isEmpty then [] else [.word (String.ofList word)]

/-- Where a text is being read: behind the characters of a word, or inside a string literal. -/
inductive Place where
  | outside (word : List Char)
  | inside (literal : List Char)

/-- The tokens of a text behind some place. Words are as long as they can be, blanks only part them, and a literal
    ends at the next quote. Literals with escapes are not read. -/
def tokensFrom : Place → List Char → Option (List Token)
  | .outside word, [] => some (wordTokens word)
  | .inside _, [] => none
  | .inside literal, c :: rest =>
    if c = '"' then (tokensFrom (.outside []) rest).map (.text (String.ofList literal) :: ·)
    else if c = '\\' ∨ c = '\n' ∨ c = '\r' then none
    else tokensFrom (.inside (literal ++ [c])) rest
  | .outside word, c :: rest =>
    if isWordChar c then tokensFrom (.outside (word ++ [c])) rest
    else if c = '"' then (tokensFrom (.inside []) rest).map (wordTokens word ++ ·)
    else if c = ' ' then (tokensFrom (.outside []) rest).map (wordTokens word ++ ·)
    else if marks.contains c then (tokensFrom (.outside []) rest).map (wordTokens word ++ .mark c :: ·)
    else none

/-- The tokens of a text. -/
def tokens? (s : String) : Option (List Token) := tokensFrom (.outside []) s.toList

/-! ## The grammar -/

/-- One digit or more. -/
def Digits (cs : List Char) : Prop := cs ≠ [] ∧ ∀ c ∈ cs, c.isDigit = true

/-- Digits without a zero in front, or a zero alone. -/
def WholeDigits (cs : List Char) : Prop := Digits cs ∧ ∀ rest, cs = '0' :: rest → rest = []

/-- A name: no digit stands in front. -/
def IsName (w : String) : Prop :=
  w ≠ "" ∧ (∀ c ∈ w.toList.head?, c.isDigit = false) ∧ ∀ c ∈ w.toList, isNameChar c = true

instance (w : String) : Decidable (IsName w) :=
  have := Option.decidableForallMem (p := fun c : Char => c.isDigit = false) w.toList.head?
  have := List.decidableBAll (fun c : Char => isNameChar c = true) w.toList
  inferInstanceAs (Decidable (_ ∧ _ ∧ _))

/-- The words that are no names of types: keywords, what the language reserves, in classes as well, and what stands in
    front of a type. -/
def reserved : List String :=
  Keyword.all.map Keyword.word ++
    ["break", "case", "catch", "class", "const", "continue", "debugger", "default", "delete", "do", "else", "enum",
      "export", "extends", "finally", "for", "function", "if", "import", "in", "instanceof", "new", "return", "super",
      "switch", "throw", "try", "typeof", "var", "while", "with"] ++
    ["await", "implements", "interface", "let", "package", "private", "protected", "public", "static", "yield"] ++
    ["infer", "keyof", "readonly", "unique"]

/-- The name of a type that is declared elsewhere. -/
def IsReference (w : String) : Prop := IsName w ∧ w ∉ reserved

instance (w : String) : Decidable (IsReference w) := inferInstanceAs (Decidable (_ ∧ _))

/-- A whole number that is written as the language writes it: read as a number of 64 bits it has the same digits
    again. As the name of a field any other number stands for another name, as `1e2` does for `100`. -/
def IsNumeral (w : String) : Prop :=
  ∃ (n : Nat) (x : Decimal.Binary64), w = toString n ∧ n < Nat.pow 10 21 ∧
    Decimal.Binary64.ofDecimal false n 0 = some x ∧ Decimal.Style.plain.write x = w.toList ++ ['.', '0']

/-- The name of a field. Any name will do, whether or not it is reserved. -/
def IsFieldName (w : String) : Prop := IsName w ∨ IsNumeral w

/-- A number without a sign: digits, with a point and digits behind them or an exponent, or without. -/
def IsMagnitude (cs : List Char) : Prop :=
  ∃ whole places exponent : List Char, cs = whole ++ places ++ exponent ∧ WholeDigits whole ∧
    (places = [] ∨ ∃ ds, places = '.' :: ds ∧ Digits ds) ∧
    (exponent = [] ∨ ∃ sign ds, exponent = 'e' :: sign ++ ds ∧ (sign = [] ∨ sign = ['+'] ∨ sign = ['-']) ∧ Digits ds)

/-- A number as it is written, perhaps after a minus sign. -/
def IsNumber (w : String) : Prop := ∃ cs, IsMagnitude cs ∧ (w.toList = cs ∨ w.toList = '-' :: cs)

/-- How tightly the parts of a type are bound. -/
inductive Level where
  /-- One piece: a word, a literal or something in brackets. -/
  | piece
  /-- A piece with brackets behind it, or without. -/
  | bracketed
  /-- Bracketed pieces with bars between them, or one alone. -/
  | whole
  deriving DecidableEq

/-- Pieces with a mark between them. -/
def parted (sep : Char) (pieces : List (List Token)) : List Token := [Token.mark sep].intercalate pieces

/-- A field of an object type, with the tokens of its type. -/
structure Field where
  name : String
  isOptional : Bool
  tokens : List Token
  type : TypeExpr

/-- The tokens of a field. -/
def Field.spelled (f : Field) : List Token :=
  .word f.name :: (if f.isOptional then [.mark '?'] else []) ++ .mark ':' :: f.tokens

/-- A field without the tokens of its type. -/
def Field.typed (f : Field) : String × Bool × TypeExpr := (f.name, f.isOptional, f.type)

/-- What stands before the values of a record. -/
def recordHead : List Token := [.word "Record", .mark '<', .word "string", .mark ',']

/-- Tokens read as a type. -/
inductive Reads : Level → List Token → TypeExpr → Prop
  | reference {w : String} (name : IsReference w) : Reads .piece [.word w] (.reference w)
  | keyword (k : Keyword) : Reads .piece [.word k.word] (.keyword k)
  | number {w : String} (spelled : IsNumber w) : Reads .piece [.word w] (.number w)
  | text {s : String} : Reads .piece [.text s] (.text s)
  | group {ts : List Token} {t : TypeExpr} (inner : Reads .whole ts t) :
      Reads .piece (.mark '(' :: (ts ++ [.mark ')'])) t
  | record {ts : List Token} {t : TypeExpr} (values : Reads .whole ts t) :
      Reads .piece (recordHead ++ (ts ++ [.mark '>'])) (.record t)
  | object {fields : List Field} (some : fields ≠ []) (names : ∀ f ∈ fields, IsFieldName f.name)
      (types : ∀ f ∈ fields, Reads .whole f.tokens f.type) :
      Reads .piece (.mark '\x7b' :: (parted ';' (fields.map Field.spelled) ++ [.mark '\x7d']))
        (.object (fields.map Field.typed))
  | piece {ts : List Token} {t : TypeExpr} (inner : Reads .piece ts t) : Reads .bracketed ts t
  | array {ts : List Token} {t : TypeExpr} (element : Reads .bracketed ts t) :
      Reads .bracketed (ts ++ [.mark '[', .mark ']']) (.array t)
  | single {ts : List Token} {t : TypeExpr} (inner : Reads .bracketed ts t) : Reads .whole ts t
  | union {members : List (List Token × TypeExpr)} (many : 2 ≤ members.length)
      (each : ∀ m ∈ members, Reads .bracketed m.1 m.2) :
      Reads .whole (parted '|' (members.map (·.1))) (.union (members.map (·.2)))

/-- A text is read as a type. -/
def ReadsAs (s : String) (t : TypeExpr) : Prop := ∃ ts, tokens? s = some ts ∧ Reads .whole ts t

/-! ## Kinds of words -/

theorem keyword_reserved (k : Keyword) : k.word ∈ reserved := by
  have listed : k.word ∈ Keyword.all.map Keyword.word := List.mem_map_of_mem k.mem_all
  simp only [reserved, List.mem_append]
  exact .inl (.inl (.inl listed))

theorem keyword_not_reference (k : Keyword) : ¬ IsReference k.word := fun reference => reference.2 (keyword_reserved k)

theorem isName_keyword (k : Keyword) : IsName k.word := by
  have each : ∀ w ∈ Keyword.all.map Keyword.word, IsName w := by decide
  exact each _ (List.mem_map_of_mem k.mem_all)

/-- A number begins with a digit or a minus sign, which no name does. -/
theorem number_not_name {w : String} (number : IsNumber w) : ¬ IsName w := by
  rintro ⟨_, first, each⟩
  obtain ⟨cs, ⟨whole, places, exponent, rfl, ⟨⟨given, digits⟩, _⟩, _⟩, text | text⟩ := number
  · obtain ⟨d, more, rfl⟩ := List.exists_cons_of_ne_nil given
    have digit : d.isDigit = true := digits d (by simp)
    rw [first d (by simp [text])] at digit
    cases digit
  · have sign : isNameChar '-' = true := each '-' (by simp [text])
    revert sign
    decide

/-! ## Brackets -/

/-- The marks that open a bracket. -/
def openings : List Char := ['(', '[', '\x7b', '<']

/-- The marks that close one. -/
def closings : List Char := [')', ']', '\x7d', '>']

/-- The depth of brackets behind some tokens, from a depth before them; none where a bracket closes that was not
    opened, or where a certain mark stands outside of all brackets. -/
def depthAfter (sep : Char) (depth : Nat) : List Token → Option Nat
  | [] => some depth
  | .mark c :: rest =>
    if depth = 0 ∧ c = sep then none
    else if c ∈ openings then depthAfter sep (depth + 1) rest
    else if c ∈ closings then
      if depth = 0 then none else depthAfter sep (depth - 1) rest
    else depthAfter sep depth rest
  | _ :: rest => depthAfter sep depth rest

/-- Tokens that end at the depth at which they begin. -/
def Passes (sep : Char) (depth : Nat) (ts : List Token) : Prop := depthAfter sep depth ts = some depth

theorem depthAfter_append (sep : Char) (depth : Nat) (xs ys : List Token) :
    depthAfter sep depth (xs ++ ys) = (depthAfter sep depth xs).bind fun d => depthAfter sep d ys := by
  induction xs generalizing depth with
  | nil => rfl
  | cons t rest ih =>
    cases t with
    | word w => exact ih depth
    | text s => exact ih depth
    | mark c =>
      simp only [List.cons_append, depthAfter]
      split_ifs
      · rfl
      · exact ih _
      · rfl
      · exact ih _
      · exact ih _

theorem passes_append {sep : Char} {depth : Nat} {xs ys : List Token} (first : Passes sep depth xs)
    (second : Passes sep depth ys) : Passes sep depth (xs ++ ys) := by
  rw [Passes, depthAfter_append, first]
  exact second

theorem parted_cons (sep : Char) (p q : List Token) (rest : List (List Token)) :
    parted sep (p :: q :: rest) = p ++ .mark sep :: parted sep (q :: rest) := by
  rw [parted, List.intercalate_cons_cons, List.append_assoc]
  rfl

theorem passes_parted {sep mark : Char} {depth : Nat} {pieces : List (List Token)}
    (between : Passes sep depth [.mark mark]) (each : ∀ p ∈ pieces, Passes sep depth p) :
    Passes sep depth (parted mark pieces) := by
  induction pieces with
  | nil => rfl
  | cons p rest ih =>
    obtain ⟨here, later⟩ := List.forall_mem_cons.mp each
    cases rest with
    | nil => simpa [parted] using here
    | cons q rest =>
      rw [parted_cons]
      exact passes_append here (passes_append between (ih later))

/-- Brackets around tokens lead back to the depth before them. -/
theorem passes_enclosed {sep : Char} {depth : Nat} {ts : List Token} (inner : Passes sep (depth + 1) ts)
    {opening closing : Char} (apart : ¬ (depth = 0 ∧ opening = sep)) (opens : opening ∈ openings)
    (closes : closing ∈ closings) : Passes sep depth (.mark opening :: (ts ++ [.mark closing])) := by
  have other : ∀ c ∈ closings, c ∉ openings := by simp [closings, openings]
  have closed : depthAfter sep (depth + 1) [.mark closing] = some depth := by
    simp [depthAfter, other closing closes, closes]
  rw [Passes, depthAfter, if_neg apart, if_pos opens, depthAfter_append, inner]
  exact closed

/-- A field passes over brackets where its type does. -/
theorem passes_field {sep : Char} {depth : Nat} {f : Field} (type : Passes sep depth f.tokens)
    (semicolon : depth = 0 → sep = ';') : Passes sep depth f.spelled := by
  have name : Passes sep depth (.word f.name :: (if f.isOptional then [.mark '?'] else []) ++ [.mark ':']) := by
    have apart : ∀ c ∈ ['?', ':'], ¬ (depth = 0 ∧ c = sep) := by
      rintro c member ⟨outside, rfl⟩
      rw [semicolon outside] at member
      revert member
      decide
    cases f.isOptional <;> simp [Passes, depthAfter, openings, closings, apart]
  simpa [Field.spelled] using passes_append name type

/-- Where a mark is looked for, or not: inside of brackets it may stand, between fields it is a semicolon, and
    between the members of a union, of which the type is not one itself, it is a bar. -/
def Guarded (level : Level) (sep : Char) (depth : Nat) : Prop :=
  0 < depth ∨ sep = ';' ∨ sep = '|' ∧ level ≠ .whole

theorem Guarded.apart {level : Level} {sep : Char} {depth : Nat} (guarded : Guarded level sep depth) {c : Char}
    (other : c ≠ ';' ∧ c ≠ '|') : ¬ (depth = 0 ∧ c = sep) := by
  rintro ⟨rfl, rfl⟩
  rcases guarded with inside | semicolon | ⟨bar, _⟩
  · omega
  · exact other.1 semicolon
  · exact other.2 bar

/-- What reads as a type closes its brackets, and outside of them it has neither a semicolon nor, unless it is a
    union, a bar. -/
theorem reads_passes {level : Level} {ts : List Token} {t : TypeExpr} (reads : Reads level ts t) {sep : Char}
    {depth : Nat} (guarded : Guarded level sep depth) : Passes sep depth ts := by
  induction reads generalizing depth with
  | reference _ => rfl
  | keyword k => rfl
  | number _ => rfl
  | text => rfl
  | group _ ih => exact passes_enclosed (ih (.inl (by omega))) (guarded.apart (by decide)) (by decide) (by decide)
  | @record ts t _ ih =>
    have inner : Passes sep (depth + 1) ([.word "string", .mark ','] ++ ts) :=
      passes_append (by simp [Passes, depthAfter, openings, closings]) (ih (.inl (by omega)))
    exact passes_enclosed inner (guarded.apart (by decide)) (by decide) (by decide)
  | @object fields _ _ _ ih =>
    refine passes_enclosed ?_ (guarded.apart (by decide)) (by decide) (by decide)
    refine passes_parted (by simp [Passes, depthAfter, openings, closings]) ?_
    intro p member
    obtain ⟨f, inside, rfl⟩ := List.mem_map.mp member
    exact passes_field (ih f inside (.inl (by omega))) (by simp)
  | piece _ ih => exact ih (guarded.imp_right (Or.imp_right fun bar => ⟨bar.1, by decide⟩))
  | @array ts t _ ih =>
    have empty : Passes sep (depth + 1) [] := rfl
    exact passes_append (ih guarded) (passes_enclosed empty (guarded.apart (by decide)) (by decide) (by decide))
  | single _ ih => exact ih (guarded.imp_right (Or.imp_right fun bar => ⟨bar.1, by decide⟩))
  | @union members _ _ ih =>
    have between : ¬ (depth = 0 ∧ '|' = sep) := by
      rintro ⟨rfl, rfl⟩
      rcases guarded with inside | semicolon | ⟨_, other⟩
      · omega
      · exact absurd semicolon (by decide)
      · exact other rfl
    refine passes_parted (by simp [Passes, depthAfter, between, openings, closings]) ?_
    intro p member
    obtain ⟨m, inside, rfl⟩ := List.mem_map.mp member
    exact ih m inside (guarded.imp_right (Or.imp_right fun bar => ⟨bar.1, by decide⟩))

/-! ## Pieces and the marks between them -/

/-- A mark stands inside of brackets only, so that it cannot come behind another piece. -/
theorem not_goesOn {sep : Char} {xs ys more : List Token} (first : Passes sep 0 xs) (second : Passes sep 0 ys) :
    ys ≠ xs ++ .mark sep :: more := by
  intro goesOn
  rw [Passes, goesOn, depthAfter_append, first] at second
  simp [depthAfter] at second

/-- The piece before the first mark outside of brackets is known. -/
theorem piece_before {sep : Char} {xs ys us vs : List Token} (first : Passes sep 0 xs) (second : Passes sep 0 ys)
    (same : xs ++ .mark sep :: us = ys ++ .mark sep :: vs) : xs = ys ∧ us = vs := by
  rcases List.append_eq_append_iff.mp same with ⟨more, goesOn, rest⟩ | ⟨more, goesOn, rest⟩
  · cases more with
    | nil => simp_all
    | cons t more =>
      obtain ⟨rfl, _⟩ := List.cons.inj rest
      exact absurd goesOn (not_goesOn first second)
  · cases more with
    | nil => simp_all
    | cons t more =>
      obtain ⟨rfl, _⟩ := List.cons.inj rest
      exact absurd goesOn (not_goesOn second first)

/-- Pieces without a mark outside of brackets are known from what they make with the mark between them. -/
theorem parted_inj {sep : Char} {ps qs : List (List Token)} (some : ps ≠ []) (some' : qs ≠ [])
    (each : ∀ p ∈ ps, Passes sep 0 p) (each' : ∀ q ∈ qs, Passes sep 0 q) (same : parted sep ps = parted sep qs) :
    ps = qs := by
  induction ps generalizing qs with
  | nil => exact absurd rfl some
  | cons p ps ih =>
    obtain ⟨q, qs, rfl⟩ := List.exists_cons_of_ne_nil some'
    obtain ⟨here, later⟩ := List.forall_mem_cons.mp each
    obtain ⟨here', later'⟩ := List.forall_mem_cons.mp each'
    match ps, qs with
    | [], [] => simpa [parted] using same
    | [], q' :: qs =>
      rw [parted_cons] at same
      exact absurd (by simpa [parted] using same) (not_goesOn here' here)
    | p' :: ps, [] =>
      rw [parted_cons] at same
      exact absurd (by simpa [parted] using same.symm) (not_goesOn here here')
    | p' :: ps, q' :: qs =>
      rw [parted_cons, parted_cons] at same
      obtain ⟨rfl, rest⟩ := piece_before here here' same
      rw [ih (by simp) (by simp) later later' rest]

/-! ## One reading at most -/

/-- Lists that look the same through one map look the same through another one that it determines. -/
theorem map_eq_of_known {α β γ : Type} {f : α → β} {g : α → γ} {xs ys : List α} (same : xs.map f = ys.map f)
    (known : ∀ x ∈ xs, ∀ y ∈ ys, f x = f y → g x = g y) : xs.map g = ys.map g := by
  induction xs generalizing ys with
  | nil => simp_all
  | cons x xs ih =>
    obtain ⟨y, ys, rfl, here, later⟩ := List.map_eq_cons_iff.mp same.symm
    have rest := ih later.symm fun x inside y inside' => known x (by simp [inside]) y (by simp [inside'])
    rw [List.map_cons, List.map_cons, known x (by simp) y (by simp) here.symm, rest]

/-- Brackets behind a type are no part of a piece. -/
theorem piece_end {ts : List Token} {t : TypeExpr} (reads : Reads .piece ts t) : ts.getLast? ≠ some (.mark ']') := by
  have enclosed (front us : List Token) (closing : Char) (other : closing ≠ ']') :
      (front ++ (us ++ [Token.mark closing])).getLast? ≠ some (Token.mark ']') := by
    rw [← List.append_assoc, List.getLast?_concat]
    simpa using other
  cases reads with
  | reference _ => simp
  | keyword k => simp
  | number _ => simp
  | text => simp
  | group _ => exact enclosed [.mark '('] _ ')' (by decide)
  | record _ => exact enclosed recordHead _ '>' (by decide)
  | object _ _ _ => exact enclosed [.mark '\x7b'] _ '\x7d' (by decide)

/-- The tokens of a field tell its name, whether it is optional, and the tokens of its type. -/
theorem spelled_inj {f g : Field} (same : f.spelled = g.spelled) :
    f.name = g.name ∧ f.isOptional = g.isOptional ∧ f.tokens = g.tokens := by
  unfold Field.spelled at same
  cases first : f.isOptional <;> cases second : g.isOptional <;> simp_all

theorem object_passes {fields : List Field} (types : ∀ f ∈ fields, Reads .whole f.tokens f.type) :
    ∀ p ∈ fields.map Field.spelled, Passes ';' 0 p := by
  intro p member
  obtain ⟨f, inside, rfl⟩ := List.mem_map.mp member
  exact passes_field (reads_passes (types f inside) (.inr (.inl rfl))) fun _ => rfl

theorem union_passes {members : List (List Token × TypeExpr)} (each : ∀ m ∈ members, Reads .bracketed m.1 m.2) :
    ∀ p ∈ members.map (·.1), Passes '|' 0 p := by
  intro p member
  obtain ⟨m, inside, rfl⟩ := List.mem_map.mp member
  exact reads_passes (each m inside) (.inr (.inr ⟨rfl, by decide⟩))

/-- A union is no bracketed piece. -/
theorem union_not_bracketed {members : List (List Token × TypeExpr)} (many : 2 ≤ members.length)
    (each : ∀ m ∈ members, Reads .bracketed m.1 m.2) {t : TypeExpr} :
    ¬ Reads .bracketed (parted '|' (members.map (·.1))) t := by
  intro reads
  have alone : Passes '|' 0 (parted '|' (members.map (·.1))) := reads_passes reads (.inr (.inr ⟨rfl, by decide⟩))
  obtain _ | ⟨first, _ | ⟨second, rest⟩⟩ := members
  · simp at many
  · simp at many
  · have here := union_passes each first.1 (by simp)
    exact not_goesOn here alone (parted_cons '|' first.1 second.1 _)

/-- Tokens are read in one way at most. -/
theorem reads_unique {level : Level} {ts us : List Token} {t t' : TypeExpr} (reads : Reads level ts t)
    (other : Reads level us t') (same : us = ts) : t' = t := by
  induction reads generalizing us t' with
  | reference name =>
    cases other with
    | keyword k =>
      obtain rfl : k.word = _ := by simpa using same
      exact absurd name (keyword_not_reference k)
    | number spelled =>
      obtain rfl : _ = _ := by simpa using same
      exact absurd name.1 (number_not_name spelled)
    | _ => simp_all [recordHead]
  | keyword k =>
    cases other with
    | reference name =>
      obtain rfl : _ = k.word := by simpa using same
      exact absurd name (keyword_not_reference k)
    | keyword k' => rw [Keyword.word_inj (by simpa using same : k'.word = k.word)]
    | number spelled =>
      obtain rfl : _ = k.word := by simpa using same
      exact absurd (isName_keyword k) (number_not_name spelled)
    | _ => simp_all [recordHead]
  | number spelled =>
    cases other with
    | reference name =>
      obtain rfl : _ = _ := by simpa using same
      exact absurd name.1 (number_not_name spelled)
    | keyword k =>
      obtain rfl : k.word = _ := by simpa using same
      exact absurd (isName_keyword k) (number_not_name spelled)
    | _ => simp_all [recordHead]
  | text =>
    cases other <;> simp_all [recordHead]
  | group _ ih =>
    cases other with
    | group inner => exact ih inner (by simpa using same)
    | _ => simp_all [recordHead]
  | record _ ih =>
    cases other with
    | record values => rw [ih values (by simpa using same)]
    | _ => simp_all [recordHead]
  | object some names types ih =>
    cases other with
    | object some' names' types' =>
      have pieces := parted_inj (by simpa using some') (by simpa using some) (object_passes types')
        (object_passes types) (by simpa using same)
      rw [map_eq_of_known (g := Field.typed) pieces]
      intro f inside g member spelled
      obtain ⟨name, isOptional, tokens⟩ := spelled_inj spelled
      rw [Field.typed, Field.typed, name, isOptional, ih g member (types' f inside) tokens]
    | _ => simp_all [recordHead]
  | piece inner ih =>
    cases other with
    | piece inner' => exact ih inner' same
    | array element =>
      have ends := piece_end inner
      simp [← same] at ends
  | array element ih =>
    cases other with
    | piece inner' =>
      have ends := piece_end inner'
      simp [same] at ends
    | array element' => rw [ih element' (by simpa using same)]
  | single inner ih =>
    cases other with
    | single inner' => exact ih inner' same
    | union many each =>
      subst same
      exact absurd inner (union_not_bracketed many each)
  | @union members many each ih =>
    cases other with
    | single inner' =>
      subst same
      exact absurd inner' (union_not_bracketed many each)
    | @union members' many' each' =>
      have some : members.map (·.1) ≠ [] := by rintro none; simp_all
      have some' : members'.map (·.1) ≠ [] := by rintro none; simp_all
      have pieces := parted_inj some' some (union_passes each') (union_passes each) same
      rw [map_eq_of_known (g := (·.2)) pieces]
      intro m inside n member tokens
      exact ih n member (each' m inside) tokens

/-- Behind an opening brace stands the name of a field. -/
theorem reads_firstField {level : Level} {ts : List Token} {t : TypeExpr} (reads : Reads level ts t) {w : String}
    {more rest : List Token} (front : ts ++ more = .mark '\x7b' :: .word w :: rest) : IsFieldName w := by
  induction reads generalizing more with
  | object some names _ _ =>
    obtain ⟨f, fields, rfl⟩ := List.exists_cons_of_ne_nil some
    have name : f.name = w := by
      cases fields <;> simp_all [parted, Field.spelled]
    exact name ▸ names f (by simp)
  | piece _ ih => exact ih front
  | array _ ih => exact ih (by rwa [List.append_assoc] at front)
  | single _ ih => exact ih front
  | @union members many _ ih =>
    obtain _ | ⟨first, _ | ⟨second, others⟩⟩ := members
    · simp at many
    · simp at many
    · rw [List.map_cons, List.map_cons, parted_cons, List.append_assoc] at front
      exact ih first (by simp) front
  | _ => simp_all [recordHead]

/-- A text is read as one type at most. -/
theorem readsAs_unique {s : String} {t t' : TypeExpr} (reads : ReadsAs s t) (other : ReadsAs s t') : t' = t := by
  obtain ⟨ts, cut, reads⟩ := reads
  obtain ⟨us, cut', other⟩ := other
  exact reads_unique reads other (Option.some.inj (cut'.symm.trans cut))

end ApiBindings.TypeGrammar
