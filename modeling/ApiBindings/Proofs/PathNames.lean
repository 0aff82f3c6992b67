import ApiBindings.Proofs.Identifiers

/-!
# Names of paths

What the name of an operation says of its path. The words of a text hold its letters and numbers in order
(`flatten_words`), and a text that is cut at a character that is neither falls into the words of its parts
(`words_before`), so that the words of a path are those of its segments (`words_pathText`). Behind the verb a path of
ASCII is spelled by the letters and digits of its segments, and paths with the same segments have the same name
(`pathName_spelled`).
-/

namespace ApiBindings.PathNames
open ApiBindings.Text ApiBindings.Identifiers

/-! ## Words of a text -/

theorem pieces_eq (cut : Char → Bool) (s : List Char) : pieces cut s = s.splitOnP cut := by
  induction s with
  | nil => rfl
  | cons c rest ih =>
    rw [pieces, ih, List.splitOnP_cons_eq_if_modifyHead]
    obtain ⟨first, more, split⟩ := List.exists_cons_of_ne_nil (List.splitOnP_ne_nil cut rest)
    rw [split, List.modifyHead_cons]

theorem pieces_slash (s : List Char) : pieces (· = '/') s = s.splitOn '/' := pieces_eq _ s

theorem flatten_pieces (cut : Char → Bool) (s : List Char) : (pieces cut s).flatten = s.filter fun c => !cut c := by
  induction s with
  | nil => rfl
  | cons c rest ih =>
    rw [pieces]
    by_cases here : cut c = true
    · simpa [here] using ih
    · rw [if_neg here, List.filter_cons_of_pos (by simpa using here), ← ih]
      cases pieces cut rest <;> rfl

/-- Nothing is lost between the humps of a run. -/
theorem flatten_humps (h : Hump) (word : List Char) {s : List Char} (some : s ≠ []) :
    (humps h word s).flatten = word ++ s := by
  fun_induction humps h word s with
  | case1 => exact absurd rfl some
  | case2 => simp
  | case3 h word c next rest _ ih => simp [ih]
  | case4 h word c next rest _ _ ih => simp [ih]
  | case5 h word c next rest _ _ ih => simp [ih]

/-- The words of a text run together are its letters and numbers. -/
theorem flatten_words (s : List Char) : (words s).flatten = s.filter isAlphanumeric := by
  have each : List.flatten ∘ humps .none [] = id := by
    funext piece
    cases piece with
    | nil => rfl
    | cons c rest => exact flatten_humps .none [] (List.cons_ne_nil c rest)
  rw [words, List.flatMap_def, List.flatten_flatten, List.map_map, each, List.map_id, flatten_pieces]
  simp

/-- A character that is neither letter nor number parts the words before it from those behind. -/
theorem words_before {c : Char} (mark : isAlphanumeric c = false) (s t : List Char) :
    words (s ++ c :: t) = words s ++ words t := by
  simp only [words, pieces_eq]
  rw [List.splitOnP_append_cons s t (by simp [mark]), List.flatMap_append]

theorem isAlphanumeric_of_isDigit {c : Char} (digit : c.isDigit = true) : isAlphanumeric c = true := by
  have plain : c.isAlphanum = true := by simp [Char.isAlphanum, digit]
  rw [isAlphanumeric_eq (ascii_of_isAlphanum plain), plain]

theorem meetsDigit_mark {c : Char} (mark : isAlphanumeric c = false) (a : Char) :
    meetsDigit a c = false ∧ meetsDigit c a = false := by
  have no_digit : c.isDigit = false := by
    by_contra digit
    simp [isAlphanumeric_of_isDigit (Bool.of_not_eq_false digit)] at mark
  have no_letter : isAlphabetic c = false := (Bool.or_eq_false_iff.mp mark).1
  simp [meetsDigit, no_digit, no_letter]

/-- Nor does it stand beside a break. -/
theorem breakDigits_before {c : Char} (mark : isAlphanumeric c = false) (s t : List Char) :
    breakDigits (s ++ c :: t) = breakDigits s ++ c :: breakDigits t := by
  fun_induction breakDigits s with
  | case1 =>
    cases t with
    | nil => rfl
    | cons b rest => simp [breakDigits, (meetsDigit_mark mark b).2]
  | case2 a =>
    cases t with
    | nil => simp [breakDigits, (meetsDigit_mark mark a).1]
    | cons b rest => simp [breakDigits, (meetsDigit_mark mark a).1, (meetsDigit_mark mark b).2]
  | case3 a b rest meets ih =>
    rw [List.cons_append, List.cons_append, breakDigits, if_pos meets, ← List.cons_append, ih]
    rfl
  | case4 a b rest apart ih =>
    rw [List.cons_append, List.cons_append, breakDigits, if_neg apart, ← List.cons_append, ih]
    rfl

/-- Breaks are neither letters nor numbers. -/
theorem filter_breakDigits (s : List Char) : (breakDigits s).filter isAlphanumeric = s.filter isAlphanumeric := by
  have mark : isAlphanumeric '_' = false := by decide +kernel
  fun_induction breakDigits s with
  | case1 => rfl
  | case2 => rfl
  | case3 a b rest _ ih => simp [List.filter_cons, mark] at ih ⊢; simp [ih]
  | case4 a b rest _ ih => simp [List.filter_cons] at ih ⊢; simp [ih]

/-! ## Words of a path -/

/-- The segments of a path: what its slashes cut out of it. -/
def segments (path : String) : List (List Char) := path.toList.splitOn '/'

/-- The words that a segment gives to the name of its path. -/
def segmentParts (segment : List Char) : List (List Char) := words (breakDigits (segmentWords segment))

@[simp] theorem segmentParts_nil : segmentParts [] = [] := rfl

/-- Segments that are joined with dashes keep their words apart. -/
theorem words_joined (list : List (List Char)) :
    words (breakDigits (['-'].intercalate (list.map segmentWords))) = list.flatMap segmentParts := by
  have mark : isAlphanumeric '-' = false := by decide +kernel
  induction list with
  | nil => rfl
  | cons s rest ih =>
    cases rest with
    | nil => simp [segmentParts]
    | cons s' rest =>
      rw [List.map_cons, List.map_cons, List.intercalate_cons_cons, ← List.map_cons, List.append_assoc,
        List.singleton_append, breakDigits_before mark, words_before mark, ih]
      rfl

/-- The words of a path are those of its segments without the first one. The slash at the end that is left out cuts
    an empty segment off, which has no words. -/
theorem words_pathText (path : String) :
    words (pathText path) = ((segments path).drop 1).flatMap segmentParts := by
  rw [pathText, words_joined, pieces_slash, withoutLastSlash]
  split
  · rename_i last
    obtain ⟨front, same⟩ := List.getLast?_eq_some_iff.mp last
    have parts : segments path = front.splitOn '/' ++ [[]] := by
      rw [segments, same]
      exact List.splitOnP_append_cons front [] (beq_self_eq_true '/')
    have some : 1 ≤ (front.splitOn '/').length := List.length_pos_iff.mpr (List.splitOnP_ne_nil _ _)
    rw [parts, List.drop_append_of_le_length some, List.flatMap_append, same, List.dropLast_concat]
    simp
  · rfl

/-- Words run together, all but the first with a capital. -/
def runTogether : List (List Char) → List Char
  | [] => []
  | first :: rest => lowerWord first ++ rest.flatMap capitalWord

theorem lowerCamel_eq (s : List Char) : lowerCamel s = runTogether (words s) := by
  unfold lowerCamel
  cases words s <;> rfl

/-- The name of a path that is not the root is told by its words. -/
theorem pathName_words (verb : String) {path : String} (given : path ≠ "") (below : path ≠ "/") :
    pathName verb path =
      String.ofList (toLower verb.toList ++ raiseFirst (runTogether (words (pathText path)))) := by
  rw [pathName_eq, if_neg (by simp [given, below]), lowerCamel_eq]

/-- A path from the root to something below it. -/
structure IsRooted (path : String) : Prop where
  begins : path.toList.head? = some '/'
  below : path ≠ "/"

instance (path : String) : Decidable (IsRooted path) :=
  decidable_of_iff (path.toList.head? = some '/' ∧ path ≠ "/")
    ⟨fun ⟨begins, below⟩ => ⟨begins, below⟩, fun rooted => ⟨rooted.begins, rooted.below⟩⟩

/-- The first segment of a path from the root is empty, so the words of the path are those of all its segments. -/
theorem IsRooted.parts {path : String} (rooted : IsRooted path) :
    words (pathText path) = (segments path).flatMap segmentParts := by
  obtain ⟨rest, same⟩ := List.head?_eq_some_iff.mp rooted.begins
  have first : segments path = [] :: rest.splitOn '/' := by
    rw [segments, same]
    exact List.splitOnP_append_cons [] rest (beq_self_eq_true '/')
  rw [words_pathText, first]
  simp

theorem IsRooted.named {path : String} (rooted : IsRooted path) (verb : String) :
    pathName verb path =
      String.ofList (toLower verb.toList ++ raiseFirst (runTogether (words (pathText path)))) := by
  refine pathName_words verb ?_ rooted.below
  rintro rfl
  cases rooted.begins

/-- Empty segments give nothing to a name. -/
theorem parts_given (list : List (List Char)) :
    list.flatMap segmentParts = (list.filter (· ≠ [])).flatMap segmentParts := by
  induction list with
  | nil => rfl
  | cons s rest ih =>
    by_cases empty : s = []
    · simp [empty, ih]
    · simp [empty, ih]

/-! ## Letters and digits of a path -/

/-- What a segment is spelled by: its letters and digits, and for a variable between braces the word `by` before
    those of its name. -/
inductive Spells : List Char → List Char → Prop
  | variable (name : List Char) : Spells ('\x7b' :: (name ++ ['\x7d'])) ('b' :: 'y' :: name.filter Char.isAlphanum)
  | literal {segment : List Char} (bare : ∀ name, segment ≠ '\x7b' :: (name ++ ['\x7d'])) :
    Spells segment (segment.filter Char.isAlphanum)

/-- A text without its case. -/
def caseless (s : List Char) : List Char := s.map Char.toLower

theorem caseless_append (s t : List Char) : caseless (s ++ t) = caseless s ++ caseless t := List.map_append

theorem toLower_toLower {c : Char} (ascii : c.toNat < 128) : c.toLower.toLower = c.toLower :=
  forall_ascii (P := fun c => c.toLower.toLower = c.toLower) (by decide +kernel) ascii

theorem toLower_toUpper {c : Char} (ascii : c.toNat < 128) : c.toUpper.toLower = c.toLower :=
  forall_ascii (P := fun c => c.toUpper.toLower = c.toLower) (by decide +kernel) ascii

theorem isLower_toUpper {c : Char} (ascii : c.toNat < 128) : c.toUpper.isLower = false :=
  forall_ascii (P := fun c => c.toUpper.isLower = false) (by decide +kernel) ascii

theorem caseless_lowerWord {word : List Char} (ascii : IsAscii word) : caseless (lowerWord word) = caseless word := by
  fun_induction lowerWord word with
  | case1 => rfl
  | case2 => exact absurd (ascii 'Σ' List.mem_cons_self) (by decide)
  | case3 c rest _ ih =>
    obtain ⟨head, tail⟩ := List.forall_mem_cons.mp ascii
    rw [lowerOf_eq head, caseless_append, ih tail]
    simp [caseless, toLower_toLower head]

theorem caseless_capitalWord {word : List Char} (ascii : IsAscii word) :
    caseless (capitalWord word) = caseless word := by
  cases word with
  | nil => rfl
  | cons c rest =>
    obtain ⟨head, tail⟩ := List.forall_mem_cons.mp ascii
    rw [capitalWord, upperOf_eq head, caseless_append, caseless_lowerWord tail]
    simp [caseless, toLower_toUpper head]

theorem caseless_raiseFirst {s : List Char} (ascii : IsAscii s) : caseless (raiseFirst s) = caseless s := by
  cases s with
  | nil => rfl
  | cons c rest =>
    have head := ascii c List.mem_cons_self
    rw [raiseFirst, upperOf_eq head]
    simp [caseless, toLower_toUpper head]

theorem caseless_capitals {list : List (List Char)} (ascii : ∀ word ∈ list, IsAscii word) :
    caseless (list.flatMap capitalWord) = caseless list.flatten := by
  induction list with
  | nil => rfl
  | cons word rest ih =>
    obtain ⟨head, tail⟩ := List.forall_mem_cons.mp ascii
    rw [List.flatMap_cons, List.flatten_cons, caseless_append, caseless_append, caseless_capitalWord head, ih tail]

/-- Running words together changes nothing but their case. -/
theorem caseless_runTogether {list : List (List Char)} (ascii : ∀ word ∈ list, IsAscii word) :
    caseless (runTogether list) = caseless list.flatten := by
  cases list with
  | nil => rfl
  | cons first rest =>
    obtain ⟨head, tail⟩ := List.forall_mem_cons.mp ascii
    rw [runTogether, List.flatten_cons, caseless_append, caseless_append, caseless_lowerWord head,
      caseless_capitals tail]

theorem caseless_lowerCamel {s : List Char} (ascii : IsAscii s) :
    caseless (lowerCamel s) = caseless (words s).flatten := by
  rw [lowerCamel_eq, caseless_runTogether (isAscii_words ascii)]

theorem inBraces?_eq_some {segment name : List Char} :
    inBraces? segment = some name ↔ segment = '\x7b' :: (name ++ ['\x7d']) := by
  unfold inBraces?
  split
  · rename_i rest
    split
    · rename_i last
      obtain ⟨front, rfl⟩ := List.getLast?_eq_some_iff.mp last
      simp
    · rename_i other
      constructor
      · exact nofun
      · intro braced
        cases braced
        exact absurd (by simp) other
  · rename_i other
    constructor
    · exact nofun
    · intro braced
      exact absurd braced (other _)

/-- A segment of ASCII has the letters and digits that it is spelled by. -/
theorem exists_spelled {segment : List Char} (ascii : IsAscii segment) :
    ∃ part, Spells segment part ∧ caseless (segmentParts segment).flatten = caseless part := by
  have plain : (segmentParts segment).flatten = (segmentWords segment).filter Char.isAlphanum := by
    rw [segmentParts, flatten_words, filter_breakDigits]
    exact List.filter_congr fun c inside => isAlphanumeric_eq (isAscii_segmentWords ascii c inside)
  rw [plain, segmentWords]
  cases braces : inBraces? segment with
  | none =>
    refine ⟨_, .literal fun name braced => ?_, rfl⟩
    rw [inBraces?_eq_some.mpr braced] at braces
    cases braces
  | some name =>
    obtain rfl := inBraces?_eq_some.mp braces
    refine ⟨_, .variable name, ?_⟩
    cases name with
    | nil => rfl
    | cons c rest =>
      have head : c.toNat < 128 := ascii c (by simp)
      have kept := isAlphanum_toUpper head
      by_cases letter : c.isAlphanum = true
      · rw [letter] at kept
        simp [raiseFirst, upperOf_eq head, caseless, kept, letter, toLower_toUpper head]
      · rw [Bool.not_eq_true] at letter
        rw [letter] at kept
        simp [raiseFirst, upperOf_eq head, caseless, kept, letter]

theorem exists_spelledAll {list : List (List Char)} (ascii : ∀ segment ∈ list, IsAscii segment) :
    ∃ parts, List.Forall₂ Spells list parts ∧
      caseless (list.flatMap segmentParts).flatten = caseless parts.flatten := by
  induction list with
  | nil => exact ⟨[], .nil, rfl⟩
  | cons segment rest ih =>
    obtain ⟨head, tail⟩ := List.forall_mem_cons.mp ascii
    obtain ⟨part, spells, here⟩ := exists_spelled head
    obtain ⟨parts, each, later⟩ := ih tail
    refine ⟨part :: parts, .cons spells each, ?_⟩
    rw [List.flatMap_cons, List.flatten_append, List.flatten_cons, caseless_append, caseless_append, here, later]

theorem isAscii_segments {path : String} (ascii : IsAscii path.toList) : ∀ s ∈ segments path, IsAscii s := by
  intro s among c inside
  rw [segments, ← pieces_slash] at among
  exact ascii c (mem_pieces among c inside).1

theorem head_raiseFirst {s : List Char} (ascii : IsAscii s) : ∀ c ∈ (raiseFirst s).head?, c.isLower = false := by
  cases s with
  | nil => exact nofun
  | cons c rest =>
    have head := ascii c List.mem_cons_self
    rw [raiseFirst, upperOf_eq head]
    rintro _ ⟨⟩
    exact isLower_toUpper head

theorem isAscii_of_isPlain {s : List Char} (plain : IsPlain s) : IsAscii s := fun c inside =>
  ascii_of_isAlphanum (plain c inside)

/-- A text spells a path: it is made of letters and digits and does not begin with a small letter, and up to their
    case these are the ones that the segments of the path are spelled by, in order. -/
structure SpellsPath (path : String) (rest : List Char) : Prop where
  plain : IsPlain rest
  start : ∀ c ∈ rest.head?, c.isLower = false
  spelled : ∃ parts, List.Forall₂ Spells (segments path) parts ∧ caseless rest = caseless parts.flatten

theorem caseless_pathText {path : String} (ascii : IsAscii path.toList) :
    caseless (raiseFirst (lowerCamel (pathText path))) = caseless (words (pathText path)).flatten := by
  have text := isAscii_pathText ascii
  rw [caseless_raiseFirst (isAscii_of_isPlain (isPlain_lowerCamel text)), caseless_lowerCamel text]

theorem pathText_spells {path : String} (ascii : IsAscii path.toList) (rooted : IsRooted path) :
    SpellsPath path (raiseFirst (lowerCamel (pathText path))) := by
  have plain := isPlain_lowerCamel (isAscii_pathText ascii)
  obtain ⟨parts, spells, same⟩ := exists_spelledAll (isAscii_segments ascii)
  refine ⟨isPlain_raiseFirst plain, head_raiseFirst (isAscii_of_isPlain plain), parts, spells, ?_⟩
  rw [caseless_pathText ascii, rooted.parts, same]

/-- The name of a verb on a path of ASCII from the root is the verb in lower case and, behind it, a text that spells
    the path. Paths that differ in empty segments only have the same name. -/
theorem pathName_spelled {verb path : String} (letters : ∀ c ∈ verb.toList, c.isAlpha = true)
    (ascii : IsAscii path.toList) (rooted : IsRooted path) :
    (∃ rest, pathName verb path = verb.toLower ++ String.ofList rest ∧ SpellsPath path rest) ∧
      ∀ other, IsRooted other → (segments other).filter (· ≠ []) = (segments path).filter (· ≠ []) →
        pathName verb other = pathName verb path := by
  constructor
  · have small : toLower verb.toList = verb.toLower.toList := by
      rw [toLower_eq fun c inside => ascii_of_isAlphanum (isAlphanum_of_isAlpha (letters c inside))]
      exact String.toList_map.symm
    refine ⟨_, ?_, pathText_spells ascii rooted⟩
    rw [rooted.named, lowerCamel_eq, small, String.ofList_append, String.ofList_toList]
  · intro other rooted' same
    rw [rooted.named, rooted'.named, rooted.parts, rooted'.parts, parts_given (segments other), same, ← parts_given]

/-- A path with segments of every kind: words with digits and in capitals, variables, one of them without a name and
    one that does not fill its segment, and empty segments. -/
def mixedPath : String := "/api2go//\x7bpet-Id\x7d/x\x7by\x7d/\x7b\x7d/HTTPv2/"

/-- The same path with its empty segments elsewhere. -/
def mixedPathAgain : String := "/api2go/\x7bpet-Id\x7d/x\x7by\x7d///\x7b\x7d/HTTPv2"

theorem pathName_spelled_mixed :
    (∀ c ∈ "GET".toList, c.isAlpha = true) ∧ IsAscii mixedPath.toList ∧ IsRooted mixedPath ∧
      IsRooted mixedPathAgain ∧
      (segments mixedPathAgain).filter (· ≠ []) = (segments mixedPath).filter (· ≠ []) ∧
      pathName "GET" mixedPath = "getApi2GoByPetIdXYByHttPv2" ∧
      (∃ rest, pathName "GET" mixedPath = "GET".toLower ++ String.ofList rest ∧ SpellsPath mixedPath rest) ∧
      pathName "GET" mixedPathAgain = pathName "GET" mixedPath := by
  have letters : ∀ c ∈ "GET".toList, c.isAlpha = true := List.all_eq_true.mp (by decide)
  have ascii : IsAscii mixedPath.toList := by decide
  have rooted : IsRooted mixedPath := by decide
  have again : IsRooted mixedPathAgain := by decide
  have same : (segments mixedPathAgain).filter (· ≠ []) = (segments mixedPath).filter (· ≠ []) := by decide +kernel
  obtain ⟨spelled, alike⟩ := pathName_spelled letters ascii rooted
  exact ⟨letters, ascii, rooted, again, same, by decide +kernel, spelled, alike _ again same⟩

end ApiBindings.PathNames
