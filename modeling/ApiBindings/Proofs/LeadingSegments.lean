import ApiBindings.Proofs.PathNames

/-!
# Leading segments

What becomes of the first segment of a path that does not begin with a slash. The words of a path are those of all its
segments but the first (`segments_eq`), so that the name of such a path is the one of what stands from its first slash
on, and the one that it has with a slash before it only if its first segment has no words to give
(`pathName_unrooted`).
-/

namespace ApiBindings.LeadingSegments
open ApiBindings.Text ApiBindings.Identifiers ApiBindings.PathNames

/-! ## The first segment -/

/-- What stands before the first slash of a path. -/
def firstSegment (path : String) : List Char := path.toList.takeWhile (· ≠ '/')

/-- What stands from the first slash of a path on. -/
def fromFirstSlash (path : String) : String := String.ofList (path.toList.dropWhile (· ≠ '/'))

theorem splitOn_first (cs : List Char) :
    cs.splitOn '/' = cs.takeWhile (· ≠ '/') :: ((cs.dropWhile (· ≠ '/')).splitOn '/').drop 1 := by
  simp only [List.splitOn_eq_splitOnP]
  induction cs with
  | nil => rfl
  | cons c rest ih =>
    by_cases slash : c = '/'
    · simp [slash, List.splitOnP_cons_eq_if_modifyHead]
    · rw [List.splitOnP_cons_eq_if_modifyHead, ih]
      simp [slash]

/-- What stands from the first slash on has the segments of the path, save for the first one. -/
theorem segments_eq (path : String) : segments path = firstSegment path :: (segments (fromFirstSlash path)).drop 1 := by
  rw [segments, segments, fromFirstSlash, String.toList_ofList]
  exact splitOn_first path.toList

theorem words_fromFirstSlash (path : String) : words (pathText (fromFirstSlash path)) = words (pathText path) := by
  rw [words_pathText, words_pathText, segments_eq path, List.drop_succ_cons, List.drop_zero]

theorem isRooted_slash {path : String} (given : path ≠ "") : IsRooted ("/" ++ path) where
  begins := by simp
  below same := given (by simpa using congrArg (fun s => s.toList.tail) same)

theorem words_slash {path : String} (given : path ≠ "") :
    words (pathText ("/" ++ path)) = segmentParts (firstSegment path) ++ words (pathText path) := by
  have parts : segments ("/" ++ path) = [] :: segments path := by
    rw [segments, String.toList_append]
    exact List.splitOnP_append_cons [] path.toList (beq_self_eq_true '/')
  rw [(isRooted_slash given).parts, parts, segments_eq path, words_pathText, segments_eq path]
  simp

/-! ## Segments without words -/

/-- A segment has no words to give: it has neither letters nor numbers, and does not stand in braces. -/
structure IsWordless (segment : List Char) : Prop where
  unlettered : ∀ c ∈ segment, isAlphanumeric c = false
  bare : ∀ name, segment ≠ '\x7b' :: (name ++ ['\x7d'])

theorem flatten_segmentParts (segment : List Char) :
    (segmentParts segment).flatten = (segmentWords segment).filter isAlphanumeric := by
  rw [segmentParts, flatten_words, filter_breakDigits]

theorem segmentWords_bare {segment : List Char} (bare : ∀ name, segment ≠ '\x7b' :: (name ++ ['\x7d'])) :
    segmentWords segment = segment := by
  have braces : inBraces? segment = none := by
    rw [Option.eq_none_iff_forall_ne_some]
    exact fun name braced => bare name (inBraces?_eq_some.mp braced)
  rw [segmentWords, braces]

theorem words_unlettered {s : List Char} (unlettered : ∀ c ∈ s, isAlphanumeric c = false) : words s = [] := by
  induction s with
  | nil => rfl
  | cons c rest ih =>
    obtain ⟨mark, later⟩ := List.forall_mem_cons.mp unlettered
    exact (words_before mark [] rest).trans (ih later)

theorem segmentParts_wordless {segment : List Char} (wordless : IsWordless segment) : segmentParts segment = [] := by
  refine words_unlettered ?_
  have none : (breakDigits (segmentWords segment)).filter isAlphanumeric = [] := by
    rw [filter_breakDigits, segmentWords_bare wordless.bare, List.filter_eq_nil_iff]
    exact fun c inside => by simp [wordless.unlettered c inside]
  exact fun c inside => by simpa using List.filter_eq_nil_iff.mp none c inside

theorem wordless_of_flatten {segment : List Char} (none : (segmentParts segment).flatten = []) :
    IsWordless segment := by
  rw [flatten_segmentParts, List.filter_eq_nil_iff] at none
  have bare : ∀ name, segment ≠ '\x7b' :: (name ++ ['\x7d']) := by
    intro name braced
    have by_word : 'b' ∈ segmentWords segment := by
      rw [segmentWords, inBraces?_eq_some.mpr braced]
      exact List.mem_cons_self
    exact absurd (by decide +kernel) (none 'b' by_word)
  refine ⟨?_, bare⟩
  rw [segmentWords_bare bare] at none
  exact fun c inside => by simpa using none c inside

/-! ## Names without the first segment -/

section Unrooted

variable {path : String} (given : path ≠ "") (unrooted : path.toList.head? ≠ some '/')
include given unrooted

theorem pathName_unrooted_words (verb : String) :
    pathName verb path = String.ofList (toLower verb.toList ++ raiseFirst (runTogether (words (pathText path)))) := by
  refine pathName_words verb given ?_
  rintro rfl
  exact unrooted rfl

/-- The name is told by what stands from the first slash on. -/
theorem pathName_fromFirstSlash (verb : String) :
    pathName verb path =
      if fromFirstSlash path = "" ∨ fromFirstSlash path = "/" then String.ofList (toLower verb.toList)
      else pathName verb (fromFirstSlash path) := by
  rw [pathName_unrooted_words given unrooted, ← words_fromFirstSlash]
  split
  · rename_i root
    have none : words (pathText (fromFirstSlash path)) = [] := by
      rcases root with same | same <;> rw [same] <;> rfl
    rw [none]
    simp [runTogether, raiseFirst]
  · rename_i inner
    obtain ⟨given', below'⟩ := not_or.mp inner
    rw [pathName_words verb given' below']

/-- A slash before the path changes nothing if the first segment has no words to give. -/
theorem pathName_slash (verb : String) (wordless : IsWordless (firstSegment path)) :
    pathName verb path = pathName verb ("/" ++ path) := by
  rw [pathName_unrooted_words given unrooted, (isRooted_slash given).named, words_slash given,
    segmentParts_wordless wordless, List.nil_append]

/-- For a path of ASCII a slash before it changes nothing only then: the letters and digits of the name, in any case,
    are those of the path with those of the first segment before them. -/
theorem wordless_of_pathName {verb : String} (ascii : IsAscii path.toList)
    (same : pathName verb path = pathName verb ("/" ++ path)) : IsWordless (firstSegment path) := by
  have slash : IsAscii "/".toList := by decide
  have ascii' : IsAscii ("/" ++ path).toList := by
    rw [String.toList_append]
    exact List.forall_mem_append.mpr ⟨slash, ascii⟩
  rw [pathName_unrooted_words given unrooted, (isRooted_slash given).named] at same
  have rest := List.append_cancel_left (String.ofList_injective same)
  rw [← lowerCamel_eq, ← lowerCamel_eq] at rest
  have letters := congrArg caseless rest
  rw [caseless_pathText ascii, caseless_pathText ascii', words_slash given, List.flatten_append,
    caseless_append] at letters
  have none : caseless (segmentParts (firstSegment path)).flatten = [] := List.self_eq_append_left.mp letters
  exact wordless_of_flatten (by simpa [caseless] using none)

end Unrooted

/-- The name of a path that does not begin with a slash is the one of what stands from its first slash on, or the verb
    in lower case if that is nothing or a slash alone. With a slash before the path the name is the same if the first
    segment has no words to give, and for a path of ASCII only then. -/
theorem pathName_unrooted (verb : String) {path : String} (given : path ≠ "")
    (unrooted : path.toList.head? ≠ some '/') :
    (pathName verb path =
      if fromFirstSlash path = "" ∨ fromFirstSlash path = "/" then String.ofList (toLower verb.toList)
      else pathName verb (fromFirstSlash path)) ∧
    (IsWordless (firstSegment path) → pathName verb path = pathName verb ("/" ++ path)) ∧
    (IsAscii path.toList → pathName verb path = pathName verb ("/" ++ path) → IsWordless (firstSegment path)) :=
  ⟨pathName_fromFirstSlash given unrooted verb, pathName_slash given unrooted verb,
    wordless_of_pathName given unrooted⟩

/-- The name of `./pets` is the one of `/pets` and the one of `/./pets`, since a dot is no word. -/
theorem pathName_unrooted_dot :
    pathName "get" "./pets" = pathName "get" "/pets" ∧ pathName "get" "./pets" = pathName "get" "/./pets" ∧
      IsWordless (firstSegment "./pets") := by
  have first : firstSegment "./pets" = ['.'] := by decide +kernel
  have inner : fromFirstSlash "./pets" = "/pets" := by decide +kernel
  have wordless : IsWordless (firstSegment "./pets") := by
    rw [first]
    exact ⟨List.forall_mem_singleton.mpr (by decide +kernel), fun name same => by simp at same⟩
  obtain ⟨named, kept, only⟩ := @pathName_unrooted "get" "./pets" (by decide) (by decide)
  rw [inner, if_neg (by decide)] at named
  exact ⟨named, kept wordless, only (by decide +kernel) (kept wordless)⟩

/-- A path that does not begin with a slash loses the words of its first segment. -/
theorem users_lost : ¬ ∀ verb path : String, path ≠ "" → path.toList.head? ≠ some '/' →
    pathName verb path = pathName verb ("/" ++ path) := by
  intro kept
  have same := kept "get" "users/\x7bid\x7d" (by decide) (by decide)
  have unlike : pathName "get" "users/\x7bid\x7d" ≠ pathName "get" ("/" ++ "users/\x7bid\x7d") := by decide +kernel
  exact unlike same

end ApiBindings.LeadingSegments
