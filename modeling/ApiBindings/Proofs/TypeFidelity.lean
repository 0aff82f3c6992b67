import ApiBindings.Proofs.TypeSeparation

/-!
# Faithful types

Strings and names go into the text of a type without escapes. One stands for itself exactly if it needs none, and
schemas that differ in nothing but strings and names have different types as long as none of these holds the mark
that ends it (`types_faithful`).
-/

namespace ApiBindings.TypeFidelity
open ApiBindings.Json ApiBindings.TypeScript ApiBindings.TypeTexts ApiBindings.Literals ApiBindings.Parts
open ApiBindings.TypePieces ApiBindings.TypeSeparation
open ApiBindings.TypeGrammar (isNameChar)
open ApiBindings.TypeScript.Descriptor (fieldText)

/-! ## Schemas that are alike -/

/-- Two schemas stand at the same place directly inside of two others. -/
inductive Beside (a b : Entries) : Entries → Entries → Prop
  | under {key : String} {s t : Entries} (known : key ∈ ["items", "additionalProperties"])
      (left : schemaAt a key = some s) (right : schemaAt b key = some t) : Beside a b s t
  | field {f g : Field} {s t : Entries} (pair : (f, g) ∈ (fieldsOf a).zip (fieldsOf b)) (left : f.schema? = some s)
      (right : g.schema? = some t) : Beside a b s t

/-- Two schemas differ at most in the strings that they enumerate, in the names of their properties, in which of them
    they require, and in the schemas inside of them. -/
structure AlikeHere (a b : Entries) : Prop where
  texts : ∀ key ∈ ["$ref", "type", "format"], textOf? a key = textOf? b key
  values : (enumerated? a).map others = (enumerated? b).map others
  objects : Entries.has a "properties" = Entries.has b "properties"
  under : ∀ key ∈ ["items", "additionalProperties"], (schemaAt a key).isSome = (schemaAt b key).isSome
  fields : (fieldsOf a).map (·.schema?.isSome) = (fieldsOf b).map (·.schema?.isSome)

/-- Two schemas differ, at every depth, at most in the strings that they enumerate, in the names of their properties,
    and in which of them they require. -/
inductive Alike : Entries → Entries → Prop
  | intro {a b : Entries} (here : AlikeHere a b) (inside : ∀ s t, Beside a b s t → Alike s t) : Alike a b

/-! ## Types of schemas that are alike -/

section Alike

variable {a b : Entries}

theorem AlikeHere.reference (here : AlikeHere a b) : textOf? a "$ref" = textOf? b "$ref" :=
  here.texts "$ref" List.mem_cons_self

theorem enumeratesNone_alike (here : AlikeHere a b) : EnumeratesNone a ↔ EnumeratesNone b := by
  have values : enumerated? a = none ↔ enumerated? b = none := by
    rw [← Option.map_eq_none_iff (f := others), here.values, Option.map_eq_none_iff]
  rw [EnumeratesNone, EnumeratesNone, here.reference, values]

/-- Enumerated values are some. -/
theorem enumerated_cons {values : List Value} (enumerated : enumerated? a = some values) :
    ∃ v vs, values = v :: vs := by
  unfold enumerated? at enumerated
  split at enumerated
  next v rest _ =>
    cases enumerated
    exact ⟨v, rest, rfl⟩
  next => cases enumerated

/-- The types of schemas that are alike are found in one way, if not by enumerated values. -/
theorem readingOf_alike (here : AlikeHere a b) (bare : EnumeratesNone a) : readingOf a = readingOf b := by
  have bare' := (enumeratesNone_alike here).mp bare
  cases reference : textOf? b "$ref" with
  | some r => simp only [readingOf, here.reference.trans reference, reference]
  | none =>
    have types := here.texts "type" (by simp)
    have formats := here.texts "format" (by simp)
    simp only [readingOf, stringType, here.reference.trans reference, reference, bare (here.reference.trans reference),
      bare' reference, types, formats, here.objects]

theorem told_at {s? t? : Option Entries} (both : s?.isSome = t?.isSome)
    (inner : ∀ s t, s? = some s → t? = some t → Told (describe s).text (describe t).text (shown s) (shown t)) :
    Told (textAt s?) (textAt t?) (shownAt s?) (shownAt t?) := by
  match s?, t?, both with
  | none, none, _ => exact told_same _
  | some s, some t, _ => exact inner s t rfl rfl

/-- The values that schemas which are alike enumerate are given away by the texts of all of them. -/
theorem told_enumerated (here : AlikeHere a b) (given : ¬ EnumeratesNone a) :
    Told (describe a).text (describe b).text (shown a) (shown b) := by
  obtain ⟨values, reference, enumerated⟩ := enumerates_of_not given
  obtain ⟨values', reference', enumerated'⟩ := enumerates_of_not (mt (enumeratesNone_alike here).mpr given)
  have same := here.values
  rw [enumerated, enumerated', Option.map_some, Option.map_some, Option.some_inj] at same
  obtain ⟨v, vs, rfl⟩ := enumerated_cons enumerated
  obtain ⟨w, ws, rfl⟩ := enumerated_cons enumerated'
  obtain ⟨text, pieces⟩ := of_values reference enumerated
  obtain ⟨text', pieces'⟩ := of_values reference' enumerated'
  rw [text, text', pieces, pieces']
  exact told_values same

section Inside

variable (here : AlikeHere a b)
  (inner : ∀ s t, Beside a b s t → Told (describe s).text (describe t).text (shown s) (shown t))
include here inner

theorem told_under {key : String} (known : key ∈ ["items", "additionalProperties"]) :
    Told (textAt (schemaAt a key)) (textAt (schemaAt b key)) (shownAt (schemaAt a key))
      (shownAt (schemaAt b key)) :=
  told_at (here.under key known) fun s t left right => inner s t (.under known left right)

theorem determine_fieldsOf :
    List.Forall₂ (fun f g => Determine NoBar f.text g.text f.pieces g.pieces) (fieldsOf a) (fieldsOf b) := by
  have both := here.fields
  rw [← List.forall₂_eq_eq_eq, List.forall₂_map_left_iff, List.forall₂_map_right_iff] at both
  refine List.forall₂_iff_zip.mpr ⟨both.length_eq, fun {f g} pair => determine_field ?_⟩
  exact told_at (List.forall₂_zip both pair) fun s t left right => inner s t (.field pair left right)

/-- Of two objects that are alike either both name fields or neither does. -/
theorem told_object (reading : readingOf a = .object) (reading' : readingOf b = .object) :
    Told (describe a).text (describe b).text (shown a) (shown b) := by
  have each := determine_fieldsOf here inner
  by_cases empty : fieldsOf a = []
  · have empty' : fieldsOf b = [] := List.forall₂_nil_left_iff.mp (empty ▸ each)
    obtain ⟨text, pieces⟩ := of_record reading empty
    obtain ⟨text', pieces'⟩ := of_record reading' empty'
    rw [text, text', pieces, pieces']
    exact told_record (told_under here inner (by simp))
  · have given : fieldsOf b ≠ [] := fun empty' => empty (List.forall₂_nil_right_iff.mp (empty' ▸ each))
    obtain ⟨text, pieces⟩ := of_fields reading empty
    obtain ⟨text', pieces'⟩ := of_fields reading' given
    rw [text, text', pieces, pieces']
    exact told_fields each

theorem told_bare (bare : EnumeratesNone a) : Told (describe a).text (describe b).text (shown a) (shown b) := by
  have bare' := (enumeratesNone_alike here).mp bare
  have same := readingOf_alike here bare
  cases reading : readingOf a with
  | final d =>
    rw [reading] at same
    rw [describe_final reading, describe_final same.symm, shown_final reading, shown_final same.symm,
      enumeratedPieces_bare bare, enumeratedPieces_bare bare']
    exact told_same _
  | items =>
    rw [reading] at same
    rw [text_items reading, text_items same.symm, shown_items reading, shown_items same.symm]
    exact told_array (told_under here inner (by simp))
  | object => exact told_object here inner reading (same.symm.trans reading)

end Inside

/-- The texts of the types of schemas that are alike give their pieces away. -/
theorem told_alike (alike : Alike a b) : Told (describe a).text (describe b).text (shown a) (shown b) := by
  induction alike with
  | @intro a b here _ ih =>
    by_cases bare : EnumeratesNone a
    · exact told_bare here ih bare
    · exact told_enumerated here bare

end Alike

/-! ## Faithful types -/

/-- The text of the type of a schema has the strings and names of the schema in it, in order. One stands for itself
    exactly if it is plain, and is closed then. Schemas that are alike have another text if they have other strings or
    names, as long as all of those are closed. -/
structure Faithful (l : Lexicon) (schema : Entries) (text : String) : Prop where
  inOrder : InOrder ((shown schema).map Piece.written) text
  readsBack : ∀ p ∈ shown schema, p.ReadsBack l ↔ p.IsPlain l
  closed : ∀ p ∈ shown schema, p.ReadsBack l → p.IsClosed
  apart : ∀ other, Alike schema other → (∀ p ∈ shown schema, p.IsClosed) → (∀ p ∈ shown other, p.IsClosed) →
    (describe other).toJson.get? "tsType" = some (.string text) → shown schema = shown other

/-- The text that templates are given for the type of a schema is faithful to its strings and names, as far as those
    need no escapes. -/
theorem types_faithful (l : Lexicon) (schema : Entries) :
    ∃ text, (describe schema).toJson.get? "tsType" = some (.string text) ∧ Faithful l schema text := by
  refine ⟨(describe schema).text, toJson_tsType _, shown_inOrder schema, fun p _ => readsBack_iff l p,
    fun p _ reads => closed_of_plain ((readsBack_iff l p).mp reads), ?_⟩
  intro other alike closed closed' same
  rw [toJson_tsType, Option.some_inj, Value.string.injEq] at same
  have ends : NoBar [] := by simp [NoBar]
  exact ((told_alike alike).determine closed closed' [] [] ends ends (by rw [same])).1

/-- A lexicon without characters beyond ASCII, and without numbers. -/
def asciiLexicon : Lexicon := ⟨fun _ => false, fun _ => false, fun _ => none, nofun⟩

/-- A schema that enumerates strings. -/
def oneOf (texts : List String) : Entries := [("enum", .array (texts.map .string))]

/-- A schema with one property, which enumerates strings. -/
def withProperty (name : String) (texts : List String) : Entries :=
  [("properties", .object [(name, .object (oneOf texts))])]

theorem alike_oneOf (t u : String) (ts us : List String) : Alike (oneOf (t :: ts)) (oneOf (u :: us)) := by
  have values (t : String) (ts : List String) : (enumerated? (oneOf (t :: ts))).map others = some [] := by
    simp [enumerated?, oneOf, Entries.find?, Value.items?, others, Value.text?]
  have under (texts : List String) : ∀ key ∈ ["items", "additionalProperties"], schemaAt (oneOf texts) key = none := by
    simp [schemaAt, oneOf, Entries.find?, List.lookup_cons]
  have fields (texts : List String) : fieldsOf (oneOf texts) = [] := by
    simp [fieldsOf, schemaAt, oneOf, Entries.find?, List.lookup_cons]
  refine .intro ⟨?_, ?_, ?_, ?_, ?_⟩ fun _ _ beside => ?_
  · simp [textOf?, oneOf, Entries.find?, List.lookup_cons]
  · rw [values, values]
  · simp [oneOf, Entries.has]
  · intro key known
    rw [under _ key known, under _ key known]
  · rw [fields, fields]
  · cases beside with
    | under known left right => simp [under _ _ known] at left
    | field pair left right => simp [fields] at pair

theorem fieldsOf_withProperty (name : String) (texts : List String) :
    fieldsOf (withProperty name texts) = [⟨name, true, some (oneOf texts)⟩] := by
  simp [fieldsOf, schemaAt, requiredNames, withProperty, Entries.find?, Value.entries?, List.lookup_cons]

theorem alike_withProperty (n m t u : String) (ts us : List String) :
    Alike (withProperty n (t :: ts)) (withProperty m (u :: us)) := by
  have under (n : String) (texts : List String) :
      ∀ key ∈ ["items", "additionalProperties"], schemaAt (withProperty n texts) key = none := by
    simp [schemaAt, withProperty, Entries.find?, List.lookup_cons]
  refine .intro ⟨?_, ?_, ?_, ?_, ?_⟩ fun _ _ beside => ?_
  · simp [textOf?, withProperty, Entries.find?, List.lookup_cons]
  · simp [enumerated?, withProperty, Entries.find?, List.lookup_cons]
  · simp [withProperty, Entries.has]
  · intro key known
    rw [under _ _ key known, under _ _ key known]
  · simp [fieldsOf_withProperty]
  · cases beside with
    | under known left right => simp [under _ _ _ known] at left
    | field pair left right =>
      simp only [fieldsOf_withProperty, List.zip_cons_cons, List.zip_nil_right, List.mem_singleton] at pair
      cases pair
      cases left
      cases right
      exact alike_oneOf t u ts us

theorem of_oneOf (t : String) (ts : List String) :
    (describe (oneOf (t :: ts))).text = valuesText ((t :: ts).map .string) ∧
      shown (oneOf (t :: ts)) = (t :: ts).map .literal := by
  have reference : textOf? (oneOf (t :: ts)) "$ref" = none := by
    simp [textOf?, oneOf, Entries.find?, List.lookup_cons]
  have enumerated : enumerated? (oneOf (t :: ts)) = some ((t :: ts).map .string) := by
    simp [enumerated?, oneOf, Entries.find?, Value.items?]
  obtain ⟨text, pieces⟩ := of_values reference enumerated
  refine ⟨text, pieces.trans ?_⟩
  rw [List.flatMap_map, List.map_eq_flatMap]
  rfl

theorem of_withProperty (name t : String) (ts : List String) :
    (describe (withProperty name (t :: ts))).text =
        "\x7b " ++ fieldText name true (valuesText ((t :: ts).map .string)) ++ " \x7d" ∧
      shown (withProperty name (t :: ts)) = .name name true :: (t :: ts).map .literal := by
  have reading : readingOf (withProperty name (t :: ts)) = .object := by
    simp [readingOf, textOf?, enumerated?, withProperty, Entries.find?, Entries.has, List.lookup_cons]
  obtain ⟨text, pieces⟩ := of_fields reading (by simp [fieldsOf_withProperty])
  obtain ⟨inner, innerPieces⟩ := of_oneOf t ts
  rw [text, pieces, fieldsOf_withProperty]
  constructor
  · simp [Field.text, textAt, inner]
  · simp [Field.pieces, shownAt, innerPieces]

/-- Two schemas that are alike, whose strings and names are plain: their types differ. -/
theorem types_faithful_kinds :
    ∃ text, (describe (withProperty "kind" ["a|b"])).toJson.get? "tsType" = some (.string text) ∧
      Faithful asciiLexicon (withProperty "kind" ["a|b"]) text ∧
      (∀ p ∈ shown (withProperty "kind" ["a|b"]), p.ReadsBack asciiLexicon) ∧
      (describe (withProperty "sort" ["a", "b"])).toJson.get? "tsType" ≠ some (.string text) := by
  obtain ⟨text, written, faithful⟩ := types_faithful asciiLexicon (withProperty "kind" ["a|b"])
  have plain : ∀ p ∈ [Piece.name "kind" true, .literal "a|b"], p.IsPlain asciiLexicon := by
    have letters : ∀ c ∈ "kind".toList, isNameChar c = true := by simp [isNameChar]
    have name : (Piece.name "kind" true).IsPlain asciiLexicon :=
      .inl ⟨⟨'k', by simp, .inl (by decide)⟩, fun c inside => .inl (letters c inside)⟩
    have literal : (Piece.literal "a|b").IsPlain asciiLexicon :=
      show ∀ c ∈ "a|b".toList, StandsBetween '"' c by simp [StandsBetween]
    simpa using ⟨name, literal⟩
  have pieces := (of_withProperty "kind" "a|b" []).2
  have pieces' := (of_withProperty "sort" "a" ["b"]).2
  refine ⟨text, written, faithful, fun p member => (faithful.readsBack p member).mpr (plain p (pieces ▸ member)), ?_⟩
  intro same
  have equal := faithful.apart _ (alike_withProperty "kind" "sort" "a|b" "a" [] ["b"])
    (fun p member => closed_of_plain (plain p (pieces ▸ member))) ?_ same
  · rw [pieces, pieces'] at equal
    simp at equal
  · rw [pieces']
    simp [Piece.IsClosed]

/-- Without escapes two schemas that are alike come to have one text, `{ x-y?: "a" | "b" }`, in which neither the name
    of the one nor its string stands for itself. -/
theorem escapes_missing :
    Alike (withProperty "x-y" ["a\" | \"b"]) (withProperty "x-y" ["a", "b"]) ∧
      shown (withProperty "x-y" ["a\" | \"b"]) ≠ shown (withProperty "x-y" ["a", "b"]) ∧
      (∃ text, (describe (withProperty "x-y" ["a\" | \"b"])).toJson.get? "tsType" = some (.string text) ∧
        (describe (withProperty "x-y" ["a", "b"])).toJson.get? "tsType" = some (.string text)) ∧
      ∀ p ∈ shown (withProperty "x-y" ["a\" | \"b"]), ∀ l, ¬ p.ReadsBack l := by
  obtain ⟨text, pieces⟩ := of_withProperty "x-y" "a\" | \"b" []
  obtain ⟨text', pieces'⟩ := of_withProperty "x-y" "a" ["b"]
  refine ⟨alike_withProperty _ _ _ _ _ _, ?_, ⟨_, toJson_tsType _, ?_⟩, ?_⟩
  · rw [pieces, pieces']
    simp
  · rw [toJson_tsType, text, text']
    simp [valuesText, literalText]
  · have name (l : Lexicon) : ¬ (Piece.name "x-y" true).IsPlain l := by
      rintro (⟨-, parts⟩ | value)
      · rcases parts '-' (by simp) with letter | ⟨beyond, -⟩
        · cases letter
        · exact absurd beyond (by decide)
      · obtain ⟨⟨c, first, digit⟩, -⟩ := l.numeral_spelled value
        cases first
        exact absurd digit (by decide)
    have literal (l : Lexicon) : ¬ (Piece.literal "a\" | \"b").IsPlain l := fun plain => (plain '"' (by simp)).1 rfl
    rw [pieces]
    simp only [readsBack_iff, List.map_cons, List.map_nil, List.forall_mem_cons]
    exact ⟨name, literal, by simp⟩

end ApiBindings.TypeFidelity
