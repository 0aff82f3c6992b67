import ApiBindings.Proofs.Bindings

/-!
# Names of shared parameters

Which shared parameter a reference stands for. A reference gives one by its bare name or by its place,
`#/parameters/` with the name behind it. It is taken for the third of its pieces between slashes, whatever the other
pieces say (`takenFor_iff`), so that a reference to another file or to another section may be mistaken for one to a
shared parameter; where none is, references resolve as they are given (`references_resolved`).
-/

namespace ApiBindings.SharedNames
open ApiBindings.Document ApiBindings.View ApiBindings.Walks ApiBindings.Bindings ApiBindings.References

/-! ## Pieces between slashes -/

/-- A text without slashes. -/
def IsPiece (s : String) : Prop := '/' ∉ s.toList

/-- A reference gives a shared parameter: by its bare name, or by its place among the shared parameters. -/
def Gives (target name : String) : Prop := target = name ∨ target = "#/parameters/" ++ name

/-- What a reference is taken for. -/
inductive TakenFor : String → String → Prop
  /-- A text without slashes is a name. -/
  | bare {name : String} (piece : IsPiece name) : TakenFor name name
  /-- With one slash there is no name. -/
  | none {file part : String} (before : IsPiece file) (behind : IsPiece part) : TakenFor (file ++ "/" ++ part) ""
  /-- Behind two slashes stands the name. Neither what they part nor what a third one parts from it counts. -/
  | third {file part name more : String} (before : IsPiece file) (between : IsPiece part) (behind : IsPiece name)
      (ends : more = "" ∨ ∃ rest, more = "/" ++ rest) : TakenFor (file ++ "/" ++ part ++ "/" ++ name ++ more) name

theorem pieces_alone {cs : List Char} (piece : '/' ∉ cs) : Text.pieces (· = '/') cs = [cs] := by
  induction cs with
  | nil => rfl
  | cons c rest ih =>
    obtain ⟨other, later⟩ := not_or.mp (mt List.mem_cons.mpr piece)
    simp [Text.pieces, Ne.symm other, ih later]

theorem pieces_before {front : List Char} (piece : '/' ∉ front) (back : List Char) :
    Text.pieces (· = '/') (front ++ '/' :: back) = front :: Text.pieces (· = '/') back := by
  induction front with
  | nil => simp [Text.pieces]
  | cons c rest ih =>
    obtain ⟨other, later⟩ := not_or.mp (mt List.mem_cons.mpr piece)
    simp [Text.pieces, Ne.symm other, ih later]

/-- A text is one piece, or one piece with another text behind a slash. -/
theorem piece_or_before (s : String) : IsPiece s ∨ ∃ file rest, IsPiece file ∧ s = file ++ "/" ++ rest := by
  by_cases slash : '/' ∈ s.toList
  · obtain ⟨front, back, parts, none⟩ := List.eq_append_cons_of_mem slash
    refine .inr ⟨String.ofList front, String.ofList back, by simpa [IsPiece] using none, ?_⟩
    rw [← String.toList_inj, parts]
    simp
  · exact .inl slash

theorem sharedParameterName_of_taken {target name : String} (taken : TakenFor target name) :
    sharedParameterName target = name := by
  cases taken with
  | bare piece => simp [sharedParameterName, pieces_alone piece]
  | @none file part before behind =>
    have text : (file ++ "/" ++ part).toList = file.toList ++ '/' :: part.toList := by simp
    rw [sharedParameterName, text, pieces_before before, pieces_alone behind]
  | @third file part name more before between behind ends =>
    have text : (file ++ "/" ++ part ++ "/" ++ name ++ more).toList =
        file.toList ++ '/' :: (part.toList ++ '/' :: (name.toList ++ more.toList)) := by simp
    rw [sharedParameterName, text, pieces_before before, pieces_before between]
    rcases ends with rfl | ⟨rest, rfl⟩
    · simp [pieces_alone behind]
    · have last : name.toList ++ ("/" ++ rest).toList = name.toList ++ '/' :: rest.toList := by simp
      rw [last, pieces_before behind]
      simp

/-- Every reference is taken for something. -/
theorem exists_taken (target : String) : ∃ name, TakenFor target name := by
  obtain piece | ⟨file, rest, before, rfl⟩ := piece_or_before target
  · exact ⟨target, .bare piece⟩
  obtain piece | ⟨part, rest, between, rfl⟩ := piece_or_before rest
  · exact ⟨"", .none before piece⟩
  obtain piece | ⟨name, rest, behind, rfl⟩ := piece_or_before rest
  · exact ⟨rest, by simpa [String.append_assoc] using TakenFor.third before between piece (.inl rfl)⟩
  · exact ⟨name, by simpa [String.append_assoc] using TakenFor.third before between behind (.inr ⟨rest, rfl⟩)⟩

theorem takenFor_iff (target name : String) : TakenFor target name ↔ sharedParameterName target = name := by
  constructor
  · exact sharedParameterName_of_taken
  · rintro rfl
    obtain ⟨name, taken⟩ := exists_taken target
    rwa [sharedParameterName_of_taken taken]

/-- A name that holds a slash is never what a reference is taken for. -/
theorem taken_piece {target name : String} (taken : TakenFor target name) : IsPiece name := by
  cases taken with
  | bare piece => exact piece
  | none => simp [IsPiece]
  | third _ _ behind => exact behind

/-- A reference that gives a name without slashes is taken for it. -/
theorem taken_of_gives {target name : String} (gives : Gives target name) (piece : IsPiece name) :
    TakenFor target name := by
  rcases gives with rfl | rfl
  · exact .bare piece
  · have place := @TakenFor.third "#" "parameters" name "" (by simp [IsPiece]) (by simp [IsPiece]) piece (.inl rfl)
    simpa [String.append_assoc] using place

/-! ## Resolution -/

/-- The names of the shared parameters of a document. -/
abbrev names (s : Specification) : List String := s.parameters.map (·.1)

/-- A reference is mistaken: it is taken for a shared parameter that it does not give. -/
def Mistaken (s : Specification) (target : String) : Prop :=
  ∃ name ∈ names s, TakenFor target name ∧ ¬ Gives target name

/-- The parameter that a document has under a name that a reference gives. -/
def Given (s : Specification) (target : String) (p : Parameter) : Prop :=
  ∃ name, Gives target name ∧ s.parameters.lookup name = some p

/-- A reference finds the parameter under the name it is taken for, which holds no slash, and is reported as a whole
    if there is none. As long as no shared parameter has a name with a slash, it finds what it gives and nothing
    else, unless it is mistaken. -/
structure Resolves (s : Specification) (target : String) (result : Except UnresolvedReference Parameter) : Prop where
  found : ∀ p, result = .ok p ↔ ∃ name, TakenFor target name ∧ s.parameters.lookup name = some p
  reported : ∀ e, result = .error e ↔ e = ⟨target⟩ ∧ ∀ name, TakenFor target name → name ∉ names s
  pieces : ∀ name, TakenFor target name → IsPiece name
  given : (∀ name ∈ names s, IsPiece name) → ((∀ p, result = .ok p ↔ Given s target p) ↔ ¬ Mistaken s target)

theorem mem_names {s : Specification} {name : String} :
    name ∈ names s ↔ ∃ p, s.parameters.lookup name = some p := by
  rw [← lookup_isSome_keys, Option.isSome_iff_exists]

section Results

variable {s : Specification} {target : String} {result : Except UnresolvedReference Parameter}
  (found : ∀ p, result = .ok p ↔ ∃ name, TakenFor target name ∧ s.parameters.lookup name = some p)
include found

/-- What a reference gives it finds, under a name without slashes. -/
theorem found_of_given (free : ∀ name ∈ names s, IsPiece name) {p : Parameter} (given : Given s target p) :
    result = .ok p := by
  obtain ⟨name, gives, stored⟩ := given
  exact (found p).mpr ⟨name, taken_of_gives gives (free name (mem_names.mpr ⟨p, stored⟩)), stored⟩

/-- A mistaken reference finds what it does not give. -/
theorem found_mistaken (free : ∀ name ∈ names s, IsPiece name) (mistaken : Mistaken s target) :
    ∃ p, result = .ok p ∧ ¬ Given s target p := by
  obtain ⟨name, known, taken, other⟩ := mistaken
  obtain ⟨p, stored⟩ := mem_names.mp known
  refine ⟨p, (found p).mpr ⟨name, taken, stored⟩, ?_⟩
  rintro ⟨name', gives, stored'⟩
  have taken' := taken_of_gives gives (free name' (mem_names.mpr ⟨p, stored'⟩))
  rw [takenFor_iff] at taken taken'
  rw [← taken'.symm.trans taken] at other
  exact other gives

theorem given_iff (free : ∀ name ∈ names s, IsPiece name) :
    (∀ p, result = .ok p ↔ Given s target p) ↔ ¬ Mistaken s target := by
  constructor
  · intro same mistaken
    obtain ⟨p, resolved, other⟩ := found_mistaken found free mistaken
    exact other ((same p).mp resolved)
  · intro right p
    refine ⟨fun resolved => ?_, found_of_given found free⟩
    obtain ⟨name, taken, stored⟩ := (found p).mp resolved
    refine ⟨name, by_contra fun other => right ?_, stored⟩
    exact ⟨name, mem_names.mpr ⟨p, stored⟩, taken, other⟩

end Results

theorem resolve_resolves (s : Specification) (target : String) (excluded : Option Bool)
    (proxyHeader : Option Json.Value) : Resolves s target (resolve s (.reference target excluded proxyHeader)) := by
  have found (p : Parameter) : resolve s (.reference target excluded proxyHeader) = .ok p ↔
      ∃ name, TakenFor target name ∧ s.parameters.lookup name = some p := by
    simp only [takenFor_iff, exists_eq_left', resolve]
    cases s.parameters.lookup (sharedParameterName target) <;> simp
  refine ⟨found, fun e => ?_, fun name => taken_piece, given_iff found⟩
  simp only [takenFor_iff, forall_eq', mem_names, resolve]
  cases s.parameters.lookup (sharedParameterName target) <;> simp [eq_comm]

/-- A reference that the walk over a document has to resolve finds the parameter that it is taken for. Where it is
    taken for none no view can be built. -/
theorem references_resolved {s : Specification} {target : String} {excluded : Option Bool}
    {proxyHeader : Option Json.Value} (visited : .reference target excluded proxyHeader ∈ visitedEntries s)
    (inside : ¬ KeptOut excluded proxyHeader) :
    Resolves s target (resolve s (.reference target excluded proxyHeader)) ∧
      ∀ o, (∃ e, resolve s (.reference target excluded proxyHeader) = .error e) →
        ∃ e, ofDocument (.specification s) o = .error e := by
  refine ⟨resolve_resolves s target excluded proxyHeader, ?_⟩
  rintro o ⟨e, failed⟩
  cases built : ofDocument (.specification s) o with
  | error failure => exact ⟨failure, rfl⟩
  | ok model =>
    obtain ⟨p, stands⟩ := visited_resolved built visited inside
    obtain ⟨-, unknown⟩ := ((resolve_resolves s target excluded proxyHeader).reported e).mp failed
    exact absurd (mem_names.mpr ⟨p, stands⟩) (unknown _ ((takenFor_iff _ _).mpr rfl))

/-- A document with one shared parameter and an operation with references. -/
def withReferences (targets : List String) : Specification :=
  { pathsOnly [("/pets", ⟨[], [(.get, { blankOperation with
      parameters := targets.map fun target => .reference target none none })]⟩)] with
    parameters := [("limit", plainParameter "limit" (some "query"))] }

/-- A reference to a shared parameter of the document itself finds it, and is not mistaken. -/
theorem references_resolved_place :
    .reference "#/parameters/limit" none none ∈ visitedEntries (withReferences ["#/parameters/limit"]) ∧
      ¬ KeptOut none none ∧
      Resolves (withReferences ["#/parameters/limit"]) "#/parameters/limit"
        (.ok (plainParameter "limit" (some "query"))) ∧
      ¬ Mistaken (withReferences ["#/parameters/limit"]) "#/parameters/limit" := by
  have visited : .reference "#/parameters/limit" none none ∈ visitedEntries (withReferences ["#/parameters/limit"]) :=
    List.mem_singleton_self _
  have inside : ¬ KeptOut none none := by decide
  refine ⟨visited, inside, (references_resolved visited inside).1, ?_⟩
  rintro ⟨name, known, -, other⟩
  obtain rfl : name = "limit" := by simpa [names, withReferences] using known
  exact other (.inr rfl)

/-- References to a definition, to a shared parameter of another file, and to a part of a shared parameter. -/
def foreignTargets : List String :=
  ["#/definitions/limit", "common.json#/parameters/limit", "#/parameters/limit/schema"]

/-- They all find a shared parameter of the document itself, though they give none of it. -/
theorem foreign_found :
    ∃ model, ofDocument (.specification (withReferences foreignTargets)) .default = .ok model ∧
      (model.methods.map fun m => m.parameters.map (·.camelCaseName)) = [["limit", "limit", "limit"]] ∧
      ∀ target ∈ foreignTargets, ∀ p, ¬ Given (withReferences foreignTargets) target p := by
  have foreign : ∀ target ∈ foreignTargets, target ≠ "limit" ∧ target ≠ "#/parameters/limit" := by decide
  refine ⟨modelOf (withReferences foreignTargets) .default _, rfl, by decide +kernel, ?_⟩
  rintro target member p ⟨name, gives, stored⟩
  have known := mem_names.mpr ⟨p, stored⟩
  obtain rfl : name = "limit" := by simpa [names, withReferences] using known
  exact gives.elim (foreign target member).1 (foreign target member).2

end ApiBindings.SharedNames
