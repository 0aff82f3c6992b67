import ApiBindings.Proofs.Headers
import ApiBindings.Proofs.Identifiers
import ApiBindings.Proofs.Members
import ApiBindings.Proofs.Survival

/-!
# String literals in the class template

The class template writes the domain of a document, the paths of its methods and the names of their parameters between
single quotes, each on a line of its own (`slots`). It writes them as they are, so what is read back there is the
string of the document exactly if that has no quotes, backslashes and line breaks (`literals_written`).
-/

namespace ApiBindings.ClassLiterals
open ApiBindings.Json ApiBindings.Document ApiBindings.View ApiBindings.Walks ApiBindings.Template
open ApiBindings.TypeScript ApiBindings.Text ApiBindings.Parts ApiBindings.Origins ApiBindings.LastWritten
open ApiBindings.ClassText ApiBindings.ClassNodes
open ApiBindings.Identifiers (forall_ascii forall_lowerCamel)
open ApiBindings.Bindings (bare bindings methods_parameters bucket_listed)
open ApiBindings.DerivedKeys (valuesIn valuesIn_append valuesIn_written members toEntries_eq)
open ApiBindings.Headers (IsPlain)
open ApiBindings.Literals (LiteralDenotes StandsBetween units units_cons units_append denotes_self pointUnits_length
  spelled_length spelled_self escape_shrinks)
open ApiBindings.Members (Leaves others_silent)
open ApiBindings.MethodNames (requests methods_answer)
open ApiBindings.Signatures (seen_held type_free untyped_or)

/-! ## Literals with something behind them -/

/-- A text begins with a string literal, whatever stands behind it, and the literal stands for some units. -/
def Begins (quote : Char) (cs : List Char) (us : List Nat) : Prop :=
  ∃ written rest, cs = written ++ rest ∧ LiteralDenotes quote written us

/-- Where a text stands between quotes and there are no quotes behind it, a literal for the text begins exactly if each
    of its characters stands for itself. -/
theorem begins_self {quote : Char} {cs behind : List Char} (quoteless : quote ∉ behind) :
    Begins quote (quote :: (cs ++ quote :: behind)) (units cs) ↔ ∀ c ∈ cs, StandsBetween quote c := by
  constructor
  · rintro ⟨_, rest, same, body, rfl, spelled⟩
    have cut : cs ++ quote :: behind = body ++ quote :: rest := by simpa using same
    have within : ∃ more, cs = body ++ more := by
      rcases List.append_eq_append_iff.mp cut with ⟨more, longer, tail⟩ | ⟨more, shorter, -⟩
      · cases more with
        | nil => exact ⟨[], by simpa using longer.symm⟩
        | cons c more =>
          -- The quote at the end of the literal would be one of those behind the text.
          obtain ⟨-, later⟩ := List.cons.inj tail
          exact absurd (by simp [later]) quoteless
      · exact ⟨more, shorter⟩
    obtain ⟨more, rfl⟩ := within
    cases more with
    | nil =>
      rw [List.append_nil] at spelled ⊢
      exact (spelled_self escape_shrinks body).mp spelled
    | cons c more =>
      -- A literal stands for no more than it is written with, so none that ends inside of the text stands for it.
      have short := (spelled_length escape_shrinks spelled).1
      have := (pointUnits_length c.toNat).1
      rw [units_append, units_cons, List.length_append, List.length_append] at short
      omega
  · exact fun plain => ⟨_, behind, by simp, (denotes_self quote cs).mpr plain⟩

/-! ## Names without quotes -/

theorem ofNat_quoteless {n : Nat} (other : n ≠ 39) : Char.ofNat n ≠ '\'' := by
  intro same
  have number : (Char.ofNat n).toNat = 39 := congrArg Char.toNat same
  by_cases valid : n.isValidChar
  · have written : (Char.ofNat n).toNat = n := congrArg Char.toNat (dif_pos valid)
    exact other (written.symm.trans number)
  · have written : (Char.ofNat n).toNat = 0 := congrArg Char.toNat (dif_neg valid)
    exact absurd (written.symm.trans number) (by decide)

/-- The shifts of a table lead to numbers beyond that of the quote. -/
def LeadsBeyond (table : Array (Span × Int)) : Prop :=
  ∀ e : Span × Int, e ∈ table.toList → 39 < (e.1.first : Int) + e.2

instance (table : Array (Span × Int)) : Decidable (LeadsBeyond table) := List.decidableBAll _ table.toList

theorem shifted_quoteless {table : Array (Span × Int)} (beyond : LeadsBeyond table) {c : Char} (other : c ≠ '\'') :
    shifted table c ≠ '\'' := by
  unfold shifted
  split
  · rename_i span d found
    have within : span.contains c.toNat = true :=
      Array.find?_some (p := fun e : Span × Int => e.1.contains c.toNat) found
    have far : 39 < (span.first : Int) + d := beyond _ (Array.mem_toList_iff.mpr (Array.mem_of_find?_eq_some found))
    simp only [Span.contains, Bool.and_eq_true, decide_eq_true_eq] at within
    exact ofNat_quoteless (by omega)
  · exact other

theorem lowerOf_quoteless {c : Char} (other : c ≠ '\'') : ∀ d ∈ lowerOf c, d ≠ '\'' := by
  unfold lowerOf
  split
  · rename_i ascii
    have kept := forall_ascii (P := fun c => c ≠ '\'' → c.toLower ≠ '\'') (by decide +kernel) ascii
    simpa using kept other
  · split
    · exact List.forall_mem_cons.mpr ⟨ofNat_quoteless (by decide),
        List.forall_mem_singleton.mpr (ofNat_quoteless (by decide))⟩
    · simpa using shifted_quoteless (by decide +kernel) other

theorem upperOf_quoteless {c : Char} (other : c ≠ '\'') : ∀ d ∈ upperOf c, d ≠ '\'' := by
  unfold upperOf
  split
  · rename_i ascii
    have kept := forall_ascii (P := fun c => c ≠ '\'' → c.toUpper ≠ '\'') (by decide +kernel) ascii
    simpa using kept other
  · split
    · rename_i number cs found
      have each : ∀ e ∈ upperExpansions.toList, ∀ n ∈ e.2, Char.ofNat n ≠ '\'' := by decide +kernel
      simpa using each _ (Array.mem_toList_iff.mpr (Array.mem_of_find?_eq_some found))
    · simpa using shifted_quoteless (by decide +kernel) other

/-- The camel case of a name has no quotes. -/
theorem camelCaseName_quoteless (name : String) : '\'' ∉ (camelCaseName name).toList := by
  have letter {c : Char} (alphanumeric : isAlphanumeric c = true) : c ≠ '\'' := by
    rintro rfl
    exact absurd alphanumeric (by decide +kernel)
  intro inside
  rw [camelCaseName, String.toList_ofList] at inside
  refine forall_lowerCamel (P := (· ≠ '\'')) (fun _ => by decide) (fun c _ alphanumeric => ?_)
    (fun c _ alphanumeric => ?_) _ inside rfl
  · exact lowerOf_quoteless (letter alphanumeric)
  · exact upperOf_quoteless (letter alphanumeric)

/-! ## Slots -/

/-- A line with a string of the document between quotes: what stands before them, the string, and what stands behind
    them to the end of the line. -/
structure Slot where
  before : String
  value : String
  behind : String

def Slot.text (slot : Slot) : String := slot.before ++ quoted slot.value ++ slot.behind

/-- The line from its first quote on. -/
def Slot.literal (slot : Slot) : List Char := (quoted slot.value ++ slot.behind).toList

/-- The domain is what a class calls if it is told nothing else. -/
def domainSlot (m : Model) : Slot :=
  ⟨"  constructor(private readonly domain: string = ", m.domain, ") \x7b\x7d\n"⟩

def pathSlot (m : Method) : Slot := ⟨"    let path = ", m.path, ";\n"⟩

/-- In the path of a request the name of a parameter stands between braces. -/
def placeSlot (v : ParameterView) : Slot :=
  ⟨"    path = path.replace(", "\x7b" ++ v.parameter.name ++ "\x7d",
    ", encodeURIComponent(String(" ++ v.camelCaseName ++ ")));\n"⟩

def querySlot (v : ParameterView) : Slot :=
  ⟨"    if (" ++ v.camelCaseName ++ " !== undefined) query.append(", v.parameter.name,
    ", String(" ++ v.camelCaseName ++ "));\n"⟩

def sentSlot (v : ParameterView) : Slot :=
  ⟨"    if (" ++ v.camelCaseName ++ " !== undefined) headers[", v.parameter.name,
    "] = String(" ++ v.camelCaseName ++ ");\n"⟩

def methodSlots (m : Method) : List Slot :=
  pathSlot m :: (m.byIn.path.map placeSlot ++ m.byIn.query.map querySlot ++ m.byIn.header.map sentSlot)

/-- The lines of a class with strings of the document between quotes, in order. -/
def slots (m : Model) : List Slot := domainSlot m :: m.methods.flatMap methodSlots

theorem slot_begins {slot : Slot} (quoteless : '\'' ∉ slot.behind.toList) :
    Begins '\'' slot.literal (units slot.value.toList) ↔ IsPlain slot.value := by
  have line : slot.literal = '\'' :: (slot.value.toList ++ '\'' :: slot.behind.toList) := by
    simp [Slot.literal, quoted]
  rw [line, begins_self quoteless, IsPlain]

/-! ## Lines of the template -/

/-- No type is attached under the keys by which the template names a parameter. To a 1.x document none is attached at
    all. -/
def Untouched (document : ApiBindings.Document) (o : Options) : Prop :=
  ∀ s, document = .specification s → o.converter = none ∨ o.typeKey ≠ "name" ∧ o.typeKey ≠ "camelCaseName"

theorem untouched_unconverted {document : ApiBindings.Document} {o : Options} (unconverted : o.converter = none) :
    Untouched document o := fun _ _ => .inl unconverted

/-- The template sees the names of a parameter. -/
structure ShowsNames (v : ParameterView) : Prop where
  name : nameText v = v.parameter.name
  argument : argumentText v = v.camelCaseName

section Lines
variable {m : Method} {v : ParameterView}

theorem placeLine_slot (shows : ShowsNames v) : placeLine v = (placeSlot v).text := by
  unfold placeLine placeSlot Slot.text
  rw [shows.name, shows.argument]
  dsimp only
  simp only [String.append_assoc]

theorem queryLine_slot (shows : ShowsNames v) : queryLine v = (querySlot v).text := by
  unfold queryLine querySlot Slot.text
  rw [shows.name, shows.argument]
  dsimp only
  simp only [String.append_assoc]

theorem sentLine_slot (shows : ShowsNames v) : sentLine v = (sentSlot v).text := by
  unfold sentLine sentSlot Slot.text
  rw [shows.name, shows.argument]
  dsimp only
  simp only [String.append_assoc]

theorem inOrder_lines {line : ParameterView → String} {slot : ParameterView → Slot} {list : List ParameterView}
    (same : ∀ v ∈ list, line v = (slot v).text) :
    InOrder ((list.map slot).map Slot.text) (String.join (list.map line)) := by
  rw [List.map_map, List.map_eq_flatMap]
  refine inOrder_join fun v inside => ?_
  rw [same v inside]
  exact inOrder_self _

/-- What a method has by location the template names as it is named. -/
def ShowsLocated (m : Method) : Prop := ∀ l, ∀ v ∈ m.byIn.bucket l, ShowsNames v

theorem statements_inOrder (shows : ShowsLocated m) : InOrder ((methodSlots m).map Slot.text) (statements m) := by
  have places : InOrder ((m.byIn.path.map placeSlot).map Slot.text) (String.join (m.byIn.path.map placeLine)) :=
    inOrder_lines fun v inside => placeLine_slot (shows .path v inside)
  have queries : InOrder ((m.byIn.query.map querySlot).map Slot.text) (String.join (m.byIn.query.map queryLine)) :=
    inOrder_lines fun v inside => queryLine_slot (shows .query v inside)
  have headers : InOrder ((m.byIn.header.map sentSlot).map Slot.text) (String.join (m.byIn.header.map sentLine)) :=
    inOrder_lines fun v inside => sentLine_slot (shows .header v inside)
  have path : InOrder [(pathSlot m).text] (pathLine m) := inOrder_self _
  have all := ((((path.append places).behind "    const query = new URLSearchParams();\n").append queries).behind
    (headersObject m)).append headers
  have listed : (methodSlots m).map Slot.text = [(pathSlot m).text] ++ (m.byIn.path.map placeSlot).map Slot.text ++
      (m.byIn.query.map querySlot).map Slot.text ++ (m.byIn.header.map sentSlot).map Slot.text := by
    simp [methodSlots]
  rw [listed]
  exact all.behind (sendText m)

theorem opening_inOrder (model : Model) : InOrder [(domainSlot model).text] (openingText model) := by
  have seam : " \x7b\n  constructor(private readonly domain: string = " =
      " \x7b\n" ++ "  constructor(private readonly domain: string = " := rfl
  have line := (inOrder_self (domainSlot model).text).before ("export class " ++ model.className ++ " \x7b\n")
  unfold domainSlot Slot.text at line ⊢
  unfold openingText
  rw [seam]
  simpa only [String.append_assoc] using line

/-- The lines with strings of the document stand in the text of a class in order. -/
theorem class_inOrder {model : Model} (shows : ∀ m ∈ model.methods, ShowsLocated m) (typeKey : String) :
    InOrder ((slots model).map Slot.text) (classText typeKey model) := by
  have block (m : Method) (member : m ∈ model.methods) :
      InOrder ((methodSlots m).map Slot.text) (blockText typeKey m) := (statements_inOrder (shows m member)).before _
  have blocks := inOrder_join block
  have opening : InOrder [(domainSlot model).text] (headText model) := (opening_inOrder model).before _
  have all := (opening.append blocks).behind "\x7d"
  rwa [← List.map_flatMap] at all

end Lines

/-! ## Names of parameters -/

section Names
variable {document : ApiBindings.Document} {o : Options} {p : Parameter} {v : ParameterView}

/-- A parameter that is read keeps nothing else under the key of its name. -/
theorem name_left {object : Value} (read : Parameter.shape object = .ok p) : Leaves p "name" := by
  obtain ⟨entries, -, holds⟩ := parameter_read read
  rw [Leaves, holds.others]
  intro there
  obtain ⟨e, inside, same⟩ := List.mem_map.mp there
  have unknown := (List.mem_filter.mp inside).2
  rw [same] at unknown
  exact absurd unknown (by decide)

/-- The template names a parameter as it is named, where no type stands under its names. -/
theorem showsNames_read {object : Value} (read : Parameter.shape object = .ok p) (untouched : Untouched document o)
    (shown : bare v = viewOf document o p) : ShowsNames v := by
  have untyped := untyped_or (p := p) untouched
  have nameFree := type_free shown (untyped.imp_right (·.1))
  have argumentFree := type_free shown (untyped.imp_right (·.2))
  have nameless := others_silent shown (name_left read)
  refine ⟨seen_held ?_, seen_held ?_⟩
  · have distinct : ((members v.parameter).map (·.1)).Nodup := by
      have keys : (members v.parameter).map (·.1) = Parameter.knownKeys := rfl
      exact keys ▸ by decide
    have listed : ("name", some (Value.string v.parameter.name)) ∈ members v.parameter := by simp [members]
    have known := valuesIn_written distinct listed
    simp only [ParameterView.toJson, ParameterView.addedEntries, held?_object, valuesIn_append, nameFree, toEntries_eq,
      known, nameless]
    simp
  · simp only [ParameterView.toJson, ParameterView.addedEntries, held?_object, valuesIn_append, argumentFree]
    simp

theorem name_shown (shown : bare v = viewOf document o p) : v.parameter.name = p.name := by
  have parameter : v.parameter = (viewOf document o p).parameter := congrArg (·.parameter) shown
  rw [parameter]
  cases document with
  | declaration d =>
    obtain ⟨others, same⟩ := Locations.of_parameter p (p.paramType.bind Location.ofParamType) o.untyped
    exact congrArg (·.name) same
  | specification s =>
    obtain ⟨others, same⟩ := Locations.of_parameter p (p.place.bind Location.ofIn) (o.computed s (.parameter p))
    exact congrArg (·.name) same

theorem camelCaseName_shown (shown : bare v = viewOf document o p) : v.camelCaseName = camelCaseName p.name := by
  have same : v.camelCaseName = (viewOf document o p).camelCaseName := congrArg (·.camelCaseName) shown
  rw [same]
  cases document <;> rfl

/-- The name of a parameter is the one that its object has. -/
theorem name_given {object : Value} (read : Parameter.shape object = .ok p) (shown : bare v = viewOf document o p) :
    object.get? "name" = some (.string v.parameter.name) := by
  obtain ⟨entries, rfl, holds⟩ := parameter_read read
  have listed : ("name", some (Value.string p.name)) ∈ members p := by simp [members]
  rw [name_shown shown]
  exact (Option.filter_eq_some_iff.mp (holds.optional listed (by decide)).symm).1

end Names

/-! ## Literals of a document -/

/-- What a document has for its domain. -/
def domainOf : ApiBindings.Document → String
  | .declaration d => d.basePath.getD ""
  | .specification s => s.domain

/-- A text of the class template has the strings of a document between quotes: its domain, and for each method the path
    and the names of parameters by location, as the objects of the document give them. Where such a string begins, a
    literal for it begins exactly if it has no quotes, backslashes and line breaks. -/
structure WritesLiterals (value : Value) (document : ApiBindings.Document) (model : Model) (text : String) :
    Prop where
  written : InOrder ((slots model).map Slot.text) text
  read : ∀ slot ∈ slots model, Begins '\'' slot.literal (units slot.value.toList) ↔ IsPlain slot.value
  domain : model.domain = domainOf document
  paths : model.methods.map (·.path) = (requests document).map (·.path)
  names : List.Forall₂ (List.Forall₂ fun object v => object.get? "name" = some (.string v.parameter.name))
    (boundObjects value) (model.methods.map (·.parameters))

section Document
variable {value : Value} {document : ApiBindings.Document} {o : Options} {model : Model}

theorem domain_kept (built : ofDocument document o = .ok model) : model.domain = domainOf document := by
  cases document with
  | declaration d =>
    cases built
    rfl
  | specification s =>
    obtain ⟨w, run, rfl⟩ := ok_of_map built
    rfl

theorem paths_kept (built : ofDocument document o = .ok model) :
    model.methods.map (·.path) = (requests document).map (·.path) := by
  rw [← List.forall₂_eq_eq_eq, List.forall₂_map_left_iff, List.forall₂_map_right_iff]
  exact (methods_answer built).flip.imp fun m r answers => answers.1

/-- Each parameter of a method is the view of one that is read from an object of the document. -/
theorem parameters_read (read : Document.ofValue value = .ok document) (built : ofDocument document o = .ok model) :
    List.Forall₂ (fun objects m => List.Forall₂ (fun object v =>
      ∃ p, Parameter.shape object = .ok p ∧ bare v = viewOf document o p) objects m.parameters)
      (boundObjects value) model.methods := by
  refine Survival.forall₂_trans ?_ (bindings_read (ok_of_mapError read)) (methods_parameters built)
  intro objects bound m shaped shown
  rw [← List.forall₂_eq_eq_eq, List.forall₂_map_left_iff, List.forall₂_map_right_iff] at shown
  exact Survival.forall₂_trans (fun _ p _ reads same => ⟨p, reads, same⟩) shaped shown.flip

theorem names_shown (read : Document.ofValue value = .ok document) (built : ofDocument document o = .ok model)
    (untouched : Untouched document o) : ∀ m ∈ model.methods, ShowsLocated m := by
  intro m member l v inside
  obtain ⟨objects, _, each⟩ := exists_of_forall₂ (parameters_read read built) member
  obtain ⟨object, _, p, shaped, shown⟩ := exists_of_forall₂ each (bucket_listed built member inside)
  exact showsNames_read shaped untouched shown

theorem argument_quoteless (built : ofDocument document o = .ok model) {m : Method} (member : m ∈ model.methods)
    {l : Location} {v : ParameterView} (inside : v ∈ m.byIn.bucket l) : '\'' ∉ v.camelCaseName.toList := by
  obtain ⟨bound, _, shown⟩ := exists_of_forall₂ (methods_parameters built) member
  have listed : bare v ∈ m.parameters.map bare := List.mem_map_of_mem (bucket_listed built member inside)
  obtain ⟨p, _, same⟩ := List.mem_map.mp (shown ▸ listed)
  rw [camelCaseName_shown same.symm]
  exact camelCaseName_quoteless p.name

/-- No quotes stand behind the strings on their lines. -/
theorem slots_quoteless (built : ofDocument document o = .ok model) :
    ∀ slot ∈ slots model, '\'' ∉ slot.behind.toList := by
  refine List.forall_mem_cons.mpr ⟨by simp [domainSlot], fun slot listed => ?_⟩
  obtain ⟨m, member, listed⟩ := List.mem_flatMap.mp listed
  have around {front back : String} (free : '\'' ∉ front.toList) (free' : '\'' ∉ back.toList) {l : Location}
      {v : ParameterView} (inside : v ∈ m.byIn.bucket l) : '\'' ∉ (front ++ v.camelCaseName ++ back).toList := by
    simp [free, free', argument_quoteless built member inside]
  rcases List.mem_cons.mp listed with rfl | listed
  · simp [pathSlot]
  · rw [List.mem_append, List.mem_append] at listed
    rcases listed with (listed | listed) | listed
    · obtain ⟨v, inside, rfl⟩ := List.mem_map.mp listed
      exact around (l := .path) (by decide) (by decide) inside
    · obtain ⟨v, inside, rfl⟩ := List.mem_map.mp listed
      exact around (l := .query) (by decide) (by decide) inside
    · obtain ⟨v, inside, rfl⟩ := List.mem_map.mp listed
      exact around (l := .header) (by decide) (by decide) inside

/-- The class template writes a text for every document, and puts the strings of the document between quotes as they
    are. -/
theorem literals_written (read : Document.ofValue value = .ok document) (built : ofDocument document o = .ok model)
    (untouched : Untouched document o) (typeKey : String) :
    ∃ text, model.render classTemplateName classTemplate typeKey = .ok text ∧
      WritesLiterals value document model text := by
  refine ⟨_, render_built built typeKey, ?_, ?_, domain_kept built, paths_kept built, ?_⟩
  · exact class_inOrder (names_shown read built untouched) typeKey
  · exact fun slot listed => slot_begins (slots_quoteless built slot listed)
  · rw [List.forall₂_map_right_iff]
    refine (parameters_read read built).imp fun objects m each => each.imp ?_
    rintro object v ⟨p, shaped, shown⟩
    exact name_given shaped shown

end Document

/-- A document with quotes in a path and a backslash in the name of a parameter. -/
def quotedPets : Value := .object [
  ("swagger", .string "2.0"), ("info", .object []), ("schemes", .array [.string "https"]),
  ("host", .string "pets.example"), ("basePath", .string "/v2"),
  ("paths", .object [("/pets('\x7bid\x7d')", .object [("get", .object [
    ("operationId", .string "readPet"),
    ("parameters", .array [
      .object [("name", .string "id"), ("in", .string "path"), ("required", .bool true)],
      .object [("name", .string "owner\\name"), ("in", .string "query")],
      .object [("name", .string "trace"), ("in", .string "header")]]),
    ("responses", .object [])])])])]

/-- The strings that the class template puts between quotes for it. -/
def quotedValues : List String :=
  ["https://pets.example/v2", "/pets('\x7bid\x7d')", "\x7bid\x7d", "owner\\name", "trace"]

theorem quotedPets_slots :
    ∃ document model, Document.ofValue quotedPets = .ok document ∧ ofDocument document .default = .ok model ∧
      (slots model).map (·.value) = quotedValues := by
  have read : Document.ofValue quotedPets = .ok (.specification _) := rfl
  exact ⟨_, _, read, rfl, by decide +kernel⟩

theorem literals_written_quoted :
    ∃ document model, Document.ofValue quotedPets = .ok document ∧ ofDocument document .default = .ok model ∧
      Untouched document .default ∧ (slots model).map (·.value) = quotedValues ∧
      ∃ text, model.render classTemplateName classTemplate "__type" = .ok text ∧
        WritesLiterals quotedPets document model text := by
  obtain ⟨document, model, read, built, values⟩ := quotedPets_slots
  have untouched : Untouched document .default := untouched_unconverted rfl
  exact ⟨document, model, read, built, untouched, values, literals_written read built untouched "__type"⟩

/-- A path with quotes is not read back where it is written, nor is a name with a backslash. -/
theorem quotedPets_misread :
    ∃ document model text, Document.ofValue quotedPets = .ok document ∧ ofDocument document .default = .ok model ∧
      model.render classTemplateName classTemplate "__type" = .ok text ∧
      InOrder ((slots model).map Slot.text) text ∧
      ∀ value ∈ ["/pets('\x7bid\x7d')", "owner\\name"],
        ∃ slot ∈ slots model, slot.value = value ∧ ¬ Begins '\'' slot.literal (units value.toList) := by
  obtain ⟨document, model, read, built, values⟩ := quotedPets_slots
  have shows := names_shown read built (untouched_unconverted rfl)
  refine ⟨document, model, _, read, built, render_built built "__type", class_inOrder shows "__type", ?_⟩
  intro value among
  have present : value ∈ (slots model).map (·.value) := by
    rw [values]
    exact (by decide : ["/pets('\x7bid\x7d')", "owner\\name"] ⊆ quotedValues) among
  obtain ⟨slot, listed, rfl⟩ := List.mem_map.mp present
  refine ⟨slot, listed, rfl, ?_⟩
  rw [slot_begins (slots_quoteless built slot listed)]
  have quotes : ∀ value ∈ ["/pets('\x7bid\x7d')", "owner\\name"], ¬ IsPlain value := by decide +kernel
  exact quotes slot.value among

end ApiBindings.ClassLiterals
