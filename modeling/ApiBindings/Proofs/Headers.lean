import ApiBindings.Proofs.ClassNodes
import ApiBindings.Proofs.Literals
import ApiBindings.Proofs.Parts

/-!
# Headers in the class template

The media types of an operation become the values of headers, and the class template writes a line for each header
into an object. In a 2.0 document a value is one string literal, however many types there are; in a 1.x document each
type is a literal of its own, so that a value is one literal where there is one type (`headers_written`).
-/

namespace ApiBindings.Headers
open ApiBindings.View ApiBindings.Document ApiBindings.ClassText ApiBindings.ClassNodes
open ApiBindings.TypeScript ApiBindings.Walks ApiBindings.Parts
open ApiBindings.Literals (StandsBetween)

/-! ## String literals -/

/-- A text whose characters stand for themselves between single quotes: it has no quotes, backslashes and line
    breaks. -/
def IsPlain (s : String) : Prop := ∀ c ∈ s.toList, StandsBetween '\'' c

instance (s : String) : Decidable (IsPlain s) := List.decidableBAll _ s.toList

/-- One string literal and nothing else. -/
def IsLiteral (value : String) : Prop := ∃ s, IsPlain s ∧ value = quoted s

/-- Texts with a separator between them have no characters but theirs. -/
theorem plain_intercalate {sep : String} (between : IsPlain sep) {texts : List String} (each : ∀ t ∈ texts, IsPlain t) :
    IsPlain (sep.intercalate texts) := by
  intro c inside
  rw [String.toList_intercalate] at inside
  induction texts with
  | nil => simp at inside
  | cons t rest ih =>
    obtain ⟨here, later⟩ := List.forall_mem_cons.mp each
    cases rest with
    | nil => exact here c (by simpa using inside)
    | cons u rest =>
      simp only [List.map_cons, List.intercalate_cons_cons, List.mem_append, or_assoc] at inside ih
      rcases inside with inside | inside | inside
      · exact here c inside
      · exact between c inside
      · exact ih later inside

theorem IsPlain.quoteless {s : String} (plain : IsPlain s) : ∀ c ∈ s.toList, ¬ c = '\'' :=
  fun c inside => (plain c inside).1

/-- A literal ends at its second quote. -/
theorem literal_ends {t rest : String} (plain : IsPlain t) (literal : IsLiteral (quoted t ++ rest)) : rest = "" := by
  obtain ⟨s, within, same⟩ := literal
  have parts : s.toList ++ '\'' :: [] = t.toList ++ '\'' :: rest.toList := by
    simpa [quoted, String.toList_append] using (congrArg String.toList same).symm
  obtain ⟨-, -, ends⟩ := cut_at_mark within.quoteless plain.quoteless rfl rfl parts
  simpa using ends.symm

/-- Literals beside each other are one literal exactly if there is one of them. -/
theorem literals_iff {types : List String} (plain : ∀ t ∈ types, IsPlain t) :
    IsLiteral (", ".intercalate (types.map quoted)) ↔ types.length = 1 := by
  match types with
  | [] =>
    simp only [IsLiteral, quoted, ← String.toList_inj]
    simp
  | [t] => simpa using ⟨t, plain t (by simp), rfl⟩
  | t :: u :: rest =>
    have cut : ", ".intercalate ((t :: u :: rest).map quoted) =
        quoted t ++ (", " ++ ", ".intercalate ((u :: rest).map quoted)) := by
      rw [← String.toList_inj]
      simp [quoted, String.toList_intercalate, String.toList_append]
    rw [cut]
    refine ⟨fun literal => ?_, by simp⟩
    have ends := literal_ends (plain t (by simp)) literal
    simp at ends

/-! ## Lines of the headers -/

/-- A line with one property whose value is a string literal, and nothing else. -/
def IsProperty (line : String) : Prop :=
  ∃ name text, IsPlain name ∧ IsPlain text ∧ line = "      '" ++ name ++ "': '" ++ text ++ "',\n"

/-- The line of a header is one property exactly if the value is one literal. -/
theorem headerLine_property {h : Header} (name : IsPlain h.name) :
    IsProperty (headerLine h) ↔ IsLiteral h.value := by
  have line : (headerLine h).toList =
      "      '".toList ++ (h.name.toList ++ '\'' :: (": ".toList ++ h.value.toList ++ ",\n".toList)) := by
    simp [headerLine]
  have property (n t : String) : ("      '" ++ n ++ "': '" ++ t ++ "',\n").toList =
      "      '".toList ++ (n.toList ++ '\'' :: (": ".toList ++ (quoted t).toList ++ ",\n".toList)) := by
    simp [quoted]
  constructor
  · rintro ⟨n, t, plainName, plain, same⟩
    have parts := (line.symm.trans (congrArg String.toList same)).trans (property n t)
    obtain ⟨-, -, rest⟩ :=
      cut_at_mark name.quoteless plainName.quoteless rfl rfl (List.append_cancel_left parts)
    refine ⟨t, plain, ?_⟩
    rw [← String.toList_inj]
    exact List.append_cancel_left (List.append_cancel_right rest)
  · rintro ⟨t, plain, same⟩
    refine ⟨h.name, t, name, plain, ?_⟩
    rw [← String.toList_inj, line, same, property]

/-- In the block of a method stands the object of its headers. -/
theorem block_headers (typeKey : String) (m : Method) : InOrder [headersObject m] (blockText typeKey m) :=
  (((inOrder_self (headersObject m)).before _).behind _ |>.behind (sendText m)).before _

/-- In the text of a class stand the objects of the headers of its methods, one behind the other. -/
theorem class_headers (typeKey : String) (m : Model) : InOrder (m.methods.map headersObject) (classText typeKey m) := by
  rw [List.map_eq_flatMap]
  exact ((inOrder_join fun method _ => block_headers typeKey method).before (headText m)).behind "\x7d"

/-! ## Headers of documents -/

/-- What the operations of a document declare for their headers, each with its list of media types. In a 2.0
    document the lists of an operation count before those of the document. -/
def declaredTypes : Document → List (List (String × List String))
  | .declaration d => (apiEndpoints d).map fun e => (e.operation.produces.map ("Accept", ·)).toList
  | .specification s => (endpoints s).map fun e =>
    ((e.operation.produces <|> s.produces).map ("Accept", ·)).toList ++
      ((e.operation.consumes <|> s.consumes).map ("Content-Type", ·)).toList

/-- What stands between the media types of a header. -/
def separator (name : String) : String := if name = "Accept" then ", " else ","

/-- The media types of a header as its value: in a 2.0 document one literal around them all, in a 1.x document one
    around each. -/
def writtenTypes (document : Document) (name : String) (types : List String) : String :=
  match document with
  | .declaration _ => ", ".intercalate (types.map quoted)
  | .specification _ => quoted ((separator name).intercalate types)

/-- The media types of a header are written as one literal: in a 2.0 document always, in a 1.x document if there is
    one of them. -/
def WrittenAsOne (document : Document) (types : List String) : Prop :=
  match document with
  | .declaration _ => types.length = 1
  | .specification _ => True

instance (document : Document) (types : List String) : Decidable (WrittenAsOne document types) :=
  match document with
  | .declaration _ => inferInstanceAs (Decidable (types.length = 1))
  | .specification _ => .isTrue trivial

/-- A header carries media types. If they are plain, its value is one string literal exactly if they are written as
    one, and its line is one property then. -/
structure Carries (document : Document) (declared : String × List String) (h : Header) : Prop where
  name : h.name = declared.1
  value : h.value = writtenTypes document declared.1 declared.2
  literal : (∀ t ∈ declared.2, IsPlain t) → (IsLiteral h.value ↔ WrittenAsOne document declared.2)
  property : (∀ t ∈ declared.2, IsPlain t) → WrittenAsOne document declared.2 → IsProperty (headerLine h)

theorem separator_plain (name : String) : IsPlain (separator name) := by
  unfold separator
  split <;> decide

theorem writtenTypes_literal (document : Document) (name : String) {types : List String}
    (plain : ∀ t ∈ types, IsPlain t) :
    IsLiteral (writtenTypes document name types) ↔ WrittenAsOne document types := by
  cases document with
  | declaration d => exact literals_iff plain
  | specification s => exact iff_of_true ⟨_, plain_intercalate (separator_plain name) plain, rfl⟩ trivial

theorem carries_types (document : Document) {name : String} (plain : IsPlain name) (types : List String) :
    Carries document (name, types) ⟨name, writtenTypes document name types⟩ where
  name := rfl
  value := rfl
  literal := writtenTypes_literal document name
  property each asOne := (headerLine_property plain).mpr ((writtenTypes_literal document name each).mpr asOne)

theorem carries_option (document : Document) {name : String} (plain : IsPlain name) (types? : Option (List String)) :
    List.Forall₂ (Carries document) (types?.map (name, ·)).toList
      (types?.map fun types => (⟨name, writtenTypes document name types⟩ : Header)).toList := by
  cases types? with
  | none => exact .nil
  | some types => exact .cons (carries_types document plain types) .nil

/-- The headers of the methods of a document carry what its operations declare. -/
theorem methods_carry {document : Document} {o : Options} {model : Model}
    (built : ofDocument document o = .ok model) :
    List.Forall₂ (fun declared m => List.Forall₂ (Carries document) declared m.headers) (declaredTypes document)
      model.methods := by
  cases document with
  | declaration d =>
    cases built
    refine List.forall₂_map_left_iff.mpr ((walkDeclaration_shows d o).imp ?_)
    intro e m shown
    rw [shown]
    exact carries_option (.declaration d) (by decide) e.operation.produces
  | specification s =>
    obtain ⟨w, run, rfl⟩ := ok_of_map built
    refine List.forall₂_map_left_iff.mpr ((walk_shows run).imp ?_)
    rintro e m ⟨_, shown, same⟩
    obtain ⟨_, _, rfl⟩ := ok_of_map shown
    rw [same]
    exact List.rel_append
      (carries_option (.specification s) (by decide) (e.operation.produces <|> s.produces))
      (carries_option (.specification s) (by decide) (e.operation.consumes <|> s.consumes))

/-- In a text that the class template writes for a document stand the objects of the headers of its methods, one
    behind the other, with one line for each header that an operation declares. In a 2.0 document every such line is
    one property with one string literal, however many media types there are, as long as they are plain. In a 1.x
    document each media type is a literal of its own, and a line with one of them is one property. -/
theorem headers_written {document : Document} {o : Options} {model : Model} {typeKey text : String}
    (built : ofDocument document o = .ok model)
    (rendered : model.render classTemplateName classTemplate typeKey = .ok text) :
    InOrder (model.methods.map headersObject) text ∧
      List.Forall₂ (fun declared m => List.Forall₂ (Carries document) declared m.headers) (declaredTypes document)
        model.methods :=
  ⟨rendered_eq built rendered ▸ class_headers typeKey model, methods_carry built⟩

/-- A 2.0 document with an operation that receives one of two media types and sends none. -/
def typed : Specification :=
  pathsOnly [("/pets", ⟨[], [(.post, { blankOperation with
    produces := some ["application/json", "text/plain"], consumes := some [] })]⟩)]

/-- A 1.x document with an operation that receives one of two media types. -/
def typedApi : Declaration :=
  ⟨some "1.2", none, none, none, [⟨"/pets", none, [⟨"GET", none, none, none, [],
    some ["application/json", "text/plain"], none, none, none⟩]⟩], none, none, none⟩

theorem headers_written_typed :
    ∃ model text, ofDocument (.specification typed) .default = .ok model ∧
      model.render classTemplateName classTemplate "__type" = .ok text ∧
      InOrder (model.methods.map headersObject) text ∧
      List.Forall₂ (fun declared m => List.Forall₂ (Carries (.specification typed)) declared m.headers)
        [[("Accept", ["application/json", "text/plain"]), ("Content-Type", [])]] model.methods := by
  obtain ⟨model, built⟩ : ∃ model, ofDocument (.specification typed) .default = .ok model := ⟨_, rfl⟩
  have rendered := render_built built "__type"
  exact ⟨model, _, built, rendered, headers_written built rendered⟩

/-- Two media types of a 1.x document become two literals, and their line is no property. -/
theorem typedApi_literals :
    ∃ model text, ofDocument (.declaration typedApi) .default = .ok model ∧
      model.render classTemplateName classTemplate "__type" = .ok text ∧
      InOrder (model.methods.map headersObject) text ∧
      ∃ m ∈ model.methods, ∃ h ∈ m.headers, h.value = "'application/json', 'text/plain'" ∧
        ¬ IsLiteral h.value ∧ ¬ IsProperty (headerLine h) := by
  obtain ⟨model, built⟩ : ∃ model, ofDocument (.declaration typedApi) .default = .ok model := ⟨_, rfl⟩
  refine ⟨model, _, built, render_built built "__type", class_headers "__type" model, ?_⟩
  obtain ⟨m, _, carried, _, methods⟩ := List.forall₂_cons_left_iff.mp (methods_carry built)
  obtain ⟨h, _, carries, _, headers⟩ := List.forall₂_cons_left_iff.mp carried
  have plain : ∀ t ∈ ["application/json", "text/plain"], IsPlain t := by decide
  have several : ¬ WrittenAsOne (.declaration typedApi) ["application/json", "text/plain"] := by decide
  have notOne : ¬ IsLiteral h.value := fun literal => several ((carries.literal plain).mp literal)
  have name : IsPlain h.name := by
    rw [carries.name]
    decide
  exact ⟨m, by simp [methods], h, by simp [headers], carries.value, notOne, mt (headerLine_property name).mp notOne⟩

end ApiBindings.Headers
