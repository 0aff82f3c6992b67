import ApiBindings.Proofs.Erasure
import ApiBindings.TypeScript.OfSchema

/-!
# Views and the answers of a converter

A converter is shown the whole document, so that a part of it may get another type when the document changes
elsewhere. A view takes from a converter nothing but what it answers for the parts of the document
(`ofDocument_answering`), and what it answers decides nothing but types (`exists_alike`). So what the views of two
documents have in common is said of views that are typed by the same answers; the view that a document has otherwise
differs from such a one in types only (`HasView`).
-/

namespace ApiBindings.Answers
open ApiBindings.Document ApiBindings.View ApiBindings.Walks ApiBindings.Erasure
open ApiBindings.Json (Value Entries)

/-! ## Given answers -/

/-- Options with a converter that gives certain answers for the parts of a document, whatever the document is. -/
def answering (o : Options) (answers : Option (TypeNode → Value)) : Options :=
  { o with converter := answers.map fun answer shown => answer shown.node }

@[simp] theorem answers_answering (o : Options) (answers : Option (TypeNode → Value)) (s : Specification) :
    (answering o answers).answers s = answers := by
  cases answers <;> rfl

theorem ofDeclaration_answering (d : Declaration) (o : Options) (answers : Option (TypeNode → Value)) :
    ofDeclaration d (answering o answers) = ofDeclaration d o := by
  simp only [ofDeclaration, walkDeclaration_eq]
  rfl

/-- A view is the one that is built from what the converter answers for the document. -/
theorem ofDocument_answering (document : Document) (o : Options) :
    ofDocument document (answering o (answersFor document o)) = ofDocument document o := by
  cases document with
  | declaration d => exact congrArg Except.ok (ofDeclaration_answering d o none)
  | specification s =>
    obtain ⟨choices, converter⟩ := o
    cases converter <;> rfl

/-- Types are those of TypeScript, or there are none. -/
def PlainlyTyped (o : Options) : Prop := o.converter = none ∨ o.converter = some TypeScript.converter

/-- Such types are the same in every 2.0 document. -/
theorem answers_plain {o : Options} (plainly : PlainlyTyped o) (s s' : Specification) : o.answers s = o.answers s' := by
  rcases plainly with unconverted | converts
  · rw [Options.answers, Options.answers, unconverted]
    rfl
  · rw [Options.answers, Options.answers, converts]
    rfl

/-! ## Other paths, the same answers -/

section Paths
variable {s : Specification} {o : Options} {paths : List (String × PathItem)}

theorem computed_paths (same : o.answers { s with paths } = o.answers s) :
    o.computed { s with paths } = o.computed s := by
  funext node
  rw [Options.computed, Options.computed, same]

theorem methodWith_paths (same : o.answers { s with paths } = o.answers s) (e : Endpoint) (name : String) :
    methodWith { s with paths } o e name = methodWith s o e name := by
  have parameter : specificationParameter { s with paths } o = specificationParameter s o := by
    funext p
    rw [specificationParameter, specificationParameter, computed_paths same]
  have responses : responsesOf { s with paths } o e.operation = responsesOf s o e.operation := by
    rw [responsesOf_eq, responsesOf_eq, computed_paths same]
  funext bound
  simp only [methodWith, parameter, responses]
  rfl

/-- The method of an endpoint depends on the paths of a document only by what the converter answers. -/
theorem methodOf_paths (same : o.answers { s with paths } = o.answers s) (e : Endpoint) (name : String) :
    methodOf { s with paths } o e name = methodOf s o e name := by
  rw [methodOf, methodOf, methodWith_paths same]
  rfl

theorem step_paths (same : o.answers { s with paths } = o.answers s) :
    Walk.step { s with paths } o = Walk.step s o := by
  funext w e
  rw [step_eq, step_eq, methodOf_paths same]
  rfl

theorem definitionView_paths (same : o.answers { s with paths } = o.answers s) :
    definitionView { s with paths } o = definitionView s o := by
  funext name schema
  unfold definitionView propertyView
  rw [computed_paths same]

end Paths

/-! ## Views that differ in types -/

/-- The default type that a method returns, if it does. -/
def default? (m : Method) : Option Value :=
  match m.returns with
  | some (.default type) => some type
  | _ => none

/-- Two views differ in nothing but the types that a converter gives: without types they are the same, and so are the
    default types that their methods return. -/
structure AlikeButAnswers (model model' : Model) : Prop where
  erased : erased model = erased model'
  defaults : model.methods.map default? = model'.methods.map default?

theorem shows_default {s : Specification} {o : Options} {e : Endpoint} {m : Method} (shown : Shows s o e m) :
    default? m = if (returned? e.operation.responses).isSome then none else o.defaultType := by
  rw [default?, shows_returns shown, responsesOf_eq]
  cases returned? e.operation.responses with
  | some schema => rfl
  | none => cases o.defaultType <;> rfl

/-- The default types that methods return are decided by the document and the default type that is asked for. -/
theorem methods_default {document : Document} {o o' : Options} {model model' : Model}
    (same : o.defaultType = o'.defaultType) (built : ofDocument document o = .ok model)
    (built' : ofDocument document o' = .ok model') : model.methods.map default? = model'.methods.map default? := by
  cases document with
  | declaration d =>
    have nothing (o : Options) : (ofDeclaration d o).methods.map default? = (apiEndpoints d).map fun _ => none := by
      rw [← List.forall₂_eq_eq_eq, List.forall₂_map_left_iff, List.forall₂_map_right_iff]
      refine (walkDeclaration_shows d o).flip.imp fun m e shown => ?_
      rw [shown]
      rfl
    cases built
    cases built'
    rw [nothing, nothing]
  | specification s =>
    have decided {o : Options} {w : Walk} (run : walk s o = .ok w) : w.methods.map default? =
        (endpoints s).map fun e => if (returned? e.operation.responses).isSome then none else o.defaultType := by
      rw [← List.forall₂_eq_eq_eq, List.forall₂_map_left_iff, List.forall₂_map_right_iff]
      exact (walk_shows run).flip.imp fun m e shown => shows_default shown
    obtain ⟨w, run, rfl⟩ := ok_of_map built
    obtain ⟨w', run', rfl⟩ := ok_of_map built'
    exact (decided run).trans (same ▸ (decided run').symm)

/-- Under options that differ in the converter alone a document has views that differ in its answers alone. -/
theorem exists_alike {document : Document} {o : Options} {answers : Option (TypeNode → Value)} {typed : Model}
    (built : ofDocument document (answering o answers) = .ok typed) :
    ∃ model, ofDocument document o = .ok model ∧ AlikeButAnswers model typed := by
  have same : (ofDocument document o).map erased = (ofDocument document (answering o answers)).map erased := by
    rw [ofDocument_erased, ofDocument_erased]
    rfl
  rw [built] at same
  obtain ⟨model, built', equal⟩ := ok_of_map same
  have defaults : o.defaultType = (answering o answers).defaultType := rfl
  exact ⟨model, built', equal.symm, methods_default defaults built' built⟩

/-! ## Views by the answers for another document -/

/-- A document has a view, which is as said but for what a converter answers. Typed by the answers for another
    document the view is as said, and the one that the document has differs from that in types only; it is as said
    itself if the converter answers the same for both documents. -/
structure HasView (o : Options) (document other : Document) (Said : Model → Prop) : Prop where
  alike : ∃ model typed, ofDocument document o = .ok model ∧
    ofDocument document (answering o (answersFor other o)) = .ok typed ∧ AlikeButAnswers model typed ∧ Said typed
  same : answersFor document o = answersFor other o → ∃ model, ofDocument document o = .ok model ∧ Said model

/-- What holds of a view whenever the answers for two documents of one version are the same is what such a view has. -/
theorem HasView.of {o : Options} {document other : Document} {Said : Model → Prop}
    (fixed : ∀ answers, answersFor document (answering o answers) = answersFor other (answering o answers))
    (said : ∀ o', ofDocument other o' = ofDocument other o → answersFor document o' = answersFor other o' →
      ∃ model, ofDocument document o' = .ok model ∧ Said model) :
    HasView o document other Said where
  alike := by
    obtain ⟨typed, built, holds⟩ := said _ (ofDocument_answering other o) (fixed _)
    obtain ⟨model, built', alike⟩ := exists_alike built
    exact ⟨model, typed, built', built, alike, holds⟩
  same := said o rfl

/-- Options under which types are those of TypeScript. -/
def typing : Options := { Options.default with converter := some TypeScript.converter }

/-- Options under which every type is the number of paths of the document. -/
def countingPaths : Options :=
  { Options.default with converter := some fun shown => .int shown.document.paths.length }

end ApiBindings.Answers
