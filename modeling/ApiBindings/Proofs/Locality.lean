import ApiBindings.Proofs.Answers

/-!
# Locality of methods

What a method says depends on its own operation, on the entries of its path, on what the document says outside of
its paths and, for its types, on what the converter answers. A document that is cut down to one operation has one
method, with the content that the method of this operation has in the whole document (`methods_local`). Only the name
and the marks of place tell that there are other operations, and the types where the converter looks at them
(`types_not_local`).
-/

namespace ApiBindings.Locality
open ApiBindings.Document ApiBindings.View ApiBindings.Walks ApiBindings.Answers

/-! ## Documents of one operation -/

/-- A 2.0 document cut down to one of its operations. The path keeps its shared entries. -/
def cutTo (s : Specification) (e : Endpoint) : Specification :=
  { s with paths := [(e.path, { e.item with operations := [(e.verb, e.operation)] })] }

/-- A 1.x document cut down to one of its operations. -/
def cutToApi (d : Declaration) (api : Api) (op : ApiOperation) : Declaration :=
  { d with apis := [{ api with operations := [op] }] }

/-- A document cut down to each of the operations that become methods, in document order. -/
def cuts : Document → List Document
  | .declaration d => d.apis.flatMap fun api =>
      (boundOperations api).map fun op => .declaration (cutToApi d api op)
  | .specification s => s.paths.flatMap fun (path, item) =>
      item.operations.map fun (verb, op) => .specification (cutTo s ⟨path, item, verb, op⟩)

/-- What a method says by itself: all but its name and the marks of place that documents of this version have. -/
def content : Document → Method → Method
  | .declaration _, m => { m with methodName := "", isFirstMethod := false, notFirstPath := false }
  | .specification _, m =>
    { m with methodName := "", isFirstPath := false, notFirstMethod := false, notFirstByTag := false }

/-- The view of a cut shows a method of a view: it has one method, of the same content, and the same definitions. -/
def ShowsContent (model : Model) (cut : Document) (m : Method) (part : Model) : Prop :=
  ∃ alone, part.methods = [alone] ∧ content cut alone = content cut m ∧ part.definitions = model.definitions

/-! ## Cuts of a 2.0 document -/

/-- The only endpoint of a cut. -/
def onlyEndpoint (e : Endpoint) : Endpoint := { e with item := { e.item with operations := [(e.verb, e.operation)] } }

theorem endpoints_cutTo (s : Specification) (e : Endpoint) : endpoints (cutTo s e) = [onlyEndpoint e] := rfl

/-- The method of an endpoint depends on nothing that is cut off, as long as the converter does not. -/
theorem methodOf_cutTo {s : Specification} {o : Options} {e : Endpoint} (same : o.answers (cutTo s e) = o.answers s)
    (name : String) : methodOf (cutTo s e) o (onlyEndpoint e) name = methodOf s o e name :=
  methodOf_paths same e name

theorem methodOf_rename {s : Specification} {o : Options} {e : Endpoint} {name : String} {m : Method}
    (built : methodOf s o e name = .ok m) (other : String) :
    methodOf s o e other = .ok { m with methodName := other } := by
  obtain ⟨bound, found, rfl⟩ := ok_of_map built
  rw [methodOf, found]
  rfl

/-- The name of the method of a cut: no other name is taken. -/
def onlyName (e : Endpoint) : String := nextName {} (onlyEndpoint e)

/-- The method of a cut: it comes first, under the name that is asked for. -/
def onlyMethod (e : Endpoint) (m : Method) : Method := marked {} { m with methodName := onlyName e }

theorem walk_cutTo {s : Specification} {o : Options} {e : Endpoint} {name : String} {m : Method}
    (same : o.answers (cutTo s e) = o.answers s) (built : methodOf s o e name = .ok m) :
    ∃ w, walk (cutTo s e) o = .ok w ∧ w.methods = [onlyMethod e m] := by
  have renamed := methodOf_rename built (onlyName e)
  rw [← methodOf_cutTo same] at renamed
  refine ⟨Walk.push (cutTo s e) { names := [onlyName e] } { m with methodName := onlyName e }, ?_,
    push_methods (cutTo s e) _ _⟩
  rw [walk, endpoints_cutTo, List.foldlM_cons, step_eq, ← onlyName, renamed]
  rfl

theorem shows_content {s : Specification} {o : Options} {w : Walk} {e : Endpoint} {m : Method}
    (same : o.answers (cutTo s e) = o.answers s) (shown : Shows s o e m) :
    ∃ part, ofDocument (.specification (cutTo s e)) o = .ok part ∧
      ShowsContent (modelOf s o w) (.specification (cutTo s e)) m part := by
  obtain ⟨bare, built, marks⟩ := shown
  obtain ⟨w', run, only⟩ := walk_cutTo same built
  refine ⟨modelOf (cutTo s e) o w', ?_, onlyMethod e bare, only, ?_, ?_⟩
  · rw [ofDocument, ofSpecification, run]
    rfl
  · rw [marks]
    rfl
  · have views : definitionView (cutTo s e) o = definitionView s o := definitionView_paths same
    simp only [modelOf, views]
    rfl

/-! ## Cuts of a 1.x document -/

theorem apiEndpoints_cutToApi (d : Declaration) (api : Api) {op : ApiOperation} (kept : isPassedOver op = false) :
    apiEndpoints (cutToApi d api op) = [⟨{ api with operations := [op] }, true, op⟩] := by
  simp [apiEndpoints, cutToApi, boundOperations, kept, onPath]

theorem showsApi_content {d : Declaration} {o : Options} {e : ApiEndpoint} {m : Method}
    (kept : isPassedOver e.operation = false) (shown : ShowsApi d o e m) :
    ∃ part, ofDocument (.declaration (cutToApi d e.api e.operation)) o = .ok part ∧
      ShowsContent (ofDeclaration d o) (.declaration (cutToApi d e.api e.operation)) m part := by
  let alone := apiMethod d o e.api e.operation (claimName [] (requestedApiName e.api e.operation))
  refine ⟨ofDeclaration (cutToApi d e.api e.operation) o, rfl, { alone with isFirstMethod := true }, ?_, ?_, rfl⟩
  · rw [ofDeclaration, walkDeclaration_eq, apiEndpoints_cutToApi d e.api kept]
    rfl
  · rw [shown]
    rfl

theorem apiEndpoints_kept {d : Declaration} {e : ApiEndpoint} (member : e ∈ apiEndpoints d) :
    isPassedOver e.operation = false := by
  have listed : isPassedOver e.operation ∈ (apiEndpoints d).map fun e => isPassedOver e.operation :=
    List.mem_map_of_mem member
  rw [map_apiEndpoints d fun _ op => isPassedOver op] at listed
  simp only [List.mem_flatMap, List.mem_map] at listed
  obtain ⟨api, _, op, kept, same⟩ := listed
  rw [← same]
  simpa using (List.mem_filter.mp kept).2

/-! ## Methods and cuts -/

/-- A cut has the version of its document. -/
theorem cuts_answering {document cut : Document} (member : cut ∈ cuts document) (o : Options)
    (answers : Option (TypeNode → Json.Value)) :
    answersFor cut (answering o answers) = answersFor document (answering o answers) := by
  cases document with
  | declaration d =>
    simp only [cuts, List.mem_flatMap, List.mem_map] at member
    obtain ⟨_, _, _, _, rfl⟩ := member
    rfl
  | specification s =>
    simp only [cuts, List.mem_flatMap, List.mem_map] at member
    obtain ⟨_, _, _, _, rfl⟩ := member
    simp only [answersFor, answers_answering]

/-- Every method of a view is shown by the cut of the document to its operation, if the converter answers the same
    for both. -/
theorem cuts_show {document : Document} {o : Options} {model : Model} (built : ofDocument document o = .ok model) :
    List.Forall₂ (fun cut m => answersFor cut o = answersFor document o →
      ∃ part, ofDocument cut o = .ok part ∧ ShowsContent model cut m part) (cuts document) model.methods := by
  cases document with
  | declaration d =>
    cases built
    rw [cuts, ← map_apiEndpoints, List.forall₂_map_left_iff]
    have shown := (List.forall₂_and_left _ _).mpr ⟨fun e => apiEndpoints_kept, walkDeclaration_shows d o⟩
    exact shown.imp fun _ _ both _ => showsApi_content both.1 both.2
  | specification s =>
    obtain ⟨w, run, rfl⟩ := ok_of_map built
    have listed := map_endpoints s fun e => Document.specification (cutTo s e)
    rw [cuts, ← listed, List.forall₂_map_left_iff]
    exact (walk_shows run).imp fun _ _ shown same => shows_content same shown

/-- The cut of a document to an operation has a view, which shows the method of the operation. -/
theorem cuts_view {document : Document} {o : Options} {model : Model} (built : ofDocument document o = .ok model) :
    List.Forall₂ (fun cut m => HasView o cut document (ShowsContent model cut m)) (cuts document) model.methods := by
  refine List.forall₂_iff_zip.mpr ⟨(cuts_show built).length_eq, fun {cut m} here => ?_⟩
  refine HasView.of (cuts_answering (List.of_mem_zip here).1 o) fun o' others same => ?_
  exact List.forall₂_zip (cuts_show (others.trans built)) here same

/-- What one cut shows of two methods is the same. -/
theorem ShowsContent.agree {model model' part : Model} {cut : Document} {m m' : Method}
    (shown : ShowsContent model cut m part) (shown' : ShowsContent model' cut m' part) :
    content cut m = content cut m' := by
  obtain ⟨alone, only, same, _⟩ := shown
  obtain ⟨alone', only', same', _⟩ := shown'
  obtain rfl : alone = alone' := List.singleton_inj.mp (only.symm.trans only')
  exact same.symm.trans same'

/-- A document cut down to one operation has a view with one method, which has the content that the method of this
    operation has in the view of the whole document, and with the same definitions, but for what a converter answers.
    So methods of documents that have the same cut have the same content, whatever other operations there are, if the
    converter answers the same for both. -/
theorem methods_local {document : Document} {o : Options} {model : Model}
    (built : ofDocument document o = .ok model) :
    List.Forall₂ (fun cut m => HasView o cut document (ShowsContent model cut m)) (cuts document) model.methods ∧
      ∀ document' model', ofDocument document' o = .ok model' → answersFor document' o = answersFor document o →
        ∀ cut m m', (cut, m) ∈ (cuts document).zip model.methods →
          (cut, m') ∈ (cuts document').zip model'.methods → content cut m = content cut m' := by
  refine ⟨cuts_view built, ?_⟩
  intro document' model' built' same cut m m' here there
  obtain ⟨_, typed, _, found, _, shown⟩ := (List.forall₂_zip (cuts_view built) here).alike
  obtain ⟨_, typed', _, found', _, shown'⟩ := (List.forall₂_zip (cuts_view built') there).alike
  rw [same] at found'
  obtain rfl : typed = typed' := Except.ok.inj (found.symm.trans found')
  exact shown.agree shown'

/-- A document in which two operations of one path refer to a shared parameter, the second one after a parameter of
    its own, under the same name and with the same tag. -/
def sharedLimit : Specification :=
  { pathsOnly [("/pets", ⟨[.reference "#/parameters/limit" none none],
      [(.get, { blankOperation with operationId := some "pets", tags := ["pet"] }),
        (.post, { blankOperation with
          operationId := some "pets", tags := ["pet"]
          parameters := [.inline (plainParameter "page" (some "query"))] })]⟩)] with
    parameters := [("limit", plainParameter "limit" (some "query"))] }

theorem methods_local_shared :
    ∃ model, ofDocument (.specification sharedLimit) typing = .ok model ∧
      model.methods.map (fun m => (m.methodName, m.notFirstByTag, m.parameters.map (·.notFirstByIn))) =
        [("pets", false, [false]), ("pets_1", true, [false, true])] ∧
      List.Forall₂ (fun cut m => HasView typing cut (.specification sharedLimit) (ShowsContent model cut m))
        (cuts (.specification sharedLimit)) model.methods ∧
      ∀ cut ∈ cuts (.specification sharedLimit),
        answersFor cut typing = answersFor (.specification sharedLimit) typing := by
  have built : ofDocument (.specification sharedLimit) typing = .ok (modelOf sharedLimit typing _) := rfl
  refine ⟨_, built, by decide +kernel, (methods_local built).1, fun cut member => ?_⟩
  simp only [cuts, List.mem_flatMap, List.mem_map] at member
  obtain ⟨_, _, _, _, rfl⟩ := member
  exact answers_plain (.inr rfl) _ _

/-- A document with a parameter on each of two paths. -/
def twoPaths : Specification :=
  pathsOnly [("/pets", ⟨[.inline (plainParameter "limit" (some "query"))], [(.get, blankOperation)]⟩),
    ("/store", ⟨[.inline (plainParameter "limit" (some "query"))], [(.get, blankOperation)]⟩)]

/-- Where every type is the number of paths, the parameter has the type 2 in the document and 1 in the cut. -/
theorem types_not_local :
    ∃ model, ofDocument (.specification twoPaths) countingPaths = .ok model ∧
      ¬ List.Forall₂ (fun cut m => ∃ part, ofDocument cut countingPaths = .ok part ∧ ShowsContent model cut m part)
        (cuts (.specification twoPaths)) model.methods := by
  have built : ofDocument (.specification twoPaths) countingPaths = .ok (modelOf twoPaths countingPaths _) := rfl
  refine ⟨_, built, fun shown => ?_⟩
  obtain ⟨⟨part, found, alone, only, same, _⟩, _⟩ := List.forall₂_cons.mp shown
  cases found
  obtain rfl := List.singleton_inj.mp only
  revert same
  decide +kernel

end ApiBindings.Locality
