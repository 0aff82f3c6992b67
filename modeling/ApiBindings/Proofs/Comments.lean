import ApiBindings.Proofs.ClassNodes
import ApiBindings.Proofs.MethodNames

/-!
# Comments of the class template

The class template opens a block comment for the class and one for each method, and puts texts of the document into
them: the description, and of each method the summary, the verb and the path. The description and the summary are
escaped and close no comment. Verbs and paths stand as they are, so the comments are closed by their own ends
exactly if no `*/` stands in a verb or a path (`comments_closed`).
-/

namespace ApiBindings.Comments
open ApiBindings.View ApiBindings.Document ApiBindings.ClassText ApiBindings.ClassNodes
open ApiBindings.MethodNames ApiBindings.TypeScript ApiBindings.Walks

/-! ## Block comments -/

/-- A block comment is closed by its own end: the first `*/` behind its opening is the one at its end. -/
def ClosedByEnd (inside : String) : Prop :=
  ∀ before after, (inside ++ "*/").toList = before ++ '*' :: '/' :: after → after = []

/-- Characters that close no comment. -/
def Harmless (cs : List Char) : Prop := ¬ ['*', '/'] <:+: cs

instance (cs : List Char) : Decidable (Harmless cs) := inferInstanceAs (Decidable (¬ _))

theorem harmless_nil : Harmless [] := by decide

theorem harmless_cons (c : Char) (cs : List Char) :
    Harmless (c :: cs) ↔ ¬ (c = '*' ∧ cs.head? = some '/') ∧ Harmless cs := by
  rw [Harmless, List.infix_cons_iff, not_or, Harmless]
  refine and_congr_left fun _ => not_congr ?_
  rw [List.cons_prefix_cons]
  cases cs with
  | nil => simp
  | cons d rest => simp [eq_comm]

/-- Behind a character that can be no part of a `*/` everything starts anew. -/
theorem harmless_between {c : Char} (star : c ≠ '*') (slash : c ≠ '/') (front back : List Char) :
    Harmless (front ++ c :: back) ↔ Harmless front ∧ Harmless back := by
  induction front with
  | nil => simp [harmless_cons, star, harmless_nil]
  | cons d front ih =>
    rw [List.cons_append, harmless_cons, harmless_cons, ih, and_assoc]
    cases front with
    | nil => simp [slash]
    | cons => simp

theorem closedByEnd_iff (inside : String) : ClosedByEnd inside ↔ Harmless inside.toList := by
  have whole : (inside ++ "*/").toList = inside.toList ++ ['*', '/'] := String.toList_append
  rw [ClosedByEnd, whole]
  constructor
  · rintro closed ⟨before, after, there⟩
    have early := closed before (after ++ ['*', '/']) (by rw [← there]; simp)
    simp at early
  · intro harmless before after split
    rcases List.append_eq_append_iff.mp split with ⟨tail, _, ends⟩ | ⟨tail, front, ends⟩
    · have lengths := congrArg List.length ends
      simp only [List.length_append, List.length_cons, List.length_nil] at lengths
      exact List.eq_nil_of_length_eq_zero (by omega)
    · rcases tail with _ | ⟨a, _ | ⟨b, tail⟩⟩
      · simpa using ends
      · simp at ends
      · cases ends
        exact absurd ⟨before, tail, by rw [front]; simp⟩ harmless

/-! ## Escaped texts -/

theorem commentText_head? (cs : List Char) : (Text.commentText cs).head? = cs.head? := by
  fun_cases Text.commentText cs <;> rfl

/-- Text for comments closes none, whatever it was made from. -/
theorem commentText_harmless (cs : List Char) : Harmless (Text.commentText cs) := by
  fun_induction Text.commentText cs with
  | case1 => exact harmless_nil
  | case2 rest ih =>
    refine (harmless_cons _ _).mpr ⟨by simp, ?_⟩
    exact (harmless_between (by decide) (by decide) [] _).mpr ⟨harmless_nil, (harmless_cons _ _).mpr ⟨by simp, ih⟩⟩
  | case3 c rest other ih =>
    refine (harmless_cons _ _).mpr ⟨?_, ih⟩
    rintro ⟨rfl, slash⟩
    rw [commentText_head?] at slash
    obtain ⟨rest, rfl⟩ := List.head?_eq_some_iff.mp slash
    exact other rest rfl rfl

/-! ## The comments of a model -/

/-- What stands in the comment of a class with a description. -/
def classInside (description : String) : String := "*\n * " ++ escaped description ++ "\n "

/-- What stands in the comments that the class template opens for a model, in order. -/
def insides (m : Model) : List String :=
  ((said m.description).map classInside).toList ++ m.methods.map methodInside

theorem classInside_closed (description : String) : ClosedByEnd (classInside description) := by
  rw [closedByEnd_iff]
  simp [classInside, escaped, String.toList_append, harmless_cons, harmless_between, harmless_nil,
    commentText_harmless]

/-- The comment of a method is closed by its own end exactly if neither its verb nor its path closes it. -/
theorem methodInside_closed (m : Method) :
    ClosedByEnd (methodInside m) ↔ Harmless m.verb.toList ∧ Harmless m.path.toList := by
  rw [closedByEnd_iff]
  have summary : Harmless (saidBetween "   * " "\n" m.summary).toList := by
    unfold saidBetween
    cases said m.summary with
    | none => exact harmless_nil
    | some s =>
      simp [escaped, String.toList_append, harmless_cons, harmless_between, harmless_nil,
        commentText_harmless]
  have deprecated : Harmless (if m.deprecated then "   * @deprecated\n" else "").toList := by
    cases m.deprecated with
    | false => exact harmless_nil
    | true => simp [harmless_cons, harmless_nil]
  simp [methodInside, String.toList_append, harmless_cons, harmless_between, harmless_nil, summary, deprecated]

/-! ## Texts with comments -/

/-- Texts made of code and block comments, with what stands in the comments in order. -/
inductive Commented : List String → String → Prop
  | code (s : String) : Commented [] s
  | comment (inside : String) : Commented [inside] (block inside)
  | append {front back : List String} {s u : String} (left : Commented front s) (right : Commented back u) :
      Commented (front ++ back) (s ++ u)

theorem Commented.before {list : List String} {u : String} (s : String) (commented : Commented list u) :
    Commented list (s ++ u) := (Commented.code s).append commented

theorem Commented.behind {list : List String} {s : String} (commented : Commented list s) (u : String) :
    Commented list (s ++ u) := by
  simpa using commented.append (.code u)

theorem commented_join {α : Type} {inside : α → String} {text : α → String} {list : List α}
    (each : ∀ a ∈ list, Commented [inside a] (text a)) : Commented (list.map inside) (String.join (list.map text)) := by
  induction list with
  | nil => exact .code ""
  | cons a list ih =>
    obtain ⟨here, later⟩ := List.forall_mem_cons.mp each
    rw [List.map_cons, List.map_cons, String.join_cons]
    exact here.append (ih later)

theorem description_commented (description : Option String) :
    Commented ((said description).map classInside).toList (saidBetween "/**\n * " "\n */\n" description) := by
  unfold saidBetween
  cases said description with
  | none => exact .code ""
  | some s =>
    have opening : "/**\n * " = "/*" ++ "*\n * " := rfl
    have closing : "\n */\n" = "\n " ++ ("*/" ++ "\n") := rfl
    have whole := (Commented.comment (classInside s)).behind "\n"
    show Commented [classInside s] ("/**\n * " ++ escaped s ++ "\n */\n")
    rw [opening, closing]
    simpa only [block, classInside, String.append_assoc] using whole

/-- The block of a method is code with the comment of the method in it. -/
theorem block_commented (typeKey : String) (m : Method) : Commented [methodInside m] (blockText typeKey m) := by
  have comment := (Commented.comment (methodInside m)).before "\n  "
  exact (((comment.behind "\n").behind (signature typeKey m)).behind "\n").behind (statements m)

/-- The text of a class is code with the comments of the class and its methods in it. -/
theorem class_commented (typeKey : String) (m : Model) : Commented (insides m) (classText typeKey m) := by
  have head : Commented ((said m.description).map classInside).toList (headText m) :=
    ((description_commented m.description).before _).behind _
  exact (head.append (commented_join fun method _ => block_commented typeKey method)).behind _

/-! ## Comments closed by their own ends -/

/-- In a text that the class template writes for a document stand the comment of the class, if the document has a
    description, and one comment for each method, and no description and no summary closes them. So the comment of
    the class is closed by its own end, and that of a method if and only if neither its path nor its verb has a `*/`
    in it. -/
theorem comments_closed {document : Document} {o : Options} {m : Model} {typeKey text : String}
    (built : ofDocument document o = .ok m)
    (rendered : m.render classTemplateName classTemplate typeKey = .ok text) :
    Commented (insides m) text ∧
      (∀ description, said m.description = some description → ClosedByEnd (classInside description)) ∧
      List.Forall₂ (fun r method => ClosedByEnd (methodInside method) ↔
        Harmless r.path.toList ∧ Harmless (Text.toUpper r.verb.toList)) (requests document) m.methods := by
  obtain rfl := rendered_eq built rendered
  refine ⟨class_commented typeKey m, fun description _ => classInside_closed description, ?_⟩
  refine (methods_answer built).imp ?_
  rintro r method ⟨path, verb⟩
  rw [methodInside_closed, path, verb, String.toList_ofList, and_comm]

/-- A document with `*/` in its description, in the summary of an operation, and in a path whose middle is open. -/
def openPath : Specification :=
  { pathsOnly [("/files/*/raw", ⟨[], [(.get, { blankOperation with summary := some "Reads a */ b" })]⟩)] with
    info := ⟨none, some "Files */", none, []⟩ }

theorem comments_closed_openPath :
    ∃ m text, ofDocument (.specification openPath) .default = .ok m ∧
      m.render classTemplateName classTemplate "__type" = .ok text ∧ Commented (insides m) text ∧
        (∀ description, said m.description = some description → ClosedByEnd (classInside description)) ∧
        List.Forall₂ (fun r method => ClosedByEnd (methodInside method) ↔
          Harmless r.path.toList ∧ Harmless (Text.toUpper r.verb.toList)) (requests (.specification openPath))
          m.methods := by
  obtain ⟨m, built⟩ : ∃ m, ofDocument (.specification openPath) .default = .ok m := ⟨_, rfl⟩
  have rendered := render_built built "__type"
  exact ⟨m, _, built, rendered, comments_closed built rendered⟩

/-- The comment of a method whose path has an open segment is closed before its end. -/
theorem openPath_closes_early :
    ∃ m text, ofDocument (.specification openPath) .default = .ok m ∧
      m.render classTemplateName classTemplate "__type" = .ok text ∧ Commented (insides m) text ∧
        ∃ inside ∈ insides m, ¬ ClosedByEnd inside := by
  obtain ⟨m, built⟩ : ∃ m, ofDocument (.specification openPath) .default = .ok m := ⟨_, rfl⟩
  refine ⟨m, _, built, render_built built "__type", class_commented "__type" m, ?_⟩
  have answers : List.Forall₂ Answers [⟨"/files/*/raw", "GET", none⟩] m.methods := methods_answer built
  obtain ⟨method, _, ⟨path, _⟩, _, methods⟩ := List.forall₂_cons_left_iff.mp answers
  refine ⟨methodInside method, by simp [insides, methods], ?_⟩
  rw [methodInside_closed, path]
  rintro ⟨_, harmless⟩
  exact absurd harmless (by decide +kernel)

end ApiBindings.Comments
