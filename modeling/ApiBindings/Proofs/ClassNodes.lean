import ApiBindings.Proofs.ClassText
import ApiBindings.Proofs.Locations
import ApiBindings.Proofs.Rendering

/-!
# Nodes of the class template

The class template is recognised node by node, and what its nodes write for a model is the text of its class
(`class_written`). So the template writes a text for every model in which a method that says it has a body has one
(`render_classTemplate`), and every model of a document is such a model (`render_built`).
-/

namespace ApiBindings.ClassNodes
open ApiBindings.Template ApiBindings.View ApiBindings.Rendering ApiBindings.ClassText ApiBindings.TypeScript
open ApiBindings.Document (Location)
open ApiBindings.Json (Value Entries)

/-! ## Expressions -/

theorem item_part (v : Value) (name : String) :
    (Datum.value v).item (.value (.string name)) = .ok (.ofOption (part? (.value v) name)) := by
  cases v <;> rfl

theorem member_part (v : Value) (name : String) :
    (Datum.value v).member name = .ok (.ofOption (part? (.value v) name)) := by
  cases v <;> rfl

section Expressions
variable {scope : Scope} {v : Value}

theorem eval_defined {e : Expr} {v? : Option Value} (value : e.eval scope = .ok (.ofOption v?)) :
    (Expr.tested e "defined" []).eval scope = .ok (.ofBool v?.isSome) := by
  show (e.eval scope >>= _) = _
  rw [value]
  cases v? <;> rfl

theorem eval_both {a b : Expr} {d : Datum} (first : a.eval scope = .ok (.ofBool true)) (second : b.eval scope = .ok d) :
    (Expr.both a b).eval scope = .ok d := by
  show (a.eval scope >>= _) = _
  rw [first]
  exact second

theorem eval_neither {a b : Expr} (first : a.eval scope = .ok (.ofBool false)) :
    (Expr.both a b).eval scope = .ok (.ofBool false) := by
  show (a.eval scope >>= _) = _
  rw [first]
  rfl

theorem eval_member {e : Expr} (value : e.eval scope = .ok (.value v)) (name : String) :
    (Expr.member e name).eval scope = .ok (.ofOption (part? (.value v) name)) := by
  show (e.eval scope >>= _) = _
  rw [value]
  exact congrArg (onLine _) (member_part v name)

theorem eval_escaped {e : Expr} {s : String} (value : e.eval scope = .ok (.value (.string s))) :
    (Expr.filtered e "escape_comment" []).eval scope = .ok (.value (.string (escaped s))) := by
  show (e.eval scope >>= _) = _
  rw [value]
  rfl

/-- A name stands for what it means in the scope. -/
theorem eval_name (scope : Scope) (line : Nat) (name : String) :
    (Expr.name line name).eval scope = .ok (scope.find name) := rfl

end Expressions

/-! ## Methods -/

section Methods
variable {scope : Scope} {m : Method} (bound : scope.find "m" = .value (methodRecord m.toJson))
include bound

theorem eval_ofMethod (line : Nat) (key : String) :
    (Expr.member (.name line "m") key).eval scope = .ok (.ofOption ((methodRecord m.toJson).get? key)) := by
  refine eval_member ?_ key
  rw [eval_name, bound]

theorem eval_held {key text : String}
    (held : (methodRecord m.toJson).get? key = some (.string text)) (line : Nat) :
    (Expr.member (.name line "m") key).eval scope = .ok (.value (.string text)) := by
  rw [eval_ofMethod bound, held]
  rfl

theorem eval_index (line : Nat) (key : String) :
    (Expr.member (.member (.name line "m") "byIn") key).eval scope =
      .ok (.ofOption ((record [] m.byIn.toJson).get? key)) := by
  refine eval_member ?_ key
  rw [eval_ofMethod bound, method_index]
  rfl

/-- A loop over a location runs through the parameters there, be there any or not. -/
theorem eval_bucket (l : Location) (line line' : Nat) :
    (Expr.filtered (.member (.member (.name line "m") "byIn") (bucketKey l)) "default" [.list line' []]).eval scope =
      .ok (.value (.array ((m.byIn.bucket l).map fun v => v.toJson.byKey))) := by
  show ((Expr.member (.member (.name line "m") "byIn") (bucketKey l)).eval scope >>= _) = _
  rw [eval_index bound, index_bucket]
  by_cases none : m.byIn.bucket l = []
  · rw [if_pos none, none]
    rfl
  · rw [if_neg none]
    rfl

/-- The parameter that the body of a request is made from, by its name in the code. -/
theorem eval_body {v : ParameterView}
    {others : List ParameterView} (first : m.byIn.body = v :: others) (line line' : Nat) :
    (Expr.member (.item (.member (.member (.name line "m") "byIn") "body") (.literal line' (.value (.int 0))))
      "camelCaseName").eval scope = .ok (seen v "camelCaseName") := by
  refine eval_member ?_ "camelCaseName"
  have bucket : m.byIn.bucket .body = v :: others := first
  have body := eval_index bound line (bucketKey .body)
  rw [index_bucket, bucket, if_neg (List.cons_ne_nil v others)] at body
  change (Expr.member (.member (.name line "m") "byIn") "body").eval scope = _ at body
  show ((Expr.member (.member (.name line "m") "byIn") "body").eval scope >>= _) = _
  rw [body]
  rfl

theorem eval_headers (line : Nat) :
    (Expr.member (.name line "m") "headers").eval scope =
      .ok (.value (.array (m.headers.map fun h => record [] h.toJson))) :=
  (eval_ofMethod bound line "headers").trans (by rw [method_headers]; rfl)

end Methods

/-! ## Types -/

section Types
variable {scope : Scope} {typeKey : String} {v : Value}

theorem eval_typed (node : scope.find "node" = .value v)
    (key : scope.find "type_property" = .value (.string typeKey)) (line line' : Nat) :
    (Expr.item (.name line "node") (.name line' "type_property")).eval scope =
      .ok (.ofOption (part? (.value v) typeKey)) := by
  show (.ok (scope.find "node") >>= fun d => .ok (scope.find "type_property") >>= fun k => onLine _ (d.item k)) = _
  rw [node, key]
  exact congrArg (onLine _) (item_part v typeKey)

/-- The nodes that write a type. -/
def typeNodes (l₁ l₂ l₃ l₄ l₅ l₆ l₇ l₈ : Nat) : List Node := [
  .branch
    (.both (.tested (.name l₁ "node") "defined" [])
      (.tested (.item (.name l₂ "node") (.name l₃ "type_property")) "defined" []))
    [.output (.member (.item (.name l₄ "node") (.name l₅ "type_property")) "tsType")]
    [.branch
      (.both (.tested (.name l₆ "node") "defined" []) (.tested (.member (.name l₇ "node") "tsType") "defined" []))
      [.output (.member (.name l₈ "node") "tsType")] [.text "any"]]]

/-- The type of a node is written; the sides of the branches are those of its text. -/
theorem type_written (plain : scope.isMarkup = false) (key : scope.find "type_property" = .value (.string typeKey))
    {v? : Option Value} (named : scope.find "node" = .ofOption v?) (l₁ l₂ l₃ l₄ l₅ l₆ l₇ l₈ : Nat) :
    renderAll (typeNodes l₁ l₂ l₃ l₄ l₅ l₆ l₇ l₈) scope = .ok (typeText typeKey (.ofOption v?)) := by
  have node (line : Nat) : (Expr.name line "node").eval scope = .ok (.ofOption v?) := by rw [eval_name, named]
  unfold typeNodes
  cases v? with
  | none =>
    refine writes_side (eval_neither (eval_defined (node l₁))) ?_
    exact writes_side (eval_neither (eval_defined (node l₆))) (writes_text writes_nil)
  | some v =>
    have typed (line line' : Nat) := eval_typed named key line line'
    have own (line : Nat) := eval_member (node line) "tsType"
    refine writes_side (eval_both (eval_defined (node l₁)) (eval_defined (typed l₂ l₃))) ?_
    unfold typeText
    dsimp only [Datum.ofOption]
    cases type : part? (.value v) typeKey with
    | some type =>
      rw [type] at typed
      exact writes_last plain (eval_member (typed l₄ l₅) "tsType")
    | none =>
      refine writes_side (eval_both (eval_defined (node l₆)) (eval_defined (own l₇))) ?_
      cases text : part? (.value v) "tsType" with
      | some text =>
        rw [text] at own
        exact writes_last plain (own l₈)
      | none => exact writes_text writes_nil

end Types

/-- What the function of types has to be: it writes the type of a value, and `any` for what is not there. -/
def WritesTypes (typeKey : String) (f : Nat → List Datum → Except Failure Datum) : Prop :=
  ∀ line v?, f line [.ofOption v?] = .ok (.markup (typeText typeKey (.ofOption v?)))

/-- A node that defines the function of types. -/
def definesTypes : Node → Bool
  | .define "ts" ["node"]
    [.branch
      (.both (.tested (.name _ "node") "defined" [])
        (.tested (.item (.name _ "node") (.name _ "type_property")) "defined" []))
      [.output (.member (.item (.name _ "node") (.name _ "type_property")) "tsType")]
      [.branch
        (.both (.tested (.name _ "node") "defined" []) (.tested (.member (.name _ "node") "tsType") "defined" []))
        [.output (.member (.name _ "node") "tsType")] [.text "any"]]] => true
  | _ => false

theorem definesTypes_writes {node : Node} (defines : definesTypes node = true) {scope : Scope}
    (plain : scope.isMarkup = false) {typeKey : String}
    (key : scope.find "type_property" = .value (.string typeKey)) :
    ∃ f, WritesTypes typeKey f ∧ node.render scope = .ok ("", scope.withFunction "ts" f) := by
  unfold definesTypes at defines
  split at defines
  · refine ⟨_, ?_, rfl⟩
    intro line v?
    have plainly : (scope.withName "node" (.ofOption v?)).isMarkup = false := plain
    exact congrArg (Except.map Datum.markup) (type_written plainly key rfl ..)
  · cases defines

/-- A call of the function of types stands for the type of its argument. -/
theorem eval_types {f : Nat → List Datum → Except Failure Datum} (writes : WritesTypes typeKey f)
    (bound : scope.functions.lookup "ts" = some f) {e : Expr} {v? : Option Value}
    (value : e.eval scope = .ok (.ofOption v?)) (line : Nat) :
    (Expr.call (.name line "ts") [e]).eval scope = .ok (.markup (typeText typeKey (.ofOption v?))) := by
  show ((e.eval scope >>= fun d => pure [d]) >>= fun ds => scope.call _ "ts" ds) = _
  rw [value]
  show scope.call _ "ts" [Datum.ofOption v?] = _
  rw [Scope.call, bound]
  exact writes _ v?

theorem eval_seen {v : ParameterView} (bound : scope.find "p" = .value v.toJson.byKey) (line : Nat) (key : String) :
    (Expr.member (.name line "p") key).eval scope = .ok (seen v key) :=
  eval_member (by rw [eval_name, bound]) key

/-- The nodes that write a parameter. -/
def parameterNodes (l₁ l₂ l₃ l₄ l₅ : Nat) : List Node := [
  .branch (.member (.name l₁ "p") "notFirstParameter") [.text ", "] [],
  .output (.member (.name l₂ "p") "camelCaseName"), .output (.member (.name l₃ "p") "cardinality"), .text ": ",
  .output (.call (.name l₄ "ts") [.name l₅ "p"])]

/-! ## Nodes -/

/-- Nodes that send a request and give its answer back. -/
def writesSend : List Node → Bool
  | [.text
     "    const response = await fetch(\x60$\x7bthis.domain\x7d$\x7bpath\x7d?$\x7bquery\x7d\x60, \x7b\n      method: '",
      .output (.member (.name _ "m") "method"), .text "',\n      headers,\n",
      .branch (.member (.member (.name _ "m") "byIn") "hasBody")
        [.text "      body: JSON.stringify(",
          .output (.member (.item (.member (.member (.name _ "m") "byIn") "body") (.literal _ (.value (.int 0))))
            "camelCaseName"), .text "),\n"] [],
      .text "    \x7d);\n    if (!response.ok) throw new Error(\x60", .output (.member (.name _ "m") "methodName"),
      .text " failed: $\x7bresponse.status\x7d\x60);\n    return response.json();\n  \x7d\n"] => true
  | _ => false

/-- Nodes that set the headers of a request and then send it. -/
def writesSent : List Node → Bool
  | .text "    const headers: Record<string, string> = \x7b\n" ::
    .each (.one "h") (.member (.name _ "m") "headers") none
      [.text "      '", .output (.member (.name _ "h") "name"), .text "': ",
        .output (.member (.name _ "h") "value"), .text ",\n"] [] ::
    .text "    \x7d;\n" ::
    .each (.one "p") (.filtered (.member (.member (.name _ "m") "byIn") "header") "default" [.list _ []]) none
      [.text "    if (", .output (.member (.name _ "p") "camelCaseName"), .text " !== undefined) headers['",
        .output (.member (.name _ "p") "name"), .text "'] = String(",
        .output (.member (.name _ "p") "camelCaseName"), .text ");\n"] [] :: behind => writesSend behind
  | _ => false

/-- Nodes that make up the query of a request, set its headers and then send it. -/
def writesQuery : List Node → Bool
  | .text "    const query = new URLSearchParams();\n" ::
    .each (.one "p") (.filtered (.member (.member (.name _ "m") "byIn") "query") "default" [.list _ []]) none
      [.text "    if (", .output (.member (.name _ "p") "camelCaseName"), .text " !== undefined) query.append('",
        .output (.member (.name _ "p") "name"), .text "', String(",
        .output (.member (.name _ "p") "camelCaseName"), .text "));\n"] [] :: behind => writesSent behind
  | _ => false

/-- Nodes that write the statements of a method, behind the opening of its first literal. -/
def writesStatements : List Node → Bool
  | .output (.member (.name _ "m") "path") :: .text "';\n" ::
    .each (.one "p") (.filtered (.member (.member (.name _ "m") "byIn") "path") "default" [.list _ []]) none
      [.text "    path = path.replace('", .output (.literal _ (.value (.string "\x7b"))),
        .output (.member (.name _ "p") "name"), .output (.literal _ (.value (.string "\x7d"))),
        .text "', encodeURIComponent(String(", .output (.member (.name _ "p") "camelCaseName"), .text ")));\n"] [] ::
    behind => writesQuery behind
  | _ => false

/-- Nodes that write the signature of a method, from its name on, and then its statements. -/
def writesHead : List Node → Bool
  | .output (.member (.name _ "m") "methodName") :: .text "(" ::
    .each (.one "p") (.member (.name _ "m") "parameters") none
      [.branch (.member (.name _ "p") "notFirstParameter") [.text ", "] [],
        .output (.member (.name _ "p") "camelCaseName"), .output (.member (.name _ "p") "cardinality"), .text ": ",
        .output (.call (.name _ "ts") [.name _ "p"])] [] ::
    .text "): Promise<" :: .output (.call (.name _ "ts") [.member (.name _ "m") "return"]) ::
    .text "> \x7b\n    let path = '" :: behind => writesStatements behind
  | _ => false

/-- Nodes that write the block of a method. -/
def writesBlock : List Node → Bool
  | .text "\n  /**\n" ::
    .branch (.member (.name _ "m") "summary")
      [.text "   * ", .output (.filtered (.member (.name _ "m") "summary") "escape_comment" []), .text "\n"] [] ::
    .text "   * " :: .output (.member (.name _ "m") "method") :: .text " " ::
    .output (.member (.name _ "m") "path") :: .text "\n" ::
    .branch (.member (.name _ "m") "deprecated") [.text "   * @deprecated\n"] [] ::
    .text "   */\n  async " :: behind => writesHead behind
  | _ => false

/-- Nodes that write a class. -/
def writesClassText : List Node → Bool
  | types ::
    [.text "// Generated by swv. Do not edit.\n",
      .each (.one "import") (.name _ "imports") none [.text "import ", .output (.name _ "import"), .text ";\n"] [],
      .text "\n",
      .branch (.name _ "description")
        [.text "/**\n * ", .output (.filtered (.name _ "description") "escape_comment" []), .text "\n */\n"] [],
      .text "export class ", .output (.name _ "className"),
      .text " \x7b\n  constructor(private readonly domain: string = '", .output (.name _ "domain"),
      .text "') \x7b\x7d\n", .each (.one "m") (.name _ "methods") none body [], .text "\x7d"] =>
    definesTypes types && writesBlock body
  | _ => false

/-- The class template as it is read. -/
theorem classTemplate_writesClassText : (Template.read classTemplate).toOption.any writesClassText = true := by
  simp only [Template.read, classTemplate, Text.ofLines, String.toList_ofList]
  simp only [classTemplateLines, List.flatMap_cons, List.flatMap_nil]
  repeat rw [String.toList_ofList]
  decide +kernel

/-! ## What the nodes write -/

section Written
variable {scope : Scope} {typeKey : String} {rest : List Node} {u : String}

/-- A text goes between two others if it is there and says something. -/
theorem writes_said (plain : scope.isMarkup = false) {e e' : Expr} {text? : Option String}
    (value : e.eval scope = .ok (.ofOption (text?.map .string)))
    (value' : e'.eval scope = .ok (.ofOption (text?.map .string))) {before after : String}
    (behind : renderAll rest scope = .ok u) :
    renderAll (.branch e [.text before, .output (.filtered e' "escape_comment" []), .text after] [] :: rest) scope =
      .ok (saidBetween before after text? ++ u) := by
  refine writes_branch value ?_ behind
  cases text? with
  | none => rfl
  | some s =>
    by_cases spoken : s = ""
    · subst spoken
      rfl
    · have isTrue : (Datum.ofOption ((some s).map Value.string)).isTrue = true := by
        simpa [Datum.ofOption, Datum.isTrue] using spoken
      rw [isTrue, if_pos rfl, saidBetween, said_of_ne spoken]
      have written := writes_text (s := before)
        (writes_string plain (eval_escaped value') (writes_text (s := after) writes_nil))
      simpa [String.append_assoc] using written

theorem writes_type (plain : scope.isMarkup = false) {f : Nat → List Datum → Except Failure Datum}
    (writes : WritesTypes typeKey f) (function : scope.functions.lookup "ts" = some f) {e : Expr} {v? : Option Value}
    (value : e.eval scope = .ok (.ofOption v?)) (line : Nat) (behind : renderAll rest scope = .ok u) :
    renderAll (.output (.call (.name line "ts") [e]) :: rest) scope = .ok (typeText typeKey (.ofOption v?) ++ u) :=
  writes_output plain (eval_types writes function value line) behind

theorem parameter_writes (plain : scope.isMarkup = false) {f : Nat → List Datum → Except Failure Datum}
    (writes : WritesTypes typeKey f) (function : scope.functions.lookup "ts" = some f) {v : ParameterView}
    (bound : scope.find "p" = .value v.toJson.byKey) (l₁ l₂ l₃ l₄ l₅ : Nat) :
    renderAll (parameterNodes l₁ l₂ l₃ l₄ l₅) scope = .ok (parameterText typeKey v) := by
  have node : (Expr.name l₅ "p").eval scope = .ok (.ofOption (some v.toJson.byKey)) := by
    rw [eval_name, bound]
    rfl
  have written := writes_flagged (s := ", ") (eval_seen bound l₁ "notFirstParameter")
    (writes_output plain (eval_seen bound l₂ "camelCaseName")
      (writes_output plain (eval_seen bound l₃ "cardinality")
        (writes_text (s := ": ") (writes_type plain writes function node l₄ writes_nil))))
  rw [parameterNodes, written, parameterText, Datum.ofOption]
  simp only [String.append_assoc, String.append_empty]

theorem place_writes (plain : scope.isMarkup = false) {v : ParameterView}
    (bound : scope.find "p" = .value v.toJson.byKey) (l₁ l₂ l₃ l₄ : Nat) :
    renderAll [.text "    path = path.replace('", .output (.literal l₁ (.value (.string "\x7b"))),
      .output (.member (.name l₂ "p") "name"), .output (.literal l₃ (.value (.string "\x7d"))),
      .text "', encodeURIComponent(String(", .output (.member (.name l₄ "p") "camelCaseName"), .text ")));\n"] scope =
      .ok (placeLine v) := by
  have sign (line : Nat) (s : String) :
      (Expr.literal line (.value (.string s))).eval scope = .ok (.value (.string s)) := rfl
  have written := writes_text (s := "    path = path.replace('") (writes_string plain (sign l₁ "\x7b")
    (writes_output plain (eval_seen bound l₂ "name") (writes_string plain (sign l₃ "\x7d")
      (writes_text (s := "', encodeURIComponent(String(") (writes_output plain (eval_seen bound l₄ "camelCaseName")
        (writes_text (s := ")));\n") writes_nil))))))
  have opening : "    path = path.replace('" = "    path = path.replace(" ++ "'" := rfl
  have closing : "', encodeURIComponent(String(" = "'" ++ ", encodeURIComponent(String(" := rfl
  refine written.trans (congrArg Except.ok ?_)
  unfold placeLine quoted nameText argumentText
  rw [opening, closing]
  simp only [String.append_assoc, String.append_empty]

/-- A line that passes a parameter on if it is given writes its argument, its name between quotes and its argument
    again. -/
theorem given_writes (plain : scope.isMarkup = false) {v : ParameterView}
    (bound : scope.find "p" = .value v.toJson.byKey) {before between : String} (front back last : String)
    (opening : before = front ++ "'") (closing : between = "'" ++ back) (l₁ l₂ l₃ : Nat) :
    renderAll [.text "    if (", .output (.member (.name l₁ "p") "camelCaseName"), .text before,
      .output (.member (.name l₂ "p") "name"), .text between, .output (.member (.name l₃ "p") "camelCaseName"),
      .text last] scope =
      .ok ("    if (" ++ argumentText v ++ front ++ quoted (nameText v) ++ back ++ argumentText v ++ last) := by
  have written := writes_text (s := "    if (") (writes_output plain (eval_seen bound l₁ "camelCaseName")
    (writes_text (s := before) (writes_output plain (eval_seen bound l₂ "name")
      (writes_text (s := between) (writes_output plain (eval_seen bound l₃ "camelCaseName")
        (writes_text (s := last) writes_nil))))))
  refine written.trans (congrArg Except.ok ?_)
  unfold quoted nameText argumentText
  rw [opening, closing]
  simp only [String.append_assoc, String.append_empty]

theorem query_writes (plain : scope.isMarkup = false) {v : ParameterView}
    (bound : scope.find "p" = .value v.toJson.byKey) (l₁ l₂ l₃ : Nat) :
    renderAll [.text "    if (", .output (.member (.name l₁ "p") "camelCaseName"),
      .text " !== undefined) query.append('", .output (.member (.name l₂ "p") "name"), .text "', String(",
      .output (.member (.name l₃ "p") "camelCaseName"), .text "));\n"] scope = .ok (queryLine v) :=
  given_writes plain bound " !== undefined) query.append(" ", String(" "));\n" rfl rfl l₁ l₂ l₃

theorem sent_writes (plain : scope.isMarkup = false) {v : ParameterView}
    (bound : scope.find "p" = .value v.toJson.byKey) (l₁ l₂ l₃ : Nat) :
    renderAll [.text "    if (", .output (.member (.name l₁ "p") "camelCaseName"),
      .text " !== undefined) headers['", .output (.member (.name l₂ "p") "name"), .text "'] = String(",
      .output (.member (.name l₃ "p") "camelCaseName"), .text ");\n"] scope = .ok (sentLine v) :=
  given_writes plain bound " !== undefined) headers[" "] = String(" ");\n" rfl rfl l₁ l₂ l₃

theorem header_writes (plain : scope.isMarkup = false) {h : Header}
    (bound : scope.find "h" = .value (record [] h.toJson)) (l₁ l₂ : Nat) :
    renderAll [.text "      '", .output (.member (.name l₁ "h") "name"), .text "': ",
      .output (.member (.name l₂ "h") "value"), .text ",\n"] scope = .ok (headerLine h) := by
  have name : (Expr.member (.name l₁ "h") "name").eval scope = .ok (.value (.string h.name)) :=
    eval_member ((eval_name ..).trans (congrArg Except.ok bound)) "name"
  have value : (Expr.member (.name l₂ "h") "value").eval scope = .ok (.value (.string h.value)) :=
    eval_member ((eval_name ..).trans (congrArg Except.ok bound)) "value"
  rw [writes_text (writes_string plain name (writes_text (writes_string plain value (writes_text writes_nil)))),
    headerLine]
  simp only [String.append_assoc, String.append_empty]

/-- The line with the body of a request is written where the method has a parameter for it, if it says so. -/
theorem body_writes (plain : scope.isMarkup = false) {m : Method}
    (bound : scope.find "m" = .value (methodRecord m.toJson)) (stocked : m.byIn.hasBody = true → m.byIn.body ≠ [])
    (l₁ l₂ l₃ : Nat) (behind : renderAll rest scope = .ok u) :
    renderAll (.branch (.member (.member (.name l₁ "m") "byIn") "hasBody")
      [.text "      body: JSON.stringify(",
        .output (.member (.item (.member (.member (.name l₂ "m") "byIn") "body") (.literal l₃ (.value (.int 0))))
          "camelCaseName"), .text "),\n"] [] :: rest) scope = .ok (bodyLine m.byIn ++ u) := by
  have flag := eval_index bound l₁ "hasBody"
  rw [index_hasBody] at flag
  refine writes_branch flag ?_ behind
  show renderAll (if m.byIn.hasBody then _ else _) scope = _
  cases has : m.byIn.hasBody with
  | false => rw [if_neg Bool.false_ne_true, writes_nil, bodyLine, has, if_neg Bool.false_ne_true]
  | true =>
    obtain ⟨v, others, first⟩ := List.exists_cons_of_ne_nil (stocked has)
    have written := writes_text (s := "      body: JSON.stringify(")
      (writes_output plain (eval_body bound first l₂ l₃) (writes_text (s := "),\n") writes_nil))
    rw [if_pos rfl]
    refine written.trans (congrArg Except.ok ?_)
    simp only [bodyLine, has, if_pos, first, List.head?_cons, Option.map_some, Option.getD_some, argumentText,
      String.append_assoc, String.append_empty]

theorem send_written {nodes : List Node} (writes : writesSend nodes = true) (plain : scope.isMarkup = false)
    {m : Method} (bound : scope.find "m" = .value (methodRecord m.toJson))
    (stocked : m.byIn.hasBody = true → m.byIn.body ≠ []) : renderAll nodes scope = .ok (sendText m) := by
  unfold writesSend at writes
  split at writes
  · refine (writes_text <| writes_string plain (eval_held bound (method_verb m) _) <| writes_text <|
      body_writes plain bound stocked _ _ _ <| writes_text <|
      writes_string plain (eval_held bound (method_name m) _) <| writes_text writes_nil).trans (congrArg Except.ok ?_)
    unfold sendText
    simp only [String.append_assoc, String.append_empty]
  · cases writes

theorem sent_written {nodes : List Node} (writes : writesSent nodes = true) (plain : scope.isMarkup = false)
    {m : Method} (bound : scope.find "m" = .value (methodRecord m.toJson))
    (stocked : m.byIn.hasBody = true → m.byIn.body ≠ []) :
    renderAll nodes scope = .ok (headersObject m ++ String.join (m.byIn.header.map sentLine) ++ sendText m) := by
  unfold writesSent at writes
  split at writes
  · refine (writes_text <| writes_each (eval_headers bound _)
      (fun h _ r => header_writes (by exact plain) rfl _ _) <| writes_text <|
      writes_each (eval_bucket bound .header _ _)
      (fun v _ r => sent_writes (by exact plain) rfl _ _ _) <|
      send_written writes plain bound stocked).trans (congrArg Except.ok ?_)
    unfold headersObject
    simp only [ByIn.bucket, String.append_assoc]
  · cases writes

theorem query_written {nodes : List Node} (writes : writesQuery nodes = true) (plain : scope.isMarkup = false)
    {m : Method} (bound : scope.find "m" = .value (methodRecord m.toJson))
    (stocked : m.byIn.hasBody = true → m.byIn.body ≠ []) :
    renderAll nodes scope = .ok ("    const query = new URLSearchParams();\n" ++
      String.join (m.byIn.query.map queryLine) ++ headersObject m ++ String.join (m.byIn.header.map sentLine) ++
      sendText m) := by
  unfold writesQuery at writes
  split at writes
  · refine (writes_text <| writes_each (eval_bucket bound .query _ _)
      (fun v _ r => query_writes (by exact plain) rfl _ _ _) <|
      sent_written writes plain bound stocked).trans (congrArg Except.ok ?_)
    simp only [ByIn.bucket, String.append_assoc]
  · cases writes

/-- The nodes behind the opening of the first literal write the statements of a method. -/
theorem statements_written {nodes : List Node} (writes : writesStatements nodes = true) (plain : scope.isMarkup = false)
    {m : Method} (bound : scope.find "m" = .value (methodRecord m.toJson))
    (stocked : m.byIn.hasBody = true → m.byIn.body ≠ []) :
    ∃ u, renderAll nodes scope = .ok u ∧ "    let path = '" ++ u = statements m := by
  unfold writesStatements at writes
  split at writes
  · refine ⟨_, writes_string plain (eval_held bound (method_path m) _) <| writes_text <|
      writes_each (eval_bucket bound .path _ _) (fun v _ r => place_writes (by exact plain) rfl _ _ _ _) <|
      query_written writes plain bound stocked, ?_⟩
    have opening : "    let path = '" = "    let path = " ++ "'" := rfl
    have closing : "';\n" = "'" ++ ";\n" := rfl
    unfold statements pathLine quoted
    rw [opening, closing]
    simp only [ByIn.bucket, String.append_assoc]
  · cases writes

/-- The nodes behind the comment of a method write its signature and its statements. -/
theorem head_written {f : Nat → List Datum → Except Failure Datum} (writesType : WritesTypes typeKey f)
    (function : scope.functions.lookup "ts" = some f) {nodes : List Node} (writes : writesHead nodes = true)
    (plain : scope.isMarkup = false) {m : Method} (bound : scope.find "m" = .value (methodRecord m.toJson))
    (stocked : m.byIn.hasBody = true → m.byIn.body ≠ []) :
    ∃ u, renderAll nodes scope = .ok u ∧ "  async " ++ u = signature typeKey m ++ "\n" ++ statements m := by
  unfold writesHead at writes
  split at writes
  · obtain ⟨u, behind, same⟩ := statements_written writes plain bound stocked
    have parameters (line : Nat) : (Expr.member (.name line "m") "parameters").eval scope =
        .ok (.value (.array (m.parameters.map fun v => v.toJson.byKey))) := by
      rw [eval_ofMethod bound, method_parameters]
      rfl
    refine ⟨_, writes_string plain (eval_held bound (method_name m) _) <| writes_text <|
      writes_each (parameters _)
        (fun v _ r => parameter_writes (by exact plain) writesType (by exact function) rfl _ _ _ _ _) <| writes_text <|
      writes_type plain writesType function (eval_ofMethod bound _ "return") _ <| writes_text behind, ?_⟩
    have closing : "> \x7b\n    let path = '" = "> \x7b" ++ ("\n" ++ "    let path = '") := rfl
    rw [← same, closing]
    unfold signature
    simp only [String.append_assoc]
  · cases writes

/-- The nodes in the loop over methods write the block of a method. -/
theorem block_written {f : Nat → List Datum → Except Failure Datum} (writesType : WritesTypes typeKey f)
    (function : scope.functions.lookup "ts" = some f) {nodes : List Node} (writes : writesBlock nodes = true)
    (plain : scope.isMarkup = false) {m : Method} (bound : scope.find "m" = .value (methodRecord m.toJson))
    (stocked : m.byIn.hasBody = true → m.byIn.body ≠ []) :
    renderAll nodes scope = .ok (blockText typeKey m) := by
  unfold writesBlock at writes
  split at writes
  · obtain ⟨u, behind, same⟩ := head_written writesType function writes plain bound stocked
    have summary (line : Nat) :
        (Expr.member (.name line "m") "summary").eval scope = .ok (.ofOption (m.summary.map .string)) := by
      rw [eval_ofMethod bound, method_summary]
    have deprecated (line : Nat) : (Expr.member (.name line "m") "deprecated").eval scope =
        .ok (.ofOption (if m.deprecated then some (.bool true) else none)) := by
      rw [eval_ofMethod bound, method_deprecated]
    have flag : (Datum.ofOption (if m.deprecated then some (Value.bool true) else none)).isTrue = m.deprecated := by
      cases m.deprecated <;> rfl
    refine (writes_text <| writes_said plain (summary _) (summary _) <| writes_text <|
      writes_string plain (eval_held bound (method_verb m) _) <| writes_text <|
      writes_string plain (eval_held bound (method_path m) _) <| writes_text <|
      writes_flagged (deprecated _) <| writes_text behind).trans (congrArg Except.ok ?_)
    have opening : "\n  /**\n" = "\n  " ++ ("/*" ++ "*\n") := rfl
    have closing : "   */\n  async " = "   " ++ ("*/" ++ ("\n" ++ "  async ")) := rfl
    unfold blockText block methodInside
    rw [flag, opening, closing]
    simp only [String.append_assoc, same]
  · cases writes

end Written

/-! ## Classes -/

theorem imports_written {scope : Scope} (plain : scope.isMarkup = false) {name : String}
    (bound : scope.find "import" = .value (.string name)) (line : Nat) :
    renderAll [.text "import ", .output (.name line "import"), .text ";\n"] scope = .ok (importLine name) := by
  have value : (Expr.name line "import").eval scope = .ok (.value (.string name)) := by rw [eval_name, bound]
  rw [writes_text (writes_string plain value (writes_text writes_nil)), importLine]
  simp only [String.append_assoc, String.append_empty]

/-- Behind the function of types the nodes of a class write its text. -/
theorem class_written {nodes : List Node} (writes : writesClassText nodes = true) {scope : Scope} {typeKey : String}
    {m : Model} (plain : scope.isMarkup = false) (key : scope.find "type_property" = .value (.string typeKey))
    (entries : ∀ name, name ≠ "type_property" → scope.find name = .ofOption (m.templateEntries.lookup name))
    (stocked : ∀ method ∈ m.methods, method.byIn.hasBody = true → method.byIn.body ≠ []) :
    renderAll nodes scope = .ok (classText typeKey m) := by
  unfold writesClassText at writes
  split at writes
  · obtain ⟨defines, writes⟩ := Bool.and_eq_true_iff.mp writes
    obtain ⟨f, writesType, here⟩ := definesTypes_writes defines plain key
    have plainly : (scope.withFunction "ts" f).isMarkup = false := plain
    have named {name : String} {v? : Option Value} (other : name ≠ "type_property")
        (held : m.templateEntries.lookup name = v?) (line : Nat) :
        (Expr.name line name).eval (scope.withFunction "ts" f) = .ok (.ofOption v?) := by
      rw [eval_name, ← held]
      exact congrArg Except.ok (entries name other)
    have imports (line : Nat) : (Expr.name line "imports").eval (scope.withFunction "ts" f) =
        .ok (.value (.array (m.imports.map .string))) := named (by decide) (model_imports m) line
    have description := named (by decide) (model_description m)
    have className := named (by decide) (model_className m)
    have domain := named (by decide) (model_domain m)
    have methods := named (by decide) (model_methods m)
    refine (writes_cons here <| writes_text <|
      writes_each (imports _) (fun name _ r => imports_written (by exact plain) rfl _) <| writes_text <|
      writes_said plainly (description _) (description _) <| writes_text <| writes_string plainly (className _) <|
      writes_text <| writes_string plainly (domain _) <| writes_text <|
      writes_each (methods _) (fun method member r =>
        block_written writesType (by rfl) writes (by exact plain) rfl (stocked method member)) <|
      writes_text writes_nil).trans (congrArg Except.ok ?_)
    have opening : " \x7b\n  constructor(private readonly domain: string = '" =
        " \x7b\n  constructor(private readonly domain: string = " ++ "'" := rfl
    have closing : "') \x7b\x7d\n" = "'" ++ ") \x7b\x7d\n" := rfl
    unfold classText headText openingText quoted
    rw [opening, closing]
    simp only [String.append_assoc, String.append_empty, String.empty_append]
  · cases writes

theorem classTemplate_plain : writesMarkup classTemplateName = false := by decide +kernel

/-- The class template writes a text for every model in which a method that says it has a body has one. -/
theorem render_classTemplate {m : Model}
    (stocked : ∀ method ∈ m.methods, method.byIn.hasBody = true → method.byIn.body ≠ []) (typeKey : String) :
    m.render classTemplateName classTemplate typeKey = .ok (classText typeKey m) := by
  cases read : Template.read classTemplate with
  | error failure =>
    have writes := classTemplate_writesClassText
    rw [read] at writes
    cases writes
  | ok nodes =>
    have writes : writesClassText nodes = true := by
      have writes := classTemplate_writesClassText
      rwa [read] at writes
    rw [Model.render, Template.render, read]
    refine class_written writes classTemplate_plain rfl (fun name other => ?_) stocked
    rw [find_entries, List.lookup_cons, beq_false_of_ne other]

/-- In a model of a document every method that says it has a body has one. -/
theorem methods_stocked {document : ApiBindings.Document} {o : Options} {model : Model}
    (built : ofDocument document o = .ok model) :
    ∀ m ∈ model.methods, m.byIn.hasBody = true → m.byIn.body ≠ [] := by
  intro m member
  obtain ⟨bound, placed⟩ := Walks.method_parameters built member
  obtain ⟨-, index⟩ := Prod.mk.inj placed
  rw [index]
  exact ((Locations.place_arranged document o bound).has .body).mp

/-- The class template writes a text for every model of a document. -/
theorem render_built {document : ApiBindings.Document} {o : Options} {model : Model}
    (built : ofDocument document o = .ok model) (typeKey : String) :
    model.render classTemplateName classTemplate typeKey = .ok (classText typeKey model) :=
  render_classTemplate (methods_stocked built) typeKey

/-- What the class template writes for a document is the text of its class. -/
theorem rendered_eq {document : ApiBindings.Document} {o : Options} {model : Model} {typeKey text : String}
    (built : ofDocument document o = .ok model)
    (rendered : model.render classTemplateName classTemplate typeKey = .ok text) : text = classText typeKey model :=
  Except.ok.inj (rendered.symm.trans (render_built built typeKey))

end ApiBindings.ClassNodes
