import ApiBindings.TypeScript.ClassTemplate

/-!
# The text of a class

The class template writes what stands before the methods, a block for each method in order, and a brace (`classText`).
A block is a comment, a signature and the statements that send a request. The texts are those of the model, of which
the template sees the entries, so that what it writes for a parameter is what stands under the key in its view.
-/

namespace ApiBindings.ClassText
open ApiBindings.Template ApiBindings.View
open ApiBindings.Json (Value)

/-! ## Comments -/

/-- A block comment with what stands inside it. -/
def block (inside : String) : String := "/*" ++ inside ++ "*/"

/-- A text of a document as it stands inside a comment. -/
def escaped (s : String) : String := String.ofList (Text.commentText s.toList)

/-- A text that is there and says something. -/
def said (text? : Option String) : Option String := text?.filter (· ≠ "")

theorem said_of_ne {s : String} (spoken : s ≠ "") : said (some s) = some s := by
  simp [said, spoken]

/-- A text of a document between two others, if it is there and says something. -/
def saidBetween (before after : String) (text? : Option String) : String :=
  ((said text?).map fun s => before ++ escaped s ++ after).getD ""

/-- What stands in the comment of a method. -/
def methodInside (m : Method) : String :=
  "*\n" ++ saidBetween "   * " "\n" m.summary ++ "   * " ++ m.verb ++ " " ++ m.path ++ "\n" ++
    (if m.deprecated then "   * @deprecated\n" else "") ++ "   "

/-! ## Signatures -/

/-- What a template sees of a datum under a name. -/
def part? : Datum → String → Option Value
  | .value v, name => v.get? name
  | _, _ => none

/-- The text of the type of a node: that of the type under the key of types, else that of the node itself, else
    `any`. -/
def typeText (typeKey : String) (node : Datum) : String :=
  match part? node typeKey, part? node "tsType" with
  | some type, _ => (Datum.ofOption (part? (.value type) "tsType")).text
  | none, some text => (Datum.value text).text
  | none, none => "any"

/-- What the template sees of a view under a key. -/
def seen (v : ParameterView) (key : String) : Datum := .ofOption (v.toJson.byKey.get? key)

/-- What stands in a signature for a parameter. -/
def parameterText (typeKey : String) (v : ParameterView) : String :=
  (if (seen v "notFirstParameter").isTrue then ", " else "") ++ (seen v "camelCaseName").text ++
    (seen v "cardinality").text ++ ": " ++ typeText typeKey (.value v.toJson.byKey)

/-- The signature of a method. -/
def signature (typeKey : String) (m : Method) : String :=
  "  async " ++ m.methodName ++ "(" ++ String.join (m.parameters.map (parameterText typeKey)) ++ "): Promise<" ++
    typeText typeKey (.ofOption ((methodRecord m.toJson).get? "return")) ++ "> \x7b"

/-! ## Statements -/

/-- A text between single quotes. -/
def quoted (s : String) : String := "'" ++ s ++ "'"

/-- The line that the class template writes for a header. -/
def headerLine (h : Header) : String := "      '" ++ h.name ++ "': " ++ h.value ++ ",\n"

/-- What the class template writes for the headers of a method. -/
def headersObject (m : Method) : String :=
  "    const headers: Record<string, string> = \x7b\n" ++ String.join (m.headers.map headerLine) ++ "    \x7d;\n"

/-- The name of a parameter as the template sees it. -/
def nameText (v : ParameterView) : String := (seen v "name").text

/-- The name of a parameter in the code as the template sees it. -/
def argumentText (v : ParameterView) : String := (seen v "camelCaseName").text

/-- The statement that a method begins with: its path as a literal. -/
def pathLine (m : Method) : String := "    let path = " ++ quoted m.path ++ ";\n"

/-- The statement that puts a parameter into the path. -/
def placeLine (v : ParameterView) : String :=
  "    path = path.replace(" ++ quoted ("\x7b" ++ nameText v ++ "\x7d") ++ ", encodeURIComponent(String(" ++
    argumentText v ++ ")));\n"

/-- The statement that puts a parameter into the query. -/
def queryLine (v : ParameterView) : String :=
  "    if (" ++ argumentText v ++ " !== undefined) query.append(" ++ quoted (nameText v) ++ ", String(" ++
    argumentText v ++ "));\n"

/-- The statement that sends a parameter as a header. -/
def sentLine (v : ParameterView) : String :=
  "    if (" ++ argumentText v ++ " !== undefined) headers[" ++ quoted (nameText v) ++ "] = String(" ++
    argumentText v ++ ");\n"

/-- The line with the body of a request, if it has one. -/
def bodyLine (b : ByIn) : String :=
  if b.hasBody then "      body: JSON.stringify(" ++ ((b.body.head?.map argumentText).getD "") ++ "),\n" else ""

/-- The statements that send a request and give its answer back. -/
def sendText (m : Method) : String :=
  "    const response = await fetch(\x60$\x7bthis.domain\x7d$\x7bpath\x7d?$\x7bquery\x7d\x60, \x7b\n      method: '" ++
    m.verb ++ "',\n      headers,\n" ++ bodyLine m.byIn ++
    "    \x7d);\n    if (!response.ok) throw new Error(\x60" ++ m.methodName ++
    " failed: $\x7bresponse.status\x7d\x60);\n    return response.json();\n  \x7d\n"

/-- The statements of a method. -/
def statements (m : Method) : String :=
  pathLine m ++ String.join (m.byIn.path.map placeLine) ++ "    const query = new URLSearchParams();\n" ++
    String.join (m.byIn.query.map queryLine) ++ headersObject m ++ String.join (m.byIn.header.map sentLine) ++
    sendText m

/-! ## Classes -/

/-- The block of a method: its comment, its signature and its statements. -/
def blockText (typeKey : String) (m : Method) : String :=
  "\n  " ++ block (methodInside m) ++ "\n" ++ signature typeKey m ++ "\n" ++ statements m

/-- The line that imports something. -/
def importLine (name : String) : String := "import " ++ name ++ ";\n"

/-- The lines that open a class. -/
def openingText (m : Model) : String :=
  "export class " ++ m.className ++ " \x7b\n  constructor(private readonly domain: string = " ++ quoted m.domain ++
    ") \x7b\x7d\n"

/-- What stands before the methods of a class. -/
def headText (m : Model) : String :=
  "// Generated by swv. Do not edit.\n" ++ String.join (m.imports.map importLine) ++ "\n" ++
    saidBetween "/**\n * " "\n */\n" m.description ++ openingText m

/-- The text of a class. -/
def classText (typeKey : String) (m : Model) : String :=
  headText m ++ String.join (m.methods.map (blockText typeKey)) ++ "\x7d"

end ApiBindings.ClassText
