import ApiBindings.CommandLine.Arguments
import ApiBindings.CommandLine.Script
import ApiBindings.Document.Reader
import ApiBindings.Settings
import ApiBindings.TypeScript.ClassTemplate
import ApiBindings.View.OfDocument
import ApiBindings.Yaml.Writer

/-!
# Commands

The scripts of the commands: a view model is printed, a template is rendered with it, a document is
checked, or a settings file is begun. Nothing is written before all that is read was found right.
-/

namespace ApiBindings.CommandLine

open View (Model)

/-! ## Paths -/

/-- The parts of a path without what says nothing at its end: empty parts and points. -/
def trimmedParts (parts : List String) : List String :=
  match parts with
  | [] => []
  | first :: rest => first :: (rest.reverse.dropWhile fun p => p = "" || p = ".").reverse

/-- The directory that a path names a file in, if the path tells one. -/
def parentPath? (path : String) : Option String :=
  let parts := trimmedParts (path.splitOn "/")
  let parent := "/".intercalate (trimmedParts parts.dropLast)
  if parent = "" then none else some parent

/-- Whether the name of a file has the extension of JSON texts. -/
def isJsonPath (path : String) : Bool :=
  match (trimmedParts (path.splitOn "/")).getLast? with
  | none => false
  | some name => name.endsWith ".json" && name ≠ ".json"

/-! ## Steps that commands share -/

/-- The settings of the project are read, if it has any. -/
def withSettings (next : Settings → Script) : Script :=
  .find Settings.fileName fun isThere =>
    if !isThere then next {}
    else .readFile Settings.fileName fun
      | .error f => .fail ⟨"failed to read config " ++ Settings.fileName ++ ": " ++ f.message, [f.message]⟩
      | .ok text =>
        match Settings.read text with
        | .error e => .fail ⟨"failed to parse config " ++ Settings.fileName ++ ": " ++ e.message, [e.message]⟩
        | .ok s => next s

/-- A document is read, as JSON or YAML by the name of its file. -/
def withDocument (path : String) (next : ApiBindings.Document → Script) : Script :=
  .readFile path fun
    | .error f => .fail ⟨"failed to read " ++ path, [f.message]⟩
    | .ok text =>
      match if isJsonPath path then Document.readJson text else Document.readYaml text with
      | .error e => .fail ⟨"failed to parse " ++ path, e.message :: e.cause?.toList⟩
      | .ok d => next d

/-- The view model of a document is built. -/
def withModel (d : ApiBindings.Document) (o : View.Options) (next : Model → Script) (before : String := "") :
    Script :=
  match View.ofDocument d o with
  | .error e => .fail ⟨e.message, []⟩ before
  | .ok m => next m

/-! ## Commands -/

/-- A view model in a format. -/
def Format.write (f : Format) (m : Model) : String :=
  match f with
  | .json => m.toJson.pretty ++ "\n"
  | .yaml => Yaml.write m.toJson

/-- The view model of a document is printed. -/
def prepare (input : Option String) (format : Format) (isTyped : Bool) : Script :=
  withSettings fun s =>
    withDocument (input.getD s.input) fun d =>
      withModel d (s.options isTyped) fun m =>
        .finish { stdout := format.write m }

/-- A template is rendered: the one with a path, else that of classes. -/
def withRendering (template : Option String) (typeKey : String) (m : Model) (next : String → Script) : Script :=
  match template with
  | none =>
    match m.render TypeScript.classTemplateName TypeScript.classTemplate typeKey with
    | .error e => .fail ⟨"failed to render the built-in template", [e.message TypeScript.classTemplateName]⟩
    | .ok text => next text
  | some path =>
    .readFile path fun
      | .error f => .fail ⟨"failed to read template " ++ path, [f.message]⟩
      | .ok source =>
        match m.render path source typeKey with
        | .error e => .fail ⟨"failed to render " ++ path, [e.message path]⟩
        | .ok text => next text

/-- A text is printed, or written to a file whose directory is made if need be. -/
def deliver (output : Option String) (text : String) : Script :=
  match output with
  | none => .finish { stdout := text }
  | some path =>
    let write : Script := .writeFile path text fun
      | .error f => .fail ⟨"failed to write " ++ path, [f.message]⟩
      | .ok () => .finish { stderr := "  wrote " ++ path ++ "\n" }
    match parentPath? path with
    | none => write
    | some parent =>
      .makeDirectory parent fun
        | .error f => .fail ⟨"failed to create directory " ++ parent, [f.message]⟩
        | .ok () => write

/-- A template is rendered with the view model of a document. -/
def render (input template output : Option String) : Script :=
  withSettings fun s =>
    withDocument (input.getD s.input) fun d =>
      withModel d (s.options false) fun m =>
        withRendering (template <|> s.template) s.typeKey m fun text =>
          deliver (output <|> s.output) text

/-- What is said about a document before its view model is built. -/
def documentLines : ApiBindings.Document → String
  | .specification s =>
    "Valid Swagger " ++ s.swagger ++ " document: " ++ s.info.title.getD "(untitled)" ++ "\n" ++
      "  Paths: " ++ toString s.paths.length ++ "\n  Definitions: " ++ toString s.definitions.length ++ "\n"
  | .declaration d =>
    "Valid Swagger " ++ d.swaggerVersion.getD "1.x" ++ " document\n  APIs: " ++ toString d.apis.length ++ "\n"

/-- What is said about a view model. -/
def modelLines (m : Model) : String :=
  "  Methods: " ++ toString m.methods.length ++ "\n" ++
    match m.specification with
    | some p => "  Tag groups: " ++ toString p.byTags.length ++ "\n"
    | none => ""

/-- A document is checked, with the view model that can be built of it. -/
def validate (input : String) : Script :=
  withDocument input fun d =>
    withModel d View.Options.default (fun m =>
      .finish { stderr := documentLines d ++ modelLines m ++ "Validation successful.\n" })
      (documentLines d)

/-- A settings file is begun; one that is there stays, unless the user says otherwise. -/
def init (isForced : Bool) : Script :=
  .find Settings.fileName fun isThere =>
    if isThere && !isForced then
      .fail ⟨Settings.fileName ++ " already exists. Use --force to overwrite.", []⟩
    else .writeFile Settings.fileName Settings.initialText fun
      | .error f => .fail ⟨f.message, []⟩
      | .ok () => .finish { stderr := "Created " ++ Settings.fileName ++ "\n" }

/-- The script of a command. -/
def Command.script : Command → Script
  | .prepare input format isTyped => CommandLine.prepare input format isTyped
  | .render input template output => CommandLine.render input template output
  | .validate input => CommandLine.validate input
  | .init isForced => CommandLine.init isForced
  | .completions _ => .finish {}

/-- The name of the program and its version. -/
def versionLine : String := "swv 0.3.0\n"

/-- The script of a run with arguments. -/
def scriptOf (arguments : List String) : Script :=
  match request arguments with
  | .error e => .finish { exitCode := 2, stderr := e.message ++ "\n" }
  | .ok .version => .finish { stdout := versionLine }
  | .ok .help => .finish { stdout := about ++ "\n" }
  | .ok (.command c) => c.script

end ApiBindings.CommandLine
