import ApiBindings.Text.Lines
import ApiBindings.TypeScript.OfSchema
import ApiBindings.View.Options
import ApiBindings.Yaml.Reader

/-!
# Settings of a project

What a project says about its bindings, in a YAML file of its own. All of it may be left out; what is not
known is passed over.
-/

namespace ApiBindings

open Json (Value)
open Yaml (Path Reading)

/-- The ways of computing types that a project can name. -/
inductive ConverterKind where
  | none
  | typescript
  deriving DecidableEq, Repr

/-- The name of a way of computing types. -/
def ConverterKind.name : ConverterKind → String
  | .none => "none"
  | .typescript => "typescript"

/-- What a project says about its bindings. -/
structure Settings where
  input : String := "swagger.json"
  /-- The file that text is written to, if it is not printed. -/
  output : Option String := none
  template : Option String := none
  moduleName : String := ""
  className : String := "Api"
  imports : List String := []
  typeKey : String := View.Options.default.typeKey
  /-- What an operation returns where the document does not say. -/
  defaultType : Option Value := none
  converter : ConverterKind := .none
  deriving DecidableEq

namespace Settings

/-- The name of the settings file of a project. -/
def fileName : String := ".swv.yaml"

/-! ## Reading -/

/-- What is read of a settings file: each setting that is there. -/
structure Given where
  input : Option String := none
  output : Option (Option String) := none
  template : Option (Option String) := none
  moduleName : Option String := none
  className : Option String := none
  imports : Option (List String) := none
  typeKey : Option String := none
  defaultType : Option (Option Value) := none
  converter : Option ConverterKind := none

/-- The settings, with the defaults for what is not there. -/
def ofGiven (g : Given) : Settings :=
  let d : Settings := {}
  { input := g.input.getD d.input
    output := g.output.getD d.output
    template := g.template.getD d.template
    moduleName := g.moduleName.getD d.moduleName
    className := g.className.getD d.className
    imports := g.imports.getD d.imports
    typeKey := g.typeKey.getD d.typeKey
    defaultType := g.defaultType.getD d.defaultType
    converter := g.converter.getD d.converter }

/-- A setting that is not there yet; one that is there already is a mismatch. -/
def once {α : Type} (key : String) (known : Option α) (step : Reading α) : Reading (Option α) := do
  if known.isSome then throw (.mismatch ("duplicate field \x60" ++ key ++ "\x60") none)
  else return some (← step)

/-- A setting that is a text. -/
def textSetting (path : Path) : Reading String := Reading.text "a string" path

/-- One setting under its key. -/
def member (g : Given) (key : String) (path : Path) : Reading Given := do
  match key with
  | "input" => return { g with input := ← once key g.input (textSetting path) }
  | "output" => return { g with output := ← once key g.output (Reading.optional (textSetting path)) }
  | "template" => return { g with template := ← once key g.template (Reading.optional (textSetting path)) }
  | "module_name" => return { g with moduleName := ← once key g.moduleName (textSetting path) }
  | "class_name" => return { g with className := ← once key g.className (textSetting path) }
  | "imports" => return { g with imports := ← once key g.imports (Reading.sequence textSetting path) }
  | "type_property_name" => return { g with typeKey := ← once key g.typeKey (textSetting path) }
  | "default_type" =>
    let value := Reading.value path (Reading.depthLimit - 1)
    return { g with defaultType := ← once key g.defaultType (Reading.optional value) }
  | "converter" =>
    let kinds := [ConverterKind.none, .typescript].map fun k => (k.name, k)
    return { g with converter := ← once key g.converter (Reading.variant kinds path) }
  | _ =>
    Reading.ignore
    return g

/-- The settings that the text of a file gives. -/
def read (text : String) : Except Yaml.Failure Settings :=
  (Yaml.readAs (Reading.record "SwvConfig" {} member .root) text).map ofGiven

/-! ## Writing -/

/-- A settings file to begin with: the defaults, and the settings without one in comments. -/
def initialText : String := Text.ofLines [
  "# swagger-view configuration",
  "input: swagger.json",
  "# output: src/generated/api.ts   # render target; stdout when unset",
  "# template: templates/class.j2",
  "",
  "module_name: \"\"",
  "class_name: Api",
  "imports: []",
  "",
  "converter: none          # none | typescript",
  "type_property_name: __type",
  "# default_type:            # return type used when no response qualifies",
  "#   tsType: void"]

/-! ## Options -/

/-- The options of a view; types are computed where the settings or the caller ask for them. -/
def options (s : Settings) (isTyped : Bool) : View.Options where
  moduleName := s.moduleName
  className := s.className
  imports := s.imports
  converter := if isTyped || s.converter = .typescript then some TypeScript.converter else none
  defaultType := s.defaultType
  typeKey := s.typeKey

end Settings

end ApiBindings
