import ApiBindings.Document.Basic
import ApiBindings.Json.Reader
import ApiBindings.Yaml.Reader

/-!
# Reading documents

A document is read from JSON or YAML text: first as a value, then by the shape of its version.
-/

namespace ApiBindings.Document

open ApiBindings.Json

/-- Why a text is no document. -/
inductive ReadFailure where
  /-- The text, and why it is not JSON. -/
  | json (text : String) (f : Json.Failure)
  | yaml (f : Yaml.Failure)
  | shape (m : Mismatch)

namespace ReadFailure

/-- What is behind a failure, if it is not said in full by the failure itself. -/
def cause? : ReadFailure → Option String
  | .json text f => some (f.message text)
  | .yaml f => some f.message
  | .shape _ => none

/-- The wording of a failure. -/
def message : ReadFailure → String
  | .json text f => "failed to parse JSON: " ++ f.message text
  | .yaml f => "failed to parse YAML: " ++ f.message
  | .shape m => "invalid swagger document: " ++ m.message

end ReadFailure

/-- The document that a value holds. -/
def ofValue (v : Value) : Except ReadFailure ApiBindings.Document := (shape v).mapError .shape

/-- The document that a JSON text holds. -/
def readJson (text : String) : Except ReadFailure ApiBindings.Document := do
  ofValue (← (Json.read text).mapError (.json text))

/-- The document that a JSON text holds, where the value has to be a document before it is asked what stands
behind it. -/
def readJsonEagerly (text : String) : Except ReadFailure ApiBindings.Document :=
  Json.readWith (.json text) ofValue text

/-- The document that a YAML text holds. -/
def readYaml (text : String) : Except ReadFailure ApiBindings.Document := do
  ofValue (← (Yaml.read text).mapError .yaml)

end ApiBindings.Document
