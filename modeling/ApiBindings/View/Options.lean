import ApiBindings.Document.Basic

/-!
# Options of a view

What a caller chooses: names, imports, how types are computed and what an operation returns where the
document does not say. A converter computes the types, and sees all that a view is made from: the whole document and
the choices of the caller.
-/

namespace ApiBindings.View

open ApiBindings.Json ApiBindings.Document

/-- A part of a document that has a type. -/
inductive TypeNode where
  | parameter (p : Parameter)
  | schema (s : Entries)

/-- The names and imports of a view, the key of computed types, and the type that an operation returns where the
document does not say. -/
structure Choices where
  moduleName : String
  className : String
  imports : List String
  defaultType : Option Value
  typeKey : String

/-- A part of a document as a converter is shown it: with the document that it stands in and the choices of the
caller. Of the caller's options only the converter itself is left out. -/
structure Occurrence where
  node : TypeNode
  document : Specification
  choices : Choices

/-- A way of computing types. It may look at the whole document, so that one part can have different types in two
documents. -/
abbrev Converter := Occurrence → Value

/-- A computed type and the key it is attached under; where there is no type nothing is attached. -/
structure Computed where
  key : String
  type : Option Value
  deriving DecidableEq, Inhabited

/-- The computed type as entries. -/
def Computed.toEntries (c : Computed) : Entries :=
  (c.type.map fun t => (c.key, t)).toList

/-- The choices of a caller, and the converter if there is one. -/
structure Options extends Choices where
  converter : Option Converter

namespace Options

/-- Empty names, no types, and `__type` as the key of types. -/
def default : Options where
  moduleName := ""
  className := ""
  imports := []
  converter := none
  defaultType := none
  typeKey := "__type"

/-- What the converter answers for the parts of a document, as far as there is one. -/
def answers (o : Options) (s : Specification) : Option (TypeNode → Value) :=
  o.converter.map fun convert node => convert ⟨node, s, o.toChoices⟩

/-- The type of a part of a document, as far as there is a converter. -/
def computed (o : Options) (s : Specification) (node : TypeNode) : Computed :=
  ⟨o.typeKey, (o.answers s).map (· node)⟩

/-- No type. -/
def untyped (o : Options) : Computed := ⟨o.typeKey, none⟩

end Options

end ApiBindings.View
