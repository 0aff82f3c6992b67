import ApiBindings.View.OfDeclaration
import ApiBindings.View.OfSpecification

/-!
# Views of documents

The view model of a document of either version.
-/

namespace ApiBindings.View

/-- The view model of a document; a 1.x document always has one. -/
def ofDocument (document : ApiBindings.Document) (o : Options) : Except UnresolvedReference Model :=
  match document with
  | .declaration d => .ok (ofDeclaration d o)
  | .specification s => ofSpecification s o

end ApiBindings.View
