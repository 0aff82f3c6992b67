import ApiBindings.Json.Order
import ApiBindings.View.Model

/-!
# How templates see a model

To a template the methods, their headers, their parameters by location and the groups by tags are records,
whose entries come in the order that the model gives them. All other objects are maps, whose entries come in
the order of their keys.
-/

namespace ApiBindings.View

open ApiBindings.Json (Value Entries)

/-- A record: its entries in their order, some of them arranged by rules of their own. -/
def record (rules : List (String × (Value → Value))) : Value → Value
  | .object entries => .object (entries.map fun (k, v) => (k, (rules.lookup k).getD Value.byKey v))
  | v => v.byKey

/-- A list of values that are arranged by one rule. -/
def listOf (rule : Value → Value) : Value → Value
  | .array items => .array (items.map rule)
  | v => v.byKey

/-- A method, with its index by location and its headers. -/
def methodRecord : Value → Value := record [("byIn", record []), ("headers", listOf (record []))]

/-- A group, with its methods. -/
def groupRecord : Value → Value := record [("methods", listOf methodRecord)]

/-- The entries of a model as templates see them. -/
def Model.templateEntries (m : Model) : Entries :=
  (record [("methods", listOf methodRecord), ("byTags", listOf groupRecord)] m.toJson).entries?.getD []

end ApiBindings.View
