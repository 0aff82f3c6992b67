import ApiBindings.Json.Value

/-!
# Objects in the order of their keys

An entry list is a map when each key stands in it once and the keys ascend. Any entry list becomes one by
entering its entries one after another.
-/

namespace ApiBindings.Json

/-- A map with one more entry, which takes the place of the one with the same key. -/
def Entries.insert (map : Entries) (key : String) (value : Value) : Entries :=
  match map with
  | [] => [(key, value)]
  | (k, v) :: rest =>
    if key < k then (key, value) :: (k, v) :: rest
    else if k = key then (key, value) :: rest
    else (k, v) :: insert rest key value

/-- The map of entries: of several with one key the last one counts. -/
def Entries.byKey (entries : Entries) : Entries :=
  entries.foldl (fun map e => map.insert e.1 e.2) []

mutual

/-- The value with each of its objects as a map. -/
def Value.byKey : Value → Value
  | .array items => .array (byKeyItems items)
  | .object entries => .object (Entries.byKey (byKeyEntries entries))
  | v => v

/-- The items of an array, with each object in them as a map. -/
def byKeyItems : List Value → List Value
  | [] => []
  | v :: rest => v.byKey :: byKeyItems rest

/-- Entries with each object in their values as a map. -/
def byKeyEntries : List (String × Value) → List (String × Value)
  | [] => []
  | (k, v) :: rest => (k, v.byKey) :: byKeyEntries rest

end

/-- A key that stands twice keeps its last value. -/
example : Entries.byKey [("b", .int 1), ("a", .int 2), ("b", .int 3)] = [("a", .int 2), ("b", .int 3)] := by
  decide

end ApiBindings.Json
