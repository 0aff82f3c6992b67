import ApiBindings.Proofs.Origins
import ApiBindings.Proofs.References

/-!
# Reading paths

When the paths of a 2.0 document are read, what is read, and what the complaint is otherwise
(`paths_accounted`). The members of a path item are told apart by their keys (`key_kind`); what one member
does to an item is said once for each kind (`withEntry_verb`, `withEntry_shared`, `withEntry_other`).
A reading complains as the first entry does that has something to complain about, and entries that are
passed over are as good as left out.
-/

namespace ApiBindings.PathReading
open ApiBindings.Json ApiBindings.Document ApiBindings.Walks ApiBindings.Readings ApiBindings.Origins
open ApiBindings.References

/-! ## Keys of a path item -/

/-- A key is the name of a verb, in whatever case. -/
def Names (key : String) (verb : Verb) : Prop := sameUpToCase key verb.name = true

/-- A key is the name of some verb, in whatever case. -/
def isVerb (key : String) : Bool := Verb.all.any (sameUpToCase key ·.name)

/-- A key is `parameters`, in whatever case. -/
def isShared (key : String) : Bool := sameUpToCase key "parameters"

theorem verb_mem_all (verb : Verb) : verb ∈ Verb.all := by
  cases verb <;> decide

theorem asciiUpper_name (verb : Verb) : asciiUpper verb.name = verb.name := by
  cases verb <;> decide +kernel

theorem names_iff {key : String} {verb : Verb} : Names key verb ↔ asciiUpper key = verb.name := by
  rw [Names, sameUpToCase, asciiUpper_name, beq_iff_eq]

theorem Names.isVerb {key : String} {verb : Verb} (names : Names key verb) : isVerb key = true :=
  List.any_eq_true.mpr ⟨verb, verb_mem_all verb, names⟩

theorem names_of_isVerb {key : String} (verb : isVerb key = true) : ∃ verb, Names key verb := by
  obtain ⟨verb, _, names⟩ := List.any_eq_true.mp verb
  exact ⟨verb, names⟩

/-- The verb of a key is the one verb that the key names. -/
theorem ofKey?_eq_some {key : String} {verb : Verb} : Verb.ofKey? key = some verb ↔ Names key verb := by
  rw [names_iff, Verb.ofKey?]
  constructor
  · intro found
    have same := List.find?_some (p := fun v : Verb => v.name == asciiUpper key) found
    exact (beq_iff_eq.mp same).symm
  · intro upper
    rw [upper]
    cases verb <;> decide +kernel

theorem ofKey?_eq_none {key : String} : Verb.ofKey? key = none ↔ isVerb key = false := by
  rw [Option.eq_none_iff_forall_ne_some, Bool.eq_false_iff]
  constructor
  · intro never named
    obtain ⟨verb, names⟩ := names_of_isVerb named
    exact never verb (ofKey?_eq_some.mpr names)
  · intro unnamed verb found
    exact unnamed (ofKey?_eq_some.mp found).isVerb

theorem unnamed_of_isShared {key : String} (shared : isShared key = true) : isVerb key = false :=
  ofKey?_eq_none.mp (verb_parameters shared)

theorem Names.unshared {key : String} {verb : Verb} (names : Names key verb) : isShared key = false := by
  cases shared : isShared key with
  | false => rfl
  | true => exact absurd names.isVerb (Bool.eq_false_iff.mp (unnamed_of_isShared shared))

/-- What a key of a path item stands for. -/
inductive Kind (key : String) : Prop where
  | verb (verb : Verb) (names : Names key verb)
  | shared (shared : isShared key = true)
  | other (unnamed : isVerb key = false) (unshared : isShared key = false)

theorem key_kind (key : String) : Kind key := by
  cases named : isVerb key with
  | true =>
    obtain ⟨verb, names⟩ := names_of_isVerb named
    exact .verb verb names
  | false =>
    cases shared : isShared key with
    | true => exact .shared shared
    | false => exact .other named shared

/-! ## Members of a path item -/

theorem withEntry_verb {key : String} {verb : Verb} (names : Names key verb) (item : PathItem) (v : Value) :
    item.withEntry (key, v) = ((Operation.shape v).mapError (.under key)).map fun op =>
      { item with operations := item.operations ++ [(verb, op)] } := by
  have apart : ¬ sameUpToCase key "parameters" = true := Bool.eq_false_iff.mp names.unshared
  rw [PathItem.withEntry, if_neg apart]
  simp only [ofKey?_eq_some.mpr names]
  rfl

theorem withEntry_shared {key : String} (shared : isShared key = true) (item : PathItem) (v : Value) :
    item.withEntry (key, v) =
      (Shape.list ParameterEntry.shape v).map fun list => { item with parameters := list } := by
  rw [PathItem.withEntry, if_pos (show sameUpToCase key "parameters" = true from shared)]
  rfl

theorem withEntry_other {key : String} (unnamed : isVerb key = false) (unshared : isShared key = false)
    (item : PathItem) (v : Value) : item.withEntry (key, v) = .ok item := by
  have apart : ¬ sameUpToCase key "parameters" = true := Bool.eq_false_iff.mp unshared
  rw [PathItem.withEntry, if_neg apart]
  simp only [ofKey?_eq_none.mpr unnamed]

/-- The value of a member is what the key asks for: an operation under a verb, a list of parameters under
`parameters`, and anything under other keys. -/
structure ValidMember (m : String × Value) : Prop where
  operation : isVerb m.1 = true → ∃ op, Operation.shape m.2 = .ok op
  parameters : isShared m.1 = true → ∃ list, Shape.list ParameterEntry.shape m.2 = .ok list

/-- The complaint about a member of a path item. For an operation it starts with the key as it is written. -/
inductive MemberComplaint : String × Value → String → Prop where
  | operation {key : String} {v : Value} {fault : Mismatch} (named : isVerb key = true)
      (unread : Operation.shape v = .error fault) : MemberComplaint (key, v) (key ++ ": " ++ fault.message)
  | parameters {key : String} {v : Value} {fault : Mismatch} (shared : isShared key = true)
      (unread : Shape.list ParameterEntry.shape v = .error fault) : MemberComplaint (key, v) fault.message

/-- An item holds what the members of an object declare: the operations under its verbs, in their order, and
the list under the last of its `parameters`. -/
structure Holds (members : Entries) (item : PathItem) : Prop where
  operations : List.Forall₂ (fun m op => Names m.1 op.1 ∧ Operation.shape m.2 = .ok op.2)
    (members.filter (isVerb ·.1)) item.operations
  parameters : match (members.filter (isShared ·.1)).getLast? with
    | some m => Shape.list ParameterEntry.shape m.2 = .ok item.parameters
    | none => item.parameters = []

theorem holds_nil : Holds [] PathItem.empty := ⟨.nil, rfl⟩

theorem Holds.concat {members : Entries} {item next : PathItem} {m : String × Value} (old : Holds members item)
    (step : item.withEntry m = .ok next) : Holds (members ++ [m]) next := by
  obtain ⟨key, v⟩ := m
  cases key_kind key with
  | verb verb names =>
    rw [withEntry_verb names] at step
    obtain ⟨op, read, rfl⟩ := ok_of_map step
    refine ⟨?_, ?_⟩
    · rw [List.filter_append, List.filter_cons_of_pos (by exact names.isVerb)]
      exact List.rel_append old.operations (.cons ⟨names, ok_of_mapError read⟩ .nil)
    · simpa [names.unshared] using old.parameters
  | shared shared =>
    rw [withEntry_shared shared] at step
    obtain ⟨list, read, rfl⟩ := ok_of_map step
    refine ⟨?_, ?_⟩
    · simpa [unnamed_of_isShared shared] using old.operations
    · simpa [shared] using read
  | other unnamed unshared =>
    rw [withEntry_other unnamed unshared] at step
    cases step
    exact ⟨by simpa [unnamed] using old.operations, by simpa [unshared] using old.parameters⟩

/-! ## Complaints -/

/-- A list has the complaint of its first member that has any. -/
def First {α : Type} (Complains : α → String → Prop) (list : List α) (text : String) : Prop :=
  ∃ before a after, list = before ++ a :: after ∧ Complains a text ∧ ∀ earlier ∈ before, ∀ t, ¬ Complains earlier t

/-- The wording of the mismatch that a reading ends with, if it does. -/
def complaint? {α : Type} (x : Except Mismatch α) : Option String := (failure? x).map Mismatch.message

theorem complaint?_eq_some {α : Type} {x : Except Mismatch α} {text : String} :
    complaint? x = some text ↔ ∃ fault, x = .error fault ∧ fault.message = text := by
  simp only [complaint?, Option.map_eq_some_iff, failure?_eq_some]

theorem complaint?_eq_none {α : Type} {x : Except Mismatch α} : complaint? x = none ↔ ∃ a, x = .ok a := by
  cases x <;> simp [complaint?, failure?]

theorem complaint?_map {α β : Type} (f : α → β) (x : Except Mismatch α) : complaint? (x.map f) = complaint? x := by
  rw [complaint?, failure?_map, complaint?]

theorem complaint?_under {α : Type} (key : String) (x : Except Mismatch α) :
    complaint? (x.mapError (.under key)) = (complaint? x).map (key ++ ": " ++ ·) := by
  cases x <;> rfl

theorem findSome?_first {α : Type} {f : α → Option String} {Complains : α → String → Prop}
    (means : ∀ a t, f a = some t ↔ Complains a t) {list : List α} {text : String} :
    list.findSome? f = some text ↔ First Complains list text := by
  have silent (a : α) : f a = none ↔ ∀ t, ¬ Complains a t := by
    simp only [Option.eq_none_iff_forall_ne_some, ne_eq, means]
  simp only [List.findSome?_eq_some_iff, First, means, silent]

/-! ## Complaints about path items -/

/-- The complaint about a member of a path item, if there is one. What was read before does not matter for it. -/
def memberComplaint? (m : String × Value) : Option String := complaint? (PathItem.empty.withEntry m)

theorem failure?_withEntry (item : PathItem) (m : String × Value) :
    failure? (item.withEntry m) = failure? (PathItem.empty.withEntry m) := by
  obtain ⟨key, v⟩ := m
  cases key_kind key with
  | verb verb names => rw [withEntry_verb names, withEntry_verb names, failure?_map, failure?_map]
  | shared shared => rw [withEntry_shared shared, withEntry_shared shared, failure?_map, failure?_map]
  | other unnamed unshared => rw [withEntry_other unnamed unshared, withEntry_other unnamed unshared]; rfl

theorem memberComplaint?_verb {key : String} {verb : Verb} (names : Names key verb) (v : Value) :
    memberComplaint? (key, v) = (complaint? (Operation.shape v)).map (key ++ ": " ++ ·) := by
  rw [memberComplaint?, withEntry_verb names, complaint?_map, complaint?_under]

theorem memberComplaint?_shared {key : String} (shared : isShared key = true) (v : Value) :
    memberComplaint? (key, v) = complaint? (Shape.list ParameterEntry.shape v) := by
  rw [memberComplaint?, withEntry_shared shared, complaint?_map]

theorem memberComplaint?_other {key : String} (unnamed : isVerb key = false) (unshared : isShared key = false)
    (v : Value) : memberComplaint? (key, v) = none := by
  rw [memberComplaint?, withEntry_other unnamed unshared]
  rfl

theorem memberComplaint?_eq_some (m : String × Value) (text : String) :
    memberComplaint? m = some text ↔ MemberComplaint m text := by
  obtain ⟨key, v⟩ := m
  constructor
  · intro complains
    cases key_kind key with
    | verb verb names =>
      rw [memberComplaint?_verb names, Option.map_eq_some_iff] at complains
      obtain ⟨_, complains, rfl⟩ := complains
      obtain ⟨fault, unread, rfl⟩ := complaint?_eq_some.mp complains
      exact .operation names.isVerb unread
    | shared shared =>
      rw [memberComplaint?_shared shared] at complains
      obtain ⟨fault, unread, rfl⟩ := complaint?_eq_some.mp complains
      exact .parameters shared unread
    | other unnamed unshared =>
      rw [memberComplaint?_other unnamed unshared] at complains
      cases complains
  · rintro (⟨named, unread⟩ | ⟨shared, unread⟩)
    · obtain ⟨verb, names⟩ := names_of_isVerb named
      rw [memberComplaint?_verb names, unread]
      rfl
    · rw [memberComplaint?_shared shared, unread]
      rfl

theorem memberComplaint?_eq_none (m : String × Value) : memberComplaint? m = none ↔ ValidMember m := by
  obtain ⟨key, v⟩ := m
  constructor
  · intro silent
    refine ⟨fun named => ?_, fun shared => ?_⟩
    · obtain ⟨verb, names⟩ := names_of_isVerb named
      rw [memberComplaint?_verb names, Option.map_eq_none_iff] at silent
      exact complaint?_eq_none.mp silent
    · rw [memberComplaint?_shared shared] at silent
      exact complaint?_eq_none.mp silent
  · intro valid
    cases key_kind key with
    | verb verb names =>
      rw [memberComplaint?_verb names, Option.map_eq_none_iff]
      exact complaint?_eq_none.mpr (valid.operation names.isVerb)
    | shared shared =>
      rw [memberComplaint?_shared shared]
      exact complaint?_eq_none.mpr (valid.parameters shared)
    | other unnamed unshared => exact memberComplaint?_other unnamed unshared v

theorem shape_object (members : Entries) :
    PathItem.shape (.object members) = members.foldlM PathItem.withEntry PathItem.empty := rfl

theorem object_or_plain (v : Value) : (∃ members, v = .object members) ∨ ∀ members, v ≠ .object members := by
  cases v <;> simp

theorem shape_plain {v : Value} (plain : ∀ members, v ≠ .object members) :
    PathItem.shape v = .error (.kind v "a map") := by
  cases v with
  | object members => exact absurd rfl (plain members)
  | _ => rfl

/-- A path item complains as its first member does that complains. -/
theorem complaint?_object (members : Entries) :
    complaint? (PathItem.shape (.object members)) = members.findSome? memberComplaint? := by
  rw [complaint?, shape_object, failure?_foldlM failure?_withEntry, List.map_findSome?]
  rfl

/-- What is read from an object is what its members declare. -/
theorem shape_holds {members : Entries} {item : PathItem} (read : PathItem.shape (.object members) = .ok item) :
    Holds members item :=
  foldlM_states (f := PathItem.withEntry) (P := Holds) holds_nil (fun _ _ _ _ old step => old.concat step) read

/-! ## Entries under `paths` -/

/-- The entries under `paths` that are not extensions. -/
def listed (entries : Entries) : Entries := entries.filter fun e => !isExtension e.1

/-- A path item is an object of valid members. -/
def ValidItem (v : Value) : Prop := ∃ members, v = .object members ∧ ∀ m ∈ members, ValidMember m

/-- The complaint about an entry under `paths`. It starts with the path. -/
inductive PathComplaint : String × Value → String → Prop where
  | kind {path : String} {v : Value} (plain : ∀ members, v ≠ .object members) :
      PathComplaint (path, v) (path ++ ": " ++ (Mismatch.kind v "a map").message)
  | member {path : String} {members : Entries} {text : String} (first : First MemberComplaint members text) :
      PathComplaint (path, .object members) (path ++ ": " ++ text)

/-- An entry under `paths` is read into a path with its item. -/
def itemOf (e : String × Value) : Except Mismatch (String × PathItem) :=
  ((PathItem.shape e.2).mapError (.under e.1)).map (e.1, ·)

theorem pathsShape_object (entries : Entries) : pathsShape (.object entries) = (listed entries).mapM itemOf := rfl

theorem complaint?_itemOf (path : String) (v : Value) :
    complaint? (itemOf (path, v)) = (complaint? (PathItem.shape v)).map (path ++ ": " ++ ·) := by
  rw [itemOf, complaint?_map, complaint?_under]

theorem complaint?_itemOf_eq_some (e : String × Value) (text : String) :
    complaint? (itemOf e) = some text ↔ PathComplaint e text := by
  obtain ⟨path, v⟩ := e
  rw [complaint?_itemOf, Option.map_eq_some_iff]
  constructor
  · rintro ⟨inner, complains, rfl⟩
    rcases object_or_plain v with ⟨members, rfl⟩ | plain
    · rw [complaint?_object, findSome?_first memberComplaint?_eq_some] at complains
      exact .member complains
    · rw [shape_plain plain] at complains
      cases complains
      exact .kind plain
  · rintro (⟨plain⟩ | ⟨first⟩)
    · exact ⟨_, by rw [shape_plain plain]; rfl, rfl⟩
    · exact ⟨_, by rw [complaint?_object, findSome?_first memberComplaint?_eq_some]; exact first, rfl⟩

theorem complaint?_itemOf_eq_none (e : String × Value) : complaint? (itemOf e) = none ↔ ValidItem e.2 := by
  obtain ⟨path, v⟩ := e
  rw [complaint?_itemOf, Option.map_eq_none_iff]
  rcases object_or_plain v with ⟨members, rfl⟩ | plain
  · simp [complaint?_object, memberComplaint?_eq_none, ValidItem]
  · rw [shape_plain plain]
    simp only [complaint?, failure?, Option.map_some, reduceCtorEq, false_iff]
    rintro ⟨members, same, _⟩
    exact plain members same

/-- Reading `paths` complains as the first entry does that complains. -/
theorem complaint?_pathsShape (entries : Entries) :
    complaint? (pathsShape (.object entries)) = (listed entries).findSome? fun e => complaint? (itemOf e) := by
  rw [complaint?, pathsShape_object, failure?_mapM, List.map_findSome?]
  rfl

theorem pathsShape_succeeds (entries : Entries) :
    (∃ paths, pathsShape (.object entries) = .ok paths) ↔ ∀ e ∈ listed entries, ValidItem e.2 := by
  rw [← complaint?_eq_none, complaint?_pathsShape, List.findSome?_eq_none_iff]
  simp only [complaint?_itemOf_eq_none]

theorem pathsShape_fails (entries : Entries) (text : String) :
    (∃ fault, pathsShape (.object entries) = .error fault ∧ fault.message = text) ↔
      First PathComplaint (listed entries) text := by
  rw [← complaint?_eq_some, complaint?_pathsShape, findSome?_first complaint?_itemOf_eq_some]

theorem pathsShape_holds {entries : Entries} {paths : List (String × PathItem)}
    (read : pathsShape (.object entries) = .ok paths) :
    List.Forall₂ (fun e p => p.1 = e.1 ∧ ∃ members, e.2 = .object members ∧ Holds members p.2)
      (listed entries) paths := by
  refine (forall₂_of_mapM read).imp fun e p made => ?_
  obtain ⟨item, shaped, rfl⟩ := ok_of_map made
  have read := ok_of_mapError shaped
  obtain ⟨members, object, _⟩ := ok_of_bind read
  have same : e.2 = .object members := object_faithful e.2 members object
  rw [same] at read
  exact ⟨rfl, members, same, shape_holds read⟩

/-! ## What is passed over -/

/-- A path item without the members that are neither verbs nor `parameters`. -/
def consultedItem : Value → Value
  | .object members => .object (members.filter fun m => isVerb m.1 || isShared m.1)
  | v => v

/-- The entries under `paths` without what reading passes over: without extensions, and without the other keys
of path items. -/
def consulted (entries : Entries) : Entries := (listed entries).map fun e => (e.1, consultedItem e.2)

theorem shape_consultedItem (v : Value) : PathItem.shape (consultedItem v) = PathItem.shape v := by
  have passes : (fun (item : PathItem) (m : String × Value) =>
      if (isVerb m.1 || isShared m.1) = true then item.withEntry m else pure item) = PathItem.withEntry := by
    funext item m
    split
    next => rfl
    next passed =>
      simp only [Bool.or_eq_true, not_or, Bool.not_eq_true] at passed
      exact (withEntry_other passed.1 passed.2 item m.2).symm
  cases v with
  | object members => rw [consultedItem, shape_object, shape_object, List.foldlM_filter, passes]
  | _ => rfl

theorem pathsShape_consulted (entries : Entries) :
    pathsShape (.object entries) = (consulted entries).mapM itemOf := by
  have same : itemOf ∘ (fun e => (e.1, consultedItem e.2)) = itemOf := by
    funext e
    simp only [itemOf, Function.comp, shape_consultedItem]
  rw [pathsShape_object, consulted, List.mapM_map, same]

/-! ## Main theorem -/

/-- Reading `paths` from an object: when it succeeds, what it reads, what it complains about, and that it depends
on nothing that it passes over. -/
theorem paths_accounted (entries : Entries) :
    ((∃ paths, pathsShape (.object entries) = .ok paths) ↔
      ∀ e ∈ entries, isExtension e.1 = false → ValidItem e.2) ∧
    (∀ paths, pathsShape (.object entries) = .ok paths →
      List.Forall₂ (fun e p => p.1 = e.1 ∧ ∃ members, e.2 = .object members ∧ Holds members p.2)
        (listed entries) paths) ∧
    (∀ text, (∃ fault, pathsShape (.object entries) = .error fault ∧ fault.message = text) ↔
      First PathComplaint (listed entries) text) ∧
    ∀ entries', consulted entries' = consulted entries →
      pathsShape (.object entries') = pathsShape (.object entries) := by
  refine ⟨?_, fun _ => pathsShape_holds, pathsShape_fails entries, fun entries' same => ?_⟩
  · rw [pathsShape_succeeds]
    simp [listed]
  · rw [pathsShape_consulted, pathsShape_consulted, same]

/-- Paths with an extension, with two operations of one verb, and with a key that is passed over. -/
def mixedPaths : Entries :=
  [("x-audit", .bool true),
    ("/items", .object
      [("get", .object []), ("PARAMETERS", .array []), ("$ref", .null), ("GET", .object []),
        ("parameters", .array [.object [("$ref", .string "#/parameters/page")]])])]

/-- The same paths without what is passed over. -/
def consultedPaths : Entries :=
  [("/items", .object
    [("get", .object []), ("PARAMETERS", .array []), ("GET", .object []),
      ("parameters", .array [.object [("$ref", .string "#/parameters/page")]])])]

theorem paths_accounted_mixed :
    (∃ paths, pathsShape (.object mixedPaths) = .ok paths ∧
      List.Forall₂ (fun e p => p.1 = e.1 ∧ ∃ members, e.2 = .object members ∧ Holds members p.2)
        (listed mixedPaths) paths) ∧
    consulted mixedPaths = consulted consultedPaths ∧
    pathsShape (.object mixedPaths) = pathsShape (.object consultedPaths) ∧
    ∃ fault, pathsShape (.object (("/lost", .object [("Put", .bool true)]) :: mixedPaths)) = .error fault ∧
      fault.message = "/lost: Put: invalid type: boolean `true`, expected struct Operation" := by
  have same : consulted mixedPaths = consulted consultedPaths := rfl
  have wording : "/lost: Put: invalid type: boolean `true`, expected struct Operation" =
      "/lost" ++ ": " ++ ("Put" ++ ": " ++ (Mismatch.kind (.bool true) "struct Operation").message) := by
    decide +kernel
  have lost : MemberComplaint ("Put", .bool true)
      ("Put" ++ ": " ++ (Mismatch.kind (.bool true) "struct Operation").message) :=
    .operation (by decide +kernel) rfl
  refine ⟨?_, same, (paths_accounted consultedPaths).2.2.2 mixedPaths same, ?_⟩
  · obtain ⟨paths, read⟩ : ∃ paths, pathsShape (.object mixedPaths) = .ok paths := ⟨_, rfl⟩
    exact ⟨paths, read, (paths_accounted mixedPaths).2.1 paths read⟩
  · rw [wording]
    exact ((paths_accounted _).2.2.1 _).mpr ⟨[], _, _, rfl, .member ⟨[], _, [], rfl, lost, by simp⟩, by simp⟩

example : (pathsShape (.object mixedPaths)).map (·.map fun p => (p.1, p.2.operations.map (·.1), p.2.parameters)) =
    .ok [("/items", [.get, .get], [.reference "#/parameters/page" none none])] := by
  rfl

end ApiBindings.PathReading
