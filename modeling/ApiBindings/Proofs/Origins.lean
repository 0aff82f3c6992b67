import ApiBindings.Proofs.Readings

/-!
# Where parameters and responses come from

The objects of a document, as a JSON value, that its methods are given: the parameter objects that the entries of an
operation and of its path stand for, and the response objects of the operation. A document that is read binds and
declares what is read from them, one by one and in order (`bindings_read`, `declared_read`).
-/

namespace ApiBindings.Origins
open ApiBindings.Json ApiBindings.Document ApiBindings.View ApiBindings.Walks ApiBindings.Bindings ApiBindings.Readings
open ApiBindings.DerivedKeys (members declared written valuesIn)

/-! ## Objects in a document -/

/-- The items of an array, if there is one. -/
def itemsOf (value? : Option Value) : List Value := (value?.bind Value.items?).getD []

/-- The entries of an object, if there is one. -/
def fieldsOf (value? : Option Value) : Entries := (value?.bind Value.entries?).getD []

/-- Flags of an object that keep a parameter out. -/
def flagged (object : Value) : Bool :=
  object.get? "x-exclude-from-bindings" == some (.bool true) || (object.get? "x-proxy-header").any isTruthy

/-- The parameter object that an entry of a parameter list stands for: one of the shared ones if the entry has the
    text of a reference, else itself. -/
def referred? (shared : Entries) (entry : Value) : Option Value :=
  match entry.get? "$ref" with
  | some (.string target) => shared.find? (sharedParameterName target)
  | _ => some entry

/-- The parameter object that an entry binds: the one it stands for, unless flags of either keep it out. -/
def boundObject? (shared : Entries) (entry : Value) : Option Value :=
  (referred? shared entry).filter fun object => !flagged entry && !flagged object

/-- The operations of a path item, under the keys that name a verb. -/
def operationsOf (item : Value) : List Value :=
  (fieldsOf (some item)).filterMap fun e => (Verb.ofKey? e.1).map fun _ => e.2

/-- The parameter entries of a path item; of several such keys the last one counts. -/
def pathParameters (item : Value) : List Value :=
  itemsOf (((fieldsOf (some item)).filter fun e => sameUpToCase e.1 "parameters").getLast?.map (·.2))

/-- The path items of a 2.0 document. -/
def pathItems (document : Value) : List Value :=
  ((fieldsOf (document.get? "paths")).filter fun e => !isExtension e.1).map (·.2)

/-- The paths of a 1.x document. -/
def apisOf (document : Value) : List Value := itemsOf (member? "apis" 4 document)

/-- The operations of a path of a 1.x document that are not passed over. -/
def apiOperations (api : Value) : List Value :=
  (itemsOf (member? "operations" 2 api)).filter fun op =>
    !((member? "method" 0 op).bind Value.text?).any fun method => sameUpToCase method "OPTIONS"

/-- The parameter objects that the operations of a document bind, one by one in document order. -/
def boundObjects (document : Value) : List (List Value) :=
  if isVersionTwo document then
    (pathItems document).flatMap fun item => (operationsOf item).map fun op =>
      (itemsOf (member? "parameters" 5 op) ++ pathParameters item).filterMap
        (boundObject? (fieldsOf (document.get? "parameters")))
  else
    (apisOf document).flatMap fun api => (apiOperations api).map fun op =>
      (itemsOf (member? "parameters" 4 op)).filter fun object => !flagged object

/-- The responses that the operations of a document declare, under their status keys. -/
def responseObjects (document : Value) : List Entries :=
  if isVersionTwo document then
    (pathItems document).flatMap fun item => (operationsOf item).map fun op => fieldsOf (member? "responses" 6 op)
  else
    (apisOf document).flatMap fun api => (apiOperations api).map fun _ => []

/-! ## Lists and maps -/

section Collections
variable {α β : Type}

theorem forall₂_of_mapM {ε : Type} {f : α → Except ε β} {list : List α} {made : List β} (run : list.mapM f = .ok made) :
    List.Forall₂ (fun a b => f a = .ok b) list made := by
  induction list generalizing made with
  | nil =>
    cases run
    exact .nil
  | cons a rest ih =>
    obtain ⟨b, others, first, later, rfl⟩ := ok_of_mapM_cons run
    exact .cons first (ih later)

theorem items_read {shape : Shape α} {absent : Option (List α)} {value? : Option Value} {list : List α}
    (default : ∀ a, absent = some a → a = []) (given : Given (.list shape) absent value? list) :
    List.Forall₂ (fun v a => shape v = .ok a) (itemsOf value?) list := by
  cases value? with
  | none =>
    rw [default list given]
    exact .nil
  | some v =>
    cases v with
    | array items => exact forall₂_of_mapM given
    | _ => cases given

/-- An entry is read with its key. -/
def EntryReads (shape : Shape α) (e : String × Value) (a : String × α) : Prop := e.1 = a.1 ∧ shape e.2 = .ok a.2

theorem entries_read {shape : Shape α} {absent : Option (List (String × α))} {value? : Option Value}
    {list : List (String × α)} (default : ∀ a, absent = some a → a = [])
    (given : Given (.map shape) absent value? list) :
    List.Forall₂ (EntryReads shape) (fieldsOf value?) list := by
  cases value? with
  | none =>
    rw [default list given]
    exact .nil
  | some v =>
    cases v with
    | object entries =>
      refine (forall₂_of_mapM given).imp fun e a made => ?_
      obtain ⟨b, shaped, rfl⟩ := ok_of_map made
      exact ⟨rfl, shaped⟩
    | _ => cases given

theorem lookup_read {shape : Shape α} {entries : Entries} {list : List (String × α)}
    (read : List.Forall₂ (EntryReads shape) entries list) (key : String) :
    Option.Rel (fun v a => shape v = .ok a) (entries.find? key) (list.lookup key) := by
  induction read with
  | nil => exact .none
  | @cons e a rest others first _ ih =>
    obtain ⟨k, v⟩ := e
    obtain ⟨k', b⟩ := a
    obtain ⟨rfl, shaped⟩ := first
    dsimp only at shaped
    rw [Entries.find?, List.lookup_cons, List.lookup_cons]
    cases key == k with
    | true => exact .some shaped
    | false => exact ih

theorem rel_optionFilter {R : α → β → Prop} {p : α → Bool} {q : β → Bool} {a? : Option α} {b? : Option β}
    (related : Option.Rel R a? b?) (same : ∀ a b, R a b → p a = q b) : Option.Rel R (a?.filter p) (b?.filter q) := by
  cases related with
  | none => exact .none
  | @some a b both =>
    rw [Option.filter_some, Option.filter_some, same a b both]
    split
    · exact .some both
    · exact .none

end Collections

/-! ## Parameters -/

/-- What a parameter is written with under a key that it knows: `required` always, the others unless they are null. -/
def written? (object : Value) (key : String) : Option Value :=
  if key = "required" then some ((object.get? key).getD (.bool false)) else notNull (object.get? key)

/-- A parameter is read from an object: its members are the values there, and it keeps all other entries. -/
structure ParameterRead (entries : Entries) (p : Parameter) : Prop where
  members : members p = Parameter.knownKeys.map fun key => (key, written? (.object entries) key)
  others : p.others = entries.filter fun e => !Parameter.knownKeys.contains e.1

theorem parameter_read {v : Value} {p : Parameter} (read : Parameter.shape v = .ok p) :
    ∃ entries, v = .object entries ∧ ParameterRead entries p := by
  refine fromObject_takes (n := 13) ?_ read
  refine takes_seq (takes_others Parameter.knownKeys) ?_
  refine takes_seq (takes_optional text_faithful) ?_
  refine takes_seq (takes_optional any_faithful) ?_
  refine takes_seq (takes_optional flag_faithful) ?_
  refine takes_seq (takes_optional object_faithful) ?_
  refine takes_seq (takes_optional any_faithful) ?_
  refine takes_seq (takes_optional items_faithful) ?_
  refine takes_seq (takes_optional text_faithful) ?_
  refine takes_seq (takes_optional text_faithful) ?_
  refine takes_seq (takes_defaulted flag_faithful) ?_
  refine takes_seq (takes_optional text_faithful) ?_
  refine takes_seq (takes_optional text_faithful) ?_
  refine takes_seq (takes_optional text_faithful) ?_
  refine takes_seq (takes_required text_faithful) (takes_pure ?_)
  rintro _ name named place atPlace paramType atParamType description atDescription required atRequired type atType
    format atFormat enum atEnum items atItems schema atSchema excluded atExcluded proxyHeader atProxyHeader
    namePattern atPattern others kept entries rfl
  have text : notNull (some (.string name)) = some (.string name) := rfl
  refine ⟨?_, kept entries rfl⟩
  simp only [member?] at *
  simp only [DerivedKeys.members, Parameter.knownKeys, List.map_cons, List.map_nil, written?, Value.get?,
    Value.entries?, Option.bind_some, named, text, atPlace, atParamType, atDescription, atRequired, atType, atFormat,
    atEnum, atSchema, atExcluded, atPattern, Option.map_id, id, ← atItems, ← atProxyHeader]
  rfl

/-- What a parameter is written with. -/
theorem parameter_values {entries : Entries} {p : Parameter} (read : ParameterRead entries p) (key : String) :
    valuesIn key (written (DerivedKeys.members p) ++ p.others) =
      if key ∈ Parameter.knownKeys then (written? (.object entries) key).toList else valuesIn key entries := by
  rw [read.members, read.others]
  exact valuesIn_rewritten (by decide) (written? (.object entries)) entries key

/-- What a parameter has for an optional member is the value there, unless that is null. -/
theorem ParameterRead.optional {entries : Entries} {p : Parameter} (holds : ParameterRead entries p) {key : String}
    {value? : Option Value} (listed : (key, value?) ∈ DerivedKeys.members p) (optional : key ≠ "required") :
    value? = notNull ((Value.object entries).get? key) := by
  rw [holds.members] at listed
  obtain ⟨_, _, same⟩ := List.mem_map.mp listed
  cases same
  rw [written?, if_neg optional]

section Optional
variable {entries : Entries} {p : Parameter} (holds : ParameterRead entries p)
include holds

theorem ParameterRead.place : p.place.map .string = notNull ((Value.object entries).get? "in") :=
  holds.optional (by simp [DerivedKeys.members]) (by decide)

theorem ParameterRead.paramType : p.paramType.map .string = notNull ((Value.object entries).get? "paramType") :=
  holds.optional (by simp [DerivedKeys.members]) (by decide)

theorem ParameterRead.namePattern :
    p.namePattern.map .string = notNull ((Value.object entries).get? "x-name-pattern") :=
  holds.optional (by simp [DerivedKeys.members]) (by decide)

theorem ParameterRead.excluded :
    p.excluded.map .bool = notNull ((Value.object entries).get? "x-exclude-from-bindings") :=
  holds.optional (by simp [DerivedKeys.members]) (by decide)

theorem ParameterRead.proxyHeader : p.proxyHeader = notNull ((Value.object entries).get? "x-proxy-header") :=
  holds.optional (by simp [DerivedKeys.members]) (by decide)

end Optional

/-- Flags are read as they stand; null is no flag. -/
theorem flags_read {v : Value} {excluded : Option Bool} {proxyHeader : Option Value}
    (atExcluded : excluded.map .bool = notNull (v.get? "x-exclude-from-bindings"))
    (atProxyHeader : proxyHeader = notNull (v.get? "x-proxy-header")) :
    flagged v = true ↔ KeptOut excluded proxyHeader := by
  have excludes : v.get? "x-exclude-from-bindings" = some (.bool true) ↔ excluded = some true :=
    (eq_some_iff (fun _ _ => Value.bool.inj) nofun atExcluded).symm
  have proxied : (v.get? "x-proxy-header").any isTruthy = true ↔ ∃ u, proxyHeader = some u ∧ isTruthy u = true := by
    simp only [atProxyHeader, notNull, Option.any_eq_true, Option.filter_eq_some_iff, decide_eq_true_eq]
    refine exists_congr fun u => ⟨?_, ?_⟩
    · rintro ⟨here, truthy⟩
      refine ⟨⟨here, ?_⟩, truthy⟩
      rintro rfl
      cases truthy
    · rintro ⟨⟨here, _⟩, truthy⟩
      exact ⟨here, truthy⟩
  rw [flagged, Bool.or_eq_true, beq_iff_eq, excludes, proxied, KeptOut]

theorem parameter_flags {v : Value} {p : Parameter} (read : Parameter.shape v = .ok p) :
    flagged v = true ↔ ParameterOut p := by
  obtain ⟨entries, rfl, holds⟩ := parameter_read read
  exact flags_read holds.excluded holds.proxyHeader

/-! ## Entries of a parameter list -/

/-- What an entry was read from: an object with the text of a reference and with its flags, or a parameter object
    without such a text. -/
inductive EntryRead : Value → ParameterEntry → Prop
  | reference {v : Value} {target : String} {excluded : Option Bool} {proxyHeader : Option Value}
    (text : v.get? "$ref" = some (.string target))
    (atExcluded : excluded.map .bool = notNull (v.get? "x-exclude-from-bindings"))
    (atProxyHeader : proxyHeader = notNull (v.get? "x-proxy-header")) :
    EntryRead v (.reference target excluded proxyHeader)
  | inline {v : Value} {p : Parameter} (plain : ∀ target, v.get? "$ref" ≠ some (.string target))
    (read : Parameter.shape v = .ok p) : EntryRead v (.inline p)

theorem ofEntries_keyed {α : Type} {key : String} {shape : Shape α} {absent short : Option α} {entries : Entries}
    {a : α} (given : Given shape absent (entries.find? key) a) :
    (Members.keyed key shape absent short).ofEntries entries = .ok a := by
  have found := locate_eq key 0 entries
  dsimp only [Members.keyed]
  rw [← found] at given
  cases here : Members.locate key 0 entries with
  | some place =>
    rw [here] at given
    have shaped : shape place.2 = .ok a := given
    simp [shaped, Except.mapError]
  | none =>
    rw [here] at given
    have default : absent = some a := given
    simp [default]

theorem ofEntries_seq {α β : Type} {f : Members (α → β)} {x : Members α} {entries : Entries} {g : α → β} {a : α}
    (first : f.ofEntries entries = .ok g) (second : x.ofEntries entries = .ok a) :
    (f <*> x).ofEntries entries = .ok (g a) := by
  show (Members.seq f fun _ => x).ofEntries entries = _
  simp only [Members.seq, first, second]

/-- A parameter object with the text of a reference can be read as a reference. -/
theorem reference_read {entries : Entries} {target : String} {p : Parameter}
    (text : entries.find? "$ref" = some (.string target)) (holds : ParameterRead entries p) :
    ParameterEntry.referenceMembers.ofEntries entries = .ok (.reference target p.excluded p.proxyHeader) := by
  refine ofEntries_seq (ofEntries_seq (ofEntries_seq rfl (ofEntries_keyed ?_)) (ofEntries_keyed ?_))
    (ofEntries_keyed ?_)
  · rw [text]
    rfl
  · exact given_nullable (fun b : Bool => (rfl : Shape.flag (.bool b) = .ok b)) holds.excluded
  · exact given_nullable (fun v : Value => (rfl : Shape.any (id v) = .ok v))
      ((congrFun Option.map_id p.proxyHeader).trans holds.proxyHeader)

theorem entry_read {v : Value} {entry : ParameterEntry} (read : ParameterEntry.shape v = .ok entry) :
    EntryRead v entry := by
  unfold ParameterEntry.shape at read
  split at read
  · rename_i e asReference
    cases read
    have takes : ∃ entries, v = .object entries ∧ EntryRead (.object entries) entry := by
      refine fromObject_takes (n := 3) ?_ asReference
      refine takes_seq (takes_optional any_faithful) ?_
      refine takes_seq (takes_optional flag_faithful) ?_
      refine takes_seq (takes_required text_faithful) (takes_pure ?_)
      rintro _ target text excluded atExcluded proxyHeader atProxyHeader entries rfl
      rw [Option.map_id] at atProxyHeader
      exact .reference text atExcluded atProxyHeader
    obtain ⟨entries, rfl, holds⟩ := takes
    exact holds
  · rename_i failure noReference
    split at read
    · rename_i p asParameter
      cases read
      refine .inline ?_ asParameter
      intro target text
      obtain ⟨entries, rfl, holds⟩ := parameter_read asParameter
      have reads := reference_read text holds
      simp [Members.fromObject, reads, Except.mapError] at noReference
    · cases read

theorem entry_flags {v : Value} {entry : ParameterEntry} (read : EntryRead v entry) :
    flagged v = true ↔ EntryOut entry := by
  cases read with
  | reference _ atExcluded atProxyHeader => exact flags_read atExcluded atProxyHeader
  | inline _ read => exact parameter_flags read

/-- What an entry binds is read from the object that it binds. -/
theorem binding_read {s : Specification} {shared : Entries}
    (sharedRead : List.Forall₂ (EntryReads Parameter.shape) shared s.parameters) {v : Value} {entry : ParameterEntry}
    (read : EntryRead v entry) :
    Option.Rel (fun v p => Parameter.shape v = .ok p) (boundObject? shared v) (binding? s entry) := by
  have resolved : Option.Rel (fun v p => Parameter.shape v = .ok p) (referred? shared v) (resolution? s entry) := by
    cases read with
    | reference text =>
      rw [referred?, text]
      exact lookup_read sharedRead _
    | inline plain read =>
      unfold referred?
      split
      · rename_i target text
        exact absurd text (plain target)
      · exact .some read
  refine rel_optionFilter resolved fun object p shaped => ?_
  simp only [← entry_flags read, ← parameter_flags shaped]
  cases flagged v <;> cases flagged object <;> rfl

/-! ## Operations and paths -/

/-- What the parts of an operation were read from. -/
structure OperationRead (v : Value) (op : Operation) : Prop where
  parameters : List.Forall₂ EntryRead (itemsOf (member? "parameters" 5 v)) op.parameters
  responses : List.Forall₂ (EntryReads Response.shape) (fieldsOf (member? "responses" 6 v)) op.responses

theorem operation_read {v : Value} {op : Operation} (read : Operation.shape v = .ok op) : OperationRead v op := by
  refine fromObjectOrArray_takes (n := 11) ?_ read
  iterate 4 refine takes_skip (by simp) ?_
  refine takes_seq (takes_keyed (by simp)) (takes_seq (takes_keyed (by simp)) ?_)
  iterate 5 refine takes_skip (by simp) ?_
  refine takes_pure fun v _ _ _ _ _ parameters atParameters responses atResponses _ _ _ _ => ⟨?_, ?_⟩
  · exact (items_read (by simp) atParameters).imp fun _ _ => entry_read
  · exact entries_read (by simp) atResponses

/-- What the parts of a path item were read from. -/
structure PathItemRead (v : Value) (item : PathItem) : Prop where
  operations : List.Forall₂ (fun v op => OperationRead v op.2) (operationsOf v) item.operations
  parameters : List.Forall₂ EntryRead (pathParameters v) item.parameters

theorem verb_parameters {key : String} (shared : sameUpToCase key "parameters" = true) : Verb.ofKey? key = none := by
  have upper : asciiUpper key = "PARAMETERS" := by
    rw [sameUpToCase, beq_iff_eq] at shared
    exact shared.trans (by decide +kernel)
  rw [Verb.ofKey?, upper]
  decide +kernel

/-- The entries of a path item are read one by one: a verb adds an operation, and each `parameters` takes the place of
    those before. -/
theorem pathItem_read {v : Value} {item : PathItem} (read : PathItem.shape v = .ok item) : PathItemRead v item := by
  obtain ⟨entries, shaped, read⟩ := ok_of_bind read
  have same : v = .object entries := object_faithful v entries shaped
  subst same
  refine foldlM_states (f := PathItem.withEntry) (P := fun (done : Entries) item => PathItemRead (.object done) item)
    ⟨.nil, .nil⟩ ?_ read
  rintro done ⟨key, v⟩ item next old step
  have operations : operationsOf (.object (done ++ [(key, v)])) =
      operationsOf (.object done) ++ ((Verb.ofKey? key).map fun _ => v).toList := by
    cases verb : Verb.ofKey? key <;> simp [operationsOf, fieldsOf, Value.entries?, verb]
  have parameters : pathParameters (.object (done ++ [(key, v)])) =
      if sameUpToCase key "parameters" then itemsOf (some v) else pathParameters (.object done) := by
    cases shared : sameUpToCase key "parameters" <;> simp [pathParameters, fieldsOf, Value.entries?, shared]
  unfold PathItem.withEntry at step
  split at step
  · rename_i shared
    obtain ⟨list, made, same⟩ := ok_of_bind step
    cases same
    rw [verb_parameters shared] at operations
    rw [if_pos shared] at parameters
    refine ⟨?_, ?_⟩
    · rw [operations]
      simpa using old.operations
    · have given : Given (.list ParameterEntry.shape) none (some v) list := made
      rw [parameters]
      exact (items_read (by simp) given).imp fun _ _ => entry_read
  · rename_i apart
    rw [if_neg apart] at parameters
    cases verb : Verb.ofKey? key with
    | none =>
      rw [verb] at step operations
      cases step
      refine ⟨?_, ?_⟩
      · rw [operations]
        simpa using old.operations
      · rw [parameters]
        exact old.parameters
    | some named =>
      rw [verb] at step operations
      obtain ⟨op, made, same⟩ := ok_of_bind step
      cases same
      refine ⟨?_, ?_⟩
      · rw [operations]
        exact List.rel_append old.operations (.cons (operation_read (ok_of_mapError made)) .nil)
      · rw [parameters]
        exact old.parameters

theorem paths_read {v? : Option Value} {paths : List (String × PathItem)} (given : Given pathsShape none v? paths) :
    List.Forall₂ (fun v p => PathItemRead v p.2) (((fieldsOf v?).filter fun e => !isExtension e.1).map (·.2))
      paths := by
  obtain ⟨v, rfl, read⟩ := given_value given
  obtain ⟨entries, shaped, read⟩ := ok_of_bind read
  have same : v = .object entries := object_faithful v entries shaped
  subst same
  rw [List.forall₂_map_left_iff]
  refine (forall₂_of_mapM read).imp fun e p made => ?_
  obtain ⟨item, shaped, same⟩ := ok_of_bind made
  cases same
  exact pathItem_read (ok_of_mapError shaped)

/-! ## Documents of both versions -/

/-- What the parts of a 2.0 document were read from. -/
structure SpecificationRead (v : Value) (s : Specification) : Prop where
  info : ∃ info, v.get? "info" = some info ∧ Info.shape info = .ok s.info
  paths : List.Forall₂ (fun v p => PathItemRead v p.2) (pathItems v) s.paths
  shared : List.Forall₂ (EntryReads Parameter.shape) (fieldsOf (v.get? "parameters")) s.parameters
  tags : List.Forall₂ (fun v t => Tag.shape v = .ok t) (itemsOf (v.get? "tags")) s.tags

theorem specification_read {entries : Entries} {s : Specification}
    (read : Specification.shape (.object entries) = .ok s) : SpecificationRead (.object entries) s := by
  refine fromObjectOrArray_takes (n := 13) (P := fun v s => ∀ entries, v = .object entries → SpecificationRead v s) ?_
    read entries rfl
  refine takes_seq (takes_keyed (by simp)) ?_
  iterate 2 refine takes_skip (by simp) ?_
  refine takes_seq (takes_keyed (by simp)) ?_
  refine takes_skip (by simp) (takes_seq (takes_keyed (by simp)) ?_)
  iterate 5 refine takes_skip (by simp) ?_
  refine takes_seq (takes_keyed (by simp)) (takes_skip (by simp) (takes_pure ?_))
  rintro _ _ info atInfo _ _ _ _ _ paths atPaths _ shared atShared _ _ tags atTags entries rfl
  exact ⟨given_value atInfo, paths_read atPaths, entries_read (by simp) atShared, items_read (by simp) atTags⟩

/-- What the parts of an operation of a 1.x document were read from. -/
structure ApiOperationRead (v : Value) (op : ApiOperation) : Prop where
  method : member? "method" 0 v = some (.string op.method)
  parameters : List.Forall₂ (fun v p => Parameter.shape v = .ok p) (itemsOf (member? "parameters" 4 v)) op.parameters

theorem apiOperation_read {v : Value} {op : ApiOperation} (read : ApiOperation.shape v = .ok op) :
    ApiOperationRead v op := by
  refine fromObjectOrArray_takes (n := 9) ?_ read
  iterate 4 refine takes_skip (by simp) ?_
  refine takes_seq (takes_keyed (by simp)) ?_
  iterate 3 refine takes_skip (by simp) ?_
  refine takes_seq (takes_required text_faithful) (takes_pure ?_)
  exact fun v method atMethod _ _ _ parameters atParameters _ _ _ _ => ⟨atMethod, items_read (by simp) atParameters⟩

theorem api_read {v : Value} {api : Api} (read : Api.shape v = .ok api) :
    List.Forall₂ ApiOperationRead (itemsOf (member? "operations" 2 v)) api.operations := by
  refine fromObjectOrArray_takes (n := 3)
    (P := fun v api => List.Forall₂ ApiOperationRead (itemsOf (member? "operations" 2 v)) api.operations) ?_ read
  refine takes_seq (takes_keyed (by simp)) (takes_skip (by simp) (takes_skip (by simp) (takes_pure ?_)))
  exact fun v _ _ operations atOperations => (items_read (by simp) atOperations).imp fun _ _ => apiOperation_read

theorem declaration_read {v : Value} {d : Declaration} (read : Declaration.shape v = .ok d) :
    List.Forall₂ (fun v api => Api.shape v = .ok api) (apisOf v) d.apis := by
  refine fromObjectOrArray_takes (n := 8)
    (P := fun v d => List.Forall₂ (fun v api => Api.shape v = .ok api) (apisOf v) d.apis) ?_ read
  iterate 3 refine takes_skip (by simp) ?_
  refine takes_seq (takes_keyed (by simp)) ?_
  iterate 4 refine takes_skip (by simp) ?_
  exact takes_pure fun v _ _ _ _ apis atApis _ _ _ => items_read (by simp) atApis

/-- The operations of a path that become methods are those whose method is not passed over. -/
theorem apiOperations_read {v : Value} {api : Api} (read : Api.shape v = .ok api) :
    List.Forall₂ ApiOperationRead (apiOperations v) (boundOperations api) := by
  refine List.rel_filter ?_ (api_read read)
  intro v op given
  simp [given.method, isPassedOver, Value.text?]

/-! ## Objects of a document that is read -/

/-- A document is read by the version that it declares. -/
theorem shape_version {v : Value} {document : ApiBindings.Document} (read : Document.shape v = .ok document) :
    (isVersionTwo v = true ∧ ∃ s, document = .specification s ∧ SpecificationRead v s) ∨
      (isVersionTwo v = false ∧ ∃ d, document = .declaration d ∧
        List.Forall₂ (fun v api => Api.shape v = .ok api) (apisOf v) d.apis) := by
  unfold Document.shape at read
  cases two : isVersionTwo v with
  | true =>
    obtain ⟨s, given, rfl⟩ := ok_of_map (by simpa [two] using read)
    cases v with
    | object entries => exact .inl ⟨rfl, s, rfl, specification_read given⟩
    | _ => cases two
  | false =>
    obtain ⟨d, given, rfl⟩ := ok_of_map (by simpa [two] using read)
    exact .inr ⟨rfl, d, rfl, declaration_read given⟩

/-- What the operations of a document bind is read from the objects that they bind. -/
theorem bindings_read {v : Value} {document : ApiBindings.Document} (read : Document.shape v = .ok document) :
    List.Forall₂ (List.Forall₂ fun object p => Parameter.shape object = .ok p) (boundObjects v)
      (bindings document) := by
  rcases shape_version read with ⟨two, s, rfl, given⟩ | ⟨one, d, rfl, given⟩
  · rw [boundObjects, if_pos two, bindings]
    refine List.rel_flatMap given.paths fun item p pathRead => List.rel_map ?_ pathRead.operations
    intro v op operationRead
    refine List.rel_filterMap ?_ (List.rel_append operationRead.parameters pathRead.parameters)
    exact fun _ _ entryRead => binding_read given.shared entryRead
  · rw [boundObjects, if_neg (by simp [one]), bindings]
    refine List.rel_flatMap given fun v api apiRead => List.rel_map ?_ (apiOperations_read apiRead)
    intro v op operationRead
    refine List.rel_filter ?_ operationRead.parameters
    intro object p shaped
    simp [← parameter_flags shaped]

/-- The responses that the operations of a document declare are read from their objects. -/
theorem declared_read {v : Value} {document : ApiBindings.Document} (read : Document.shape v = .ok document) :
    List.Forall₂ (List.Forall₂ (EntryReads Response.shape)) (responseObjects v) (declared document) := by
  rcases shape_version read with ⟨two, s, rfl, given⟩ | ⟨one, d, rfl, given⟩
  · rw [responseObjects, if_pos two, declared]
    refine List.rel_flatMap given.paths fun item p pathRead => List.rel_map ?_ pathRead.operations
    exact fun v op operationRead => operationRead.responses
  · rw [responseObjects, if_neg (by simp [one]), declared]
    exact List.rel_flatMap given fun v api apiRead => List.rel_map (fun _ _ _ => .nil) (apiOperations_read apiRead)

end ApiBindings.Origins
