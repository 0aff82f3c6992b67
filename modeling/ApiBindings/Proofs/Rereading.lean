import ApiBindings.Proofs.Origins

/-!
# Entries that are read again

An entry of a parameter list is written as JSON and read again: it comes back as the entry that it was
(`entries_reread`). So nothing is lost or turned into something else after the first reading. What that one leaves out
are members that are null, and whatever stands beside a reference apart from its flags; a `$ref` that is no text makes
no reference, and is kept like any key that means nothing.
-/

namespace ApiBindings.Rereading
open ApiBindings.Json ApiBindings.Document ApiBindings.Readings ApiBindings.Origins
open ApiBindings.DerivedKeys (written key_of_written members toEntries_eq entry?_eq valuesIn valuesUnder)

/-! ## Members that are found where they were written -/

section Members

variable {α : Type}

/-- What is written is read in a shape as it was. -/
def Recovers (shape : Shape α) (toJson : α → Value) : Prop := ∀ a, shape (toJson a) = .ok a

theorem text_recovers : Recovers Shape.text .string := fun _ => rfl

theorem flag_recovers : Recovers Shape.flag .bool := fun _ => rfl

theorem object_recovers : Recovers Shape.object .object := fun _ => rfl

theorem any_recovers : Recovers Shape.any id := fun _ => rfl

theorem items_recovers : Recovers (.list .any) .array := by
  intro items
  show items.mapM Shape.any = _
  induction items with
  | nil => rfl
  | cons v rest ih =>
    rw [List.mapM_cons, ih]
    rfl

/-- An optional member that is written, and not as null, is read as it was. -/
theorem given_again {shape : Shape α} {toJson : α → Value} (recovers : Recovers shape toJson) {a? : Option α}
    {value? : Option Value} (found : value? = a?.map toJson) (solid : a?.map toJson ≠ some .null) :
    Given shape.nullable (some none) value? a? := by
  refine given_nullable recovers ?_
  rw [found]
  cases a? with
  | none => rfl
  | some a =>
    have given : toJson a ≠ .null := fun null => solid (congrArg some null)
    rw [Option.map_some, notNull, Option.filter_some, if_pos (by simpa using given)]

/-- Only the entries behind a table remain if all keys of the table are known and none behind it is. -/
theorem unknown_written {known : List String} {table : List (String × Option Value)} {rest : Entries}
    (keys : table.map (·.1) = known) (unknown : ∀ e ∈ rest, e.1 ∉ known) :
    (written table ++ rest).filter (fun e => !known.contains e.1) = rest := by
  rw [List.filter_append]
  have front : (written table).filter (fun e => !known.contains e.1) = [] := by
    rw [List.filter_eq_nil_iff]
    intro e inside
    simpa [← keys] using key_of_written inside
  have back : rest.filter (fun e => !known.contains e.1) = rest := by
    rw [List.filter_eq_self]
    intro e inside
    simpa using unknown e inside
  rw [front, back, List.nil_append]

end Members

/-! ## Parameters -/

/-- What holds of every parameter that is read: it keeps no entry under a key that it knows, and nothing as null. -/
structure Solid (p : Parameter) : Prop where
  others : ∀ e ∈ p.others, e.1 ∉ Parameter.knownKeys
  items : p.items ≠ some .null
  proxyHeader : p.proxyHeader ≠ some .null

theorem notNull_ne_null (value? : Option Value) : notNull value? ≠ some .null := by
  intro same
  simpa using (Option.filter_eq_some_iff.mp same).2

theorem solid_read {entries : Entries} {p : Parameter} (holds : ParameterRead entries p) : Solid p where
  others := by
    rw [holds.others]
    intro e inside
    simpa using (List.mem_filter.mp inside).2
  items := by
    have listed : ("items", p.items) ∈ members p := by simp [members]
    rw [holds.optional listed (by decide)]
    exact notNull_ne_null _
  proxyHeader := by
    rw [holds.proxyHeader]
    exact notNull_ne_null _

/-- Entries that have the members of a solid parameter, and else its others, are read as the parameter. -/
theorem parameter_ofEntries {entries : Entries} {p : Parameter} (solid : Solid p)
    (found : ∀ e ∈ members p, entries.find? e.1 = e.2)
    (kept : entries.filter (fun e => !Parameter.knownKeys.contains e.1) = p.others) :
    Parameter.members.ofEntries entries = .ok p := by
  have text (key : String) (a? : Option String) (listed : (key, a?.map Value.string) ∈ members p) :
      Given Shape.text.nullable (some none) (entries.find? key) a? :=
    given_again text_recovers (found _ listed) (by simp)
  have name : Given Shape.text none (entries.find? "name") p.name := by
    rw [found ("name", some (.string p.name)) (by simp [members])]
    rfl
  have required : Given Shape.flag (some false) (entries.find? "required") p.required := by
    rw [found ("required", some (.bool p.required)) (by simp [members])]
    rfl
  have enum : Given (Shape.list .any).nullable (some none) (entries.find? "enum") p.enum :=
    given_again items_recovers (found ("enum", p.enum.map .array) (by simp [members])) (by simp)
  have items : Given Shape.any.nullable (some none) (entries.find? "items") p.items :=
    given_again any_recovers (found ("items", p.items.map id) (by simp [members])) (by simpa using solid.items)
  have schema : Given Shape.object.nullable (some none) (entries.find? "schema") p.schema :=
    given_again object_recovers (found ("schema", p.schema.map .object) (by simp [members])) (by simp)
  have excluded : Given Shape.flag.nullable (some none) (entries.find? "x-exclude-from-bindings") p.excluded :=
    given_again flag_recovers (found ("x-exclude-from-bindings", p.excluded.map .bool) (by simp [members])) (by simp)
  have proxyHeader : Given Shape.any.nullable (some none) (entries.find? "x-proxy-header") p.proxyHeader :=
    given_again any_recovers (found ("x-proxy-header", p.proxyHeader.map id) (by simp [members]))
      (by simpa using solid.proxyHeader)
  have others : (Members.others Parameter.knownKeys).ofEntries entries = .ok p.others := congrArg Except.ok kept
  -- The members are taken off from the last one to the first.
  show _ = Except.ok (Parameter.mk p.name p.place p.paramType p.description p.required p.type p.format p.enum p.items
    p.schema p.excluded p.proxyHeader p.namePattern p.others)
  refine ofEntries_seq ?_ others
  refine ofEntries_seq ?_ (ofEntries_keyed (text "x-name-pattern" p.namePattern (by simp [members])))
  refine ofEntries_seq ?_ (ofEntries_keyed proxyHeader)
  refine ofEntries_seq ?_ (ofEntries_keyed excluded)
  refine ofEntries_seq ?_ (ofEntries_keyed schema)
  refine ofEntries_seq ?_ (ofEntries_keyed items)
  refine ofEntries_seq ?_ (ofEntries_keyed enum)
  refine ofEntries_seq ?_ (ofEntries_keyed (text "format" p.format (by simp [members])))
  refine ofEntries_seq ?_ (ofEntries_keyed (text "type" p.type (by simp [members])))
  refine ofEntries_seq ?_ (ofEntries_keyed required)
  refine ofEntries_seq ?_ (ofEntries_keyed (text "description" p.description (by simp [members])))
  refine ofEntries_seq ?_ (ofEntries_keyed (text "paramType" p.paramType (by simp [members])))
  refine ofEntries_seq ?_ (ofEntries_keyed (text "in" p.place (by simp [members])))
  exact ofEntries_seq rfl (ofEntries_keyed name)

/-- A parameter that is solid is read off its own entries. -/
theorem parameter_again {p : Parameter} (solid : Solid p) : Parameter.shape p.toJson = .ok p := by
  have keys : (members p).map (·.1) = Parameter.knownKeys := rfl
  have distinct : ((members p).map (·.1)).Nodup := by
    rw [keys]
    decide
  have read : Parameter.members.ofEntries p.toEntries = .ok p := by
    rw [toEntries_eq]
    refine parameter_ofEntries solid (fun e listed => ?_) (unknown_written keys solid.others)
    refine find?_written_append distinct listed fun behind => ?_
    obtain ⟨other, inside, same⟩ := List.mem_map.mp behind
    have known : e.1 ∈ Parameter.knownKeys := keys ▸ List.mem_map_of_mem listed
    exact solid.others other inside (same ▸ known)
  show (Parameter.members.ofEntries p.toEntries).mapError (·.2) = _
  rw [read]
  rfl

/-! ## References -/

/-- The keys of a reference that have a meaning. -/
def referenceKeys : List String := ["$ref", "x-exclude-from-bindings", "x-proxy-header"]

/-- The members of a reference under their keys. -/
def references (target : String) (excluded : Option Bool) (proxyHeader : Option Value) :
    List (String × Option Value) :=
  [("$ref", some (.string target)), ("x-exclude-from-bindings", excluded.map .bool),
    ("x-proxy-header", proxyHeader.map id)]

theorem reference_toJson (target : String) (excluded : Option Bool) (proxyHeader : Option Value) :
    (ParameterEntry.reference target excluded proxyHeader).toJson =
      .object (written (references target excluded proxyHeader)) := by
  simp [ParameterEntry.toJson, entry?_eq, written, references]

/-- Entries that have the members of a reference are read as the reference. -/
theorem reference_ofEntries {entries : Entries} {target : String} {excluded : Option Bool} {proxyHeader : Option Value}
    (found : ∀ e ∈ references target excluded proxyHeader, entries.find? e.1 = e.2)
    (solid : proxyHeader ≠ some .null) :
    ParameterEntry.referenceMembers.ofEntries entries = .ok (.reference target excluded proxyHeader) := by
  have text : Given Shape.text none (entries.find? "$ref") target := by
    rw [found ("$ref", some (.string target)) (by simp [references])]
    rfl
  have flag : Given Shape.flag.nullable (some none) (entries.find? "x-exclude-from-bindings") excluded :=
    given_again flag_recovers (found ("x-exclude-from-bindings", excluded.map .bool) (by simp [references])) (by simp)
  have header : Given Shape.any.nullable (some none) (entries.find? "x-proxy-header") proxyHeader :=
    given_again any_recovers (found ("x-proxy-header", proxyHeader.map id) (by simp [references])) (by simpa using solid)
  exact ofEntries_seq (ofEntries_seq (ofEntries_seq rfl (ofEntries_keyed text)) (ofEntries_keyed flag))
    (ofEntries_keyed header)

/-- A reference whose proxy flag is not null is read off its own entries. -/
theorem reference_again {target : String} {excluded : Option Bool} {proxyHeader : Option Value}
    (solid : proxyHeader ≠ some .null) :
    ParameterEntry.shape (ParameterEntry.reference target excluded proxyHeader).toJson =
      .ok (.reference target excluded proxyHeader) := by
  have distinct : ((references target excluded proxyHeader).map (·.1)).Nodup := by
    show referenceKeys.Nodup
    decide
  have read : ParameterEntry.referenceMembers.ofEntries (written (references target excluded proxyHeader)) =
      .ok (.reference target excluded proxyHeader) := by
    refine reference_ofEntries (fun e listed => ?_) solid
    exact find?_written distinct listed
  have asReference : ParameterEntry.referenceMembers.fromObject "Ref"
      (.object (written (references target excluded proxyHeader))) = .ok (.reference target excluded proxyHeader) := by
    show (ParameterEntry.referenceMembers.ofEntries _).mapError (·.2) = _
    rw [read]
    rfl
  rw [reference_toJson, ParameterEntry.shape, asReference]

/-! ## Entries -/

/-- An entry without the text of a reference is read as a parameter, and only as that. -/
theorem inline_shape {v : Value} {p : Parameter} (plain : ∀ target, v.get? "$ref" ≠ some (.string target))
    (read : Parameter.shape v = .ok p) : ParameterEntry.shape v = .ok (.inline p) := by
  cases shaped : ParameterEntry.shape v with
  | ok entry =>
    cases entry_read shaped with
    | reference text => exact absurd text (plain _)
    | inline _ other =>
      cases read.symm.trans other
      rfl
  | error failure =>
    unfold ParameterEntry.shape at shaped
    split at shaped
    · cases shaped
    · simp [read] at shaped

/-- What holds of an entry that was read from a value: read from its own JSON it is the same entry again, with the same
    text. The text of a reference makes it one, which has no more than its members, and else it is a parameter, which
    has under a key that it does not know all that the value has. -/
structure Rereads (v : Value) (entry : ParameterEntry) : Prop where
  again : ParameterEntry.shape entry.toJson = .ok entry
  text : (ParameterEntry.shape entry.toJson).map (fun e => e.toJson.compact) = .ok entry.toJson.compact
  reference : ∀ target, v.get? "$ref" = some (.string target) →
    (∃ excluded proxyHeader, entry = .reference target excluded proxyHeader) ∧
    ∀ key, valuesUnder key entry.toJson = if key ∈ referenceKeys then (notNull (v.get? key)).toList else []
  inline : (∀ target, v.get? "$ref" ≠ some (.string target)) →
    (∃ p, entry = .inline p) ∧
    ∀ key, valuesUnder key entry.toJson =
      if key ∈ Parameter.knownKeys then (written? v key).toList else valuesUnder key v

/-- A parameter without the text of a reference has none when it is written either. -/
theorem plain_again {entries : Entries} {p : Parameter} (holds : ParameterRead entries p)
    (plain : ∀ target, (Value.object entries).get? "$ref" ≠ some (.string target)) :
    ∀ target, p.toJson.get? "$ref" ≠ some (.string target) := by
  have same : p.toJson.get? "$ref" = (Value.object entries).get? "$ref" := by
    show Entries.find? p.toEntries "$ref" = Entries.find? entries "$ref"
    rw [find?_eq_head?, find?_eq_head?, toEntries_eq, parameter_values holds, if_neg (by decide)]
  rwa [same]

/-- What a reference is written with. -/
theorem reference_values {v : Value} {target : String} {excluded : Option Bool} {proxyHeader : Option Value}
    (text : v.get? "$ref" = some (.string target))
    (atExcluded : excluded.map .bool = notNull (v.get? "x-exclude-from-bindings"))
    (atProxyHeader : proxyHeader = notNull (v.get? "x-proxy-header")) (key : String) :
    valuesUnder key (ParameterEntry.reference target excluded proxyHeader).toJson =
      if key ∈ referenceKeys then (notNull (v.get? key)).toList else [] := by
  have solid : notNull (some (.string target)) = some (.string target) := rfl
  have table : references target excluded proxyHeader = referenceKeys.map fun k => (k, notNull (v.get? k)) := by
    simp only [references, referenceKeys, List.map_cons, List.map_nil, text, solid, atExcluded, Option.map_id, id,
      ← atProxyHeader]
  rw [reference_toJson, table]
  have values := valuesIn_rewritten (by decide : referenceKeys.Nodup) (fun k => notNull (v.get? k)) [] key
  rwa [List.filter_nil, List.append_nil] at values

/-- An entry of a parameter list is read from what it is written as. -/
theorem entries_reread {v : Value} {entry : ParameterEntry} (read : ParameterEntry.shape v = .ok entry) :
    Rereads v entry := by
  cases entry_read read with
  | @reference target excluded proxyHeader text atExcluded atProxyHeader =>
    have solid : proxyHeader ≠ some .null := by
      rw [atProxyHeader]
      exact notNull_ne_null _
    have again : ParameterEntry.shape (ParameterEntry.reference target excluded proxyHeader).toJson = _ :=
      reference_again solid
    refine ⟨again, congrArg _ again, fun target' text' => ?_, fun plain => absurd text (plain target)⟩
    cases text.symm.trans text'
    exact ⟨⟨excluded, proxyHeader, rfl⟩, reference_values text atExcluded atProxyHeader⟩
  | @inline p plain asParameter =>
    obtain ⟨entries, rfl, holds⟩ := parameter_read asParameter
    have again := inline_shape (plain_again holds plain) (parameter_again (solid_read holds))
    refine ⟨again, congrArg _ again, fun target text => absurd text (plain target), fun _ => ⟨⟨p, rfl⟩, fun key => ?_⟩⟩
    show valuesIn key p.toEntries = _
    rw [toEntries_eq, parameter_values holds]
    rfl

/-- A parameter with members that are null, and with a reference that is no text. -/
def numbered : Value :=
  .object [("$ref", .int 5), ("name", .string "id"), ("in", .null), ("maximum", .null)]

/-- A reference with a flag beside it, one that is null, and a name of its own. -/
def named : Value :=
  .object [("name", .string "id"), ("x-proxy-header", .null), ("$ref", .string "#/parameters/id"),
    ("x-exclude-from-bindings", .bool false)]

theorem entries_reread_numbered :
    (∃ p, ParameterEntry.shape numbered = .ok (.inline p) ∧
      p.toJson = .object [("name", .string "id"), ("required", .bool false), ("$ref", .int 5), ("maximum", .null)] ∧
      Rereads numbered (.inline p)) ∧
    ParameterEntry.shape named = .ok (.reference "#/parameters/id" (some false) none) ∧
    Rereads named (.reference "#/parameters/id" (some false) none) :=
  ⟨⟨_, rfl, rfl, entries_reread rfl⟩, rfl, entries_reread rfl⟩

end ApiBindings.Rereading
