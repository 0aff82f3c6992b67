import ApiBindings.Proofs.Walks
import Mathlib.Data.List.Nodup

/-!
# Groups by tags

The groups of a view are a partition of its methods by their tag groups (`byTags_partition`). The walk keeps
its groups in step with its methods (`Grouped`): a method that enters a group which is there already is
marked before the group takes its copy, so that the copies are equal to the methods of the view.
-/

namespace ApiBindings.TagGroups
open ApiBindings.Document ApiBindings.View ApiBindings.Walks

/-- The key of the group of a method. -/
def groupKey (m : Method) : String := m.tagGroup.getD untagged

/-- The groups of a walk over a document, under their keys, in step with its methods. -/
structure Grouped (s : Specification) (methods : List Method) (groups : List (String × TagGroup)) : Prop where
  keys : groups.map (·.1) = (methods.map groupKey).eraseDups
  distinct : (groups.map (·.1)).Nodup
  named : ∀ e ∈ groups, e.2.name = e.1
  members : ∀ e ∈ groups, e.2.methods = methods.filter fun m => groupKey m = e.1
  whole : (groups.flatMap (·.2.methods)).Perm methods
  tags : ∀ e ∈ groups, ∃ first rest, e.2.methods = first :: rest ∧ e.2.tags = first.tags.filterMap s.tag?
  marks : Successive (fun before m => m.notFirstByTag = true ↔ ∃ earlier ∈ before, groupKey earlier = groupKey m)
    methods

theorem grouped_nil (s : Specification) : Grouped s [] [] where
  keys := rfl
  distinct := .nil
  named := by simp
  members := by simp
  whole := .nil
  tags := by simp
  marks := successive_nil _

/-! ## One more method -/

/-- The entry of a group after a method has entered the group under a key. -/
def entered (key : String) (m : Method) (e : String × TagGroup) : String × TagGroup :=
  if e.1 = key then (e.1, { e.2 with methods := e.2.methods ++ [m] }) else e

theorem entered_fst (key : String) (m : Method) (e : String × TagGroup) : (entered key m e).1 = e.1 := by
  unfold entered
  split <;> rfl

theorem entered_name (key : String) (m : Method) (e : String × TagGroup) : (entered key m e).2.name = e.2.name := by
  unfold entered
  split <;> rfl

theorem entered_tags (key : String) (m : Method) (e : String × TagGroup) : (entered key m e).2.tags = e.2.tags := by
  unfold entered
  split <;> rfl

theorem entered_methods (key : String) (m : Method) (e : String × TagGroup) :
    (entered key m e).2.methods = if e.1 = key then e.2.methods ++ [m] else e.2.methods := by
  unfold entered
  split <;> rfl

/-- Where the keys are distinct, a method enters the group under its key and no other. -/
theorem addToGroup_eq {groups : List (String × TagGroup)} (distinct : (groups.map (·.1)).Nodup) (key : String)
    (m : Method) : addToGroup key m groups = groups.map (entered key m) := by
  induction groups with
  | nil => rfl
  | cons e rest ih =>
    obtain ⟨k, g⟩ := e
    obtain ⟨apart, distinct⟩ := List.nodup_cons.mp distinct
    rw [addToGroup, List.map_cons]
    by_cases same : k = key
    · have kept : rest.map (entered key m) = rest := by
        refine (List.map_congr_left ?_).trans (List.map_id' rest)
        intro e member
        have other : e.1 ≠ key := by
          intro equal
          apply apart
          rw [same, ← equal]
          exact List.mem_map_of_mem (f := (·.1)) member
        rw [entered, if_neg other]
      rw [if_pos same, kept, entered, if_pos same]
    · rw [if_neg same, entered, if_neg same, ih distinct]

/-- A method that enters one of the groups is one more method in all of them. -/
theorem addToGroup_whole {groups : List (String × TagGroup)} {key : String} (present : key ∈ groups.map (·.1))
    (m : Method) :
    ((addToGroup key m groups).flatMap (·.2.methods)).Perm (groups.flatMap (·.2.methods) ++ [m]) := by
  induction groups with
  | nil => simp at present
  | cons e rest ih =>
    obtain ⟨k, g⟩ := e
    rw [addToGroup]
    by_cases same : k = key
    · rw [if_pos same, List.flatMap_cons, List.flatMap_cons, List.append_assoc, List.append_assoc]
      exact List.perm_append_comm.append_left g.methods
    · have inRest : key ∈ rest.map (·.1) := by simpa [Ne.symm same] using present
      rw [if_neg same, List.flatMap_cons, List.flatMap_cons, List.append_assoc]
      exact (ih inRest).append_left g.methods

/-- A repeated member is dropped, a new one stays. -/
theorem eraseDups_concat (list : List String) (a : String) :
    (list ++ [a]).eraseDups = if a ∈ list then list.eraseDups else list.eraseDups ++ [a] := by
  rw [List.eraseDups_append]
  by_cases inside : a ∈ list
  · simp [List.removeAll, inside]
  · simp [List.removeAll, inside, List.eraseDups_cons]

/-- The members of a group after one more method. -/
theorem members_concat (methods : List Method) (m : Method) (key : String) :
    (methods ++ [m]).filter (fun m => groupKey m = key) =
      if groupKey m = key then methods.filter (fun m => groupKey m = key) ++ [m]
      else methods.filter fun m => groupKey m = key := by
  rw [List.filter_append]
  by_cases same : groupKey m = key
  · simp [same]
  · simp [same]

/-- A marked method enters the group that is there. -/
theorem grouped_enter {s : Specification} {methods : List Method} {groups : List (String × TagGroup)} {m : Method}
    (old : Grouped s methods groups) (present : groupKey m ∈ groups.map (·.1)) (mark : m.notFirstByTag = true) :
    Grouped s (methods ++ [m]) (addToGroup (groupKey m) m groups) := by
  have met : groupKey m ∈ methods.map groupKey := by
    rw [old.keys, List.mem_eraseDups] at present
    exact present
  have sameKeys : (addToGroup (groupKey m) m groups).map (·.1) = groups.map (·.1) := by
    rw [addToGroup_eq old.distinct, List.map_map]
    exact List.map_congr_left fun e _ => entered_fst (groupKey m) m e
  have each : ∀ e ∈ addToGroup (groupKey m) m groups, ∃ old ∈ groups, e = entered (groupKey m) m old := by
    intro e member
    rw [addToGroup_eq old.distinct, List.mem_map] at member
    obtain ⟨before, inside, rfl⟩ := member
    exact ⟨before, inside, rfl⟩
  refine ⟨?_, ?_, ?_, ?_, ?_, ?_, ?_⟩
  · rw [sameKeys, old.keys, List.map_append, List.map_cons, List.map_nil, eraseDups_concat, if_pos met]
  · rw [sameKeys]
    exact old.distinct
  · intro e member
    obtain ⟨before, inside, rfl⟩ := each e member
    rw [entered_name, entered_fst, old.named before inside]
  · intro e member
    obtain ⟨before, inside, rfl⟩ := each e member
    rw [entered_methods, entered_fst, members_concat, old.members before inside]
    simp only [eq_comm]
  · exact (addToGroup_whole present m).trans (old.whole.append_right [m])
  · intro e member
    obtain ⟨before, inside, rfl⟩ := each e member
    obtain ⟨first, rest, starts, resolved⟩ := old.tags before inside
    rw [entered_methods, entered_tags, starts]
    by_cases same : before.1 = groupKey m
    · exact ⟨first, rest ++ [m], by rw [if_pos same]; rfl, resolved⟩
    · exact ⟨first, rest, by rw [if_neg same], resolved⟩
  · refine successive_concat old.marks ?_
    simpa [mark] using met

/-- An unmarked method opens a group of its own. -/
theorem grouped_open {s : Specification} {methods : List Method} {groups : List (String × TagGroup)} {m : Method}
    (old : Grouped s methods groups) (absent : groupKey m ∉ groups.map (·.1)) (mark : m.notFirstByTag = false) :
    Grouped s (methods ++ [m]) (groups ++ [(groupKey m, ⟨groupKey m, m.tags.filterMap s.tag?, [m]⟩)]) := by
  have new : groupKey m ∉ methods.map groupKey := by
    rw [old.keys, List.mem_eraseDups] at absent
    exact absent
  have noMember : methods.filter (fun earlier => groupKey earlier = groupKey m) = [] := by
    rw [List.filter_eq_nil_iff]
    intro earlier member
    simp only [decide_eq_true_eq]
    exact fun same => new (same ▸ List.mem_map_of_mem member)
  have other : ∀ e ∈ groups, groupKey m ≠ e.1 := fun e member same => absent (same ▸ List.mem_map_of_mem member)
  refine ⟨?_, ?_, ?_, ?_, ?_, ?_, ?_⟩
  · rw [List.map_append, List.map_append, List.map_cons, List.map_nil, List.map_cons, List.map_nil,
      eraseDups_concat, if_neg new, old.keys]
  · rw [List.map_append, List.map_cons, List.map_nil, ← List.concat_eq_append]
    exact old.distinct.concat absent
  · intro e member
    rcases List.mem_append.mp member with inside | last
    · exact old.named e inside
    · rw [List.mem_singleton.mp last]
  · intro e member
    rw [members_concat]
    rcases List.mem_append.mp member with inside | last
    · rw [if_neg (other e inside), old.members e inside]
    · rw [List.mem_singleton.mp last, if_pos rfl, noMember, List.nil_append]
  · rw [List.flatMap_append]
    exact old.whole.append_right [m]
  · intro e member
    rcases List.mem_append.mp member with inside | last
    · exact old.tags e inside
    · rw [List.mem_singleton.mp last]
      exact ⟨m, [], rfl, rfl⟩
  · refine successive_concat old.marks ?_
    simpa [mark] using new

/-- The groups stay in step with the methods when a method is put under its key. -/
theorem grouped_insert {s : Specification} {methods : List Method} {groups : List (String × TagGroup)} {m : Method}
    (old : Grouped s methods groups) (unmarked : m.notFirstByTag = false) :
    Grouped s (methods ++ [(insertMethod s (groupKey m) m groups).1])
      (insertMethod s (groupKey m) m groups).2 := by
  have known := lookup_isSome_keys groups (groupKey m)
  unfold insertMethod
  -- The mark is set before the group takes its copy, and the mark does not change the key.
  cases found : groups.lookup (groupKey m) with
  | none =>
    rw [found] at known
    exact grouped_open old (fun present => absurd (known.mpr present) (by simp)) unmarked
  | some g =>
    rw [found] at known
    exact grouped_enter (m := { m with notFirstByTag := true }) old (known.mp rfl) rfl

/-! ## The groups of a view -/

theorem walk_grouped {s : Specification} {o : Options} {w : Walk} (run : walk s o = .ok w) :
    Grouped s w.methods w.groups := by
  refine walk_states (P := fun _ w => Grouped s w.methods w.groups) (grouped_nil s) ?_ run
  intro done e w m grouped built
  obtain ⟨bound, _, rfl⟩ := ok_of_map built
  exact grouped_insert grouped rfl

theorem walk_tagGroup {s : Specification} {o : Options} {w : Walk} (run : walk s o = .ok w) :
    ∀ m ∈ w.methods, m.tagGroup = some (groupKey m) := by
  refine walk_states (P := fun _ w => ∀ m ∈ w.methods, m.tagGroup = some (groupKey m)) (by simp) ?_ run
  intro done e w m grouped built
  obtain ⟨bound, _, rfl⟩ := ok_of_map built
  intro m member
  rw [push_methods] at member
  rcases List.mem_append.mp member with inside | last
  · exact grouped m inside
  · rw [List.mem_singleton.mp last]
    rfl

/-- Groups are the partition of methods by their tag groups: named apart, in the order of their first members,
    each with its methods as they are and in order, and with the tags of the first of them. -/
structure Partition (s : Specification) (methods : List Method) (groups : List TagGroup) : Prop where
  distinct : (groups.map (·.name)).Nodup
  ordered : groups.map (·.name) = (methods.filterMap (·.tagGroup)).eraseDups
  members : ∀ g ∈ groups, g.methods = methods.filter fun m => m.tagGroup = some g.name
  whole : (groups.flatMap (·.methods)).Perm methods
  once : ∀ m ∈ methods, ∃! g, g ∈ groups ∧ m ∈ g.methods
  tags : ∀ g ∈ groups, ∃ first rest, g.methods = first :: rest ∧ g.tags = first.tags.filterMap s.tag?

theorem names_keys {s : Specification} {methods : List Method} {groups : List (String × TagGroup)}
    (grouped : Grouped s methods groups) : (groups.map (·.2)).map (·.name) = groups.map (·.1) := by
  rw [List.map_map]
  exact List.map_congr_left grouped.named

/-- Methods that all have a tag group are partitioned by it. -/
theorem grouped_partition {s : Specification} {methods : List Method} {groups : List (String × TagGroup)}
    (grouped : Grouped s methods groups) (tagged : ∀ m ∈ methods, m.tagGroup = some (groupKey m)) :
    Partition s methods (groups.map (·.2)) := by
  have names := names_keys grouped
  have tagGroups : methods.filterMap (·.tagGroup) = methods.map groupKey := by
    rw [List.filterMap_congr tagged, List.filterMap_eq_map']
  have distinct : ((groups.map (·.2)).map (·.name)).Nodup := names ▸ grouped.distinct
  have members : ∀ g ∈ groups.map (·.2), g.methods = methods.filter fun m => m.tagGroup = some g.name := by
    intro g member
    obtain ⟨e, inside, rfl⟩ := List.mem_map.mp member
    rw [grouped.members e inside, grouped.named e inside]
    refine List.filter_congr ?_
    intro m present
    simp [tagged m present]
  refine ⟨distinct, ?_, members, ?_, ?_, ?_⟩
  · rw [names, tagGroups, grouped.keys]
  · rw [List.flatMap_map]
    exact grouped.whole
  · intro m present
    have keyed : groupKey m ∈ groups.map (·.1) := by
      rw [grouped.keys, List.mem_eraseDups]
      exact List.mem_map_of_mem present
    obtain ⟨e, inside, same⟩ := List.mem_map.mp keyed
    have memberOf : e.2 ∈ groups.map (·.2) := List.mem_map_of_mem inside
    refine ⟨e.2, ⟨memberOf, ?_⟩, ?_⟩
    · rw [members e.2 memberOf, List.mem_filter, grouped.named e inside, same]
      exact ⟨present, decide_eq_true (tagged m present)⟩
    · rintro g ⟨other, holds⟩
      rw [members g other, List.mem_filter, decide_eq_true_eq, tagged m present, Option.some.injEq] at holds
      apply List.inj_on_of_nodup_map distinct other memberOf
      rw [← holds.2, grouped.named e inside, same]
  · intro g member
    obtain ⟨e, inside, rfl⟩ := List.mem_map.mp member
    exact grouped.tags e inside

/-- The groups of a view are the partition of its methods by their tag groups; a method is marked exactly if a
    method before it has the same tag group, and the view has tags exactly if one of its methods has. -/
theorem byTags_partition {s : Specification} {o : Options} {model : Model}
    (built : ofDocument (.specification s) o = .ok model) :
    ∃ part, model.specification = some part ∧
      Partition s model.methods part.byTags ∧
      (∀ before m after, model.methods = before ++ m :: after →
        (m.notFirstByTag = true ↔ ∃ earlier ∈ before, earlier.tagGroup = m.tagGroup)) ∧
      (part.hasTags = true ↔ ∃ m ∈ model.methods, m.tags ≠ []) := by
  obtain ⟨w, run, rfl⟩ := ok_of_map built
  have grouped := walk_grouped run
  have tagged := walk_tagGroup run
  refine ⟨_, rfl, grouped_partition grouped tagged, ?_, ?_⟩
  · intro before m after split
    refine (grouped.marks before m after split).trans ?_
    have here : ∀ other ∈ before ++ m :: after, other.tagGroup = some (groupKey other) := split ▸ tagged
    refine exists_congr fun earlier => and_congr_right fun member => ?_
    rw [here earlier (by simp [member]), here m (by simp), Option.some.injEq]
  · simp [modelOf]

/-- A document whose groups take turns: `pets` stands before and after operations without tags and with a tag
    that the document does not describe, and is described twice. -/
def turningGroups : Specification :=
  { pathsOnly [
      ("/pets", ⟨[], [(.get, { blankOperation with tags := ["pets"] }), (.post, blankOperation)]⟩),
      ("/store", ⟨[], [(.get, { blankOperation with tags := ["store"] }),
        (.put, { blankOperation with tags := ["pets"] })]⟩)] with
    tags := [⟨"pets", some "first", []⟩, ⟨"pets", some "second", []⟩] }

theorem byTags_partition_turning :
    ∃ model part, ofDocument (.specification turningGroups) .default = .ok model ∧
      model.specification = some part ∧
      part.byTags.map (fun g => (g.name, g.tags.map (·.description), g.methods.map (·.methodName))) =
        [("pets", [some "first"], ["getPets", "putStore"]), ("none", [], ["postPets"]), ("store", [], ["getStore"])] ∧
      Partition turningGroups model.methods part.byTags ∧
      (∀ before m after, model.methods = before ++ m :: after →
        (m.notFirstByTag = true ↔ ∃ earlier ∈ before, earlier.tagGroup = m.tagGroup)) ∧
      (part.hasTags = true ↔ ∃ m ∈ model.methods, m.tags ≠ []) := by
  have built : ofDocument (.specification turningGroups) .default = .ok (modelOf turningGroups .default _) := rfl
  obtain ⟨part, same, holds⟩ := byTags_partition built
  cases same
  exact ⟨_, _, built, rfl, by decide +kernel, holds⟩

end ApiBindings.TagGroups
