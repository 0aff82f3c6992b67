import ApiBindings.Proofs.TagGroups

/-!
# Signatures of tags

Methods are grouped by the text that their tags make, joined by commas, or by the word `none` where there are none.
The text tells no more than its pieces between commas (`groupName_eq_iff`), so that the members of a group have the
same pieces, and the same tags only as far as no comma and no `none` can be mistaken (`groups_labelled`).
-/

namespace ApiBindings.TagSignatures
open ApiBindings.Document ApiBindings.View ApiBindings.Walks ApiBindings.TagGroups

/-! ## Labels -/

/-- The labels of a list of tags: the pieces of each tag between its commas, and `none` where there are no tags. -/
def labels (tags : List String) : List (List Char) :=
  if tags = [] then [untagged.toList] else tags.flatMap fun t => t.toList.splitOn ','

theorem splitOn_joined {tags : List String} (some : tags ≠ []) :
    (",".intercalate tags).toList.splitOn ',' = tags.flatMap fun t => t.toList.splitOn ',' := by
  rw [String.toList_intercalate]
  induction tags with
  | nil => exact absurd rfl some
  | cons t rest ih =>
    cases rest with
    | nil => simp
    | cons t' rest =>
      have later := ih (List.cons_ne_nil _ _)
      rw [List.map_cons] at later
      rw [List.map_cons, List.map_cons, List.intercalate_cons_cons, List.flatMap_cons, ← later, List.append_assoc]
      exact List.splitOnP_append_cons _ _ (beq_self_eq_true ',')

/-- The labels of tags are what a comma cuts out of the name of their group. -/
theorem splitOn_groupName (tags : List String) : (groupName tags).toList.splitOn ',' = labels tags := by
  cases tags with
  | nil => decide +kernel
  | cons t rest => simpa [groupName, labels] using splitOn_joined (List.cons_ne_nil t rest)

/-- Lists of tags have one group exactly if they have the same labels. -/
theorem groupName_eq_iff (tags tags' : List String) : groupName tags = groupName tags' ↔ labels tags = labels tags' := by
  rw [← splitOn_groupName, ← splitOn_groupName, ← String.toList_inj]
  constructor
  · exact congrArg _
  · intro same
    -- What was cut at commas can be joined again.
    have joined (text : List Char) : text = [','].intercalate (text.splitOn ',') :=
      (List.intercalate_splitOn ',').symm
    rw [joined (groupName tags).toList, same, ← joined]

/-- Two lists of tags cannot be mistaken for each other: no tag has a comma, and the tag `none` does not stand alone
    where the other list is empty. -/
structure Unmistakable (tags tags' : List String) : Prop where
  noComma : ∀ t ∈ tags ++ tags', ',' ∉ t.toList
  noWord : ¬ (tags = [] ∧ tags' = [untagged]) ∧ ¬ (tags = [untagged] ∧ tags' = [])

theorem labels_noComma {tags : List String} (noComma : ∀ t ∈ tags, ',' ∉ t.toList) :
    labels tags = if tags = [] then [untagged.toList] else tags.map String.toList := by
  rw [labels]
  split
  next => rfl
  next =>
    rw [List.map_eq_flatMap]
    refine List.flatMap_congr fun t member => ?_
    have alone : ∀ l ∈ [t.toList], ',' ∉ l := by simpa using noComma t member
    simpa using List.splitOn_intercalate ',' alone (by simp)

theorem tags_of_labels {tags tags' : List String} (apart : Unmistakable tags tags')
    (same : labels tags = labels tags') : tags = tags' := by
  have injective : Function.Injective (List.map String.toList) :=
    List.map_injective_iff.mpr fun _ _ => String.toList_inj.mp
  have word : [untagged.toList] = [untagged].map String.toList := rfl
  rw [labels_noComma fun t member => apart.noComma t (List.mem_append_left _ member),
    labels_noComma fun t member => apart.noComma t (List.mem_append_right _ member), word] at same
  split at same <;> split at same
  next empty empty' => rw [empty, empty']
  next empty _ => exact absurd ⟨empty, (injective same).symm⟩ apart.noWord.1
  next _ empty => exact absurd ⟨injective same, empty⟩ apart.noWord.2
  next => exact injective same

/-! ## The members of a group -/

theorem shows_signature {s : Specification} {o : Options} {e : Endpoint} {m : Method} (shown : Shows s o e m) :
    m.tagGroup = some (groupName m.tags) := by
  obtain ⟨bound, _, same⟩ := shown.method
  rw [same]
  rfl

/-- What a group of a view has in common. Its members are the methods with the labels of the first of them, and its
    tags are those of the first one as the document describes them. They are the tags of another member, too, if the
    tags of the two cannot be mistaken. -/
structure Labelled (s : Specification) (methods : List Method) (g : TagGroup) (first : Method) : Prop where
  starts : ∃ rest, g.methods = first :: rest
  tags : g.tags = first.tags.filterMap s.tag?
  members : ∀ m, m ∈ g.methods ↔ m ∈ methods ∧ labels m.tags = labels first.tags
  alike : ∀ m ∈ g.methods, ∀ m' ∈ g.methods, Unmistakable m.tags m'.tags → m.tags = m'.tags
  resolved : ∀ m ∈ g.methods, Unmistakable m.tags first.tags → g.tags = m.tags.filterMap s.tag?

/-- Methods that are partitioned by their signatures are so by their labels. -/
theorem partition_labelled {s : Specification} {methods : List Method} {groups : List TagGroup}
    (partition : Partition s methods groups) (signed : ∀ m ∈ methods, m.tagGroup = some (groupName m.tags))
    {g : TagGroup} (member : g ∈ groups) : ∃ first, Labelled s methods g first := by
  obtain ⟨first, rest, starts, resolved⟩ := partition.tags g member
  have named : ∀ m, m ∈ g.methods ↔ m ∈ methods ∧ groupName m.tags = g.name := by
    intro m
    rw [partition.members g member, List.mem_filter, decide_eq_true_eq]
    exact and_congr_right fun inside => by rw [signed m inside, Option.some.injEq]
  have firstNamed : groupName first.tags = g.name := ((named first).mp (by simp [starts])).2
  have members : ∀ m, m ∈ g.methods ↔ m ∈ methods ∧ labels m.tags = labels first.tags := by
    intro m
    rw [named m, ← firstNamed, groupName_eq_iff]
  have alike : ∀ m ∈ g.methods, ∀ m' ∈ g.methods, Unmistakable m.tags m'.tags → m.tags = m'.tags := by
    intro m inside m' inside' apart
    exact tags_of_labels apart (((members m).mp inside).2.trans ((members m').mp inside').2.symm)
  refine ⟨first, ⟨rest, starts⟩, resolved, members, alike, fun m inside apart => ?_⟩
  rw [resolved, alike m inside first (by simp [starts]) apart]

/-- The groups of a view are homogeneous up to commas and the word `none`: a group has the methods of one list of
    labels, and the tags of each of them that cannot be mistaken for those of the first one. -/
theorem groups_labelled {s : Specification} {o : Options} {model : Model}
    (built : ofDocument (.specification s) o = .ok model) :
    ∃ part, model.specification = some part ∧
      ∀ g ∈ part.byTags, ∃ first, Labelled s model.methods g first := by
  obtain ⟨w, run, rfl⟩ := ok_of_map built
  have partition := grouped_partition (walk_grouped run) (walk_tagGroup run)
  have signed : ∀ m ∈ w.methods, m.tagGroup = some (groupName m.tags) := by
    intro m member
    obtain ⟨e, _, shown⟩ := exists_of_forall₂ (walk_shows run) member
    exact shows_signature shown
  exact ⟨_, rfl, fun g member => partition_labelled partition signed member⟩

/-- A document with operations that have no tags, the tag `none`, one tag with a comma, the two tags that it reads
    like, and one of these alone, twice. -/
def mistakenTags : Specification :=
  { pathsOnly [
      ("/pets", ⟨[], [(.get, blankOperation), (.post, { blankOperation with tags := ["none"] }),
        (.put, { blankOperation with tags := ["cats,dogs"] }),
        (.delete, { blankOperation with tags := ["cats", "dogs"] })]⟩),
      ("/cats", ⟨[], [(.get, { blankOperation with tags := ["cats"] }),
        (.put, { blankOperation with tags := ["cats"] })]⟩)] with
    tags := [⟨"none", none, []⟩, ⟨"cats", none, []⟩, ⟨"dogs", none, []⟩] }

theorem groups_labelled_mistaken :
    ∃ model part, ofDocument (.specification mistakenTags) .default = .ok model ∧
      model.specification = some part ∧
      part.byTags.map (fun g => (g.name, g.tags.map (·.name), g.methods.map (·.tags))) =
        [("none", [], [[], ["none"]]), ("cats,dogs", [], [["cats,dogs"], ["cats", "dogs"]]),
          ("cats", ["cats"], [["cats"], ["cats"]])] ∧
      ∀ g ∈ part.byTags, ∃ first, Labelled mistakenTags model.methods g first := by
  have built : ofDocument (.specification mistakenTags) .default = .ok (modelOf mistakenTags .default _) := rfl
  obtain ⟨part, same, holds⟩ := groups_labelled built
  cases same
  exact ⟨_, _, built, rfl, by decide +kernel, holds⟩

/-- Groups are not homogeneous: one has the tags of its first member, which are not those of the second, an operation
    without tags stands with one that has a tag, and different lists of tags are in one group. -/
theorem tags_mistaken :
    ∃ model part, ofDocument (.specification mistakenTags) .default = .ok model ∧
      model.specification = some part ∧
      (¬ ∀ g ∈ part.byTags, ∀ m ∈ g.methods, g.tags = m.tags.filterMap mistakenTags.tag?) ∧
      (¬ ∀ g ∈ part.byTags, ∀ m ∈ g.methods, ∀ m' ∈ g.methods, m.tags = [] → m'.tags = []) ∧
      ¬ ∀ g ∈ part.byTags, ∀ m ∈ g.methods, ∀ m' ∈ g.methods, m.tags ≠ [] → m'.tags ≠ [] → m.tags = m'.tags := by
  have built : ofDocument (.specification mistakenTags) .default = .ok (modelOf mistakenTags .default _) := rfl
  exact ⟨_, _, built, rfl, by decide +kernel, by decide +kernel, by decide +kernel⟩

end ApiBindings.TagSignatures
