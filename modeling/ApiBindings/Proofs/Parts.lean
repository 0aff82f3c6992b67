import Mathlib.Data.List.Forall2

/-!
# Parts of texts

Parts that stand in a text one behind the other (`InOrder`), and texts that are cut at the first of some marks
(`cut_at_mark`).
-/

namespace ApiBindings.Parts

/-- Parts stand in a text one behind the other. -/
inductive InOrder : List String → String → Prop
  | none (s : String) : InOrder [] s
  | next {parts : List String} {rest : String} (before part : String) (behind : InOrder parts rest) :
      InOrder (part :: parts) (before ++ part ++ rest)

theorem InOrder.before {parts : List String} {u : String} (s : String) (inOrder : InOrder parts u) :
    InOrder parts (s ++ u) := by
  cases inOrder with
  | none => exact .none _
  | next before part behind => simpa [String.append_assoc] using InOrder.next (s ++ before) part behind

theorem InOrder.append {front back : List String} {s u : String} (left : InOrder front s) (right : InOrder back u) :
    InOrder (front ++ back) (s ++ u) := by
  induction left with
  | none => exact right.before _
  | next before part _ ih => simpa [String.append_assoc] using InOrder.next before part ih

theorem InOrder.behind {parts : List String} {s : String} (inOrder : InOrder parts s) (u : String) :
    InOrder parts (s ++ u) := by
  simpa using inOrder.append (.none u)

theorem inOrder_self (part : String) : InOrder [part] part := by
  simpa using InOrder.next "" part (.none "")

/-- Parts that stand in order in each of several texts do in all of them. -/
theorem inOrder_join {α : Type} {parts : α → List String} {text : α → String} {list : List α}
    (each : ∀ a ∈ list, InOrder (parts a) (text a)) : InOrder (list.flatMap parts) (String.join (list.map text)) := by
  induction list with
  | nil => exact .none _
  | cons a list ih =>
    obtain ⟨here, later⟩ := List.forall_mem_cons.mp each
    rw [List.flatMap_cons, List.map_cons, String.join_cons]
    exact here.append (ih later)

/-- So they do with something between the texts. -/
theorem inOrder_intercalate (sep : String) {lists : List (List String)} {texts : List String}
    (each : List.Forall₂ InOrder lists texts) : InOrder lists.flatten (sep.intercalate texts) := by
  induction each with
  | nil => exact .none _
  | cons here later ih =>
    cases later with
    | nil => simpa using here
    | cons => simpa [String.intercalate_cons_cons, String.append_assoc] using here.append (ih.before sep)

/-- Texts that are alike, each with a mark behind a part that has none, are alike up to the marks and behind them. -/
theorem cut_at_mark {α : Type} {isMark : α → Prop} {front front' back back' : List α} {c c' : α}
    (free : ∀ x ∈ front, ¬ isMark x) (free' : ∀ x ∈ front', ¬ isMark x) (mark : isMark c) (mark' : isMark c')
    (same : front ++ c :: back = front' ++ c' :: back') : front = front' ∧ c = c' ∧ back = back' := by
  induction front generalizing front' with
  | nil =>
    cases front' with
    | nil => exact ⟨rfl, List.cons.inj same⟩
    | cons x front' =>
      obtain ⟨rfl, -⟩ := List.cons.inj same
      exact absurd mark (free' c List.mem_cons_self)
  | cons x front ih =>
    cases front' with
    | nil =>
      obtain ⟨rfl, -⟩ := List.cons.inj same
      exact absurd mark' (free x List.mem_cons_self)
    | cons x' front' =>
      obtain ⟨rfl, rest⟩ := List.cons.inj same
      obtain ⟨rfl, marks⟩ :=
        ih (fun y inside => free y (List.mem_cons_of_mem _ inside))
          (fun y inside => free' y (List.mem_cons_of_mem _ inside)) rest
      exact ⟨rfl, marks⟩

end ApiBindings.Parts
