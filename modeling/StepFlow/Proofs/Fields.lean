import StepFlow.Fields
import Mathlib.Data.List.Induction
import Mathlib.Data.List.Nodup
import Mathlib.Data.List.Sort
import Mathlib.Data.String.Basic

/-!
# Fields put one after the other

A list in which a name occurs more than once becomes fields by putting its entries in one after the
other. The names stay in the order of their first occurrences, and each has the value of its last
one. So an entry is lost for every name that has occurred before, and the fields are the list itself
just if all of its names are different.

Before that, this file says what it means that texts are put in order.

## Main results

* `pairwise_sortedTexts`, `sortedTexts_eq_of_perm` — texts in order
* `Fields.map_fst_ofList` — the names of fields made of a list
* `Fields.get?_ofList` — their values
* `Fields.ofList_eq_self_iff`, `Fields.length_ofList_eq_iff` — when no entry is lost
-/

namespace StepFlow

/-! ### Texts in order -/

theorem textLe_iff {a b : String} : textLe a b = true ↔ a ≤ b := by
  rw [textLe, Bool.not_eq_true', decide_eq_false_iff_not, ← String.lt_iff_toList_lt, not_lt]

theorem pairwise_sortedTexts (texts : List String) : (sortedTexts texts).Pairwise (· ≤ ·) := by
  refine (List.pairwise_mergeSort ?_ ?_ texts).imp textLe_iff.mp
  · intro a b c hab hbc
    exact textLe_iff.mpr ((textLe_iff.mp hab).trans (textLe_iff.mp hbc))
  · intro a b
    rw [Bool.or_eq_true, textLe_iff, textLe_iff]
    exact le_total a b

/-- What has been put in order does not tell the order it had before. -/
theorem sortedTexts_eq_of_perm {texts texts' : List String} (h : texts.Perm texts') :
    sortedTexts texts = sortedTexts texts' := by
  refine List.Perm.eq_of_pairwise (fun (a b : String) _ _ (hab : a ≤ b) hba => le_antisymm hab hba)
    (pairwise_sortedTexts _) (pairwise_sortedTexts _) ?_
  exact (List.mergeSort_perm _ _).trans (h.trans (List.mergeSort_perm _ _).symm)

/-! ### First occurrences -/

/-- A name counts where it occurs first. -/
theorem eraseDups_append_singleton (names : List String) (name : String) :
    (names ++ [name]).eraseDups = names.eraseDups ++ if name ∈ names then [] else [name] := by
  rw [List.eraseDups_append]
  split
  · simp [List.removeAll, *]
  · simp [List.removeAll, List.eraseDups_cons, *]

theorem nodup_eraseDups (names : List String) : names.eraseDups.Nodup := by
  induction names using List.reverseRecOn with
  | nil => exact List.nodup_nil
  | append_singleton names name ih =>
    rw [eraseDups_append_singleton]
    split
    · rwa [List.append_nil]
    · rename_i hnew
      refine List.nodup_append.mpr ⟨ih, List.nodup_singleton _, fun l hl l' hl' heq => hnew ?_⟩
      rw [← List.mem_singleton.mp hl', ← heq]
      exact List.mem_eraseDups.mp hl

theorem eraseDups_filter (keep : String → Bool) (names : List String) :
    (names.filter keep).eraseDups = names.eraseDups.filter keep := by
  induction names using List.reverseRecOn with
  | nil => rfl
  | append_singleton names name ih =>
    rw [List.filter_append, eraseDups_append_singleton, List.filter_append, ← ih]
    by_cases hkeep : keep name = true
    · rw [List.filter_cons_of_pos hkeep, List.filter_nil, eraseDups_append_singleton]
      by_cases hmem : name ∈ names
      · rw [if_pos hmem, if_pos (List.mem_filter.mpr ⟨hmem, hkeep⟩)]
        rfl
      · rw [if_neg hmem, if_neg fun h => hmem (List.mem_filter.mp h).1,
          List.filter_cons_of_pos hkeep]
        rfl
    · rw [List.filter_cons_of_neg hkeep, List.filter_nil, List.append_nil]
      split
      · exact (List.append_nil _).symm
      · rw [List.filter_cons_of_neg hkeep]
        exact (List.append_nil _).symm

namespace Fields

variable {α : Type} {name : String} {v : α} {fields : Fields α}

/-! ### One field -/

theorem set_ne_nil : fields.set name v ≠ [] := by
  cases fields with
  | nil => exact List.cons_ne_nil _ _
  | cons first rest =>
    unfold set
    split
    · exact List.cons_ne_nil _ _
    · exact List.cons_ne_nil _ _

/-- An entry of fields of which one has been set was there before, or it has the new value. -/
theorem mem_set {entry : String × α} (h : entry ∈ fields.set name v) :
    entry ∈ fields ∨ entry.2 = v := by
  induction fields with
  | nil =>
    obtain rfl := List.mem_singleton.mp h
    exact .inr rfl
  | cons first rest ih =>
    unfold set at h
    split at h
    · rcases List.mem_cons.mp h with rfl | h
      · exact .inr rfl
      · exact .inl (List.mem_cons_of_mem _ h)
    · rcases List.mem_cons.mp h with rfl | h
      · exact .inl List.mem_cons_self
      · rcases ih h with h | h
        · exact .inl (List.mem_cons_of_mem _ h)
        · exact .inr h

/-- A new name comes last. -/
theorem set_of_not_mem (h : name ∉ fields.map (·.1)) : fields.set name v = fields ++ [(name, v)] := by
  induction fields with
  | nil => rfl
  | cons first rest ih =>
    obtain ⟨hfirst, hrest⟩ := not_or.mp (mt List.mem_cons.mpr h)
    rw [set, if_neg (Ne.symm hfirst), ih hrest]
    rfl

/-- A name that is there already stays at its place. -/
theorem map_fst_set_of_mem (h : name ∈ fields.map (·.1)) :
    (fields.set name v).map (·.1) = fields.map (·.1) := by
  induction fields with
  | nil => cases h
  | cons first rest ih =>
    unfold set
    split
    · rename_i hfirst
      rw [List.map_cons, List.map_cons, ← hfirst]
    · rename_i hfirst
      rcases List.mem_cons.mp h with hname | hrest
      · exact absurd hname.symm hfirst
      · rw [List.map_cons, List.map_cons, ih hrest]

theorem get?_cons (f : String × α) (fields : Fields α) (n : String) :
    get? (f :: fields) n = if f.1 = n then some f.2 else get? fields n := by
  by_cases h : f.1 = n <;> simp [get?, h]

/-- Of the values of a name the last one counts, and other names keep theirs. -/
theorem get?_set (fields : Fields α) (name : String) (v : α) (n : String) :
    (fields.set name v).get? n = if name = n then some v else fields.get? n := by
  induction fields with
  | nil => exact get?_cons _ _ _
  | cons first rest ih =>
    unfold set
    split
    · rename_i hfirst
      rw [get?_cons, get?_cons, hfirst]
      split <;> rfl
    · rename_i hfirst
      rw [get?_cons, get?_cons, ih]
      by_cases hn : name = n
      · rw [if_pos hn, if_pos hn, if_neg (hn ▸ hfirst)]
      · rw [if_neg hn, if_neg hn]

/-! ### Several fields -/

section

variable (list : List (String × α)) (f : String × α)

theorem ofList_append_singleton : ofList (list ++ [f]) = (ofList list).set f.1 f.2 :=
  List.foldl_concat _ _ _ _

theorem nodup_append_singleton_iff :
    ((list ++ [f]).map (·.1)).Nodup ↔ f.1 ∉ list.map (·.1) ∧ (list.map (·.1)).Nodup := by
  rw [List.map_append, List.map_singleton, ← List.concat_eq_append, List.nodup_concat]

end

/-- **The names of fields made of a list** stay in the order of their first occurrences. -/
theorem map_fst_ofList (list : List (String × α)) :
    (ofList list).map (·.1) = (list.map (·.1)).eraseDups := by
  induction list using List.reverseRecOn with
  | nil => rfl
  | append_singleton list f ih =>
    have hmem : f.1 ∈ (ofList list).map (·.1) ↔ f.1 ∈ list.map (·.1) := by
      rw [ih, List.mem_eraseDups]
    rw [ofList_append_singleton, List.map_append, List.map_singleton, eraseDups_append_singleton,
      ← ih]
    by_cases h : f.1 ∈ list.map (·.1)
    · rw [map_fst_set_of_mem (hmem.mpr h), if_pos h, List.append_nil]
    · rw [set_of_not_mem (mt hmem.mp h), if_neg h, List.map_append, List.map_singleton]

/-- **A name has the value of its last occurrence.** -/
theorem get?_ofList (list : List (String × α)) (name : String) :
    (ofList list).get? name = get? list.reverse name := by
  induction list using List.reverseRecOn with
  | nil => rfl
  | append_singleton list f ih =>
    rw [ofList_append_singleton, get?_set, ih, List.reverse_append]
    exact (get?_cons _ _ _).symm

/-- The last entry with a name is found. -/
theorem get?_ofList_of_last (before : List (String × α)) (f : String × α)
    {after : List (String × α)} (h : f.1 ∉ after.map (·.1)) :
    (ofList (before ++ f :: after)).get? f.1 = some f.2 := by
  induction after using List.reverseRecOn with
  | nil => rw [ofList_append_singleton, get?_set, if_pos rfl]
  | append_singleton after g ih =>
    rw [List.map_append, List.mem_append, List.map_singleton, List.mem_singleton, not_or] at h
    rw [← List.cons_append, ← List.append_assoc, ofList_append_singleton, get?_set,
      if_neg (Ne.symm h.2), ih h.1]

/-- An entry whose name has occurred before adds nothing. -/
theorem length_ofList_append_singleton (list : List (String × α)) (f : String × α) :
    (ofList (list ++ [f])).length =
      if f.1 ∈ list.map (·.1) then (ofList list).length else (ofList list).length + 1 := by
  have hmem : f.1 ∈ (ofList list).map (·.1) ↔ f.1 ∈ list.map (·.1) := by
    rw [map_fst_ofList, List.mem_eraseDups]
  rw [ofList_append_singleton]
  split
  · rename_i h
    simpa using congrArg List.length (@map_fst_set_of_mem _ _ f.2 _ (hmem.mpr h))
  · rename_i h
    rw [set_of_not_mem (mt hmem.mp h), List.length_append, List.length_singleton]

theorem length_ofList_le (list : List (String × α)) : (ofList list).length ≤ list.length := by
  induction list using List.reverseRecOn with
  | nil => exact Nat.le_refl _
  | append_singleton list f ih =>
    rw [length_ofList_append_singleton, List.length_append, List.length_singleton]
    split
    · exact Nat.le_succ_of_le ih
    · exact Nat.succ_le_succ ih

/-- As many fields as entries there are just if all names are different. -/
theorem length_ofList_eq_iff (list : List (String × α)) :
    (ofList list).length = list.length ↔ (list.map (·.1)).Nodup := by
  induction list using List.reverseRecOn with
  | nil => exact iff_of_true rfl List.nodup_nil
  | append_singleton list f ih =>
    have hle := length_ofList_le list
    rw [nodup_append_singleton_iff, length_ofList_append_singleton, List.length_append,
      List.length_singleton]
    by_cases h : f.1 ∈ list.map (·.1)
    · rw [if_pos h]
      exact iff_of_false (by omega) fun hnot => hnot.1 h
    · rw [if_neg h, Nat.add_right_cancel_iff, ih]
      exact ⟨fun hnodup => ⟨h, hnodup⟩, fun hboth => hboth.2⟩

/-- **All entries are kept just if all names are different.** -/
theorem ofList_eq_self_iff (list : List (String × α)) :
    ofList list = list ↔ (list.map (·.1)).Nodup := by
  constructor
  · exact fun h => (length_ofList_eq_iff list).mp (congrArg List.length h)
  · intro h
    induction list using List.reverseRecOn with
    | nil => rfl
    | append_singleton list f ih =>
      obtain ⟨hnew, hnodup⟩ := (nodup_append_singleton_iff list f).mp h
      rw [ofList_append_singleton, ih hnodup, set_of_not_mem hnew]

end Fields

end StepFlow
