import StepFlow.Proofs.Fields
import StepFlow.Value.Basic

/-!
# Mappings with text keys

A mapping whose keys are texts is a list of fields in another form. Entries are put in and looked up
in the same way, so that what is known about fields carries over: keys stay in the order of their
first occurrences, and of the entries with one key the last one counts.

## Main results

* `Value.entriesOf_fields` — entries put in one after the other
* `Value.lookup?_fields` — entries looked up
-/

namespace StepFlow.Value

theorem insert_fields (fields : Fields Value) (name : String) (v : Value) :
    insert (.str name) v (fields.map fun f => (.str f.1, f.2)) =
      (fields.set name v).map fun f => (.str f.1, f.2) := by
  induction fields with
  | nil => rfl
  | cons f fields ih =>
    obtain ⟨n, u⟩ := f
    rw [List.map_cons, insert, ih, Fields.set]
    by_cases hn : n = name
    · rw [if_pos (by simpa [sameKey] using hn), if_pos hn]
      rw [List.map_cons, hn]
    · rw [if_neg (by simpa [sameKey] using hn), if_neg hn]
      rfl

/-- **Entries with text keys become a mapping** as fields do. -/
theorem entriesOf_fields (list : Fields Value) :
    entriesOf (list.map fun f => (.str f.1, f.2)) =
      (Fields.ofList list).map fun f => (.str f.1, f.2) := by
  induction list using List.reverseRecOn with
  | nil => rfl
  | append_singleton list f ih =>
    rw [entriesOf] at ih
    rw [List.map_append, List.map_singleton, entriesOf, List.foldl_concat, ih, insert_fields,
      Fields.ofList_append_singleton]

/-- Entries with different names are a mapping already. -/
theorem entriesOf_fields_of_nodup {fields : Fields Value} (h : (fields.map (·.1)).Nodup) :
    entriesOf (fields.map fun f => (.str f.1, f.2)) = fields.map fun f => (.str f.1, f.2) := by
  rw [entriesOf_fields, (Fields.ofList_eq_self_iff fields).mpr h]

/-- Text keys are looked up by their names. -/
theorem lookup?_fields (key : String) (fields : Fields Value) :
    lookup? key (fields.map fun f => (.str f.1, f.2)) = fields.get? key := by
  induction fields with
  | nil => rfl
  | cons f rest ih =>
    rw [Fields.get?_cons, ← ih, List.map_cons, lookup?, find?]
    change (if (f.1 == key) = true then _ else _) = _
    simp only [beq_iff_eq]
    rfl

end StepFlow.Value
