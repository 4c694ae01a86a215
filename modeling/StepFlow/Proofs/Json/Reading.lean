import StepFlow.Json.Read
import StepFlow.Proofs.Number.Digits

/-!
# What reading JSON comes to

A text is read as a value, or it is refused: because it is no JSON, because its collections lie too
deep, or because one of its numerals is too long. A value that has been read has only kinds that
JSON has a form for, keys are strings, and all of its integers can be written again. Nor do its
collections lie deeper than the reader follows them, so that a text can be made of it.

## Main definitions

* `Json.Denotable` — a value that a text can denote
* `Json.Refusal` — why a text is not read
* `Json.Reads`, `Json.ReadDenotable` — what a reader comes to, and all readers of values

## Main results

* `Json.read_cases` — a text is read as a denotable value, or refused
-/

namespace StepFlow.Json

variable {α β : Type} {room fuel : Nat}

/-- A string of JSON. It may have halves of surrogate pairs in it. -/
def IsString (v : Value) : Prop := (∃ s, v = .str s) ∨ ∃ t, v = .rough t

theorem isString_ofPoints (points : List Nat) : IsString (.ofPoints points) := by
  unfold Value.ofPoints
  split
  · exact .inr ⟨_, rfl⟩
  · exact .inl ⟨_, rfl⟩

/-- **A value that a text can denote**, with collections in it up to a certain depth. -/
inductive Denotable : Nat → Value → Prop
  | null {room : Nat} : Denotable room .null
  | bool {room : Nat} (b : Bool) : Denotable room (.bool b)
  | int {room : Nat} {n : Int} : n.natAbs < tenTo digitLimit → Denotable room (.int n)
  | double {room : Nat} (x : Double) : Denotable room (.double x)
  | string {room : Nat} {v : Value} : IsString v → Denotable room v
  | list {room : Nat} {items : List Value} : (∀ v ∈ items, Denotable room v) →
      Denotable (room + 1) (.list items)
  | map {room : Nat} {entries : List (Value × Value)} : (∀ e ∈ entries, IsString e.1) →
      (∀ e ∈ entries, Denotable room e.2) → Denotable (room + 1) (.map entries)

theorem IsString.short {v : Value} (h : IsString v) : v.Short := by
  rcases h with ⟨s, rfl⟩ | ⟨t, rfl⟩ <;> simp

theorem Denotable.short {v : Value} (h : Denotable room v) : v.Short := by
  induction h with
  | int hn => exact Value.short_int_iff.mpr hn
  | string h => exact h.short
  | list _ ih => exact Value.short_list_iff.mpr ih
  | map hkeys _ ih => exact Value.short_map_iff.mpr fun e he => ⟨(hkeys e he).short, ih e he⟩
  | _ => simp

theorem IsString.nesting_eq {v : Value} (h : IsString v) : v.nesting = 0 := by
  rcases h with ⟨s, rfl⟩ | ⟨t, rfl⟩ <;> simp [Value.nesting]

theorem Denotable.nesting_le {v : Value} (h : Denotable room v) : v.nesting ≤ room := by
  induction h with
  | string h => exact h.nesting_eq ▸ Nat.zero_le _
  | list _ ih =>
    rw [Value.nesting]
    exact Nat.succ_le_succ (Value.nestingOfItems_le_iff.mpr ih)
  | map hkeys _ ih =>
    rw [Value.nesting]
    refine Nat.succ_le_succ (Value.nestingOfEntries_le_iff.mpr fun e he => ⟨?_, ih e he⟩)
    exact (hkeys e he).nesting_eq ▸ Nat.zero_le _
  | _ => simp [Value.nesting]

/-- **A text can be made of a value that a text denotes.** -/
theorem Denotable.hasText {v : Value} (h : Denotable room v) (hroom : room ≤ nestingLimit) :
    v.HasText :=
  h.short.hasText (h.nesting_le.trans hroom)

theorem Denotable.find? {key v : Value} {entries : List (Value × Value)}
    (h : ∀ e ∈ entries, Denotable room e.2) (hv : Value.find? key entries = some v) :
    Denotable room v := by
  induction entries with
  | nil => cases hv
  | cons e rest ih =>
    obtain ⟨he, hrest⟩ := List.forall_mem_cons.mp h
    rw [Value.find?] at hv
    split at hv
    · cases hv
      exact he
    · exact ih hrest hv

/-- Why a text is not read as a value. -/
inductive Refusal : Fault → Prop
  | notJson : Refusal .notJson
  | tooDeep : Refusal .tooDeep
  | number {f : NumberFault} : f ≠ .beyondDouble → Refusal (.number f)

/-- A reader comes to something of a kind, or refuses the text. -/
def Reads (P : α → Prop) : Except Fault (α × List Char) → Prop
  | .ok r => P r.1
  | .error e => Refusal e

namespace Reads

variable {P : α → Prop} {Q : β → Prop} {r : Except Fault (α × List Char)}

theorem ok {v : α} (h : P v) (rest : List Char) : Reads P (.ok (v, rest)) := h

theorem notJson : Reads P (.error .notJson) := Refusal.notJson

theorem bind {f : α × List Char → Except Fault (β × List Char)} (h : Reads P r)
    (hf : ∀ v rest, P v → Reads Q (f (v, rest))) : Reads Q (r >>= f) := by
  cases r with
  | ok r => exact hf r.1 r.2 h
  | error e => exact h

end Reads

theorem stringBody_reads (cs : List Char) : Reads (fun _ => True) (stringBody fuel cs) := by
  induction fuel generalizing cs with
  | zero => exact .notJson
  | succ fuel ih =>
    unfold stringBody
    split
    · exact .ok trivial _
    · split
      · exact .bind (ih _) fun _ rest _ => .ok trivial rest
      · exact .notJson
    · split
      · exact .bind (ih _) fun _ rest _ => .ok trivial rest
      · exact .notJson
    · split
      · exact .notJson
      · exact .bind (ih _) fun _ rest _ => .ok trivial rest
    · exact .notJson

theorem number_reads (cs : List Char) : Reads (Denotable room) (number cs) := by
  unfold number
  split
  · exact .notJson
  · dsimp only
    split
    · split
      · rename_i n hn
        exact .ok (.int (natAbs_lt_of_readInteger hn)) _
      · rename_i f hf
        exact Refusal.number (ne_beyondDouble_of_readInteger hf)
    · split
      · exact .ok (.double _) _
      · rename_i f hf
        exact Refusal.number (ne_beyondDouble_of_readDouble hf)

theorem word?_denotable {cs rest : List Char} {v : Value} (h : word? cs = some (v, rest)) :
    Denotable room v := by
  obtain ⟨w, hw, hafter⟩ := List.exists_of_findSome?_eq_some h
  obtain ⟨_, -, hpair⟩ := Option.map_eq_some_iff.mp hafter
  cases hpair
  simp only [words, List.mem_cons, List.not_mem_nil, or_false] at hw
  rcases hw with rfl | rfl | rfl | rfl | rfl | rfl
  · exact .null
  · exact .bool true
  · exact .bool false
  all_goals exact .double _

/-- Entries with string keys and denotable values. -/
abbrev IsEntry (room : Nat) (e : Value × Value) : Prop := IsString e.1 ∧ Denotable room e.2

theorem denotable_map_iff {entries : List (Value × Value)} :
    Denotable (room + 1) (.map entries) ↔ ∀ e ∈ entries, IsEntry room e := by
  constructor
  · rintro (_ | _ | _ | _ | ⟨⟨s, hs⟩ | ⟨t, ht⟩⟩ | _ | ⟨hkeys, hvalues⟩)
    · cases hs
    · cases ht
    · exact fun e he => ⟨hkeys e he, hvalues e he⟩
  · exact fun h => .map (fun e he => (h e he).1) fun e he => (h e he).2

theorem insert_isEntry {key v : Value} {entries : List (Value × Value)} (hnew : IsEntry room (key, v))
    (h : ∀ e ∈ entries, IsEntry room e) : ∀ e ∈ Value.insert key v entries, IsEntry room e := by
  induction entries with
  | nil => exact List.forall_mem_singleton.mpr hnew
  | cons e rest ih =>
    obtain ⟨he, hrest⟩ := List.forall_mem_cons.mp h
    rw [Value.insert]
    split
    · exact List.forall_mem_cons.mpr ⟨⟨he.1, hnew.2⟩, hrest⟩
    · exact List.forall_mem_cons.mpr ⟨he, ih hrest⟩

theorem entriesOf_denotable {entries : List (Value × Value)} (h : ∀ e ∈ entries, IsEntry room e) :
    Denotable (room + 1) (.map (Value.entriesOf entries)) := by
  have hfold : ∀ acc : List (Value × Value), (∀ e ∈ acc, IsEntry room e) →
      ∀ e ∈ entries.foldl (fun acc e => Value.insert e.1 e.2 acc) acc, IsEntry room e := by
    induction entries with
    | nil => exact fun acc hacc => hacc
    | cons e rest ih =>
      obtain ⟨he, hrest⟩ := List.forall_mem_cons.mp h
      exact fun acc hacc => ih hrest _ (insert_isEntry he hacc)
  exact denotable_map_iff.mpr (hfold [] nofun)

/-- What the readers of values come to, each with a number of steps. -/
structure ReadDenotable (fuel : Nat) : Prop where
  value : ∀ room cs, Reads (Denotable room) (readValue room fuel cs)
  elements : ∀ room cs, Reads (fun xs => ∀ v ∈ xs, Denotable room v) (readElements room fuel cs)
  entries : ∀ room cs, Reads (fun kvs => ∀ e ∈ kvs, IsEntry room e) (readEntries room fuel cs)

namespace ReadDenotable

variable (ih : ReadDenotable fuel) (cs : List Char)

include ih

theorem value_succ : Reads (Denotable room) (readValue room (fuel + 1) cs) := by
  unfold readValue
  split
  · exact .bind (stringBody_reads _) fun s rest _ => .ok (.string (isString_ofPoints s)) rest
  · split
    · exact Refusal.tooDeep
    · rename_i hroom
      obtain ⟨room, rfl⟩ := Nat.exists_eq_succ_of_ne_zero hroom
      split
      · exact .ok (.list (List.forall_mem_nil _)) _
      · exact .bind (ih.elements _ _) fun xs rest hxs => .ok (.list hxs) rest
  · split
    · exact Refusal.tooDeep
    · rename_i hroom
      obtain ⟨room, rfl⟩ := Nat.exists_eq_succ_of_ne_zero hroom
      split
      · exact .ok (.map (List.forall_mem_nil _) (List.forall_mem_nil _)) _
      · exact .bind (ih.entries _ _) fun kvs rest hkvs => .ok (entriesOf_denotable hkvs) rest
  · split
    · rename_i found hfound
      exact .ok (word?_denotable hfound) found.2
    · exact number_reads _

theorem elements_succ :
    Reads (fun xs => ∀ v ∈ xs, Denotable room v) (readElements room (fuel + 1) cs) := by
  unfold readElements
  refine .bind (ih.value _ _) fun v rest hv => ?_
  dsimp only
  split
  · refine .bind (ih.elements _ _) fun xs rest hxs => .ok ?_ rest
    exact List.forall_mem_cons.mpr ⟨hv, hxs⟩
  · exact .ok (List.forall_mem_singleton.mpr hv) _
  · exact .notJson

theorem entries_succ :
    Reads (fun kvs => ∀ e ∈ kvs, IsEntry room e) (readEntries room (fuel + 1) cs) := by
  unfold readEntries
  split
  · refine .bind (stringBody_reads _) fun k rest _ => ?_
    dsimp only
    split
    · refine .bind (ih.value _ _) fun v rest hv => ?_
      have hentry : IsEntry room (.ofPoints k, v) := ⟨isString_ofPoints k, hv⟩
      dsimp only
      split
      · refine .bind (ih.entries _ _) fun kvs rest hkvs => .ok ?_ rest
        exact List.forall_mem_cons.mpr ⟨hentry, hkvs⟩
      · exact .ok (List.forall_mem_singleton.mpr hentry) _
      · exact .notJson
    · exact .notJson
  · exact .notJson

end ReadDenotable

theorem readDenotable (fuel : Nat) : ReadDenotable fuel := by
  induction fuel with
  | zero => exact ⟨fun _ _ => .notJson, fun _ _ => .notJson, fun _ _ => .notJson⟩
  | succ fuel ih =>
    exact ⟨fun _ cs => ih.value_succ cs, fun _ cs => ih.elements_succ cs,
      fun _ cs => ih.entries_succ cs⟩

/-- **A text is read as a denotable value, or refused.** -/
theorem read_cases (cs : List Char) :
    (∃ v, read cs = .ok v ∧ Denotable nestingLimit v) ∨ ∃ e, read cs = .error e ∧ Refusal e := by
  have hread := (readDenotable (2 * (skipBlanks cs).length + 2)).value nestingLimit (skipBlanks cs)
  rw [read]
  rcases hr : readValue nestingLimit (2 * (skipBlanks cs).length + 2) (skipBlanks cs) with e | ⟨v, rest⟩
  · rw [hr] at hread
    exact .inr ⟨e, rfl, hread⟩
  · rw [hr] at hread
    dsimp only [bind, Except.bind]
    split
    · exact .inl ⟨v, rfl, hread⟩
    · exact .inr ⟨_, rfl, .notJson⟩

theorem denotable_of_read {cs : List Char} {v : Value} (h : read cs = .ok v) :
    Denotable nestingLimit v := by
  rcases read_cases cs with ⟨u, hu, hdenotable⟩ | ⟨e, he, -⟩
  · cases h.symm.trans hu
    exact hdenotable
  · cases h.symm.trans he

theorem refusal_of_read {cs : List Char} {e : Fault} (h : read cs = .error e) :
    Refusal e := by
  rcases read_cases cs with ⟨v, hv, -⟩ | ⟨f, hf, hrefusal⟩
  · cases h.symm.trans hv
  · cases h.symm.trans hf
    exact hrefusal

end StepFlow.Json
