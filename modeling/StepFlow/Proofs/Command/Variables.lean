import StepFlow.Command.Variables
import StepFlow.Proofs.Json.Depth
import StepFlow.Proofs.Json.Restoring
import StepFlow.Proofs.Run.Insertion
import StepFlow.Proofs.Run.Variables

/-!
# Variables bound on the command line

An item is taken apart at its first sign of equality, and what stands behind it means a value: the one
that it denotes, if it is JSON, and otherwise itself. So a text means something else just because it
happens to be JSON, and what decides is the whole text, further signs of equality included.

Items are put in one after the other. A name keeps the place of the first item that has it, and its
value is that of the last one. A single item without a name makes all of them fail.

A value that is written as JSON comes back when its text stands in an item, and a template that refers
to the variable shows it.

## Main definitions

* `Variables.nameOf`, `Variables.textOf` — an item taken apart
* `Variables.Means` — the value that a text means
* `Variables.Bound` — the variables that items bind
* `Variables.Parsed` — what becomes of items
* `Variables.Carried` — a value comes back by an item, and templates show it

## Main results

* `Variables.bound_of_read` — variables that have been read are those that the items bind
* `Variables.carried_of_write` — a value that has been written comes back
* `Variables.items_carry` — what becomes of items, and of the values that are written in them
-/

namespace StepFlow.Variables

variable {item key text : String} {items before after : List String} {vars : List (Value × Value)}
  {v : Value}

/-! ### Items -/

/-- What stands before the first sign of equality in an item. -/
def nameOf (item : String) : String := String.ofList (item.toList.takeWhile (· ≠ '='))

/-- What stands behind the first sign of equality in an item. -/
def textOf (item : String) : List Char := (item.toList.dropWhile (· ≠ '=')).tail

/-- An item binds a variable: it has a sign of equality, which does not stand at the beginning. -/
def Binds (item : String) : Prop := '=' ∈ item.toList ∧ item.toList.head? ≠ some '='

/-- No collection in the text of an item lies too deep for the reader. -/
def Followed (item : String) : Prop := Json.read (textOf item) ≠ .error .tooDeep

instance : DecidablePred Binds := fun item =>
  inferInstanceAs (Decidable ('=' ∈ item.toList ∧ item.toList.head? ≠ some '='))

/-- Items with few brackets are followed. -/
theorem followed_of_openings (h : Json.openings item.toList ≤ nestingLimit) : Followed item := by
  refine Json.read_ne_tooDeep (Nat.le_trans (Json.openings_le_of_suffix ?_) h)
  exact (List.tail_suffix _).trans (List.dropWhile_suffix _)

/-- Why an item is refused. -/
inductive Refuses (item : String) : VariableFault → Prop
  | noSeparator : '=' ∉ item.toList → Refuses item (.noSeparator item)
  | noKey : item.toList.head? = some '=' → Refuses item (.noKey item)

theorem toList_item (key value : String) :
    (key ++ "=" ++ value).toList = key.toList ++ '=' :: value.toList := by
  rw [String.toList_append, String.toList_append, List.append_assoc]
  rfl

section

variable (hkey : '=' ∉ key.toList) (value : String)

include hkey

theorem split_item :
    (key ++ "=" ++ value).toList.takeWhile (· ≠ '=') = key.toList ∧
      (key ++ "=" ++ value).toList.dropWhile (· ≠ '=') = '=' :: value.toList := by
  rw [toList_item]
  exact Text.takeWhile_dropWhile_append
    (fun c hc => decide_eq_true fun heq => hkey (heq ▸ hc)) (by decide)

theorem nameOf_item : nameOf (key ++ "=" ++ value) = key := by
  rw [nameOf, (split_item hkey value).1, String.ofList_toList]

theorem textOf_item : textOf (key ++ "=" ++ value) = value.toList := by
  rw [textOf, (split_item hkey value).2, List.tail_cons]

/-- An item with a name has the value that its text means. -/
theorem readItem_item (hne : key ≠ "") :
    readItem (key ++ "=" ++ value) = (valueOf value.toList).map fun v => (.str key, v) := by
  obtain ⟨c, cs, hcs⟩ := List.exists_cons_of_ne_nil (mt String.toList_eq_nil_iff.mp hne)
  have hback : String.ofList (c :: cs) = key := by rw [← hcs, String.ofList_toList]
  rw [readItem, List.span_eq_takeWhile_dropWhile, (split_item hkey value).1,
    (split_item hkey value).2, hcs]
  dsimp only
  rw [hback]
  cases valueOf value.toList <;> rfl

end

/-- **An item binds a variable just if a name stands before its first sign of equality.** -/
theorem binds_iff : Binds item ↔ ∃ key value, key ≠ "" ∧ '=' ∉ key.toList ∧
    item = key ++ "=" ++ value := by
  constructor
  · rintro ⟨hmem, hhead⟩
    obtain ⟨name, value, hitem, hname⟩ := List.eq_append_cons_of_mem hmem
    refine ⟨String.ofList name, String.ofList value, ?_, by rwa [String.toList_ofList], ?_⟩
    · intro hempty
      rw [String.ofList_eq_empty_iff.mp hempty] at hitem
      exact hhead (by rw [hitem]; rfl)
    · apply String.toList_injective
      rw [toList_item, hitem, String.toList_ofList, String.toList_ofList]
  · rintro ⟨key, value, hne, hkey, rfl⟩
    obtain ⟨c, cs, hcs⟩ := List.exists_cons_of_ne_nil (mt String.toList_eq_nil_iff.mp hne)
    rw [Binds, toList_item, hcs]
    refine ⟨by simp, fun heq => hkey ?_⟩
    rw [hcs, Option.some.inj heq]
    exact List.mem_cons_self

theorem readItem_of_binds (h : Binds item) :
    readItem item = (valueOf (textOf item)).map fun v => (.str (nameOf item), v) := by
  obtain ⟨key, value, hne, hkey, rfl⟩ := binds_iff.mp h
  rw [readItem_item hkey value hne, nameOf_item hkey value, textOf_item hkey value]

/-- An item without a name is refused. -/
theorem readItem_of_not_binds (h : ¬Binds item) :
    ∃ f, Refuses item f ∧ readItem item = .error (.variableItem f) := by
  unfold readItem
  rw [List.span_eq_takeWhile_dropWhile]
  by_cases hmem : '=' ∈ item.toList
  · have hhead : item.toList.head? = some '=' := not_not.mp fun hhead => h ⟨hmem, hhead⟩
    refine ⟨_, .noKey hhead, ?_⟩
    cases hitem : item.toList with
    | nil =>
      rw [hitem] at hhead
      cases hhead
    | cons c rest =>
      rw [hitem] at hhead
      cases hhead
      rfl
  · refine ⟨_, .noSeparator hmem, ?_⟩
    have hnone : item.toList.dropWhile (· ≠ '=') = [] := by
      rw [List.dropWhile_eq_nil_iff]
      exact fun c hc => decide_eq_true fun heq => hmem (heq ▸ hc)
    rw [hnone]
    rfl

/-! ### Values -/

/-- **The value that a text means**: what it denotes if it is JSON, and otherwise itself. -/
inductive Means (cs : List Char) : Value → Prop
  | json {v : Value} : Json.IsText cs v → Means cs v
  | text : (∀ v, ¬Json.IsText cs v) → Means cs (.str (String.ofList cs))

theorem Means.eq_of_isText {cs : List Char} {u : Value} (h : Means cs u) (hv : Json.IsText cs v) :
    u = v := by
  cases h with
  | json hu =>
    have hread := (Json.read_eq_ok_iff.mpr hu).symm.trans (Json.read_eq_ok_iff.mpr hv)
    exact Except.ok.inj hread
  | text hnone => exact absurd hv (hnone v)

theorem means_of_valueOf {cs : List Char} (h : valueOf cs = .ok v) : Means cs v := by
  unfold valueOf at h
  split at h
  · cases h
  · rename_i e _ herror
    cases h
    refine .text fun v hv => ?_
    cases herror.symm.trans (Json.read_eq_ok_iff.mpr hv)
  · rename_i v' hread
    cases h
    exact .json (Json.read_eq_ok_iff.mp hread)

theorem exists_valueOf {cs : List Char} (h : Json.read cs ≠ .error .tooDeep) :
    ∃ v, valueOf cs = .ok v := by
  unfold valueOf
  split
  · rename_i hdeep
    exact absurd hdeep h
  · exact ⟨_, rfl⟩
  · exact ⟨_, rfl⟩

/-! ### Variables -/

/-- An item gives a name and the value that its text means. -/
def Gives (item : String) (f : String × Value) : Prop :=
  Binds item ∧ f.1 = nameOf item ∧ Means (textOf item) f.2

theorem exists_gives_of_readItem {e : Value × Value} (h : readItem item = .ok e) :
    ∃ f : String × Value, e = (.str f.1, f.2) ∧ Gives item f := by
  by_cases hbinds : Binds item
  · rw [readItem_of_binds hbinds] at h
    cases hv : valueOf (textOf item) with
    | error e =>
      rw [hv] at h
      cases h
    | ok v =>
      rw [hv] at h
      cases h
      exact ⟨(nameOf item, v), rfl, hbinds, rfl, means_of_valueOf hv⟩
  · obtain ⟨f, -, hf⟩ := readItem_of_not_binds hbinds
    cases hf.symm.trans h

theorem exists_fields_of_mapM {entries : List (Value × Value)}
    (h : items.mapM readItem = .ok entries) : ∃ fields : Fields Value,
      entries = fields.map (fun f => (.str f.1, f.2)) ∧ List.Forall₂ Gives items fields := by
  induction items generalizing entries with
  | nil =>
    cases h
    exact ⟨[], rfl, .nil⟩
  | cons item items ih =>
    rw [List.mapM_cons] at h
    obtain ⟨e, he, h⟩ := exists_of_bind_ok h
    obtain ⟨rest, hrest, h⟩ := exists_of_bind_ok h
    cases h
    obtain ⟨f, rfl, hf⟩ := exists_gives_of_readItem he
    obtain ⟨fields, rfl, hfields⟩ := ih hrest
    exact ⟨f :: fields, rfl, .cons hf hfields⟩

theorem names_of_gives {fields : Fields Value} (h : List.Forall₂ Gives items fields) :
    fields.map (·.1) = items.map nameOf := by
  induction h with
  | nil => rfl
  | cons hf _ ih => rw [List.map_cons, List.map_cons, ih, hf.2.1]

/-- An item gives a field that stands among the others as the item does. -/
theorem exists_field_of_append {fields : Fields Value}
    (h : List.Forall₂ Gives (before ++ item :: after) fields) :
    ∃ fs f gs, fields = fs ++ f :: gs ∧ Gives item f ∧ List.Forall₂ Gives after gs := by
  induction before generalizing fields with
  | nil =>
    cases h with
    | cons hf hgs => exact ⟨[], _, _, rfl, hf, hgs⟩
  | cons first before ih =>
    cases h with
    | cons _ hrest =>
      obtain ⟨fs, f, gs, rfl, hf, hgs⟩ := ih hrest
      exact ⟨_ :: fs, f, gs, rfl, hf, hgs⟩

/-- **The variables that items bind.** -/
structure Bound (items : List String) (vars : List (Value × Value)) : Prop where
  /-- There is one for each name, in the order of their first occurrences. -/
  names : vars.map (·.1) = (items.map nameOf).eraseDups.map Value.str
  /-- Its value is what the text of the last item with that name means. -/
  values : ∀ before item after, items = before ++ item :: after → nameOf item ∉ after.map nameOf →
    ∃ v, Means (textOf item) v ∧ Value.lookup? (nameOf item) vars = some v

/-- **Variables that have been read are those that the items bind.** -/
theorem bound_of_read (h : read items = .ok vars) : Bound items vars := by
  obtain ⟨entries, hentries, h⟩ := exists_of_bind_ok h
  obtain ⟨fields, rfl, hfields⟩ := exists_fields_of_mapM hentries
  cases h
  refine ⟨?_, ?_⟩
  · rw [Value.entriesOf_fields, List.map_map, ← names_of_gives hfields, ← Fields.map_fst_ofList,
      List.map_map]
    rfl
  · rintro before item after rfl hlast
    obtain ⟨fs, f, gs, rfl, ⟨-, hname, hmeans⟩, hgs⟩ := exists_field_of_append hfields
    rw [← names_of_gives hgs, ← hname] at hlast
    refine ⟨f.2, hmeans, ?_⟩
    rw [Value.entriesOf_fields, Value.lookup?_fields, ← hname,
      Fields.get?_ofList_of_last fs f hlast]

example : read ["n=NaN", "eq=true=1", "n=[null, \"=\"]"] =
    .ok [(.str "n", .list [.null, .str "="]), (.str "eq", .str "true=1")] := by cbv

/-- Items that all have names are read. -/
theorem exists_read_of_binds (h : ∀ item ∈ items, Binds item ∧ Followed item) :
    ∃ vars, read items = .ok vars := by
  have hmapM : ∃ entries, items.mapM readItem = .ok entries := by
    induction items with
    | nil => exact ⟨[], rfl⟩
    | cons item items ih =>
      obtain ⟨⟨hbinds, hfollowed⟩, hrest⟩ := List.forall_mem_cons.mp h
      obtain ⟨v, hv⟩ := exists_valueOf hfollowed
      obtain ⟨entries, hentries⟩ := ih hrest
      rw [List.mapM_cons, readItem_of_binds hbinds, hv, hentries]
      exact ⟨_, rfl⟩
  obtain ⟨entries, hentries⟩ := hmapM
  rw [read, hentries]
  exact ⟨_, rfl⟩

/-- A single item without a name makes all of them fail. -/
theorem mapM_of_not_binds (hfollowed : ∀ item ∈ items, Followed item)
    (hbad : ∃ item ∈ items, ¬Binds item) :
    ∃ item ∈ items, ∃ f, Refuses item f ∧ items.mapM readItem = .error (.variableItem f) := by
  induction items with
  | nil => simp at hbad
  | cons item items ih =>
    obtain ⟨hitem, hrest⟩ := List.forall_mem_cons.mp hfollowed
    rw [List.mapM_cons]
    by_cases hbinds : Binds item
    · obtain ⟨v, hv⟩ := exists_valueOf hitem
      have hlater : ∃ item ∈ items, ¬Binds item := by
        obtain ⟨bad, hmem, hnot⟩ := hbad
        rcases List.mem_cons.mp hmem with rfl | hmem
        · exact absurd hbinds hnot
        · exact ⟨bad, hmem, hnot⟩
      obtain ⟨bad, hmem, f, hf, hmapM⟩ := ih hrest hlater
      refine ⟨bad, List.mem_cons_of_mem _ hmem, f, hf, ?_⟩
      rw [readItem_of_binds hbinds, hv, hmapM]
      rfl
    -- the first item without a name decides, whatever comes behind it
    · obtain ⟨f, hf, hread⟩ := readItem_of_not_binds hbinds
      refine ⟨item, List.mem_cons_self, f, hf, ?_⟩
      rw [hread]
      rfl

/-- **What becomes of items.** -/
structure Parsed (items : List String) : Prop where
  /-- They are refused just if one of them binds no variable. -/
  refused : (∃ e, read items = .error e ∧ e.label = "ValueError") ↔ ∃ item ∈ items, ¬Binds item
  /-- What is told then is an item that has no sign of equality, or nothing before it. -/
  told : ∀ e, read items = .error e → ∃ item ∈ items, ∃ f, Refuses item f ∧ e = .variableItem f
  /-- Otherwise there are variables, and they are those that the items bind. -/
  bound : (∀ item ∈ items, Binds item) → ∃ vars, read items = .ok vars ∧ Bound items vars

theorem parsed (h : ∀ item ∈ items, Followed item) : Parsed items := by
  have hbad (hbad : ∃ item ∈ items, ¬Binds item) :
      ∃ item ∈ items, ∃ f, Refuses item f ∧ read items = .error (.variableItem f) := by
    obtain ⟨item, hitem, f, hf, hmapM⟩ := mapM_of_not_binds h hbad
    refine ⟨item, hitem, f, hf, ?_⟩
    rw [read, hmapM]
    rfl
  have hgood (hgood : ∀ item ∈ items, Binds item) : ∃ vars, read items = .ok vars :=
    exists_read_of_binds fun item hitem => ⟨hgood item hitem, h item hitem⟩
  have hfails {e : Fault} (he : read items = .error e) : ∃ item ∈ items, ¬Binds item := by
    by_contra hnone
    obtain ⟨vars, hvars⟩ := hgood fun item hitem => not_not.mp fun hnot => hnone ⟨item, hitem, hnot⟩
    cases hvars.symm.trans he
  refine ⟨⟨?_, fun hnot => ?_⟩, fun e he => ?_, fun hall => ?_⟩
  · rintro ⟨e, he, -⟩
    exact hfails he
  · obtain ⟨-, -, f, -, hread⟩ := hbad hnot
    exact ⟨_, hread, rfl⟩
  · obtain ⟨item, hitem, f, hf, hread⟩ := hbad (hfails he)
    exact ⟨item, hitem, f, hf, Except.error.inj (he.symm.trans hread)⟩
  · obtain ⟨vars, hvars⟩ := hgood hall
    exact ⟨vars, hvars, bound_of_read hvars⟩

/-! ### Values carried over -/

/-- **A value comes back** by an item that its text stands in. -/
structure Carried (v : Value) (key text : String) : Prop where
  /-- The item binds a variable, and it is followed. -/
  binds : Binds (key ++ "=" ++ text) ∧ Followed (key ++ "=" ++ text)
  /-- Among other such items, of which no later one has the same name, it gives the variable the
  value. -/
  bound : ∀ before after, (∀ item ∈ before ++ after, Binds item ∧ Followed item) →
    key ∉ after.map nameOf → ∃ vars, read (before ++ (key ++ "=" ++ text) :: after) = .ok vars ∧
      Value.lookup? key vars = some v
  /-- A template that refers to a variable with the value resolves to what it inserts. -/
  shown : (∀ c ∈ ['$', '\x7b', '\x7d'], c ∉ key.toList) →
    ∀ scope : Scope, Value.lookup? key scope.vars = some v →
      ∃ s, v.insertion = .ok s ∧ Template.resolve scope ("$\x7b" ++ key ++ "\x7d") = .ok s

theorem exists_insertion (hv : Json.Native v) (hshort : v.Short) (hnesting : v.nesting ≤ nestingLimit) :
    ∃ s, v.insertion = .ok s := by
  rcases Value.insertion_writes hshort with ⟨-, hs⟩ | ⟨hnot, -⟩
  · exact hs
  · exact absurd (hv.writable hshort hnesting (Nat.le_refl _)) hnot

/-- **A value that has been written comes back.** -/
theorem carried_of_write {style : Json.Style} (hv : Json.Native v) (hshort : v.Short)
    (hnesting : v.nesting ≤ nestingLimit) (htext : Json.write style v = .ok text)
    (hne : key ≠ "") (hkey : '=' ∉ key.toList) : Carried v key text := by
  have hread := Json.read_write hv htext
  have hitem : Binds (key ++ "=" ++ text) ∧ Followed (key ++ "=" ++ text) := by
    refine ⟨binds_iff.mpr ⟨key, text, hne, hkey, rfl⟩, ?_⟩
    rw [Followed, textOf_item hkey, hread]
    rintro ⟨⟩
  refine ⟨hitem, fun before after hothers hlast => ?_, fun hplain scope hlookup => ?_⟩
  · have hall : ∀ item ∈ before ++ (key ++ "=" ++ text) :: after, Binds item ∧ Followed item :=
      List.forall_mem_append.mpr ⟨(List.forall_mem_append.mp hothers).1,
        List.forall_mem_cons.mpr ⟨hitem, (List.forall_mem_append.mp hothers).2⟩⟩
    obtain ⟨vars, hvars⟩ := exists_read_of_binds hall
    have hname := nameOf_item hkey text
    obtain ⟨u, hu, hlookup⟩ := (bound_of_read hvars).values before _ after rfl (by rwa [hname])
    rw [textOf_item hkey] at hu
    rw [hname] at hlookup
    refine ⟨vars, hvars, ?_⟩
    rw [hlookup, hu.eq_of_isText (Json.read_eq_ok_iff.mp hread)]
  · obtain ⟨s, hs⟩ := exists_insertion hv hshort hnesting
    have hwf : (Template.Placeholder.var key.toList).WellFormed :=
      ⟨mt String.toList_eq_nil_iff.mp hne, hplain⟩
    exact ⟨s, hs, Template.resolve_variable hwf hlookup hs⟩

/-- **Items bind variables, and values come back by them.** What becomes of items is settled as long as
the reader follows their texts; and a value that is made of the kinds of JSON is written in a style of
any kind as a text that brings it back. -/
theorem items_carry :
    (∀ items, (∀ item ∈ items, Followed item) → Parsed items) ∧
      ∀ v, Json.Native v → v.Short → v.nesting ≤ nestingLimit → ∀ style,
        ∃ text, Json.write style v = .ok text ∧
          ∀ key, key ≠ "" → '=' ∉ key.toList → Carried v key text := by
  refine ⟨fun items => parsed, fun v hv hshort hnesting style => ?_⟩
  obtain ⟨text, htext⟩ := Json.exists_write hv hshort hnesting
  exact ⟨text, htext, fun key => carried_of_write hv hshort hnesting htext⟩

/-- A name that is bound twice, and a value that is text since the whole of it is no JSON. -/
theorem items_carry_twice :
    (∀ item ∈ ["n=1", "eq=true=1", "n=[null, \"=\"]"], Followed item) ∧
      Parsed ["n=1", "eq=true=1", "n=[null, \"=\"]"] ∧
      (Json.Native (.list [.null, .str "="]) ∧ (Value.list [.null, .str "="]).Short ∧
        (Value.list [.null, .str "="]).nesting ≤ nestingLimit) ∧
      ∃ text, Json.write .inline (.list [.null, .str "="]) = .ok text ∧
        Carried (.list [.null, .str "="]) "n" text := by
  have hfollowed : ∀ item ∈ ["n=1", "eq=true=1", "n=[null, \"=\"]"], Followed item := by
    intro item hitem
    refine followed_of_openings ?_
    simp only [List.mem_cons, List.not_mem_nil, or_false] at hitem
    rcases hitem with rfl | rfl | rfl <;> decide
  have hnative : Json.Native (.list [.null, .str "="]) := by
    refine .list fun v hv => ?_
    simp only [List.mem_cons, List.not_mem_nil, or_false] at hv
    rcases hv with rfl | rfl
    · exact .null
    · exact .str "="
  have hshort : (Value.list [.null, .str "="]).Short := by
    refine Value.short_list_iff.mpr ?_
    simp
  have hnesting : (Value.list [.null, .str "="]).nesting ≤ nestingLimit := by decide
  obtain ⟨text, htext, hcarried⟩ := items_carry.2 _ hnative hshort hnesting .inline
  exact ⟨hfollowed, items_carry.1 _ hfollowed, ⟨hnative, hshort, hnesting⟩, text, htext,
    hcarried "n" (by decide) (by decide)⟩

end StepFlow.Variables
