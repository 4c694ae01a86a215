import StepFlow.Json.Write
import StepFlow.Proofs.Value.Text

/-!
# What can be written as JSON

A value that JSON has no form for is written as a string, so that nearly all values can be written.
There are three exceptions. The keys of a mapping are no values here: a key that is neither a text nor
a number, a Boolean or null is refused, and a string is not put in its place. A collection that
holds itself has no text. And collections are followed up to a certain depth only.

The first two may lie anywhere in a value. `Json.Writable` says that none of this is so.

## Main definitions

* `Json.HasKeyText` — a key that can be written
* `Json.Writable` — a value that can be written where collections may lie so deep
* `Json.Unwritten` — why a value is not written

## Main results

* `Json.value_writes`, `Json.write_writes` — a value with short integers is written just if it can be
-/

namespace StepFlow.Json

variable {α β : Type} {style : Style} {asciiOnly : Bool} {depth room : Nat}

/-! ### Texts and refusals -/

/-- A key has no JSON form, or a collection holds itself or lies too deep. -/
def Unwritten (e : Fault) : Prop := e = .circular ∨ (∃ reason, e = .wrongKind reason) ∨ e = .tooDeep

/-- There is a text just if a condition holds. Otherwise a value is refused. -/
def Writes (P : Prop) (r : Except Fault α) : Prop :=
  (P ∧ ∃ v, r = .ok v) ∨ ¬P ∧ ∃ e, r = .error e ∧ Unwritten e

namespace Writes

variable {P Q : Prop} {r : Except Fault α}

theorem ok (v : α) : Writes True (.ok v) := .inl ⟨trivial, v, rfl⟩

theorem refuse {e : Fault} (h : Unwritten e) : Writes False (.error e : Except Fault α) :=
  .inr ⟨id, e, rfl, h⟩

theorem congr (h : Writes P r) (hPQ : P ↔ Q) : Writes Q r := by
  rwa [Writes, hPQ] at h

/-- What comes next may rely on what has been found. -/
theorem bindOf {f : α → Except Fault β} (h : Writes P r) (hf : P → ∀ v, Writes Q (f v)) :
    Writes (P ∧ Q) (r >>= f) := by
  rcases h with ⟨hP, v, rfl⟩ | ⟨hP, e, rfl, he⟩
  · exact (hf hP v).congr (and_iff_right hP).symm
  · exact .inr ⟨fun hboth => hP hboth.1, e, rfl, he⟩

/-- Two texts are written one after the other. -/
theorem bind {f : α → Except Fault β} (h : Writes P r) (hf : ∀ v, Writes Q (f v)) :
    Writes (P ∧ Q) (r >>= f) := h.bindOf fun _ => hf

/-- What is made of a text does not matter. -/
theorem map {f : α → Except Fault β} (h : Writes P r) (hf : ∀ v, ∃ u, f v = .ok u) :
    Writes P (r >>= f) := by
  refine (h.bind (Q := True) fun v => ?_).congr (and_iff_left trivial)
  obtain ⟨u, hu⟩ := hf v
  rw [hu]
  exact .ok u

end Writes

/-- There is room for a collection just if it is not at the limit. -/
theorem requireRoom_writes (hroom : depth + room = nestingLimit) :
    Writes (0 < room) (requireRoom nestingLimit depth) := by
  unfold requireRoom
  split
  · exact (Writes.ok _).congr (iff_of_true trivial (by omega))
  · exact (Writes.refuse (.inr (.inr rfl))).congr (iff_of_false id (by omega))

/-! ### Keys -/

/-- A key that can be written. -/
inductive HasKeyText : Value → Prop
  | str (s : String) : HasKeyText (.str s)
  | double (x : Double) : HasKeyText (.double x)
  | bool (b : Bool) : HasKeyText (.bool b)
  | null : HasKeyText .null
  | int (n : Int) : HasKeyText (.int n)
  | rough (t : RoughText) : HasKeyText (.rough t)

theorem exists_integer {n : Int} (h : n.natAbs < tenTo digitLimit) : ∃ cs, integer n = .ok cs := by
  unfold integer integerText
  rw [if_neg (Nat.not_le.mpr h)]
  exact ⟨_, rfl⟩

theorem keyString_writes {k : Value} (h : k.Short) : Writes (HasKeyText k) (keyString asciiOnly k) := by
  cases k with
  | str s => exact (Writes.ok _).congr (iff_of_true trivial (.str s))
  | double x => exact (Writes.ok _).congr (iff_of_true trivial (.double x))
  | bool b => exact (Writes.ok _).congr (iff_of_true trivial (.bool b))
  | null => exact (Writes.ok _).congr (iff_of_true trivial .null)
  | rough t => exact (Writes.ok _).congr (iff_of_true trivial (.rough t))
  | int n =>
    obtain ⟨cs, hcs⟩ := exists_integer (Value.short_int_iff.mp h)
    rw [keyString, keyText, hcs]
    · exact (Writes.ok _).congr (iff_of_true trivial (.int n))
    · rintro t ⟨⟩
  | _ => exact (Writes.refuse (.inr (.inl ⟨_, rfl⟩))).congr (iff_of_false id nofun)

/-! ### Values -/

/-- A value that is written as a whole: no collection with parts of its own. -/
def IsPlain : Value → Prop
  | .list _ | .tuple _ | .map _ | .knot .. | .loop _ => False
  | _ => True

/-- **A value that can be written** where there is room for so many collections in one another. -/
inductive Writable : Nat → Value → Prop
  /-- A value without a form in JSON is followed afresh when its text is made. -/
  | plain {room : Nat} {v : Value} : IsPlain v → ¬v.Unwritable → Writable room v
  | list {room : Nat} {items : List Value} : (∀ v ∈ items, Writable room v) →
      Writable (room + 1) (.list items)
  | tuple {room : Nat} {items : List Value} : (∀ v ∈ items, Writable room v) →
      Writable (room + 1) (.tuple items)
  | map {room : Nat} {entries : List (Value × Value)} : (∀ e ∈ entries, HasKeyText e.1) →
      (∀ e ∈ entries, Writable room e.2) → Writable (room + 1) (.map entries)
  /-- A collection that comes again inside itself, though not where it is written. -/
  | knot {room : Nat} {mark : Nat} {body : Value} : Writable room body →
      Writable room (.knot mark body)

theorem writable_list_iff {items : List Value} :
    Writable room (.list items) ↔ 0 < room ∧ ∀ v ∈ items, Writable (room - 1) v := by
  constructor
  · rintro (⟨hplain, -⟩ | h)
    · exact hplain.elim
    · exact ⟨Nat.succ_pos _, h⟩
  · rintro ⟨hroom, h⟩
    obtain ⟨room, rfl⟩ := Nat.exists_eq_succ_of_ne_zero (Nat.ne_of_gt hroom)
    exact .list h

theorem writable_tuple_iff {items : List Value} :
    Writable room (.tuple items) ↔ 0 < room ∧ ∀ v ∈ items, Writable (room - 1) v := by
  constructor
  · rintro (⟨hplain, -⟩ | _ | h)
    · exact hplain.elim
    · exact ⟨Nat.succ_pos _, h⟩
  · rintro ⟨hroom, h⟩
    obtain ⟨room, rfl⟩ := Nat.exists_eq_succ_of_ne_zero (Nat.ne_of_gt hroom)
    exact .tuple h

theorem writable_map_iff {entries : List (Value × Value)} :
    Writable room (.map entries) ↔
      0 < room ∧ ∀ e ∈ entries, HasKeyText e.1 ∧ Writable (room - 1) e.2 := by
  constructor
  · rintro (⟨hplain, -⟩ | _ | _ | ⟨hkeys, hvalues⟩)
    · exact hplain.elim
    · exact ⟨Nat.succ_pos _, fun e he => ⟨hkeys e he, hvalues e he⟩⟩
  · rintro ⟨hroom, h⟩
    obtain ⟨room, rfl⟩ := Nat.exists_eq_succ_of_ne_zero (Nat.ne_of_gt hroom)
    exact .map (fun e he => (h e he).1) fun e he => (h e he).2

theorem writable_knot_iff {mark : Nat} {body : Value} :
    Writable room (.knot mark body) ↔ Writable room body := by
  refine ⟨?_, .knot⟩
  rintro (⟨hplain, -⟩ | _ | _ | _ | h)
  · exact hplain.elim
  · exact h

theorem not_writable_loop (mark : Nat) : ¬Writable room (.loop mark) := by
  rintro ⟨hplain, -⟩
  exact hplain

theorem elements_writes {items : List Value}
    (h : ∀ v ∈ items, Writes (Writable room v) (value style depth v)) :
    Writes (∀ v ∈ items, Writable room v) (elements style depth items) := by
  induction items with
  | nil => exact (Writes.ok _).congr (iff_of_true trivial nofun)
  | cons v rest ih =>
    obtain ⟨hv, hrest⟩ := List.forall_mem_cons.mp h
    rw [elements]
    refine (hv.bind fun _ => (ih hrest).map fun _ => ⟨_, rfl⟩).congr ?_
    rw [List.forall_mem_cons]

theorem entries_writes {kvs : List (Value × Value)}
    (h : ∀ e ∈ kvs, Writes (HasKeyText e.1) (keyString style.asciiOnly e.1) ∧
      Writes (Writable room e.2) (value style depth e.2)) :
    Writes (∀ e ∈ kvs, HasKeyText e.1 ∧ Writable room e.2) (entries style depth kvs) := by
  induction kvs with
  | nil => exact (Writes.ok _).congr (iff_of_true trivial nofun)
  | cons e rest ih =>
    obtain ⟨k, v⟩ := e
    obtain ⟨⟨hk, hv⟩, hrest⟩ := List.forall_mem_cons.mp h
    rw [entries]
    refine (hk.bind fun _ => hv.bind fun _ => (ih hrest).map fun _ => ⟨_, rfl⟩).congr ?_
    rw [List.forall_mem_cons, and_assoc]

/-- A value without a form in JSON is written as the string of its text. -/
theorem textForm_writes {v : Value} (h : v.Short) (hplain : IsPlain v) :
    Writes (Writable room v) (textForm style v) := by
  unfold textForm
  cases htext : v.text with
  | ok s =>
    refine (Writes.ok _).congr (iff_of_true trivial (.plain hplain ?_))
    rintro ⟨e, he⟩
    cases htext.symm.trans he
  | error e =>
    have hunwritable : v.Unwritable := ⟨e, htext⟩
    refine .inr ⟨?_, e, rfl, ?_⟩
    · rintro (⟨-, hwritable⟩ | _ | _ | _ | _)
      · exact hwritable hunwritable
      all_goals exact hplain
    · rcases Value.text_fails v e htext with ⟨-, hlong⟩ | ⟨hdeep, -⟩
      · exact absurd h hlong
      · exact .inr (.inr hdeep)

/-- What holds nothing else is written if there is a form for it. -/
theorem scalar_writes {v : Value} (h : v.Short) (hplain : IsPlain v) (hnesting : v.nesting = 0)
    (hok : ∃ cs, value style depth v = .ok cs) : Writes (Writable room v) (value style depth v) := by
  refine .inl ⟨.plain hplain ?_, hok⟩
  rintro ⟨e, he⟩
  obtain ⟨s, hs⟩ := h.hasText (hnesting ▸ Nat.zero_le _)
  cases hs.symm.trans he

theorem value_writes {v : Value} (h : v.Short) (hroom : depth + room = nestingLimit) :
    Writes (Writable room v) (value style depth v) := by
  induction h generalizing depth room with
  | @intro v hn hu ih =>
    have hshort : v.Short := .intro hn hu
    -- one collection deeper there is room for one less
    have hbelow (hpos : 0 < room) : depth + 1 + (room - 1) = nestingLimit := by omega
    cases v with
    | list items =>
      rw [value]
      refine Writes.congr ((requireRoom_writes hroom).bindOf fun hpos _ => Writes.map ?_ fun _ =>
        ⟨_, rfl⟩) writable_list_iff.symm
      exact elements_writes fun v hv => ih v hv (hbelow hpos)
    | tuple items =>
      rw [value]
      refine Writes.congr ((requireRoom_writes hroom).bindOf fun hpos _ => Writes.map ?_ fun _ =>
        ⟨_, rfl⟩) writable_tuple_iff.symm
      exact elements_writes fun v hv => ih v hv (hbelow hpos)
    | map kvs =>
      rw [value]
      refine Writes.congr ((requireRoom_writes hroom).bindOf fun hpos _ => Writes.map ?_ fun _ =>
        ⟨_, rfl⟩) writable_map_iff.symm
      refine entries_writes fun e he => ?_
      obtain ⟨hkey, hvalue⟩ := Value.mem_parts_of_mem_entries he
      exact ⟨keyString_writes (hu e.1 hkey), ih e.2 hvalue (hbelow hpos)⟩
    | knot mark body =>
      rw [value]
      exact (ih body (List.mem_singleton_self body) hroom).congr writable_knot_iff.symm
    | loop mark =>
      rw [value]
      exact (Writes.refuse (.inl rfl)).congr (iff_of_false id (not_writable_loop mark))
    | int n =>
      refine scalar_writes hshort trivial (by simp [Value.nesting]) ?_
      rw [value]
      exact exists_integer (hn n (by simp [Value.integers]))
    | date d =>
      rw [value]
      exact textForm_writes hshort trivial
    | time t =>
      rw [value]
      exact textForm_writes hshort trivial
    | bytes bs =>
      rw [value]
      exact textForm_writes hshort trivial
    | set items =>
      rw [value]
      exact textForm_writes hshort trivial
    | action a =>
      rw [value]
      exact textForm_writes hshort trivial
    | _ => exact scalar_writes hshort trivial (by simp [Value.nesting]) ⟨_, by rw [value]; rfl⟩

theorem write_eq_ok_iff {v : Value} {text : String} :
    write style v = .ok text ↔ value style 0 v = .ok text.toList := by
  unfold write
  cases value style 0 v with
  | error e => exact iff_of_false nofun nofun
  | ok cs =>
    change Except.ok (String.ofList cs) = Except.ok text ↔ _
    simp only [Except.ok.injEq]
    exact ⟨fun h => by rw [← h, String.toList_ofList], fun h => by rw [h, String.ofList_toList]⟩

/-- **A value is written just if it can be.** All integers in it are short enough. -/
theorem write_writes {v : Value} (h : v.Short) : Writes (Writable nestingLimit v) (write style v) :=
  (value_writes h (Nat.zero_add _)).map fun _ => ⟨_, rfl⟩

/-! ### One entry of a mapping -/

theorem entries_append (kvs kvs' : List (Value × Value)) :
    entries style depth (kvs ++ kvs') = (do
      let texts ← entries style depth kvs
      let texts' ← entries style depth kvs'
      return texts ++ texts') := by
  induction kvs with
  | nil => rw [List.nil_append, entries, pure_bind]; simp
  | cons e kvs ih =>
    obtain ⟨k, v⟩ := e
    rw [List.cons_append, entries, entries, ih]
    simp only [bind_assoc, pure_bind, List.cons_append]

theorem exists_intercalate_eq (sep : List Char) (before after : List (List Char)) :
    ∃ start stop, ∀ item, sep.intercalate (before ++ item :: after) = start ++ item ++ stop := by
  induction before with
  | nil =>
    cases after with
    | nil => exact ⟨[], [], fun item => by simp⟩
    | cons next after =>
      refine ⟨[], sep ++ sep.intercalate (next :: after), fun item => ?_⟩
      rw [List.nil_append, List.intercalate_cons_cons, List.nil_append, List.append_assoc]
  | cons first before ih =>
    obtain ⟨start, stop, h⟩ := ih
    refine ⟨first ++ sep ++ start, stop, fun item => ?_⟩
    rw [List.cons_append, List.intercalate_cons_of_ne_nil (by simp), h]
    simp only [List.append_assoc]

/-- What is put between the elements of a collection. -/
def Filling (gap : List Char) : Prop := ∀ c ∈ gap, c = ' ' ∨ c = '\n'

/-- A style has the same filling for all collections at a depth. -/
theorem exists_bracketed_eq (style : Style) (depth : Nat) (left right : Char) :
    ∃ lead gap trail, Filling lead ∧ Filling gap ∧ Filling trail ∧ ∀ items ≠ [],
      bracketed style depth left right items =
        left :: (lead ++ ((',' :: gap).intercalate items ++ (trail ++ [right]))) := by
  have hline (n d : Nat) : Filling ('\n' :: List.replicate (n * d) ' ') := by
    intro c hc
    rcases List.mem_cons.mp hc with rfl | hc
    · exact .inr rfl
    · exact .inl (List.eq_of_mem_replicate hc)
  obtain ⟨asciiOnly, indent⟩ := style
  cases indent with
  | none =>
    refine ⟨[], [' '], [], nofun, by simp [Filling], nofun, fun items hne => ?_⟩
    obtain ⟨item, items, rfl⟩ := List.exists_cons_of_ne_nil hne
    rfl
  | some n =>
    refine ⟨_, _, _, hline n (depth + 1), hline n (depth + 1), hline n depth, fun items hne => ?_⟩
    obtain ⟨item, items, rfl⟩ := List.exists_cons_of_ne_nil hne
    simp [bracketed]

/-- **The string under a name has a place of its own in the text.** Another string changes nothing
around it. -/
theorem exists_write_eq {before after : List (Value × Value)} {name s text : String}
    (h : write style (.map (before ++ (.str name, .str s) :: after)) = .ok text) :
    ∃ start stop : List Char, ∀ u : String,
      write style (.map (before ++ (.str name, .str u) :: after)) =
        .ok (String.ofList (start ++ string style.asciiOnly u.toList ++ stop)) := by
  have hcs := write_eq_ok_iff.mp h
  rw [value, entries_append] at hcs
  obtain ⟨_, hroom, hcs⟩ := exists_of_bind_ok hcs
  obtain ⟨texts, htexts, -⟩ := exists_of_bind_ok hcs
  obtain ⟨first, hfirst, hrest⟩ := exists_of_bind_ok htexts
  obtain ⟨rest, hrest, -⟩ := exists_of_bind_ok hrest
  rw [entries] at hrest
  obtain ⟨_, -, hrest⟩ := exists_of_bind_ok hrest
  obtain ⟨_, -, hrest⟩ := exists_of_bind_ok hrest
  obtain ⟨last, hlast, -⟩ := exists_of_bind_ok hrest
  obtain ⟨lead, gap, trail, -, -, -, hbracketed⟩ := exists_bracketed_eq style 0 '\x7b' '\x7d'
  obtain ⟨start, stop, hplace⟩ := exists_intercalate_eq (',' :: gap) first last
  refine ⟨'\x7b' :: lead ++ start ++ (string style.asciiOnly name.toList ++ [':', ' ']),
    stop ++ trail ++ ['\x7d'], fun u => ?_⟩
  have hentries : entries style 1 (before ++ (.str name, .str u) :: after) = .ok (first ++
      (string style.asciiOnly name.toList ++ ':' :: ' ' :: string style.asciiOnly u.toList) :: last) := by
    rw [entries_append, hfirst, entries, hlast]
    rfl
  refine write_eq_ok_iff.mpr ?_
  rw [value, hroom, hentries]
  dsimp only [bind, Except.bind, pure, Except.pure]
  rw [hbracketed _ (by simp), hplace, String.toList_ofList]
  simp

end StepFlow.Json
