import StepFlow.Proofs.Outcomes
import StepFlow.Proofs.Value.Parts
import StepFlow.Value.Display

/-!
# Values that have a text

A text can be made of a value unless an integer in it has too many digits or its collections lie too
deep in one another. These are the only causes, and each of them has its own fault.

Besides, the text of a value tells strings from other values as long as it is made of small letters:
the literals of all others have a capital letter, a digit or a bracket somewhere. Only the doubles
that are no numbers are words, and there are two of these.

## Main definitions

* `Value.Hinders` — a fault that may come instead of a literal
* `Value.HasText`, `Value.Unwritable` — there is a text of a value, or none
* `Marked` — a text that some value other than a string may have

## Main results

* `Value.text_fails` — a value without a text has an integer that is too long or lies too deep
* `Value.Short.hasText` — a value has a text otherwise
* `Value.unwritable_list_iff` — a list has no text because of one of its elements
* `Value.Short.eq_str_of_text` — a text that is not marked is that of a string
-/

namespace StepFlow

/-! ### Why there is no text -/

theorem tooLong_of_integerText_error {n : Int} {e : NumberFault} (h : integerText n = .error e) :
    tenTo digitLimit ≤ n.natAbs ∧ e = .tooLongToWrite := by
  unfold integerText at h
  split at h
  · cases h
    exact ⟨‹_›, rfl⟩
  · cases h

theorem integerText_fails (n : Int) : FailsOnly (· = .tooLongToWrite) (integerText n) :=
  fun _ h => (tooLong_of_integerText_error h).2

theorem requireRoom_fails (limit depth : Nat) :
    FailsOnly (fun e => e = .tooDeep ∧ limit ≤ depth) (requireRoom limit depth) := by
  unfold requireRoom
  split
  · exact .ok _
  · exact .error ⟨rfl, Nat.le_of_not_lt ‹_›⟩

namespace Value

/-- A fault that may come instead of the literal of a value that lies `depth` collections deep. -/
def Hinders (v : Value) (depth : Nat) (e : Fault) : Prop :=
  e = .number .tooLongToWrite ∧ ¬v.Short ∨ e = .tooDeep ∧ nestingLimit < depth + v.nesting

/-- What hinders a part hinders the whole. -/
theorem Hinders.of_part {v u : Value} {depth depth' : Nat} {e : Fault} (hu : u ∈ v.parts)
    (hnesting : depth' + u.nesting ≤ depth + v.nesting) (h : u.Hinders depth' e) :
    v.Hinders depth e :=
  h.imp (fun ⟨he, hlong⟩ => ⟨he, fun hv => hlong ((short_iff.mp hv).2 u hu)⟩)
    fun ⟨he, hdeep⟩ => ⟨he, Nat.lt_of_lt_of_le hdeep hnesting⟩

theorem literals_fails {around : List (Nat × String)} {depth : Nat} {xs : List Value}
    {P : Fault → Prop} (h : ∀ x ∈ xs, FailsOnly P (literalIn around depth x)) :
    FailsOnly P (literals around depth xs) := by
  induction xs with
  | nil => exact .ok _
  | cons x xs ih =>
    rw [literals]
    exact .bind (h x List.mem_cons_self) fun _ =>
      .bind (ih fun y hy => h y (List.mem_cons_of_mem _ hy)) fun _ => .ok _

theorem entryLiterals_fails {around : List (Nat × String)} {depth : Nat}
    {kvs : List (Value × Value)} {P : Fault → Prop}
    (h : ∀ e ∈ kvs, FailsOnly P (literalIn around depth e.1) ∧
      FailsOnly P (literalIn around depth e.2)) :
    FailsOnly P (entryLiterals around depth kvs) := by
  induction kvs with
  | nil => exact .ok _
  | cons e kvs ih =>
    obtain ⟨hk, hv⟩ := h e List.mem_cons_self
    rw [entryLiterals]
    exact .bind hk fun _ => .bind hv fun _ =>
      .bind (ih fun d hd => h d (List.mem_cons_of_mem _ hd)) fun _ => .ok _

theorem actionLiteral_fails (a : FailureAction) :
    FailsOnly (fun e => e = .tooLongToWrite ∧ ¬(action a).Short) (actionLiteral a) := by
  have hinteger {n : Int} (hn : n ∈ (action a).integers) :
      FailsOnly (fun e => e = .tooLongToWrite ∧ ¬(action a).Short) (integerText n) := fun e he =>
    have ⟨hlong, he⟩ := tooLong_of_integerText_error he
    ⟨he, fun hshort => absurd ((short_iff.mp hshort).1 n hn) (Nat.not_lt.mpr hlong)⟩
  rcases a with _ | _ | ⟨n | name, retries, delay⟩
  · exact .ok _
  · exact .ok _
  · exact .bind (hinteger (by simp [integers])) fun _ =>
      .bind (hinteger (by simp [integers])) fun _ =>
      .bind (hinteger (by simp [integers])) fun _ => .ok _
  · exact .bind (.ok _) fun _ => .bind (hinteger (by simp [integers])) fun _ =>
      .bind (hinteger (by simp [integers])) fun _ => .ok _

theorem requireRoom_hinders {v : Value} (hnesting : 0 < v.nesting) (depth : Nat) :
    FailsOnly (v.Hinders depth) (requireRoom nestingLimit depth) := by
  intro e he
  obtain ⟨he, hle⟩ := requireRoom_fails _ _ e he
  exact .inr ⟨he, by omega⟩

/-- The elements of a list, a tuple or a set lie one collection deeper than the whole. -/
theorem literals_hinders {v : Value} {around : List (Nat × String)} {depth : Nat} {xs : List Value}
    (hparts : ∀ x ∈ xs, x ∈ v.parts) (hnesting : v.nesting = nestingOfItems xs + 1)
    (hliteral : ∀ x ∈ v.parts, FailsOnly (x.Hinders (depth + 1)) (literalIn around (depth + 1) x)) :
    FailsOnly (v.Hinders depth) (literals around (depth + 1) xs) :=
  literals_fails fun x hx e he => by
    have hle := nesting_le_of_mem hx
    exact (hliteral x (hparts x hx) e he).of_part (hparts x hx) (by omega)

theorem literalIn_fails (v : Value) (around : List (Nat × String)) (depth : Nat) :
    FailsOnly (v.Hinders depth) (literalIn around depth v) := by
  induction v using inductionOnParts generalizing around depth with
  | h v ih =>
    have hbelow (x : Value) (hx : x ∈ v.parts) := ih x hx around (depth + 1)
    cases v with
    | int n =>
      rw [literalIn]
      refine .mapError (P := fun e => e = .tooLongToWrite ∧ ¬(int n).Short) (fun e he => ?_)
        fun e he => .inl ⟨by rw [he.1], he.2⟩
      obtain ⟨hlong, he⟩ := tooLong_of_integerText_error he
      exact ⟨he, fun hshort => absurd (short_int_iff.mp hshort) (Nat.not_lt.mpr hlong)⟩
    | action a =>
      rw [literalIn]
      exact (actionLiteral_fails a).mapError fun e he => .inl ⟨by rw [he.1], he.2⟩
    | list xs =>
      rw [literalIn]
      exact .bind (requireRoom_hinders (by simp [nesting]) depth) fun _ =>
        .bind (literals_hinders (fun _ => id) (by rw [nesting]) hbelow) fun _ => .ok _
    | tuple xs =>
      rw [literalIn]
      exact .bind (requireRoom_hinders (by simp [nesting]) depth) fun _ =>
        .bind (literals_hinders (fun _ => id) (by rw [nesting]) hbelow) fun _ => .ok _
    | set xs =>
      rw [literalIn]
      refine .bind (requireRoom_hinders (by simp [nesting]) depth) fun _ => ?_
      split
      · exact .ok _
      · exact .bind (literals_hinders (fun _ => id) (by rw [nesting]) hbelow) fun _ => .ok _
    | map kvs =>
      rw [literalIn]
      refine .bind (requireRoom_hinders (by simp [nesting]) depth) fun _ =>
        .bind (entryLiterals_fails fun d hd => ?_) fun _ => .ok _
      have hle := nesting_le_of_mem_entries hd
      obtain ⟨hkey, hvalue⟩ := mem_parts_of_mem_entries hd
      have hnesting : (map kvs).nesting = nestingOfEntries kvs + 1 := by rw [nesting]
      exact ⟨fun e he => (hbelow d.1 hkey e he).of_part hkey (by omega),
        fun e he => (hbelow d.2 hvalue e he).of_part hvalue (by omega)⟩
    | knot mark body =>
      rw [literalIn]
      have hbody : body ∈ (knot mark body).parts := List.mem_singleton_self body
      split
      · exact .ok _
      · exact fun e he => (ih body hbody _ depth e he).of_part hbody (Nat.le_of_eq (by rw [nesting]))
    | _ =>
      rw [literalIn]
      exact .ok _

/-- **A value has no text only where an integer is too long or the collections lie too deep.** -/
theorem text_fails (v : Value) : FailsOnly (v.Hinders 0) v.text := by
  unfold text
  split
  · exact .ok _
  · exact .ok _
  · exact .ok _
  · exact .ok _
  · exact literalIn_fails _ [] 0

/-- A text can be made of a value. -/
def HasText (v : Value) : Prop := ∃ s, v.text = .ok s

/-- **A value has a text when its integers are short and it is followed to its end.** -/
theorem Short.hasText {v : Value} (h : v.Short) (hnesting : v.nesting ≤ nestingLimit) :
    v.HasText := by
  cases htext : v.text with
  | ok s => exact ⟨s, htext⟩
  | error e =>
    rcases text_fails v e htext with ⟨-, hlong⟩ | ⟨-, hdeep⟩
    · exact absurd h hlong
    · exact absurd hnesting (by omega)

/-- No text can be made of a value, since a number in it has too many digits or it is too deep. -/
def Unwritable (v : Value) : Prop := ∃ e, v.text = .error e

theorem hasText_iff {v : Value} : v.HasText ↔ ¬v.Unwritable := by
  unfold HasText Unwritable
  cases v.text with
  | ok s => exact iff_of_true ⟨s, rfl⟩ nofun
  | error e => exact iff_of_false nofun fun h => h ⟨e, rfl⟩

theorem hasText_null : null.HasText := ⟨_, rfl⟩

theorem hasText_str (s : String) : (str s).HasText := ⟨s, rfl⟩

theorem not_unwritable_str (s : String) : ¬(str s).Unwritable := by
  rintro ⟨e, h⟩
  cases h

theorem not_unwritable_null : ¬null.Unwritable := by
  rintro ⟨e, h⟩
  cases h

/-- The text and the literal of a value fail together. -/
theorem unwritable_iff_literal {v : Value} : v.Unwritable ↔ ∃ e, v.literal = .error e := by
  unfold Unwritable text
  split
  · exact iff_of_false nofun nofun
  · exact iff_of_false nofun nofun
  · exact iff_of_false nofun nofun
  · exact iff_of_false nofun nofun
  · exact Iff.rfl

theorem literals_error_iff {around : List (Nat × String)} {depth : Nat} {xs : List Value} :
    (∃ e, literals around depth xs = .error e) ↔
      ∃ x ∈ xs, ∃ e, literalIn around depth x = .error e := by
  induction xs with
  | nil => exact iff_of_false nofun nofun
  | cons x xs ih =>
    simp only [literals, List.mem_cons, exists_eq_or_imp, ← ih]
    cases hx : literalIn around depth x with
    | error e => exact iff_of_true ⟨e, rfl⟩ (.inl ⟨e, rfl⟩)
    | ok s =>
      cases hxs : literals around depth xs with
      | error e => exact iff_of_true ⟨e, rfl⟩ (.inr ⟨e, rfl⟩)
      | ok ss => exact iff_of_false nofun (by rintro (⟨e, h⟩ | ⟨e, h⟩) <;> cases h)

/-- A list has no text just if one of its elements has none inside a list. -/
theorem unwritable_list_iff {xs : List Value} :
    (list xs).Unwritable ↔ ∃ x ∈ xs, ∃ e, literalIn [] 1 x = .error e := by
  simp only [unwritable_iff_literal, literal, ← literals_error_iff]
  rw [literalIn]
  cases literals [] 1 xs with
  | error e => exact iff_of_true ⟨e, rfl⟩ ⟨e, rfl⟩
  | ok ss => exact iff_of_false nofun nofun

end Value

/-! ### Telling strings from other values -/

/-- A text that some value other than a string may have. -/
def Marked (s : String) : Prop := (∃ c ∈ s.toList, c.isLower = false) ∨ s = "nan" ∨ s = "inf"

theorem Marked.of_mem {s : String} {c : Char} (h : c ∈ s.toList) (hc : c.isLower = false) :
    Marked s := .inl ⟨c, h, hc⟩

theorem not_isLower_of_isDigit {c : Char} (h : c.isDigit = true) : c.isLower = false := by
  refine Bool.eq_false_iff.mpr fun hlower => ?_
  obtain ⟨-, hdigit⟩ := (Bool.and_eq_true _ _).mp h
  obtain ⟨hletter, -⟩ := (Bool.and_eq_true _ _).mp hlower
  have hle : 'a'.val ≤ '9'.val :=
    Nat.le_trans (of_decide_eq_true hletter) (of_decide_eq_true hdigit)
  exact absurd hle (by decide)

theorem marked_integerText {n : Int} {s : String} (h : integerText n = .ok s) : Marked s := by
  unfold integerText at h
  split at h
  · cases h
  · cases h
    obtain ⟨c, hc⟩ := List.exists_mem_of_ne_nil _ (Nat.toDigits_ne_nil (n := n.natAbs) (b := 10))
    have hdigit := Nat.isDigit_of_mem_toDigits (b := 10) (by decide) (by decide) hc
    exact .of_mem (by simp [decimalDigits, hc]) (not_isLower_of_isDigit hdigit)

/-- A replacement character stands in the text. -/
theorem RoughText.marked_smoothed (t : RoughText) : Marked t.smoothed := by
  obtain ⟨n, hn, hhalf⟩ := List.any_eq_true.mp t.rough
  refine .of_mem (c := '\ufffd') ?_ (by decide)
  rw [smoothed, String.toList_ofList]
  exact List.mem_map.mpr ⟨n, hn, if_pos hhalf⟩

theorem Double.marked_text (x : Double) : Marked x.text := by
  cases x with
  | finite s m e =>
    obtain ⟨c, hc, rfl | rfl | rfl⟩ := exists_mark_of_finite s m e
    · exact .of_mem hc (by decide)
    · exact .of_mem hc (by decide)
    · exact .of_mem hc (by decide)
  | infinite s =>
    cases s with
    | true => exact .of_mem (c := '-') (by decide) (by decide)
    | false => exact .inr (.inr rfl)
  | nan => exact .inr (.inl rfl)

namespace Value

theorem marked_actionLiteral {a : FailureAction} {s : String} (h : actionLiteral a = .ok s) :
    Marked s := by
  refine .of_mem (c := '(') ?_ (by decide)
  rcases a with _ | _ | ⟨target, retries, delay⟩
  · cases h
    decide
  · cases h
    decide
  · obtain ⟨t, -, h⟩ := exists_of_bind_ok h
    obtain ⟨r, -, h⟩ := exists_of_bind_ok h
    obtain ⟨d, -, h⟩ := exists_of_bind_ok h
    cases h
    simp

theorem marked_ellipsis (v : Value) : Marked v.ellipsis := by
  refine .of_mem (c := '.') ?_ (by decide)
  unfold ellipsis
  split <;> decide

theorem marked_dateLiteral (d : Date) : Marked (dateLiteral d) := by
  have hmem : ')' ∈ (dateLiteral d).toList := by
    unfold dateLiteral
    simp only [String.toList_append, List.mem_append]
    right
    decide
  exact .of_mem hmem (by decide)

theorem marked_timeLiteral (t : DateTime) : Marked (timeLiteral t) := by
  have hmem : ')' ∈ (timeLiteral t).toList := by
    unfold timeLiteral
    simp only [String.toList_append, List.mem_append]
    right
    decide
  exact .of_mem hmem (by decide)

theorem not_isLower_quoteFor (cs : List Char) : (Text.Quoted.quoteFor cs).isLower = false := by
  unfold Text.Quoted.quoteFor
  split <;> decide

/-- The literal of a value is marked if what stands for the knots around it is. -/
theorem Short.marked_literalIn {v : Value} (h : v.Short) {around : List (Nat × String)}
    {depth : Nat} {s : String}
    (haround : ∀ p ∈ around, Marked p.2) (hs : literalIn around depth v = .ok s) : Marked s := by
  induction h generalizing around depth with
  | @intro v hn hu ih =>
    cases v with
    | null =>
      rw [literalIn] at hs
      cases hs
      exact .of_mem (c := 'N') (by decide) (by decide)
    | bool b =>
      rw [literalIn] at hs
      cases hs
      cases b with
      | true => exact .of_mem (c := 'T') (by decide) (by decide)
      | false => exact .of_mem (c := 'F') (by decide) (by decide)
    | int n =>
      rw [literalIn] at hs
      exact marked_integerText (ok_of_mapError_ok hs)
    | double x =>
      rw [literalIn] at hs
      cases hs
      exact x.marked_text
    | str t =>
      rw [literalIn] at hs
      cases hs
      exact .of_mem (by simp [Text.quoted, Text.Quoted.encode]) (not_isLower_quoteFor t.toList)
    | bytes bs =>
      rw [literalIn] at hs
      cases hs
      refine .of_mem ?_ (not_isLower_quoteFor (bs.map fun b => Char.ofNat b.toNat))
      simp [Text.Quoted.encodeBytes]
    | date d =>
      rw [literalIn] at hs
      cases hs
      exact marked_dateLiteral d
    | time t =>
      rw [literalIn] at hs
      cases hs
      exact marked_timeLiteral t
    | action a =>
      rw [literalIn] at hs
      exact marked_actionLiteral (ok_of_mapError_ok hs)
    | rough t =>
      rw [literalIn] at hs
      cases hs
      refine .of_mem ?_ (not_isLower_quoteFor ((t.points.filter (!isHalf ·)).map Char.ofNat))
      simp [roughLiteral]
    | list xs =>
      rw [literalIn] at hs
      obtain ⟨_, -, hs⟩ := exists_of_bind_ok hs
      obtain ⟨ss, -, hs⟩ := exists_of_bind_ok hs
      cases hs
      exact .of_mem (c := '[') (by simp) (by decide)
    | tuple xs =>
      rw [literalIn] at hs
      obtain ⟨_, -, hs⟩ := exists_of_bind_ok hs
      obtain ⟨ss, -, hs⟩ := exists_of_bind_ok hs
      cases hs
      exact .of_mem (c := '(') (by simp) (by decide)
    | set xs =>
      rw [literalIn] at hs
      obtain ⟨_, -, hs⟩ := exists_of_bind_ok hs
      split at hs
      · cases hs
        exact .of_mem (c := '(') (by decide) (by decide)
      · obtain ⟨ss, -, hs⟩ := exists_of_bind_ok hs
        cases hs
        exact .of_mem (c := '\x7b') (by simp) (by decide)
    | map kvs =>
      rw [literalIn] at hs
      obtain ⟨_, -, hs⟩ := exists_of_bind_ok hs
      obtain ⟨ss, -, hs⟩ := exists_of_bind_ok hs
      cases hs
      exact .of_mem (c := '\x7b') (by simp) (by decide)
    | knot mark body =>
      rw [literalIn] at hs
      split at hs
      · rename_i p hfound
        cases hs
        exact haround _ (List.mem_of_find?_eq_some hfound)
      · refine ih body (by simp [parts]) ?_ hs
        rintro p hp
        rcases List.mem_cons.mp hp with rfl | hp
        · exact body.marked_ellipsis
        · exact haround p hp
    | loop mark =>
      rw [literalIn] at hs
      cases hs
      cases hfound : around.find? (·.1 = mark) with
      | none => exact .of_mem (c := '.') (by simp) (by decide)
      | some p => exact haround p (List.mem_of_find?_eq_some hfound)

/-- **A text that is not marked is that of a string.** -/
theorem Short.eq_str_of_text {v : Value} (h : v.Short) {s : String} (hs : v.text = .ok s)
    (hmarked : ¬Marked s) : v = .str s := by
  unfold text at hs
  split at hs
  · cases hs
    rfl
  · rename_i d
    obtain rfl : d.iso = s := Except.ok.inj hs
    exact absurd (.of_mem (c := '-') (by simp [Date.iso]) (by decide)) hmarked
  · rename_i t
    obtain rfl : t.textWith " " = s := Except.ok.inj hs
    exact absurd (.of_mem (c := '-') (by simp [DateTime.textWith, Date.iso]) (by decide)) hmarked
  · rename_i t
    cases hs
    exact absurd t.marked_smoothed hmarked
  · exact absurd (h.marked_literalIn (by simp) hs) hmarked

end Value

end StepFlow
