import StepFlow.Proofs.Json.Recognition
import StepFlow.Proofs.Json.Writing
import StepFlow.Proofs.Value.Fields
import Mathlib.Data.List.Forall2

/-!
# Values restored from their JSON text

A value that is made of the kinds of JSON is read again from the text that it was written as, in
every style. For this the text has to be one that denotes the value, and what is done with such a
text is known. So the proof follows the values down to their parts: the units of a string are those
of its characters, the numeral of an integer denotes it, and a collection is written as the texts of
its parts with nothing but blanks around them.

Doubles are left aside here: they come back as the nearest double of their shortest decimal.

## Main definitions

* `Json.Native` — a value made of the kinds of JSON

## Main results

* `Json.exists_units_flatMap` — a string is written in units, with or without escapes for what is not
  ASCII
* `Json.denotes_value` — the text of a value denotes it
* `Json.read_write` — what has been written is read again
-/

namespace StepFlow.Json

open Text (hexDigits)

variable {style : Style} {depth room n : Nat} {asciiOnly : Bool} {cs gap lead trail : List Char}

/-! ### Strings -/

/-- An escape has the number that it was made of. -/
theorem unitText_unicodeEscape (h : n < 0x10000) : UnitText (unicodeEscape n) n := by
  obtain ⟨digits, hdigits, hvalue⟩ := exists_digitsValue_hexDigits 4 n
  have hquad : IsQuad (hexDigits 4 n) digits := ⟨length_hexDigits (by decide) h, hdigits⟩
  have hunit := UnitText.unicode hquad
  rwa [hvalue] at hunit

/-- Two escapes make a character beyond the basic plane. -/
theorem exists_units_pair {units : List Nat} (hn : n < 0x100000) (h : Units cs units) :
    ∃ units', Units (unicodeEscape (0xd800 + n / 0x400) ++ unicodeEscape (0xdc00 + n % 0x400) ++ cs)
      units' ∧ joined units' = (0x10000 + n) :: joined units := by
  have hhigh : IsHigh (0xd800 + n / 0x400) := by
    unfold IsHigh
    omega
  have hlow : IsLow (0xdc00 + n % 0x400) := by
    unfold IsLow
    omega
  have hnumber : paired (0xd800 + n / 0x400) (0xdc00 + n % 0x400) = 0x10000 + n := by
    unfold paired
    omega
  rw [List.append_assoc, ← hnumber, ← joined_pair hhigh hlow units]
  exact ⟨_, .cons (unitText_unicodeEscape (by omega)) (.cons (unitText_unicodeEscape (by omega)) h),
    rfl⟩

/-- **A character is written in units that make it up**, in whichever way it is written. -/
theorem exists_units_escapeChar (asciiOnly : Bool) (c : Char) {units : List Nat}
    (h : Units cs units) :
    ∃ units', Units (escapeChar asciiOnly c ++ cs) units' ∧
      joined units' = c.toNat :: joined units := by
  have hvalid : c.toNat < 0xd800 ∨ 0xdfff < c.toNat ∧ c.toNat < 0x110000 := c.valid
  have hone {unit : List Char} (hunit : UnitText unit c.toNat) :
      ∃ units', Units (unit ++ cs) units' ∧ joined units' = c.toNat :: joined units :=
    ⟨_, .cons hunit h, joined_char c units⟩
  unfold escapeChar
  split
  · rename_i hmark
    simp only [Bool.or_eq_true, decide_eq_true_eq] at hmark
    rcases hmark with rfl | rfl <;> exact hone (.simple rfl)
  rename_i hmark
  simp only [Bool.or_eq_true, decide_eq_true_eq, not_or] at hmark
  split
  · subst_vars; exact hone (.simple rfl)
  split
  · subst_vars; exact hone (.simple rfl)
  split
  · subst_vars; exact hone (.simple rfl)
  split
  · subst_vars; exact hone (.simple rfl)
  split
  · subst_vars; exact hone (.simple rfl)
  split
  · exact hone (unitText_unicodeEscape (by omega))
  split
  · split
    · exact hone (unitText_unicodeEscape ‹_›)
    · have hpair := exists_units_pair (n := c.toNat - 0x10000) (by omega) h
      rwa [Nat.add_sub_cancel' (by omega)] at hpair
  · exact hone (.plain hmark.1 hmark.2 (by omega))

/-- **A string is written in units that make it up.** -/
theorem exists_units_flatMap (asciiOnly : Bool) (cs : List Char) :
    ∃ units, Units (cs.flatMap (escapeChar asciiOnly)) units ∧ joined units = cs.map Char.toNat := by
  induction cs with
  | nil => exact ⟨[], .nil, rfl⟩
  | cons c cs ih =>
    obtain ⟨units, hunits, hcs⟩ := ih
    obtain ⟨units', hunits', hjoined⟩ := exists_units_escapeChar asciiOnly c hunits
    exact ⟨units', hunits', by rw [hjoined, hcs, List.map_cons]⟩

/-- A string is made of the numbers of its characters. -/
theorem ofPoints_toNat (s : String) : Value.ofPoints (s.toList.map Char.toNat) = .str s := by
  have hplain : ¬(s.toList.map Char.toNat).any isHalf = true := by
    rw [List.any_map, List.any_eq_true]
    rintro ⟨c, -, hc⟩
    have hvalid : c.toNat < 0xd800 ∨ 0xdfff < c.toNat ∧ c.toNat < 0x110000 := c.valid
    simp only [Function.comp_apply, isHalf, Bool.and_eq_true, decide_eq_true_eq] at hc
    omega
  have hback : Char.ofNat ∘ Char.toNat = id := funext fun c => Char.ofNat_toNat c
  rw [Value.ofPoints, dif_neg hplain, List.map_map, hback, List.map_id, String.ofList_toList]

theorem denotes_string (asciiOnly : Bool) (s : String) :
    Denotes room (string asciiOnly s.toList) (.str s) := by
  obtain ⟨units, hunits, hs⟩ := exists_units_flatMap asciiOnly s.toList
  have h : Denotes room _ _ := .string hunits
  rwa [hs, ofPoints_toNat] at h

theorem not_mem_hexDigits (width n : Nat) : '\r' ∉ hexDigits width n := by
  obtain ⟨ds, hds, -⟩ := exists_digitsValue_hexDigits width n
  intro hc
  have hmem : asciiDigit? '\r' ∈ ds.map some := hds ▸ List.mem_map_of_mem hc
  exact absurd hmem (by simp [show asciiDigit? '\r' = none by decide])

theorem not_mem_escapeChar (asciiOnly : Bool) (c : Char) : '\r' ∉ escapeChar asciiOnly c := by
  have hescape (n : Nat) : '\r' ∉ unicodeEscape n := by simp [unicodeEscape, not_mem_hexDigits]
  unfold escapeChar
  split
  · rename_i h
    simp only [Bool.or_eq_true, decide_eq_true_eq] at h
    rcases h with rfl | rfl <;> decide
  split; · decide
  split; · decide
  split; · decide
  split; · decide
  split; · decide
  split; · exact hescape _
  split
  · split
    · exact hescape _
    · simp [hescape]
  · rename_i hreturn _ _ _ _ _
    simpa using Ne.symm hreturn

/-! ### Integers -/

/-- **The numeral of an integer denotes it.** -/
theorem numberText_integer {n : Int} (h : integer n = .ok cs) : NumberText cs (.int n) := by
  unfold integer integerText at h
  by_cases hlong : tenTo digitLimit ≤ n.natAbs
  · rw [if_pos hlong] at h
    cases h
  · rw [if_neg hlong] at h
    cases h
    let whole : Digits := ⟨decimalDigits n.natAbs, Nat.toDigits_ne_nil,
      fun c hc => Nat.isDigit_of_mem_toDigits (by decide) (by decide) hc⟩
    have hzero : whole.chars.head? = some '0' → whole.chars = ['0'] := fun hhead => by
      have hn : n.natAbs = 0 := by
        by_contra hn
        exact head?_decimalDigits hn hhead
      exact congrArg decimalDigits hn
    have hlength : whole.chars.length ≤ digitLimit :=
      (length_decimalDigits_le_iff (by decide)).mpr (Nat.lt_of_not_le hlong)
    have hinteger : Numeral.integer ⟨decide (n < 0), whole, none, none⟩ = n := by
      simp only [Numeral.integer, whole, numberOf_decimalDigits, decide_eq_true_eq]
      split <;> omega
    have htext := NumberText.int ⟨decide (n < 0), whole, none, none⟩ hzero rfl rfl hlength
    rw [hinteger] at htext
    simpa [Numeral.chars, Numeral.sign, Numeral.pointed, Numeral.marked] using htext

theorem NumberText.not_mem {v : Value} (h : NumberText cs v) : '\r' ∉ cs := by
  have hchars (n : Numeral) : '\r' ∉ n.chars := fun hc => by
    rcases n.mem_chars hc with hdigit | hmark
    · cases hdigit
    · exact absurd hmark (by decide)
  cases h with
  | int n => exact hchars n
  | double n => exact hchars n

/-! ### Collections -/

theorem Filling.blank (h : Filling gap) : Blank gap :=
  fun c hc => (h c hc).elim .inl fun hline => .inr (.inr (.inl hline))

theorem Filling.not_mem (h : Filling gap) : '\r' ∉ gap := fun hc => by
  rcases h _ hc with hc | hc <;> exact absurd hc (by decide)

/-- A collection is empty or has its elements in between, in every style. -/
theorem bracketed_cases (style : Style) (depth : Nat) (left right : Char) (items : List (List Char)) :
    (items = [] ∧ bracketed style depth left right items = [left, right]) ∨
      items ≠ [] ∧ ∃ lead gap trail, Filling lead ∧ Filling gap ∧ Filling trail ∧
        bracketed style depth left right items =
          left :: (lead ++ ((',' :: gap).intercalate items ++ (trail ++ [right]))) := by
  rcases List.eq_nil_or_concat items with rfl | ⟨_, _, rfl⟩
  · exact .inl ⟨rfl, by simp [bracketed]⟩
  · obtain ⟨lead, gap, trail, hlead, hgap, htrail, h⟩ := exists_bracketed_eq style depth left right
    exact .inr ⟨by simp, lead, gap, trail, hlead, hgap, htrail, h _ (by simp)⟩

/-- Texts with fillings between them are pieces of a collection. -/
theorem exists_pieces {P : List Char → Value → Prop} {texts : List (List Char)} {values : List Value}
    (h : List.Forall₂ P texts values) (hne : texts ≠ []) (hlead : Blank lead) (hgap : Blank gap)
    (htrail : Blank trail) :
    ∃ pieces : List Piece, pieces ≠ [] ∧ (∀ p ∈ pieces, P p.text p.value) ∧
      values = pieces.map Piece.value ∧
      [','].intercalate (pieces.map Piece.chars) =
        lead ++ ((',' :: gap).intercalate texts ++ trail) := by
  induction h generalizing lead with
  | nil => exact absurd rfl hne
  | @cons text v texts values hv hrest ih =>
    cases hrest with
    | nil =>
      refine ⟨[⟨lead, text, trail, v, hlead, htrail⟩], List.cons_ne_nil _ _,
        List.forall_mem_singleton.mpr hv, rfl, ?_⟩
      simp [Piece.chars]
    | @cons text' v' texts values hv' hrest =>
      obtain ⟨pieces, hpieces, hP, hvalues, hchars⟩ := ih (List.cons_ne_nil _ _) hgap
      refine ⟨⟨lead, text, [], v, hlead, blank_nil⟩ :: pieces, List.cons_ne_nil _ _,
        List.forall_mem_cons.mpr ⟨hv, hP⟩, by rw [hvalues]; rfl, ?_⟩
      rw [List.map_cons, List.intercalate_cons_of_ne_nil (by simpa using hpieces), hchars,
        List.intercalate_cons_cons]
      simp [Piece.chars]

/-- The text of a list denotes what the texts of its elements denote. -/
theorem denotes_list {items : List Value} {texts : List (List Char)}
    (h : List.Forall₂ (Denotes room) texts items) :
    Denotes (room + 1) (bracketed style depth '[' ']' texts) (.list items) := by
  rcases bracketed_cases style depth '[' ']' texts with
    ⟨rfl, htext⟩ | ⟨hne, lead, gap, trail, hlead, hgap, htrail, htext⟩
  · cases h
    rw [htext]
    exact .emptyList blank_nil
  · obtain ⟨pieces, hpieces, hdenotes, rfl, hchars⟩ :=
      exists_pieces h hne hlead.blank hgap.blank htrail.blank
    have hlist := Denotes.list hpieces hdenotes
    rw [hchars] at hlist
    simpa [htext] using hlist

/-- The text of an entry is made of its name and a text of its value. -/
def EntryText (R : List Char → Value → Prop) (asciiOnly : Bool) (cs : List Char)
    (e : Value × Value) : Prop :=
  ∃ (name : String) (body : List Char), cs = string asciiOnly name.toList ++ ':' :: ' ' :: body ∧
    e.1 = .str name ∧ R body e.2

/-- Texts of entries with fillings between them are entries of a collection. -/
theorem exists_entries {texts : List (List Char)} {kvs : List (Value × Value)}
    (h : List.Forall₂ (EntryText (Denotes room) asciiOnly) texts kvs) (hne : texts ≠ [])
    (hlead : Blank lead) (hgap : Blank gap) (htrail : Blank trail) :
    ∃ entries : List Entry, entries ≠ [] ∧
      (∀ e ∈ entries, Denotes room e.piece.text e.piece.value) ∧ kvs = entries.map Entry.entry ∧
      [','].intercalate (entries.map Entry.chars) =
        lead ++ ((',' :: gap).intercalate texts ++ trail) := by
  have hspace : Blank [' '] := by simp [Blank]
  induction h generalizing lead with
  | nil => exact absurd rfl hne
  | @cons text e texts kvs he hrest ih =>
    obtain ⟨k, v⟩ := e
    obtain ⟨name, body, rfl, rfl, hbody⟩ := he
    obtain ⟨units, hunits, hname⟩ := exists_units_flatMap asciiOnly name.toList
    have hkey : Value.ofPoints (joined units) = .str name := by
      rw [hname, ofPoints_toNat]
    cases hrest with
    | nil =>
      refine ⟨[⟨lead, _, units, [], ⟨[' '], body, trail, v, hspace, htrail⟩, hlead, hunits,
        blank_nil⟩],
        List.cons_ne_nil _ _, List.forall_mem_singleton.mpr hbody, by simp [Entry.entry, hkey], ?_⟩
      simp [Entry.chars, Piece.chars, string]
    | @cons text' e' texts kvs he' hrest =>
      obtain ⟨entries, hentries, hdenotes, hkvs, hchars⟩ := ih (List.cons_ne_nil _ _) hgap
      refine ⟨⟨lead, _, units, [], ⟨[' '], body, [], v, hspace, blank_nil⟩, hlead, hunits,
        blank_nil⟩ :: entries, List.cons_ne_nil _ _, List.forall_mem_cons.mpr ⟨hbody, hdenotes⟩,
        by rw [hkvs]; simp [Entry.entry, hkey], ?_⟩
      rw [List.map_cons, List.intercalate_cons_of_ne_nil (by simpa using hentries), hchars,
        List.intercalate_cons_cons]
      simp [Entry.chars, Piece.chars, string]

/-- The text of a mapping denotes what the texts of its entries denote. -/
theorem denotes_map {kvs : List (Value × Value)} {texts : List (List Char)}
    (h : List.Forall₂ (EntryText (Denotes room) style.asciiOnly) texts kvs) :
    Denotes (room + 1) (bracketed style depth '\x7b' '\x7d' texts) (.map (Value.entriesOf kvs)) := by
  rcases bracketed_cases style depth '\x7b' '\x7d' texts with
    ⟨rfl, htext⟩ | ⟨hne, lead, gap, trail, hlead, hgap, htrail, htext⟩
  · cases h
    rw [htext]
    exact .emptyMap blank_nil
  · obtain ⟨entries, hentries, hdenotes, rfl, hchars⟩ :=
      exists_entries h hne hlead.blank hgap.blank htrail.blank
    have hmap := Denotes.map hentries hdenotes
    rw [hchars] at hmap
    simpa [htext] using hmap

/-! ### Values -/

/-- **A value made of the kinds of JSON**: null, Booleans, integers, strings, lists, and mappings with
different names. -/
inductive Native : Value → Prop
  | null : Native .null
  | bool (b : Bool) : Native (.bool b)
  | int (n : Int) : Native (.int n)
  | str (s : String) : Native (.str s)
  | list {items : List Value} : (∀ v ∈ items, Native v) → Native (.list items)
  | fields {fields : Fields Value} : (fields.map (·.1)).Nodup → (∀ f ∈ fields, Native f.2) →
      Native (.ofFields fields)

theorem forall_mem_of_forall₂ {α β : Type} {R : α → β → Prop} {P : α → Prop} {xs : List α}
    {ys : List β} (h : List.Forall₂ R xs ys) (hP : ∀ x y, R x y → P x) : ∀ x ∈ xs, P x :=
  ((List.forall₂_and_left _ _).mp (h.imp fun x y hxy => ⟨hP x y hxy, hxy⟩)).1

theorem forall₂_elements {R : List Char → Value → Prop} {items : List Value} {texts : List (List Char)}
    (h : elements style depth items = .ok texts)
    (hR : ∀ v ∈ items, ∀ cs, value style depth v = .ok cs → R cs v) : List.Forall₂ R texts items := by
  induction items generalizing texts with
  | nil =>
    cases h
    exact .nil
  | cons v items ih =>
    obtain ⟨hv, hitems⟩ := List.forall_mem_cons.mp hR
    rw [elements] at h
    obtain ⟨cs, hcs, h⟩ := exists_of_bind_ok h
    obtain ⟨rest, hrest, h⟩ := exists_of_bind_ok h
    cases h
    exact .cons (hv cs hcs) (ih hrest hitems)

theorem forall₂_entries {R : List Char → Value → Prop} {fields : Fields Value}
    {texts : List (List Char)}
    (h : entries style depth (fields.map fun f => (.str f.1, f.2)) = .ok texts)
    (hR : ∀ f ∈ fields, ∀ cs, value style depth f.2 = .ok cs → R cs f.2) :
    List.Forall₂ (EntryText R style.asciiOnly) texts (fields.map fun f => (.str f.1, f.2)) := by
  induction fields generalizing texts with
  | nil =>
    cases h
    exact .nil
  | cons f fields ih =>
    obtain ⟨hf, hfields⟩ := List.forall_mem_cons.mp hR
    rw [List.map_cons, entries] at h
    obtain ⟨key, hkey, h⟩ := exists_of_bind_ok h
    cases hkey
    obtain ⟨body, hbody, h⟩ := exists_of_bind_ok h
    obtain ⟨rest, hrest, h⟩ := exists_of_bind_ok h
    cases h
    exact .cons ⟨f.1, body, rfl, rfl, hf body hbody⟩ (ih hrest hfields)

theorem not_mem_intercalate {c : Char} {sep : List Char} {items : List (List Char)} (hsep : c ∉ sep)
    (h : ∀ item ∈ items, c ∉ item) : c ∉ sep.intercalate items := by
  induction items with
  | nil => simp [List.intercalate]
  | cons item items ih =>
    obtain ⟨hitem, hitems⟩ := List.forall_mem_cons.mp h
    cases items with
    | nil => rwa [List.intercalate_singleton]
    | cons =>
      rw [List.intercalate_cons_cons]
      simp [hitem, hsep, ih hitems]

theorem not_mem_bracketed (style : Style) (depth : Nat) {left right : Char}
    (hbrackets : '\r' ≠ left ∧ '\r' ≠ right) {texts : List (List Char)}
    (h : ∀ text ∈ texts, '\r' ∉ text) : '\r' ∉ bracketed style depth left right texts := by
  rcases bracketed_cases style depth left right texts with
    ⟨-, htext⟩ | ⟨-, lead, gap, trail, hlead, hgap, htrail, htext⟩
  · simp [htext, hbrackets]
  · have hitems : '\r' ∉ (',' :: gap).intercalate texts :=
      not_mem_intercalate (by simp [hgap.not_mem]) h
    simp [htext, hbrackets, hlead.not_mem, hitems, htrail.not_mem]

/-- A collection that is written lies above the limit. -/
theorem exists_succ_of_requireRoom {u : Unit} (hroom : depth + room = nestingLimit)
    (h : requireRoom nestingLimit depth = .ok u) :
    ∃ room', room = room' + 1 ∧ depth + 1 + room' = nestingLimit := by
  unfold requireRoom at h
  split at h
  · exact ⟨room - 1, by omega, by omega⟩
  · cases h

/-- **The text of a value denotes it**, in every style. -/
theorem denotes_value {v : Value} (hv : Native v) (hroom : depth + room = nestingLimit)
    (h : value style depth v = .ok cs) : Denotes room cs v := by
  induction hv generalizing depth room cs with
  | null =>
    cases h
    exact .word (w := ("null", .null)) (by simp [words])
  | bool b =>
    cases h
    cases b
    · exact .word (w := ("false", .bool false)) (by simp [words])
    · exact .word (w := ("true", .bool true)) (by simp [words])
  | int n => exact .number (numberText_integer h)
  | str s =>
    cases h
    exact denotes_string style.asciiOnly s
  | @list items _ ih =>
    rw [value] at h
    obtain ⟨_, hbelow, h⟩ := exists_of_bind_ok h
    obtain ⟨texts, htexts, h⟩ := exists_of_bind_ok h
    cases h
    obtain ⟨room, rfl, hless⟩ := exists_succ_of_requireRoom hroom hbelow
    exact denotes_list (forall₂_elements htexts fun v hv cs hcs => ih v hv hless hcs)
  | @fields fields hnodup _ ih =>
    rw [Value.ofFields, value] at h
    obtain ⟨_, hbelow, h⟩ := exists_of_bind_ok h
    obtain ⟨texts, htexts, h⟩ := exists_of_bind_ok h
    cases h
    obtain ⟨room, rfl, hless⟩ := exists_succ_of_requireRoom hroom hbelow
    have hdenotes : ∀ f ∈ fields, ∀ cs, value style (depth + 1) f.2 = .ok cs → Denotes room cs f.2 :=
      fun f hf cs hcs => ih f hf hless hcs
    have hmap : Denotes (room + 1) (bracketed style depth '\x7b' '\x7d' texts) _ :=
      denotes_map (forall₂_entries htexts hdenotes)
    rwa [Value.entriesOf_fields_of_nodup hnodup] at hmap

/-- Nothing in the text of a value is changed where line endings are translated. -/
theorem not_mem_value {v : Value} (hv : Native v) (h : value style depth v = .ok cs) :
    '\r' ∉ cs := by
  induction hv generalizing depth cs with
  | null =>
    cases h
    decide
  | bool b =>
    cases h
    cases b <;> decide
  | int n => exact (numberText_integer h).not_mem
  | str s =>
    cases h
    simp [string, not_mem_escapeChar]
  | @list items _ ih =>
    rw [value] at h
    obtain ⟨_, -, h⟩ := exists_of_bind_ok h
    obtain ⟨texts, htexts, h⟩ := exists_of_bind_ok h
    cases h
    exact not_mem_bracketed style depth (by decide) (forall_mem_of_forall₂
      (forall₂_elements (R := fun cs _ => '\r' ∉ cs) htexts fun v hv cs hcs => ih v hv hcs)
      fun _ _ hplain => hplain)
  | @fields fields hnodup _ ih =>
    rw [Value.ofFields, value] at h
    obtain ⟨_, -, h⟩ := exists_of_bind_ok h
    obtain ⟨texts, htexts, h⟩ := exists_of_bind_ok h
    cases h
    refine not_mem_bracketed style depth (by decide) (forall_mem_of_forall₂
      (forall₂_entries (R := fun cs _ => '\r' ∉ cs) htexts fun f hf cs hcs => ih f hf hcs) ?_)
    rintro _ _ ⟨name, body, rfl, -, hbody⟩
    simp [string, not_mem_escapeChar, hbody]

/-- **What has been written is read again.** -/
theorem read_write {v : Value} {text : String} (hv : Native v) (h : write style v = .ok text) :
    read text.toList = .ok v := by
  have hdenotes := denotes_value hv (Nat.zero_add _) (write_eq_ok_iff.mp h)
  exact read_eq_ok_iff.mpr ⟨⟨[], text.toList, [], v, blank_nil, blank_nil⟩, hdenotes,
    by simp [Piece.chars], rfl⟩

theorem not_mem_of_write {v : Value} {text : String} (hv : Native v)
    (h : write style v = .ok text) : '\r' ∉ text.toList :=
  not_mem_value hv (write_eq_ok_iff.mp h)

theorem Native.writable {v : Value} (h : Native v) (hshort : v.Short) (hnesting : v.nesting ≤ room)
    (hroom : room ≤ nestingLimit) : Writable room v := by
  induction h generalizing room with
  | list _ ih =>
    rw [Value.nesting] at hnesting
    obtain ⟨room, rfl⟩ := Nat.exists_eq_succ_of_ne_zero (n := room) (by omega)
    exact .list fun v hv => ih v hv (Value.short_list_iff.mp hshort v hv)
      (Value.nestingOfItems_le_iff.mp (Nat.le_of_succ_le_succ hnesting) v hv) (by omega)
  | @fields fields _ _ ih =>
    rw [Value.ofFields, Value.nesting] at hnesting
    obtain ⟨room, rfl⟩ := Nat.exists_eq_succ_of_ne_zero (n := room) (by omega)
    have hbelow := Value.nestingOfEntries_le_iff.mp (Nat.le_of_succ_le_succ hnesting)
    have hshort := Value.short_map_iff.mp hshort
    refine .map (fun e he => ?_) fun e he => ?_ <;> obtain ⟨f, hf, rfl⟩ := List.mem_map.mp he
    · exact .str f.1
    · exact ih f hf (hshort _ he).2 (hbelow _ he).2 (by omega)
  | _ =>
    refine .plain trivial ?_
    rintro ⟨e, he⟩
    obtain ⟨s, hs⟩ := hshort.hasText (hnesting.trans hroom)
    cases hs.symm.trans he

/-- A value with short integers whose collections do not lie too deep has a text. -/
theorem exists_write {v : Value} (hv : Native v) (hshort : v.Short)
    (hnesting : v.nesting ≤ nestingLimit) : ∃ text, write style v = .ok text := by
  have hwrites : Writes (Writable nestingLimit v) (write style v) := write_writes hshort
  rcases hwrites with ⟨-, hwritten⟩ | ⟨hnot, -⟩
  · exact hwritten
  · exact absurd (hv.writable hshort hnesting (Nat.le_refl _)) hnot

end StepFlow.Json
