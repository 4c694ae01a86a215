import StepFlow.Proofs.Json.Grammar

/-!
# Texts of JSON are read

The reader is exact: it takes the texts of the grammar for what they denote, and it takes nothing
else. One half of this has been shown with the grammar. For the other one, a text is followed on its
way through the reader, where something else comes behind it. What comes there must not go on like a
number, which is so behind every part of a text.

## Main definitions

* `Json.ReadAs` — a text is read as a value, wherever it stands

## Main results

* `Json.Denotes.readAs` — a text is read as what it denotes
* `Json.read_eq_ok_iff` — the reader is exact
-/

namespace StepFlow.Json

variable {room fuel : Nat} {cs gap rest : List Char} {v : Value}

/-! ### Where texts begin and end -/

/-- The first character of a text begins a value. -/
def Starts (cs : List Char) : Prop :=
  ∃ c ∈ cs.head?, c ≠ ' ' ∧ c ≠ '\t' ∧ c ≠ '\n' ∧ c ≠ '\r' ∧ c ≠ ']'

theorem starts_cons {c : Char} (h : c ≠ ' ' ∧ c ≠ '\t' ∧ c ≠ '\n' ∧ c ≠ '\r' ∧ c ≠ ']') :
    Starts (c :: cs) :=
  ⟨c, rfl, h⟩

theorem Starts.exists_cons (h : Starts cs) : ∃ c tail, cs = c :: tail ∧
    c ≠ ' ' ∧ c ≠ '\t' ∧ c ≠ '\n' ∧ c ≠ '\r' ∧ c ≠ ']' := by
  obtain ⟨c, hc, h⟩ := h
  match cs, hc with
  | _ :: tail, rfl => exact ⟨_, tail, rfl, h⟩

theorem Starts.append (h : Starts cs) (rest : List Char) : Starts (cs ++ rest) := by
  obtain ⟨c, tail, rfl, hc⟩ := h.exists_cons
  exact starts_cons hc

theorem Starts.length_pos (h : Starts cs) : 0 < cs.length := by
  obtain ⟨c, tail, rfl, -⟩ := h.exists_cons
  exact Nat.succ_pos _

theorem skipBlanks_of_starts (h : Starts cs) : skipBlanks cs = cs := by
  obtain ⟨c, tail, rfl, hspace, htab, hline, hreturn, -⟩ := h.exists_cons
  rw [skipBlanks, List.dropWhile_cons_of_neg]
  simp [hspace, htab, hline, hreturn]

theorem Blank.stops (h : Blank gap) : Stops gap := by
  intro c hc
  rcases h c (List.mem_of_mem_head? hc) with rfl | rfl | rfl | rfl <;> decide

/-- Where a text ends there is a blank, or one of the characters that delimit parts. -/
theorem stops_append {c : Char} (hgap : Blank gap) (hc : c = ',' ∨ c = ']' ∨ c = '\x7d') :
    Stops (gap ++ c :: rest) := by
  cases gap with
  | nil =>
    rintro d ⟨⟩
    rcases hc with rfl | rfl | rfl <;> decide
  | cons g gap => exact fun d hd => hgap.stops d hd

theorem skipBlanks_close {c : Char} (hgap : Blank gap) (hc : c = ',' ∨ c = ']' ∨ c = '\x7d') :
    skipBlanks (gap ++ c :: rest) = c :: rest := by
  rw [skipBlanks_append hgap]
  rcases hc with rfl | rfl | rfl <;> rfl

/-- **A text is read as a value**, wherever it stands. -/
structure ReadAs (room : Nat) (cs : List Char) (v : Value) : Prop where
  starts : Starts cs
  read : ∀ fuel rest, 2 * cs.length ≤ fuel → Stops rest →
    readValue room fuel (cs ++ rest) = .ok (v, rest)

/-! ### Words, strings and numbers -/

theorem readAs_word {w : String × Value} (hw : w ∈ words) : ReadAs room w.1.toList w.2 := by
  have hstarts : Starts w.1.toList := by
    have hwords : ∀ w ∈ words, ∃ c ∈ w.1.toList.head?,
        c ≠ ' ' ∧ c ≠ '\t' ∧ c ≠ '\n' ∧ c ≠ '\r' ∧ c ≠ ']' := by
      simp [words]
    exact hwords w hw
  refine ⟨hstarts, fun fuel rest hfuel _ => ?_⟩
  have hpos := hstarts.length_pos
  obtain ⟨fuel, rfl⟩ := Nat.exists_eq_succ_of_ne_zero (n := fuel) (by omega)
  simp only [words, List.mem_cons, List.not_mem_nil, or_false] at hw
  rcases hw with rfl | rfl | rfl | rfl | rfl | rfl <;> rfl

theorem readAs_string {body : List Char} {units : List Nat} (h : Units body units) :
    ReadAs room ('"' :: (body ++ ['"'])) (.ofPoints (joined units)) where
  starts := starts_cons (by decide)
  read fuel rest hfuel _ := by
    obtain ⟨fuel, rfl⟩ := Nat.exists_eq_succ_of_ne_zero (n := fuel) (by
      rintro rfl
      simp at hfuel)
    have henough : body.length < (body ++ '"' :: rest).length + 1 := by
      rw [List.length_append]
      omega
    have hbody := stringBody_of_units h henough rest
    rw [List.cons_append, List.append_assoc, List.singleton_append, readValue, hbody]
    rfl

theorem readValue_number {c : Char} (hc : c ≠ '"' ∧ c ≠ '[' ∧ c ≠ '\x7b')
    (hword : word? (c :: cs) = none) : readValue room (fuel + 1) (c :: cs) = number (c :: cs) := by
  rw [readValue]
  · rw [hword]
  · simpa using hc.1
  · simpa using hc.2.1
  · simpa using hc.2.2

theorem word?_digits {c : Char} (hc : c.isDigit = true) (rest : List Char) :
    word? (c :: rest) = none ∧ word? ('-' :: c :: rest) = none := by
  have hne (d : Char) (hd : d.isDigit = false) : d ≠ c := fun h => by simp [h, hc] at hd
  constructor
  · simp [word?, words, Text.after?, hne 'n' rfl, hne 't' rfl, hne 'f' rfl, hne 'N' rfl, hne 'I' rfl,
      hne '-' rfl]
  · simp [word?, words, Text.after?, hne 'I' rfl]

/-- A number begins with a digit, or with a minus and a digit. -/
theorem NumberText.exists_cons (h : NumberText cs v) : ∃ c tail, c.isDigit = true ∧
    (cs = c :: tail ∨ cs = '-' :: c :: tail) := by
  have hchars (n : Numeral) : ∃ c tail, c.isDigit = true ∧
      (n.chars = c :: tail ∨ n.chars = '-' :: c :: tail) := by
    obtain ⟨c, tail, hcs, hc⟩ := n.whole.exists_cons
    refine ⟨c, tail ++ (n.pointed ++ n.marked), hc, ?_⟩
    rw [Numeral.chars, Numeral.sign, hcs]
    cases n.negative with
    | true => exact .inr rfl
    | false => exact .inl rfl
  cases h with
  | int n => exact hchars n
  | double n => exact hchars n

theorem readAs_number (h : NumberText cs v) : ReadAs room cs v := by
  obtain ⟨c, tail, hc, hcs⟩ := h.exists_cons
  have hne (d : Char) (hd : d.isDigit = false) : c ≠ d := fun h => by simp [← h, hc] at hd
  have hstarts : Starts cs := by
    rcases hcs with rfl | rfl
    · exact starts_cons ⟨hne _ rfl, hne _ rfl, hne _ rfl, hne _ rfl, hne _ rfl⟩
    · exact starts_cons (by decide)
  refine ⟨hstarts, fun fuel rest hfuel hrest => ?_⟩
  have hpos := hstarts.length_pos
  obtain ⟨fuel, rfl⟩ := Nat.exists_eq_succ_of_ne_zero (n := fuel) (by omega)
  rw [← number_of_text h hrest]
  rcases hcs with rfl | rfl
  · exact readValue_number ⟨hne _ rfl, hne _ rfl, hne _ rfl⟩ (word?_digits hc _).1
  · exact readValue_number (by decide) (word?_digits hc _).2

/-! ### Collections -/

/-- A piece is read behind its blanks, and what is left are those behind it. -/
theorem skipBlanks_chars {p : Piece} (h : Starts p.text) (rest : List Char) :
    skipBlanks (p.chars ++ rest) = p.text ++ (p.after ++ rest) := by
  rw [Piece.chars, List.append_assoc, List.append_assoc, skipBlanks_append p.blank_before,
    skipBlanks_of_starts (h.append _)]

theorem readElements_next (hgap : Blank gap)
    (h : readValue room fuel cs = .ok (v, gap ++ ',' :: rest)) :
    readElements room (fuel + 1) cs =
      (readElements room fuel (skipBlanks rest)).map fun r => (v :: r.1, r.2) := by
  rw [readElements, h]
  simp only [bind, Except.bind]
  rw [skipBlanks_close hgap (.inl rfl)]
  rfl

theorem readElements_last (hgap : Blank gap)
    (h : readValue room fuel cs = .ok (v, gap ++ ']' :: rest)) :
    readElements room (fuel + 1) cs = .ok ([v], rest) := by
  rw [readElements, h]
  simp only [bind, Except.bind]
  rw [skipBlanks_close hgap (.inr (.inl rfl))]
  rfl

/-- The elements of a list are read one after the other. -/
theorem readElements_pieces {pieces : List Piece} (hne : pieces ≠ [])
    (h : ∀ p ∈ pieces, ReadAs room p.text p.value) {fuel : Nat}
    (hfuel : 2 * ([','].intercalate (pieces.map Piece.chars)).length < fuel) (rest : List Char) :
    readElements room fuel (skipBlanks ([','].intercalate (pieces.map Piece.chars) ++ ']' :: rest)) =
      .ok (pieces.map Piece.value, rest) := by
  induction pieces generalizing fuel with
  | nil => exact absurd rfl hne
  | cons p pieces ih =>
    obtain ⟨hp, hpieces⟩ := List.forall_mem_cons.mp h
    obtain ⟨fuel, rfl⟩ := Nat.exists_eq_succ_of_ne_zero (Nat.ne_of_gt (Nat.zero_lt_of_lt hfuel))
    have hlength : p.text.length ≤ p.chars.length := by
      simp only [Piece.chars, List.length_append]
      omega
    cases pieces with
    | nil =>
      rw [List.map_singleton, List.intercalate_singleton] at hfuel ⊢
      rw [skipBlanks_chars hp.starts]
      exact readElements_last p.blank_after
        (hp.read fuel _ (by omega) (stops_append p.blank_after (.inr (.inl rfl))))
    | cons q pieces =>
      have hrest := @ih (List.cons_ne_nil _ _) hpieces fuel
      rw [List.map_cons, List.intercalate_cons_of_ne_nil (by simp)] at hfuel ⊢
      simp only [List.length_append, List.length_singleton] at hfuel
      rw [List.append_assoc, List.append_assoc, List.singleton_append, skipBlanks_chars hp.starts,
        readElements_next p.blank_after
          (hp.read fuel _ (by omega) (stops_append p.blank_after (.inl rfl))),
        hrest (by omega)]
      rfl

/-- An entry is read behind its blanks. -/
theorem skipBlanks_entry (e : Entry) (rest : List Char) : skipBlanks (e.chars ++ rest) =
    '"' :: (e.name ++ '"' :: (e.after ++ ':' :: (e.piece.chars ++ rest))) := by
  rw [Entry.chars, List.append_assoc, skipBlanks_append e.blank_before]
  simp [skipBlanks]

/-- Behind a name comes its value. -/
theorem readEntries_entry (e : Entry) (hstarts : Starts e.piece.text) (rest : List Char) :
    readEntries room (fuel + 1) (skipBlanks (e.chars ++ rest)) = (do
      let (v, rest) ← readValue room fuel (e.piece.text ++ (e.piece.after ++ rest))
      match skipBlanks rest with
      | ',' :: rest => do
        let (kvs, rest) ← readEntries room fuel (skipBlanks rest)
        return (((Value.ofPoints (joined e.units), v) :: kvs, rest) :
          List (Value × Value) × List Char)
      | '\x7d' :: rest => return ([(.ofPoints (joined e.units), v)], rest)
      | _ => throw .notJson) := by
  have henough (tail : List Char) : e.name.length < (e.name ++ '"' :: tail).length + 1 := by
    rw [List.length_append]
    omega
  rw [skipBlanks_entry, readEntries, stringBody_of_units e.named (henough _)]
  simp only [bind, Except.bind]
  rw [skipBlanks_append e.blank_after]
  conv_rhs => rw [← skipBlanks_chars hstarts rest]
  rfl

theorem readEntries_next (e : Entry) (hstarts : Starts e.piece.text)
    (h : readValue room fuel (e.piece.text ++ (e.piece.after ++ ',' :: rest)) =
      .ok (v, e.piece.after ++ ',' :: rest)) :
    readEntries room (fuel + 1) (skipBlanks (e.chars ++ ',' :: rest)) =
      (readEntries room fuel (skipBlanks rest)).map fun r =>
        ((.ofPoints (joined e.units), v) :: r.1, r.2) := by
  rw [readEntries_entry e hstarts, h]
  simp only [bind, Except.bind]
  rw [skipBlanks_close e.piece.blank_after (.inl rfl)]
  rfl

theorem readEntries_last (e : Entry) (hstarts : Starts e.piece.text)
    (h : readValue room fuel (e.piece.text ++ (e.piece.after ++ '\x7d' :: rest)) =
      .ok (v, e.piece.after ++ '\x7d' :: rest)) :
    readEntries room (fuel + 1) (skipBlanks (e.chars ++ '\x7d' :: rest)) =
      .ok ([(.ofPoints (joined e.units), v)], rest) := by
  rw [readEntries_entry e hstarts, h]
  simp only [bind, Except.bind]
  rw [skipBlanks_close e.piece.blank_after (.inr (.inr rfl))]
  rfl

/-- The entries of a mapping are read one after the other. -/
theorem readEntries_entries {entries : List Entry} (hne : entries ≠ [])
    (h : ∀ e ∈ entries, ReadAs room e.piece.text e.piece.value) {fuel : Nat}
    (hfuel : 2 * ([','].intercalate (entries.map Entry.chars)).length < fuel) (rest : List Char) :
    readEntries room fuel
        (skipBlanks ([','].intercalate (entries.map Entry.chars) ++ '\x7d' :: rest)) =
      .ok (entries.map Entry.entry, rest) := by
  induction entries generalizing fuel with
  | nil => exact absurd rfl hne
  | cons e entries ih =>
    obtain ⟨he, hentries⟩ := List.forall_mem_cons.mp h
    obtain ⟨fuel, rfl⟩ := Nat.exists_eq_succ_of_ne_zero (Nat.ne_of_gt (Nat.zero_lt_of_lt hfuel))
    have hlength : e.piece.text.length ≤ e.chars.length := by
      simp only [Entry.chars, Piece.chars, List.length_append, List.length_cons]
      omega
    cases entries with
    | nil =>
      rw [List.map_singleton, List.intercalate_singleton] at hfuel ⊢
      exact readEntries_last e he.starts
        (he.read fuel _ (by omega) (stops_append e.piece.blank_after (.inr (.inr rfl))))
    | cons f entries =>
      have hrest := @ih (List.cons_ne_nil _ _) hentries fuel
      rw [List.map_cons, List.intercalate_cons_of_ne_nil (by simp)] at hfuel ⊢
      simp only [List.length_append, List.length_singleton] at hfuel
      rw [List.append_assoc, List.append_assoc, List.singleton_append,
        readEntries_next e he.starts
          (he.read fuel _ (by omega) (stops_append e.piece.blank_after (.inl rfl))),
        hrest (by omega)]
      rfl

/-! ### Values -/

theorem readValue_list (h : skipBlanks cs = rest) (hrest : rest.head? ≠ some ']') :
    readValue (room + 1) (fuel + 1) ('[' :: cs) =
      (readElements room fuel rest).map fun r => (.list r.1, r.2) := by
  rw [readValue, if_neg (Nat.succ_ne_zero room), h]
  split
  · exact absurd rfl hrest
  · rfl

theorem readValue_map (h : skipBlanks cs = rest) (hrest : rest.head? ≠ some '\x7d') :
    readValue (room + 1) (fuel + 1) ('\x7b' :: cs) =
      (readEntries room fuel rest).map fun r => (.map (Value.entriesOf r.1), r.2) := by
  rw [readValue, if_neg (Nat.succ_ne_zero room), h]
  split
  · exact absurd rfl hrest
  · rfl

/-- What stands first in a collection stands first in its text. -/
theorem exists_intercalate_append (sep first rest : List Char) (items : List (List Char)) :
    ∃ tail, sep.intercalate (first :: items) ++ rest = first ++ tail := by
  cases items with
  | nil => exact ⟨rest, by rw [List.intercalate_singleton]⟩
  | cons item items =>
    exact ⟨sep ++ sep.intercalate (item :: items) ++ rest, by
      rw [List.intercalate_cons_cons, List.append_assoc, List.append_assoc, List.append_assoc]⟩

theorem readAs_list {pieces : List Piece} (hne : pieces ≠ [])
    (h : ∀ p ∈ pieces, ReadAs room p.text p.value) :
    ReadAs (room + 1) ('[' :: ([','].intercalate (pieces.map Piece.chars) ++ [']']))
      (.list (pieces.map Piece.value)) where
  starts := starts_cons (by decide)
  read fuel rest hfuel _ := by
    simp only [List.length_cons, List.length_append] at hfuel
    obtain ⟨fuel, rfl⟩ := Nat.exists_eq_succ_of_ne_zero (n := fuel) (by omega)
    rw [List.cons_append, List.append_assoc, List.singleton_append, readValue_list rfl,
      readElements_pieces hne h (by omega)]
    · rfl
    · obtain ⟨p, pieces, rfl⟩ := List.exists_cons_of_ne_nil hne
      have hp := (h p List.mem_cons_self).starts
      obtain ⟨tail, htail⟩ := exists_intercalate_append [','] p.chars (']' :: rest)
        (pieces.map Piece.chars)
      obtain ⟨c, cs, hcs, -, -, -, -, hclose⟩ := hp.exists_cons
      rw [List.map_cons, htail, skipBlanks_chars hp, hcs]
      exact fun heq => hclose (Option.some.inj heq)

theorem readAs_map {entries : List Entry} (hne : entries ≠ [])
    (h : ∀ e ∈ entries, ReadAs room e.piece.text e.piece.value) :
    ReadAs (room + 1) ('\x7b' :: ([','].intercalate (entries.map Entry.chars) ++ ['\x7d']))
      (.map (Value.entriesOf (entries.map Entry.entry))) where
  starts := starts_cons (by decide)
  read fuel rest hfuel _ := by
    simp only [List.length_cons, List.length_append] at hfuel
    obtain ⟨fuel, rfl⟩ := Nat.exists_eq_succ_of_ne_zero (n := fuel) (by omega)
    rw [List.cons_append, List.append_assoc, List.singleton_append, readValue_map rfl,
      readEntries_entries hne h (by omega)]
    · rfl
    · obtain ⟨e, entries, rfl⟩ := List.exists_cons_of_ne_nil hne
      obtain ⟨tail, htail⟩ := exists_intercalate_append [','] e.chars ('\x7d' :: rest)
        (entries.map Entry.chars)
      rw [List.map_cons, htail, skipBlanks_entry]
      exact fun heq => absurd (Option.some.inj heq) (by decide)

/-- **A text is read as what it denotes.** -/
theorem Denotes.readAs (h : Denotes room cs v) : ReadAs room cs v := by
  induction h with
  | word hw => exact readAs_word hw
  | string hunits => exact readAs_string hunits
  | number htext => exact readAs_number htext
  | list hne _ ih => exact readAs_list hne ih
  | map hne _ ih => exact readAs_map hne ih
  | emptyList hgap =>
    refine ⟨starts_cons (by decide), fun fuel rest hfuel _ => ?_⟩
    obtain ⟨fuel, rfl⟩ := Nat.exists_eq_succ_of_ne_zero (n := fuel) (by
      rintro rfl
      simp at hfuel)
    rw [List.cons_append, List.append_assoc, List.singleton_append, readValue,
      if_neg (Nat.succ_ne_zero _), skipBlanks_close hgap (.inr (.inl rfl))]
    rfl
  | emptyMap hgap =>
    refine ⟨starts_cons (by decide), fun fuel rest hfuel _ => ?_⟩
    obtain ⟨fuel, rfl⟩ := Nat.exists_eq_succ_of_ne_zero (n := fuel) (by
      rintro rfl
      simp at hfuel)
    rw [List.cons_append, List.append_assoc, List.singleton_append, readValue,
      if_neg (Nat.succ_ne_zero _), skipBlanks_close hgap (.inr (.inr rfl))]
    rfl

/-- **The reader is exact**: it takes the texts of the grammar for what they denote, and nothing
else. -/
theorem read_eq_ok_iff : read cs = .ok v ↔ IsText cs v := by
  constructor
  · intro h
    obtain ⟨before, hbefore, hcs⟩ := exists_blank cs
    obtain ⟨⟨u, rest⟩, hu, hread⟩ := exists_of_bind_ok h
    obtain ⟨text, htext, hskip⟩ := (sound _).value hu
    obtain ⟨after, hafter, hrest⟩ := exists_blank rest
    dsimp only at hread
    split at hread
    · rename_i hempty
      cases hread
      rw [List.isEmpty_iff] at hempty
      rw [hempty, List.append_nil] at hrest
      refine ⟨⟨before, text, after, v, hbefore, hafter⟩, htext, ?_, rfl⟩
      rw [hcs, hskip, hrest]
      rfl
    · cases hread
  · rintro ⟨p, hp, rfl, rfl⟩
    have hreads := hp.readAs
    have hskip := skipBlanks_chars hreads.starts []
    have hnothing := skipBlanks_append p.blank_after []
    rw [List.append_nil, List.append_nil] at hskip
    rw [List.append_nil] at hnothing
    rw [read, hskip]
    dsimp only
    rw [hreads.read _ _ (by rw [List.length_append]; omega) p.blank_after.stops]
    simp only [bind, Except.bind]
    rw [hnothing]
    rfl

end StepFlow.Json
