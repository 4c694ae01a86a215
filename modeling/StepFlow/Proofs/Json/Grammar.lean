import StepFlow.Proofs.Json.Numbers
import StepFlow.Proofs.Json.Strings

/-!
# The grammar of JSON

Which texts are JSON, and what they denote, is said here without a reader: a text is a word, a
string, a number, or a collection of texts with blanks around them. Collections lie in one another up
to a certain depth, and of the entries of a mapping under one key the last one counts.

What the reader takes is such a text, as is seen by putting together again the parts that it has
read. That it takes every text is another matter, see `StepFlow.Proofs.Json.Recognition`.

## Main definitions

* `Json.Piece`, `Json.Entry` — the parts of collections with the blanks around them
* `Json.Denotes` — a text denotes a value
* `Json.IsText` — a text with blanks around it, in which nothing lies too deep

## Main results

* `Json.sound` — what is read is a text
-/

namespace StepFlow.Json

variable {room fuel : Nat} {cs gap rest : List Char} {v : Value}

/-! ### Texts -/

/-- Blanks between the parts of a text. -/
def Blank (gap : List Char) : Prop := ∀ c ∈ gap, c = ' ' ∨ c = '\t' ∨ c = '\n' ∨ c = '\r'

/-- A text with blanks around it, and a value. -/
structure Piece where
  before : List Char
  text : List Char
  after : List Char
  value : Value
  blank_before : Blank before
  blank_after : Blank after

/-- A piece as it is written. -/
def Piece.chars (p : Piece) : List Char := p.before ++ (p.text ++ p.after)

/-- An entry of a mapping: a name, and what stands behind the colon. -/
structure Entry where
  before : List Char
  name : List Char
  units : List Nat
  after : List Char
  piece : Piece
  blank_before : Blank before
  named : Units name units
  blank_after : Blank after

namespace Entry

/-- An entry as it is written. -/
def chars (e : Entry) : List Char :=
  e.before ++ '"' :: (e.name ++ '"' :: (e.after ++ ':' :: e.piece.chars))

/-- A name and a value. -/
def entry (e : Entry) : Value × Value := (.ofPoints (joined e.units), e.piece.value)

end Entry

/-- **A text denotes a value**, with collections in it up to a certain depth. -/
inductive Denotes : Nat → List Char → Value → Prop
  | word {room : Nat} {w : String × Value} : w ∈ words → Denotes room w.1.toList w.2
  | string {room : Nat} {body : List Char} {units : List Nat} : Units body units →
      Denotes room ('"' :: (body ++ ['"'])) (.ofPoints (joined units))
  | number {room : Nat} {cs : List Char} {v : Value} : NumberText cs v → Denotes room cs v
  | emptyList {room : Nat} {gap : List Char} : Blank gap →
      Denotes (room + 1) ('[' :: (gap ++ [']'])) (.list [])
  | list {room : Nat} {pieces : List Piece} : pieces ≠ [] →
      (∀ p ∈ pieces, Denotes room p.text p.value) →
      Denotes (room + 1) ('[' :: ([','].intercalate (pieces.map Piece.chars) ++ [']']))
        (.list (pieces.map Piece.value))
  | emptyMap {room : Nat} {gap : List Char} : Blank gap →
      Denotes (room + 1) ('\x7b' :: (gap ++ ['\x7d'])) (.map [])
  | map {room : Nat} {entries : List Entry} : entries ≠ [] →
      (∀ e ∈ entries, Denotes room e.piece.text e.piece.value) →
      Denotes (room + 1) ('\x7b' :: ([','].intercalate (entries.map Entry.chars) ++ ['\x7d']))
        (.map (Value.entriesOf (entries.map Entry.entry)))

/-- **A text of JSON**: blanks may stand around it, and collections do not lie too deep. -/
def IsText (cs : List Char) (v : Value) : Prop :=
  ∃ p : Piece, Denotes nestingLimit p.text p.value ∧ cs = p.chars ∧ v = p.value

/-! ### Blanks -/

theorem blank_nil : Blank [] := fun _ hc => absurd hc List.not_mem_nil

theorem skipBlanks_append (hgap : Blank gap) (rest : List Char) :
    skipBlanks (gap ++ rest) = skipBlanks rest := by
  refine List.dropWhile_append_of_pos fun c hc => ?_
  simpa [or_assoc] using hgap c hc

theorem exists_blank (cs : List Char) : ∃ gap, Blank gap ∧ cs = gap ++ skipBlanks cs := by
  refine ⟨_, fun c hc => ?_, List.takeWhile_append_dropWhile.symm⟩
  simpa [or_assoc] using List.mem_takeWhile_imp hc

/-! ### What is read is a text -/

/-- A text goes on with the elements of a list, the closing bracket and something else. -/
def ElementsIn (room : Nat) (cs : List Char) (xs : List Value) (rest : List Char) : Prop :=
  ∃ pieces : List Piece, pieces ≠ [] ∧ (∀ p ∈ pieces, Denotes room p.text p.value) ∧
    cs = [','].intercalate (pieces.map Piece.chars) ++ ']' :: rest ∧ xs = pieces.map Piece.value

/-- A text goes on with the entries of a mapping, the closing brace and something else. -/
def EntriesIn (room : Nat) (cs : List Char) (kvs : List (Value × Value)) (rest : List Char) : Prop :=
  ∃ entries : List Entry, entries ≠ [] ∧ (∀ e ∈ entries, Denotes room e.piece.text e.piece.value) ∧
    cs = [','].intercalate (entries.map Entry.chars) ++ '\x7d' :: rest ∧
    kvs = entries.map Entry.entry

theorem ElementsIn.last (p : Piece) (h : Denotes room p.text p.value) :
    ElementsIn room (p.chars ++ ']' :: rest) [p.value] rest :=
  ⟨[p], List.cons_ne_nil _ _, List.forall_mem_singleton.mpr h, by simp, rfl⟩

theorem ElementsIn.next {xs : List Value} (p : Piece) (h : Denotes room p.text p.value)
    (hrest : ElementsIn room cs xs rest) :
    ElementsIn room (p.chars ++ ',' :: cs) (p.value :: xs) rest := by
  obtain ⟨pieces, hne, hpieces, rfl, rfl⟩ := hrest
  refine ⟨p :: pieces, List.cons_ne_nil _ _, List.forall_mem_cons.mpr ⟨h, hpieces⟩, ?_, rfl⟩
  rw [List.map_cons, List.intercalate_cons_of_ne_nil (by simpa using hne)]
  simp

theorem EntriesIn.last (e : Entry) (h : Denotes room e.piece.text e.piece.value) :
    EntriesIn room (e.chars ++ '\x7d' :: rest) [e.entry] rest :=
  ⟨[e], List.cons_ne_nil _ _, List.forall_mem_singleton.mpr h, by simp, rfl⟩

theorem EntriesIn.next {kvs : List (Value × Value)} (e : Entry)
    (h : Denotes room e.piece.text e.piece.value) (hrest : EntriesIn room cs kvs rest) :
    EntriesIn room (e.chars ++ ',' :: cs) (e.entry :: kvs) rest := by
  obtain ⟨entries, hne, hentries, rfl, rfl⟩ := hrest
  refine ⟨e :: entries, List.cons_ne_nil _ _, List.forall_mem_cons.mpr ⟨h, hentries⟩, ?_, rfl⟩
  rw [List.map_cons, List.intercalate_cons_of_ne_nil (by simpa using hne)]
  simp

theorem word?_eq_some (h : word? cs = some (v, rest)) :
    ∃ w ∈ words, v = w.2 ∧ cs = w.1.toList ++ rest := by
  obtain ⟨w, hw, hafter⟩ := List.exists_of_findSome?_eq_some h
  obtain ⟨_, hafter, hpair⟩ := Option.map_eq_some_iff.mp hafter
  cases hpair
  exact ⟨w, hw, rfl, Text.after?_eq_some_iff.mp hafter⟩

/-- What the readers take is denoted, with so many steps. -/
structure Sound (fuel : Nat) : Prop where
  value : ∀ {room cs v rest}, readValue room fuel cs = .ok (v, rest) →
    ∃ text, Denotes room text v ∧ cs = text ++ rest
  elements : ∀ {room gap cs xs rest}, Blank gap → readElements room fuel cs = .ok (xs, rest) →
    ElementsIn room (gap ++ cs) xs rest
  entries : ∀ {room gap cs kvs rest}, Blank gap → readEntries room fuel cs = .ok (kvs, rest) →
    EntriesIn room (gap ++ cs) kvs rest

namespace Sound

theorem readValue_succ (ih : Sound fuel) (h : readValue room (fuel + 1) cs = .ok (v, rest)) :
    ∃ text, Denotes room text v ∧ cs = text ++ rest := by
  unfold readValue at h
  split at h
  · obtain ⟨⟨s, _⟩, hs, h⟩ := exists_of_bind_ok h
    cases h
    obtain ⟨body, units, hunits, rfl, rfl⟩ := stringIn_of_stringBody hs
    exact ⟨_, .string hunits, by simp⟩
  · rename_i tail
    split at h
    · cases h
    · rename_i hroom
      obtain ⟨room, rfl⟩ := Nat.exists_eq_succ_of_ne_zero hroom
      obtain ⟨gap, hgap, htail⟩ := exists_blank tail
      split at h
      · rename_i heq
        cases h
        rw [htail, heq]
        exact ⟨_, .emptyList hgap, by simp⟩
      · obtain ⟨⟨xs, _⟩, hxs, h⟩ := exists_of_bind_ok h
        cases h
        obtain ⟨pieces, hne, hpieces, heq, rfl⟩ := ih.elements hgap hxs
        rw [htail, heq]
        exact ⟨_, .list hne hpieces, by simp⟩
  · rename_i tail
    split at h
    · cases h
    · rename_i hroom
      obtain ⟨room, rfl⟩ := Nat.exists_eq_succ_of_ne_zero hroom
      obtain ⟨gap, hgap, htail⟩ := exists_blank tail
      split at h
      · rename_i heq
        cases h
        rw [htail, heq]
        exact ⟨_, .emptyMap hgap, by simp⟩
      · obtain ⟨⟨kvs, _⟩, hkvs, h⟩ := exists_of_bind_ok h
        cases h
        obtain ⟨entries, hne, hentries, heq, rfl⟩ := ih.entries hgap hkvs
        rw [htail, heq]
        exact ⟨_, .map hne hentries, by simp⟩
  · split at h
    · rename_i found hfound
      cases h
      obtain ⟨w, hw, rfl, rfl⟩ := word?_eq_some hfound
      exact ⟨_, .word hw, rfl⟩
    · obtain ⟨text, htext, hcs⟩ := exists_text_of_number h
      exact ⟨text, .number htext, hcs⟩

theorem readElements_succ {xs : List Value} (ih : Sound fuel) (hgap : Blank gap)
    (h : readElements room (fuel + 1) cs = .ok (xs, rest)) : ElementsIn room (gap ++ cs) xs rest := by
  unfold readElements at h
  obtain ⟨⟨x, behind⟩, hx, hread⟩ := exists_of_bind_ok h
  obtain ⟨text, htext, rfl⟩ := ih.value hx
  obtain ⟨after, hafter, hbehind⟩ := exists_blank behind
  let p : Piece := ⟨gap, text, after, x, hgap, hafter⟩
  have hp (tail : List Char) : p.chars ++ tail = gap ++ (text ++ (after ++ tail)) := by
    simp [p, Piece.chars]
  dsimp only at hread
  split at hread
  · rename_i tail heq
    obtain ⟨⟨xs, _⟩, hxs, hread⟩ := exists_of_bind_ok hread
    cases hread
    obtain ⟨gap', hgap', htail⟩ := exists_blank tail
    rw [hbehind, heq, ← hp, htail]
    exact .next p htext (ih.elements hgap' hxs)
  · rename_i tail heq
    cases hread
    rw [hbehind, heq, ← hp]
    exact .last p htext
  · cases hread

theorem readEntries_succ {kvs : List (Value × Value)} (ih : Sound fuel) (hgap : Blank gap)
    (h : readEntries room (fuel + 1) cs = .ok (kvs, rest)) : EntriesIn room (gap ++ cs) kvs rest := by
  unfold readEntries at h
  split at h
  · obtain ⟨⟨k, behind⟩, hk, hread⟩ := exists_of_bind_ok h
    obtain ⟨name, units, hname, rfl, rfl⟩ := stringIn_of_stringBody hk
    obtain ⟨colon, hcolon, hbehind⟩ := exists_blank behind
    dsimp only at hread
    split at hread
    · rename_i tail hbody
      obtain ⟨before, hbefore, htail⟩ := exists_blank tail
      obtain ⟨⟨v, behind'⟩, hv, hread⟩ := exists_of_bind_ok hread
      obtain ⟨text, htext, htext'⟩ := ih.value hv
      obtain ⟨after, hafter, hbehind'⟩ := exists_blank behind'
      let e : Entry :=
        ⟨gap, name, units, colon, ⟨before, text, after, v, hbefore, hafter⟩, hgap, hname, hcolon⟩
      have he (tail : List Char) : e.chars ++ tail = gap ++ '"' :: (name ++ '"' ::
          (colon ++ ':' :: (before ++ (text ++ (after ++ tail))))) := by
        simp [e, Entry.chars, Piece.chars]
      dsimp only at hread
      split at hread
      · rename_i tail' heq
        obtain ⟨⟨kvs, _⟩, hkvs, hread⟩ := exists_of_bind_ok hread
        cases hread
        obtain ⟨gap', hgap', htail'⟩ := exists_blank tail'
        rw [hbehind, hbody, htail, htext', hbehind', heq, ← he, htail']
        exact .next e htext (ih.entries hgap' hkvs)
      · rename_i tail' heq
        cases hread
        rw [hbehind, hbody, htail, htext', hbehind', heq, ← he]
        exact .last e htext
      · cases hread
    · cases hread
  · cases h

end Sound

/-- **What is read is a text**, a list of elements or a list of entries. -/
theorem sound (fuel : Nat) : Sound fuel := by
  induction fuel with
  | zero => exact ⟨nofun, nofun, nofun⟩
  | succ fuel ih => exact ⟨ih.readValue_succ, ih.readElements_succ, ih.readEntries_succ⟩

end StepFlow.Json
