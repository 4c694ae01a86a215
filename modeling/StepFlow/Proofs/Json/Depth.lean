import StepFlow.Proofs.Json.Grammar

/-!
# How far texts are followed

The reader gives up at a collection that lies too deep, and it does so before it knows whether the
text goes on as it should. So this may become of texts that are no JSON at all. A text with few
brackets is safe from it, whatever else stands in it: it is followed until it ends or is at fault.

## Main definitions

* `Json.openings` — how many brackets a text has
* `Json.Follows` — a reader gives up only where there are more of them than there is room for

## Main results

* `Json.read_ne_tooDeep` — a text with few brackets is followed
-/

namespace StepFlow.Json

variable {room fuel : Nat} {cs rest : List Char}

/-- How many collections a text opens, those that stand in strings included. -/
def openings (cs : List Char) : Nat :=
  cs.countP fun c => c = '[' || c = '\x7b'

theorem openings_le_of_suffix (h : rest <:+ cs) : openings rest ≤ openings cs :=
  h.sublist.countP_le

theorem skipBlanks_suffix (cs : List Char) : skipBlanks cs <:+ cs :=
  List.dropWhile_suffix _

/-- What stands behind a bracket, a comma or a colon, with blanks before it. -/
theorem suffix_of_skipBlanks {c : Char} (h : skipBlanks cs = c :: rest) : rest <:+ cs :=
  (List.suffix_cons c rest).trans (h ▸ skipBlanks_suffix cs)

/-- A reader leaves an end of the text. If it gives up because of the depth, then the text opens more
collections than there is room for. -/
def Follows {α : Type} (room : Nat) (cs : List Char) : Except Fault (α × List Char) → Prop
  | .ok r => r.2 <:+ cs
  | .error e => e = .tooDeep → room < openings cs

namespace Follows

variable {α β : Type} {r : Except Fault (α × List Char)}

theorem ok (x : α) (h : rest <:+ cs) : Follows room cs (.ok (x, rest)) := h

theorem error {e : Fault} (h : e ≠ .tooDeep) : Follows room cs (.error e : Except Fault (α × _)) :=
  fun he => absurd he h

theorem notJson : Follows room cs (.error .notJson : Except Fault (α × _)) := error (by decide)

theorem of_suffix (hr : Follows room rest r) (h : rest <:+ cs) : Follows room cs r := by
  cases r with
  | ok x => exact List.IsSuffix.trans hr h
  | error e => exact fun he => Nat.lt_of_lt_of_le (hr he) (openings_le_of_suffix h)

theorem bind {f : α × List Char → Except Fault (β × List Char)} (hr : Follows room cs r)
    (hf : ∀ x rest, Follows room rest (f (x, rest))) : Follows room cs (r >>= f) := by
  cases r with
  | ok x => exact (hf x.1 x.2).of_suffix hr
  | error e => exact hr

/-- A collection takes up one place of the room. -/
theorem opened {c : Char} (hc : c = '[' ∨ c = '\x7b') (hr : Follows (room - 1) rest r)
    (h : rest <:+ cs) : Follows room (c :: cs) r := by
  have hopen : openings (c :: cs) = openings cs + 1 := by
    rcases hc with rfl | rfl <;> simp [openings]
  have hle := openings_le_of_suffix h
  cases r with
  | ok x => exact List.IsSuffix.trans hr (h.trans (List.suffix_cons _ _))
  | error e =>
    intro he
    have hlt := hr he
    omega

end Follows

theorem stringBody_follows (cs : List Char) : Follows room cs (stringBody fuel cs) := by
  cases h : stringBody fuel cs with
  | ok r =>
    obtain ⟨body, units, -, rfl, -⟩ := stringIn_of_stringBody h
    exact ⟨body ++ ['"'], by simp⟩
  | error e =>
    rw [eq_notJson_of_stringBody h]
    exact .notJson

theorem number_follows (cs : List Char) : Follows room cs (number cs) := by
  cases h : number cs with
  | ok r =>
    obtain ⟨text, -, rfl⟩ := exists_text_of_number h
    exact ⟨text, rfl⟩
  | error e =>
    unfold number at h
    refine .error ?_
    rintro rfl
    split at h
    · cases h
    · dsimp only at h
      split at h <;> split at h <;> cases h

/-- What the readers follow, with so many steps. -/
structure Following (fuel : Nat) : Prop where
  value : ∀ room cs, Follows room cs (readValue room fuel cs)
  elements : ∀ room cs, Follows room cs (readElements room fuel cs)
  entries : ∀ room cs, Follows room cs (readEntries room fuel cs)

namespace Following

theorem readValue_succ (ih : Following fuel) (room : Nat) (cs : List Char) :
    Follows room cs (readValue room (fuel + 1) cs) := by
  unfold readValue
  split
  · refine .bind ((stringBody_follows _).of_suffix (List.suffix_cons _ _)) fun s rest => ?_
    exact .ok _ (List.suffix_refl _)
  · rename_i tail
    split
    · rename_i hroom
      intro _
      simp [openings, hroom]
    · split
      · rename_i heq
        exact .ok _ ((suffix_of_skipBlanks heq).trans (List.suffix_cons _ _))
      · refine .opened (.inl rfl) (.bind (ih.elements _ _) fun xs rest => ?_)
          (skipBlanks_suffix tail)
        exact .ok _ (List.suffix_refl _)
  · rename_i tail
    split
    · rename_i hroom
      intro _
      simp [openings, hroom]
    · split
      · rename_i heq
        exact .ok _ ((suffix_of_skipBlanks heq).trans (List.suffix_cons _ _))
      · refine .opened (.inr rfl) (.bind (ih.entries _ _) fun kvs rest => ?_)
          (skipBlanks_suffix tail)
        exact .ok _ (List.suffix_refl _)
  · split
    · rename_i found hfound
      obtain ⟨w, -, -, hcs⟩ := word?_eq_some hfound
      exact ⟨_, hcs.symm⟩
    · exact number_follows _

theorem readElements_succ (ih : Following fuel) (room : Nat) (cs : List Char) :
    Follows room cs (readElements room (fuel + 1) cs) := by
  unfold readElements
  refine .bind (ih.value _ _) fun x rest => ?_
  dsimp only
  split
  · rename_i tail heq
    refine .of_suffix (.bind (ih.elements _ _) fun xs rest => ?_)
      ((skipBlanks_suffix tail).trans (suffix_of_skipBlanks heq))
    exact .ok _ (List.suffix_refl _)
  · rename_i heq
    exact .ok _ (suffix_of_skipBlanks heq)
  · exact .notJson

theorem readEntries_succ (ih : Following fuel) (room : Nat) (cs : List Char) :
    Follows room cs (readEntries room (fuel + 1) cs) := by
  unfold readEntries
  split
  · refine .bind ((stringBody_follows _).of_suffix (List.suffix_cons _ _)) fun k rest => ?_
    dsimp only
    split
    · rename_i body heq
      refine .of_suffix (.bind (ih.value _ _) fun v rest => ?_)
        ((skipBlanks_suffix body).trans (suffix_of_skipBlanks heq))
      dsimp only
      split
      · rename_i tail heq
        refine .of_suffix (.bind (ih.entries _ _) fun kvs rest => ?_)
          ((skipBlanks_suffix tail).trans (suffix_of_skipBlanks heq))
        exact .ok _ (List.suffix_refl _)
      · rename_i heq
        exact .ok _ (suffix_of_skipBlanks heq)
      · exact .notJson
    · exact .notJson
  · exact .notJson

end Following

theorem following (fuel : Nat) : Following fuel := by
  induction fuel with
  | zero => exact ⟨fun _ _ => .notJson, fun _ _ => .notJson, fun _ _ => .notJson⟩
  | succ fuel ih => exact ⟨ih.readValue_succ, ih.readElements_succ, ih.readEntries_succ⟩

/-- **A text with few brackets is followed to its end.** -/
theorem read_ne_tooDeep (h : openings cs ≤ nestingLimit) : read cs ≠ .error .tooDeep := by
  have hskip := openings_le_of_suffix (skipBlanks_suffix cs)
  have hfollows := (following (2 * (skipBlanks cs).length + 2)).value nestingLimit (skipBlanks cs)
  rw [read]
  cases hread : readValue nestingLimit (2 * (skipBlanks cs).length + 2) (skipBlanks cs) with
  | error e =>
    rw [hread] at hfollows
    rintro ⟨⟩
    have hlt := hfollows rfl
    omega
  | ok r =>
    dsimp only [bind, Except.bind]
    split <;> rintro ⟨⟩

end StepFlow.Json
