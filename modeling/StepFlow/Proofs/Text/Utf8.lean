import StepFlow.Text.Utf8

/-!
# Text written as UTF-8

Decoding puts replacement characters in the place of what is not well-formed. Nothing is replaced in
the UTF-8 form of a text: it is cut into the forms of its characters, whatever comes behind them.

The form of a character is recognised by its first byte, which tells how many follow, and by its
second, which must not lead to a shorter form, a surrogate or a number beyond the last character.
`leadShape` knows both; the lemmas about it say that a character that needs two, three or four bytes
keeps to these bounds.

## Main results

* `classify_encodeChar` — the form of a character is recognised at the beginning of a text
* `decodeLossy_encode`, `decode?_encode` — decoding gives an encoded text back
-/

namespace StepFlow.Text.Utf8

/-! ### The beginning of an encoded text -/

private theorem leadShape_two {n : Nat} (h : 0x80 ≤ n) (h' : n < 0x800) :
    leadShape (0xc0 + n / 64) = some (n / 64, 0x80, 0xbf, 0) := by
  rw [leadShape, if_pos (by simp; omega)]
  simp

/-- The second byte leaves out what has a shorter form, and the surrogates. -/
private theorem leadShape_three {n : Nat} (h : 0x800 ≤ n) (h' : n < 0x10000)
    (hscalar : n < 0xd800 ∨ 0xdfff < n) :
    ∃ low high, leadShape (0xe0 + n / 4096) = some (n / 4096, low, high, 1) ∧
      low ≤ 0x80 + n / 64 % 64 ∧ 0x80 + n / 64 % 64 ≤ high := by
  unfold leadShape
  simp only [beq_iff_eq, Bool.and_eq_true, decide_eq_true_eq]
  rw [if_neg (by omega)]
  split
  · exact ⟨0xa0, 0xbf, by simp; omega, by omega, by omega⟩
  split
  · exact ⟨0x80, 0x9f, by simp; omega, by omega, by omega⟩
  rw [if_pos (by omega)]
  exact ⟨0x80, 0xbf, by simp, by omega, by omega⟩

/-- The second byte leaves out what has a shorter form, and what is no character. -/
private theorem leadShape_four {n : Nat} (h : 0x10000 ≤ n) (h' : n < 0x110000) :
    ∃ low high, leadShape (0xf0 + n / 262144) = some (n / 262144, low, high, 2) ∧
      low ≤ 0x80 + n / 4096 % 64 ∧ 0x80 + n / 4096 % 64 ≤ high := by
  unfold leadShape
  simp only [beq_iff_eq, Bool.and_eq_true, decide_eq_true_eq]
  rw [if_neg (by omega), if_neg (by omega), if_neg (by omega), if_neg (by omega)]
  split
  · exact ⟨0x90, 0xbf, by simp; omega, by omega, by omega⟩
  split
  · exact ⟨0x80, 0xbf, by simp, by omega, by omega⟩
  rw [if_pos (by omega)]
  exact ⟨0x80, 0x8f, by simp; omega, by omega, by omega⟩

private theorem toNat_toUInt8 {n : Nat} (h : n < 256) : n.toUInt8.toNat = n := by
  simp [Nat.toUInt8, Nat.mod_eq_of_lt h]

/-- A multi-byte sequence is read on behind its second byte. -/
private theorem classify_lead {lead second acc low high need : Nat} (hlead : lead < 256)
    (hshape : leadShape lead = some (acc, low, high, need)) (hsecond : 0x80 + second < 256)
    (hlow : low ≤ 0x80 + second) (hhigh : 0x80 + second ≤ high) (bs : List UInt8) :
    classify lead.toUInt8 ((0x80 + second).toUInt8 :: bs) =
      continuation (acc * 64 + second) 2 need bs := by
  have hmulti : ¬lead < 0x80 := by
    intro h
    unfold leadShape at hshape
    simp only [beq_iff_eq, Bool.and_eq_true, decide_eq_true_eq] at hshape
    repeat rw [if_neg (by omega)] at hshape
    cases hshape
  unfold classify
  rw [toNat_toUInt8 hlead, if_neg hmulti, hshape]
  dsimp only
  rw [toNat_toUInt8 hsecond, if_pos (by simp [hlow, hhigh]), Nat.add_sub_cancel_left]

private theorem continuation_succ (acc size need : Nat) {d : Nat} (h : d < 64) (bs : List UInt8) :
    continuation acc size (need + 1) ((0x80 + d).toUInt8 :: bs) =
      continuation (acc * 64 + d) (size + 1) need bs := by
  rw [continuation, toNat_toUInt8 (by omega), if_pos (by simp; omega), Nat.add_sub_cancel_left]

/-- A text that begins with the form of a character begins with this character. -/
theorem classify_encodeChar (c : Char) (rest : List UInt8) :
    ∃ b bs, encodeChar c = b :: bs ∧
      classify b (bs ++ rest) = .char c (encodeChar c).length := by
  have hvalid : c.toNat < 0xd800 ∨ 0xdfff < c.toNat ∧ c.toNat < 0x110000 := c.valid
  have hc : Char.ofNat c.toNat = c := Char.ofNat_toNat c
  unfold encodeChar
  generalize c.toNat = n at hvalid hc
  dsimp only
  split
  · refine ⟨_, _, rfl, ?_⟩
    simp [classify, toNat_toUInt8 (n := n) (by omega), *]
  split
  · refine ⟨_, _, rfl, ?_⟩
    have hn : n / 64 * 64 + n % 64 = n := by omega
    rw [List.cons_append, classify_lead (by omega) (leadShape_two (by omega) (by omega)) (by omega)
      (by omega) (by omega), continuation, hn, hc]
    rfl
  split
  · obtain ⟨low, high, hshape, hlow, hhigh⟩ := leadShape_three (n := n) (by omega) ‹_› (by omega)
    refine ⟨_, _, rfl, ?_⟩
    have hn : (n / 4096 * 64 + n / 64 % 64) * 64 + n % 64 = n := by omega
    rw [List.cons_append, classify_lead (by omega) hshape (by omega) hlow hhigh, List.cons_append,
      continuation_succ _ _ _ (Nat.mod_lt _ (by omega)), continuation, hn, hc]
    rfl
  · obtain ⟨low, high, hshape, hlow, hhigh⟩ := leadShape_four (n := n) (by omega) (by omega)
    refine ⟨_, _, rfl, ?_⟩
    have hn : ((n / 262144 * 64 + n / 4096 % 64) * 64 + n / 64 % 64) * 64 + n % 64 = n := by omega
    rw [List.cons_append, classify_lead (by omega) hshape (by omega) hlow hhigh, List.cons_append,
      continuation_succ _ _ _ (Nat.mod_lt _ (by omega)), List.cons_append,
      continuation_succ _ _ _ (Nat.mod_lt _ (by omega)), continuation, hn, hc]
    rfl

theorem decodePieces_drop (n : Nat) (bs : List UInt8) :
    decodePieces n bs = decodePieces 0 (bs.drop n) := by
  induction n generalizing bs with
  | zero => rfl
  | succ n ih =>
    cases bs with
    | nil => simp [decodePieces]
    | cons b bs => rw [decodePieces, List.drop_succ_cons, ih]

theorem decodePieces_encodeChar (c : Char) (rest : List UInt8) :
    decodePieces 0 (encodeChar c ++ rest) = some c :: decodePieces 0 rest := by
  obtain ⟨b, bs, hencode, hclass⟩ := classify_encodeChar c rest
  rw [hencode, List.cons_append, decodePieces, hclass]
  dsimp only
  rw [hencode, List.length_cons, Nat.add_sub_cancel, decodePieces_drop, List.drop_left]

theorem decodePieces_encode (cs : List Char) : decodePieces 0 (encode cs) = cs.map some := by
  induction cs with
  | nil => rfl
  | cons c cs ih =>
    rw [encode, List.flatMap_cons, decodePieces_encodeChar, ← encode, ih, List.map_cons]

/-- **What is written as UTF-8 is read back.** -/
theorem decodeLossy_encode (cs : List Char) : decodeLossy (encode cs) = cs := by
  rw [decodeLossy, decodePieces_encode, List.map_map]
  exact List.map_id cs

/-- What is written as UTF-8 is well-formed. -/
theorem decode?_encode (cs : List Char) : decode? (encode cs) = some cs := by
  rw [decode?, decodePieces_encode]
  induction cs with
  | nil => rfl
  | cons c cs ih => rw [List.map_cons, List.mapM_cons, ih]; rfl

end StepFlow.Text.Utf8

namespace StepFlow.Text

/-- Without carriage returns all line ends are line feeds. -/
theorem normalizeNewlines_eq_self {cs : List Char} (h : '\r' ∉ cs) : normalizeNewlines cs = cs := by
  induction cs with
  | nil => rfl
  | cons c cs ih =>
    rw [List.mem_cons, not_or] at h
    rw [normalizeNewlines, ih h.2]
    · rintro _ rfl
      exact absurd rfl h.1
    · exact fun hc => h.1 hc.symm

end StepFlow.Text
