import StepFlow.Proofs.Failure.Reading
import StepFlow.Proofs.Run.Template

/-!
# The compact notation of failure policies

In the compact notation a retry is written `retry_step[…]`, and between the brackets stands the body
that tells the step: within quotes or without them, and with blanks around it. Here that notation is
given by a grammar, and the reader is shown to accept the texts of the grammar and no others.

The grammar leaves open how blanks next to the body are shared out: without quotes they may belong
to the body or stand around it, and a body of blanks alone has as many readings as it has blanks.
The reader settles on one of the readings, and it need not be the one at hand. That makes no
difference, since the target is read from the trimmed body, and all readings of a text that have a
target agree on that.

## Main definitions

* `Policy.Wrapped`, `Policy.RetryForm` — the grammar of compact retries
* `Policy.Legible` — bodies that tell a target
* `Policy.Compact` — what the compact notation comes to

## Main results

* `Policy.wrapped_of_body?` — what the reader takes for a body is one
* `Policy.exists_body?_of_wrapped` — the reader finds a body where there is one
* `Policy.read_compact` — the notation, and its agreement with the structured one
-/

namespace StepFlow

namespace Policy

open Template (Quoting)
open Text (takeWhile_dropWhile_append)
open Text (isBlank isDecimal isDigitLike trim trimRight)

/-! ### The grammar -/

/-- What stands between the brackets: a body, in quotes or without them, between blanks. -/
inductive Wrapped (body : List Char) : List Char → Prop
  | intro (quoting : Quoting) {before after : List Char} :
      (∀ c ∈ before, isBlank c = true) → (∀ c ∈ after, isBlank c = true) →
      (∀ c ∈ body, isNameChar c = true) →
      Wrapped body (before ++ (quoting.mark ++ (body ++ (quoting.mark ++ after))))

/-- The text of a compact retry. -/
inductive RetryForm (body : List Char) : List Char → Prop
  | intro {inner : List Char} : Wrapped body inner →
      RetryForm body ("retry_step[".toList ++ (inner ++ [']']))

/-- A body tells a target: it is not blank, and if it is made of signs for digits, they are a
numeral. -/
def Legible (body : List Char) : Prop :=
  trim body ≠ [] ∧
    ((∀ c ∈ trim body, isDigitLike c = true) → ∃ n, readInteger (trim body) = .ok n)

variable {body inner cs : List Char}

theorem legible_iff_exists_denotes :
    Legible body ↔ ∃ target, Denotes (trim body) target := by
  have htrim := Text.trim_trim body
  constructor
  · rintro ⟨hne, hnumeral⟩
    by_cases hdigits : ∀ c ∈ trim body, isDigitLike c = true
    · obtain ⟨n, hn⟩ := hnumeral hdigits
      obtain ⟨hdecimal, hlength, -⟩ := (readInteger_ok_iff hne hdigits htrim).mp hn
      exact ⟨_, .index hne hdecimal hlength⟩
    · exact ⟨_, .name (by simpa using hdigits)⟩
  · rintro ⟨target, hdenotes⟩
    generalize hds : trim body = ds at hdenotes
    rw [Legible, hds]
    cases hdenotes with
    | index hne hdecimal hlength =>
      exact ⟨hne, fun _ => ⟨_, readInteger_digits hne hdecimal hlength⟩⟩
    | name hname =>
      obtain ⟨c, hc, hno⟩ := hname
      refine ⟨List.ne_nil_of_mem hc, fun hdigits => ?_⟩
      rw [hdigits c hc] at hno
      cases hno

/-- Signs for digits tell a target when they are a numeral that is not too long. -/
theorem legible_iff_of_digitLike (hdigits : ∀ c ∈ trim body, isDigitLike c = true) :
    Legible body ↔ trim body ≠ [] ∧ (∀ c ∈ trim body, isDecimal c = true) ∧
      (trim body).length ≤ digitLimit := by
  have htrim := Text.trim_trim body
  constructor
  · rintro ⟨hne, hnumeral⟩
    obtain ⟨n, hn⟩ := hnumeral hdigits
    obtain ⟨hdecimal, hlength, -⟩ := (readInteger_ok_iff hne hdigits htrim).mp hn
    exact ⟨hne, hdecimal, hlength⟩
  · rintro ⟨hne, hdecimal, hlength⟩
    exact ⟨hne, fun _ => ⟨_, readInteger_digits hne hdecimal hlength⟩⟩

/-! ### The reader against the grammar -/

theorem bracketed?_eq_some_iff :
    bracketed? cs = some inner ↔ cs = "retry_step[".toList ++ (inner ++ [']']) := by
  constructor
  · intro h
    obtain ⟨rest, hrest, h⟩ := Option.bind_eq_some_iff.mp h
    rw [Text.after?_eq_some_iff.mp hrest]
    split at h
    · rename_i reversed hreverse
      cases h
      rw [List.reverse_eq_cons_iff.mp hreverse]
    · cases h
  · rintro rfl
    simp only [bracketed?, Text.after?_append, Option.bind_eq_bind, Option.bind_some,
      List.reverse_append, List.reverse_singleton, List.singleton_append, List.reverse_reverse]

/-- A blank may stand in the body. -/
theorem isNameChar_of_isBlank {c : Char} (h : isBlank c = true) : isNameChar c = true := by
  refine isNameChar_iff.mpr ⟨?_, ?_, ?_, ?_⟩
  all_goals rintro rfl; revert h; decide

theorem isQuote_of_isNameChar {c : Char} (h : isNameChar c = true) : isQuote c = false := by
  obtain ⟨hsingle, hdouble, -⟩ := isNameChar_iff.mp h
  simp [isQuote, hsingle, hdouble]

/-- Each quote is one of the two ways of quoting. -/
theorem exists_quoting {q : Char} (h : isQuote q = true) :
    ∃ quoting : Quoting, quoting.mark = [q] := by
  rcases isQuote_iff.mp h with rfl | rfl
  · exact ⟨.single, rfl⟩
  · exact ⟨.double, rfl⟩

/-- Of blanks alone, the last is taken for the body. -/
theorem exists_of_body?_blank (hdrop : inner.dropWhile isBlank = []) (h : body? inner = some body) :
    ∃ init c, inner = init ++ [c] ∧ body = [c] := by
  rw [body?, hdrop] at h
  obtain ⟨c, hlast, rfl⟩ := Option.map_eq_some_iff.mp h
  obtain ⟨init, rfl⟩ := List.getLast?_eq_some_iff.mp hlast
  exact ⟨init, c, rfl, rfl⟩

variable {q : Char} {rest : List Char}

/-- Behind a quote, the body goes to the same quote. -/
theorem exists_of_body?_quoted (hdrop : inner.dropWhile isBlank = q :: rest)
    (hquote : isQuote q = true) (h : body? inner = some body) :
    ∃ after, (∀ c ∈ after, isBlank c = true) ∧ (∀ c ∈ body, isNameChar c = true) ∧
      rest = body ++ q :: after := by
  have hrest := List.takeWhile_append_dropWhile (p := isNameChar) (l := rest)
  simp only [body?, hdrop, hquote, if_true, List.span_eq_takeWhile_dropWhile] at h
  split at h
  · rename_i name close after hspan
    obtain ⟨hname, hclose⟩ := Prod.mk.inj hspan
    split at h
    · rename_i hclosed
      simp only [Bool.and_eq_true, decide_eq_true_eq, List.all_eq_true] at hclosed
      obtain ⟨⟨-, rfl⟩, hafter⟩ := hclosed
      obtain rfl := Option.some.inj h
      refine ⟨after, hafter, fun c hc => List.mem_takeWhile_imp (hname ▸ hc), ?_⟩
      rw [← hrest, hname, hclose]
    · cases h
  · cases h

/-- Without a quote, the body is all but the last blanks. -/
theorem exists_of_body?_plain (hdrop : inner.dropWhile isBlank = q :: rest)
    (hquote : isQuote q = false) (h : body? inner = some body) :
    ∃ after, (∀ c ∈ after, isBlank c = true) ∧ (∀ c ∈ body, isNameChar c = true) ∧
      q :: rest = body ++ after := by
  simp only [body?, hdrop, hquote, Bool.false_eq_true, if_false] at h
  split at h
  · rename_i hname
    obtain rfl := Option.some.inj h
    obtain ⟨after, hafter, hrest⟩ := Text.exists_eq_trimRight_append (q :: rest)
    exact ⟨after, hafter, List.all_eq_true.mp hname, hrest⟩
  · cases h

/-- **What the reader takes for a body is one.** -/
theorem wrapped_of_body? (h : body? inner = some body) : Wrapped body inner := by
  have hbefore : ∀ c ∈ inner.takeWhile isBlank, isBlank c = true := fun c hc =>
    List.mem_takeWhile_imp hc
  have hinner := List.takeWhile_append_dropWhile (p := isBlank) (l := inner)
  cases hdrop : inner.dropWhile isBlank with
  | nil =>
    have hall := List.dropWhile_eq_nil_iff.mp hdrop
    obtain ⟨init, c, rfl, rfl⟩ := exists_of_body?_blank hdrop h
    refine @Wrapped.intro _ .plain init [] (fun d hd => hall d ?_) nofun fun d hd => ?_
    · exact List.mem_append_left _ hd
    · exact isNameChar_of_isBlank (hall d (List.mem_append_right _ hd))
  | cons q rest =>
    rw [← hinner, hdrop]
    cases hquote : isQuote q with
    | true =>
      obtain ⟨after, hafter, hbody, rfl⟩ := exists_of_body?_quoted hdrop hquote h
      obtain ⟨quoting, hmark⟩ := exists_quoting hquote
      have hform := Wrapped.intro quoting hbefore hafter hbody
      rwa [hmark] at hform
    | false =>
      obtain ⟨after, hafter, hbody, heq⟩ := exists_of_body?_plain hdrop hquote h
      rw [heq]
      exact .intro .plain hbefore hafter hbody

/-- A body within quotes is found as it stands. -/
theorem body?_quoted {before after : List Char} (hquote : isQuote q = true)
    (hbefore : ∀ c ∈ before, isBlank c = true) (hafter : ∀ c ∈ after, isBlank c = true)
    (hne : body ≠ []) (hbody : ∀ c ∈ body, isNameChar c = true) :
    body? (before ++ q :: (body ++ q :: after)) = some body := by
  have hsolid : isBlank q = false ∧ isNameChar q = false := by
    rcases isQuote_iff.mp hquote with rfl | rfl <;> decide
  have hspan : (body ++ q :: after).span isNameChar = (body, q :: after) := by
    rw [List.span_eq_takeWhile_dropWhile]
    exact Prod.ext_iff.mpr (takeWhile_dropWhile_append hbody hsolid.2)
  rw [body?, (takeWhile_dropWhile_append hbefore hsolid.1).2]
  simp only [hquote, hspan, if_true]
  rw [if_pos]
  simpa [hne] using hafter

/-- A body without quotes is found without the blanks around it. -/
theorem body?_plain {before after : List Char} (hbefore : ∀ c ∈ before, isBlank c = true)
    (hafter : ∀ c ∈ after, isBlank c = true) (hne : trim body ≠ [])
    (hbody : ∀ c ∈ body, isNameChar c = true) :
    body? (before ++ (body ++ after)) = some (trim body) := by
  have htrim : trim (before ++ (body ++ after)) = trim body := by
    rw [Text.trim_blank_append hbefore, Text.trim_append_blank _ hafter]
  cases hdrop : (before ++ (body ++ after)).dropWhile isBlank with
  | nil =>
    rw [trim, hdrop] at htrim
    exact absurd htrim.symm hne
  | cons q rest =>
    rw [trim, hdrop] at htrim
    have hnames : ∀ c ∈ trim body, isNameChar c = true := fun c hc =>
      hbody c (Text.mem_of_mem_trim hc)
    have hq : q ∈ trim body := by
      have hsolid := List.head?_dropWhile_not isBlank (before ++ (body ++ after))
      rw [hdrop] at hsolid
      rw [← htrim, Text.trimRight_cons (by simpa using hsolid)]
      exact List.mem_cons_self
    rw [body?, hdrop]
    simp only [isQuote_of_isNameChar (hnames q hq), htrim, Bool.false_eq_true, if_false]
    rw [if_pos (List.all_eq_true.mpr hnames)]

/-- **The reader finds a body where there is one.** It may have fewer blanks around it. -/
theorem exists_body?_of_wrapped (h : Wrapped body inner) (hne : trim body ≠ []) :
    ∃ found, body? inner = some found ∧ trim found = trim body := by
  have hsome : body ≠ [] := by
    rintro rfl
    exact hne rfl
  cases h with
  | intro quoting hbefore hafter hbody =>
    cases quoting with
    | plain =>
      refine ⟨_, ?_, Text.trim_trim body⟩
      exact body?_plain hbefore hafter hne hbody
    | double => exact ⟨_, body?_quoted rfl hbefore hafter hsome hbody, rfl⟩
    | single => exact ⟨_, body?_quoted rfl hbefore hafter hsome hbody, rfl⟩

/-- A compact retry that tells a target is found, and the found body tells the same target. -/
theorem exists_compact?_of_form (h : RetryForm body cs) (hne : trim body ≠ []) :
    ∃ found, compact? cs = some found ∧ trim found = trim body := by
  cases h with
  | intro hwrapped =>
    obtain ⟨found, hfound, htrim⟩ := exists_body?_of_wrapped hwrapped hne
    refine ⟨found, ?_, htrim⟩
    rw [compact?, bracketed?_eq_some_iff.mpr rfl]
    exact hfound

theorem form_of_compact? (h : compact? cs = some body) : RetryForm body cs := by
  obtain ⟨inner, hinner, hbody⟩ := Option.bind_eq_some_iff.mp h
  rw [bracketed?_eq_some_iff.mp hinner]
  exact .intro (wrapped_of_body? hbody)

/-! ### What the notation comes to -/

variable {own : Option Int} {raw : String}

theorem read_of_readCompact {action : FailureAction} (h : readCompact raw = .ok action) :
    read own (.str raw) = .ok (some action) :=
  map_some_eq_ok_iff.mpr ⟨action, rfl, h⟩

theorem readCompact_of_continue (h : trim raw.toList = "continue".toList) :
    readCompact raw = .ok .proceed :=
  readCompact_eq_ok_iff.mpr (.inl ⟨h, rfl⟩)

theorem readCompact_of_stop (h : trim raw.toList = "stop".toList) : readCompact raw = .ok .stop :=
  readCompact_eq_ok_iff.mpr (.inr (.inl ⟨h, rfl⟩))

/-- **A compact retry that tells a target is read as a retry of it**, made once and at once. -/
theorem readCompact_of_form {target : RetryTarget} (h : RetryForm body (trim raw.toList))
    (hdenotes : Denotes (trim body) target) : readCompact raw = .ok (.retry target 1 0) := by
  obtain ⟨hne, -⟩ := legible_iff_exists_denotes.mpr ⟨target, hdenotes⟩
  obtain ⟨found, hfound, htrim⟩ := exists_compact?_of_form h hne
  rw [← htrim] at hdenotes
  exact readCompact_eq_ok_iff.mpr (.inr (.inr ⟨found, target, hfound, hdenotes, rfl⟩))

/-- The structured form of a compact retry. -/
def structuredRetry (body : List Char) : Value :=
  .map [(.str "action", .str "retry"), (.str "retry_step", .str (String.ofList body))]

theorem read_structuredRetry {target : RetryTarget} (h : Denotes (trim body) target) :
    read own (structuredRetry body) = .ok (some (.retry target 1 0)) := by
  refine map_some_eq_ok_iff.mpr ⟨_, rfl, readMapping_eq_ok_iff.mpr ?_⟩
  refine .retry rfl ?_ ⟨rfl, Int.le_refl 1⟩ ⟨rfl, Int.le_refl 0⟩
  exact .str (by rwa [String.toList_ofList])

/-- What the compact notation comes to. `own` is the position of the step that declares the text,
which plays no part. -/
structure Compact (own : Option Int) (raw : String) : Prop where
  /-- The texts that are read: the two words, and retries with a legible body. -/
  accepted : (∃ answer, read own (.str raw) = .ok answer) ↔
    trim raw.toList = "continue".toList ∨ trim raw.toList = "stop".toList ∨
      ∃ body, RetryForm body (trim raw.toList) ∧ Legible body
  /-- A body of signs for digits is legible when they are decimal and not too many. -/
  numerals : ∀ body, (∀ c ∈ trim body, isDigitLike c = true) → (Legible body ↔
    trim body ≠ [] ∧ (∀ c ∈ trim body, isDecimal c = true) ∧ (trim body).length ≤ digitLimit)
  /-- The two words. -/
  words : (trim raw.toList = "continue".toList → read own (.str raw) = .ok (some .proceed)) ∧
    (trim raw.toList = "stop".toList → read own (.str raw) = .ok (some .stop))
  /-- A retry is read as its structured form is: it is made once and at once. -/
  retries : ∀ body, RetryForm body (trim raw.toList) → Legible body →
    (∀ own', read own (.str raw) = read own' (structuredRetry body)) ∧
      ∃ target, read own (.str raw) = .ok (some (.retry target 1 0))
  /-- Every other text is a value error. -/
  refused : ∀ e, read own (.str raw) = .error e → e.label = "ValueError"

/-- **The compact notation is the one that the grammar gives**, and it says the same as the
structured notation. -/
theorem read_compact (own : Option Int) (raw : String) : Compact own raw where
  accepted := by
    constructor
    · rintro ⟨answer, h⟩
      obtain ⟨action, -, h⟩ := map_some_eq_ok_iff.mp h
      obtain ⟨hword, -⟩ | ⟨hword, -⟩ | ⟨body, target, hbody, hdenotes, -⟩ :=
        readCompact_eq_ok_iff.mp h
      · exact .inl hword
      · exact .inr (.inl hword)
      · exact .inr (.inr ⟨body, form_of_compact? hbody,
          legible_iff_exists_denotes.mpr ⟨target, hdenotes⟩⟩)
    · rintro (hword | hword | ⟨body, hform, hlegible⟩)
      · exact ⟨_, read_of_readCompact (readCompact_of_continue hword)⟩
      · exact ⟨_, read_of_readCompact (readCompact_of_stop hword)⟩
      · obtain ⟨target, hdenotes⟩ := legible_iff_exists_denotes.mp hlegible
        exact ⟨_, read_of_readCompact (readCompact_of_form hform hdenotes)⟩
  numerals := fun body hdigits => legible_iff_of_digitLike hdigits
  words := ⟨fun hword => read_of_readCompact (readCompact_of_continue hword),
    fun hword => read_of_readCompact (readCompact_of_stop hword)⟩
  retries := fun body hform hlegible => by
    obtain ⟨target, hdenotes⟩ := legible_iff_exists_denotes.mp hlegible
    have hread : read own (.str raw) = .ok (some (.retry target 1 0)) :=
      read_of_readCompact (readCompact_of_form hform hdenotes)
    refine ⟨fun own' => ?_, target, hread⟩
    rw [hread, read_structuredRetry hdenotes]
  refused := (read_fails own (.str raw)).mono fun e he => he.resolve_right fun ⟨_, hdeep⟩ => by
    simp [Value.opened, Value.nesting] at hdeep

end Policy

end StepFlow
