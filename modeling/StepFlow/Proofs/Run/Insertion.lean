import StepFlow.Proofs.Run.Template

/-!
# Text that templates insert

A placeholder is replaced in a pass of its own, and the passes after it go over what has been
inserted. So the input or the output of an attempt comes through a template as it is only if these
passes leave it alone. In general they do not: an input that mentions `$previous_output` loses these
words, whoever has written them.

`resolve_placeholder` says exactly what a template that is nothing but a placeholder resolves to:
the text that the placeholder denotes, with the later passes made over it. The passes before its own
leave the placeholder alone, as long as nothing in the name of a step looks like one of theirs.

## When text is left alone

A pass leaves a text as it is when each of the references that it finds there stands for itself.
There may be none at all, as in a text without dollar signs; and a reference to a variable that is
not bound stands for itself too.

## Main definitions

* `Pass`, `passes` — the passes as substitutions, in their order
* `finish` — what the passes after the first ones make of a text
* `Pass.Leaves`, `Inert` — references that stand for themselves
* `Placeholder.Intact` — earlier passes do not get at a placeholder

## Main results

* `resolveChars_eq_finish` — resolving a template is making all passes
* `inert_of_dollar_not_mem`, `inert_of_unbound` — two ways for a text to be left alone
* `Placeholder.resolveChars_chars` — a placeholder reaches its own pass
* `resolve_variable` — a reference to a variable resolves to what it inserts
* `resolve_placeholder` — what a placeholder resolves to, and when that is what it denotes
* `not_verbatim_forgotten` — an input that a later pass erases
-/

namespace StepFlow

namespace Text

variable {α ε : Type} {find : List Char → Option (α × Nat)}
  {value : α → Except ε (List Char)}

/-- A text is left as it is when every reference in it stands for itself. -/
theorem substitute_of_stands {cs : List Char}
    (h : ∀ d, d <:+ cs → ∀ a n, find d = some (a, n) →
      0 < n ∧ n ≤ d.length ∧ value a = .ok (d.take n)) :
    substitute find value cs = .ok cs := by
  induction hlength : cs.length using Nat.strongRecOn generalizing cs with
  | ind length ih =>
    cases cs with
    | nil => exact substitute_nil find value
    | cons c rest =>
      have hrest {tail : List Char} (htail : tail <:+ rest) :
          substitute find value tail = .ok tail := by
        refine ih tail.length ?_ (fun d hd => ?_) rfl
        · rw [← hlength, List.length_cons]
          exact Nat.lt_succ_of_le htail.length_le
        · exact h d ((hd.trans htail).trans (List.suffix_cons c rest))
      cases hfind : find (c :: rest) with
      | none => exact substitute_cons hfind (hrest (List.suffix_refl rest))
      | some found =>
        obtain ⟨a, n⟩ := found
        obtain ⟨hpos, hle, hvalue⟩ := h _ (List.suffix_refl _) a n hfind
        obtain ⟨m, rfl⟩ := Nat.exists_eq_succ_of_ne_zero (Nat.ne_of_gt hpos)
        -- the reference and what is behind it, put together again
        have hsplit : (c :: rest).take (m + 1) ++ (c :: rest).drop (m + 1) = c :: rest :=
          List.take_append_drop _ _
        have hlen : ((c :: rest).take (m + 1)).length = m + 1 := List.length_take_of_le hle
        have hstep : substitute find value ((c :: rest).take (m + 1) ++ (c :: rest).drop (m + 1)) =
            .ok ((c :: rest).take (m + 1) ++ (c :: rest).drop (m + 1)) :=
          substitute_reference (by rw [hsplit, hlen, hfind]) (by simp) hvalue
            (hrest (List.drop_suffix m rest))
        rwa [hsplit] at hstep

end Text

namespace Template

open Text

/-! ### The passes in their order -/

/-- A pass over a template: what it takes for a reference, and what it puts in its place. -/
structure Pass where
  Reference : Type
  find : List Char → Option (Reference × Nat)
  value : Reference → Except Fault (List Char)

/-- Make a pass. -/
def Pass.make (p : Pass) (cs : List Char) : Except Fault (List Char) :=
  substitute p.find p.value cs

/-- The five passes. -/
def passes (scope : Scope) : List Pass :=
  [⟨Unit, occurrence inputMark, fun _ => .ok scope.input.toList⟩,
    ⟨Unit, occurrence previousMark, fun _ => .ok scope.previous.toList⟩,
    ⟨List Char, findIndexed, indexedValue scope⟩,
    ⟨List Char, findNamed, fun name => .ok (scope.outputOf (String.ofList name)).toList⟩,
    ⟨List Char, findVariable, variableValue scope⟩]

/-- Make passes one after the other. -/
def makeAll (ps : List Pass) (cs : List Char) : Except Fault (List Char) :=
  ps.foldlM (fun cs p => p.make cs) cs

/-- What the passes after the first `made` ones make of a text. -/
def finish (scope : Scope) (made : Nat) (cs : List Char) : Except Fault (List Char) :=
  makeAll ((passes scope).drop made) cs

variable {scope : Scope}

theorem makeAll_cons {p : Pass} {cs cs' : List Char} (h : p.make cs = .ok cs') (ps : List Pass) :
    makeAll (p :: ps) cs = makeAll ps cs' := by
  rw [makeAll, List.foldlM_cons, h]
  rfl

/-- **Resolving a template is making all passes.** -/
theorem resolveChars_eq_finish (scope : Scope) (cs : List Char) :
    resolveChars scope cs = finish scope 0 cs := by
  have hmake (old new cs : List Char) :
      (⟨Unit, occurrence old, fun _ => .ok new⟩ : Pass).make cs = .ok (replaceAll old new cs) :=
    substitute_occurrence old new cs
  rw [finish, passes, List.drop_zero, makeAll_cons (hmake _ _ _), makeAll_cons (hmake _ _ _)]
  simp only [makeAll, List.foldlM_cons, List.foldlM_nil, Pass.make, bind_pure]
  rfl

/-- One pass more. -/
theorem finish_succ {made : Nat} {p : Pass} {cs cs' : List Char}
    (hp : (passes scope)[made]? = some p) (h : p.make cs = .ok cs') :
    finish scope made cs = finish scope (made + 1) cs' := by
  obtain ⟨hmade, rfl⟩ := List.getElem?_eq_some_iff.mp hp
  rw [finish, List.drop_eq_getElem_cons hmade, makeAll_cons h]
  rfl

/-! ### Text that is left alone -/

/-- A pass finds no reference in a text but such as stand for themselves. -/
def Pass.Leaves (p : Pass) (cs : List Char) : Prop :=
  ∀ d, d <:+ cs → ∀ a n, p.find d = some (a, n) →
    0 < n ∧ n ≤ d.length ∧ p.value a = .ok (d.take n)

/-- The passes after the first `made` ones find no references in a text but such as stand for
themselves. -/
def Inert (scope : Scope) (made : Nat) (cs : List Char) : Prop :=
  ∀ p ∈ (passes scope).drop made, p.Leaves cs

theorem Pass.leaves_of_find_eq_none {p : Pass} {cs : List Char}
    (h : ∀ d, d <:+ cs → p.find d = none) : p.Leaves cs := by
  intro d hd a n hfind
  cases (h d hd).symm.trans hfind

theorem Pass.make_of_leaves {p : Pass} {cs : List Char} (h : p.Leaves cs) : p.make cs = .ok cs :=
  substitute_of_stands h

/-- A pass that finds a reference which is the whole text. -/
theorem Pass.make_of_reference {p : Pass} {cs v : List Char} {a : p.Reference}
    (h : p.find cs = some (a, cs.length)) (hne : cs ≠ []) (hvalue : p.value a = .ok v) :
    p.make cs = .ok v := by
  have hwhole : substitute p.find p.value (cs ++ []) = .ok (v ++ []) :=
    substitute_reference (by rwa [List.append_nil]) hne hvalue (substitute_nil _ _)
  rwa [List.append_nil, List.append_nil] at hwhole

theorem makeAll_of_leaves {ps : List Pass} {cs : List Char} (h : ∀ p ∈ ps, p.Leaves cs) :
    makeAll ps cs = .ok cs := by
  induction ps with
  | nil => rfl
  | cons p ps ih =>
    rw [makeAll_cons (Pass.make_of_leaves (h p List.mem_cons_self))]
    exact ih fun p hp => h p (List.mem_cons_of_mem _ hp)

theorem find_nil {p : Pass} (hp : p ∈ passes scope) : p.find [] = none := by
  simp only [passes, List.mem_cons, List.not_mem_nil, or_false] at hp
  rcases hp with rfl | rfl | rfl | rfl | rfl <;> rfl

/-- Text without dollar signs is left alone once the input has been inserted. -/
theorem inert_of_dollar_not_mem {cs : List Char} {made : Nat} (hmade : 0 < made) (h : '$' ∉ cs) :
    Inert scope made cs := by
  intro p hp
  have hlater : p ∈ (passes scope).drop 1 := List.drop_subset_drop_left _ hmade hp
  refine p.leaves_of_find_eq_none fun d hd => ?_
  cases d with
  | nil => exact find_nil (List.mem_of_mem_drop hp)
  | cons c tail =>
    have hc : c ≠ '$' := fun hc => h (hd.subset (by simp [hc]))
    simp only [passes, List.drop_succ_cons, List.drop_zero, List.mem_cons, List.not_mem_nil,
      or_false] at hlater
    rcases hlater with rfl | rfl | rfl | rfl
    · exact occurrence_previous_of_ne tail hc
    · exact findIndexed_of_ne tail hc
    · exact findNamed_of_ne tail hc
    · exact findVariable_of_ne tail hc

/-- A text is left alone where the one to be replaced does not occur. -/
theorem Pass.leaves_of_not_infix {old new cs : List Char} (h : ¬old <:+: cs) :
    (⟨Unit, occurrence old, fun _ => .ok new⟩ : Pass).Leaves cs := by
  refine Pass.leaves_of_find_eq_none fun d hd => occurrence_eq_none_iff.mpr fun hold => ?_
  exact h (hold.isInfix.trans hd.isInfix)

/-- What the last pass takes for a reference is a variable as it is written. -/
theorem findVariable_eq_some {cs name : List Char} {n : Nat}
    (h : findVariable cs = some (name, n)) :
    ∃ rest, cs = variableMark name ++ rest ∧ n = (variableMark name).length := by
  simp only [findVariable, Option.bind_eq_bind, Option.bind_eq_some_iff,
    List.span_eq_takeWhile_dropWhile] at h
  obtain ⟨body, hbody, h⟩ := h
  split at h
  · simp at h
  · simp only [Option.bind_eq_some_iff, Option.pure_def, Option.some.injEq, Prod.mk.injEq] at h
    obtain ⟨rest, hrest, rfl, rfl⟩ := h
    rw [after?_eq_some_iff] at hbody hrest
    have hsplit := List.takeWhile_append_dropWhile (p := (· ≠ '\x7d')) (l := body)
    rw [hrest] at hsplit
    refine ⟨rest, ?_, by simp [variableMark]⟩
    conv_lhs => rw [hbody, ← hsplit]
    simp [variableMark]

/-- The last pass leaves variables that are not bound as they are written. -/
theorem inert_of_unbound {cs : List Char}
    (h : ∀ d, d <:+ cs → ∀ name n, findVariable d = some (name, n) →
      Value.lookup? (String.ofList name) scope.vars = none) : Inert scope 4 cs := by
  intro p hp d hd name n hfind
  obtain rfl := List.mem_singleton.mp hp
  obtain ⟨rest, rfl, rfl⟩ := findVariable_eq_some hfind
  refine ⟨Nat.succ_pos _, by simp, ?_⟩
  rw [List.take_left]
  simp only [variableValue, h _ hd _ _ hfind]
  rfl

/-! ### Placeholders that reach their own pass -/

/-- A text without a certain character lies on one side of it. -/
theorem prefix_of_prefix_append_cons {old a b : List Char} {c : Char} (hc : c ∉ old)
    (h : old <+: a ++ c :: b) : old <+: a := by
  have hac : a ++ [c] <+: a ++ c :: b := ⟨b, by simp⟩
  rcases List.prefix_or_prefix_of_prefix h hac with hold | hold
  · rcases List.prefix_concat_iff.mp hold with rfl | hold
    · exact absurd (by simp) hc
    · exact hold
  · exact absurd (hold.subset (by simp)) hc

theorem infix_append_cons {old a b : List Char} {c : Char} (hc : c ∉ old)
    (h : old <:+: a ++ c :: b) : old <:+: a ∨ old <:+: b := by
  induction a with
  | nil =>
    rcases List.infix_cons_iff.mp h with hold | hold
    · exact .inl (prefix_of_prefix_append_cons (a := []) hc hold).isInfix
    · exact .inr hold
  | cons x a ih =>
    rcases List.infix_cons_iff.mp h with hold | hold
    · exact .inl (prefix_of_prefix_append_cons (a := x :: a) hc hold).isInfix
    · exact (ih hold).imp_left fun hold => List.infix_cons hold

namespace Placeholder

/-- The passes before its own do not get at the placeholder: a name has no quotes or brackets, and
nothing in it looks like the input or the last output. Variables, whose pass is the last one, are
left out. -/
def Intact : Placeholder → Prop
  | input | previous => True
  | output digits => (output digits).WellFormed
  | outputOf quoting name =>
    name ≠ [] ∧ (∀ c ∈ name, Policy.isNameChar c = true) ∧
      (¬inputMark <:+: name ∧ ¬previousMark <:+: name) ∧
      (quoting = .plain → ∃ c ∈ name, isDecimal c = false)
  | var _ => False

/-- Of the texts that the first two passes replace, what stands in a reference to a step stands
between its brackets. -/
theorem infix_of_infix_step {old cs : List Char} (hold : old = inputMark ∨ old = previousMark)
    (h : old <:+: stepMark ++ (cs ++ outputMark)) : old <:+: cs := by
  have hbrackets : '[' ∉ old ∧ ']' ∉ old := by rcases hold with rfl | rfl <;> decide
  have hlong : 7 < old.length := by rcases hold with rfl | rfl <;> decide
  have hstep : stepMark = ['$', 's', 't', 'e', 'p'] ++ ['['] := by decide
  rw [hstep, outputMark_eq, List.append_assoc, List.singleton_append] at h
  rcases infix_append_cons hbrackets.1 h with hbefore | h
  · exact absurd hbefore.length_le (by simp only [List.length_cons, List.length_nil]; omega)
  rcases infix_append_cons hbrackets.2 h with hinside | hbehind
  · exact hinside
  · exact absurd hbehind.length_le (Nat.not_le.mpr (Nat.lt_of_le_of_lt (by decide) hlong))

/-- The first two passes find nothing in a placeholder of a later pass. -/
theorem Intact.not_infix {p : Placeholder} (hp : p.Intact) (hpass : 2 < p.pass) {old : List Char}
    (hold : old = inputMark ∨ old = previousMark) : ¬old <:+: p.chars := by
  cases p with
  | input => exact absurd hpass (by decide)
  | previous => exact absurd hpass (by decide)
  | output digits =>
    intro h
    have hletter : 'p' ∈ old := by rcases hold with rfl | rfl <;> decide
    exact absurd (hp.2.2 _ ((infix_of_infix_step hold h).subset hletter)) (by decide)
  | outputOf quoting name =>
    obtain ⟨-, -, ⟨hinput, hprevious⟩, -⟩ := hp
    have hname : ¬old <:+: name := by
      rcases hold with rfl | rfl
      · exact hinput
      · exact hprevious
    have hquotes : '"' ∉ old ∧ '\'' ∉ old := by rcases hold with rfl | rfl <;> decide
    have hquoted {c : Char} (hc : c ∉ old) : ¬old <:+: [c] ++ (name ++ [c]) := by
      intro h
      rcases infix_append_cons (a := []) hc h with h | h
      · exact hname (h.trans (List.nil_infix))
      · rcases infix_append_cons hc h with h | h
        · exact hname h
        · exact hname (h.trans List.nil_infix)
    intro h
    have hinside : old <:+: quoting.mark ++ (name ++ quoting.mark) := by
      refine infix_of_infix_step hold ?_
      simpa only [chars, List.append_assoc] using h
    cases quoting with
    | plain => exact hname (by simpa [Quoting.mark] using hinside)
    | double => exact hquoted hquotes.1 hinside
    | single => exact hquoted hquotes.2 hinside
  | var name => exact absurd hp id

/-- A name is no reference to an attempt by its number, and in the rest of it none begins. -/
theorem findIndexed_eq_none_of_suffix {quoting : Quoting} {name d : List Char}
    (hp : (outputOf quoting name).Intact) (hd : d <:+ (outputOf quoting name).chars) :
    findIndexed d = none := by
  obtain ⟨-, hname, -, hplain⟩ := hp
  have hstep : stepMark = ['$', 's', 't', 'e', 'p', '['] := by decide
  have hwhole := findIndexed_outputOf hname hplain []
  have hbracket : '[' ∉ quoting.mark ++ (name ++ (quoting.mark ++ outputMark)) := by
    have hin : '[' ∉ name := fun h => absurd (hname _ h) (by decide)
    simp only [List.mem_append, hin, false_or]
    cases quoting <;> decide
  rw [List.append_nil] at hwhole
  rw [chars] at hd hwhole
  generalize quoting.mark ++ (name ++ (quoting.mark ++ outputMark)) = behind at hd hwhole hbracket
  cases d with
  | nil => rfl
  | cons c tail =>
    by_cases hc : c = '$'
    · subst hc
      rw [hstep] at hd hwhole
      rcases List.suffix_cons_iff.mp hd with h | h
      · rw [h]
        exact hwhole
      · have hlate : '$' :: tail <:+ behind := by simpa [List.suffix_cons_iff] using h
        have hnone : after? stepMark ('$' :: tail) = none := by
          refine after?_eq_none_iff.mpr fun h => hbracket ?_
          exact hlate.subset (h.subset (by decide))
        rw [findIndexed, hnone]
        rfl
    · exact findIndexed_of_ne tail hc

/-- **A placeholder is made into the text that it denotes**, with the later passes made over it. -/
theorem resolveChars_chars {p : Placeholder} (hp : p.Intact) (scope : Scope) :
    resolveChars scope p.chars = finish scope p.pass (p.text scope) := by
  rw [resolveChars_eq_finish]
  cases p with
  | input =>
    refine finish_succ rfl (Pass.make_of_reference (a := ()) ?_ (by decide) rfl)
    simpa [chars] using occurrence_append inputMark []
  | previous =>
    rw [finish_succ rfl (Pass.make_of_leaves (Pass.leaves_of_not_infix ?_))]
    · refine finish_succ rfl (Pass.make_of_reference (a := ()) ?_ (by decide) rfl)
      simpa [chars] using occurrence_append previousMark []
    · intro h
      exact absurd (h.subset (a := '\x7b') (by decide)) (by decide)
  | output digits =>
    rw [finish_succ rfl (Pass.make_of_leaves (Pass.leaves_of_not_infix
        (hp.not_infix (Nat.lt_succ_self 2) (.inl rfl)))),
      finish_succ rfl (Pass.make_of_leaves (Pass.leaves_of_not_infix
        (hp.not_infix (Nat.lt_succ_self 2) (.inr rfl))))]
    refine finish_succ rfl (Pass.make_of_reference ?_ (by simp [chars, stepMark_eq])
      (indexedValue_digits hp))
    simpa using findIndexed_output hp.1 hp.2.2 []
  | outputOf quoting name =>
    rw [finish_succ rfl (Pass.make_of_leaves (Pass.leaves_of_not_infix
        (hp.not_infix (Nat.lt_succ_of_lt (Nat.lt_succ_self 2)) (.inl rfl)))),
      finish_succ rfl (Pass.make_of_leaves (Pass.leaves_of_not_infix
        (hp.not_infix (Nat.lt_succ_of_lt (Nat.lt_succ_self 2)) (.inr rfl)))),
      finish_succ rfl (Pass.make_of_leaves (Pass.leaves_of_find_eq_none fun d hd =>
        findIndexed_eq_none_of_suffix hp hd))]
    refine finish_succ rfl
      (Pass.make_of_reference (a := name) ?_ (by simp [chars, stepMark_eq]) rfl)
    simpa using findNamed_outputOf hp.1 hp.2.1 []
  | var name => exact absurd hp id

end Placeholder

/-! ### Variables -/

/-- A pass leaves a reference alone in which nothing else can begin. -/
theorem Pass.leaves_dollar_cons {p : Pass} {tail : List Char} (hnil : p.find [] = none)
    (hplain : ∀ c cs, c ≠ '$' → p.find (c :: cs) = none) (hwhole : p.find ('$' :: tail) = none)
    (htail : '$' ∉ tail) : p.Leaves ('$' :: tail) := by
  refine Pass.leaves_of_find_eq_none fun d hd => ?_
  rcases List.suffix_cons_iff.mp hd with rfl | hd
  · exact hwhole
  · cases d with
    | nil => exact hnil
    | cons c d => exact hplain c d fun hc => htail (hd.subset (hc ▸ List.mem_cons_self))

/-- A reference to a variable reaches the last pass. -/
theorem resolveChars_variable {name cs : List Char} (hp : (Placeholder.var name).WellFormed)
    (hvalue : variableValue scope name = .ok cs) :
    resolveChars scope (Placeholder.var name).chars = .ok cs := by
  have hvar : Placeholder.var name ≠ .input := by rintro ⟨⟩
  obtain ⟨tail, hchars, htail⟩ := Placeholder.chars_eq_cons hp hvar
  have hinput : (⟨Unit, occurrence inputMark, fun _ => .ok scope.input.toList⟩ : Pass).Leaves
      (Placeholder.var name).chars := by
    refine Pass.leaves_of_find_eq_none fun d hd => ?_
    cases d with
    | nil => rfl
    | cons c d => simpa using occurrence_input_placeholder hp hvar [] hd
  have hprevious := occurrence_previous_eq_none (p := .var name) (show 2 < 5 by decide) []
  have hindexed := findIndexed_eq_none (p := .var name) (show 3 < 5 by decide) hp []
  have hnamed := findNamed_eq_none (p := .var name) (show 4 < 5 by decide) []
  have hfound := findVariable_var hp []
  rw [List.append_nil] at hprevious hindexed hnamed hfound
  -- the first four passes leave the reference as it is written
  rw [resolveChars_eq_finish, finish_succ rfl (Pass.make_of_leaves hinput)]
  rw [hchars] at hprevious hindexed hnamed hfound ⊢
  rw [finish_succ rfl (Pass.make_of_leaves (Pass.leaves_dollar_cons rfl
      (fun _ cs => occurrence_previous_of_ne cs) hprevious htail)),
    finish_succ rfl (Pass.make_of_leaves (Pass.leaves_dollar_cons rfl
      (fun _ cs => findIndexed_of_ne cs) hindexed htail)),
    finish_succ rfl (Pass.make_of_leaves (Pass.leaves_dollar_cons rfl
      (fun _ cs => findNamed_of_ne cs) hnamed htail))]
  exact finish_succ rfl (Pass.make_of_reference hfound (List.cons_ne_nil _ _) hvalue)

/-- **A reference to a variable resolves to what the variable inserts.** Its pass is the last one, so
that nothing is made of the text that has been inserted. -/
theorem resolve_variable {name : String} (hp : (Placeholder.var name.toList).WellFormed) {v : Value}
    {s : String} (hv : Value.lookup? name scope.vars = some v) (hs : v.insertion = .ok s) :
    resolve scope ("$\x7b" ++ name ++ "\x7d") = .ok s := by
  have hvalue : variableValue scope name.toList = .ok s.toList := by
    rw [variableValue, String.ofList_toList, hv]
    dsimp only
    rw [hs]
    rfl
  have hmark : ("$\x7b" ++ name ++ "\x7d").toList = (Placeholder.var name.toList).chars := by
    rw [String.toList_append, String.toList_append, List.append_assoc]
    rfl
  rw [resolve, hmark, resolveChars_variable hp hvalue]
  exact congrArg Except.ok String.ofList_toList

/-! ### Placeholders resolved -/

/-- **When a placeholder alone resolves to the text that it denotes.** What it resolves to is this
text with the later passes made over it. So it is the text itself just if these passes give it back,
as they do when every reference that they find in it stands for itself, and in particular when it
has no dollar sign. -/
theorem resolve_placeholder {p : Placeholder} (hp : p.Intact) (scope : Scope) :
    resolve scope (String.ofList p.chars) =
        (finish scope p.pass (p.text scope)).map String.ofList ∧
      (resolve scope (String.ofList p.chars) = .ok (String.ofList (p.text scope)) ↔
        finish scope p.pass (p.text scope) = .ok (p.text scope)) ∧
      (Inert scope p.pass (p.text scope) ∨ '$' ∉ p.text scope →
        resolve scope (String.ofList p.chars) = .ok (String.ofList (p.text scope))) := by
  have hresolve : resolve scope (String.ofList p.chars) =
      (finish scope p.pass (p.text scope)).map String.ofList := by
    rw [resolve, String.toList_ofList, Placeholder.resolveChars_chars hp]
    rfl
  have hiff : resolve scope (String.ofList p.chars) = .ok (String.ofList (p.text scope)) ↔
      finish scope p.pass (p.text scope) = .ok (p.text scope) := by
    rw [hresolve]
    cases hfinish : finish scope p.pass (p.text scope) with
    | error e => simp [Except.map]
    | ok text => simp [Except.map, String.ofList_inj]
  refine ⟨hresolve, hiff, fun hinert => hiff.mpr (makeAll_of_leaves ?_)⟩
  have hpass : 0 < p.pass := by cases p <;> exact Nat.succ_pos _
  exact hinert.elim id (inert_of_dollar_not_mem hpass)

/-- An output that mentions a variable, in a run without variables. -/
theorem resolve_placeholder_unbound :
    resolve ⟨"", [("a b", "cost: $\x7bx\x7d or $5")], []⟩ "$step[\"a b\"].output" =
      .ok "cost: $\x7bx\x7d or $5" := by
  have hname : (Placeholder.outputOf .double ['a', ' ', 'b']).Intact :=
    ⟨List.cons_ne_nil _ _, by simp [Policy.isNameChar_iff],
      ⟨fun h => absurd h.length_le (by decide), fun h => absurd h.length_le (by decide)⟩, nofun⟩
  have hinert : Inert ⟨"", [("a b", "cost: $\x7bx\x7d or $5")], []⟩ 4
      "cost: $\x7bx\x7d or $5".toList := inert_of_unbound fun _ _ _ _ _ => rfl
  exact (resolve_placeholder hname _).2.2 (.inl hinert)

/-- An input that is forgotten, since a later pass takes it for a reference of its own. -/
theorem not_verbatim_forgotten :
    resolve ⟨"$previous_output", [], []⟩ "\x7b\x7binput\x7d\x7d" = .ok "" ∧
      ¬∀ scope : Scope, resolve scope "\x7b\x7binput\x7d\x7d" = .ok scope.input := by
  have hforgotten : resolve ⟨"$previous_output", [], []⟩ "\x7b\x7binput\x7d\x7d" = .ok "" := by
    decide
  refine ⟨hforgotten, fun hall => ?_⟩
  exact absurd (hforgotten.symm.trans (hall _)) (by decide)

end Template

end StepFlow
