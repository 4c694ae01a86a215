import StepFlow.Proofs.Number.Numeral
import StepFlow.Proofs.Text.Pieces
import StepFlow.Run.Template
import Mathlib.Data.List.TakeDrop

/-!
# What templates denote

A template is a sequence of placeholders with literal text between them, and what it denotes is the
same text with the value of each placeholder in its place. Templates are not resolved that way,
though, but in five passes, each of which goes over all that the passes before it have left. The
main result says that the passes do not get in each other's way: a pass finds the placeholders of
its own kind and nothing else.

## Why the passes keep apart

From the second pass on, a reference begins with a dollar sign. Literal text has none, nor has what
the first four passes insert, so the only places where a reference can begin are the placeholders
that are still there; and a placeholder of another kind is no reference for the pass at hand.

The first pass is different. Braces may stand in literal text, and a literal run may end in the
beginning of `{{input}}`. What saves it is that `{{input}}` does not begin with an end of itself, so
that no occurrence lies across the border of a placeholder.

The last pass need not keep anything apart: variables may insert what they like.

## Main definitions

* `Placeholder`, `Placeholder.chars`, `Placeholder.text` — placeholders, as they are written and
  what they denote
* `Parts` — a template taken apart into literal runs and placeholders
* `Parts.after` — a template of which the first passes have been made

## Main results

* `Parts.substitute_after` — one of the later passes
* `Parts.replaceAll_input` — the first pass
* `resolve_parts` — a template resolves to what it denotes
-/

namespace StepFlow.Template

open Text

/-! ### Placeholders -/

/-- The quotes around the name of a step. -/
inductive Quoting where
  | plain
  | double
  | single
  deriving DecidableEq

def Quoting.mark : Quoting → List Char
  | plain => []
  | double => ['"']
  | single => ['\'']

/-- A placeholder of a template. -/
inductive Placeholder where
  | input
  | previous
  /-- The output of the attempt with a number. -/
  | output (digits : List Char)
  /-- The output of the first attempt of a step. -/
  | outputOf (quoting : Quoting) (name : List Char)
  | var (name : List Char)
  deriving DecidableEq

namespace Placeholder

/-- A placeholder as it is written. -/
def chars : Placeholder → List Char
  | input => inputMark
  | previous => previousMark
  | output digits => stepMark ++ (digits ++ outputMark)
  | outputOf quoting name => stepMark ++ (quoting.mark ++ (name ++ (quoting.mark ++ outputMark)))
  | var name => variableMark name

/-- Digits are decimal and few enough to be read. A name has no character that delimits
placeholders, and one without quotes is not made of digits alone. -/
def WellFormed : Placeholder → Prop
  | input | previous => True
  | output digits => digits ≠ [] ∧ digits.length ≤ digitLimit ∧ ∀ c ∈ digits, isDecimal c = true
  | outputOf quoting name =>
    name ≠ [] ∧ (∀ c ∈ ['$', '\x7b', '\x7d', '[', ']', '"', '\''], c ∉ name) ∧
      (quoting = .plain → ∃ c ∈ name, isDecimal c = false)
  | var name => name ≠ [] ∧ ∀ c ∈ ['$', '\x7b', '\x7d'], c ∉ name

instance : DecidablePred WellFormed
  | input | previous => inferInstanceAs (Decidable True)
  | output digits =>
    have := List.decidableBAll (fun c => isDecimal c = true) digits
    inferInstanceAs (Decidable (digits ≠ [] ∧ digits.length ≤ digitLimit ∧ _))
  | outputOf quoting name =>
    have := List.decidableBAll (· ∉ name) ['$', '\x7b', '\x7d', '[', ']', '"', '\'']
    have := List.decidableBEx (fun c => isDecimal c = false) name
    inferInstanceAs (Decidable (name ≠ [] ∧ _ ∧ (quoting = .plain → _)))
  | var name =>
    have := List.decidableBAll (· ∉ name) ['$', '\x7b', '\x7d']
    inferInstanceAs (Decidable (name ≠ [] ∧ _))

/-- What a placeholder denotes: the input, the last output, the output with a number, the first
output of a step, or what the value of a variable inserts. A variable that is not bound denotes its
placeholder. -/
def text (scope : Scope) : Placeholder → List Char
  | input => scope.input.toList
  | previous => ((scope.outputs.getLast?.map (·.2)).getD "").toList
  | output digits => ((scope.outputs[numberOf digits]?.map (·.2)).getD "").toList
  | outputOf _ name =>
    ((scope.outputs.find? (·.1 == String.ofList name)).map (·.2)).getD "" |>.toList
  | var name =>
    match Value.lookup? (String.ofList name) scope.vars with
    | some v => (v.insertion.toOption.getD "").toList
    | none => variableMark name

/-- The pass that replaces a placeholder. -/
def pass : Placeholder → Nat
  | input => 1
  | previous => 2
  | output _ => 3
  | outputOf .. => 4
  | var _ => 5

/-- A placeholder after the first passes: what it denotes, or still as it is written. -/
def shown (scope : Scope) (passes : Nat) (p : Placeholder) : List Char :=
  if p.pass ≤ passes then p.text scope else p.chars

/-- Every placeholder but that of the input has a dollar sign at its beginning and no other one. -/
theorem chars_eq_cons {p : Placeholder} (hp : p.WellFormed) (hinput : p ≠ .input) :
    ∃ tail, p.chars = '$' :: tail ∧ '$' ∉ tail := by
  cases p with
  | input => exact absurd rfl hinput
  | previous => exact ⟨previousMark.tail, by decide, by decide⟩
  | output digits =>
    obtain ⟨-, -, hdigits⟩ := hp
    have hdollar : '$' ∉ digits := fun h => absurd (hdigits _ h) (by decide)
    refine ⟨stepMark.tail ++ (digits ++ outputMark), rfl, ?_⟩
    simp only [List.mem_append, hdollar, false_or]
    decide
  | outputOf quoting name =>
    obtain ⟨-, hname, -⟩ := hp
    have hdollar : '$' ∉ name := hname _ (by simp)
    refine ⟨stepMark.tail ++ (quoting.mark ++ (name ++ (quoting.mark ++ outputMark))), rfl, ?_⟩
    simp only [List.mem_append, hdollar, false_or]
    cases quoting <;> decide
  | var name =>
    obtain ⟨-, hname⟩ := hp
    exact ⟨'\x7b' :: (name ++ ['\x7d']), rfl, by simpa using hname '$' (by simp)⟩

/-- What is inserted before the last pass has no dollar sign. -/
theorem dollar_not_mem_text {scope : Scope} (hinput : '$' ∉ scope.input.toList)
    (houtputs : ∀ o ∈ scope.outputs, '$' ∉ o.2.toList) {p : Placeholder} (hp : p.pass ≤ 4) :
    '$' ∉ p.text scope := by
  have hfound {o : Option (String × String)} (ho : ∀ x ∈ o, x ∈ scope.outputs) :
      '$' ∉ ((o.map (·.2)).getD "").toList := by
    cases o with
    | none => simp
    | some x => exact houtputs x (ho x rfl)
  cases p with
  | input => exact hinput
  | previous => exact hfound fun x hx => List.mem_of_getLast? hx
  | output digits => exact hfound fun x hx => List.mem_of_getElem? hx
  | outputOf quoting name => exact hfound fun x hx => List.mem_of_find?_eq_some hx
  | var name => exact absurd hp (Nat.not_succ_le_self 4)

end Placeholder

/-! ### References

What each of the later passes takes for a reference: nothing that begins with another character than
a dollar sign, its own placeholders, and no placeholder of a pass after it. -/

theorem inputMark_eq : inputMark = '\x7b' :: '\x7b' :: "input\x7d\x7d".toList := by decide

theorem previousMark_eq : previousMark = '$' :: 'p' :: "revious_output".toList := by decide

theorem stepMark_eq : stepMark = '$' :: 's' :: "tep[".toList := by decide

theorem outputMark_eq : outputMark = ']' :: ".output".toList := by decide

theorem occurrence_previous_of_ne {c : Char} (cs : List Char) (h : c ≠ '$') :
    occurrence previousMark (c :: cs) = none := by
  rw [occurrence, previousMark_eq, after?_of_ne _ _ h.symm]
  rfl

theorem findIndexed_of_ne {c : Char} (cs : List Char) (h : c ≠ '$') :
    findIndexed (c :: cs) = none := by
  rw [findIndexed, stepMark_eq, after?_of_ne _ _ h.symm]
  rfl

theorem findNamed_of_ne {c : Char} (cs : List Char) (h : c ≠ '$') :
    findNamed (c :: cs) = none := by
  rw [findNamed, stepMark_eq, after?_of_ne _ _ h.symm]
  rfl

theorem findVariable_of_ne {c : Char} (cs : List Char) (h : c ≠ '$') :
    findVariable (c :: cs) = none := by
  rw [findVariable, after?_of_ne _ _ h.symm]
  rfl

theorem findIndexed_output {digits : List Char} (hne : digits ≠ [])
    (hdigits : ∀ c ∈ digits, isDecimal c = true) (rest : List Char) :
    findIndexed ((Placeholder.output digits).chars ++ rest) =
      some (digits, (Placeholder.output digits).chars.length) := by
  have hspan : (digits ++ (outputMark ++ rest)).span isDecimal = (digits, outputMark ++ rest) := by
    rw [List.span_eq_takeWhile_dropWhile, outputMark_eq]
    exact Prod.ext_iff.mpr (takeWhile_dropWhile_append hdigits (by decide))
  simp only [findIndexed, Placeholder.chars, List.append_assoc, after?_append, Option.bind_eq_bind,
    Option.bind_some, hspan]
  simp [hne, Nat.add_assoc]

/-- A well-formed name consists of name characters. -/
theorem Placeholder.WellFormed.isNameChar {quoting : Quoting} {name : List Char}
    (hp : (Placeholder.outputOf quoting name).WellFormed) :
    ∀ c ∈ name, Policy.isNameChar c = true := by
  obtain ⟨-, hname, -⟩ := hp
  exact fun c hc => Policy.isNameChar_iff.mpr ⟨fun h => hname '\'' (by simp) (h ▸ hc),
    fun h => hname '"' (by simp) (h ▸ hc), fun h => hname '[' (by simp) (h ▸ hc),
    fun h => hname ']' (by simp) (h ▸ hc)⟩

/-- The name of a step, up to the quote or the bracket behind it. -/
theorem span_name (quoting : Quoting) {name : List Char}
    (hname : ∀ c ∈ name, Policy.isNameChar c = true) (rest : List Char) :
    (name ++ (quoting.mark ++ (outputMark ++ rest))).span Policy.isNameChar =
      (name, quoting.mark ++ (outputMark ++ rest)) := by
  rw [List.span_eq_takeWhile_dropWhile, outputMark_eq, Prod.mk.injEq]
  cases quoting with
  | plain => exact takeWhile_dropWhile_append hname (by decide)
  | double => exact takeWhile_dropWhile_append hname (by decide)
  | single => exact takeWhile_dropWhile_append hname (by decide)

/-- The quote before a name is told from the name. -/
theorem splitQuote_append (quoting : Quoting) {name : List Char} (hne : name ≠ [])
    (hname : ∀ c ∈ name, Policy.isNameChar c = true) (rest : List Char) :
    splitQuote (quoting.mark ++ (name ++ rest)) = (quoting.mark, name ++ rest) := by
  cases quoting with
  | double => rfl
  | single => rfl
  | plain =>
    obtain ⟨c, cs, rfl⟩ := List.exists_cons_of_ne_nil hne
    obtain ⟨hsingle, hdouble, -⟩ := Policy.isNameChar_iff.mp (hname c List.mem_cons_self)
    simp only [Quoting.mark, List.nil_append, List.cons_append]
    unfold splitQuote
    split
    · simp_all
    · simp_all
    · rfl

theorem findNamed_outputOf {quoting : Quoting} {name : List Char} (hne : name ≠ [])
    (hname : ∀ c ∈ name, Policy.isNameChar c = true) (rest : List Char) :
    findNamed ((Placeholder.outputOf quoting name).chars ++ rest) =
      some (name, (Placeholder.outputOf quoting name).chars.length) := by
  have hspan := span_name quoting hname rest
  have hquote := splitQuote_append quoting hne hname
    (quoting.mark ++ (outputMark ++ rest))
  have hafter := after?_append (quoting.mark ++ outputMark) rest
  rw [List.append_assoc] at hafter
  simp only [findNamed, Placeholder.chars, List.append_assoc, after?_append, Option.bind_eq_bind,
    Option.bind_some, hquote, hspan, hafter]
  simp [hne]
  omega

theorem findVariable_var {name : List Char} (hp : (Placeholder.var name).WellFormed)
    (rest : List Char) :
    findVariable ((Placeholder.var name).chars ++ rest) =
      some (name, (Placeholder.var name).chars.length) := by
  obtain ⟨hne, hname⟩ := hp
  have hchars : ∀ c ∈ name, decide (c ≠ '\x7d') = true := fun c hc =>
    decide_eq_true fun h => hname '\x7d' (by simp) (h ▸ hc)
  have hsplit : (name ++ '\x7d' :: rest).span (· ≠ '\x7d') = (name, '\x7d' :: rest) := by
    rw [List.span_eq_takeWhile_dropWhile]
    exact Prod.ext_iff.mpr (takeWhile_dropWhile_append hchars (by decide))
  simp only [findVariable, Placeholder.chars, variableMark, List.cons_append, List.append_assoc,
    after?, if_true, List.nil_append, Option.bind_eq_bind, Option.bind_some, hsplit]
  simp [hne]

/-- A placeholder of a later pass is no reference for the second pass. -/
theorem occurrence_previous_eq_none {p : Placeholder} (hp : 2 < p.pass) (rest : List Char) :
    occurrence previousMark (p.chars ++ rest) = none := by
  have hstep (cs : List Char) : occurrence previousMark (stepMark ++ cs ++ rest) = none := by
    rw [occurrence, previousMark_eq, stepMark_eq]
    simp only [List.cons_append, after?]
    rfl
  cases p with
  | input => exact absurd hp (by decide)
  | previous => exact absurd hp (by decide)
  | output digits => exact hstep _
  | outputOf quoting name => exact hstep _
  | var name =>
    rw [occurrence, previousMark_eq]
    rfl

/-- Where a stretch of characters is not all of one kind, it is left at one of its characters. -/
theorem exists_dropWhile_eq_cons {p : Char → Bool} {cs : List Char} (h : ∃ c ∈ cs, p c = false)
    (rest : List Char) : ∃ c ∈ cs, ∃ tail, (cs ++ rest).dropWhile p = c :: tail := by
  induction cs with
  | nil => simp at h
  | cons d cs ih =>
    cases hd : p d with
    | false => exact ⟨d, by simp, cs ++ rest, by simp [hd]⟩
    | true =>
      obtain ⟨c, hc, tail, htail⟩ := ih (by simpa [hd] using h)
      exact ⟨c, List.mem_cons_of_mem d hc, tail, by simpa [hd] using htail⟩

/-- A name that is quoted, or not made of digits alone, is no reference for the third pass. -/
theorem findIndexed_outputOf {quoting : Quoting} {name : List Char}
    (hname : ∀ c ∈ name, Policy.isNameChar c = true)
    (hplain : quoting = .plain → ∃ c ∈ name, isDecimal c = false) (rest : List Char) :
    findIndexed ((Placeholder.outputOf quoting name).chars ++ rest) = none := by
  have hquote : isDecimal '"' = false ∧ isDecimal '\'' = false := by decide
  cases quoting with
  | double => simp [findIndexed, Placeholder.chars, Quoting.mark, hquote]
  | single => simp [findIndexed, Placeholder.chars, Quoting.mark, hquote]
  | plain =>
    obtain ⟨c, hc, tail, htail⟩ := exists_dropWhile_eq_cons (hplain rfl) (outputMark ++ rest)
    have hbracket : ']' ≠ c := fun h => absurd (hname c hc) (h ▸ by decide)
    have hafter : after? outputMark (c :: tail) = none := by
      rw [outputMark_eq]
      exact after?_of_ne _ _ hbracket
    simp [findIndexed, Placeholder.chars, Quoting.mark, htail, hafter]

/-- A placeholder of a later pass is no reference for the third pass. -/
theorem findIndexed_eq_none {p : Placeholder} (hp : 3 < p.pass) (hwf : p.WellFormed)
    (rest : List Char) : findIndexed (p.chars ++ rest) = none := by
  cases p with
  | input => exact absurd hp (by decide)
  | previous => exact absurd hp (by decide)
  | output digits => exact absurd hp (Nat.lt_irrefl 3)
  | outputOf quoting name => exact findIndexed_outputOf hwf.isNameChar hwf.2.2 rest
  | var name =>
    rw [findIndexed, stepMark_eq]
    rfl

/-- A placeholder of a later pass is no reference for the fourth pass. -/
theorem findNamed_eq_none {p : Placeholder} (hp : 4 < p.pass) (rest : List Char) :
    findNamed (p.chars ++ rest) = none := by
  cases p with
  | input => exact absurd hp (by decide)
  | previous => exact absurd hp (by decide)
  | output digits => exact absurd hp (Nat.not_lt.mpr (Nat.le_succ 3))
  | outputOf quoting name => exact absurd hp (Nat.lt_irrefl 4)
  | var name =>
    rw [findNamed, stepMark_eq]
    rfl

/-! ### The input

`{{input}}` has no dollar sign, so that an occurrence of it could lie in literal text and reach into
what follows. -/

/-- No proper end of the input's placeholder is a beginning of it. -/
theorem inputMark_unbordered {cs tail : List Char} (h : inputMark = cs ++ tail) (hcs : cs ≠ [])
    (htail : tail <+: inputMark) : tail = [] := by
  have hall : ∀ n < inputMark.length, inputMark.drop (n + 1) <+: inputMark →
      inputMark.drop (n + 1) = [] := by
    decide
  obtain ⟨c, cs, rfl⟩ := List.exists_cons_of_ne_nil hcs
  have hdrop : inputMark.drop (cs.length + 1) = tail := by
    rw [h]
    simp
  rw [← hdrop] at htail ⊢
  refine hall cs.length ?_ htail
  rw [h, List.length_append, List.length_cons]
  omega

/-- In literal text before a placeholder, or before the end, the input does not occur. -/
theorem occurrence_input_literal {l rest : List Char} (hl : ¬inputMark <:+: l)
    (hrest : rest = [] ∨ (∃ tail, rest = '$' :: tail) ∨ ∃ tail, rest = inputMark ++ tail)
    {c : Char} {tail : List Char} (hc : c :: tail <:+ l) :
    occurrence inputMark (c :: (tail ++ rest)) = none := by
  rw [occurrence_eq_none_iff]
  rintro ⟨behind, hbehind⟩
  rw [← List.cons_append] at hbehind
  -- an occurrence ends in the literal text, or what follows begins with the end of one
  rcases List.append_eq_append_iff.mp hbehind with ⟨w, hw, -⟩ | ⟨w, hw, hwrest⟩
  · have hinside : inputMark <+: c :: tail := ⟨w, hw.symm⟩
    exact hl (hinside.isInfix.trans hc.isInfix)
  · have hend : w = [] := by
      rcases hrest with rfl | ⟨tail', rfl⟩ | ⟨tail', rfl⟩
      · exact (List.nil_eq_append_iff.mp hwrest).1
      · cases w with
        | nil => rfl
        | cons d w =>
          have hdollar : '$' ∈ inputMark := by
            rw [hw, (List.cons.inj hwrest).1]
            simp
          exact absurd hdollar (by decide)
      · refine inputMark_unbordered hw (List.cons_ne_nil c tail) ?_
        refine List.prefix_of_prefix_length_le ⟨behind, hwrest.symm⟩ (List.prefix_append _ _) ?_
        rw [hw, List.length_append]
        exact Nat.le_add_left _ _
    rw [hend, List.append_nil] at hw
    exact hl (hw ▸ hc.isInfix)

/-- Where two characters are not both braces, no reference to the input begins. -/
theorem occurrence_input_of_ne {c : Char} (cs : List Char) (h : c ≠ '\x7b') :
    occurrence inputMark (c :: cs) = none := by
  rw [occurrence, inputMark_eq, after?_of_ne _ _ h.symm]
  rfl

/-- In another placeholder the input does not occur. -/
theorem occurrence_input_placeholder {p : Placeholder} (hp : p.WellFormed) (hinput : p ≠ .input)
    (rest : List Char) {c : Char} {tail : List Char} (hc : c :: tail <:+ p.chars) :
    occurrence inputMark (c :: (tail ++ rest)) = none := by
  have hplain {cs : List Char} (hcs : c :: tail <:+ cs) (hbrace : '\x7b' ∉ cs) :
      occurrence inputMark (c :: (tail ++ rest)) = none :=
    occurrence_input_of_ne _ fun h => hbrace (hcs.subset (by simp [h]))
  cases p with
  | input => exact absurd rfl hinput
  | previous => exact hplain hc (by decide)
  | output digits =>
    refine hplain hc ?_
    have hbrace : '\x7b' ∉ digits := fun h => absurd (hp.2.2 _ h) (by decide)
    simp only [Placeholder.chars, List.mem_append, hbrace, false_or]
    decide
  | outputOf quoting name =>
    refine hplain hc ?_
    have hbrace : '\x7b' ∉ name := hp.2.1 _ (by simp)
    simp only [Placeholder.chars, List.mem_append, hbrace, false_or]
    cases quoting <;> decide
  | var name =>
    obtain ⟨hne, hname⟩ := hp
    have hbrace : '\x7b' ∉ name := hname _ (by simp)
    rcases List.suffix_cons_iff.mp hc with h | hc
    · rw [(List.cons.inj h).1]
      exact occurrence_input_of_ne _ (by decide)
    rcases List.suffix_cons_iff.mp hc with h | hc
    · obtain ⟨d, ds, rfl⟩ := List.exists_cons_of_ne_nil hne
      have hd : '\x7b' ≠ d := fun h => hbrace (h ▸ List.mem_cons_self)
      rw [(List.cons.inj h).1, (List.cons.inj h).2, occurrence, inputMark_eq]
      simp [after?, hd]
    · exact hplain hc (by simp [hbrace])

/-! ### Values -/

variable {scope : Scope}

/-- Digits denote the output with their number. -/
theorem indexedValue_digits {digits : List Char} (hp : (Placeholder.output digits).WellFormed) :
    indexedValue scope digits = .ok ((Placeholder.output digits).text scope) := by
  obtain ⟨hne, hlength, hdigits⟩ := hp
  simp [indexedValue, readInteger_digits hne hdigits hlength, Scope.outputAt, Placeholder.text]
  rfl

/-- A name denotes the variable, or its own placeholder when nothing is bound to it. -/
theorem variableValue_name {name : List Char}
    (h : ∀ v, Value.lookup? (String.ofList name) scope.vars = some v → ∃ text, v.insertion = .ok text) :
    variableValue scope name = .ok ((Placeholder.var name).text scope) := by
  rw [variableValue, Placeholder.text]
  cases hv : Value.lookup? (String.ofList name) scope.vars with
  | none => rfl
  | some v =>
    obtain ⟨text, htext⟩ := h v hv
    simp only [htext]
    rfl

/-! ### Templates taken apart -/

/-- A template, taken apart into literal runs and the placeholders between them. -/
structure Parts where
  /-- The placeholders, each with the literal run before it. -/
  body : List (List Char × Placeholder)
  /-- The literal run at the end. -/
  last : List Char

/-- Literal text has no dollar sign and does not refer to the input. -/
def IsLiteral (cs : List Char) : Prop := '$' ∉ cs ∧ ¬inputMark <:+: cs

instance : DecidablePred IsLiteral := fun cs => inferInstanceAs (Decidable ('$' ∉ cs ∧ _))

namespace Parts

/-- A template as it is written. -/
def chars (t : Parts) : List Char := t.body.flatMap (fun s => s.1 ++ s.2.chars) ++ t.last

/-- What a template denotes. -/
def text (scope : Scope) (t : Parts) : List Char :=
  t.body.flatMap (fun s => s.1 ++ s.2.text scope) ++ t.last

structure WellFormed (t : Parts) : Prop where
  literals : ∀ s ∈ t.body, IsLiteral s.1
  placeholders : ∀ s ∈ t.body, s.2.WellFormed
  last : IsLiteral t.last

/-- A template after the first passes. -/
def after (scope : Scope) (passes : Nat) (t : Parts) : List Char :=
  t.body.flatMap (fun s => s.1 ++ s.2.shown scope passes) ++ t.last

variable {t : Parts} {α ε : Type} {find : List Char → Option (α × Nat)}
  {value : α → Except ε (List Char)}

theorem after_zero (t : Parts) (scope : Scope) : t.after scope 0 = t.chars := by
  have hshown (p : Placeholder) : p.shown scope 0 = p.chars := by
    cases p <;> rfl
  simp only [after, chars, hshown]

theorem after_five (t : Parts) (scope : Scope) : t.after scope 5 = t.text scope := by
  have hshown (p : Placeholder) : p.shown scope 5 = p.text scope := by
    cases p <;> rfl
  simp only [after, text, hshown]

/-- A pass that does the right thing to each literal run with the placeholder behind it, whatever
follows, does the right thing to the template. -/
theorem substitute_segments {before after : List Char × Placeholder → List Char}
    {body : List (List Char × Placeholder)} {last : List Char}
    (hbody : ∀ s ∈ body, ∀ rest text, substitute find value rest = .ok text →
      substitute find value (before s ++ rest) = .ok (after s ++ text))
    (hlast : substitute find value last = .ok last) :
    substitute find value (body.flatMap before ++ last) = .ok (body.flatMap after ++ last) := by
  induction body with
  | nil => exact hlast
  | cons s body ih =>
    have hrest := ih fun s hs => hbody s (List.mem_cons_of_mem _ hs)
    simpa only [List.flatMap_cons, List.append_assoc] using hbody s List.mem_cons_self _ _ hrest

/-- **A later pass replaces its own placeholders and leaves everything else as it is.** -/
theorem substitute_after {n : Nat} (hn : 1 ≤ n ∧ n ≤ 4) (hwf : t.WellFormed)
    (hinput : '$' ∉ scope.input.toList) (houtputs : ∀ o ∈ scope.outputs, '$' ∉ o.2.toList)
    (hplain : ∀ c cs, c ≠ '$' → find (c :: cs) = none)
    (hown : ∀ s ∈ t.body, s.2.pass = n + 1 → ∃ a, value a = .ok (s.2.text scope) ∧
      ∀ rest, find (s.2.chars ++ rest) = some (a, s.2.chars.length))
    (hlater : ∀ s ∈ t.body, n + 1 < s.2.pass → ∀ rest, find (s.2.chars ++ rest) = none) :
    substitute find value (t.after scope n) = .ok (t.after scope (n + 1)) := by
  have hrun {cs rest text : List Char} (hcs : '$' ∉ cs)
      (hrest : substitute find value rest = .ok text) :
      substitute find value (cs ++ rest) = .ok (cs ++ text) :=
    substitute_plain (fun c tail hc => hplain c _ fun h => hcs (hc.subset (by simp [h]))) hrest
  refine substitute_segments (fun s hs rest text hrest => ?_) ?_
  · rw [List.append_assoc, List.append_assoc]
    refine hrun (hwf.literals s hs).1 ?_
    rcases Nat.lt_trichotomy s.2.pass (n + 1) with hdone | hnow | hlate
    · rw [Placeholder.shown, if_pos (Nat.le_of_lt_succ hdone), Placeholder.shown,
        if_pos (Nat.le_of_lt hdone)]
      exact hrun (Placeholder.dollar_not_mem_text hinput houtputs (by omega)) hrest
    · rw [Placeholder.shown, if_neg (by omega), Placeholder.shown, if_pos (by omega)]
      obtain ⟨a, hvalue, hfind⟩ := hown s hs hnow
      obtain ⟨tail, htail, -⟩ := Placeholder.chars_eq_cons (hwf.placeholders s hs)
        (by rintro h; rw [h] at hnow; have : (1 : Nat) = n + 1 := hnow; omega)
      exact substitute_reference (hfind rest) (by simp [htail]) hvalue hrest
    · rw [Placeholder.shown, if_neg (by omega), Placeholder.shown, if_neg (by omega)]
      obtain ⟨tail, htail, hdollar⟩ := Placeholder.chars_eq_cons (hwf.placeholders s hs)
        (by rintro h; rw [h] at hlate; have : n + 1 < 1 := hlate; omega)
      have hhead := hlater s hs hlate rest
      rw [htail] at hhead ⊢
      exact substitute_cons hhead (hrun hdollar hrest)
  · have := hrun hwf.last.1 (substitute_nil find value)
    rwa [List.append_nil] at this

/-! ### The passes -/

/-- **The first pass replaces the input and leaves everything else as it is.** -/
theorem replaceAll_input (hwf : t.WellFormed) :
    replaceAll inputMark scope.input.toList (t.after scope 0) = t.after scope 1 := by
  refine @Except.ok.inj Fault _ _ _ ?_
  rw [← substitute_occurrence]
  refine substitute_segments (fun s hs rest text hrest => ?_) ?_
  · have hliteral := (hwf.literals s hs).2
    rw [List.append_assoc, List.append_assoc]
    by_cases hinput : s.2 = .input
    · have hrest := substitute_reference (occurrence_append inputMark rest) (by decide) rfl hrest
      rw [hinput]
      exact substitute_plain (fun c tail hc =>
        occurrence_input_literal hliteral (.inr (.inr ⟨rest, rfl⟩)) hc) hrest
    · have hp := hwf.placeholders s hs
      obtain ⟨tl, htl, -⟩ := Placeholder.chars_eq_cons hp hinput
      have hshown : s.2.shown scope 0 = s.2.chars ∧ s.2.shown scope 1 = s.2.chars := by
        cases hs : s.2 <;> simp_all [Placeholder.shown, Placeholder.pass]
      rw [hshown.1, hshown.2]
      refine substitute_plain (fun c tail hc => occurrence_input_literal hliteral ?_ hc) ?_
      · exact .inr (.inl ⟨tl ++ rest, by rw [htl]; rfl⟩)
      · exact substitute_plain (fun c tail hc => occurrence_input_placeholder hp hinput rest hc)
          hrest
  · rw [← List.append_nil t.last]
    exact substitute_plain (fun c tail hc => occurrence_input_literal hwf.last.2 (.inl rfl) hc)
      (substitute_nil _ _)

section

variable (hwf : t.WellFormed) (hinput : '$' ∉ scope.input.toList)
  (houtputs : ∀ o ∈ scope.outputs, '$' ∉ o.2.toList)

include hwf hinput houtputs

theorem replaceAll_previous :
    replaceAll previousMark scope.previous.toList (t.after scope 1) = t.after scope 2 := by
  refine @Except.ok.inj Fault _ _ _ ?_
  rw [← substitute_occurrence]
  refine substitute_after (by omega) hwf hinput houtputs
    (fun c cs => occurrence_previous_of_ne cs) (fun s hs hpass => ?_)
    (fun s hs hpass => occurrence_previous_eq_none hpass)
  cases hp : s.2 with
  | previous => exact ⟨(), rfl, occurrence_append previousMark⟩
  | _ => simp [hp, Placeholder.pass] at hpass

theorem substitute_indexed :
    substitute findIndexed (indexedValue scope) (t.after scope 2) = .ok (t.after scope 3) := by
  refine substitute_after (by omega) hwf hinput houtputs (fun c cs => findIndexed_of_ne cs)
    (fun s hs hpass => ?_)
    (fun s hs hpass => findIndexed_eq_none hpass (hwf.placeholders s hs))
  have hp := hwf.placeholders s hs
  cases hs : s.2 with
  | output digits =>
    rw [hs] at hp
    exact ⟨digits, indexedValue_digits hp, findIndexed_output hp.1 hp.2.2⟩
  | _ => simp [hs, Placeholder.pass] at hpass

theorem substitute_named :
    substitute findNamed (fun n => pure (scope.outputOf (String.ofList n)).toList)
      (t.after scope 3) = (.ok (t.after scope 4) : Except Fault _) := by
  refine substitute_after (by omega) hwf hinput houtputs (fun c cs => findNamed_of_ne cs)
    (fun s hs hpass => ?_) (fun s hs hpass => findNamed_eq_none hpass)
  have hp := hwf.placeholders s hs
  cases hs : s.2 with
  | outputOf quoting name =>
    rw [hs] at hp
    exact ⟨name, rfl, findNamed_outputOf hp.1 hp.isNameChar⟩
  | _ => simp [hs, Placeholder.pass] at hpass

theorem substitute_variables
    (hvars : ∀ s ∈ t.body, ∀ name, s.2 = .var name →
      ∀ v, Value.lookup? (String.ofList name) scope.vars = some v → ∃ text, v.insertion = .ok text) :
    substitute findVariable (variableValue scope) (t.after scope 4) = .ok (t.after scope 5) := by
  refine substitute_after (by omega) hwf hinput houtputs (fun c cs => findVariable_of_ne cs)
    (fun s hs hpass => ?_) (fun s hs hpass => ?_)
  · have hp := hwf.placeholders s hs
    cases hvar : s.2 with
    | var name =>
      rw [hvar] at hp
      exact ⟨name, variableValue_name (hvars s hs name hvar), findVariable_var hp⟩
    | _ => simp [hvar, Placeholder.pass] at hpass
  · cases hs : s.2 <;> simp [hs, Placeholder.pass] at hpass

end

end Parts

/-! ### Resolving -/

/-- **A template resolves to what it denotes**: its literal text with the value of each placeholder
in its place. The input and the outputs must have no dollar sign, and the variables that the template
refers to must have a text. -/
theorem resolve_parts {t : Parts} (hwf : t.WellFormed) (hinput : '$' ∉ scope.input.toList)
    (houtputs : ∀ o ∈ scope.outputs, '$' ∉ o.2.toList)
    (hvars : ∀ s ∈ t.body, ∀ name, s.2 = .var name →
      ∀ v, Value.lookup? (String.ofList name) scope.vars = some v → ∃ text, v.insertion = .ok text) :
    resolve scope (String.ofList t.chars) = .ok (String.ofList (t.text scope)) := by
  have hfirst : replaceAll inputMark scope.input.toList t.chars = t.after scope 1 := by
    rw [← Parts.after_zero t scope]
    exact Parts.replaceAll_input hwf
  rw [resolve, resolveChars, String.toList_ofList, hfirst,
    Parts.replaceAll_previous hwf hinput houtputs, Parts.substitute_indexed hwf hinput houtputs]
  simp only [bind, Except.bind, Parts.substitute_named hwf hinput houtputs,
    Parts.substitute_variables hwf hinput houtputs hvars, Parts.after_five]
  rfl

/-- Placeholders of every kind side by side, after literal text that ends in a brace. -/
theorem resolve_parts_adjacent :
    resolve ⟨"in", [("a", "one"), ("b", "two")], [(.str "x", .str "ex")]⟩
      "\x7b\x7b\x7binput\x7d\x7d$previous_output$step[0].output$step['a'].output$\x7bx\x7d$\x7by\x7d." =
      .ok "\x7bintwooneoneex$\x7by\x7d." := by
  have hresolve := @resolve_parts ⟨"in", [("a", "one"), ("b", "two")], [(.str "x", .str "ex")]⟩
    ⟨[(['\x7b'], .input), ([], .previous), ([], .output ['0']), ([], .outputOf .single ['a']),
      ([], .var ['x']), ([], .var ['y'])], ['.']⟩
    ⟨by decide, by decide, by decide⟩ (by decide) (by decide)
    (fun s _ name _ v hv => by
      simp [Value.lookup?, Value.find?] at hv
      exact ⟨"ex", by rw [← hv.2]; rfl⟩)
  exact hresolve

end StepFlow.Template
