import StepFlow.Agent.Basic
import StepFlow.Proofs.Activity
import StepFlow.Proofs.Run.Insertion

/-!
# Filling a command template

The placeholders of a token are filled one after the other, each in all of its places, and then the
prompt is put in. This comes to the same as filling all of them at once, as long as the values of
the parameters are not empty and neither they nor the names hold one of the signs that placeholders
are made of. The prompt may be any text, since nothing is filled after it.

## Why the values do not interfere

A token is cut, from left to right, into placeholders and the characters between them. While it is
being filled, a placeholder shows its value or still itself, and the characters between stay as they
are. The invariant is that a mark which is searched for stands nowhere but where a piece shows it.
It could only begin with a dollar sign and a brace that stand between the placeholders. They stand
side by side in the token then, since a value in between would not be empty. But where a dollar sign
and a brace begin no placeholder, no brace closes them further on, or it does so at once; and values
do not change this.

## Main definitions

* `CommandTemplate.Cut` — a token as placeholders and the characters between them
* `CommandTemplate.filledAtOnce` — all placeholders of a token filled at the same time
* `CommandTemplate.FillsAtOnce` — what is guaranteed of the command lines that a template makes

## Main results

* `CommandTemplate.cut_pieces` — every token is cut
* `CommandTemplate.Cut.replaceAll_shown` — one placeholder more is filled
* `CommandTemplate.mem_missing_iff` — the placeholders that cannot be filled
* `ProgramAgent.perform_answer` — a program is asked once, or not at all
* `CommandTemplate.fillsAtOnce_of_valid` — a valid template is filled at once
-/

namespace StepFlow

namespace Template

open Text

/-- The name of a variable, as far as a reference goes: it ends where the first brace closes. -/
def IsName (name : List Char) : Prop := name ≠ [] ∧ '\x7d' ∉ name

/-- What is found at the beginning of a text is a reference to a variable. -/
theorem findVariable_eq_some_iff {cs name : List Char} {n : Nat} :
    findVariable cs = some (name, n) ↔
      IsName name ∧ n = (variableMark name).length ∧ variableMark name <+: cs := by
  constructor
  · intro h
    obtain ⟨rest, rfl, hn⟩ := findVariable_eq_some h
    refine ⟨?_, hn, List.prefix_append _ _⟩
    simp only [findVariable, variableMark, List.cons_append, after?, if_true, Option.bind_eq_bind,
      Option.bind_some, List.span_eq_takeWhile_dropWhile] at h
    split at h
    · cases h
    · rename_i hne
      obtain ⟨_, -, h⟩ := Option.bind_eq_some_iff.mp h
      obtain ⟨hspan, -⟩ := Prod.mk.inj (Option.some.inj h)
      rw [hspan] at hne
      refine ⟨by simpa using hne, fun hmem => ?_⟩
      rw [← hspan] at hmem
      simpa using List.mem_takeWhile_imp hmem
  · rintro ⟨⟨hne, hname⟩, rfl, rest, rfl⟩
    have hchars : ∀ c ∈ name, decide (c ≠ '\x7d') = true := fun c hc =>
      decide_eq_true fun h => hname (h ▸ hc)
    have hsplit : (name ++ '\x7d' :: rest).span (· ≠ '\x7d') = (name, '\x7d' :: rest) := by
      rw [List.span_eq_takeWhile_dropWhile]
      exact Prod.ext_iff.mpr (takeWhile_dropWhile_append hchars (by decide))
    simp only [findVariable, variableMark, List.cons_append, List.append_assoc, after?, if_true,
      List.nil_append, Option.bind_eq_bind, Option.bind_some, hsplit]
    simp [hne]

/-- Nothing is found where there is no reference. -/
theorem findVariable_eq_none_iff {cs : List Char} :
    findVariable cs = none ↔ ∀ name, IsName name → ¬variableMark name <+: cs := by
  rw [Option.eq_none_iff_forall_ne_some]
  constructor
  · exact fun h name hname hmark =>
      h (name, (variableMark name).length) (findVariable_eq_some_iff.mpr ⟨hname, rfl, hmark⟩)
  · rintro h ⟨name, n⟩ hfind
    obtain ⟨hname, -, hmark⟩ := findVariable_eq_some_iff.mp hfind
    exact h name hname hmark

/-- References at the same place are the same. -/
theorem eq_of_mark_begins {a b rest : List Char} (ha : '\x7d' ∉ a) (hb : '\x7d' ∉ b)
    (h : variableMark a <+: variableMark b ++ rest) : a = b := by
  obtain ⟨tail, h⟩ := h
  simp only [variableMark, List.cons_append, List.append_assoc, List.cons.injEq, true_and,
    List.nil_append] at h
  have hsplit {x y : List Char} (hx : '\x7d' ∉ x) :
      (x ++ '\x7d' :: y).takeWhile (· ≠ '\x7d') = x := by
    refine (takeWhile_dropWhile_append (fun c hc => decide_eq_true ?_) (by decide)).1
    rintro rfl
    exact hx hc
  rw [← hsplit ha (y := tail), ← hsplit hb (y := rest), h]

end Template

namespace CommandTemplate

open Template Text

/-! ### Tokens in pieces -/

/-- A token as its placeholders and the characters between them. A placeholder is taken wherever one
begins that is no part of another before it. -/
inductive Cut : List Char → List (Char ⊕ List Char) → Prop
  | nil : Cut [] []
  | plain {c : Char} {cs : List Char} {ps : List (Char ⊕ List Char)} :
      (∀ name, IsName name → ¬variableMark name <+: c :: cs) → Cut cs ps →
      Cut (c :: cs) (.inl c :: ps)
  | placeholder {name cs : List Char} {ps : List (Char ⊕ List Char)} :
      IsName name → Cut cs ps → Cut (variableMark name ++ cs) (.inr name :: ps)

/-- **Every token is cut.** -/
theorem cut_pieces (cs : List Char) : Cut cs (pieces findVariable 0 cs) := by
  induction hlength : cs.length using Nat.strongRecOn generalizing cs with
  | ind length ih =>
    cases cs with
    | nil =>
      rw [pieces]
      exact .nil
    | cons c rest =>
      cases hfind : findVariable (c :: rest) with
      | none =>
        rw [pieces, hfind]
        exact .plain (findVariable_eq_none_iff.mp hfind) (ih _ (by rw [← hlength]; simp) rest rfl)
      | some found =>
        obtain ⟨name, n⟩ := found
        obtain ⟨hname, rfl, tail, htail⟩ := findVariable_eq_some_iff.mp hfind
        have hmark : variableMark name = '$' :: '\x7b' :: (name ++ ['\x7d']) := rfl
        have hpieces : pieces findVariable 0 (c :: rest) =
            .inr name :: pieces findVariable 0 tail := by
          rw [pieces, hfind]
          rw [hmark, List.cons_append, List.cons.injEq] at htail
          simp only [hmark, List.length_cons]
          rw [pieces_eq_drop, ← htail.2, ← List.length_cons, List.drop_left]
        rw [hpieces, ← htail]
        refine .placeholder hname (ih _ ?_ tail rfl)
        rw [← hlength, ← htail, List.length_append, hmark, List.length_cons]
        omega

/-! ### Tokens that are being filled -/

/-- What is written in the place of a piece: the value of a placeholder that has one, and all else
as it is. -/
def shown (value : List Char → Option (List Char)) : Char ⊕ List Char → List Char
  | .inl c => [c]
  | .inr name => (value name).getD (variableMark name)

/-- A text that is not empty and has none of the signs that placeholders are made of. -/
def IsPlain (cs : List Char) : Prop := cs ≠ [] ∧ ∀ c ∈ ['$', '\x7b', '\x7d'], c ∉ cs

variable {cs n new : List Char} {ps : List (Char ⊕ List Char)}
  {value : List Char → Option (List Char)}

/-- A token shows itself before anything is filled. -/
theorem Cut.flatMap_shown_none (h : Cut cs ps) : ps.flatMap (shown fun _ => none) = cs := by
  induction h with
  | nil => rfl
  | plain _ _ ih => rw [List.flatMap_cons, ih]; rfl
  | placeholder _ _ ih => rw [List.flatMap_cons, ih]; rfl

/-- A brace that closes something in the text shown does so in the token, too. -/
theorem Cut.brace_mem (h : Cut cs ps) (hmem : '\x7d' ∈ ps.flatMap (shown value)) : '\x7d' ∈ cs := by
  induction h with
  | nil => exact hmem
  | plain _ _ ih =>
    rw [List.flatMap_cons] at hmem
    rcases List.mem_append.mp hmem with hc | hrest
    · exact List.mem_cons.mpr (.inl (List.mem_singleton.mp hc))
    · exact List.mem_cons_of_mem _ (ih hrest)
  | placeholder _ _ _ => simp [variableMark]

/-- **No placeholder arises.** Where none begins in the token, none begins in the text shown. -/
theorem Cut.not_prefix {c : Char} (h : Cut cs ps)
    (hvalue : ∀ name v, value name = some v → IsPlain v) (hn : IsName n)
    (hnone : ∀ name, IsName name → ¬variableMark name <+: c :: cs) :
    ¬variableMark n <+: c :: ps.flatMap (shown value) := by
  intro hmark
  obtain ⟨rfl, hopen⟩ := List.cons_prefix_cons.mp hmark
  cases h with
  | nil => exact absurd hopen.length_le (by simp)
  | @placeholder name cs ps hname hrest =>
    rw [List.flatMap_cons, shown] at hopen
    cases hv : value name with
    | none =>
      rw [hv] at hopen
      exact absurd (List.cons_prefix_cons.mp hopen).1 (by decide)
    | some v =>
      obtain ⟨hne, hsigns⟩ := hvalue name v hv
      rw [hv, Option.getD_some] at hopen
      cases v with
      | nil => exact hne rfl
      | cons x v =>
        obtain rfl := (List.cons_prefix_cons.mp hopen).1
        exact hsigns '\x7b' (by simp) List.mem_cons_self
  | @plain d cs ps hplain hrest =>
    rw [List.flatMap_cons, shown] at hopen
    obtain ⟨rfl, hbody⟩ := List.cons_prefix_cons.mp hopen
    -- the sign and the brace stand side by side in the token, and there is a brace to close them
    have hclosed : '\x7d' ∈ cs := hrest.brace_mem (hbody.subset (by simp))
    obtain ⟨name, tail, rfl, hname⟩ := List.eq_append_cons_of_mem hclosed
    refine hnone name ⟨?_, hname⟩ ⟨tail, by simp [variableMark]⟩
    rintro rfl
    cases hrest with
    | plain _ _ =>
      obtain ⟨x, rest, rfl⟩ := List.exists_cons_of_ne_nil hn.1
      obtain rfl := (List.cons_prefix_cons.mp hbody).1
      exact hn.2 List.mem_cons_self

/-- What a placeholder has for its value when one more has been given one. -/
def given (value : List Char → Option (List Char)) (n new name : List Char) : Option (List Char) :=
  (value name).or (if name = n then some new else none)

/-- **One placeholder more is filled**, in all of its places, and nothing else changes. What it is
filled with may be any text. -/
theorem Cut.replaceAll_shown (h : Cut cs ps)
    (hvalue : ∀ name v, value name = some v → IsPlain v) (hn : IsName n)
    (hnames : ∀ name, .inr name ∈ ps → '$' ∉ name) :
    replaceAll (variableMark n) new (ps.flatMap (shown value)) =
      ps.flatMap (shown (given value n new)) := by
  have hother {c : Char} (rest : List Char) (hc : c ≠ '$') :
      occurrence (variableMark n) (c :: rest) = none :=
    occurrence_eq_none_iff.mpr fun hmark => hc (List.cons_prefix_cons.mp hmark).1.symm
  suffices hsubst : substitute (occurrence (variableMark n)) (fun _ => .ok new)
      (ps.flatMap (shown value)) =
        (.ok (ps.flatMap (shown (given value n new))) : Except Fault (List Char)) by
    rw [substitute_occurrence] at hsubst
    exact Except.ok.inj hsubst
  induction h with
  | nil => exact substitute_nil _ _
  | @plain c cs ps hnone hrest ih =>
    have hnones := hrest.not_prefix hvalue hn hnone
    exact substitute_cons (occurrence_eq_none_iff.mpr hnones)
      (ih fun name hname => hnames name (List.mem_cons_of_mem _ hname))
  | @placeholder name cs ps hname hrest ih =>
    have hrest := ih fun name hmem => hnames name (List.mem_cons_of_mem _ hmem)
    rw [List.flatMap_cons, List.flatMap_cons, shown, shown, given]
    cases hv : value name with
    | some v =>
      -- a value has no sign at which a placeholder could begin
      refine substitute_plain (fun c tail hc => hother _ ?_) hrest
      rintro rfl
      exact (hvalue name v hv).2 '$' (by simp) (hc.subset List.mem_cons_self)
    | none =>
      by_cases hsame : name = n
      · subst hsame
        rw [if_pos rfl]
        exact substitute_reference (occurrence_append _ _) (List.cons_ne_nil _ _) rfl hrest
      · rw [if_neg hsame]
        refine substitute_plain (fun c tail hc => ?_) hrest
        rcases List.suffix_cons_iff.mp hc with hwhole | hinside
        · rw [← List.cons_append, hwhole]
          refine occurrence_eq_none_iff.mpr fun hmark => hsame ?_
          exact (eq_of_mark_begins hn.2 hname.2 hmark).symm
        · refine hother _ ?_
          rintro rfl
          have hmem := hinside.subset List.mem_cons_self
          simp [hnames name List.mem_cons_self] at hmem

theorem Cut.mark_infix (h : Cut cs ps) {name : List Char} (hmem : .inr name ∈ ps) :
    variableMark name <:+: cs := by
  induction h with
  | nil => cases hmem
  | plain _ _ ih =>
    rcases List.mem_cons.mp hmem with hsame | hmem
    · cases hsame
    · exact List.infix_cons (ih hmem)
  | placeholder _ _ ih =>
    rcases List.mem_cons.mp hmem with hsame | hmem
    · cases hsame
      exact (List.prefix_append _ _).isInfix
    · exact (ih hmem).trans (List.suffix_append _ _).isInfix

theorem Cut.isName (h : Cut cs ps) {name : List Char} (hmem : .inr name ∈ ps) : IsName name := by
  induction h with
  | nil => cases hmem
  | plain _ _ ih =>
    rcases List.mem_cons.mp hmem with hsame | hmem
    · cases hsame
    · exact ih hmem
  | placeholder hname _ ih =>
    rcases List.mem_cons.mp hmem with hsame | hmem
    · cases hsame
      exact hname
    · exact ih hmem

/-! ### Parameters -/

theorem mem_placeholders_iff {token : List Char} {name : String} :
    name ∈ placeholders token ↔ .inr name.toList ∈ pieces findVariable 0 token := by
  rw [placeholders, List.mem_filterMap]
  constructor
  · rintro ⟨_ | found, hmem, hname⟩
    · cases hname
    · obtain rfl : String.ofList found = name := Option.some.inj hname
      rwa [String.toList_ofList]
  · exact fun hmem => ⟨_, hmem, by simp⟩

/-- **The placeholders that cannot be filled**: those of any token that no parameter stands for. -/
theorem mem_missing_iff {t : CommandTemplate} {params : Fields String} {name : String} :
    name ∈ t.missing params ↔
      ∃ token ∈ t.command, name ∈ parameterNames token ∧ params.get? name = none := by
  simp only [missing, sortedTexts, List.mem_mergeSort, List.mem_eraseDups, List.mem_filter,
    List.mem_flatMap, Option.isNone_iff_eq_none]
  constructor
  · exact fun ⟨⟨token, htoken, hname⟩, hnone⟩ => ⟨token, htoken, hname, hnone⟩
  · exact fun ⟨token, htoken, hname, hnone⟩ => ⟨⟨token, htoken, hname⟩, hnone⟩

theorem missing_eq_nil_iff {t : CommandTemplate} {params : Fields String} :
    t.missing params = [] ↔
      ∀ token ∈ t.command, ∀ name ∈ parameterNames token, params.get? name ≠ none := by
  simp only [List.eq_nil_iff_forall_not_mem, mem_missing_iff, not_exists, not_and]
  exact ⟨fun h token htoken name => h name token htoken,
    fun h name token htoken => h token htoken name⟩

/-- Parameters whose names and values have none of the signs that placeholders are made of, and
whose values are not empty. -/
def PlainParameters (params : Fields String) : Prop :=
  ∀ p ∈ params, (∀ c ∈ ['$', '\x7b', '\x7d'], c ∉ p.1.toList) ∧ IsPlain p.2.toList

/-- The values of some of the parameters. -/
def valuesOf (params : Fields String) (names : List String) (name : List Char) :
    Option (List Char) :=
  if String.ofList name ∈ names then (params.get? (String.ofList name)).map String.toList else none

variable {params : Fields String}

theorem PlainParameters.of_get? (h : PlainParameters params) {name v : String}
    (hv : params.get? name = some v) : '$' ∉ name.toList ∧ IsPlain v.toList := by
  obtain ⟨p, hfind, rfl⟩ := Option.map_eq_some_iff.mp hv
  obtain rfl : p.1 = name := by simpa using List.find?_some hfind
  obtain ⟨hname, hvalue⟩ := h p (List.mem_of_find?_eq_some hfind)
  exact ⟨hname '$' (by simp), hvalue⟩

theorem PlainParameters.valuesOf (h : PlainParameters params) (names : List String)
    (name v : List Char) (hv : valuesOf params names name = some v) : IsPlain v := by
  unfold CommandTemplate.valuesOf at hv
  split at hv
  · obtain ⟨value, hvalue, rfl⟩ := Option.map_eq_some_iff.mp hv
    exact (h.of_get? hvalue).2
  · cases hv

theorem given_valuesOf {done : List String} {name v : String} (hv : params.get? name = some v) :
    given (valuesOf params done) name.toList v.toList = valuesOf params (done ++ [name]) := by
  funext m
  simp only [given, valuesOf, List.mem_append, List.mem_singleton]
  by_cases hsame : String.ofList m = name
  · subst hsame
    rw [String.toList_ofList, if_pos rfl, hv]
    split <;> simp
  · have hne : m ≠ name.toList := fun h => hsame (by rw [h, String.ofList_toList])
    rw [if_neg hne, Option.or_none]
    simp only [hsame, or_false]

/-- **All parameters are filled**, one after the other. -/
theorem Cut.foldl_fillParameter (h : Cut cs ps) (hparams : PlainParameters params)
    (hnames : ∀ name, .inr name ∈ ps → '$' ∉ name) {names : List String}
    (hfull : ∀ name ∈ names, IsName name.toList ∧ params.get? name ≠ none) (done : List String) :
    names.foldl (fillParameter params) (ps.flatMap (shown (CommandTemplate.valuesOf params done))) =
      ps.flatMap (shown (CommandTemplate.valuesOf params (done ++ names))) := by
  induction names generalizing done with
  | nil => rw [List.append_nil, List.foldl_nil]
  | cons name names ih =>
    obtain ⟨⟨hname, hsome⟩, hrest⟩ := List.forall_mem_cons.mp hfull
    obtain ⟨v, hv⟩ := Option.ne_none_iff_exists'.mp hsome
    rw [List.foldl_cons, fillParameter, hv]
    dsimp only
    rw [h.replaceAll_shown (hparams.valuesOf done) hname hnames, given_valuesOf hv, ih hrest,
      List.append_assoc, List.singleton_append]

/-! ### Filling all at once -/

/-- A token with all of its placeholders filled at the same time. -/
def filledAtOnce (value : String → String) (token : String) : String :=
  String.ofList <| (pieces findVariable 0 token.toList).flatMap fun
    | .inl c => [c]
    | .inr name => (value (String.ofList name)).toList

/-- What a placeholder stands for: the prompt or the value of a parameter. -/
def meaning (params : Fields String) (prompt name : String) : String :=
  if name = "PROMPT" then prompt else (params.get? name).getD ""

/-- **A token is filled at once.** The prompt may be any text. -/
theorem fillToken_eq_filledAtOnce {t : CommandTemplate} {token : String} (prompt : String)
    (hmode : t.mode = .stdin → asksPrompt token = false) (hparams : PlainParameters params)
    (hfull : ∀ name ∈ parameterNames token, params.get? name ≠ none) :
    t.fillToken params prompt token = filledAtOnce (meaning params prompt) token := by
  have hcut := cut_pieces token.toList
  have hparameter {name : List Char} (hmem : .inr name ∈ pieces findVariable 0 token.toList)
      (hne : String.ofList name ≠ "PROMPT") : String.ofList name ∈ parameterNames token := by
    refine List.mem_filter.mpr ⟨mem_placeholders_iff.mpr ?_, decide_eq_true hne⟩
    rwa [String.toList_ofList]
  have hnames (name : List Char) (hmem : .inr name ∈ pieces findVariable 0 token.toList) :
      '$' ∉ name := by
    by_cases hprompt : String.ofList name = "PROMPT"
    · rw [← String.toList_ofList (l := name), hprompt]
      decide
    · obtain ⟨v, hv⟩ := Option.ne_none_iff_exists'.mp (hfull _ (hparameter hmem hprompt))
      rw [← String.toList_ofList (l := name)]
      exact (hparams.of_get? hv).1
  have hfilled : (parameterNames token).foldl (fillParameter params) token.toList =
      (pieces findVariable 0 token.toList).flatMap
        (shown (valuesOf params (parameterNames token))) := by
    have hvalid (name : String) (hname : name ∈ parameterNames token) :
        Template.IsName name.toList ∧ params.get? name ≠ none :=
      ⟨hcut.isName (mem_placeholders_iff.mp (List.mem_filter.mp hname).1), hfull name hname⟩
    have hnone : valuesOf params [] = fun _ => none := by
      funext name
      rw [valuesOf, if_neg List.not_mem_nil]
    have hfold := hcut.foldl_fillParameter hparams hnames hvalid []
    rwa [hnone, hcut.flatMap_shown_none, List.nil_append] at hfold
  have hprompt : valuesOf params (parameterNames token) "PROMPT".toList = none := by
    rw [valuesOf, if_neg]
    simp [parameterNames]
  have hvalue {name : List Char} (hmem : .inr name ∈ pieces findVariable 0 token.toList)
      (hne : String.ofList name ≠ "PROMPT") : valuesOf params (parameterNames token) name =
        some (meaning params prompt (String.ofList name)).toList := by
    obtain ⟨v, hv⟩ := Option.ne_none_iff_exists'.mp (hfull _ (hparameter hmem hne))
    rw [valuesOf, if_pos (hparameter hmem hne), meaning, if_neg hne, hv]
    rfl
  have hmeaning : meaning params prompt "PROMPT" = prompt := if_pos rfl
  unfold fillToken filledAtOnce
  dsimp only
  rw [hfilled]
  congr 1
  by_cases hasks : asksPrompt token = true
  · have hargv : t.mode = .argv := by
      cases hm : t.mode with
      | argv => rfl
      | stdin => exact absurd hasks (by rw [hmode hm]; decide)
    rw [if_pos (by rw [hasks, hargv]; rfl), promptMark,
      hcut.replaceAll_shown (hparams.valuesOf _) ⟨by decide, by decide⟩ hnames]
    refine List.flatMap_congr fun p hp => ?_
    cases p with
    | inl c => rfl
    | inr name =>
      by_cases hname : String.ofList name = "PROMPT"
      · obtain rfl : name = "PROMPT".toList := by rw [← hname, String.toList_ofList]
        rw [shown, given, hprompt, if_pos rfl]
        change prompt.toList = (meaning params prompt (String.ofList "PROMPT".toList)).toList
        rw [hname, hmeaning]
      · rw [shown, given, hvalue hp hname]
        rfl
  · rw [if_neg (by simp [hasks])]
    refine List.flatMap_congr fun p hp => ?_
    cases p with
    | inl c => rfl
    | inr name =>
      have hname : String.ofList name ≠ "PROMPT" := by
        intro hname
        have hmark := hcut.mark_infix hp
        rw [← String.toList_ofList (l := name), hname] at hmark
        exact hasks (occursIn_eq_true_iff.mpr hmark)
      rw [shown, hvalue hp hname]
      rfl

/-! ### Command lines -/

/-- A template that is valid asks for the prompt only where it is passed in the command line. -/
theorem asksPrompt_eq_false {t : CommandTemplate} (h : t.errors = []) (hmode : t.mode = .stdin)
    {token : String} (htoken : token ∈ t.command) : asksPrompt token = false := by
  have hnone := (List.append_eq_nil_iff.mp h).2
  rw [hmode] at hnone
  have hfilter := List.map_eq_nil_iff.mp hnone
  exact Bool.eq_false_iff.mpr (List.filter_eq_nil_iff.mp hfilter token htoken)

/-- **A command line is filled at once.** -/
theorem build_eq {t : CommandTemplate} (h : t.errors = []) (hparams : PlainParameters params)
    (hfull : t.missing params = []) (prompt : String) (extra : List String) :
    t.build params prompt extra =
      t.command.map (filledAtOnce (meaning params prompt)) ++ extra := by
  rw [build, List.map_congr_left fun token htoken => ?_]
  exact fillToken_eq_filledAtOnce prompt (fun hmode => asksPrompt_eq_false h hmode htoken) hparams
    (missing_eq_nil_iff.mp hfull token htoken)

end CommandTemplate

/-! ### Asking a program -/

namespace ProgramAgent

/-- The call by which a program is asked. -/
def call (a : ProgramAgent) (extra : List String) (r : AgentRequest) (env : Fields String) :
    ProgramCall where
  argv := a.template.build a.params (composePrompt r) extra
  stdin := if a.template.mode = .stdin then some (composePrompt r) else none
  env := Fields.setAll env a.env
  timeout := a.timeout

/-- A program is not asked when a placeholder of its template cannot be filled. -/
theorem perform_answer_of_missing {a : ProgramAgent} (h : a.template.missing a.params ≠ [])
    (extra : List String) (r : AgentRequest) (out : Surroundings) (w : World) :
    (a.answer extra r).perform out w =
      (.error (.agent (.missingPlaceholders a.template.name (a.template.missing a.params))), w) := by
  rw [answer]
  dsimp only
  rw [if_pos (by simpa using h)]
  rfl

/-- The end of a program is read without doing anything. -/
theorem perform_readReply (a : ProgramAgent) (program : String) (reply : ProgramReply)
    (out : Surroundings) (w : World) :
    ∃ answer, (a.readReply program reply).perform out w = (answer, w) := by
  cases reply with
  | exited stdout stderr code =>
    rw [readReply]
    split
    · exact ⟨_, rfl⟩
    · exact ⟨_, rfl⟩
  | timedOut =>
    rw [readReply, Act.perform_bind, Act.perform_ofExcept]
    cases a.timeout.text <;> exact ⟨_, rfl⟩
  | notFound => exact ⟨_, rfl⟩
  | notStarted reason => exact ⟨_, rfl⟩
  | crashed reason => exact ⟨_, rfl⟩

/-- **A program is asked once** when all placeholders can be filled. -/
theorem perform_answer {a : ProgramAgent} (h : a.template.missing a.params = [])
    (extra : List String) (r : AgentRequest) (out : Surroundings) (w : World) :
    ∃ answer, (a.answer extra r).perform out w =
      (answer, { w with events := w.events ++ [.program (a.call extra r out.env)] }) := by
  obtain ⟨answer, hreply⟩ := a.perform_readReply
    ((a.template.build a.params (composePrompt r) extra).headD "")
    (out.program w.events (a.call extra r out.env)) out
    { w with events := w.events ++ [.program (a.call extra r out.env)] }
  refine ⟨answer, ?_⟩
  rw [ProgramAgent.answer]
  dsimp only
  rw [if_neg (by simp [h])]
  exact hreply

end ProgramAgent

namespace CommandTemplate

/-- What is guaranteed of the command lines that a template makes. -/
structure FillsAtOnce (t : CommandTemplate) : Prop where
  /-- There is a token for each of the template, with all of its placeholders filled at the same
  time, and then come the further arguments. The prompt may be any text. -/
  build_eq : ∀ (params : Fields String) (prompt : String) (extra : List String),
    PlainParameters params → t.missing params = [] →
      t.build params prompt extra =
        t.command.map (filledAtOnce (meaning params prompt)) ++ extra
  /-- A placeholder is missing when no parameter stands for it, whatever the prompt may be. -/
  mem_missing_iff : ∀ (params : Fields String) (name : String),
    name ∈ t.missing params ↔
      ∃ token ∈ t.command, name ∈ parameterNames token ∧ params.get? name = none
  /-- When placeholders are missing, an agent says which ones and starts no program. -/
  refused : ∀ (a : ProgramAgent), a.template = t → t.missing a.params ≠ [] →
    ∀ (extra : List String) (r : AgentRequest) (out : Surroundings) (w : World),
      (a.answer extra r).perform out w =
        (.error (.agent (.missingPlaceholders t.name (t.missing a.params))), w)

/-- **Valid templates are filled at once.** -/
theorem fillsAtOnce_of_valid {t : CommandTemplate} (h : t.errors = []) : t.FillsAtOnce where
  build_eq _ prompt extra hparams hfull := build_eq h hparams hfull prompt extra
  mem_missing_iff _ _ := mem_missing_iff
  refused := by
    rintro a rfl hmissing extra r out w
    exact ProgramAgent.perform_answer_of_missing hmissing extra r out w

theorem fillsAtOnce_of_valid_claude :
    claudeTemplate.errors = [] ∧ PlainParameters [("model", "opus")] ∧
      claudeTemplate.build [("model", "opus")] "explain $\x7bmodel\x7d" ["-v"] =
        ["claude", "-p", "explain $\x7bmodel\x7d", "--model", "opus", "-v"] := by
  have hvalid : claudeTemplate.errors = [] := by decide
  have hplain : PlainParameters [("model", "opus")] := by simp [PlainParameters, IsPlain]
  have hfull : claudeTemplate.missing [("model", "opus")] = [] :=
    missing_eq_nil_iff.mpr (by decide)
  refine ⟨hvalid, hplain, ?_⟩
  rw [(fillsAtOnce_of_valid hvalid).build_eq _ _ _ hplain hfull]
  decide

end CommandTemplate

end StepFlow
