import StepFlow.Proofs.Activity
import StepFlow.Proofs.Json.Writing
import StepFlow.Proofs.Workflow.Loading
import StepFlow.Run.Context

/-!
# Variables in contexts

The variables of a context have texts as keys and any values: whatever a document holds under the
keys of a mapping may be the value of a variable. The context shows each of them on a line, by its key
and its value as JSON, in the order of the mapping.

A value that has no JSON form makes both the context and a template that refers to the variable fail,
although the document is accepted. Such values are told by `Json.Writable`: somewhere in them a mapping
has a key such as a date, a collection holds itself, or collections lie deeper in one another than they
are followed.

## Main definitions

* `ContextSpec.ShowsVariable` — the line of a variable
* `ContextSpec.RendersVariables` — what becomes of the variables of a context

## Main results

* `Document.exists_key_of_readVariables` — the keys of variables are texts
* `ContextSpec.rendersVariables_of_accepted` — what becomes of variables that are accepted
* `ContextSpec.not_rendered_dated` — a document with a variable that is not shown
-/

namespace StepFlow

/-! ### Variables in documents -/

/-- The key of an entry has been there before or has been put in. -/
theorem Value.key_of_mem_insert {k v : Value} {e : Value × Value} {kvs : List (Value × Value)}
    (h : e ∈ insert k v kvs) : e.1 = k ∨ ∃ d ∈ kvs, d.1 = e.1 := by
  induction kvs with
  | nil =>
    cases List.mem_singleton.mp h
    exact .inl rfl
  | cons d rest ih =>
    unfold insert at h
    split at h
    · rcases List.mem_cons.mp h with rfl | h
      · exact .inr ⟨d, List.mem_cons_self, rfl⟩
      · exact .inr ⟨e, List.mem_cons_of_mem _ h, rfl⟩
    · rcases List.mem_cons.mp h with rfl | h
      · exact .inr ⟨_, List.mem_cons_self, rfl⟩
      · refine (ih h).imp_right ?_
        rintro ⟨c, hc, hkey⟩
        exact ⟨c, List.mem_cons_of_mem _ hc, hkey⟩

namespace Document

open Reading (Clean)

theorem exists_key_of_textKeys {acc entries vars : List (Value × Value)}
    (h : Clean (textKeys acc entries) vars) (hacc : ∀ e ∈ acc, ∃ name, e.1 = .str name) :
    ∀ e ∈ vars, ∃ name, e.1 = .str name := by
  induction entries generalizing acc with
  | nil =>
    cases h
    exact hacc
  | cons entry rest ih =>
    obtain ⟨k, v⟩ := entry
    rw [textKeys] at h
    obtain ⟨name, -, h⟩ := h.of_bind fun _ => textKeys_grows _ _
    refine ih h fun e he => ?_
    rcases Value.key_of_mem_insert he with hkey | ⟨d, hd, hkey⟩
    · exact ⟨name, hkey⟩
    · obtain ⟨name', hname⟩ := hacc d hd
      exact ⟨name', hkey.symm.trans hname⟩

/-- **The keys of variables are texts.** -/
theorem exists_key_of_readVariables {path label : String} {v : Value} {vars : List (Value × Value)}
    (h : Clean (readVariables path label v) vars) : ∀ e ∈ vars, ∃ name, e.1 = .str name := by
  unfold readVariables at h
  split at h
  · exact exists_key_of_textKeys h nofun
  · obtain ⟨-, -, h⟩ := h.of_bind fun _ => .pure _
    cases h
    exact nofun

end Document

/-! ### Rendering -/

open Json (Writable Writes Unwritten)

/-- The value of a variable is inserted into a template just if it can be written. -/
theorem Value.insertion_writes {v : Value} (h : v.Short) :
    Writes (Writable nestingLimit v) v.insertion := by
  have hscalar (hplain : Json.IsPlain v) (hnesting : v.nesting = 0)
      (hok : ∃ s, v.insertion = .ok s) : Writes (Writable nestingLimit v) v.insertion :=
    have htext : v.HasText := h.hasText (by omega)
    .inl ⟨.plain hplain (hasText_iff.mp htext), hok⟩
  cases v with
  | bool b => exact hscalar trivial (by simp [nesting]) ⟨_, rfl⟩
  | null => exact hscalar trivial (by simp [nesting]) ⟨_, rfl⟩
  | double x => exact hscalar trivial (by simp [nesting]) ⟨_, rfl⟩
  | str s => exact hscalar trivial (by simp [nesting]) ⟨_, rfl⟩
  | rough t => exact hscalar trivial (by simp [nesting]) ⟨_, rfl⟩
  | int n => exact hscalar trivial (by simp [nesting]) (h.hasText (by simp [nesting]))
  | _ => exact Json.write_writes h

namespace ContextSpec

/-- An entry has a text as its key, and its value has short integers only. -/
def IsVariable (e : Value × Value) : Prop := (∃ name, e.1 = .str name) ∧ e.2.Short

/-- The line of a variable: its key and its value as JSON. -/
def ShowsVariable (e : Value × Value) (line : String) : Prop :=
  ∃ name json, e.1 = .str name ∧ Json.write .inline e.2 = .ok json ∧ line = s!"{name}: {json}"

theorem variableLine_eq_ok_iff {e : Value × Value} (h : IsVariable e) {line : String} :
    variableLine e = .ok line ↔ ShowsVariable e line := by
  obtain ⟨k, v⟩ := e
  obtain ⟨⟨name, rfl⟩, -⟩ := h
  rw [variableLine]
  change (do let value ← Json.write .inline v; pure s!"{name}: {value}") = Except.ok line ↔ _
  constructor
  · intro hline
    obtain ⟨json, hjson, hline⟩ := exists_of_bind_ok hline
    cases hline
    exact ⟨name, json, rfl, hjson, rfl⟩
  · rintro ⟨name', json, hname, hjson, rfl⟩
    cases hname
    rw [hjson]
    rfl

theorem variableLine_writes {e : Value × Value} (h : IsVariable e) :
    Writes (Writable nestingLimit e.2) (variableLine e) := by
  obtain ⟨k, v⟩ := e
  obtain ⟨⟨name, rfl⟩, hshort⟩ := h
  rw [variableLine]
  exact (Json.write_writes hshort).map fun _ => ⟨_, rfl⟩

theorem variableLines_writes {vars : List (Value × Value)} (h : ∀ e ∈ vars, IsVariable e) :
    Writes (∀ e ∈ vars, Writable nestingLimit e.2) (vars.mapM variableLine) := by
  induction vars with
  | nil => exact (Writes.ok _).congr (iff_of_true trivial nofun)
  | cons e rest ih =>
    obtain ⟨he, hrest⟩ := List.forall_mem_cons.mp h
    rw [List.mapM_cons]
    refine ((variableLine_writes he).bind fun _ => (ih hrest).map fun _ => ⟨_, rfl⟩).congr ?_
    rw [List.forall_mem_cons]

theorem forall₂_of_variableLines {vars : List (Value × Value)} {lines : List String}
    (h : ∀ e ∈ vars, IsVariable e) (hlines : vars.mapM variableLine = .ok lines) :
    List.Forall₂ ShowsVariable vars lines := by
  induction vars generalizing lines with
  | nil =>
    cases hlines
    exact .nil
  | cons e rest ih =>
    obtain ⟨he, hrest⟩ := List.forall_mem_cons.mp h
    rw [List.mapM_cons] at hlines
    obtain ⟨line, hline, hlines⟩ := exists_of_bind_ok hlines
    obtain ⟨others, hothers, hlines⟩ := exists_of_bind_ok hlines
    cases hlines
    exact .cons ((variableLine_eq_ok_iff he).mp hline) (ih hrest hothers)

/-- **What becomes of the variables of a context.** -/
structure RendersVariables (c : ContextSpec) : Prop where
  /-- There is a part with the variables just if all of them can be written. -/
  writes : Writes (∀ e ∈ c.vars, Writable nestingLimit e.2) c.variablesPart
  /-- The part has a line for each variable, in order. It is left out where there are none. -/
  shows : ∀ parts, c.variablesPart = .ok parts → c.vars = [] ∧ parts = [] ∨
    ∃ lines, List.Forall₂ ShowsVariable c.vars lines ∧
      parts = ["=== Variables ===\n" ++ "\n".intercalate lines]
  /-- In a context this part comes last, and what fails here makes the whole fail. -/
  ends : ∀ (collector : Collector) (scope : Scope) (out : Surroundings) (w w₁ w₂ : World)
    (files commands : List String),
    (c.filesPart collector scope).perform out w = (.ok files, w₁) →
    (c.commandsPart scope).perform out w₁ = (.ok commands, w₂) →
    (c.build collector scope).perform out w =
      (c.variablesPart.map fun vars => "\n\n".intercalate (files ++ commands ++ vars), w₂)
  /-- Templates show the values that can be written, and no others. -/
  inserts : ∀ e ∈ c.vars, Writes (Writable nestingLimit e.2) e.2.insertion

theorem rendersVariables {c : ContextSpec} (h : ∀ e ∈ c.vars, IsVariable e) :
    c.RendersVariables where
  writes := by
    rw [variablesPart]
    split
    · rename_i hempty
      rw [List.isEmpty_iff.mp hempty]
      exact (Writes.ok _).congr (iff_of_true trivial nofun)
    · exact (variableLines_writes h).map fun _ => ⟨_, rfl⟩
  shows parts hparts := by
    rw [variablesPart] at hparts
    split at hparts
    · rename_i hempty
      cases hparts
      exact .inl ⟨List.isEmpty_iff.mp hempty, rfl⟩
    · obtain ⟨lines, hlines, hparts⟩ := exists_of_bind_ok hparts
      cases hparts
      exact .inr ⟨lines, forall₂_of_variableLines h hlines, rfl⟩
  ends collector scope out w w₁ w₂ files commands hfiles hcommands := by
    rw [build, Act.perform_bind_of_ok hfiles, Act.perform_bind_of_ok hcommands, Act.perform_bind,
      Act.perform_ofExcept]
    cases c.variablesPart <;> rfl
  inserts e he := Value.insertion_writes (h e he).2

/-- **What becomes of the variables that a document declares**, if they are accepted. -/
theorem rendersVariables_of_accepted {path label : String} {v : Value} {c : ContextSpec}
    (hread : Reading.Clean (Document.readVariables path label v) c.vars)
    (hshort : ∀ e ∈ c.vars, e.2.Short) : c.RendersVariables :=
  rendersVariables fun e he => ⟨Document.exists_key_of_readVariables hread e he, hshort e he⟩

/-- A context with one variable. -/
def due (v : Value) : ContextSpec := { vars := [(.str "due", v)] }

/-- A step that shows this variable to an agent. -/
def dueStep (v : Value) : Step where
  name := "a"
  type := .str "agent"
  prompt := some "p"
  context := some (due v)

/-- A document with this step. -/
def dueDocument (v : Value) : Value :=
  let context := Value.map [(.str "variables", .map [(.str "due", v)])]
  let step := Value.map
    [(.str "name", .str "a"), (.str "type", .str "agent"), (.str "prompt", .str "p"),
      (.str "context", context)]
  .map [(.str "workflows", .map [(.str "w", .map [(.str "steps", .list [step])])])]

/-- The document is accepted, whatever the variable holds. -/
theorem workflows_dueDocument (v : Value) :
    Document.workflows (dueDocument v) = .ok [("w", { name := "w", steps := [dueStep v] })] := rfl

/-- A mapping with keys of several kinds. -/
def charted : Value :=
  .map [(.bool true, .date ⟨2025, 1, 2⟩), (.null, .list [.bytes [97], .null]), (.str "k", .map [])]

theorem short_charted : charted.Short := by
  have hscalar {v : Value} (hn : v.integers = []) (hu : v.parts = []) : v.Short :=
    .intro (by simp [hn]) (by simp [hu])
  have hbool : (Value.bool true).Short := hscalar rfl rfl
  have hdate : (Value.date ⟨2025, 1, 2⟩).Short := hscalar rfl rfl
  have hbytes : (Value.bytes [97]).Short := hscalar rfl rfl
  simp [charted, hbool, hdate, hbytes]

/-- The variable is shown, the values without a form in JSON as strings. -/
theorem rendersVariables_of_accepted_charted :
    Reading.Clean (Document.readVariables "" "a" (.map [(.str "due", charted)])) (due charted).vars ∧
      (due charted).RendersVariables ∧ (due charted).variablesPart =
        .ok ["=== Variables ===\n" ++
          "due: \x7b\"true\": \"2025-01-02\", \"null\": [\"b'a'\", null], \"k\": \x7b\x7d\x7d"] := by
  have hread : Reading.Clean (Document.readVariables "" "a" (.map [(.str "due", charted)]))
      (due charted).vars := rfl
  have hshort : ∀ e ∈ (due charted).vars, e.2.Short := List.forall_mem_singleton.mpr short_charted
  exact ⟨hread, rendersVariables_of_accepted hread hshort, rfl⟩

/-- A mapping whose only key is a date. -/
def dated : Value := .map [(.date ⟨2025, 1, 2⟩, .str "review")]

/-- The document with this value is accepted. Its context is never built, and no template that refers
to the variable is resolved. -/
theorem not_rendered_dated :
    Document.workflows (dueDocument dated) =
        .ok [("w", { name := "w", steps := [dueStep dated] })] ∧
      (∀ collector scope out w, ((due dated).build collector scope).perform out w =
        (.error (.wrongKind "keys must be str, int, float, bool or None, not date"), w)) ∧
      dated.insertion =
        .error (.wrongKind "keys must be str, int, float, bool or None, not date") :=
  ⟨workflows_dueDocument dated, fun _ _ _ _ => rfl, rfl⟩

end ContextSpec

end StepFlow
