import StepFlow.Proofs.Files.Access
import StepFlow.Proofs.Run.Context
import StepFlow.Proofs.Value.Text

/-!
# Contexts in parts

A context has three parts, and each of them is built as if there were no others: reading files
changes nothing but the log, and commands are run as they would be without files before them. So the
text of a context is put together from the texts that its files, its commands and its variables have
alone.

Within a part, failures stay where they are. A pattern that brings nothing leaves no trace in the
text, whether it fails or finds only files that cannot be read or have been gathered under the same
label. The block of a command shows what this command has written, or why it could not be started,
and nothing that has become of other commands. Exit codes are shown nowhere.

What is the same file is another matter. A file that is found again under a label of its own is shown
twice, unless the patterns agree.

## Main definitions

* `Collector.Idle` — a pattern brings nothing to what has been gathered
* `Surroundings.SameButCodes` — commands do the same but for their exit codes
* `ContextSpec.Prepared` — what a context is built from is there
* `ContextSpec.Composes` — how a context is put together

## Main results

* `Collector.contents_gather_of_idle` — an idle pattern might as well not be there
* `ContextSpec.Prepared.perform_build` — the text of a context, and the calls made for it
* `ContextSpec.composes` — every context that is prepared is put together so
* `ContextSpec.not_idle_winding` — a file that is shown twice
-/

namespace StepFlow

open Act

/-! ### Patterns that bring nothing -/

namespace Collector

variable {c : Collector} {t : FileTree} {g : Gathered} {label pattern : String}
  {before after : List String}

/-- A pattern brings nothing to what has been gathered: it fails, or the labels it finds have no text
or are there already. -/
inductive Idle (c : Collector) (t : FileTree) (contents : Fields String) (pattern : String) : Prop
  | fails {e : Fault} : c.find t pattern = .error e → isForeseen e = true → Idle c t contents pattern
  | finds {labels : List String} : c.find t pattern = .ok labels →
      (∀ label ∈ labels, (∃ e, c.textAt t label = .error e) ∨ ∃ text, (label, text) ∈ contents) →
      Idle c t contents pattern

theorem contents_gatherFile_of_idle
    (h : (∃ e, c.textAt t label = .error e) ∨ ∃ text, (label, text) ∈ g.contents) :
    (c.gatherFile t g label).contents = g.contents := by
  rw [gatherFile]
  by_cases hthere : (g.contents.get? label).isSome
  · rw [if_pos hthere]
  · rw [if_neg hthere]
    rcases h with ⟨e, he⟩ | ⟨text, hmem⟩
    · rw [he]
    · exact absurd (isSome_get?_iff.mpr ⟨_, hmem, rfl⟩) hthere

theorem contents_gatherFiles_of_idle {labels : List String}
    (h : ∀ label ∈ labels, (∃ e, c.textAt t label = .error e) ∨ ∃ text, (label, text) ∈ g.contents) :
    (labels.foldl (c.gatherFile t) g).contents = g.contents := by
  induction labels generalizing g with
  | nil => rfl
  | cons label labels ih =>
    obtain ⟨hlabel, hlabels⟩ := List.forall_mem_cons.mp h
    have hsame := contents_gatherFile_of_idle hlabel
    rw [List.foldl_cons, ih (by rwa [hsame]), hsame]

theorem Idle.find_ne {contents : Fields String} (h : c.Idle t contents pattern) :
    c.find t pattern ≠ .error .tooDeep := by
  intro hdeep
  cases h with
  | fails hfind hforeseen =>
    cases hfind.symm.trans hdeep
    cases hforeseen
  | finds hfind => cases hfind.symm.trans hdeep

/-- What has been gathered stays as it is with an idle pattern more. -/
theorem holds_gatherPattern_of_idle {seen : List String} (h : c.Holds t g seen)
    (hidle : c.Idle t g.contents pattern) : c.Holds t (c.gatherPattern t g pattern) seen := by
  refine ⟨Eq.trans ?_ h.contents, (holds_gatherPattern h hidle.find_ne).unbroken⟩
  rw [gatherPattern, h.unbroken, if_neg (by simp)]
  cases hidle with
  | fails hfind hforeseen =>
    rw [hfind]
    dsimp only
    rw [if_pos hforeseen]
  | finds hfind hlabels =>
    rw [hfind]
    exact contents_gatherFiles_of_idle hlabels

/-- **A pattern that brings nothing might as well not be there.** -/
theorem contents_gather_of_idle (hbefore : c.HasRoom t before)
    (h : c.Idle t (c.gather t before).contents pattern) :
    (c.gather t (before ++ pattern :: after)).contents =
      (c.gather t (before ++ after)).contents := by
  have hseen : c.Holds t (c.gather t before) (before.flatMap (c.matched t)) :=
    ⟨contents_gather_of_hasRoom hbefore, (c.fault_gather t before).trans (if_pos hbefore)⟩
  have hwith := (holds_gatherPatterns (holds_gatherPattern_of_idle hseen h) after).1
  have hwithout := (holds_gatherPatterns hseen after).1
  rw [gather, gather, List.foldl_append, List.foldl_append, List.foldl_cons]
  exact hwith.trans hwithout.symm

/-- A file that has been gathered is known by its label, if the patterns that find it agree. -/
theorem idle_of_agree (ht : t.Sound) (hw : c.workspace.IsResolved) {labels : List String}
    (hfind : c.find t pattern = .ok labels) (hagree : ∀ pattern' ∈ before, c.Agree pattern' pattern)
    (h : ∀ label ∈ labels, (∃ e, c.textAt t label = .error e) ∨
      ∃ field ∈ (c.gather t before).contents, c.placeOf field.1 = c.placeOf label) :
    c.Idle t (c.gather t before).contents pattern := by
  refine .finds hfind fun label hlabel => (h label hlabel).imp_right ?_
  rintro ⟨field, hfield, hplace⟩
  obtain ⟨⟨pattern', hpattern', hmatched⟩, -⟩ := mem_contents_gather_iff.mp hfield
  have hbefore := (List.takeWhile_prefix _).subset hpattern'
  rw [← matched_of_ok hfind] at hlabel
  obtain rfl := label_eq_of_placeOf_eq ht hw (hagree pattern' hbefore) hmatched hlabel hplace
  exact ⟨field.2, hfield⟩

end Collector

/-! ### Answers of the shell -/

namespace ShellReply

/-- Two answers that differ in an exit code at most. -/
inductive SameButCode : ShellReply → ShellReply → Prop
  | same (r : ShellReply) : SameButCode r r
  | exited (stdout stderr : List UInt8) (code code' : Int) :
      SameButCode (.exited stdout stderr code) (.exited stdout stderr code')

theorem SameButCode.written_eq {r r' : ShellReply} (h : SameButCode r r') :
    r'.written = r.written := by
  cases h <;> rfl

theorem SameButCode.breaksDown_iff {r r' : ShellReply} (h : SameButCode r r') (e : Fault) :
    r'.BreaksDown e ↔ r.BreaksDown e := by
  cases h <;> exact Iff.rfl

end ShellReply

namespace Surroundings

/-- Two surroundings in which commands do the same but for their exit codes. -/
def SameButCodes (out out' : Surroundings) : Prop :=
  ∀ events files call, (out.shell events files call).1.SameButCode (out'.shell events files call).1 ∧
    (out'.shell events files call).2 = (out.shell events files call).2

theorem SameButCodes.replies {out out' : Surroundings} (h : out.SameButCodes out')
    (events : List Event) (files : FileTree) (commands : List String) :
    List.Forall₂ ShellReply.SameButCode (out.replies events files commands)
      (out'.replies events files commands) := by
  induction commands generalizing events files with
  | nil => exact .nil
  | cons command commands ih =>
    obtain ⟨hreply, hchanges⟩ := h events files ⟨command, .null⟩
    refine .cons hreply ?_
    rw [hchanges]
    exact ih _ _

end Surroundings

namespace ContextSpec

variable {c : ContextSpec} {collector : Collector} {scope : Scope} {out : Surroundings}
  {w w' : World} {patterns commands vars : List String}

/-! ### The parts -/

@[simp] theorem commandsShown_nil (replies : List ShellReply) : commandsShown [] replies = [] := rfl

@[simp] theorem filesShown_gather_nil (collector : Collector) (t : FileTree) :
    filesShown (collector.gather t []).contents = [] := rfl

theorem filesShown_eq_nil_iff {contents : Fields String} :
    filesShown contents = [] ↔ contents = [] := by
  rw [filesShown]
  split
  · exact iff_of_true rfl (List.isEmpty_iff.mp ‹_›)
  · exact iff_of_false (by simp) (mt List.isEmpty_iff.mpr ‹_›)

theorem commandsShown_eq_nil_iff {replies : List ShellReply} :
    commandsShown commands replies = [] ↔ commands = [] := by
  rw [commandsShown]
  split
  · exact iff_of_true rfl (List.isEmpty_iff.mp ‹_›)
  · exact iff_of_false (by simp) (mt List.isEmpty_iff.mpr ‹_›)

/-- The parts of a context are there or not, but they are never empty texts. -/
def IsPart (part : List String) : Prop := part = [] ∨ ∃ text, text ≠ "" ∧ part = [text]

theorem isPart_filesShown (contents : Fields String) : IsPart (filesShown contents) := by
  rw [filesShown]
  split
  · exact .inl rfl
  · exact .inr ⟨_, by simp, rfl⟩

theorem isPart_commandsShown (commands : List String) (replies : List ShellReply) :
    IsPart (commandsShown commands replies) := by
  rw [commandsShown]
  split
  · exact .inl rfl
  · exact .inr ⟨_, by simp, rfl⟩

theorem isPart_of_variablesPart (h : c.variablesPart = .ok vars) :
    IsPart vars ∧ (vars = [] ↔ c.vars = []) := by
  rw [variablesPart] at h
  split at h
  · rename_i hempty
    cases h
    exact ⟨.inl rfl, iff_of_true rfl (List.isEmpty_iff.mp hempty)⟩
  · rename_i hne
    obtain ⟨lines, -, h⟩ := exists_of_bind_ok h
    cases h
    exact ⟨.inr ⟨_, by simp, rfl⟩, iff_of_false (by simp) fun hnil => hne (by rw [hnil]; rfl)⟩

/-- Parts are joined as the texts that they are alone. -/
theorem intercalate_parts {a b d : List String} (ha : IsPart a) (hb : IsPart b) (hd : IsPart d) :
    "\n\n".intercalate (a ++ b ++ d) = "\n\n".intercalate
      (["\n\n".intercalate a, "\n\n".intercalate b, "\n\n".intercalate d].filter (· ≠ "")) := by
  have halone {part : List String} (h : IsPart part) :
      ["\n\n".intercalate part].filter (· ≠ "") = part := by
    rcases h with rfl | ⟨text, htext, rfl⟩
    · rfl
    · rw [String.intercalate_singleton, List.filter_cons_of_pos (by simpa using htext),
        List.filter_nil]
  have hsplit (x y z : String) : [x, y, z] = [x] ++ [y] ++ [z] := rfl
  rw [hsplit, List.filter_append, List.filter_append, halone ha, halone hb, halone hd]

theorem intercalate_eq_empty_iff {a b d : List String} (ha : IsPart a) (hb : IsPart b)
    (hd : IsPart d) : "\n\n".intercalate (a ++ b ++ d) = "" ↔ a = [] ∧ b = [] ∧ d = [] := by
  constructor
  · intro h
    rcases ha with rfl | ⟨x, hx, rfl⟩ <;> rcases hb with rfl | ⟨y, hy, rfl⟩ <;>
      rcases hd with rfl | ⟨z, hz, rfl⟩ <;> simp_all
  · rintro ⟨rfl, rfl, rfl⟩
    rfl

/-- The blocks of commands do not depend on exit codes. -/
theorem commandsShown_eq {replies replies' : List ShellReply}
    (h : List.Forall₂ ShellReply.SameButCode replies replies') (commands : List String) :
    commandsShown commands replies' = commandsShown commands replies := by
  have hblocks : List.zipWith blockOf commands replies' =
      List.zipWith blockOf commands replies := by
    induction h generalizing commands with
    | nil => rfl
    | cons hcode _ ih =>
      cases commands with
      | nil => rfl
      | cons command commands =>
        rw [List.zipWith_cons_cons, List.zipWith_cons_cons, ih, blockOf, blockOf, hcode.written_eq]
  rw [commandsShown, commandsShown, hblocks]

theorem answered_of_sameButCode {replies replies' : List ShellReply}
    (h : List.Forall₂ ShellReply.SameButCode replies replies')
    (hanswered : ∀ r ∈ replies, ∀ e, ¬r.BreaksDown e) : ∀ r ∈ replies', ∀ e, ¬r.BreaksDown e := by
  induction h with
  | nil => nofun
  | cons hcode _ ih =>
    obtain ⟨hreply, hreplies⟩ := List.forall_mem_cons.mp hanswered
    refine List.forall_mem_cons.mpr ⟨fun e => ?_, ih hreplies⟩
    rw [hcode.breaksDown_iff]
    exact hreply e

/-! ### All of a context -/

/-- What a context is built from is there: patterns and commands have been resolved, there is room for
the patterns, the variables have texts, and the shell answers. -/
structure Prepared (c : ContextSpec) (collector : Collector) (scope : Scope) (out : Surroundings)
    (w : World) (patterns commands vars : List String) : Prop where
  files_eq : Template.resolveAll scope c.files = .ok patterns
  room : collector.HasRoom w.files patterns
  commands_eq : Template.resolveAll scope c.commands = .ok commands
  vars_eq : c.variablesPart = .ok vars
  answered : ∀ r ∈ out.replies w.events w.files commands, ∀ e, ¬r.BreaksDown e

theorem perform_filesPart_of_resolved {collector : Collector}
    (h : Template.resolveAll scope c.files = .ok patterns) (hroom : collector.HasRoom w.files patterns)
    (out : Surroundings) :
    ∃ w', (c.filesPart collector scope).perform out w =
        (.ok (filesShown (collector.gather w.files patterns).contents), w') ∧ w.Logged w' := by
  have hpart := c.perform_filesPart collector scope out w
  rcases c.filesPart_cases collector scope out w with
    ⟨parts, w', hparts, hlogged⟩ | ⟨e, w', -, -, he | ⟨patterns', hpatterns, hdeep, -⟩⟩
  · refine ⟨w', ?_, hlogged⟩
    rw [hparts, h] at hpart
    rw [hparts]
    dsimp only at hpart
    rw [hpart]
    split
    · rename_i hempty
      rw [List.isEmpty_iff.mp hempty] at h
      cases h
      rfl
    · dsimp only [bind, Except.bind]
      rw [if_pos hroom]
  · cases h.symm.trans he
  · cases h.symm.trans hpatterns
    exact absurd hroom hdeep

theorem perform_commandsPart_of_resolved (h : Template.resolveAll scope c.commands = .ok commands)
    (hanswered : ∀ r ∈ out.replies w.events w.files commands, ∀ e, ¬r.BreaksDown e) :
    ∃ w', (c.commandsPart scope).perform out w =
        (.ok (commandsShown commands (out.replies w.events w.files commands)), w') ∧
      w'.events = w.events ++ callsOf commands := by
  rcases c.commandsPart_cases ⟨out.workspace, []⟩ w.files scope out w with
    ⟨commands', w', hresolve, -, hparts, hcalls, -⟩ |
    ⟨e, -, -, -, -, -, he | ⟨commands', hresolve, r, hr, hbreaks⟩⟩
  · cases h.symm.trans hresolve
    exact ⟨w', hparts, hcalls⟩
  · cases h.symm.trans he
  · cases h.symm.trans hresolve
    exact absurd hbreaks (hanswered r hr e)

/-- **The text of a context**, and the calls made for it. -/
theorem Prepared.perform_build {collector : Collector}
    (h : c.Prepared collector scope out w patterns commands vars) :
    ∃ w', (c.build collector scope).perform out w =
        (.ok ("\n\n".intercalate (filesShown (collector.gather w.files patterns).contents ++
          commandsShown commands (out.replies w.events w.files commands) ++ vars)), w') ∧
      w'.events = w.events ++ callsOf commands := by
  obtain ⟨w₁, hfiles, lines, rfl⟩ := perform_filesPart_of_resolved h.files_eq h.room out
  obtain ⟨w₂, hcommands, hcalls⟩ := perform_commandsPart_of_resolved
    (w := { w with logs := w.logs ++ lines }) h.commands_eq h.answered
  refine ⟨w₂, ?_, hcalls⟩
  rw [build, perform_bind_of_ok hfiles, perform_bind_of_ok hcommands, h.vars_eq]
  rfl

/-- The text of a context. -/
def textOf (c : ContextSpec) (collector : Collector) (scope : Scope) (out : Surroundings)
    (w : World) : Except Fault String :=
  ((c.build collector scope).perform out w).1

/-- The files of a context alone. -/
def filesOnly (c : ContextSpec) : ContextSpec := { files := c.files }

/-- The commands of a context alone. -/
def commandsOnly (c : ContextSpec) : ContextSpec := { commands := c.commands }

/-- The variables of a context alone. -/
def varsOnly (c : ContextSpec) : ContextSpec := { vars := c.vars }

section

variable {collector : Collector} (h : c.Prepared collector scope out w patterns commands vars)

include h

theorem Prepared.textOf_eq : c.textOf collector scope out w =
    .ok ("\n\n".intercalate (filesShown (collector.gather w.files patterns).contents ++
      commandsShown commands (out.replies w.events w.files commands) ++ vars)) := by
  obtain ⟨w', hbuild, -⟩ := h.perform_build
  rw [textOf, hbuild]

theorem Prepared.filesOnly : c.filesOnly.Prepared collector scope out w patterns [] [] :=
  ⟨h.files_eq, h.room, rfl, rfl, List.forall_mem_nil _⟩

theorem Prepared.commandsOnly : c.commandsOnly.Prepared collector scope out w [] commands [] :=
  ⟨rfl, List.forall_mem_nil _, h.commands_eq, rfl, h.answered⟩

theorem Prepared.varsOnly : c.varsOnly.Prepared collector scope out w [] [] vars :=
  ⟨rfl, List.forall_mem_nil _, rfl, h.vars_eq, List.forall_mem_nil _⟩

theorem Prepared.of_sameButCodes {out' : Surroundings} (hsame : out.SameButCodes out') :
    c.Prepared collector scope out' w patterns commands vars where
  files_eq := h.files_eq
  room := h.room
  commands_eq := h.commands_eq
  vars_eq := h.vars_eq
  answered := answered_of_sameButCode (hsame.replies w.events w.files commands) h.answered

end

/-- **How a context is put together.** -/
structure Composes (c : ContextSpec) (collector : Collector) (scope : Scope) (out : Surroundings)
    (w : World) (patterns commands : List String) : Prop where
  /-- Its text is that of its files, of its commands and of its variables, as far as these have one,
  with a blank line in between. -/
  joined : ∃ files outputs vars,
    c.filesOnly.textOf collector scope out w = .ok files ∧
    c.commandsOnly.textOf collector scope out w = .ok outputs ∧
    c.varsOnly.textOf collector scope out w = .ok vars ∧
    c.textOf collector scope out w =
      .ok ("\n\n".intercalate ([files, outputs, vars].filter (· ≠ "")))
  empty_iff : c.textOf collector scope out w = .ok "" ↔
    (collector.gather w.files patterns).contents = [] ∧ c.commands = [] ∧ c.vars = []
  /-- The commands are run one after the other without time limit, and nothing else is called. -/
  calls : ((c.build collector scope).perform out w).2.events = w.events ++ callsOf commands
  /-- The block of a command shows what this command has written. -/
  blocks : c.commands ≠ [] → c.commandsOnly.textOf collector scope out w =
    .ok ("=== Command Output ===\n" ++ "\n---\n".intercalate
      (List.zipWith blockOf commands (out.replies w.events w.files commands)))
  /-- Exit codes do not matter. -/
  codes : ∀ out', out.SameButCodes out' →
    c.textOf collector scope out' w = c.textOf collector scope out w
  /-- A pattern that brings nothing might as well not be there. -/
  idle : ∀ before pattern after before' pattern', c.files = before ++ pattern :: after →
    Template.resolveAll scope before = .ok before' → Template.resolve scope pattern = .ok pattern' →
    collector.Idle w.files (collector.gather w.files before').contents pattern' →
    ContextSpec.textOf { c with files := before ++ after } collector scope out w =
      c.textOf collector scope out w
  /-- Such is a pattern that finds only files which have been gathered, or cannot be read, if it
  agrees with the patterns before it. -/
  known : w.files.Sound → collector.workspace.IsResolved → ∀ before pattern labels,
    collector.find w.files pattern = .ok labels →
    (∀ pattern' ∈ before, collector.Agree pattern' pattern) →
    (∀ label ∈ labels, (∃ e, collector.textAt w.files label = .error e) ∨
      ∃ field ∈ (collector.gather w.files before).contents,
        collector.placeOf field.1 = collector.placeOf label) →
    collector.Idle w.files (collector.gather w.files before).contents pattern

/-- With a pattern less, a context is prepared from one pattern less. -/
theorem Prepared.without {collector : Collector}
    (h : c.Prepared collector scope out w patterns commands vars)
    {before after before' : List String} {pattern pattern' : String}
    (hfiles : c.files = before ++ pattern :: after)
    (hbefore : Template.resolveAll scope before = .ok before')
    (hpattern : Template.resolve scope pattern = .ok pattern') :
    ∃ after', patterns = before' ++ pattern' :: after' ∧
      ContextSpec.Prepared { c with files := before ++ after } collector scope out w
        (before' ++ after') commands vars := by
  have hall := h.files_eq
  rw [hfiles, Template.resolveAll, List.mapM_append, List.mapM_cons] at hall
  rw [Template.resolveAll] at hbefore
  rw [hbefore, hpattern] at hall
  obtain ⟨_, hfirst, hall⟩ := exists_of_bind_ok hall
  cases hfirst
  obtain ⟨_, hrest, hall⟩ := exists_of_bind_ok hall
  obtain ⟨_, hsecond, hrest⟩ := exists_of_bind_ok hrest
  cases hsecond
  obtain ⟨after', hafter, hrest⟩ := exists_of_bind_ok hrest
  cases hrest
  cases hall
  have hroom : collector.HasRoom w.files (before' ++ after') := fun p hp =>
    h.room p (by simpa using (List.mem_append.mp hp).imp_right .inr)
  refine ⟨after', rfl, ?_, hroom, h.commands_eq, h.vars_eq, h.answered⟩
  rw [Template.resolveAll, List.mapM_append, hbefore, hafter]
  rfl

theorem composes {collector : Collector}
    (h : c.Prepared collector scope out w patterns commands vars) :
    c.Composes collector scope out w patterns commands where
  joined := by
    have hfiles := h.filesOnly.textOf_eq
    have hcommands := h.commandsOnly.textOf_eq
    have hvars := h.varsOnly.textOf_eq
    rw [commandsShown_nil, List.append_nil, List.append_nil] at hfiles
    rw [filesShown_gather_nil, List.append_nil, List.nil_append] at hcommands
    rw [filesShown_gather_nil, commandsShown_nil, List.nil_append, List.nil_append] at hvars
    refine ⟨_, _, _, hfiles, hcommands, hvars, ?_⟩
    rw [h.textOf_eq, intercalate_parts (isPart_filesShown _) (isPart_commandsShown _ _)
      (isPart_of_variablesPart h.vars_eq).1]
  empty_iff := by
    obtain ⟨hpart, hnil⟩ := isPart_of_variablesPart h.vars_eq
    rw [h.textOf_eq, Except.ok.injEq, intercalate_eq_empty_iff (isPart_filesShown _)
      (isPart_commandsShown _ _) hpart, hnil, filesShown_eq_nil_iff, commandsShown_eq_nil_iff,
      nil_iff_of_resolveAll h.commands_eq]
  calls := by
    obtain ⟨w', hbuild, hcalls⟩ := h.perform_build
    rw [hbuild, hcalls]
  blocks hne := by
    have hcommands := h.commandsOnly.textOf_eq
    rw [ne_eq, nil_iff_of_resolveAll h.commands_eq, ← List.isEmpty_iff] at hne
    rw [filesShown_gather_nil, List.append_nil, List.nil_append, commandsShown, if_neg hne,
      String.intercalate_singleton] at hcommands
    exact hcommands
  codes out' hsame := by
    rw [h.textOf_eq, (h.of_sameButCodes hsame).textOf_eq,
      commandsShown_eq (hsame.replies w.events w.files commands)]
  idle before pattern after before' pattern' hfiles hbefore hpattern hidle := by
    obtain ⟨after', rfl, hprepared⟩ := h.without hfiles hbefore hpattern
    have hbefore : collector.HasRoom w.files before' := fun p hp =>
      h.room p (List.mem_append_left _ hp)
    rw [h.textOf_eq, hprepared.textOf_eq, Collector.contents_gather_of_idle hbefore hidle]
  known hsound hresolved before pattern labels hfind hagree hgathered :=
    Collector.idle_of_agree hsound hresolved hfind hagree hgathered

/-- A command that exits with a given code and one that cannot be started. -/
def halfBroken (code : Int) : Surroundings :=
  { Surroundings.silent with shell := fun _ _ call =>
      if call.command = "make" then
        (.exited (Text.Utf8.encode "done".toList) (Text.Utf8.encode "slowly".toList) code, [])
      else (.notStarted "no shell", []) }

/-- A context with a pattern that finds a file again. -/
def noted : ContextSpec where
  files := ["a.txt", "*.txt"]
  commands := ["make", "ls"]
  vars := [(.str "limit", .int 3)]

/-- What fails shows in its own block only. -/
theorem composes_noted :
    let collector := Collector.noteCollector "home"
    let scope : Scope := ⟨"", [], []⟩
    let w : World := { files := Collector.noteTree "home" }
    noted.Prepared collector scope (halfBroken 2) w ["a.txt", "*.txt"] ["make", "ls"]
        ["=== Variables ===\nlimit: 3"] ∧
      noted.Composes collector scope (halfBroken 2) w ["a.txt", "*.txt"] ["make", "ls"] ∧
      noted.textOf collector scope (halfBroken 2) w = .ok
        ("=== Files ===\n--- a.txt ---\nx\n\n\n" ++
          "=== Command Output ===\n$ make\ndone\nslowly\n---\n$ ls\n\nno shell\n\n" ++
          "=== Variables ===\nlimit: 3") := by
  intro collector scope w
  have hprepared : noted.Prepared collector scope (halfBroken 2) w ["a.txt", "*.txt"] ["make", "ls"]
      ["=== Variables ===\nlimit: 3"] :=
    { files_eq := by decide +kernel
      room := by decide +kernel
      commands_eq := by decide +kernel
      vars_eq := by decide +kernel
      answered := by
        have hreplies : (halfBroken 2).replies w.events w.files ["make", "ls"] =
            [.exited (Text.Utf8.encode "done".toList) (Text.Utf8.encode "slowly".toList) 2,
              .notStarted "no shell"] := rfl
        rw [hreplies]
        simp [ShellReply.BreaksDown] }
  exact ⟨hprepared, composes hprepared, by decide +kernel⟩

/-- A directory with a note and an empty directory in it. -/
def deskTree : FileTree :=
  ⟨[(["home"], .directory), (["home", "a.txt"], .file [120]), (["home", "sub"], .directory)]⟩

/-- **A pattern that finds a file again changes a context** if it leads there another way. -/
theorem not_idle_winding :
    let collector := Collector.noteCollector "home"
    let scope : Scope := ⟨"", [], []⟩
    let w : World := { files := deskTree }
    collector.find w.files "sub/../a.txt" = .ok ["sub/../a.txt"] ∧
      (collector.gather w.files ["a.txt"]).contents = [("a.txt", "x")] ∧
      collector.placeOf "sub/../a.txt" = collector.placeOf "a.txt" ∧
      textOf { files := ["a.txt"] } collector scope .silent w =
        .ok "=== Files ===\n--- a.txt ---\nx\n" ∧
      textOf { files := ["a.txt", "sub/../a.txt"] } collector scope .silent w =
        .ok "=== Files ===\n--- a.txt ---\nx\n\n--- sub/../a.txt ---\nx\n" := by
  decide +kernel

end ContextSpec

end StepFlow
