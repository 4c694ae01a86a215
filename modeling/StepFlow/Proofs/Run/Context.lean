import StepFlow.Proofs.Files.Access
import StepFlow.Proofs.Files.Gathering
import StepFlow.Run.Context
import Mathlib.Data.List.Forall2

/-!
# Contexts

A context is built from files, from what commands write and from variables, in this order. Files are
read only; the shell is called once for each command, and not before all commands are resolved.

A command of a context may fail in many ways: it exits with a code other than zero, a signal ends
it, its time runs out, it cannot be started. None of these is a fault. The context shows what the
command has written, and for a command whose time ran out or that could not be started the reason. The
exit code is not shown: one other than zero leaves a line in the log, and nothing else.

Only a shell that breaks down is a fault, and so is a command that cannot be resolved. These are the
two ways in which `ContextSpec.commandsPart` can fail.

## Main definitions

* `ShellReply.BreaksDown` — the shell does not tell how a command has ended
* `Surroundings.replies` — the answers to commands that are run one after the other
* `ContextSpec.commandsShown`, `ContextSpec.exitWarnings` — what the ends of commands leave in a
  context, and in the log
* `ContextSpec.ContainsCommands` — a context shows how its commands end
* `ContextSpec.Stops` — why a context is not built, and the commands that have been run by then

## Main results

* `CommandResult.ofReply_null` — every end of a command without time limit is a result
* `ContextSpec.containsCommands` — every context does so, in all surroundings
* `ContextSpec.build_cases` — the calls that are made for a context
-/

namespace StepFlow

open Act

/-! ### Ends of commands -/

/-- The shell breaks down with a fault, and does not tell how the command has ended. -/
def ShellReply.BreaksDown : ShellReply → Fault → Prop
  | .crashed reason, e => e = .foreign "RuntimeError" reason
  | .refused fault, e => e = fault
  | _, _ => False

/-- What a command without time limit has left to be shown: what it wrote, or the reason why it could
not be started. -/
def ShellReply.written : ShellReply → String × String
  | .exited stdout stderr _ =>
    (CommandResult.decode (some stdout), CommandResult.decode (some stderr))
  | .timedOut stdout stderr =>
    (CommandResult.decode stdout,
      if CommandResult.decode stderr = "" then "Command timed out after None seconds"
      else CommandResult.decode stderr)
  | .notStarted reason => ("", reason)
  | .crashed _ | .refused _ => ("", "")

/-- The exit code that stands for the end of a command. -/
def ShellReply.exitCode : ShellReply → Int
  | .exited _ _ code => code
  | .timedOut .. => CommandResult.timeoutCode
  | .notStarted _ => 1
  | .crashed _ | .refused _ => 0

/-- Every end of a command without time limit is a result. -/
theorem CommandResult.ofReply_null (reply : ShellReply) :
    ((∀ e, ¬reply.BreaksDown e) ∧ ∃ result, ofReply .null reply = .ok result ∧
      (result.stdout, result.stderr) = reply.written ∧ result.exitCode = reply.exitCode) ∨
      ∃ e, ofReply .null reply = .error e ∧ reply.BreaksDown e := by
  cases reply with
  | exited stdout stderr code => exact .inl ⟨fun _ => id, _, rfl, rfl, rfl⟩
  | timedOut stdout stderr =>
    have hnull : Value.null.text = .ok "None" := rfl
    refine .inl ⟨fun _ => id, ?_⟩
    simp only [ofReply, hnull, ShellReply.written]
    split
    · exact ⟨_, rfl, rfl, rfl⟩
    · exact ⟨_, rfl, rfl, rfl⟩
  | notStarted reason => exact .inl ⟨fun _ => id, _, rfl, rfl, rfl⟩
  | crashed reason => exact .inr ⟨_, rfl, rfl⟩
  | refused fault => exact .inr ⟨_, rfl, rfl⟩

theorem perform_changes (changes : List Change) (out : Surroundings) (w : World) :
    (changes.forM change).perform out w = (.ok (), w.changedBy changes) := by
  induction changes generalizing w with
  | nil =>
    rw [World.changedBy_nil]
    rfl
  | cons c changes ih =>
    have hfirst := perform_change_eq c out w
    refine (perform_bind_of_ok hfirst _).trans ((ih _).trans ?_)
    rw [World.changedBy_changedBy, List.singleton_append]

/-- The world after a call of the shell. The call is the only event. -/
def World.called (w : World) (out : Surroundings) (call : ShellCall) : World :=
  changedBy { w with events := w.events ++ [.shell call] } (out.shell w.events w.files call).2

/-- A call of the shell gives the answer of the surroundings. -/
theorem perform_shell (call : ShellCall) (out : Surroundings) (w : World) :
    (shell call).perform out w = (.ok (out.shell w.events w.files call).1, w.called out call) := by
  simp only [shell, perform_bind, perform_read, perform_get, perform_record, perform_changes,
    perform_pure]
  rfl

theorem perform_runCommand (command : String) (timeout : Value) (out : Surroundings) (w : World) :
    (runCommand command timeout).perform out w =
      (CommandResult.ofReply timeout (out.shell w.events w.files ⟨command, timeout⟩).1,
        w.called out ⟨command, timeout⟩) := by
  rw [runCommand, perform_bind_of_ok (perform_shell _ out w), perform_ofExcept]

/-- The answers to commands that are run one after the other without time limit. -/
def Surroundings.replies (out : Surroundings) :
    List Event → FileTree → List String → List ShellReply
  | _, _, [] => []
  | events, files, command :: rest =>
    let answer := out.shell events files ⟨command, .null⟩
    answer.1 ::
      out.replies (events ++ [.shell ⟨command, .null⟩]) (files.applyAll answer.2) rest

namespace ContextSpec

variable {out : Surroundings} {w : World}

/-! ### Blocks of commands -/

/-- The block of a command: the command, and what it has left to be shown. -/
def blockOf (command : String) (r : ShellReply) : String :=
  s!"$ {command}\n{r.written.1}\n{r.written.2}"

/-- The line that the end of a command leaves in the log. -/
def exitWarning (command : String) (r : ShellReply) : List LogLine :=
  if r.exitCode = 0 then []
  else [⟨.warning, s!"Context command exited with code {r.exitCode}: {command}"⟩]

/-- The part with the output of commands. -/
def commandsShown (commands : List String) (replies : List ShellReply) : List String :=
  if commands.isEmpty then []
  else ["=== Command Output ===\n" ++ "\n---\n".intercalate (List.zipWith blockOf commands replies)]

/-- The lines that the ends of commands leave in the log. -/
def exitWarnings (commands : List String) (replies : List ShellReply) : List LogLine :=
  (List.zipWith exitWarning commands replies).flatten

/-- Why there is no part with the output of commands: one cannot be resolved, or the shell breaks down
over one. -/
def CommandsFail (c : ContextSpec) (scope : Scope) (out : Surroundings) (w : World) (e : Fault) :
    Prop :=
  Template.resolveAll scope c.commands = .error e ∨
    ∃ commands, Template.resolveAll scope c.commands = .ok commands ∧
      ∃ r ∈ out.replies w.events w.files commands, r.BreaksDown e

/-- The events of running commands, each without time limit. -/
def callsOf (commands : List String) : List Event :=
  commands.map fun command => .shell ⟨command, .null⟩

/-- The shell is called once for the block of a command, and a command that has ended leaves its
block and its warning. -/
theorem commandBlock_cases (command : String) (out : Surroundings) (w : World) :
    let reply := (out.shell w.events w.files ⟨command, .null⟩).1
    ∃ w', w'.events = w.events ++ callsOf [command] ∧
      (((∀ e, ¬reply.BreaksDown e) ∧
          (commandBlock command).perform out w = (.ok (blockOf command reply), w') ∧
          w'.files = w.files.applyAll (out.shell w.events w.files ⟨command, .null⟩).2 ∧
          w'.logs = w.logs ++ exitWarning command reply) ∨
        ∃ e, reply.BreaksDown e ∧ (commandBlock command).perform out w = (.error e, w')) := by
  intro reply
  have hrun := perform_runCommand command .null out w
  rcases CommandResult.ofReply_null reply with
    ⟨hanswers, result, hresult, hwritten, hcode⟩ | ⟨e, he, hbreaks⟩
  · rw [hresult] at hrun
    rw [commandBlock, perform_bind_of_ok hrun, blockOf, exitWarning, ← hwritten, ← hcode]
    by_cases hzero : result.exitCode = 0
    · rw [if_neg (not_not.mpr hzero), if_pos hzero]
      exact ⟨_, rfl, .inl ⟨hanswers, rfl, rfl, (List.append_nil _).symm⟩⟩
    · rw [if_pos hzero, if_neg hzero]
      exact ⟨_, rfl, .inl ⟨hanswers, rfl, rfl, rfl⟩⟩
  · rw [he] at hrun
    exact ⟨_, rfl, .inr ⟨e, hbreaks, perform_bind_of_error hrun _⟩⟩

/-- The blocks of commands, in the order of these. The shell is called for one after the other, and
no more when it has broken down. -/
theorem commandBlocks_cases (commands : List String) (out : Surroundings) (w : World) :
    let replies := out.replies w.events w.files commands
    ((∀ r ∈ replies, ∀ e, ¬r.BreaksDown e) ∧
      ∃ w', (commands.mapM commandBlock).perform out w =
          (.ok (List.zipWith blockOf commands replies), w') ∧
        w'.events = w.events ++ callsOf commands ∧
        w'.logs = w.logs ++ exitWarnings commands replies) ∨
    ∃ e w', (commands.mapM commandBlock).perform out w = (.error e, w') ∧
      (∃ r ∈ replies, r.BreaksDown e) ∧
      ∃ (before : List String) (command : String) (after : List String) (w₁ : World),
        commands = before ++ command :: after ∧
        (out.shell w₁.events w₁.files ⟨command, .null⟩).1.BreaksDown e ∧
        w'.events = w.events ++ callsOf (before ++ [command]) := by
  intro replies
  induction commands generalizing w with
  | nil =>
    exact .inl ⟨List.forall_mem_nil _, w, rfl, (List.append_nil _).symm, (List.append_nil _).symm⟩
  | cons command commands ih =>
    rw [List.mapM_cons]
    obtain ⟨w₁, hcall, ⟨hanswers, hblock, hfiles, hlogs⟩ | ⟨e, he, hblock⟩⟩ :=
      commandBlock_cases command out w
    · have hbehind {w' : World} {calls : List String}
          (h : w'.events = w₁.events ++ callsOf calls) :
          w'.events = w.events ++ callsOf (command :: calls) := by
        rw [h, hcall, List.append_assoc]
        rfl
      have hreplies : replies = (out.shell w.events w.files ⟨command, .null⟩).1 ::
          out.replies w₁.events w₁.files commands := by
        rw [hcall, hfiles]
        rfl
      rw [perform_bind_of_ok hblock]
      rcases ih w₁ with ⟨hrest, w₂, hblocks, hcalls, hmore⟩ |
        ⟨e, w₂, hblocks, hbroken, before, broken, after, w₃, rfl, he, hcalls⟩
      · rw [perform_bind_of_ok hblocks, hreplies]
        refine .inl ⟨List.forall_mem_cons.mpr ⟨hanswers, hrest⟩, w₂, rfl, hbehind hcalls, ?_⟩
        rw [hmore, hlogs, exitWarnings, exitWarnings, List.zipWith_cons_cons, List.flatten_cons,
          List.append_assoc]
      · rw [perform_bind_of_error hblocks, hreplies]
        obtain ⟨r, hr, hbreaks⟩ := hbroken
        exact .inr ⟨e, w₂, rfl, ⟨r, List.mem_cons_of_mem _ hr, hbreaks⟩, command :: before, broken,
          after, w₃, rfl, he, hbehind hcalls⟩
    · rw [perform_bind_of_error hblock]
      exact .inr ⟨e, w₁, rfl, ⟨_, List.mem_cons_self, he⟩, [], command, commands, w, rfl, he, hcall⟩

/-- Why a context is not built, and the commands that have been run by then. -/
inductive Stops (c : ContextSpec) (collector : Collector) (t : FileTree) (scope : Scope)
    (out : Surroundings) : Fault → List String → Prop
  | files {e : Fault} :
      Template.resolveAll scope c.files = .error e → Stops c collector t scope out e []
  /-- There is no room for one of the patterns. -/
  | room {patterns : List String} : Template.resolveAll scope c.files = .ok patterns →
      ¬collector.HasRoom t patterns → Stops c collector t scope out .tooDeep []
  | commands {e : Fault} :
      Template.resolveAll scope c.commands = .error e → Stops c collector t scope out e []
  /-- The shell has broken down over the last command that has been run. -/
  | shell {e : Fault} {before after : List String} {command : String} {w : World} :
      Template.resolveAll scope c.commands = .ok (before ++ command :: after) →
      (out.shell w.events w.files ⟨command, .null⟩).1.BreaksDown e →
      Stops c collector t scope out e (before ++ [command])
  | vars {e : Fault} {commands : List String} :
      Template.resolveAll scope c.commands = .ok commands → c.variablesPart = .error e →
      Stops c collector t scope out e commands

theorem nil_iff_of_resolveAll {scope : Scope} {templates texts : List String}
    (h : Template.resolveAll scope templates = .ok texts) : templates = [] ↔ texts = [] := by
  have hlength := (forall₂_of_mapM_ok h).length_eq
  rw [← List.length_eq_zero_iff, ← List.length_eq_zero_iff, hlength]

/-- The part with the output of commands, and the calls that it takes. -/
theorem commandsPart_cases (c : ContextSpec) (collector : Collector) (t : FileTree) (scope : Scope)
    (out : Surroundings) (w : World) :
    (∃ commands w', Template.resolveAll scope c.commands = .ok commands ∧
      (∀ r ∈ out.replies w.events w.files commands, ∀ e, ¬r.BreaksDown e) ∧
      (c.commandsPart scope).perform out w =
        (.ok (commandsShown commands (out.replies w.events w.files commands)), w') ∧
      w'.events = w.events ++ callsOf commands ∧
      w'.logs = w.logs ++ exitWarnings commands (out.replies w.events w.files commands)) ∨
    ∃ e w' calls, (c.commandsPart scope).perform out w = (.error e, w') ∧
      w'.events = w.events ++ callsOf calls ∧
      c.Stops collector t scope out e calls ∧ c.CommandsFail scope out w e := by
  unfold commandsPart
  split
  · rename_i hempty
    have hnone := List.isEmpty_iff.mp hempty
    rw [hnone]
    exact .inl ⟨[], w, rfl, List.forall_mem_nil _, rfl, (List.append_nil _).symm,
      (List.append_nil _).symm⟩
  · rename_i hsome
    rw [perform_bind, perform_ofExcept]
    cases hresolve : Template.resolveAll scope c.commands with
    | error e =>
      exact .inr ⟨e, w, [], rfl, (List.append_nil _).symm, .commands hresolve, .inl hresolve⟩
    | ok commands =>
      rw [List.isEmpty_iff, nil_iff_of_resolveAll hresolve, ← List.isEmpty_iff] at hsome
      dsimp only
      rcases commandBlocks_cases commands out w with ⟨hanswers, w', hblocks, hcalls, hlogs⟩ |
        ⟨e, w', hblocks, hbroken, before, command, after, w₁, rfl, he, hcalls⟩
      · rw [perform_bind_of_ok hblocks]
        refine .inl ⟨commands, w', rfl, hanswers, ?_, hcalls, hlogs⟩
        rw [commandsShown, if_neg hsome]
        rfl
      · rw [perform_bind_of_error hblocks]
        exact .inr ⟨e, w', _, rfl, hcalls, .shell hresolve he, .inr ⟨_, hresolve, hbroken⟩⟩

/-- However the commands of a context end, the context shows it: the part with their output has a
block for each command, and the only other trace is a line in the log for an exit code other than
zero. There is no such part only when a command cannot be resolved or the shell breaks down. -/
def ContainsCommands (c : ContextSpec) (out : Surroundings) : Prop :=
  ∀ (scope : Scope) (w : World),
    (∃ commands w', Template.resolveAll scope c.commands = .ok commands ∧
      (c.commandsPart scope).perform out w =
        (.ok (commandsShown commands (out.replies w.events w.files commands)), w') ∧
      w'.logs = w.logs ++ exitWarnings commands (out.replies w.events w.files commands)) ∨
    ∃ e w', (c.commandsPart scope).perform out w = (.error e, w') ∧ c.CommandsFail scope out w e

/-- **A context shows how its commands have ended.** -/
theorem containsCommands (c : ContextSpec) (out : Surroundings) : c.ContainsCommands out := by
  intro scope w
  rcases c.commandsPart_cases ⟨out.workspace, []⟩ w.files scope out w with
    ⟨commands, w', hresolve, -, hparts, -, hlogs⟩ | ⟨e, w', calls, hparts, -, -, hfail⟩
  · exact .inl ⟨commands, w', hresolve, hparts, hlogs⟩
  · exact .inr ⟨e, w', hparts, hfail⟩

/-! ### All of a context -/

/-- There is no part with files only when a pattern cannot be resolved or takes more room than there
is. Files are read, and nothing is called. -/
theorem filesPart_cases (c : ContextSpec) (collector : Collector) (scope : Scope)
    (out : Surroundings) (w : World) :
    (∃ parts w', (c.filesPart collector scope).perform out w = (.ok parts, w') ∧ w.Logged w') ∨
      ∃ e w', (c.filesPart collector scope).perform out w = (.error e, w') ∧ w.Logged w' ∧
        (Template.resolveAll scope c.files = .error e ∨
          ∃ patterns, Template.resolveAll scope c.files = .ok patterns ∧
            ¬collector.HasRoom w.files patterns ∧ e = .tooDeep) := by
  unfold filesPart
  split
  · exact .inl ⟨[], w, rfl, .refl w⟩
  · rw [perform_bind, perform_ofExcept]
    cases hresolve : Template.resolveAll scope c.files with
    | error e => exact .inr ⟨e, w, rfl, .refl w, .inl rfl⟩
    | ok patterns =>
      obtain ⟨w', hcollect, hlogged⟩ := collector.perform_collect patterns out w
      dsimp only
      split at hcollect
      · rw [perform_bind_of_ok hcollect]
        refine .inl ?_
        split
        · exact ⟨_, w', rfl, hlogged⟩
        · exact ⟨_, w', rfl, hlogged⟩
      · rw [perform_bind_of_error hcollect]
        exact .inr ⟨.tooDeep, w', rfl, hlogged, .inr ⟨patterns, rfl, ‹_›, rfl⟩⟩

/-- The part with the contents of files. -/
def filesShown (contents : Fields String) : List String :=
  if contents.isEmpty then [] else ["=== Files ===\n" ++ renderFiles contents]

/-- The part with files depends on what is gathered only. -/
theorem perform_filesPart (c : ContextSpec) (collector : Collector) (scope : Scope)
    (out : Surroundings) (w : World) :
    ((c.filesPart collector scope).perform out w).1 =
      if c.files.isEmpty then .ok []
      else Template.resolveAll scope c.files >>= fun patterns =>
        if collector.HasRoom w.files patterns then
          .ok (filesShown (collector.gather w.files patterns).contents)
        else .error .tooDeep := by
  unfold filesPart
  split
  · rfl
  · rw [perform_bind, perform_ofExcept]
    cases Template.resolveAll scope c.files with
    | error e => rfl
    | ok patterns =>
      obtain ⟨w', hcollect, -⟩ := collector.perform_collect patterns out w
      change (perform (collector.collect patterns >>= _) out w).1 = ite _ _ _
      by_cases hroom : collector.HasRoom w.files patterns
      · rw [if_pos hroom] at hcollect ⊢
        rw [perform_bind_of_ok hcollect, filesShown]
        split <;> rfl
      · rw [if_neg hroom] at hcollect ⊢
        rw [perform_bind_of_error hcollect]

/-- **The shell is called once for each command**, in the order in which the commands are declared.
A context is not built for certain reasons only, and then some of its first commands may have been
run. -/
theorem build_cases (c : ContextSpec) (collector : Collector) (scope : Scope) (out : Surroundings)
    (w : World) :
    (∃ text w' commands, (c.build collector scope).perform out w = (.ok text, w') ∧
      Template.resolveAll scope c.commands = .ok commands ∧
      w'.events = w.events ++ callsOf commands) ∨
    ∃ e w' calls, (c.build collector scope).perform out w = (.error e, w') ∧
      c.Stops collector w.files scope out e calls ∧ w'.events = w.events ++ callsOf calls := by
  rw [build]
  rcases c.filesPart_cases collector scope out w with
    ⟨files, w₁, hfiles, lines, rfl⟩ | ⟨e, w₁, hfiles, ⟨lines, rfl⟩, hstops⟩
  · rw [perform_bind_of_ok hfiles]
    rcases c.commandsPart_cases collector w.files scope out _ with
      ⟨commands, w₂, hresolve, -, hparts, hcalls, -⟩ | ⟨e, w₂, calls, hparts, hcalls, hstops, -⟩
    · rw [perform_bind_of_ok hparts, perform_bind, perform_ofExcept]
      cases hvars : c.variablesPart with
      | ok vars => exact .inl ⟨_, w₂, commands, rfl, hresolve, hcalls⟩
      | error e => exact .inr ⟨e, w₂, commands, rfl, .vars hresolve hvars, hcalls⟩
    · rw [perform_bind_of_error hparts]
      exact .inr ⟨e, w₂, calls, rfl, hstops, hcalls⟩
  · rw [perform_bind_of_error hfiles]
    refine .inr ⟨e, _, [], rfl, ?_, (List.append_nil _).symm⟩
    rcases hstops with hresolve | ⟨patterns, hresolve, hroom, rfl⟩
    · exact .files hresolve
    · exact .room hresolve hroom

end ContextSpec

end StepFlow
