import StepFlow.Proofs.Run.Attempt
import StepFlow.Proofs.Run.Context
import StepFlow.Proofs.Text.Utf8
import StepFlow.Proofs.Value.Text

/-!
# Command steps

An attempt of a command step asks the shell once, or not at all: a step without a command has
nothing to ask, and a command that cannot be resolved is not run. What the shell answers decides the
result of the attempt. A command that exits with zero has succeeded, and its output is what it has
written, read as UTF-8. All else is a failure, with the exit code and the errors written as its
details. When the time limit has ended a command, there is an exit code for that too; a command that
exits with the same code on its own is told apart by the kind of the error.

A shell that breaks down, and a template that cannot be resolved, are faults that the step does not
expect. They are failures too, of the kind `execution_error`.

## Main definitions

* `Step.commandError`, `Step.commandMissing` — the failures of a command step
* `ShellReply.Means` — what the end of a command comes to for its step
* `Step.Resolves` — what becomes of the template of a command
* `Step.CommandAttempt` — what an attempt of a command step comes to

## Main results

* `ShellReply.means_ofReply`, `ShellReply.Means.unique` — every end of a command is classified, in
  one way
* `Step.perform_runShell_of_resolved` — a step that has a command asks the shell once
* `Step.execute_command` — every attempt of a command step is classified
-/

namespace StepFlow

open Act

/-! ### Ends of commands -/

/-- The failure of a command, with the exit code and what was written as its errors. -/
def Step.commandError (type command : String) (code : Int) (stderr : String) : StepError where
  type := type
  message := s!"Command failed with exit code {code}: {stderr}"
  context := .ofFields
    [("command", .str command), ("exit_code", .int code), ("stderr", .str stderr)]

namespace ShellReply

open CommandResult (decode)
open Step (commandError)

/-- What the end of a command comes to for its step: the output, a failure or a fault. -/
inductive Means (command : String) (timeout : Value) : ShellReply → Except Fault Step.Outcome → Prop
  | success {stdout stderr : List UInt8} :
      Means command timeout (.exited stdout stderr 0) (.ok (.ok (decode stdout)))
  /-- Another code than zero; a negative one is the signal that has ended the command. -/
  | failure {stdout stderr : List UInt8} {code : Int} : code ≠ 0 →
      Means command timeout (.exited stdout stderr code)
        (.ok (.error (commandError "command_failed" command code (decode stderr))))
  | timeout {stdout stderr : Option (List UInt8)} : decode stderr ≠ "" →
      Means command timeout (.timedOut stdout stderr)
        (.ok (.error (commandError "timeout" command 124 (decode stderr))))
  /-- Where no errors were written, the time limit is named instead. -/
  | silentTimeout {stdout stderr : Option (List UInt8)} {limit : String} :
      decode stderr = "" → timeout.text = .ok limit →
      Means command timeout (.timedOut stdout stderr)
        (.ok (.error (commandError "timeout" command 124
          s!"Command timed out after {limit} seconds")))
  /-- A time limit that has no text to be named by. -/
  | namelessTimeout {stdout stderr : Option (List UInt8)} {e : Fault} :
      decode stderr = "" → timeout.text = .error e →
      Means command timeout (.timedOut stdout stderr) (.error e)
  | notStarted {reason : String} :
      Means command timeout (.notStarted reason)
        (.ok (.error (commandError "command_failed" command 1 reason)))
  | crashed {reason : String} :
      Means command timeout (.crashed reason) (.error (.foreign "RuntimeError" reason))
  | refused {fault : Fault} : Means command timeout (.refused fault) (.error fault)

variable {command : String} {timeout : Value}

/-- A result with another code than zero is a failure. -/
theorem commandOutcome_of_ne {result : CommandResult} (h : result.exitCode ≠ 0) :
    Step.commandOutcome command result =
      .error (commandError (if result.timedOut then "timeout" else "command_failed") command
        result.exitCode result.stderr) := by
  rw [Step.commandOutcome, if_neg h]
  rfl

/-- **Every end of a command is classified.** -/
theorem means_ofReply (command : String) (timeout : Value) (reply : ShellReply) :
    reply.Means command timeout
      ((CommandResult.ofReply timeout reply).map (Step.commandOutcome command)) := by
  cases reply with
  | exited stdout stderr code =>
    by_cases hcode : code = 0
    · subst hcode
      exact .success
    · change Means command timeout _ (.ok (Step.commandOutcome command _))
      rw [commandOutcome_of_ne hcode]
      exact .failure hcode
  | timedOut stdout stderr =>
    simp only [CommandResult.ofReply]
    split
    · rename_i hempty
      cases htext : timeout.text with
      | ok limit => exact .silentTimeout hempty htext
      | error e => exact .namelessTimeout hempty htext
    · exact .timeout ‹_›
  | notStarted reason => exact .notStarted
  | crashed reason => exact .crashed
  | refused fault => exact .refused

/-- A command comes to one thing only. -/
theorem Means.unique {reply : ShellReply} {o o' : Except Fault Step.Outcome}
    (h : reply.Means command timeout o) (h' : reply.Means command timeout o') : o = o' := by
  cases h <;> cases h' <;> simp_all

end ShellReply

/-! ### Running the command of a step -/

namespace Step

variable {s : Step} {scope : Scope}

/-- What becomes of the template of a step's command. A step without a command has none. -/
def Resolves (s : Step) (scope : Scope) (resolved : Except Fault String) : Prop :=
  ∃ template, s.command = some template ∧ template ≠ "" ∧
    Template.resolve scope template = resolved

/-- What a step without a command comes to. -/
def commandMissing (s : Step) : StepError where
  type := "missing_command"
  message := s!"Command step '{s.name}' requires a command"
  context := .ofFields []

theorem perform_runShell_of_missing (h : s.command = none ∨ s.command = some "") (scope : Scope)
    (out : Surroundings) (w : World) :
    (s.runShell scope).perform out w = (.ok (.error s.commandMissing), w) := by
  rw [runShell, nonEmpty?_eq_none_iff.mpr h]
  rfl

theorem perform_runShell_of_error {e : Fault} (h : s.Resolves scope (.error e))
    (out : Surroundings) (w : World) : (s.runShell scope).perform out w = (.error e, w) := by
  obtain ⟨template, hcommand, hne, he⟩ := h
  rw [runShell, nonEmpty?_eq_some_iff.mpr ⟨hcommand, hne⟩]
  dsimp only
  rw [he, perform_bind_of_error (perform_ofExcept _ out w)]

/-- **A step that has a command asks the shell once**, and the answer decides what the step comes
to. -/
theorem perform_runShell_of_resolved {command : String} (h : s.Resolves scope (.ok command))
    (out : Surroundings) (w : World) :
    ∃ outcome w', (s.runShell scope).perform out w = (outcome, w') ∧
      (out.shell w.events w.files ⟨command, s.timeout⟩).1.Means command s.timeout outcome ∧
      w'.events = w.events ++ [.shell ⟨command, s.timeout⟩] := by
  obtain ⟨template, hcommand, hne, hresolve⟩ := h
  have hrun := perform_runCommand command s.timeout out w
  refine ⟨_, w.called out ⟨command, s.timeout⟩, ?_, ShellReply.means_ofReply _ _ _, rfl⟩
  rw [runShell, nonEmpty?_eq_some_iff.mpr ⟨hcommand, hne⟩]
  dsimp only
  rw [hresolve, perform_bind_of_ok (perform_ofExcept _ out w), perform_bind, hrun]
  cases CommandResult.ofReply s.timeout (out.shell w.events w.files ⟨command, s.timeout⟩).1 <;> rfl

/-! ### Attempts -/

/-- What an attempt of a command step comes to: the result that it leaves, and what it does. -/
structure CommandAttempt (s : Step) (scope : Scope) (out : Surroundings) (w : World)
    (x : StepResult) (w' : World) : Prop where
  success_iff : x.success = true ↔ x.error = none
  output_of_failure : x.success = false → x.output = ""
  /-- Without a command, the attempt fails and nothing is done. -/
  missing : s.command = none ∨ s.command = some "" →
    x.error = some s.commandMissing ∧ w'.events = w.events
  /-- A command that cannot be resolved is not run. -/
  unresolved : ∀ e, s.Resolves scope (.error e) →
    x.error = some (unexpected e) ∧ w'.events = w.events
  /-- The shell is asked once to run the command, within the time limit of the step. The result
  shows what the answer of the shell means. -/
  called : ∀ command, s.Resolves scope (.ok command) →
    w'.events = w.events ++ [.shell ⟨command, s.timeout⟩] ∧
      ∃ outcome, x.Shows outcome ∧
        (out.shell w.events w.files ⟨command, s.timeout⟩).1.Means command s.timeout outcome
  /-- Text that is written as UTF-8 is the output. -/
  written : ∀ command (text : String) stderr, s.Resolves scope (.ok command) →
    (out.shell w.events w.files ⟨command, s.timeout⟩).1 =
      .exited (Text.Utf8.encode text.toList) stderr 0 → x.error = none ∧ x.output = text
  /-- When the time has run out, what was written as errors is told, or else the time limit, which
  can be named if it is no integer that is too long and no collection that lies too deep. -/
  expired : s.timeout.Short → s.timeout.nesting ≤ nestingLimit →
    ∀ command stdout stderr, s.Resolves scope (.ok command) →
    (out.shell w.events w.files ⟨command, s.timeout⟩).1 = .timedOut stdout stderr →
    ∃ limit, s.timeout.text = .ok limit ∧ x.error = some (commandError "timeout" command 124
      (if CommandResult.decode stderr = "" then s!"Command timed out after {limit} seconds"
        else CommandResult.decode stderr))

/-- **Every attempt of a command step is classified.** It leaves a result, with the name and the
position of the step and the number of the attempt, whatever becomes of the command. -/
theorem execute_command (h : s.type? = some .command) (settings : Settings) (scope : Scope)
    (index number : Nat) (out : Surroundings) (w : World) :
    ∃ x w', (s.execute settings scope index number).perform out w = (.ok x, w') ∧
      x.name = s.name ∧ x.index = index ∧ x.attempt = number ∧
      s.CommandAttempt scope out w x w' := by
  obtain ⟨x, w', hx, hname, hindex, hnumber, hshows, hlogged⟩ :=
    perform_execute h settings scope index number out w
  refine ⟨x, w', hx, hname, hindex, hnumber, ?_⟩
  change x.Shows ((s.runShell scope).perform out w.ticked).1 at hshows
  have hevents : w'.events = ((s.runShell scope).perform out w.ticked).2.events := by
    obtain ⟨lines, rfl⟩ := hlogged
    rfl
  have hcalled : ∀ command, s.Resolves scope (.ok command) →
      w'.events = w.events ++ [.shell ⟨command, s.timeout⟩] ∧
        ∃ outcome, x.Shows outcome ∧
          (out.shell w.events w.files ⟨command, s.timeout⟩).1.Means command s.timeout outcome := by
    intro command hcommand
    obtain ⟨outcome, w₁, hrun, hmeans, hcall⟩ :=
      perform_runShell_of_resolved hcommand out w.ticked
    rw [hrun] at hevents hshows
    exact ⟨hevents.trans hcall, outcome, hshows, hmeans⟩
  exact {
    success_iff := Option.isNone_iff_eq_none
    output_of_failure := hshows.output_eq_empty
    missing := fun hcommand => by
      rw [perform_runShell_of_missing hcommand scope out w.ticked] at hevents hshows
      exact ⟨hshows.1, hevents⟩
    unresolved := fun e he => by
      rw [perform_runShell_of_error he out w.ticked] at hevents hshows
      exact ⟨hshows.1, hevents⟩
    called := hcalled
    written := fun command text stderr hcommand hreply => by
      obtain ⟨-, outcome, hshown, hmeans⟩ := hcalled command hcommand
      rw [hreply] at hmeans
      cases hmeans with
      | success =>
        refine ⟨hshown.1, hshown.2.trans ?_⟩
        rw [CommandResult.decode, Text.Utf8.decodeLossy_encode, String.ofList_toList]
      | failure hcode => exact absurd rfl hcode
    expired := fun hshort hnesting command stdout stderr hcommand hreply => by
      obtain ⟨limit, hlimit⟩ := hshort.hasText hnesting
      obtain ⟨-, outcome, hshown, hmeans⟩ := hcalled command hcommand
      rw [hreply] at hmeans
      refine ⟨limit, hlimit, ?_⟩
      cases hmeans with
      | timeout hne => rw [if_neg hne, hshown.1]
      | silentTimeout hempty htext =>
        cases hlimit.symm.trans htext
        rw [if_pos hempty, hshown.1]
      | namelessTimeout _ hlong => cases hlimit.symm.trans hlong }

end Step

/-- Surroundings in which every command writes a text and exits. -/
def Surroundings.writing (text : String) : Surroundings :=
  { Surroundings.silent with
    shell := fun _ _ _ => (.exited (Text.Utf8.encode text.toList) [] 0, []) }

/-- A step that repeats the output before it. -/
def Step.echoing : Step where
  name := "serve"
  type := .str "command"
  command := some "echo $previous_output"

theorem Step.execute_command_echoing :
    echoing.type? = some .command ∧
      ∃ x w', (echoing.execute {} ⟨"", [("brew", "café")], []⟩ 1 1).perform (.writing "café\n") {} =
          (.ok x, w') ∧
        x.success = true ∧ x.output = "café\n" ∧ w'.events.length = 1 := by
  have htype : echoing.type? = some .command := rfl
  have hcommand : echoing.Resolves ⟨"", [("brew", "café")], []⟩ (.ok "echo café") :=
    ⟨_, rfl, by decide, by decide⟩
  obtain ⟨x, w', hx, -, -, -, hattempt⟩ :=
    execute_command htype {} ⟨"", [("brew", "café")], []⟩ 1 1 (.writing "café\n") {}
  obtain ⟨herror, houtput⟩ := hattempt.written _ _ _ hcommand rfl
  refine ⟨htype, x, w', hx, hattempt.success_iff.mpr herror, houtput, ?_⟩
  rw [(hattempt.called _ hcommand).1]
  rfl

end StepFlow
