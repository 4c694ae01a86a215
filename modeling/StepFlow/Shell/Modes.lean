/-!
# Modes of a shell

What a shell has been told to do beyond carrying out commands. Each mode has a name and most have a
letter.

## Main definitions

* `Mode` — the modes
* `Mode.named?`, `Mode.lettered?` — modes by name and by letter
-/

namespace StepFlow.Shell

inductive Mode where
  /-- A command that fails ends the session. -/
  | stopsOnError
  /-- Wildcards stand for themselves. -/
  | keepsWildcards
  | ignoresEnd
  | interacts
  | managesJobs
  /-- Commands are read but not carried out. -/
  | onlyReads
  | readsInput
  /-- Commands are shown before they are carried out. -/
  | traces
  | echoes
  | viKeys
  | emacsKeys
  /-- Files that exist are not written anew. -/
  | keepsFiles
  /-- Every variable that is set is exported. -/
  | exportsAll
  | notifies
  /-- A variable that is not set ends the session. -/
  | requiresSet
  | keepsPrivileges
  | forgetsFunctions
  | debugs
  deriving DecidableEq, Repr, Inhabited

namespace Mode

/-- The modes with their names and letters, in the order in which they are listed. -/
def table : List (Mode × String × Option Char) :=
  [(stopsOnError, "errexit", some 'e'), (keepsWildcards, "noglob", some 'f'),
   (ignoresEnd, "ignoreeof", some 'I'), (interacts, "interactive", some 'i'),
   (managesJobs, "monitor", some 'm'), (onlyReads, "noexec", some 'n'), (readsInput, "stdin", some 's'),
   (traces, "xtrace", some 'x'), (echoes, "verbose", some 'v'), (viKeys, "vi", some 'V'),
   (emacsKeys, "emacs", some 'E'), (keepsFiles, "noclobber", some 'C'),
   (exportsAll, "allexport", some 'a'), (notifies, "notify", some 'b'), (requiresSet, "nounset", some 'u'),
   (keepsPrivileges, "privileged", some 'p'), (forgetsFunctions, "nolog", none), (debugs, "debug", none)]

def named? (name : String) : Option Mode := (table.find? (·.2.1 = name)).map (·.1)

def lettered? (c : Char) : Option Mode := (table.find? (·.2.2 = some c)).map (·.1)

/-- Turn a mode on or off. -/
def turn (mode : Mode) (on : Bool) (modes : List Mode) : List Mode :=
  let others := modes.filter (· ≠ mode)
  if on then mode :: others else others

/-- The letters of modes, the last one in the table first. -/
def letters (modes : List Mode) : String :=
  String.ofList (table.reverse.filterMap fun (m, _, c) => if modes.contains m then c else none)

end Mode

end StepFlow.Shell
