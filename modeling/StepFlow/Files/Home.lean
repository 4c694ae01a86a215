import StepFlow.Fields

/-!
# Home directories

A name that begins with a tilde stands for a home directory: the tilde alone for that of the user,
and with the name of an account behind it for that of the account.
-/

namespace StepFlow

/-- The home directories of the accounts that every system has. -/
def accountHomes : Fields String :=
  [("root", "/root"), ("daemon", "/usr/sbin"), ("bin", "/bin"), ("sys", "/dev"), ("sync", "/bin"),
   ("games", "/usr/games"), ("man", "/var/cache/man"), ("lp", "/var/spool/lpd"),
   ("mail", "/var/mail"), ("news", "/var/spool/news"), ("uucp", "/var/spool/uucp"),
   ("proxy", "/bin"), ("www-data", "/var/www"), ("backup", "/var/backups"), ("list", "/var/list"),
   ("irc", "/run/ircd"), ("nobody", "/nonexistent")]

/-- The home directory that a name stands for; `own` is that of the user. -/
def homeOf? (own : Option String) (name : String) : Option String :=
  match name.toList with
  | ['~'] => own
  | '~' :: account => accountHomes.get? (String.ofList account)
  | _ => none

/-- A directory without slashes at its end. The root keeps its own. -/
def withoutEndSlashes (s : String) : String :=
  let cs := (s.toList.reverse.dropWhile (· = '/')).reverse
  if cs.isEmpty then "/" else String.ofList cs

end StepFlow
