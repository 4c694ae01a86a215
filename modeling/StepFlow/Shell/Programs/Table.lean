import StepFlow.Shell.Programs.Checksum
import StepFlow.Shell.Programs.Columns
import StepFlow.Shell.Programs.Compare
import StepFlow.Shell.Programs.Condition
import StepFlow.Shell.Programs.Dump
import StepFlow.Shell.Programs.Edit
import StepFlow.Shell.Programs.Expression
import StepFlow.Shell.Programs.Lines
import StepFlow.Shell.Programs.Listing
import StepFlow.Shell.Programs.Make
import StepFlow.Shell.Programs.Parts
import StepFlow.Shell.Programs.Paths
import StepFlow.Shell.Programs.Search
import StepFlow.Shell.Programs.Sequence
import StepFlow.Shell.Programs.System
import StepFlow.Shell.Programs.Time
import StepFlow.Shell.Programs.Transfer
import StepFlow.Shell.Programs.Translate

/-!
# The programs of the shell

All programs that need nothing but the session they act on.

## Main definitions

* `programs` — the programs by name
-/

namespace StepFlow.Shell

/-- The programs by name. -/
def programs : Fields Program :=
  [("echo", echo), ("printf", printf), ("seq", seq), ("yes", yes), ("expr", expr), ("cat", cat),
   ("tac", tac), ("rev", rev), ("nl", nl), ("fold", fold), ("head", head), ("tail", tail), ("wc", wc),
   ("tee", tee), ("sort", sort), ("uniq", uniq), ("cut", cut), ("paste", paste), ("comm", comm),
   ("join", join), ("expand", expand), ("unexpand", unexpand), ("tr", tr), ("grep", grep),
   ("sed", sed), ("ls", ls), ("mkdir", mkdir), ("touch", touch), ("truncate", truncate),
   ("chmod", chmod), ("rm", rm), ("rmdir", rmdir), ("cp", cp), ("mv", mv), ("ln", ln),
   ("basename", basename), ("dirname", dirname), ("pwd", pwd), ("realpath", realpath),
   ("readlink", readlink), ("test", test), ("[", bracket), ("sleep", sleep),
   ("true", fun _ _ => return 0), ("false", fun _ _ => return 1), ("od", od), ("base64", base64),
   ("base32", base32), ("cmp", cmp), ("diff", diff), ("cksum", cksum), ("sum", sum), ("split", split),
   ("factor", factor), ("tsort", tsort), ("id", id), ("whoami", whoami), ("logname", logname),
   ("groups", groups), ("uname", uname), ("arch", arch), ("tty", tty), ("sync", sync), ("stat", stat),
   ("chown", chown), ("chgrp", chgrp)] ++ digestPrograms

end StepFlow.Shell
