import StepFlow.Shell.Programs.Make

/-!
# The system and its files

Programs that tell who is at work on which system, and what is known of files. There is one account, which
owns everything, and no terminal.

## Main definitions

* `id`, `whoami`, `groups` — the account
* `uname`, `arch`, `tty` — the system
* `stat`, `chown`, `chgrp` — what is known of files
-/

namespace StepFlow.Shell

/-- The one account; its number is 0, as that of its group is. -/
private def account : String := "root"

/-- A program without options that takes no operands. -/
private def withoutOperands (name : String) (act : Streams → Acting Nat) : Program :=
  withOptions name 1 [] fun st g => do
    match g.operands with
    | extra :: _ => extraOperand st name extra
    | [] => act st

/-- Say that there is no such account. -/
private def unknownAccount (st : Streams) (program name : String) : Acting Unit := do
  let shown := quotedPhrase name
  emitText st.err s!"{program}: {shown}: no such user\n"

/-! ### Accounts -/

def whoami : Program := withoutOperands "whoami" fun st => do
  emitText st.out (account ++ "\n")
  return 0

def logname : Program := withoutOperands "logname" fun st => do
  emitText st.err "logname: no login name\n"
  return 1

def groups : Program := withOptions "groups" 1 [] fun st g => do
  if g.operands.isEmpty then
    emitText st.out (account ++ "\n")
    return 0
  let mut complete := true
  for name in g.operands do
    if name = account then emitText st.out s!"{name} : {account}\n"
    else
      unknownAccount st "groups" name
      complete := false
  return statusOf complete

def id : Program := withOptions "id" 1
    (flags [["u", "user"], ["g", "group"], ["G", "groups"], ["n", "name"], ["r", "real"], ["z", "zero"],
      ["a"]]) fun st g => do
  let isShort := g.has "u" || g.has "g" || g.has "G"
  if (g.has "n" || g.has "r") && !isShort then
    emitText st.err "id: cannot print only names or real IDs in default format\n"
    return 1
  let mut complete := true
  for name in (if g.operands.isEmpty then [account] else g.operands) do
    if name ≠ account && name ≠ "0" then
      unknownAccount st "id" name
      complete := false
    else if isShort then emitText st.out ((if g.has "n" then account else "0") ++ "\n")
    else emitText st.out s!"uid=0({account}) gid=0({account}) groups=0({account})\n"
  return statusOf complete

/-! ### The system -/

def arch : Program := withoutOperands "arch" fun st => do
  emitText st.out "x86_64\n"
  return 0

def uname : Program := withOptions "uname" 1
    (flags [["s", "kernel-name"], ["o", "operating-system"], ["m", "machine"], ["p", "processor"],
      ["i", "hardware-platform"], ["n", "nodename"], ["r", "kernel-release"], ["v", "kernel-version"],
      ["a", "all"]]) fun st g => do
  match g.operands with
  | extra :: _ => extraOperand st "uname" extra
  | [] =>
    let all := g.has "a"
    let part (option text : String) : List String := if all || g.has option then [text] else []
    let parts := part "s" "Linux" ++ part "n" "localhost" ++ part "r" "6.1.0" ++ part "v" "#1 SMP"
      ++ part "m" "x86_64" ++ (if all then [] else part "p" "unknown" ++ part "i" "unknown")
      ++ part "o" "GNU/Linux"
    emitText st.out (" ".intercalate (if parts.isEmpty then ["Linux"] else parts) ++ "\n")
    return 0

def tty : Program := withOptions "tty" 2 (flags [["s", "silent", "quiet"]]) fun st g => do
  match g.operands with
  | extra :: _ =>
    let _ ← extraOperand st "tty" extra
    return 2
  | [] =>
    unless g.has "s" do emitText st.out "not a tty\n"
    return 1

/-- Everything is stored at once. -/
def sync : Program := withOptions "sync" 1 (flags [["d", "data"], ["f", "file-system"]]) fun st g => do
  let mut complete := true
  for name in g.operands do
    let s ← get
    if let .error e := s.files.stat s.here name then
      let shown := quotedName name
      emitText st.err s!"sync: error opening {shown}: {e.description}\n"
      complete := false
  return statusOf complete

/-! ### Files -/

/-- The bytes of a directory. -/
private def directorySize : Nat := 4096

/-- What a letter of a format tells of a file. -/
private def factOf (s : Session) (name : String) (place : Place) (entry : Entry) (c : Char) : String :=
  let permissions := permissionsOf s place
  let (kind, size, mark) := match entry with
    | .directory => ("directory", directorySize, "d")
    | .file [] => ("regular empty file", 0, "-")
    | .file bytes => ("regular file", bytes.length, "-")
  match c with
  | 'n' => name
  | 'N' => quotedName name
  | 's' => toString size
  | 'F' => kind
  | 'a' => String.ofList (Nat.toDigits 8 permissions)
  | 'A' => mark ++ permissionLetters permissions
  | 'U' | 'G' => account
  | 'u' | 'g' => "0"
  | 'h' => "1"
  | 'b' => toString ((size + 511) / 512)
  | 'B' => "512"
  | 'o' => "4096"
  | '%' => "%"
  | _ => "?"

/-- A format with what it tells of a file. -/
private def described (fact : Char → String) : List Char → String
  | '%' :: c :: rest => fact c ++ described fact rest
  | c :: rest => String.ofList [c] ++ described fact rest
  | [] => ""

/-- A format with its line ends and tabulators in place of their letters. -/
private def unescaped : List Char → List Char
  | '\\' :: 'n' :: rest => '\n' :: unescaped rest
  | '\\' :: 't' :: rest => '\t' :: unescaped rest
  | '\\' :: c :: rest => c :: unescaped rest
  | c :: rest => c :: unescaped rest
  | [] => []

/-- Tell what is known of files, in the words of a format. -/
def stat : Program := withOptions "stat" 1
    (flags [["L", "dereference"], ["f", "file-system"], ["t", "terse"]]
      ++ valued [["c", "format"], ["printf"]]) fun st g => do
  if g.operands.isEmpty then return ← missingOperand st "stat"
  let format := match g.value? "printf", g.value? "c" with
    | some f, _ => unescaped f.toList
    | none, some f => f.toList ++ ['\n']
    | none, none => if g.has "t" then "%n %s\n".toList else "%n %s %F %A\n".toList
  let mut complete := true
  for name in g.operands do
    let s ← get
    match s.files.stat s.here name, s.files.locate s.here name with
    | .ok entry, .ok place => emitText st.out (described (factOf s name place entry) format)
    | .error e, _ | _, .error e =>
      let shown := quotedName name
      emitText st.err s!"stat: cannot statx {shown}: {e.description}\n"
      complete := false
  return statusOf complete

/-- Programs that give files to an account or a group; everything stays as it is. -/
private def owning (program kind : String) : Program := withOptions program 1
    (flags [["R", "recursive"], ["v", "verbose"], ["c", "changes"], ["f", "silent", "quiet"],
      ["h", "no-dereference"]]) fun st g => do
  match g.operands with
  | [] => missingOperand st program
  | [owner] =>
    let shown := quotedPhrase owner
    misused st program s!"missing operand after {shown}" 1
  | owner :: names =>
    let isKnown (n : String) : Bool := n = "" || n = account || (natOf? n).isSome
    unless (owner.splitOn ":").all isKnown do
      let shown := quotedPhrase owner
      emitText st.err s!"{program}: invalid {kind}: {shown}\n"
      return 1
    let mut complete := true
    for name in names do
      let s ← get
      let shown := quotedName name
      match s.files.stat s.here name with
      | .ok _ =>
        if g.has "v" then emitText st.out s!"ownership of {shown} retained as {owner}\n"
      | .error e =>
        unless g.has "f" do emitText st.err s!"{program}: cannot access {shown}: {e.description}\n"
        complete := false
    return statusOf complete

def chown : Program := owning "chown" "user"

def chgrp : Program := owning "chgrp" "group"

end StepFlow.Shell
