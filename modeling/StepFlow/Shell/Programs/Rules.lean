import StepFlow.Shell.Programs.Rules.Evaluate

/-!
# Rules for the records of files

A script of rules comes from files or from the first operand; the other operands are the files that it
goes through, or set variables. Before the script begins, options set variables as well.

## Main definitions

* `awk`
-/

namespace StepFlow.Shell

open Rules

/-- What a script of rules is started with. -/
private structure RuleStart where
  separator : Option String := none
  settings : List (String × Datum) := []
  /-- The files that the script comes from. -/
  files : List String := []
  operands : List String := []

/-- Read the options, or tell what is wrong with them. -/
private def ruleStart : (fuel : Nat) → RuleStart → List String → Except String RuleStart
  | 0, found, operands => return { found with operands }
  | _, found, [] => return found
  | fuel + 1, found, a :: rest =>
    match a.toList with
    | ['-', '-'] => return { found with operands := rest }
    | '-' :: letter :: inside =>
      let attached := !inside.isEmpty
      let value := if attached then String.ofList inside else rest.headD ""
      let behind := if attached then rest else rest.drop 1
      if !"Fvf".toList.contains letter then throw s!"not an option: {a}"
      else if !attached && rest.isEmpty then throw s!"option {a} lacks argument"
      else if letter = 'F' then ruleStart fuel { found with separator := some value } behind
      else if letter = 'f' then ruleStart fuel { found with files := found.files ++ [value] } behind
      else match setting? value with
        | some setting => ruleStart fuel { found with settings := found.settings ++ [setting] } behind
        | none => throw s!"improper assignment: -v {value}"
    | _ => return { found with operands := a :: rest }

/-- The text of a script that files hold, or the name of one that cannot be read. -/
private def scriptFrom : List String → Acting (Except (String × FileCause) (List UInt8))
  | [] => return .ok []
  | name :: rest => do
    match ← fileOrInput name, ← scriptFrom rest with
    | .error e, _ => return .error (name, e)
    | .ok _, .error e => return .error e
    | .ok bytes, .ok more => return .ok (bytes ++ more)

/-- A table of values under their keys; `counted` tells that the keys are numbers. -/
private def tableOf (counted : Bool) (entries : List (String × String)) : Table :=
  entries.foldl (fun t (key, value) =>
    let key := argumentChars key
    (t.touch key counted true).set key (.input (argumentChars value))) {}

/-- The variables that every script begins with. -/
private def firstVariables (arguments : Nat) : Fields Datum :=
  let text (s : String) : Datum := .text s.toList
  [("FS", text " "), ("OFS", text " "), ("ORS", text "\n"), ("RS", text "\n"), ("SUBSEP", text "\x1c"),
   ("CONVFMT", text "%.6g"), ("OFMT", text "%.6g"), ("NR", .ofNat 0), ("FNR", .ofNat 0),
   ("RSTART", .ofNat 0), ("RLENGTH", .number (.ofInt (-1))), ("FILENAME", text ""),
   ("ARGC", .ofNat arguments)]

/-- How deep statements and expressions of a script may be nested, calls of procedures included. -/
private def ruleNesting : Nat := 4000

/-- Carry out a script of rules. -/
private def runRules (launch : Launch) (st : Streams) (script : RuleSet) (start : RuleStart)
    (operands : List String) : Acting Nat := do
  let s ← get
  let arguments := "awk" :: operands
  let exported := s.exported.filterMap fun n => (s.vars.get? n).map (n, ·)
  let separator := start.separator.toList.map fun f =>
    ("FS", Datum.text (escapesResolved f.utf8ByteSize (argumentChars f)))
  let state : State :=
    { streams := st, launch, procedures := script.procedures
      vars := (firstVariables arguments.length).setAll (separator ++ start.settings)
      tables :=
        [tableOf true (arguments.zipIdx.map fun (a, i) => (toString i, a)), tableOf false exported]
      tableNames := [("ARGV", 0), ("ENVIRON", 1)] }
  let (ending, after) ← ((script.run ruleNesting).run).run state
  match ending with
  | .ok status => return status
  | .error (.fault message) =>
    emit st.out after.kept
    emitText st.err s!"awk: {message}\n"
    return 2
  | .error _ => return 2

/-- Work on records by rules. -/
def awk (launch : Launch) : Program := fun st args => do
  let refused (message : String) : Acting Nat := do
    emitText st.err message
    return 2
  match ruleStart (args.length + 1) {} args with
  | .error message => refused s!"awk: {message}\n"
  | .ok start =>
    let (text, operands) ← match start.files, start.operands with
      | [], [] => pure (none, [])
      | [], script :: operands => pure (some (.ok (bytesOf script)), operands)
      | files, operands => do pure (some (← scriptFrom files), operands)
    match text with
    | none => refused "Usage: mawk [Options] [Program] [file ...]\n"
    | some (.error (name, e)) => refused s!"awk: cannot open {name} ({e.description})\n"
    | some (.ok bytes) =>
      match RuleSet.ofText (charsOf bytes) with
      | .error mistake => refused s!"awk: {mistake.message}\n"
      | .ok script => runRules launch st script start operands

end StepFlow.Shell
