import StepFlow.Shell.Programs.Options

/-!
# Time

Programs that let time pass or limit the time of others.

## Main definitions

* `duration?` — a length of time
* `sleep`, `timeout`
-/

namespace StepFlow.Shell

/-- Nanoseconds of a duration such as `0.5` or `2m`. -/
def duration? (s : String) : Option Nat :=
  let cs := s.toList
  let (unit, cs) := match cs.getLast? with
    | some 's' => (1, cs.dropLast)
    | some 'm' => (60, cs.dropLast)
    | some 'h' => (3600, cs.dropLast)
    | some 'd' => (86400, cs.dropLast)
    | _ => (1, cs)
  let (whole, fraction) := cs.span (· ≠ '.')
  let digits := fraction.drop 1
  if (whole ++ digits).isEmpty || !(whole ++ digits).all Char.isDigit then none
  else
    let n := digitsValue 10 ((whole ++ digits).filterMap asciiDigit?)
    some (n * unit * tenTo 9 / tenTo digits.length)

/-- Let time pass. -/
def sleep : Program := withOptions "sleep" 1 [] fun st g => do
  if g.operands.isEmpty then return ← missingOperand st "sleep"
  if g.operands.any (["inf", "infinity"].contains ·) then throw .timedOut
  match g.operands.mapM duration? with
  | some ds =>
    pass (ds.foldl (· + ·) 0)
    return 0
  | none =>
    (g.operands.filter fun a => (duration? a).isNone).forM fun bad =>
      emitText st.err s!"sleep: invalid time interval '{bad}'\n"
    emitText st.err (helpHint "sleep")
    return 1

/-! ### Limits -/

/-- Carry out an activity for a limited time; `none` if it takes longer. -/
def within (nanoseconds : Nat) (act : Acting Nat) : Acting (Option Nat) := do
  let s ← get
  let own := s.elapsed + nanoseconds
  let outer := s.limit
  if outer.any (· ≤ own) then return some (← act)
  else
    set { s with limit := some own }
    let r ← outcome act
    modify fun s => { s with limit := outer }
    match r with
    | .ok n => return some n
    | .error .timedOut => return none
    | .error other => throw other

/-- What `timeout` is told. -/
private def timeoutOptions : OptionSet :=
  { options := flags [["foreground"], ["preserve-status"], ["v", "verbose"]]
      ++ valued [["s", "signal"], ["k", "kill-after"]]
    endsAtOperand := true }

/-- Carry out a program for a limited time. `signal?` gives the number of a signal by its name, and
`describe` what is said of a signal that ended a process. -/
def timeout (launch : Launch) (signal? : String → Option Nat) (describe : Nat → String) : Program :=
    fun st args => do
  let refused (message : String) : Acting Nat := misused st "timeout" message 125
  match timeoutOptions.read args with
  | .error complaint => refused complaint
  | .ok g =>
    let name := (g.value? "s").getD "TERM"
    match signal? name, g.operands with
    | none, _ =>
      let shown := quotedPhrase name
      refused s!"{shown}: invalid signal"
    | some signal, time :: first :: rest =>
      match duration? time, (g.value? "k").map duration? with
      | none, _ => refused s!"invalid time interval '{time}'"
      | _, some none =>
        let bad := (g.value? "k").getD ""
        refused s!"invalid time interval '{bad}'"
      | some n, _ =>
        let act : Acting Nat := do
          match ← launch (first :: rest) with
          | .ok status => return status
          | .error e =>
            let shown := quotedPhrase first
            emitText st.err s!"timeout: failed to run command {shown}: {e.description}\n"
            return if e = .notFound then 127 else 126
        match ← (if n = 0 then some <$> act else within n act) with
        | some status => return status
        | none =>
          if g.has "v" then
            let shown := quotedPhrase first
            emitText st.err s!"timeout: sending signal {name} to command {shown}\n"
          if signal = 9 then emitText st.err (describe 9)
          return if signal = 9 || g.has "preserve-status" then 128 + signal else 124
    | some _, _ =>
      emitText st.err (helpHint "timeout")
      return 125

end StepFlow.Shell
