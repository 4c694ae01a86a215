import StepFlow.Run.Execution

/-!
# Observers

An observer notes what it is told as events of the world. It may be made to fail at a certain notice,
which shows what a run does when an observer breaks down.
-/

namespace StepFlow

/-- What observers can be told of. -/
inductive NoticeKind where
  | stepStarted
  | stepCompleted
  | stepFailed
  | runCompleted
  deriving DecidableEq, Repr, Inhabited

def Notice.kind : Notice → NoticeKind
  | stepStarted .. => .stepStarted
  | stepCompleted .. => .stepCompleted
  | stepFailed .. => .stepFailed
  | runCompleted _ => .runCompleted

/-- An observer that notes what it is told. -/
structure Observer where
  /-- What it is told of. -/
  kinds : List NoticeKind := [.stepStarted, .stepCompleted, .stepFailed, .runCompleted]
  /-- Where it fails: at the n-th notice of a kind, with this fault. -/
  failure : Option (NoticeKind × Nat × Fault) := none
  deriving Repr, Inhabited

namespace Observer

/-- How many notices of a kind are among the events. -/
def countOf (kind : NoticeKind) (events : List Event) : Nat :=
  (events.filter fun
    | .noticed n => n.kind == kind
    | _ => false).length

/-- Take a notice. -/
def take (o : Observer) (n : Notice) : Act Unit := do
  Act.record (.noticed n)
  match o.failure with
  | some (kind, at?, e) =>
    if n.kind = kind && countOf kind (← get).events = at? then throw e
  | none => pure ()

/-- The hooks of an observer. -/
def hooks (o : Observer) : Hooks where
  onStepStart :=
    if o.kinds.contains .stepStarted then
      some fun s i => o.take (.stepStarted s i)
    else none
  onStepComplete :=
    if o.kinds.contains .stepCompleted then
      some fun s r => o.take (.stepCompleted s r)
    else none
  onError :=
    if o.kinds.contains .stepFailed then
      some fun s e => o.take (.stepFailed s e)
    else none
  onRunComplete :=
    if o.kinds.contains .runCompleted then
      some fun rs => o.take (.runCompleted rs)
    else none

end Observer

end StepFlow
