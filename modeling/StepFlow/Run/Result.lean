import StepFlow.Value.Basic

/-!
# Results of attempts

Every attempt of a step leaves a result, also one that failed. A failed attempt has an error and, when
it comes from a run, no output.
-/

namespace StepFlow

/-- Why an attempt failed. -/
structure StepError where
  type : String
  message : String
  /-- Details by name. -/
  context : Value
  deriving Repr, Inhabited

/-- The result of one attempt of a step. -/
structure StepResult where
  name : String
  index : Nat
  /-- Counts the attempts of the step from one. -/
  attempt : Nat
  output : String
  startedAt : Instant
  endedAt : Instant
  durationMs : Int
  error : Option StepError
  deriving Repr, Inhabited

def StepResult.success (r : StepResult) : Bool := r.error.isNone

/-- What templates see of the attempts so far. -/
def outputsOf (results : List StepResult) : List (String × String) :=
  results.map fun r => (r.name, r.output)

def StepError.toValue (e : StepError) : Value :=
  .ofFields [("type", .str e.type), ("message", .str e.message), ("context", e.context)]

/-- The record of a result, as it is stored. -/
def StepResult.toValue (r : StepResult) : Value :=
  .ofFields <|
    [ ("step_name", .str r.name)
    , ("step_index", .int r.index)
    , ("attempt", .int r.attempt)
    , ("success", .bool r.success)
    , ("output", .str r.output)
    , ("started_at", .str r.startedAt.iso)
    , ("ended_at", .str r.endedAt.iso)
    , ("duration_ms", .int r.durationMs) ]
    ++ match r.error with
      | some e => [("error", e.toValue)]
      | none => []

end StepFlow
