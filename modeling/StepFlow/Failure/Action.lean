/-!
# Failure actions

What a run does after a step has failed: go on with the next step, stop, or attempt a step again a
bounded number of times.
-/

namespace StepFlow

/-- The step that a retry attempts, by position or by name. -/
inductive RetryTarget where
  | index (n : Int)
  | name (s : String)
  deriving DecidableEq, Repr, Inhabited

/-- What follows a failed step. -/
inductive FailureAction where
  | proceed
  | stop
  /-- Attempt `target` at most `maxRetries` times, waiting `delayMs` milliseconds before each. -/
  | retry (target : RetryTarget) (maxRetries delayMs : Int)
  deriving DecidableEq, Repr, Inhabited

end StepFlow
