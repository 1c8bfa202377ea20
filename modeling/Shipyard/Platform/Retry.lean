import Shipyard.Error
/-!
# Retrying transport failures

The idempotent steps of a run (issuing an installation token, checking out the sources,
inspecting an image) are retried when they fail on the network. After the failure of attempt
`attempt` (counted from 0) the loop waits `200 · 2 ^ attempt` milliseconds and runs the step
again, as long as `attempt < maxRetries`; any other answer, and a transport failure once the
retries are spent, is the loop's answer. The loop is written for any monad, with the wait given
as an action: it is what the step's caller runs between attempts. The warning logged before
each wait is left out.

The run's steps call their services directly: the services of this model never answer a
transport failure, and on such a service the loop runs the step once.
-/
namespace Shipyard.Platform

/-- Errors that an idempotent step may retry. -/
class Retryable (ε : Type) where
  isRetryable : ε → Bool

instance : Retryable SourceError := ⟨SourceError.isTransport⟩

instance : Retryable RegistryError := ⟨RegistryError.isTransport⟩

/-- How many times a step is run again after a transport failure. -/
def maxRetries : Nat := 2

/-- The wait before the first retry, in milliseconds; each later wait doubles it. -/
def retryBaseDelayMs : Nat := 200

/-- The wait after the failure of attempt `attempt`, in milliseconds. -/
def retryDelayMs (attempt : Nat) : Nat := retryBaseDelayMs * Nat.pow 2 attempt

section

variable {m : Type → Type} [Monad m] {ε α : Type} [Retryable ε]

/-- The retry loop from attempt `attempt` on. The loop ends because each retry raises the attempt
towards `maxRetries`, whatever the step answers. -/
def retryFrom (sleep : Nat → m Unit) (op : m (Except ε α)) (attempt : Nat) : m (Except ε α) := do
  match ← op with
  | .error e =>
    if h : Retryable.isRetryable e = true ∧ attempt < maxRetries then
      sleep (retryDelayMs attempt)
      retryFrom sleep op (attempt + 1)
    else
      pure (.error e)
  | .ok a => pure (.ok a)
termination_by maxRetries - attempt
decreasing_by omega

/-- Runs `op`, retrying transport failures with exponential backoff. -/
def withRetry (sleep : Nat → m Unit) (op : m (Except ε α)) : m (Except ε α) :=
  retryFrom sleep op 0

end

end Shipyard.Platform
