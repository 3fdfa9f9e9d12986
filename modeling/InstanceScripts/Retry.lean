/-!
# Bounded retry

An operation is attempted a bounded number of times with a fixed pause between two
attempts.  Only errors that the caller calls retryable lead to another attempt, and
the outcome is always that of the last attempt made.
-/

namespace InstanceScripts
namespace Retry

/-- How often to attempt an operation, and how long to pause in between. -/
structure Policy where
  attempts : UInt32
  pauseMillis : Nat
  deriving DecidableEq, Repr

/-- What happens while an operation is retried. -/
inductive Moment where
  | attempt
  | pause (millis : Nat)
  deriving DecidableEq, Repr

/-- How long a moment is waited for. -/
def Moment.millis : Moment → Nat
  | .attempt => 0
  | .pause millis => millis

/-- The outcome of a retried operation, the state it leaves, and what happened. -/
structure Run (σ ε α : Type) where
  outcome : Except ε α
  state : σ
  timeline : List Moment

namespace Policy

/-- Three attempts with five seconds in between. -/
def standard : Policy :=
  ⟨3, 5000⟩

/-- One attempt. -/
def single : Policy :=
  ⟨1, 0⟩

/-- The number of attempts allowed; one is always made. -/
def budget (policy : Policy) : Nat :=
  max policy.attempts.toNat 1

/-- Attempt an operation once, and so many times more as long as it fails in a way
that can be retried. -/
def attempt (policy : Policy) (retryable : ε → Bool) (operation : σ → Except ε α × σ) :
    Nat → σ → Run σ ε α
  | 0, state =>
      let (outcome, state) := operation state
      ⟨outcome, state, [.attempt]⟩
  | more + 1, state =>
      let (outcome, state) := operation state
      match outcome with
      | .ok value => ⟨.ok value, state, [.attempt]⟩
      | .error error =>
          if retryable error then
            let rest := attempt policy retryable operation more state
            { rest with timeline := .attempt :: .pause policy.pauseMillis :: rest.timeline }
          else ⟨.error error, state, [.attempt]⟩

/-- Attempt an operation until it succeeds, fails in a way that cannot be retried, or
the budget is spent. -/
def run (policy : Policy) (retryable : ε → Bool) (operation : σ → Except ε α × σ)
    (state : σ) : Run σ ε α :=
  policy.attempt retryable operation (policy.budget - 1) state

end Policy

namespace Run

/-- How often the operation was attempted. -/
def attempts (run : Run σ ε α) : Nat :=
  run.timeline.count .attempt

/-- How long the pauses took together. -/
def pausedMillis (run : Run σ ε α) : Nat :=
  run.timeline.foldr (fun moment total => moment.millis + total) 0

end Run

@[simp] theorem budget_single : Policy.single.budget = 1 := rfl

theorem one_le_budget (policy : Policy) : 1 ≤ policy.budget :=
  Nat.le_max_right _ _

end Retry
end InstanceScripts
