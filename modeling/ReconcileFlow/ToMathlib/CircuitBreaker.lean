import Mathlib

/-! # Circuit breakers

A closed breaker counts consecutive failures, and the failure that brings the count to the maximum
opens it. An open breaker refuses every call until its timeout has elapsed; then it is half open and
the next call decides whether it closes or opens again. While no call succeeds and no timeout elapses,
`budget` bounds the failures to come.
-/

namespace CircuitBreaker

inductive Phase where
  | closed (failures : ℕ)
  | opened
  | halfOpen
deriving DecidableEq, Repr

namespace Phase

/-- Whether a call is admitted, and the phase it is made in. -/
def admits (elapsed : Bool) : Phase → Bool × Phase
  | closed failures => (true, closed failures)
  | opened => if elapsed then (true, halfOpen) else (false, opened)
  | halfOpen => (true, halfOpen)

/-- Whether a failure opens the breaker. -/
def trips (failMax : ℕ) : Phase → Bool
  | closed failures => decide (failMax ≤ failures + 1)
  | opened | halfOpen => true

/-- The phase after a failure. -/
def failed (failMax : ℕ) : Phase → Phase
  | closed failures => if failMax ≤ failures + 1 then opened else closed (failures + 1)
  | opened | halfOpen => opened

/-- How many failures can come before the breaker refuses calls. -/
def budget (failMax : ℕ) : Phase → ℕ
  | closed failures => max 1 (failMax - failures)
  | opened => 0
  | halfOpen => 1

/-- Before the timeout, asking to be admitted leaves the phase alone. -/
@[simp] theorem admits_unelapsed (phase : Phase) : (admits false phase).2 = phase := by
  cases phase <;> rfl

theorem budget_le {failMax : ℕ} (positive : 1 ≤ failMax) (phase : Phase) : budget failMax phase ≤ failMax := by
  cases phase with
  | closed failures => exact max_le positive (Nat.sub_le _ _)
  | opened => exact Nat.zero_le _
  | halfOpen => exact positive

/-- Every admitted call that fails uses up the budget. -/
theorem budget_failed (failMax : ℕ) {phase : Phase} (admitted : (admits false phase).1 = true) :
    budget failMax (failed failMax phase) + 1 ≤ budget failMax phase := by
  cases phase with
  | closed failures =>
    rw [failed]
    split
    · exact le_max_left 1 (failMax - failures)
    · simp only [budget]
      omega
  | opened => cases admitted
  | halfOpen => exact le_rfl

end Phase

end CircuitBreaker
