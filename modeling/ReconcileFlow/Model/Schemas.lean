import ReconcileFlow.Model.Rules

/-! # LLM schemas and the planner

The validated objects of `agent/schemas.py`: the bounds their validators check are fields, so an
answer out of range cannot be built. The planner checks a proposed action against the allow-list.
-/

namespace ReconcileFlow

/-- How urgently a human should look at an exception. -/
inductive Severity where
  | routine | needsReview | highValue
deriving DecidableEq, Repr, Inhabited

def Severity.value : Severity → String
  | routine => "ROUTINE"
  | needsReview => "NEEDS_REVIEW"
  | highValue => "HIGH_VALUE"

/-- The decision on one exception: how severe, and what to do next. -/
structure ExceptionDecision where
  severity : Severity
  action : PlannerAction
  rationale : String
  rationaleLength : 1 ≤ rationale.length ∧ rationale.length ≤ 500 := by decide
deriving DecidableEq, Repr

/-- A proposed pairing; models may emit placeholder rows with absent ids. -/
structure FuzzyPairing where
  orderId : Option String := none
  settlementId : Option String := none
  confidence : ℚ
  rationale : String
  confidenceRange : 0 ≤ confidence ∧ confidence ≤ 1 := by norm_num
  rationaleLength : 1 ≤ rationale.length ∧ rationale.length ≤ 300 := by decide
deriving DecidableEq, Repr

structure FuzzyProposal where
  pairings : List FuzzyPairing := []
deriving DecidableEq, Repr

structure EmailDraft where
  subject : String
  body : String
  subjectLength : 1 ≤ subject.length ∧ subject.length ≤ 200 := by decide
  bodyLength : 1 ≤ body.length := by decide
deriving DecidableEq, Repr

/-- A dispatched or previewed email. -/
structure EmailMessageView where
  recipientRole : String
  recipientEmail : String
  subject : String
  body : String
  status : String
  reason : Option String
  mismatchKey : String
deriving DecidableEq, Repr

/-- A flattened view of an exception and its decision. -/
structure ExceptionView where
  reason : String
  status : String
  orderId : Option String
  settlementId : Option String
  paymentType : Option String
  expectedAmount : Option String
  actualAmount : Option String
  slaStatus : String
  severity : String
  action : String
  rationale : String
deriving DecidableEq, Repr

/-- The validated action and whether the fallback was applied. -/
structure PlannedAction where
  action : PlannerAction
  usedFallback : Bool
deriving DecidableEq, Repr

/-- An action off the allow-list, or `WAIT` outside the grace window, becomes the fallback. -/
def planAction (decision : ExceptionDecision) (plannerConfig : PlannerConfig) (withinSla : Bool) :
    PlannedAction :=
  if decision.action ∉ plannerConfig.allowedActions then ⟨plannerConfig.offListFallback, true⟩
  else if decision.action = .wait ∧ ¬withinSla then ⟨plannerConfig.offListFallback, true⟩
  else ⟨decision.action, false⟩

end ReconcileFlow
