import ReconcileFlow.Soundness.KeyCompleteness
import ReconcileFlow.Soundness.LlmContainment
import ReconcileFlow.Soundness.MismatchKeys
import ReconcileFlow.Soundness.NetAmount

/-! # When the templates validate

The mock's decision always fits its schema. The subject of its draft quotes an id of the files, whose
length nothing bounds, while the schema allows 200 characters. So the fallback raises for an exception
exactly when the quoted id is too long for its reason.
-/

namespace ReconcileFlow

variable {ω : Type}

/-- The id that the subject quotes. -/
def subjectRef (exception : ExceptionRecord) : String :=
  (truthy exception.orderId).getD ((truthy exception.settlementId).getD "unknown")

/-- The quoted id leaves the subject within 200 characters. -/
def SubjectFits (exception : ExceptionRecord) : Prop :=
  exception.reason.value.length + (subjectRef exception).length ≤ 180

instance (exception : ExceptionRecord) : Decidable (SubjectFits exception) :=
  inferInstanceAs (Decidable (_ ≤ _))

/-- The mock returns a decision, and a draft for every recipient. -/
structure FallbackValidates (exception : ExceptionRecord) : Prop where
  decides : ∀ withinSla threshold, ∃ decision, mockDecision exception withinSla threshold = .ok decision
  drafts : ∀ role tag, ∃ draft, mockDraft exception role tag = .ok draft

/-- The ids in the files are at most 160 characters long. -/
structure ShortIds (request : RunRequest) : Prop where
  orders : ∀ order ∈ request.orders, order.orderId.length ≤ 160
  settlements : ∀ settlement ∈ request.settlements, settlement.settlementId.length ≤ 160

theorem templateSubject_fits_iff (exception : ExceptionRecord) :
    (templateSubject exception).length ≤ 200 ↔ SubjectFits exception := by
  have opening : "[Reconciliation] ".length = 17 := by decide
  have dash : " - ".length = 3 := by decide
  change ("[Reconciliation] " ++ exception.reason.value ++ " - " ++ subjectRef exception).length ≤ 200 ↔ _
  rw [String.length_append, String.length_append, String.length_append, opening, dash, SubjectFits]
  omega

theorem fits_of_mockDraft {exception : ExceptionRecord} {role : RecipientRole} {tag : String}
    {draft : EmailDraft} (drafted : mockDraft exception role tag = .ok draft) :
    (templateSubject exception).length ≤ 200 := by
  unfold mockDraft at drafted
  dsimp only at drafted
  split at drafted
  · next bound => exact bound.1.2
  · cases drafted

theorem fallbackValidates_iff (exception : ExceptionRecord) :
    FallbackValidates exception ↔ SubjectFits exception := by
  rw [← templateSubject_fits_iff]
  constructor
  · intro validates
    obtain ⟨draft, drafted⟩ := validates.drafts .admin "email"
    exact fits_of_mockDraft drafted
  · exact fun fits => ⟨mockDecision_ok exception, mockDraft_ok fits⟩

theorem length_subjectRef_le {exception : ExceptionRecord} {bound : ℕ} (unknown : 7 ≤ bound)
    (order : ∀ orderId, exception.orderId = some orderId → orderId.length ≤ bound)
    (settlement : ∀ settlementId, exception.settlementId = some settlementId → settlementId.length ≤ bound) :
    (subjectRef exception).length ≤ bound := by
  unfold subjectRef
  cases quoted : truthy exception.orderId with
  | some orderId => exact order orderId (truthy_eq_some_iff.mp quoted).2
  | none =>
    cases other : truthy exception.settlementId with
    | some settlementId => exact settlement settlementId (truthy_eq_some_iff.mp other).2
    | none => exact unknown

/-- Every reason leaves room for 160 characters. -/
theorem subjectFits_of_short {exception : ExceptionRecord}
    (order : ∀ orderId, exception.orderId = some orderId → orderId.length ≤ 160)
    (settlement : ∀ settlementId, exception.settlementId = some settlementId → settlementId.length ≤ 160) :
    SubjectFits exception := by
  have reason : exception.reason.value.length ≤ 20 := by cases exception.reason <;> decide
  have quoted := length_subjectRef_le (by decide) order settlement
  unfold SubjectFits
  omega

/-- An exception quotes ids of the rows it was built from. -/
theorem Origin.subjectFits {obligations : List Obligation} {settlements : List Settlement}
    (shortOrders : ∀ obligation ∈ obligations, obligation.orderId.length ≤ 160)
    (shortSettlements : ∀ settlement ∈ settlements, settlement.settlementId.length ≤ 160)
    {exception : ExceptionRecord} (origin : Origin obligations settlements exception) :
    SubjectFits exception := by
  have named {id : String} (short : id.length ≤ 160) : ∀ text, some id = some text → text.length ≤ 160 := by
    rintro _ ⟨⟩
    exact short
  have absent : ∀ text, (none : Option String) = some text → text.length ≤ 160 := by
    rintro _ ⟨⟩
  cases origin with
  | amount status owed received =>
    exact subjectFits_of_short (named (shortOrders _ owed)) (named (shortSettlements _ received))
  | duplicate rest owed received =>
    exact subjectFits_of_short (named (shortOrders _ owed)) (named (shortSettlements _ received))
  | review rationale owed received =>
    exact subjectFits_of_short (named (shortOrders _ owed)) (named (shortSettlements _ received))
  | missing graceDays asOfDate owed => exact subjectFits_of_short (named (shortOrders _ owed)) absent
  | stray asOfDate received => exact subjectFits_of_short absent (named (shortSettlements _ received))

theorem sortedState_subjectFits (deps : AgentDependencies ω) {request : RunRequest} (short : ShortIds request)
    (runId : String) (asOf : Date) (reply : Except Raised FuzzyProposal) :
    ∀ exception ∈ (sortedState deps (initialState deps.config request runId asOf) reply).exceptions,
      SubjectFits exception := by
  obtain ⟨rest, split, origins⟩ := sortedState_origins deps (initialState deps.config request runId asOf) reply
  intro exception member
  rw [split, List.mem_append] at member
  rcases member with sum | built
  · obtain ⟨-, -, settlement, -⟩ := orderSumExceptions_fields sum
    obtain ⟨order, inFile, orderId⟩ := orderSumExceptions_order sum
    refine subjectFits_of_short (fun text same => ?_) fun text same => ?_
    · cases orderId.symm.trans same
      exact short.orders order inFile
    · cases settlement.symm.trans same
  · refine (origins exception built).subjectFits (fun obligation owed => ?_) short.settlements
    obtain ⟨order, inFile, same⟩ := buildObligations_order owed
    rw [same]
    exact short.orders order inFile

/-- For the exceptions that the pipeline derives from its files, the fallback returns exactly when the
quoted id fits the subject; ids of at most 160 characters always do. -/
theorem fallback_validates_iff (deps : AgentDependencies ω) (request : RunRequest) (runId : String)
    (asOf : Date) (before : Sys ω) :
    ∃ sorted after, (sortNodes deps (initialState deps.config request runId asOf)).run before =
        .ok sorted after ∧
      (∀ exception ∈ sorted.exceptions, FallbackValidates exception ↔ SubjectFits exception) ∧
      (ShortIds request → ∀ exception ∈ sorted.exceptions, SubjectFits exception) := by
  obtain ⟨after, ran, -⟩ := sortNodes_run deps (initialState deps.config request runId asOf) before
  exact ⟨_, after, ran, fun exception _ => fallbackValidates_iff exception,
    fun short => sortedState_subjectFits deps short runId asOf _⟩

/-- An order id of 200 characters. -/
def longId : String := String.ofList (List.replicate 200 'O')

/-- One unpaid cash order with the long id. -/
def longIdRow : Row := fun column => if column = "order_id" then some longId else orderRow "1000.00" column

/-- The row is accepted, and no draft about the missing payment validates. -/
theorem long_id_raises : ∃ order settlement,
    validateOrders readDate [longIdRow] = .ok [order] ∧
      validateSettlements readDate [settlementRow "1000.00"] = .ok [settlement] ∧
      ∃ sorted after, (sortNodes (scriptedDependencies (.ok {}) : AgentDependencies Unit)
          (initialState shippedConfig { orders := [order], settlements := [settlement] } "run-1"
            defaultDate)).run emptyStart = .ok sorted after ∧
        ¬ ∀ exception ∈ sorted.exceptions, FallbackValidates exception := by
  refine ⟨{ makeOrder longId ⟨100000⟩ with orderDate := 739777, storeId := "STORE-1" },
    feeSettlement ⟨100000⟩ 0 ⟨100000⟩, by decide +kernel, by decide +kernel, ?_⟩
  obtain ⟨after, ran, -⟩ := sortNodes_run (scriptedDependencies (.ok {}) : AgentDependencies Unit) _ emptyStart
  refine ⟨_, after, ran, ?_⟩
  simp only [fallbackValidates_iff]
  decide +kernel

end ReconcileFlow
