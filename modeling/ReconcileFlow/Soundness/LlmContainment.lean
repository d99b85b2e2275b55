import ReconcileFlow.Model.Groq
import ReconcileFlow.Soundness.DispatchLoop

/-! # What the Groq client lets through

Whatever the chat model raises, and however small the budget, a decision and a draft fall back to the
mock. A reply without a tool call does not: `None` is cast to the schema and returned, and the node
that reads an attribute of it raises. So the decisions and the drafts of a run are complete exactly when
no call it reaches is answered with `None` (`llm_contained_iff`); the fuzzy node is complete always.
-/

namespace ReconcileFlow

open EffectRun

variable {ω α : Type}

theorem mockDecision_ok (exception : ExceptionRecord) (withinSla : Bool) (threshold : ℚ) :
    ∃ decision, mockDecision exception withinSla threshold = .ok decision := by
  have reason : exception.reason.value.length ≤ 20 := by cases exception.reason <;> decide
  have action : (mockAction exception withinSla).value.length ≤ 20 := by
    cases mockAction exception withinSla <;> decide
  have severity : (mockSeverity exception threshold).value.length ≤ 20 := by
    cases mockSeverity exception threshold <;> decide
  unfold mockDecision
  dsimp only
  split_ifs with bound
  · exact ⟨_, rfl⟩
  · refine absurd ?_ bound
    simp only [String.length_append]
    have arrow : " -> ".length = 4 := by decide
    have opening : " (severity ".length = 11 := by decide
    have closing : ").".length = 2 := by decide
    omega

theorem one_le_length_lines (first second : String) (rest : List String) :
    1 ≤ ("\n".intercalate (first :: second :: rest)).length := by
  have newline : "\n".length = 1 := by decide
  rw [String.intercalate_cons_cons, String.length_append, String.length_append]
  omega

/-- The template is a draft for every exception whose subject fits. -/
theorem mockDraft_ok {exception : ExceptionRecord} (fits : (templateSubject exception).length ≤ 200)
    (role : RecipientRole) (tag : String) : ∃ draft, mockDraft exception role tag = .ok draft := by
  have subject : 1 ≤ (templateSubject exception).length := by
    have opening : 1 ≤ "[Reconciliation] ".length := by decide
    unfold templateSubject
    dsimp only
    rw [String.length_append, String.length_append, String.length_append]
    omega
  have body : 1 ≤ (templateBody exception role tag).length := one_le_length_lines _ _ _
  unfold mockDraft
  dsimp only
  rw [dif_pos ⟨⟨subject, fits⟩, body⟩]
  exact ⟨_, rfl⟩

/-- The first of at most `attempts` replies that is not an exception; `none` when all are. -/
def firstAnswer (model : ω → ModelReply α × ω) : ℕ → ω → Option (Option α)
  | 0, _ => none
  | attempts + 1, world =>
    match model world with
    | (.object value, _) => some (some value)
    | (.noToolCall, _) => some none
    | (.raises _, after) => firstAnswer model attempts after

/-- The budget is used up, or the first of three replies that is not an exception is an object. -/
def Answered (client : GroqLlmClient) (model : ω → ModelReply α × ω) (world : GroqWorld ω) : Prop :=
  client.maxCalls < world.calls + 1 ∨ firstAnswer model 3 world.outside ≠ some none

theorem retry_structuredCall (model : ω → ModelReply α × ω) (further : ℕ) (world : GroqWorld ω) :
    match firstAnswer model (further + 1) world.outside with
    | some reply => ∃ after, (retry (GroqLlmClient.structuredCall model) LlmError.isTransient further).run world =
        .ok reply after
    | none => ∃ failure after, (retry (GroqLlmClient.structuredCall model) LlmError.isTransient further).run world =
        .error failure after := by
  induction further generalizing world with
  | zero =>
    unfold retry firstAnswer GroqLlmClient.structuredCall
    dsimp only [EStateM.run]
    rcases model world.outside with ⟨reply, after⟩
    cases reply with
    | object value => exact ⟨_, rfl⟩
    | noToolCall => exact ⟨_, rfl⟩
    | raises text => exact ⟨_, _, rfl⟩
  | succ further ih =>
    rw [firstAnswer]
    have tried : (GroqLlmClient.structuredCall model).run world = match model world.outside with
      | (.object value, outside) => .ok (some value) { world with outside }
      | (.noToolCall, outside) => .ok none { world with outside }
      | (.raises text, outside) => .error (.transient text) { world with outside } := rfl
    generalize model world.outside = answer at tried ⊢
    obtain ⟨reply, after⟩ := answer
    cases reply with
    | object value => exact ⟨_, retry_of_ok _ tried⟩
    | noToolCall => exact ⟨_, retry_of_ok _ tried⟩
    | raises text =>
      dsimp only at tried ⊢
      rw [retry_of_error further tried rfl]
      exact ih { world with outside := after }

/-- A call passes on an object or `None` within the budget, and raises otherwise. -/
theorem invoke_run (client : GroqLlmClient) (model : ω → ModelReply α × ω) (world : GroqWorld ω) :
    match if client.maxCalls < world.calls + 1 then none else firstAnswer model 3 world.outside with
    | some reply => ∃ after, (client.invoke model).run world = .ok reply after
    | none => ∃ failure after, (client.invoke model).run world = .error failure after := by
  have modified (world : GroqWorld ω) : (modify fun world : GroqWorld ω =>
      { world with calls := world.calls + 1 } : EStateM LlmError (GroqWorld ω) PUnit).run world =
        .ok () { world with calls := world.calls + 1 } := rfl
  have got (world : GroqWorld ω) : (get : EStateM LlmError (GroqWorld ω) (GroqWorld ω)).run world =
    .ok world world := rfl
  by_cases exceeded : client.maxCalls < world.calls + 1
  · rw [if_pos exceeded]
    have refused : (client.consumeBudget).run world = .error
        (.budgetExceeded ("Exceeded LLM call budget of " ++ toString client.maxCalls))
        { world with calls := world.calls + 1 } := by
      unfold GroqLlmClient.consumeBudget
      rw [bind_of_ok (modified world), bind_of_ok (got _), if_pos exceeded]
      rfl
    exact ⟨_, _, bind_of_error refused⟩
  · rw [if_neg exceeded]
    have counted : (client.consumeBudget).run world = .ok () { world with calls := world.calls + 1 } := by
      unfold GroqLlmClient.consumeBudget
      rw [bind_of_ok (modified world), bind_of_ok (got _), if_neg exceeded]
      rfl
    unfold GroqLlmClient.invoke
    rw [bind_of_ok counted]
    exact retry_structuredCall model 2 { world with calls := world.calls + 1 }

theorem orFallback_of_ok {call : EStateM LlmError (GroqWorld ω) (Option α)} (fallback : Except Raised α)
    {world after : GroqWorld ω} {reply : Option α} (ran : call.run world = .ok reply after) :
    (GroqLlmClient.orFallback call fallback).run world = .ok reply after := by
  dsimp only [EStateM.run] at ran
  simp only [GroqLlmClient.orFallback, EStateM.run, ran]

theorem orFallback_of_error {call : EStateM LlmError (GroqWorld ω) (Option α)} (spare : α)
    {world after : GroqWorld ω} {failure : LlmError} (ran : call.run world = .error failure after) :
    (GroqLlmClient.orFallback call (.ok spare)).run world = .ok (some spare) after := by
  dsimp only [EStateM.run] at ran
  simp only [GroqLlmClient.orFallback, EStateM.run, ran]

/-- With a fallback, a call returns an object exactly when it is answered. -/
theorem orFallback_returns_iff (client : GroqLlmClient) (model : ω → ModelReply α × ω)
    {fallback : Except Raised α} (available : ∃ value, fallback = .ok value) (world : GroqWorld ω) :
    (∃ value after, (GroqLlmClient.orFallback (client.invoke model) fallback).run world =
        .ok (some value) after) ↔ Answered client model world := by
  obtain ⟨spare, rfl⟩ := available
  have invoked := invoke_run client model world
  unfold Answered
  by_cases exceeded : client.maxCalls < world.calls + 1
  · rw [if_pos exceeded] at invoked
    obtain ⟨failure, after, ran⟩ := invoked
    exact iff_of_true ⟨spare, after, orFallback_of_error spare ran⟩ (.inl exceeded)
  · rw [if_neg exceeded] at invoked
    rw [or_iff_right exceeded]
    cases first : firstAnswer model 3 world.outside with
    | none =>
      rw [first] at invoked
      obtain ⟨failure, after, ran⟩ := invoked
      exact iff_of_true ⟨spare, after, orFallback_of_error spare ran⟩ (by simp)
    | some reply =>
      rw [first] at invoked
      obtain ⟨after, ran⟩ := invoked
      rw [orFallback_of_ok _ ran]
      cases reply with
      | none => simp
      | some value => exact iff_of_true ⟨value, after, rfl⟩ (by simp)

theorem decide_returns_iff (client : GroqLlmClient) (model : ChatModel ω) (exception : ExceptionRecord)
    (withinSla : Bool) (threshold : ℚ) (world : GroqWorld ω) :
    (∃ decision after, (client.decide model exception withinSla threshold).run world =
        .ok (some decision) after) ↔
      Answered client (model.exceptionDecision exception withinSla threshold) world :=
  orFallback_returns_iff client _ (mockDecision_ok exception withinSla threshold) world

theorem draftEmail_returns_iff (client : GroqLlmClient) (model : ChatModel ω) {exception : ExceptionRecord}
    (fits : (templateSubject exception).length ≤ 200) (role : RecipientRole) (tag : String)
    (world : GroqWorld ω) :
    (∃ draft after, (client.draftEmail model exception role tag).run world = .ok (some draft) after) ↔
      Answered client (model.emailDraft exception role tag) world :=
  orFallback_returns_iff client _ (mockDraft_ok fits role tag) world

/-- A node reads an attribute of a reply exactly when the reply is an object. -/
theorem attributeOf_ok_iff (name : String) (result : EStateM.Result Raised (GroqWorld ω) (Option α)) :
    (∃ value, (attributeOf name result).1 = .ok value) ↔ ∃ value after, result = .ok (some value) after := by
  cases result with
  | ok reply after => cases reply <;> simp [attributeOf]
  | error raised after => simp [attributeOf]

/-! ## The nodes -/

section Nodes

variable (client : GroqLlmClient) (model : ChatModel ω) (deps : AgentDependencies (GroqWorld ω))
  (state : ReconciliationState) (before : Sys (GroqWorld ω))

/-- The collaborators of a run with the Groq client. -/
def withGroq : AgentDependencies (GroqWorld ω) := { deps with llm := client.toLlmClient model }

/-- The loop over the targets of one decided exception, at every pass it reaches. -/
def AlongTargets (condition : ExceptionRecord → RecipientRole → String → GroqWorld ω → Prop)
    (one : ExceptionRecord × ExceptionDecision) (lists : DispatchLists) (sys : Sys (GroqWorld ω)) : Prop :=
  let (tag, status, _) := targetsForAction deps.config one.1 one.2.action
  AlongLoop (fun target _ (sys : Sys (GroqWorld ω)) => condition one.1 target.role tag sys.world)
    (dispatchTarget (withGroq client model deps) state one.1 one.2.action tag status)
    (mailedTargets deps.config one) lists sys

/-- Every draft that the dispatch loop asks for, in the world it is asked in. -/
def AlongDrafts (condition : ExceptionRecord → RecipientRole → String → GroqWorld ω → Prop) : Prop :=
  AlongLoop (AlongTargets client model deps state condition)
    (dispatchException (withGroq client model deps) state) (state.exceptions.zip state.decisions) {} before

/-- Every decision that the decision loop asks for, in the world it is asked in. -/
def AlongDecisions (condition : ExceptionRecord → Bool → ℚ → GroqWorld ω → Prop) : Prop :=
  AlongLoop (fun exception _ (sys : Sys (GroqWorld ω)) => condition exception
      (exception.slaStatus == .withinSla) deps.config.reconciliation.highValueThreshold sys.world)
    (decideException (withGroq client model deps) state.runId) state.exceptions [] before

/-- The nodes complete: pairings are proposed or skipped, every exception receives a decision, every
draft asked for is a draft, and the dispatch loop returns as long as mailing does. -/
structure LlmContained : Prop where
  fuzzy : ∃ final after, (fuzzyNode (withGroq client model deps) state).run before = .ok final after
  decided : ∃ final after, (decideNode (withGroq client model deps) state).run before = .ok final after ∧
    List.Forall₂ (Decides (withGroq client model deps)) state.exceptions final.decisions
  drafted : AlongDrafts client model deps state before fun exception role tag world =>
    ∃ draft after, (client.draftEmail model exception role tag).run world = .ok (some draft) after
  dispatched : MailReturns (withGroq client model deps) → ∃ lists after,
    ((state.exceptions.zip state.decisions).foldlM
      (dispatchException (withGroq client model deps) state) {}).run before = .ok lists after

theorem decideNode_answered_iff :
    (∃ final after, (decideNode (withGroq client model deps) state).run before = .ok final after) ↔
      AlongDecisions client model deps state before fun exception withinSla threshold world =>
        Answered client (model.exceptionDecision exception withinSla threshold) world := by
  refine (decideNode_returns_iff _ state before).trans (alongLoop_congr (fun exception _ _ sys => ?_) [] before)
  exact (attributeOf_ok_iff "action" _).trans (decide_returns_iff client model exception _ _ sys.world)

variable {state} in
theorem alongDrafts_congr {first second : ExceptionRecord → RecipientRole → String → GroqWorld ω → Prop}
    (same : ∀ exception ∈ state.exceptions, ∀ role tag world,
      first exception role tag world ↔ second exception role tag world) :
    AlongDrafts client model deps state before first ↔ AlongDrafts client model deps state before second := by
  refine alongLoop_congr (fun one member lists sys => ?_) _ before
  obtain ⟨listed, -⟩ := List.of_mem_zip member
  exact alongLoop_congr (fun target _ _ sys => same one.1 listed target.role _ sys.world) lists sys

variable {client model deps state before} in
/-- When every draft asked for is a draft and mailing returns, the dispatch loop returns. -/
theorem dispatchLoop_of_drafts (mail : MailReturns (withGroq client model deps))
    (drafted : AlongDrafts client model deps state before fun exception role tag world =>
      ∃ draft after, (client.draftEmail model exception role tag).run world = .ok (some draft) after) :
    ∃ lists after, ((state.exceptions.zip state.decisions).foldlM
      (dispatchException (withGroq client model deps) state) {}).run before = .ok lists after := by
  refine dispatchLoop_returns_iff.mpr (AlongLoop.mono drafted fun one _ lists sys targets => ?_)
  exact AlongLoop.mono targets fun target _ _ sys answered =>
    mail.serves ((attributeOf_ok_iff "subject" _).mpr answered)

theorem llmContained_iff
    (fits : ∀ exception ∈ state.exceptions, (templateSubject exception).length ≤ 200) :
    LlmContained client model deps state before ↔
      (AlongDecisions client model deps state before fun exception withinSla threshold world =>
        Answered client (model.exceptionDecision exception withinSla threshold) world) ∧
      AlongDrafts client model deps state before fun exception role tag world =>
        Answered client (model.emailDraft exception role tag) world := by
  have drafts := alongDrafts_congr client model deps before
    fun exception member role tag world => draftEmail_returns_iff client model (fits exception member) role tag world
  rw [← drafts, ← decideNode_answered_iff]
  constructor
  · intro contained
    obtain ⟨final, after, returned, -⟩ := contained.decided
    exact ⟨⟨final, after, returned⟩, contained.drafted⟩
  · rintro ⟨⟨final, after, returned⟩, drafted⟩
    obtain ⟨ended, proposed, -⟩ := fuzzyNode_run (withGroq client model deps) state before
    exact
      { fuzzy := ⟨_, ended, proposed⟩
        decided := ⟨final, after, returned, decideNode_decides returned⟩
        drafted := drafted
        dispatched := fun mail => dispatchLoop_of_drafts mail drafted }

end Nodes

/-- A decision or a draft is well formed, and the nodes complete, exactly when every call in question is
answered: the budget is used up, or the first of at most three replies that is not an exception is an
object of the schema. -/
theorem llm_contained_iff (client : GroqLlmClient) (model : ChatModel ω)
    (deps : AgentDependencies (GroqWorld ω)) (state : ReconciliationState) (before : Sys (GroqWorld ω))
    (fits : ∀ exception ∈ state.exceptions, (templateSubject exception).length ≤ 200) :
    (∀ exception withinSla threshold world,
      (∃ decision after, (client.decide model exception withinSla threshold).run world =
          .ok (some decision) after) ↔
        Answered client (model.exceptionDecision exception withinSla threshold) world) ∧
    (∀ exception role tag world, (templateSubject exception).length ≤ 200 →
      ((∃ draft after, (client.draftEmail model exception role tag).run world = .ok (some draft) after) ↔
        Answered client (model.emailDraft exception role tag) world)) ∧
    (LlmContained client model deps state before ↔
      (AlongDecisions client model deps state before fun exception withinSla threshold world =>
        Answered client (model.exceptionDecision exception withinSla threshold) world) ∧
      AlongDrafts client model deps state before fun exception role tag world =>
        Answered client (model.emailDraft exception role tag) world) :=
  ⟨decide_returns_iff client model, fun _ role tag world short => draftEmail_returns_iff client model short role tag world,
    llmContained_iff client model deps state before fits⟩

/-- A chat model whose every reply is the same. -/
def constantModel (reply : ∀ α : Type, ModelReply α) : ChatModel ω where
  fuzzyProposal _ _ world := (reply _, world)
  exceptionDecision _ _ _ world := (reply _, world)
  emailDraft _ _ _ world := (reply _, world)

/-- One unpaid cash order, waiting for its decision. -/
def undecidedState : ReconciliationState where
  runId := "run-1"
  asOfDate := defaultDate + 2
  obligations := []
  settlements := []
  exceptions := [{ reason := .cashMissing, status := .unmatched, orderId := some "O1" }]

/-- The offline assembly in the world of the Groq client. -/
def groqDependencies : AgentDependencies (GroqWorld Unit) :=
  buildDependencies shippedConfig mockLlm mockNotifier closedBreaker (fixedHost (defaultDate + 2))

def groqStart : Sys (GroqWorld Unit) := { world := { outside := () } }

/-- A missing payment and a duplicate, both decided and waiting for their mails. -/
def decidedState : ReconciliationState where
  runId := "run-1"
  asOfDate := defaultDate + 2
  obligations := []
  settlements := []
  exceptions :=
    [{ reason := .cashMissing, status := .unmatched, orderId := some "O1" },
      { reason := .duplicateSettlement, status := .duplicate, orderId := some "O2" }]
  decisions :=
    [{ severity := .needsReview, action := .emailStoreManager, rationale := "Not deposited." },
      { severity := .needsReview, action := .emailPg, rationale := "Settled twice." }]

/-- A model that only raises does not disturb the nodes: three mails are drafted without it. -/
theorem llm_contained_unreachable :
    ((decidedPairs decidedState).map fun one => (mailedTargets shippedConfig one).length) = [1, 2] ∧
      LlmContained ⟨200⟩ (constantModel fun _ => .raises "Connection error.") groqDependencies decidedState
        groqStart := by
  refine ⟨by decide, (llm_contained_iff _ _ groqDependencies decidedState groqStart (by decide +kernel)).2.2.mpr
    ⟨.of_forall ?_ _ _, .of_forall ?_ _ _⟩⟩
  · exact fun _ _ _ _ => .inr (by simp [firstAnswer, constantModel])
  · exact fun _ _ _ _ => .of_forall (fun _ _ _ _ => .inr (by simp [firstAnswer, constantModel])) _ _

/-- A model that makes no tool call: the first decision is `None`, and the decision node raises. -/
theorem missing_tool_call_raises :
    (∃ after, (GroqLlmClient.decide ⟨200⟩ (constantModel fun _ => .noToolCall)
      { reason := .cashMissing, status := .unmatched, orderId := some "O1" } false 1000).run groqStart.world =
        .ok none after) ∧
    ¬ LlmContained ⟨200⟩ (constantModel fun _ => .noToolCall) groqDependencies undecidedState groqStart := by
  refine ⟨⟨_, rfl⟩, fun contained => ?_⟩
  obtain ⟨final, after, returned, -⟩ := contained.decided
  have raised : raises ((decideNode (withGroq ⟨200⟩ (constantModel fun _ => .noToolCall) groqDependencies)
    undecidedState).run groqStart) = true := by rfl
  rw [returned] at raised
  cases raised

end ReconcileFlow
