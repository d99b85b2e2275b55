import ReconcileFlow.Soundness.Frames
import ReconcileFlow.Soundness.Lifecycle
import ReconcileFlow.ToMathlib.Reports

/-! # Stretches of a run without mail, and the decisions

Only the dispatch loop hands requests to the notifier, and only dispatching and verifying write the
lifecycle table; the other nodes are `Quiet`, whether they return or raise. The decisions of a run
follow the client's proposals one by one, so a client that answers by its arguments decides the same
exceptions the same way in every run.
-/

namespace ReconcileFlow

open EffectRun

variable {ω α : Type}

/-- From one state to another nothing was mailed and neither log of keys moved. -/
structure Quiet (before after : Sys ω) : Prop where
  notifications : after.db.notifications = before.db.notifications
  exceptions : after.db.exceptions = before.db.exceptions
  requests : sendRequests after.calls = sendRequests before.calls
  deliveries : ∀ pair, deliveries pair after.calls = deliveries pair before.calls

theorem Quiet.refl (sys : Sys ω) : Quiet sys sys := ⟨rfl, rfl, rfl, fun _ => rfl⟩

instance : IsPreorder (Sys ω) Quiet where
  refl := Quiet.refl
  trans _ _ _ first second := ⟨second.notifications.trans first.notifications,
    second.exceptions.trans first.exceptions, second.requests.trans first.requests,
    fun pair => (second.deliveries pair).trans (first.deliveries pair)⟩

theorem sendRequests_judgement (calls : List ExternalCall) {call : ExternalCall}
    (other : call.sendRequest? = none) : sendRequests (calls ++ [call]) = sendRequests calls := by
  rw [sendRequests_append]
  simp [sendRequests, other]

theorem deliveries_judgement (pair : String × String) (calls : List ExternalCall) {call : ExternalCall}
    (other : call.sendRequest? = none) : deliveries pair (calls ++ [call]) = deliveries pair calls := by
  have undelivered : deliversTo pair call = false := by
    cases call with
    | send request reply => cases other
    | _ => rfl
  rw [deliveries_append, deliveries, deliveries, List.countP_singleton, undelivered]
  rfl

theorem quiet_nodeFrame : NodeFrame (Quiet : Sys ω → Sys ω → Prop) where
  world _ _ := ⟨rfl, rfl, rfl, fun _ => rfl⟩
  rollback quiet := ⟨rfl, rfl, quiet.requests, quiet.deliveries⟩
  audit _ _ _ := ⟨rfl, rfl, rfl, fun _ => rfl⟩
  judge sys _ asked := ⟨rfl, rfl, sendRequests_judgement sys.calls (ExternalCall.unsent_of_judgement asked),
    fun pair => deliveries_judgement pair sys.calls (ExternalCall.unsent_of_judgement asked)⟩

/-- Every answer depends on the arguments alone. -/
structure LlmClient.Functional (client : LlmClient ω) : Prop where
  proposeFuzzy : ∀ obligations settlements world world',
    (client.proposeFuzzy obligations settlements world).1 = (client.proposeFuzzy obligations settlements world').1
  decide : ∀ exception withinSla threshold world world',
    (client.decide exception withinSla threshold world).1 = (client.decide exception withinSla threshold world').1
  draftEmail : ∀ exception role tag world world',
    (client.draftEmail exception role tag world).1 = (client.draftEmail exception role tag world').1

/-- The client's proposal about one exception. -/
def proposedDecision (deps : AgentDependencies ω) (exception : ExceptionRecord) (world : ω) :
    Except Raised ExceptionDecision :=
  (deps.llm.decide exception (exception.slaStatus == .withinSla)
    deps.config.reconciliation.highValueThreshold world).1

/-- The executed decision comes from what the client proposed, in some world. -/
def Decides (deps : AgentDependencies ω) (exception : ExceptionRecord) (decision : ExceptionDecision) : Prop :=
  ∃ world proposed, proposedDecision deps exception world = .ok proposed ∧
    decision = finalDecision proposed
      (planAction proposed deps.config.planner (exception.slaStatus == .withinSla))

theorem Decides.unique {deps : AgentDependencies ω} (functional : deps.llm.Functional)
    {exception : ExceptionRecord} {first second : ExceptionDecision} (left : Decides deps exception first)
    (right : Decides deps exception second) : first = second := by
  obtain ⟨world, proposed, answer, rfl⟩ := left
  obtain ⟨world', proposed', answer', rfl⟩ := right
  have same : proposedDecision deps exception world = proposedDecision deps exception world' :=
    functional.decide _ _ _ _ _
  rw [answer, answer'] at same
  cases same
  rfl

theorem decides_unique {deps : AgentDependencies ω} (functional : deps.llm.Functional)
    {exceptions : List ExceptionRecord} {first second : List ExceptionDecision}
    (left : List.Forall₂ (Decides deps) exceptions first)
    (right : List.Forall₂ (Decides deps) exceptions second) : first = second := by
  induction left generalizing second with
  | nil =>
    cases right
    rfl
  | cons decides _ ih =>
    cases right with
    | cons decides' rest =>
      rw [decides.unique functional decides', ih rest]

/-- One pass of the decision loop, by the client's answer. -/
theorem decideException_run (deps : AgentDependencies ω) (runId : String)
    (decisions : List ExceptionDecision) (exception : ExceptionRecord) (before : Sys ω) :
    match proposedDecision deps exception before.world with
    | .ok proposed => ∃ after, (decideException deps runId decisions exception).run before =
        .ok (decisions ++ [finalDecision proposed
          (planAction proposed deps.config.planner (exception.slaStatus == .withinSla))]) after
    | .error raised => ∃ after,
        (decideException deps runId decisions exception).run before = .error raised after := by
  unfold decideException proposedDecision
  dsimp only
  rw [EStateM.run_bind]
  unfold callOutside
  dsimp only [EStateM.run]
  cases (deps.llm.decide exception (exception.slaStatus == .withinSla)
      deps.config.reconciliation.highValueThreshold before.world).1 with
  | ok proposed => exact ⟨_, rfl⟩
  | error raised => exact ⟨_, rfl⟩

/-- A decision loop that returns has decided every exception. -/
theorem decideNode_decides {deps : AgentDependencies ω} {state final : ReconciliationState}
    {before after : Sys ω} (success : (decideNode deps state).run before = .ok final after) :
    List.Forall₂ (Decides deps) state.exceptions final.decisions := by
  obtain ⟨decisions, between, decided, finished⟩ := bind_eq_ok_iff.mp success
  cases finished
  dsimp only
  rw [run_withSession] at decided
  split at decided
  · next result ended loop =>
    cases decided
    refine foldlM_invariant (fun done decisions _ => List.Forall₂ (Decides deps) done decisions)
      ?_ .nil loop
    intro done exception decisions before decisions' after holds stepped
    have step := decideException_run deps state.runId decisions exception before
    split at step
    · next proposed answer =>
      obtain ⟨_, ran⟩ := step
      rw [ran] at stepped
      cases stepped
      exact List.rel_append holds (.cons ⟨_, proposed, answer, rfl⟩ .nil)
    · obtain ⟨_, ran⟩ := step
      rw [ran] at stepped
      cases stepped
  · cases decided

/-- One pass returns exactly when the client answers. -/
theorem decideException_returns_iff (deps : AgentDependencies ω) (runId : String)
    (decisions : List ExceptionDecision) (exception : ExceptionRecord) (before : Sys ω) :
    (∃ decisions' after, (decideException deps runId decisions exception).run before =
        .ok decisions' after) ↔
      ∃ proposed, proposedDecision deps exception before.world = .ok proposed := by
  have step := decideException_run deps runId decisions exception before
  split at step
  · next proposed answer =>
    obtain ⟨after, ran⟩ := step
    exact iff_of_true ⟨_, after, ran⟩ ⟨proposed, answer⟩
  · next raised answer =>
    obtain ⟨after, ran⟩ := step
    refine iff_of_false ?_ (by simp [answer])
    rintro ⟨decisions', other, success⟩
    rw [ran] at success
    cases success

/-- The decision node returns exactly when the client answers at every pass it reaches. -/
theorem decideNode_returns_iff (deps : AgentDependencies ω) (state : ReconciliationState)
    (before : Sys ω) :
    (∃ final after, (decideNode deps state).run before = .ok final after) ↔
      AlongLoop (fun exception _ (sys : Sys ω) => ∃ proposed, proposedDecision deps exception sys.world =
        .ok proposed) (decideException deps state.runId) state.exceptions [] before := by
  refine Iff.trans ?_ (foldlM_returns_iff.trans (alongLoop_congr (fun exception _ decisions sys =>
    decideException_returns_iff deps state.runId decisions exception sys) [] before))
  constructor
  · rintro ⟨final, after, success⟩
    obtain ⟨decisions, between, decided, -⟩ := bind_eq_ok_iff.mp success
    exact ⟨decisions, between, of_withSession_ok decided⟩
  · rintro ⟨decisions, after, loop⟩
    unfold decideNode
    rw [bind_of_ok (run_withSession_of_ok loop)]
    exact ⟨_, _, rfl⟩

/-- What was decided once is decided again, from any state. -/
theorem decideNode_returns {deps : AgentDependencies ω} (functional : deps.llm.Functional)
    {state : ReconciliationState} {decisions : List ExceptionDecision}
    (decided : List.Forall₂ (Decides deps) state.exceptions decisions) (before : Sys ω) :
    ∃ after, (decideNode deps state).run before = .ok { state with decisions } after := by
  have loop : ∃ result after,
      (state.exceptions.foldlM (decideException deps state.runId) []).run before = .ok result after := by
    refine foldlM_returns ?_ [] before
    intro exception member done between
    obtain ⟨decision, -, world, proposed, answer, -⟩ := Reports.exists_of_forall₂ decided member
    have step := decideException_run deps state.runId done exception between
    have same : proposedDecision deps exception between.world = .ok proposed :=
      (functional.decide _ _ _ _ _).trans answer
    rw [same] at step
    obtain ⟨after, ran⟩ := step
    exact ⟨_, after, ran⟩
  obtain ⟨result, after, ran⟩ := loop
  have returned : (decideNode deps state).run before = .ok { state with decisions := result } after := by
    unfold decideNode
    rw [bind_of_ok (run_withSession_of_ok ran)]
    rfl
  have same := decides_unique functional (decideNode_decides returned) decided
  dsimp only at same
  exact ⟨after, by rw [returned, same]⟩

theorem mirrors_withSession {γ : Type} {Rel : γ → α → Sys ω → Prop} {expected : Option γ} {body : RunM ω α}
    {before : Sys ω} (mirrors : Mirrors Rel expected (body.run before)) :
    Mirrors Rel expected ((withSession body).run before) := by
  cases expected with
  | some model =>
    obtain ⟨value, state, success, related⟩ := mirrors
    exact ⟨value, state, run_withSession_of_ok success, related⟩
  | none =>
    obtain ⟨raised, state, failure⟩ := exists_of_raises mirrors
    rw [run_withSession, failure]
    rfl

/-- Ask the client about one more exception; it has answered when there is a result. -/
def askDecision (deps : AgentDependencies ω) (asked : List ExceptionDecision × ω)
    (exception : ExceptionRecord) : Option (List ExceptionDecision × ω) :=
  match deps.llm.decide exception (exception.slaStatus == .withinSla)
      deps.config.reconciliation.highValueThreshold asked.2 with
  | (.ok proposed, world) => some (asked.1 ++ [finalDecision proposed
      (planAction proposed deps.config.planner (exception.slaStatus == .withinSla))], world)
  | (.error _, _) => none

/-- The decisions of a list of exceptions, with the world after them, when the client answers them all. -/
def askDecisions (deps : AgentDependencies ω) (exceptions : List ExceptionRecord) (world : ω) :
    Option (List ExceptionDecision × ω) :=
  exceptions.foldlM (askDecision deps) ([], world)

/-- The decisions so far and the world are as the questions leave them. -/
def Asked (asked : List ExceptionDecision × ω) (decisions : List ExceptionDecision) (sys : Sys ω) : Prop :=
  decisions = asked.1 ∧ sys.world = asked.2

theorem decideException_mirrors (deps : AgentDependencies ω) (runId : String)
    (asked : List ExceptionDecision × ω) (decisions : List ExceptionDecision) (sys : Sys ω)
    (exception : ExceptionRecord) (related : Asked asked decisions sys) :
    Mirrors Asked (askDecision deps asked exception)
      ((decideException deps runId decisions exception).run sys) := by
  obtain ⟨rfl, world⟩ := related
  unfold askDecision decideException
  rw [← world]
  dsimp only
  rw [EStateM.run_bind]
  unfold callOutside
  dsimp only [EStateM.run]
  rcases deps.llm.decide exception (exception.slaStatus == .withinSla)
      deps.config.reconciliation.highValueThreshold sys.world with ⟨reply, next⟩
  cases reply with
  | ok proposed => exact ⟨_, _, rfl, rfl, rfl⟩
  | error raised => rfl

/-- The decision node returns exactly when the client answers every question of its loop. -/
theorem decideNode_mirrors (deps : AgentDependencies ω) (state : ReconciliationState) (before : Sys ω) :
    Mirrors (fun asked final (sys : Sys ω) => final = { state with decisions := asked.1 } ∧ sys.world = asked.2)
      (askDecisions deps state.exceptions before.world) ((decideNode deps state).run before) := by
  have loop : Mirrors Asked (askDecisions deps state.exceptions before.world)
      ((state.exceptions.foldlM (decideException deps state.runId) []).run before) :=
    mirrors_foldlM (decideException_mirrors deps state.runId) state.exceptions ⟨rfl, rfl⟩
  exact (mirrors_withSession loop).map fun asked decisions sys related => ⟨by rw [related.1], related.2⟩

end ReconcileFlow
