import ReconcileFlow.Model.AgentProcess
import ReconcileFlow.Soundness.Frames

/-! # The budget of the Groq client

Every judgement is counted once by the client, and nothing ever sets the counter back. So the client
refuses from the judgement after the budget on, counted from the start of the process: the meter of a
process (`Metered`) is kept by every step of every run. A run within the budget is served without a
refusal exactly when what earlier runs requested leaves room for it.
-/

namespace ReconcileFlow

open EffectRun

variable {ω α β : Type}

/-- What was received is `LLMBudgetExceededError`. -/
def isBudgetExceeded : Option LlmError → Bool
  | some (.budgetExceeded _) => true
  | _ => false

/-- Trying the model neither counts nor refuses. -/
theorem structuredCall_frame (model : ω → ModelReply α × ω) (world : GroqWorld ω) :
    (finalState ((GroqLlmClient.structuredCall model).run world)).calls = world.calls ∧
      isBudgetExceeded (failureOf ((GroqLlmClient.structuredCall model).run world)) = false := by
  unfold GroqLlmClient.structuredCall
  dsimp only [EStateM.run]
  split <;> exact ⟨rfl, rfl⟩

theorem retry_frame (model : ω → ModelReply α × ω) (further : ℕ) (world : GroqWorld ω) :
    let tried := (retry (GroqLlmClient.structuredCall model) LlmError.isTransient further).run world
    (finalState tried).calls = world.calls ∧ isBudgetExceeded (failureOf tried) = false := by
  intro tried
  let SameCount (before after : GroqWorld ω) : Prop := after.calls = before.calls
  have preorder : IsPreorder (GroqWorld ω) SameCount :=
    { refl := fun _ => rfl, trans := fun _ _ _ first second => second.trans first }
  have once : Keeps SameCount (GroqLlmClient.structuredCall model) := fun world => (structuredCall_frame model world).1
  refine ⟨keeps_retry once LlmError.isTransient further world, ?_⟩
  cases ended : tried with
  | ok reply after => rfl
  | error failure after =>
    refine retry_raises (fun failure => isBudgetExceeded (some failure) = false) ?_ ended
    intro before raised between ran
    have frame := (structuredCall_frame model before).2
    rw [ran] at frame
    exact frame

/-- A call is counted, and refused exactly when the count is beyond the budget. -/
theorem invoke_metered (client : GroqLlmClient) (model : ω → ModelReply α × ω) (world : GroqWorld ω) :
    (finalState ((client.invoke model).run world)).calls = world.calls + 1 ∧
      isBudgetExceeded (failureOf ((client.invoke model).run world)) = decide (client.maxCalls < world.calls + 1) := by
  have counted : (modify fun world : GroqWorld ω => { world with calls := world.calls + 1 } :
      EStateM LlmError (GroqWorld ω) PUnit).run world = .ok () { world with calls := world.calls + 1 } := rfl
  have read (world : GroqWorld ω) : (get : EStateM LlmError (GroqWorld ω) (GroqWorld ω)).run world =
    .ok world world := rfl
  unfold GroqLlmClient.invoke GroqLlmClient.consumeBudget
  rw [bind_assoc, bind_of_ok counted, bind_assoc, bind_of_ok (read _)]
  by_cases exceeded : client.maxCalls < world.calls + 1
  · rw [if_pos exceeded, decide_eq_true exceeded]
    exact ⟨rfl, rfl⟩
  · rw [if_neg exceeded, decide_eq_false exceeded, pure_bind]
    exact retry_frame model 2 { world with calls := world.calls + 1 }

theorem attributeOf_world (name : String) (result : EStateM.Result Raised (GroqWorld ω) (Option α)) :
    (attributeOf name result).2 = finalState result := by
  cases result with
  | ok reply after => cases reply <;> rfl
  | error raised after => rfl

theorem orFallback_world (call : EStateM LlmError (GroqWorld ω) (Option α)) (fallback : Except Raised α)
    (world : GroqWorld ω) :
    finalState ((GroqLlmClient.orFallback call fallback).run world) = finalState (call.run world) := by
  unfold GroqLlmClient.orFallback
  dsimp only [EStateM.run]
  cases call world with
  | ok reply after => rfl
  | error failure after => cases fallback <;> rfl

theorem proposeFuzzy_world (client : GroqLlmClient) (model : ChatModel ω) (obligations : List Obligation)
    (settlements : List Settlement) (world : GroqWorld ω) :
    ((client.toLlmClient model).proposeFuzzy obligations settlements world).2 =
      finalState ((client.invoke (model.fuzzyProposal obligations settlements)).run world) := by
  refine (attributeOf_world _ _).trans ?_
  unfold GroqLlmClient.proposeFuzzy
  dsimp only [EStateM.run]
  cases client.invoke (model.fuzzyProposal obligations settlements) world <;> rfl

/-- The questions among the calls of a run. -/
def judgements (calls : List ExternalCall) : ℕ := calls.countP ExternalCall.isJudgement

theorem judgements_append (first second : List ExternalCall) :
    judgements (first ++ second) = judgements first + judgements second := List.countP_append

/-- The counter of the client is the number of judgements since the process started, and exactly the
judgements beyond the budget were refused. -/
structure Metered (client : GroqLlmClient) (sys : Sys (WatchedWorld ω)) : Prop where
  counted : sys.world.groq.calls = judgements sys.calls
  recorded : sys.world.received.length = judgements sys.calls
  refused : sys.world.received.map isBudgetExceeded =
    (List.range (judgements sys.calls)).map fun earlier : ℕ => decide (client.maxCalls < (earlier : ℤ) + 1)

theorem metered_processStart (client : GroqLlmClient) (sys : Sys ω) : Metered client (processStart sys) :=
  ⟨rfl, rfl, rfl⟩

/-- Calls and records are only added, and the meter stays right. -/
structure MeterKept (client : GroqLlmClient) (before after : Sys (WatchedWorld ω)) : Prop where
  calls : before.calls <+: after.calls
  received : before.world.received <+: after.world.received
  metered : Metered client before → Metered client after

namespace MeterKept

variable {client : GroqLlmClient}

/-- A step that asks nothing. -/
theorem of_silent {before after : Sys (WatchedWorld ω)} {new : List ExternalCall}
    (calls : after.calls = before.calls ++ new) (silent : judgements new = 0)
    (received : after.world.received = before.world.received)
    (counter : after.world.groq.calls = before.world.groq.calls) : MeterKept client before after := by
  have same : judgements after.calls = judgements before.calls := by
    rw [calls, judgements_append, silent, Nat.add_zero]
  refine ⟨⟨new, calls.symm⟩, ⟨[], by rw [received, List.append_nil]⟩, fun meter => ⟨?_, ?_, ?_⟩⟩
  · rw [counter, same]
    exact meter.counted
  · rw [received, same]
    exact meter.recorded
  · rw [received, same]
    exact meter.refused

theorem of_world {before after : Sys (WatchedWorld ω)} (calls : after.calls = before.calls)
    (world : after.world = before.world) : MeterKept client before after :=
  of_silent (calls.trans (List.append_nil _).symm) rfl (by rw [world]) (by rw [world])

instance : IsPreorder (Sys (WatchedWorld ω)) (MeterKept client) where
  refl _ := .of_world rfl rfl
  trans _ _ _ first second :=
    ⟨first.calls.trans second.calls, first.received.trans second.received, fun meter =>
      second.metered (first.metered meter)⟩

/-- One judgement: the record gets what the count before it says. -/
theorem of_judgement {before after : Sys (WatchedWorld ω)} {call : ExternalCall} {failure : Option LlmError}
    (asked : call.isJudgement = true) (calls : after.calls = before.calls ++ [call])
    (received : after.world.received = before.world.received ++ [failure])
    (counter : after.world.groq.calls = before.world.groq.calls + 1)
    (refusal : isBudgetExceeded failure = decide (client.maxCalls < before.world.groq.calls + 1)) :
    MeterKept client before after := by
  have one : judgements [call] = 1 := by
    unfold judgements
    rw [List.countP_singleton, asked]
    rfl
  have next : judgements after.calls = judgements before.calls + 1 := by rw [calls, judgements_append, one]
  refine ⟨⟨_, calls.symm⟩, ⟨_, received.symm⟩, fun meter => ⟨?_, ?_, ?_⟩⟩
  · rw [counter, next, meter.counted]
    rfl
  · rw [received, List.length_append, meter.recorded, next]
    rfl
  · rw [received, next, List.map_append, meter.refused, List.range_succ, List.map_append, List.map_singleton,
      List.map_singleton, refusal, meter.counted]

variable (client)

theorem sessionFrame : SessionFrame (ω := WatchedWorld ω) (MeterKept client) where
  rollback before after kept := by
    have restored : MeterKept client after { after with db := before.db } := .of_world rfl rfl
    exact trans_of _ kept restored
  audit _ _ _ := .of_world rfl rfl

theorem keeps_watch {record : Except Raised α → ExternalCall}
    {act : GroqWorld ω → Except Raised α × GroqWorld ω} {model : ω → ModelReply β × ω}
    (asks : ∀ reply, (record reply).isJudgement = true)
    (world : ∀ world, (act world).2 = finalState ((client.invoke model).run world)) :
    Keeps (MeterKept client) (callOutside record (watch (client.invoke model) act)) := by
  intro sys
  obtain ⟨counted, refused⟩ := invoke_metered client model sys.world.groq
  rw [finalState_callOutside]
  refine of_judgement (asks _) rfl rfl ?_ refused
  rw [← counted, ← world]
  rfl

theorem graphFrame (model : ChatModel ω) : GraphFrame (MeterKept client) (client.watched model) where
  rollback := (sessionFrame client).rollback
  audit sys event now _ := (sessionFrame client).audit sys event now
  proposeFuzzy obligations settlements :=
    keeps_watch client (fun _ => rfl) (proposeFuzzy_world client model obligations settlements)
  decide _ _ _ := keeps_watch client (fun _ => rfl) fun _ =>
    (attributeOf_world _ _).trans (orFallback_world _ _ _)
  draftEmail _ _ _ := keeps_watch client (fun _ => rfl) fun _ =>
    (attributeOf_world _ _).trans (orFallback_world _ _ _)

theorem keeps_onOutside (act : ω → α × ω) : Keeps (MeterKept client) (stepWorld (onOutside act)) :=
  fun _ => of_silent (List.append_nil _).symm rfl rfl rfl

theorem hostFrame (host : Host ω) : HostFrame (MeterKept client) host.outside :=
  ⟨keeps_onOutside client _, keeps_onOutside client _⟩

theorem mailsWithin (service : NotificationService ω) (host : Host (WatchedWorld ω)) (runId : String) :
    MailsWithin (MeterKept client) service.outside host runId := by
  rintro call -
  have sends : Keeps (MeterKept client)
      (callOutside (.send call.request) (service.outside.notifier.send call.request)) := by
    intro sys
    rw [finalState_callOutside]
    exact of_silent rfl rfl rfl rfl
  have succeeds := keeps_onOutside client fun outside => ((), service.breaker.onSuccess outside)
  refine keeps_dispatch (sessionFrame client).rollback ?_ (fun _ _ _ => .of_world rfl rfl) host
  exact keeps_breakerCall (keeps_onOutside client _) succeeds (keeps_onOutside client _) sends

theorem adminMailsWithin (service : IncidentService ω) (host : Host (WatchedWorld ω)) (runId : String) :
    AdminMailsWithin (MeterKept client) service.outside host runId := by
  intro notifications configured
  obtain ⟨inner, -, rfl⟩ := Option.map_eq_some_iff.mp configured
  exact mailsWithin client inner host runId

theorem lifecycleFrame : LifecycleFrame (ω := WatchedWorld ω) (MeterKept client) where
  upsert _ _ _ _ _ _ := .of_world rfl rfl
  sweep _ _ _ _ := .of_world rfl rfl

theorem runFrame : RunFrame (ω := WatchedWorld ω) (MeterKept client) where
  runs _ _ := .of_world rfl rfl
  incident _ _ _ := .of_world rfl rfl
  stored _ _ := .of_silent rfl rfl rfl rfl

end MeterKept

theorem serveAll_append (agent : AgentDependencies (WatchedWorld ω)) (sys : Sys (WatchedWorld ω))
    (past later : List (ServedRun ω)) :
    serveAll agent sys (past ++ later) = serveAll agent (serveAll agent sys past) later := List.foldl_append

theorem serveAll_meterKept (client : GroqLlmClient) (model : ChatModel ω) (deps : AgentDependencies ω)
    (sys : Sys (WatchedWorld ω)) (runs : List (ServedRun ω)) :
    MeterKept client sys (serveAll (groqAgent client model deps) sys runs) := by
  induction runs generalizing sys with
  | nil => exact refl_of _ sys
  | cons run rest ih =>
    have found : MeterKept client sys (run.finds sys) := .of_silent (List.append_nil _).symm rfl rfl rfl
    have graph : GraphFrame (MeterKept client) (groqAgent client model deps).llm :=
      MeterKept.graphFrame client model
    have ran := run_keeps (MeterKept.sessionFrame client) graph (MeterKept.hostFrame client deps.host) (MeterKept.lifecycleFrame client)
      (MeterKept.runFrame client) run.request (run.finds sys) (MeterKept.mailsWithin client deps.notifications _ _)
      (MeterKept.adminMailsWithin client deps.incidents _ _)
    exact trans_of _ found (trans_of _ ran (ih _))

/-- The judgements requested from one state to a later one. -/
def requested (before after : Sys (WatchedWorld ω)) : ℕ := judgements (after.calls.drop before.calls.length)

/-- What these judgements received from the client's `_invoke`. -/
def receivedSince (before after : Sys (WatchedWorld ω)) : List (Option LlmError) :=
  after.world.received.drop before.world.received.length

theorem MeterKept.judgements_eq {client : GroqLlmClient} {before after : Sys (WatchedWorld ω)}
    (kept : MeterKept client before after) :
    judgements after.calls = judgements before.calls + requested before after := by
  obtain ⟨new, calls⟩ := kept.calls
  unfold requested
  rw [← calls, List.drop_left, judgements_append]

/-- What a stretch receives depends on the judgements before it only by their number. -/
theorem MeterKept.refused_since {client : GroqLlmClient} {before after : Sys (WatchedWorld ω)}
    (kept : MeterKept client before after) (meter : Metered client before) :
    (receivedSince before after).map isBudgetExceeded = (List.range (requested before after)).map
      fun earlier : ℕ => decide (client.maxCalls < ((judgements before.calls + earlier : ℕ) : ℤ) + 1) := by
  have refused := (kept.metered meter).refused
  unfold receivedSince
  rw [List.map_drop, refused, kept.judgements_eq, meter.recorded, List.range_add, List.map_append,
    List.drop_left' (by rw [List.length_map, List.length_range]), List.map_map]
  rfl

/-- A stretch is served without a refusal exactly when it asks nothing or stays within the budget. -/
theorem MeterKept.served_iff {client : GroqLlmClient} {before after : Sys (WatchedWorld ω)}
    (kept : MeterKept client before after) (meter : Metered client before) :
    (∀ failure ∈ receivedSince before after, isBudgetExceeded failure = false) ↔
      requested before after = 0 ∨
        ((judgements before.calls + requested before after : ℕ) : ℤ) ≤ client.maxCalls := by
  rw [← List.forall_mem_map (P := fun flag => flag = false), kept.refused_since meter, List.forall_mem_map]
  simp only [List.mem_range, decide_eq_false_iff_not, not_lt]
  constructor
  · intro served
    rcases Nat.eq_zero_or_pos (requested before after) with none | some
    · exact .inl none
    · have last := served (requested before after - 1) (by omega)
      right
      omega
  · rintro (none | within) earlier below
    · omega
    · omega

/-- A run that requests no more than the budget is served without a refusal exactly when it requests
nothing, or the runs before it left room for what it requests. -/
theorem call_budget_iff (client : GroqLlmClient) (model : ChatModel ω) (deps : AgentDependencies ω)
    (start : Sys ω) (past : List (ServedRun ω)) (run : ServedRun ω) :
    let before := serveAll (groqAgent client model deps) (processStart start) past
    let after := serveAll (groqAgent client model deps) (processStart start) (past ++ [run])
    ((requested before after : ℤ) ≤ client.maxCalls →
        ∀ failure ∈ receivedSince before after, isBudgetExceeded failure = false) ↔
      client.maxCalls < requested before after ∨ requested before after = 0 ∨
        ((judgements before.calls + requested before after : ℕ) : ℤ) ≤ client.maxCalls := by
  intro before after
  have meter : Metered client before :=
    (serveAll_meterKept client model deps (processStart start) past).metered (metered_processStart client start)
  have kept : MeterKept client before after := by
    dsimp only [after]
    rw [serveAll_append]
    exact serveAll_meterKept client model deps before [run]
  rw [kept.served_iff meter, ← not_le, ← imp_iff_not_or]

/-- A chat model that escalates everything. -/
def escalatingModel : ChatModel ω where
  fuzzyProposal _ _ world := (.object {}, world)
  exceptionDecision _ _ _ world :=
    (.object { severity := .needsReview, action := .escalate, rationale := "Ask the finance team." }, world)
  emailDraft _ _ _ world := (.object scriptedDraft, world)

/-- One unpaid cash order, uploaded twice in one process. -/
def uploadedTwice : List (ServedRun Unit) :=
  let unpaid : RunRequest := { orders := [makeOrder], settlements := [] }
  [⟨{ unpaid with runId := some "run-1" }, ()⟩, ⟨{ unpaid with runId := some "run-2" }, ()⟩]

/-- With a budget of two calls a run, the second run requests two and is refused both. -/
theorem second_upload_refused :
    let agent := groqAgent ⟨2⟩ escalatingModel (scriptedDependencies (.ok {}))
    let before := serveAll agent (processStart emptyStart) (uploadedTwice.take 1)
    let after := serveAll agent (processStart emptyStart) uploadedTwice
    requested before after = 2 ∧ (receivedSince before after).map isBudgetExceeded = [true, true] := by
  decide +kernel

end ReconcileFlow
