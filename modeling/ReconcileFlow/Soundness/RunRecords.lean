import ReconcileFlow.Model.Offline
import ReconcileFlow.Soundness.Frames

/-! # The record of a run

The nodes and the administrator mail touch neither the run records nor the incidents, so these follow
from the run lifecycle alone. A graph that returns closes its record as completed. A graph that
raises, wherever it does, leaves one incident on file and in the stream before the administrator is
mailed, and closes its record as failed whatever becomes of the mail. The order of the two is read off
the calls of the run, which log when an incident is put on file.
-/

namespace ReconcileFlow

open EffectRun ReconciliationAgent

variable {ω : Type}

/-- The incident that was put on file. -/
def ExternalCall.incident? : ExternalCall → Option Incident
  | .storeIncident incident => some incident
  | _ => none

/-- The calls of a stretch in which no incident was put on file. -/
def CallsWithoutIncident (before : Sys ω) (new : List ExternalCall) (after : Sys ω) : Prop :=
  after.calls = before.calls ++ new ∧ ∀ call ∈ new, call.incident? = none

theorem CallsWithoutIncident.none {before after : Sys ω} (calls : after.calls = before.calls) :
    CallsWithoutIncident before [] after :=
  ⟨by rw [calls, List.append_nil], fun _ member => (List.not_mem_nil member).elim⟩

theorem CallsWithoutIncident.single (sys : Sys ω) {call : ExternalCall} (other : call.incident? = Option.none) :
    CallsWithoutIncident sys [call] { sys with calls := sys.calls ++ [call] } :=
  ⟨rfl, fun _ member => List.mem_singleton.mp member ▸ other⟩

/-- Run records and incidents did not move. -/
structure RecordsKept (before after : Sys ω) : Prop where
  runs : after.db.runs = before.db.runs
  incidentFiles : after.incidentFiles = before.incidentFiles
  incidentStream : after.incidentStream = before.incidentStream
  calls : ∃ new, CallsWithoutIncident before new after

namespace RecordsKept

theorem of_calls {before after : Sys ω} (runs : after.db.runs = before.db.runs)
    (files : after.incidentFiles = before.incidentFiles) (stream : after.incidentStream = before.incidentStream)
    (calls : after.calls = before.calls) : RecordsKept before after :=
  ⟨runs, files, stream, _, .none calls⟩

instance : IsPreorder (Sys ω) RecordsKept where
  refl _ := of_calls rfl rfl rfl rfl
  trans _ _ _ first second := by
    obtain ⟨new, called, silent⟩ := first.calls
    obtain ⟨later, calledLater, silentLater⟩ := second.calls
    refine ⟨second.runs.trans first.runs, second.incidentFiles.trans first.incidentFiles,
      second.incidentStream.trans first.incidentStream, new ++ later, ?_, ?_⟩
    · rw [calledLater, called, List.append_assoc]
    · exact fun call member => (List.mem_append.mp member).elim (silent call) (silentLater call)

theorem nodeFrame : NodeFrame (RecordsKept : Sys ω → Sys ω → Prop) where
  world _ _ := of_calls rfl rfl rfl rfl
  rollback kept := ⟨rfl, kept.incidentFiles, kept.incidentStream, kept.calls⟩
  audit _ _ _ := of_calls rfl rfl rfl rfl
  judge sys call asked := by
    refine ⟨rfl, rfl, rfl, _, .single sys ?_⟩
    cases call with
    | storeIncident incident => cases asked
    | _ => rfl

theorem lifecycleFrame : LifecycleFrame (RecordsKept : Sys ω → Sys ω → Prop) where
  upsert _ _ _ _ _ _ := of_calls rfl rfl rfl rfl
  sweep _ _ _ _ := of_calls rfl rfl rfl rfl

theorem mailFrame : MailFrame (RecordsKept : Sys ω → Sys ω → Prop) where
  send sys _ _ := ⟨rfl, rfl, rfl, _, .single sys rfl⟩
  record _ _ := of_calls rfl rfl rfl rfl

end RecordsKept

/-- The record of the run is `row`, and every other record is as it was. -/
structure RecordClosed (before : Sys ω) (row : RunLogRow) (after : Sys ω) : Prop where
  closed : after.db.runs.find? row.id = some row
  others : ∀ other, other ≠ row.id → after.db.runs.find? other = before.db.runs.find? other

/-- A closed record leaves no new run running. -/
theorem RecordClosed.running {before after : Sys ω} {row : RunLogRow}
    (record : RecordClosed before row after) (ended : row.status ≠ .running) {other : RunLogRow}
    (member : other ∈ after.db.runs.rows) (running : other.status = .running) :
    other ∈ before.db.runs.rows := by
  have stored : after.db.runs.find? other.id = some other := KeyedTable.find?_eq_some_iff.mpr ⟨member, rfl⟩
  by_cases same : other.id = row.id
  · rw [same, record.closed, Option.some.injEq] at stored
    rw [stored] at ended
    exact (ended running).elim
  · rw [record.others _ same] at stored
    exact (KeyedTable.find?_eq_some_iff.mp stored).1

/-- The record with which a run ends. -/
def closedRow (deps : AgentDependencies ω) (request : RunRequest) (before : Sys ω) (status : RunStatus)
    (summary : SummaryJson) (finished : Timestamp) : RunLogRow :=
  { startedRow deps request before with
    finishedAt := some finished, status, summaryJson := some summary }

/-- Finishing a run whose record is still the one it started with. -/
theorem recordClosed_finishRun (deps : AgentDependencies ω) (request : RunRequest) {before sys : Sys ω}
    (started : sys.db.runs = (startedSys deps request before).db.runs) (status : RunStatus)
    (summary : SummaryJson) (now : Timestamp) :
    RecordClosed before (closedRow deps request before status summary now)
      { sys with db := sys.db.finishRun (chosenRunId deps.host request before.world) status summary now } := by
  have found : sys.db.runs.find? (chosenRunId deps.host request before.world) =
      some (startedRow deps request before) := by
    rw [started]
    exact (KeyedTable.find?_put ..).trans (if_pos rfl)
  unfold Database.finishRun
  rw [found]
  refine ⟨(KeyedTable.find?_put ..).trans (if_pos rfl), fun other different => ?_⟩
  dsimp only
  rw [KeyedTable.find?_put, if_neg fun same => different same.symm, started]
  exact (KeyedTable.find?_put ..).trans (if_neg fun same => different same.symm)

/-- The graph of a run, from the state in which it is invoked. -/
def graphRun (deps : AgentDependencies ω) (request : RunRequest) (before : Sys ω) :
    EStateM.Result Raised (Sys ω) ReconciliationState :=
  (invokeGraph deps (initialState deps.config request (chosenRunId deps.host request before.world)
    (startedAsOf deps request before))).run (startedSys deps request before)

theorem graphRun_keeps (deps : AgentDependencies ω) (request : RunRequest) (before : Sys ω) :
    RecordsKept (startedSys deps request before) (finalState (graphRun deps request before)) :=
  keeps_invokeGraph (RecordsKept.nodeFrame.graph deps.llm) RecordsKept.nodeFrame.session RecordsKept.lifecycleFrame _
    (.inr (RecordsKept.nodeFrame.mailsWithin RecordsKept.mailFrame _ _ _)) _

/-- A run whose id exists leaves the database as it was. -/
theorem run_of_taken {deps : AgentDependencies ω} {request : RunRequest} {before : Sys ω} {row : RunLogRow}
    (taken : before.db.runs.find? (chosenRunId deps.host request before.world) = some row) :
    (ReconciliationAgent.run deps request).run before =
      .error (.integrity "UNIQUE constraint failed: run_log.id")
        { before with world := graphWorld deps request before.world } := by
  unfold ReconciliationAgent.run
  rw [execute_eq, bind_of_error (bind_of_error (beginRun_of_taken taken))]

section Ends

variable {deps : AgentDependencies ω} {request : RunRequest} {before : Sys ω}
  (fresh : before.db.runs.find? (chosenRunId deps.host request before.world) = none)
include fresh

theorem completes_of_graph_returns {final : ReconciliationState} {ended : Sys ω}
    (graph : graphRun deps request before = .ok final ended) :
    Completes deps request before final
      (buildOutcome (chosenRunId deps.host request before.world) request final)
      (concluded deps (chosenRunId deps.host request before.world) final ended) := by
  have executes : (execute deps request).run before =
      .ok (chosenRunId deps.host request before.world, .ok final) ended := by
    rw [execute_eq, bind_of_ok (beginRun_of_fresh fresh), bind_of_ok (attempt_of_ok graph)]
    rfl
  exact completes_of_executed executes

theorem run_of_graph_returns {final : ReconciliationState} {ended : Sys ω}
    (graph : graphRun deps request before = .ok final ended) :
    (ReconciliationAgent.run deps request).run before =
      .ok (buildOutcome (chosenRunId deps.host request before.world) request final)
        (concluded deps (chosenRunId deps.host request before.world) final ended) :=
  (completes_of_graph_returns fresh graph).ran

theorem run_of_graph_raises {raised : Raised} {ended : Sys ω}
    (graph : graphRun deps request before = .error raised ended) :
    (ReconciliationAgent.run deps request).run before =
      (handleFailure deps request (chosenRunId deps.host request before.world) raised).run ended := by
  have executes : (execute deps request).run before =
      .ok (chosenRunId deps.host request before.world, .error raised) ended := by
    rw [execute_eq, bind_of_ok (beginRun_of_fresh fresh), bind_of_ok (attempt_of_error graph)]
    rfl
  unfold ReconciliationAgent.run
  rw [bind_of_ok executes]
  rfl

end Ends

/-! ## Failed runs -/

/-- Whatever the mail does, notifying the administrator returns and leaves records and incidents alone. -/
theorem notifyAdmin_returns (service : IncidentService ω) (host : Host ω) (incident : Incident)
    (before : Sys ω) : ∃ after, (service.notifyAdmin host incident).run before = .ok () after ∧
      RecordsKept before after := by
  have returns : ∃ after, (service.notifyAdmin host incident).run before = .ok () after := by
    unfold IncidentService.notifyAdmin
    split
    · next notifications _ =>
      split
      · cases sent : (notifications.dispatch host (incidentCall service.adminEmail incident)).run before with
        | ok result after => exact ⟨after, bind_of_ok (attempt_of_ok sent)⟩
        | error raised after => exact ⟨after, bind_of_ok (attempt_of_error sent)⟩
      · exact ⟨before, rfl⟩
    · exact ⟨before, rfl⟩
  obtain ⟨after, returned⟩ := returns
  exact ⟨after, returned, (keeps_notifyAdmin
    (.inr (RecordsKept.nodeFrame.adminMailsWithin RecordsKept.mailFrame service host _))).of_ok returned⟩

/-- The calls of a dispatch are attempts to send its request. -/
theorem DispatchEnds.attempts {host : Host ω} {call : DispatchCall} {before : Sys ω}
    {ended : EStateM.Result Raised (Sys ω) SendResult} (ends : DispatchEnds host call before ended) :
    ∃ new, (finalState ended).calls = before.calls ++ new ∧ ∀ made ∈ new, ∃ reply, made = .send call.request reply := by
  have failed (errors : List Raised) : ∀ made ∈ failedSends call.request errors, ∃ reply,
      made = .send call.request reply :=
    List.forall_mem_map.mpr fun raised _ => ⟨.error raised, rfl⟩
  cases ends with
  | duplicate notified => exact ⟨[], (List.append_nil _).symm, fun _ member => (List.not_mem_nil member).elim⟩
  | recorded notNotified calls sends =>
    refine ⟨_, calls.calls, ?_⟩
    cases sends with
    | answered errors =>
      intro made member
      rcases List.mem_append.mp member with early | last
      · exact failed errors made early
      · exact ⟨_, List.mem_singleton.mp last⟩
    | unanswered errors undelivered => exact failed errors
  | escaped notNotified unexpected fails =>
    obtain ⟨errors, calls⟩ := fails
    exact ⟨_, calls.calls, failed errors⟩

/-- Notifying the administrator calls nobody but the notifier, with the mail about the incident. -/
theorem notifyAdmin_attempts (service : IncidentService ω) (host : Host ω) (incident : Incident)
    (before : Sys ω) : ∃ new, (finalState ((service.notifyAdmin host incident).run before)).calls =
      before.calls ++ new ∧
      ∀ made ∈ new, ∃ reply, made = .send (incidentCall service.adminEmail incident).request reply := by
  have none : ∃ new, before.calls = before.calls ++ new ∧
      ∀ made ∈ new, ∃ reply, made = .send (incidentCall service.adminEmail incident).request reply :=
    ⟨[], (List.append_nil _).symm, fun _ member => (List.not_mem_nil member).elim⟩
  unfold IncidentService.notifyAdmin
  split
  · next notifications _ =>
    split
    · have attempts := (dispatch_cases notifications host (incidentCall service.adminEmail incident) before).attempts
      cases sent : (notifications.dispatch host (incidentCall service.adminEmail incident)).run before with
      | ok result after =>
        rw [sent] at attempts
        rw [bind_of_ok (attempt_of_ok sent)]
        exact attempts
      | error raised after =>
        rw [sent] at attempts
        rw [bind_of_ok (attempt_of_error sent)]
        exact attempts
    · exact none
  · exact none

/-- What a run leaves when its graph raised in the state `ended`: the incident is on file in `written`,
where the administrator mail starts, and the run is closed after the mail, in `mailed`. -/
structure FailureRecorded (deps : AgentDependencies ω) (request : RunRequest) (before : Sys ω)
    (raised : Raised) (ended : Sys ω) (incident : Incident) (written mailed : Sys ω) (outcome : RunOutcome)
    (after : Sys ω) : Prop where
  created : (createIncident deps.host (chosenRunId deps.host request before.world) .plannerError raised.text
    none (some "Inspect the run's audit log and inputs; re-run after fixing.")).run ended = .ok incident written
  runId : incident.runId = chosenRunId deps.host request before.world
  onFile : written.incidentFiles = before.incidentFiles.put incident
  inStream : written.incidentStream = before.incidentStream ++ [incident]
  attempted : (deps.incidents.notifyAdmin deps.host incident).run written = .ok () mailed
  finished : (finishRun deps.host (chosenRunId deps.host request before.world) .failed
    (.failure raised.text incident.incidentId)).run mailed = .ok () after
  filesKept : after.incidentFiles = written.incidentFiles
  streamKept : after.incidentStream = written.incidentStream
  /-- The calls of the run: the graph puts no incident on file, then this one is, then it is mailed. -/
  traced : ∃ asked mails, after.calls = before.calls ++ asked ++ .storeIncident incident :: mails ∧
    (∀ call ∈ asked, call.incident? = none) ∧
    ∀ call ∈ mails, ∃ reply, call = .send (incidentCall deps.incidents.adminEmail incident).request reply
  outcome_eq : outcome =
    { runId := chosenRunId deps.host request before.world
      status := .failed
      ordersCount := request.orders.length
      settlementsCount := request.settlements.length
      incidentId := some incident.incidentId }
  record : RecordClosed before (closedRow deps request before .failed
    (.failure raised.text incident.incidentId) (deps.host.now mailed.world)) after

theorem handleFailure_recorded {deps : AgentDependencies ω} {request : RunRequest} {before ended : Sys ω}
    (kept : RecordsKept (startedSys deps request before) ended) (raised : Raised) :
    ∃ incident written mailed outcome after,
      (handleFailure deps request (chosenRunId deps.host request before.world) raised).run ended =
        .ok outcome after ∧
      FailureRecorded deps request before raised ended incident written mailed outcome after := by
  let runId := chosenRunId deps.host request before.world
  let world := (deps.host.newIncidentId ended.world).2
  let incident : Incident :=
    { incidentId := "inc-" ++ (deps.host.newIncidentId ended.world).1
      runId
      severity := determineSeverity .plannerError
      failureType := .plannerError
      rootCause := raised.text
      timestamp := deps.host.now world
      remediationRecommendation := some "Inspect the run's audit log and inputs; re-run after fixing."
      orderId := none }
  let written : Sys ω :=
    { ended with
      world
      incidentFiles := ended.incidentFiles.put incident
      incidentStream := ended.incidentStream ++ [incident]
      calls := ended.calls ++ [.storeIncident incident] }
  have created : (createIncident deps.host runId .plannerError raised.text none
      (some "Inspect the run's audit log and inputs; re-run after fixing.")).run ended = .ok incident written :=
    rfl
  obtain ⟨mailed, attempted, mails⟩ := notifyAdmin_returns deps.incidents deps.host incident written
  obtain ⟨asked, askedCalls, silent⟩ := kept.calls
  obtain ⟨sent, sentCalls, attempts⟩ := notifyAdmin_attempts deps.incidents deps.host incident written
  rw [attempted, finalState_ok] at sentCalls
  let after : Sys ω :=
    { mailed with
      db := mailed.db.finishRun runId .failed (.failure raised.text incident.incidentId)
        (deps.host.now mailed.world) }
  have finished : (finishRun deps.host runId .failed (.failure raised.text incident.incidentId)).run mailed =
      .ok () after := rfl
  refine ⟨incident, written, mailed, _, after, ?_, created, rfl, ?_, ?_, attempted, finished,
    mails.incidentFiles, mails.incidentStream, ⟨asked, sent, ?_, silent, attempts⟩, rfl, ?_⟩
  · unfold handleFailure IncidentService.raiseIncident
    rw [bind_assoc, bind_of_ok created, bind_assoc, bind_of_ok attempted, pure_bind, bind_of_ok finished]
    rfl
  · exact congrArg (fun files => KeyedTable.put files incident) kept.incidentFiles
  · exact congrArg (fun stream => stream ++ [incident]) kept.incidentStream
  · change mailed.calls = _
    rw [sentCalls, List.append_cons]
    exact congrArg (fun calls => calls ++ [ExternalCall.storeIncident incident] ++ sent) askedCalls
  · exact recordClosed_finishRun deps request (mails.runs.trans kept.runs) _ _ _

/-! ## Every run -/

/-- Where the start of a run commits, its record goes from running to completed without an incident when
the graph returns, and from running to failed with one incident when the graph raises; among the calls of
the run, the incident is put on file once, before the administrator is mailed, and no run is left running. -/
theorem run_ends_recorded (deps : AgentDependencies ω) (request : RunRequest) (before : Sys ω)
    (fresh : before.db.runs.find? (chosenRunId deps.host request before.world) = none) :
    ((startedSys deps request before).db.runs.find? (chosenRunId deps.host request before.world) =
        some (startedRow deps request before) ∧
      (startedRow deps request before).status = .running) ∧
    (∀ final ended, graphRun deps request before = .ok final ended → ∃ outcome after,
      (ReconciliationAgent.run deps request).run before = .ok outcome after ∧
      outcome.status = .completed ∧ outcome.incidentId = none ∧
      after.incidentFiles = before.incidentFiles ∧ after.incidentStream = before.incidentStream ∧
      (∃ asked, CallsWithoutIncident before asked after) ∧
      RecordClosed before (closedRow deps request before .completed (finalSummary final)
        (deps.host.now ended.world)) after) ∧
    (∀ raised ended, graphRun deps request before = .error raised ended →
      ∃ incident written mailed outcome after,
        (ReconciliationAgent.run deps request).run before = .ok outcome after ∧
        FailureRecorded deps request before raised ended incident written mailed outcome after) ∧
    ∃ outcome after, (ReconciliationAgent.run deps request).run before = .ok outcome after ∧
      ∀ row ∈ after.db.runs.rows, row.status = .running → row ∈ before.db.runs.rows := by
  have kept := graphRun_keeps deps request before
  have returns {final : ReconciliationState} {ended : Sys ω}
      (graph : graphRun deps request before = .ok final ended) :
      RecordClosed before (closedRow deps request before .completed (finalSummary final)
        (deps.host.now ended.world))
        (concluded deps (chosenRunId deps.host request before.world) final ended) := by
    rw [graph] at kept
    exact recordClosed_finishRun deps request kept.runs _ _ _
  have fails {raised : Raised} {ended : Sys ω} (graph : graphRun deps request before = .error raised ended) :
      ∃ incident written mailed outcome after,
        (ReconciliationAgent.run deps request).run before = .ok outcome after ∧
        FailureRecorded deps request before raised ended incident written mailed outcome after := by
    rw [graph] at kept
    rw [run_of_graph_raises fresh graph]
    exact handleFailure_recorded kept raised
  refine ⟨⟨(KeyedTable.find?_put ..).trans (if_pos rfl), rfl⟩, ?_, fun raised ended graph => fails graph, ?_⟩
  · intro final ended graph
    have ran := run_of_graph_returns fresh graph
    have closed := returns graph
    rw [graph] at kept
    exact ⟨_, _, ran, rfl, rfl, kept.incidentFiles, kept.incidentStream, kept.calls, closed⟩
  · cases graph : graphRun deps request before with
    | ok final ended =>
      exact ⟨_, _, run_of_graph_returns fresh graph, fun row =>
        (returns graph).running (show RunStatus.completed ≠ .running by decide)⟩
    | error raised ended =>
      obtain ⟨incident, written, mailed, outcome, after, ran, recorded⟩ := fails graph
      exact ⟨outcome, after, ran, fun row =>
        recorded.record.running (show RunStatus.failed ≠ .running by decide)⟩

/-- A client whose decisions fail. -/
def refusingLlm : LlmClient ω :=
  .ofFunctions (fun _ _ => .ok {}) (fun _ _ _ => .error (.other "model unavailable"))
    (fun _ _ _ => .ok scriptedDraft)

/-- The shipped configuration around a client whose decisions fail. -/
def refusingDependencies : AgentDependencies ω :=
  buildDependencies shippedConfig refusingLlm mockNotifier closedBreaker (fixedHost (defaultDate + 2))

/-- The client's first decision fails; the incident is put on file and mailed once. -/
theorem run_ends_recorded_refused :
    ∃ raised ended incident written mailed outcome after,
      graphRun refusingDependencies separateRequest emptyStart = .error raised ended ∧
      FailureRecorded refusingDependencies separateRequest emptyStart raised ended incident written mailed
        outcome after ∧ (sendRequests after.calls).length = 1 := by
  have raises : EffectRun.raises (graphRun refusingDependencies separateRequest emptyStart) = true := by
    decide +kernel
  have mails : (sendRequests (finalState ((ReconciliationAgent.run refusingDependencies separateRequest).run
      emptyStart)).calls).length = 1 := by
    decide +kernel
  obtain ⟨raised, ended, graph⟩ := exists_of_raises raises
  obtain ⟨-, -, fails, -⟩ := run_ends_recorded refusingDependencies separateRequest emptyStart rfl
  obtain ⟨incident, written, mailed, outcome, after, ran, recorded⟩ := fails raised ended graph
  rw [ran] at mails
  exact ⟨raised, ended, incident, written, mailed, outcome, after, graph, recorded, mails⟩

end ReconcileFlow
