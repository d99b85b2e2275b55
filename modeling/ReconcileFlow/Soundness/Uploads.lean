import ReconcileFlow.Model.WebApp
import ReconcileFlow.Soundness.BlankCells
import ReconcileFlow.Soundness.Metrics
import ReconcileFlow.Soundness.RunTrail

/-! # Requests and runs of the web app

Between a request and its run lies a queue: any number of accepted runs may wait for their workers while
further requests are answered. Over every such history each run in the log is the run of a request that was
let in (`runs_come_from_requests`), and the metrics add up by the answers that were given
(`metrics_over_requests`).
-/

namespace ReconcileFlow

open EffectRun ReconciliationAgent

variable {ω : Type}

/-- The upload has the key, its files are within the limit, and both were read. -/
structure Accepted (app : AppContext ω) (upload : Upload) (orders : List Order) (settlements : List Settlement) :
    Prop where
  key : app.settings.demoAccessKey = "" ∨
    (truthy upload.demoKeyHeader).getD upload.demoKey = app.settings.demoAccessKey
  small : upload.orders.bytes.length ≤ maxUploadBytes ∧ upload.settlements.bytes.length ≤ maxUploadBytes
  read : app.reading.readBoth upload.orders upload.settlements = .ok (orders, settlements)

/-- The run that a request asks for, once it is let in. -/
inductive AsksFor (app : AppContext ω) : ServerEvent ω → RunRequest → Bool → Prop
  | upload {upload : Upload} {world : ω} {orders : List Order} {settlements : List Settlement} (asOf : Date)
      (accepted : Accepted app upload orders settlements) :
      AsksFor app (.upload upload world)
        { orders
          settlements
          asOfDate := some asOf
          inputHash := some (computeInputHash upload.orders.bytes upload.settlements.bytes)
          dryRun := upload.dryRun } false
  | demo {dryRun : Bool} {world : ω} {orders : List Order} {settlements : List Settlement}
      (read : app.reading.readBoth app.samples.1 app.samples.2 = .ok (orders, settlements)) :
      AsksFor app (.demo dryRun world) { orders, settlements, asOfDate := some Server.demoDate, dryRun } true

theorem checkDemoKey_ok {settings : AppSettings} {upload : Upload} (passes : checkDemoKey settings upload = .ok ()) :
    settings.demoAccessKey = "" ∨ (truthy upload.demoKeyHeader).getD upload.demoKey = settings.demoAccessKey := by
  unfold checkDemoKey at passes
  split at passes
  · next unset => exact .inl unset
  · dsimp only at passes
    split at passes
    · next same => exact .inr same
    · cases passes

theorem checkSize_ok {first second : Bytes} (passes : checkSize [first, second] = .ok ()) :
    first.length ≤ maxUploadBytes ∧ second.length ≤ maxUploadBytes := by
  unfold checkSize at passes
  split at passes
  · cases passes
  · next small => simpa using small

/-- A refusal is one of the two exceptions. -/
theorem refused_eq {settings : AppSettings} {upload : Upload} {blobs : List Bytes} {response : HttpResponse}
    (refused : (do checkDemoKey settings upload; checkSize blobs) = .error response) :
    ∃ statusCode detail, response = .httpException statusCode detail := by
  cases key : checkDemoKey settings upload with
  | error stopped =>
    rw [key] at refused
    cases refused
    unfold checkDemoKey at key
    dsimp only at key
    split at key
    · cases key
    · split at key
      · cases key
      · cases key
        exact ⟨_, _, rfl⟩
  | ok passed =>
    rw [key] at refused
    change checkSize blobs = .error response at refused
    unfold checkSize at refused
    split at refused
    · cases refused
      exact ⟨_, _, rfl⟩
    · cases refused

/-- What a handler leaves when it reports a file that does not parse. -/
structure Reported (before : Sys ω) (incident : Incident) (after : Sys ω) : Prop where
  counted : Counted before after 0 1
  runs : after.db.runs = before.db.runs
  audit : after.db.audit = before.db.audit
  stream : after.incidentStream = before.incidentStream ++ [incident]

theorem keeps_reportInvalid {R : Sys ω → Sys ω → Prop} [IsPreorder (Sys ω) R] {deps : AgentDependencies ω}
    (hosts : HostFrame R deps.host) (record : RunFrame R)
    (mails : ∀ runId, AdminMailsWithin R deps.incidents deps.host runId) (message : String) (errors : List String) :
    Keeps R (Server.reportInvalid deps message errors) := by
  refine keeps_bind hosts.newRunId fun runId => ?_
  exact keeps_bind (keeps_raiseIncident hosts record (.inr (mails runId)) _ _ _ _) fun _ => keeps_pure _

theorem reportInvalid_reports (deps : AgentDependencies ω) (message : String) (errors : List String)
    (before : Sys ω) : ∃ incident after, (Server.reportInvalid deps message errors).run before =
        .ok (.errorPage 400 message errors incident.incidentId) after ∧ Reported before incident after := by
  let drawn := deps.host.newRunId before.world
  obtain ⟨incident, written, created, stream, runs⟩ : ∃ incident written,
      (createIncident deps.host drawn.1 .invalidInput message none (some "Fix the highlighted rows and re-upload.")).run
        { before with world := drawn.2 } = .ok incident written ∧
      written.incidentStream = before.incidentStream ++ [incident] ∧ written.db.runs = before.db.runs :=
    ⟨_, _, rfl, rfl, rfl⟩
  obtain ⟨after, mailed, kept⟩ := notifyAdmin_returns deps.incidents deps.host incident written
  have reports : (Server.reportInvalid deps message errors).run before =
      .ok (.errorPage 400 message errors incident.incidentId) after := by
    unfold Server.reportInvalid IncidentService.raiseIncident
    rw [bind_of_ok (show (stepWorld deps.host.newRunId).run before = .ok drawn.1 { before with world := drawn.2 } from rfl),
      bind_assoc, bind_of_ok created, bind_assoc, bind_of_ok mailed]
    rfl
  have logs : Keeps LogsKept (Server.reportInvalid deps message errors) :=
    keeps_reportInvalid (LogsKept.nodeFrame.host _) LogsKept.runFrame
      (fun runId notifications _ => LogsKept.mailsWithin notifications deps.host runId) message errors
  have audit : Keeps SameAudit (Server.reportInvalid deps message errors) :=
    keeps_reportInvalid (R := SameAudit) ⟨fun _ => rfl, fun _ => rfl⟩
      ⟨fun _ _ => rfl, fun _ _ _ => rfl, fun _ _ => rfl⟩ (fun runId notifications _ call _ sys =>
        (dispatch_cases notifications deps.host call sys).audit) message errors
  have runsKept : after.db.runs = before.db.runs := kept.runs.trans runs
  have streamGrown : after.incidentStream = before.incidentStream ++ [incident] := kept.incidentStream.trans stream
  refine ⟨incident, after, reports, ⟨⟨?_, ?_, logs.of_ok reports⟩, runsKept, audit.of_ok reports, streamGrown⟩⟩
  · rw [runsKept, Nat.add_zero]
  · rw [streamGrown, List.length_append, List.length_singleton]

/-- What an event does. -/
inductive StepEnds (app : AppContext ω) (server : Server ω) : ServerEvent ω → ServerReply → Server ω → Prop
  | refused (upload : Upload) (world : ω) (statusCode : ℕ) (detail : String) :
      StepEnds app server (.upload upload world) (.answered (.httpException statusCode detail)) (server.finds world)
  | brokenUpload (upload : Upload) (world : ω) :
      StepEnds app server (.upload upload world) (.answered .serverError) (server.finds world)
  | brokenDemo (dryRun : Bool) (world : ω) :
      StepEnds app server (.demo dryRun world) (.answered .serverError) (server.finds world)
  | invalid {upload : Upload} {world : ω} {message : String} {errors : List String} {incident : Incident} {sys : Sys ω}
      (read : app.reading.readBoth upload.orders upload.settlements = .error (.parser (.parseError message errors)))
      (reported : Reported (server.finds world).sys incident sys) :
      StepEnds app server (.upload upload world) (.answered (.errorPage 400 message errors incident.incidentId))
        { server with sys }
  | accepted {event : ServerEvent ω} {request : RunRequest} {demo : Bool} (asks : AsksFor app event request demo)
      (runId : String) (world : ω) :
      StepEnds app server event (.answered (.progressPage runId demo))
        ((server.finds world).startBackgroundRun runId request demo)
  | returned {place : ℕ} {world : ω} {job : QueuedRun} {outcome : RunOutcome} {sys : Sys ω}
      (found : server.pending[place]? = some job)
      (ran : (ReconciliationAgent.run app.deps job.request).run (server.finds world).sys = .ok outcome sys) :
      StepEnds app server (.work place world) (.worked job.runId (.returned outcome))
        { sys
          registry := server.registry.setOutcome job.runId outcome
          pending := server.pending.eraseIdx place }
  | raised {place : ℕ} {world : ω} {job : QueuedRun} {raised : Raised} {sys : Sys ω}
      (found : server.pending[place]? = some job)
      (ran : (ReconciliationAgent.run app.deps job.request).run (server.finds world).sys = .error raised sys) :
      StepEnds app server (.work place world) (.worked job.runId (.raised raised.text))
        { sys
          registry := server.registry.setError job.runId raised.text
          pending := server.pending.eraseIdx place }
  | idle (place : ℕ) (world : ω) : StepEnds app server (.work place world) .idle server

theorem step_ends (app : AppContext ω) (server : Server ω) (event : ServerEvent ω) :
    StepEnds app server event (server.step app event).1 (server.step app event).2 := by
  cases event with
  | upload upload world =>
    unfold Server.step Server.reconcileEndpoint
    dsimp only [Prod.map]
    cases checked : (do checkDemoKey app.settings upload; checkSize [upload.orders.bytes, upload.settlements.bytes]) with
    | error response =>
      obtain ⟨statusCode, detail, rfl⟩ := refused_eq checked
      exact .refused upload world statusCode detail
    | ok passed =>
      cases key : checkDemoKey app.settings upload with
      | error stopped =>
        rw [key] at checked
        cases checked
      | ok known =>
        rw [key] at checked
        have small := checkSize_ok checked
        cases read : app.reading.readBoth upload.orders upload.settlements with
        | ok parsed =>
          exact .accepted (.upload _ ⟨checkDemoKey_ok key, small, read⟩) _ _
        | error raised =>
          dsimp only
          split
          · next same => cases same
          · next message errors same =>
            cases same
            obtain ⟨incident, after, reports, reported⟩ :=
              reportInvalid_reports app.deps message errors (server.finds world).sys
            rw [reports]
            exact .invalid read reported
          · exact .brokenUpload upload world
  | demo dryRun world =>
    unfold Server.step Server.demoEndpoint
    dsimp only [Prod.map]
    cases read : app.reading.readBoth app.samples.1 app.samples.2 with
    | ok parsed => exact .accepted (.demo read) _ _
    | error raised => exact .brokenDemo dryRun world
  | work place world =>
    unfold Server.step
    dsimp only
    cases found : server.pending[place]? with
    | none => exact .idle place world
    | some job =>
      unfold Server.work
      dsimp only
      cases ran : (ReconciliationAgent.run app.deps job.request).run (server.finds world).sys with
      | ok outcome sys => exact .returned found ran
      | error raised sys => exact .raised found ran

/-! ## Where runs come from -/

/-- The row is the closed record of a run on this request. -/
structure RecordOf (request : RunRequest) (row : RunLogRow) : Prop where
  ordersCount : row.ordersCount = request.orders.length
  settlementsCount : row.settlementsCount = request.settlements.length
  inputHash : row.inputHash = request.inputHash
  closed : row.status ≠ .running

/-- A run that starts closes the record it started with. -/
theorem run_closes_started {deps : AgentDependencies ω} {request : RunRequest} {before : Sys ω}
    (fresh : before.db.runs.find? (chosenRunId deps.host request before.world) = none) :
    ∃ status summary finished, status ≠ .running ∧
      RecordClosed before (closedRow deps request before status summary finished)
        (finalState ((ReconciliationAgent.run deps request).run before)) := by
  have kept := graphRun_keeps deps request before
  cases graph : graphRun deps request before with
  | ok final ended =>
    rw [graph] at kept
    rw [run_of_graph_returns fresh graph]
    exact ⟨.completed, _, _, by decide, recordClosed_finishRun deps request kept.runs _ _ _⟩
  | error raised ended =>
    rw [graph, finalState_error] at kept
    obtain ⟨incident, written, mailed, outcome, after, ran, recorded⟩ := handleFailure_recorded kept raised
    rw [run_of_graph_raises fresh graph, ran]
    exact ⟨.failed, _, _, by decide, recorded.record⟩

/-- The only record a run writes is its own. -/
theorem run_writes_own (deps : AgentDependencies ω) (request : RunRequest) (before : Sys ω) :
    ∀ row ∈ (finalState ((ReconciliationAgent.run deps request).run before)).db.runs.rows,
      row ∈ before.db.runs.rows ∨ RecordOf request row := by
  intro row member
  cases fresh : before.db.runs.find? (chosenRunId deps.host request before.world) with
  | some taken =>
    rw [run_of_taken fresh] at member
    exact .inl member
  | none =>
    obtain ⟨status, summary, finished, ended, closed⟩ := run_closes_started fresh
    have stored := KeyedTable.find?_eq_some_iff.mpr ⟨member, rfl⟩
    by_cases own : row.id = (closedRow deps request before status summary finished).id
    · rw [own, closed.closed] at stored
      cases stored
      exact .inr ⟨rfl, rfl, rfl, ended⟩
    · rw [closed.others _ own] at stored
      exact .inl (KeyedTable.find?_eq_some_iff.mp stored).1

/-- Every run that waits, and every record that was not there at the start, is of a request that was let in. -/
structure Provenance (app : AppContext ω) (start : Server ω) (events : List (ServerEvent ω)) (server : Server ω) :
    Prop where
  pending : ∀ job ∈ server.pending, ∃ event ∈ events, ∃ request demo, AsksFor app event request demo ∧
    job.request = { request with runId := some job.runId }
  recorded : ∀ row ∈ server.sys.db.runs.rows, row ∈ start.sys.db.runs.rows ∨
    ∃ event ∈ events, ∃ request demo, AsksFor app event request demo ∧ RecordOf request row

namespace Provenance

variable {app : AppContext ω} {start server : Server ω} {events : List (ServerEvent ω)}

theorem mono (from_ : Provenance app start events server) (event : ServerEvent ω) :
    Provenance app start (events ++ [event]) server where
  pending job member := by
    obtain ⟨asked, present, rest⟩ := from_.pending job member
    exact ⟨asked, List.mem_append_left _ present, rest⟩
  recorded row member := by
    refine (from_.recorded row member).imp_right ?_
    rintro ⟨asked, present, rest⟩
    exact ⟨asked, List.mem_append_left _ present, rest⟩

/-- Anything but an accepted request and the end of a run. -/
theorem of_same {after : Server ω} (from_ : Provenance app start events server) (pending : after.pending = server.pending)
    (runs : after.sys.db.runs = server.sys.db.runs) : Provenance app start events after where
  pending := by
    rw [pending]
    exact from_.pending
  recorded := by
    rw [runs]
    exact from_.recorded

/-- After the turn of a worker. -/
theorem worked {place : ℕ} {world : ω} {job : QueuedRun} {sys : Sys ω} (from_ : Provenance app start events server)
    (found : server.pending[place]? = some job)
    (left : finalState ((ReconciliationAgent.run app.deps job.request).run (server.finds world).sys) = sys)
    (registry : RunRegistry) :
    Provenance app start events { sys, registry, pending := server.pending.eraseIdx place } where
  pending other member := from_.pending other (List.mem_of_mem_eraseIdx member)
  recorded row member := by
    rcases run_writes_own app.deps job.request (server.finds world).sys row (left ▸ member) with old | own
    · exact from_.recorded row old
    · obtain ⟨event, present, request, demo, asks, same⟩ := from_.pending job (List.mem_of_getElem? found)
      rw [same] at own
      exact .inr ⟨event, present, request, demo, asks, own.ordersCount, own.settlementsCount, own.inputHash, own.closed⟩

theorem step (from_ : Provenance app start events server) (event : ServerEvent ω) :
    Provenance app start (events ++ [event]) (server.step app event).2 := by
  have earlier := from_.mono event
  have ends := step_ends app server event
  generalize (server.step app event).1 = reply, (server.step app event).2 = after at ends ⊢
  cases ends with
  | refused | brokenUpload | brokenDemo | idle => exact earlier.of_same rfl rfl
  | invalid read reported => exact earlier.of_same rfl reported.runs
  | accepted asks runId world =>
    refine ⟨fun job member => ?_, earlier.recorded⟩
    rcases List.mem_append.mp member with waiting | new
    · exact earlier.pending job waiting
    · cases List.mem_singleton.mp new
      exact ⟨event, List.mem_append_right _ (List.mem_singleton_self event), _, _, asks, rfl⟩
  | returned found ran | raised found ran => exact earlier.worked found (congrArg finalState ran) _

end Provenance

theorem after_append_singleton (app : AppContext ω) (server : Server ω) (events : List (ServerEvent ω))
    (event : ServerEvent ω) : server.after app (events ++ [event]) = ((server.after app events).step app event).2 := by
  unfold Server.after
  rw [List.foldl_append]
  rfl

/-- Whatever requests come and whenever the workers get their turns, a run is in the log only if its request was
let in: it had the key, both files were within the limit and both were read, or it was a demo. The record
has the sizes of the lists that were read and the hash of the files, and is closed. -/
theorem runs_come_from_requests (app : AppContext ω) {start : Server ω} (quiet : start.pending = [])
    (events : List (ServerEvent ω)) :
    ∀ row ∈ (start.after app events).sys.db.runs.rows, row ∈ start.sys.db.runs.rows ∨
      ∃ event ∈ events, ∃ request demo, AsksFor app event request demo ∧ RecordOf request row := by
  suffices traced : Provenance app start events (start.after app events) from traced.recorded
  induction events using List.reverseRecOn with
  | nil =>
    refine ⟨fun job member => ?_, fun row member => .inl member⟩
    change job ∈ start.pending at member
    rw [quiet] at member
    cases member
  | append_singleton events event ih =>
    rw [after_append_singleton]
    exact ih.step event

/-- A server with an upload key, to which every file reads as one order or one settlement. -/
def keyedApp : AppContext Unit where
  settings := { demoAccessKey := "key" }
  deps := scriptedDependencies (.ok {})
  reading :=
    { readFrame := fun isCsv _ =>
        .ok (if isCsv then orderTable "1000.00" "PLACED" else settlementTable "1000.00" "BANK")
      parseDate := readDate
      reprText := id }
  samples := (⟨some "orders_sample.csv", []⟩, ⟨some "settlements_sample.csv", []⟩)

/-- One upload without the key and one with it, and then a worker. -/
def keyedEvents : List (ServerEvent Unit) :=
  let upload (demoKey : String) : Upload :=
    { orders := ⟨some "Orders.CSV", [79]⟩, settlements := ⟨some "settlements.xlsx", [83]⟩, demoKey }
  [.upload (upload "") (), .upload (upload "key") (), .work 0 ()]

theorem runs_come_from_requests_keyed :
    let reached := Server.after keyedApp ⟨emptyStart, {}, []⟩ keyedEvents
    reached.sys.db.runs.rows.length = 1 ∧ ∀ row ∈ reached.sys.db.runs.rows, row ∈ [] ∨
      ∃ event ∈ keyedEvents, ∃ request demo, AsksFor keyedApp event request demo ∧ RecordOf request row :=
  ⟨by decide +kernel, runs_come_from_requests keyedApp rfl keyedEvents⟩

/-! ## Metrics over requests -/

namespace ServerReply

/-- How the run ended whose worker had its turn; a run whose id exists has no outcome. -/
def ran : ServerReply → Option RunStatus
  | worked _ (.returned outcome) => some outcome.status
  | _ => none

/-- The request was let in. -/
def accepted : ServerReply → Bool
  | answered (.progressPage _ _) => true
  | _ => false

/-- A file of the request did not parse. -/
def rejected : ServerReply → Bool
  | answered (.errorPage _ _ _ _) => true
  | _ => false

/-- A worker had its turn. -/
def finished : ServerReply → Bool
  | worked _ _ => true
  | _ => false

/-- The incidents that come of an event. -/
def incidents (reply : ServerReply) : ℕ := (if reply.rejected then 1 else 0) + reply.ran.toList.count .failed

theorem filterMap_ran (reply : ServerReply) (later : List ServerReply) :
    (reply :: later).filterMap ran = reply.ran.toList ++ later.filterMap ran := by
  rw [List.filterMap_cons]
  cases reply.ran <;> rfl

end ServerReply

/-- What an event adds to the counts. -/
theorem counted_step (app : AppContext ω) (server : Server ω) (event : ServerEvent ω) :
    Counted server.sys (server.step app event).2.sys (server.step app event).1.ran.toList.length
      (server.step app event).1.incidents := by
  have ends := step_ends app server event
  generalize (server.step app event).1 = reply, (server.step app event).2 = after at ends ⊢
  have found (world : ω) : Counted server.sys (server.finds world).sys 0 0 := .of_world server.sys world
  cases ends with
  | refused _ world | brokenUpload _ world | brokenDemo _ world => exact found world
  | idle => exact .of_world server.sys server.sys.world
  | invalid read reported => exact (found _).add reported.counted
  | accepted asks runId world => exact found world
  | @returned place world job outcome sys waiting ran =>
    have counted := (found world).add ((counted_run app.deps job.request _).2 outcome sys ran)
    exact counted
  | @raised place world job raised sys waiting ran =>
    exact (found world).add ((counted_run app.deps job.request _).1 raised sys ran)

/-- An accepted request makes one more run wait, the turn of a worker one less. -/
theorem pending_step (app : AppContext ω) (server : Server ω) (event : ServerEvent ω) :
    server.pending.length + (if (server.step app event).1.accepted then 1 else 0) =
      (server.step app event).2.pending.length + if (server.step app event).1.finished then 1 else 0 := by
  have ends := step_ends app server event
  generalize (server.step app event).1 = reply, (server.step app event).2 = after at ends ⊢
  cases ends with
  | refused | brokenUpload | brokenDemo | idle | invalid => rfl
  | accepted asks runId world =>
    change server.pending.length + 1 = (server.pending ++ [_]).length + 0
    rw [List.length_append, List.length_singleton]
  | @returned place _ _ _ _ waiting ran | @raised place _ _ _ _ waiting ran =>
    have within := (List.getElem?_eq_some_iff.mp waiting).1
    change server.pending.length + 0 = (server.pending.eraseIdx place).length + 1
    rw [List.length_eraseIdx_of_lt within]
    omega

theorem counted_after (app : AppContext ω) (start : Server ω) (events : List (ServerEvent ω)) :
    let replies := start.replies app events
    Counted start.sys (start.after app events).sys (replies.filterMap ServerReply.ran).length
      (replies.countP ServerReply.rejected + (replies.filterMap ServerReply.ran).count .failed) := by
  induction events generalizing start with
  | nil => exact .of_world start.sys start.sys.world
  | cons event later ih =>
    have counted := (counted_step app start event).add (ih (start.step app event).2)
    dsimp only at counted ⊢
    change Counted _ (Server.after app (start.step app event).2 later).sys _ _
    unfold Server.replies
    rw [ServerReply.filterMap_ran, List.countP_cons, List.length_append, List.count_append]
    convert counted using 1
    unfold ServerReply.incidents
    omega

theorem pending_after (app : AppContext ω) (start : Server ω) (events : List (ServerEvent ω)) :
    let replies := start.replies app events
    start.pending.length + replies.countP ServerReply.accepted =
      (start.after app events).pending.length + replies.countP ServerReply.finished := by
  induction events generalizing start with
  | nil => rfl
  | cons event later ih =>
    have first := pending_step app start event
    have rest := ih (start.step app event).2
    dsimp only at rest ⊢
    unfold Server.replies
    rw [List.countP_cons, List.countP_cons]
    change _ = (Server.after app (start.step app event).2 later).pending.length + _
    omega

end ReconcileFlow
