import ReconcileFlow.Model.BackgroundRuns
import ReconcileFlow.Model.Environment
import ReconcileFlow.Model.InputHash
import ReconcileFlow.Model.Readers

/-! # The web app

`POST /reconcile` checks a request and reads its two files before it answers. What it accepts it registers and
leaves to a worker thread, so the runs of a server happen in any order between later requests. `POST /demo`
does the same with the sample files. A run is executed in one piece here; the steps of runs that overlap are
in `BackgroundRuns` and `ConcurrentRuns`.
-/

namespace ReconcileFlow

open EffectRun

variable {ω : Type}

structure UploadFile where
  filename : Option String
  bytes : Bytes
deriving DecidableEq, Repr

/-- What pandas raises while it reads a file. -/
inductive LoadRaised where
  | valueError (text : String)
  | osError (text : String)
  | other (text : String)

/-- What leaves a reader. -/
inductive ReaderRaised where
  | parser (raised : ParserRaised)
  | other (text : String)

/-- What the readers take from libraries. -/
structure FileReading where
  /-- The frame of a file, by `read_csv` or by `read_excel`. -/
  readFrame : (isCsv : Bool) → Bytes → Except LoadRaised DataFrame
  parseDate : String → Except String Date
  reprText : String → String

/-- `name.lower().endswith(suffix)`: no letter outside ASCII has a letter of these suffixes as its lower case. -/
def endsWithLower (name suffix : String) : Bool := suffix.toList.isSuffixOf (name.toList.map Char.toLower)

/-- CSV or Excel, by the name of the file. -/
def detectIsCsv (reprText : String → String) : Option String → Except ParserRaised Bool
  | none => .error (.parseError "Cannot determine file type: provide a .csv or .xlsx filename." [])
  | some name =>
    if endsWithLower name ".csv" then .ok true
    else if [".xlsx", ".xlsm", ".xls"].any (endsWithLower name) then .ok false
    else .error (.parseError ("Unsupported file type: " ++ reprText name ++ ". Use .csv or .xlsx.") [])

namespace FileReading

variable (reading : FileReading)

def loadDataframe (file : UploadFile) : Except ReaderRaised DataFrame := do
  let isCsv ← (detectIsCsv reading.reprText file.filename).mapError .parser
  match reading.readFrame isCsv file.bytes with
  | .ok frame => .ok frame
  | .error (.valueError text) => .error (.parser (.parseError ("Could not read file: " ++ text) []))
  | .error (.osError text) => .error (.parser (.parseError ("Could not open file: " ++ text) []))
  | .error (.other text) => .error (.other text)

/-- `read_orders` on a file, then `read_settlements` on the other. -/
def readBoth (orders settlements : UploadFile) : Except ReaderRaised (List Order × List Settlement) := do
  let orderFrame ← reading.loadDataframe orders
  let parsedOrders ← (readOrders reading.parseDate orderFrame).mapError .parser
  let settlementFrame ← reading.loadDataframe settlements
  let parsedSettlements ← (readSettlements reading.parseDate settlementFrame).mapError .parser
  pure (parsedOrders, parsedSettlements)

end FileReading

/-- The form of `POST /reconcile`, with the `X-Demo-Key` header. -/
structure Upload where
  orders : UploadFile
  settlements : UploadFile
  dryRun : Bool := false
  demoKey : String := ""
  demoKeyHeader : Option String := none

inductive HttpResponse where
  | httpException (statusCode : ℕ) (detail : String)
  | errorPage (statusCode : ℕ) (message : String) (errors : List String) (incidentId : String)
  | progressPage (runId : String) (demo : Bool)
  /-- The handler raised. -/
  | serverError
deriving DecidableEq, Repr

/-- What the handlers share. -/
structure AppContext (ω : Type) where
  settings : AppSettings
  deps : AgentDependencies ω
  reading : FileReading
  samples : UploadFile × UploadFile

def checkDemoKey (settings : AppSettings) (upload : Upload) : Except HttpResponse Unit :=
  if settings.demoAccessKey = "" then .ok ()
  else
    let provided := (truthy upload.demoKeyHeader).getD upload.demoKey
    if provided = settings.demoAccessKey then .ok ()
    else .error (.httpException 401 "Invalid or missing demo access key.")

/-- `_MAX_UPLOAD_BYTES`. -/
def maxUploadBytes : ℕ := 5 * 1024 * 1024

def checkSize (blobs : List Bytes) : Except HttpResponse Unit :=
  if blobs.any fun blob => maxUploadBytes < blob.length then
    .error (.httpException 413 "Uploaded file exceeds the 5 MB limit.")
  else .ok ()

/-- A run whose worker has not had its turn. -/
structure QueuedRun where
  runId : String
  request : RunRequest

structure Server (ω : Type) where
  sys : Sys ω
  registry : RunRegistry
  pending : List QueuedRun := []

namespace Server

/-- The server as a request or a worker finds it. -/
def finds (server : Server ω) (world : ω) : Server ω := { server with sys := { server.sys with world } }

/-- Register a run and launch its worker. -/
def startBackgroundRun (server : Server ω) (runId : String) (request : RunRequest) (demo : Bool) : Server ω :=
  { server with
    registry := server.registry.start runId demo
    pending := server.pending ++ [⟨runId, { request with runId := some runId }⟩] }

/-- `new_run_id` in a handler. -/
def drawRunId (host : Host ω) (server : Server ω) : String × Server ω :=
  let drawn := host.newRunId server.sys.world
  (drawn.1, server.finds drawn.2)

/-- A file that does not parse becomes an incident. -/
def reportInvalid (deps : AgentDependencies ω) (message : String) (errors : List String) : RunM ω HttpResponse := do
  let runId ← stepWorld deps.host.newRunId
  let incident ← deps.incidents.raiseIncident deps.host runId .invalidInput message none
    (some "Fix the highlighted rows and re-upload.")
  pure (.errorPage 400 message errors incident.incidentId)

def reconcileEndpoint (app : AppContext ω) (upload : Upload) (server : Server ω) : HttpResponse × Server ω :=
  let checked := do
    checkDemoKey app.settings upload
    checkSize [upload.orders.bytes, upload.settlements.bytes]
  match checked with
  | .error refused => (refused, server)
  | .ok () =>
    match app.reading.readBoth upload.orders upload.settlements with
    | .ok (orders, settlements) =>
      let (runId, server) := drawRunId app.deps.host server
      let request : RunRequest :=
        { orders
          settlements
          asOfDate := some (app.deps.host.today server.sys.world)
          inputHash := some (computeInputHash upload.orders.bytes upload.settlements.bytes)
          dryRun := upload.dryRun }
      (.progressPage runId false, startBackgroundRun server runId request false)
    | .error (.parser (.parseError message errors)) =>
      match (reportInvalid app.deps message errors).run server.sys with
      | .ok response sys => (response, { server with sys })
      | .error _ sys => (.serverError, { server with sys })
    | .error _ => (.serverError, server)

/-- The date of the demo. -/
def demoDate : Date := 739775

def demoEndpoint (app : AppContext ω) (dryRun : Bool) (server : Server ω) : HttpResponse × Server ω :=
  match app.reading.readBoth app.samples.1 app.samples.2 with
  | .ok (orders, settlements) =>
    let (runId, server) := drawRunId app.deps.host server
    let request : RunRequest := { orders, settlements, asOfDate := some demoDate, dryRun }
    (.progressPage runId true, startBackgroundRun server runId request true)
  | .error _ => (.serverError, server)

/-- The worker of a run. -/
def work (deps : AgentDependencies ω) (job : QueuedRun) (server : Server ω) : WorkerEnd × Server ω :=
  match (ReconciliationAgent.run deps job.request).run server.sys with
  | .ok outcome sys =>
    (.returned outcome, { server with sys, registry := server.registry.setOutcome job.runId outcome })
  | .error raised sys =>
    (.raised raised.text, { server with sys, registry := server.registry.setError job.runId raised.text })

end Server

/-- A request that changes something, or the turn of a worker, with the world it finds. -/
inductive ServerEvent (ω : Type) where
  | upload (upload : Upload) (world : ω)
  | demo (dryRun : Bool) (world : ω)
  /-- The worker at this place among those that have not had their turn. -/
  | work (place : ℕ) (world : ω)

/-- What comes of an event. -/
inductive ServerReply where
  | answered (response : HttpResponse)
  | worked (runId : String) (ended : WorkerEnd)
  | idle

namespace Server

def step (app : AppContext ω) (server : Server ω) : ServerEvent ω → ServerReply × Server ω
  | .upload upload world => (reconcileEndpoint app upload (server.finds world)).map .answered id
  | .demo dryRun world => (demoEndpoint app dryRun (server.finds world)).map .answered id
  | .work place world =>
    match server.pending[place]? with
    | none => (.idle, server)
    | some job =>
      (work app.deps job { server.finds world with pending := server.pending.eraseIdx place }).map
        (.worked job.runId) id

/-- The server after some events. -/
def after (app : AppContext ω) (server : Server ω) (events : List (ServerEvent ω)) : Server ω :=
  events.foldl (fun server event => (server.step app event).2) server

/-- What comes of some events, in order. -/
def replies (app : AppContext ω) : Server ω → List (ServerEvent ω) → List ServerReply
  | _, [] => []
  | server, event :: later => (server.step app event).1 :: replies app (server.step app event).2 later

end Server

end ReconcileFlow
