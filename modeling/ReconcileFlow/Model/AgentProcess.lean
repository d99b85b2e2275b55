import ReconcileFlow.Model.Groq

/-! # One agent instance

`build_context` builds the agent once, so all runs of a process share one Groq client and its call
counter. The other collaborators do not see the counter: they act on the world outside the client.
The world of such an agent also holds a ghost record of what the client's `_invoke` raised, one entry
for each judgement; no modelled function reads it.
-/

namespace ReconcileFlow

open EffectRun

variable {ω α β : Type}

structure WatchedWorld (ω : Type) where
  groq : GroqWorld ω
  /-- Ghost record of every `_invoke`: the exception it raised, if any, oldest first. -/
  received : List (Option LlmError) := []

/-- The exception of a computation, if it raised. -/
def failureOf : EStateM.Result LlmError (GroqWorld ω) α → Option LlmError
  | .ok _ _ => none
  | .error failure _ => some failure

/-- An action of the client, recorded by what its `_invoke` raises in the same world. -/
def watch (call : EStateM LlmError (GroqWorld ω) β) (act : GroqWorld ω → α × GroqWorld ω)
    (world : WatchedWorld ω) : α × WatchedWorld ω :=
  let reply := act world.groq
  (reply.1, { groq := reply.2, received := world.received ++ [failureOf (call.run world.groq)] })

namespace GroqLlmClient

variable (client : GroqLlmClient) (model : ChatModel ω)

/-- The client as the nodes use it, watched. -/
def watched : LlmClient (WatchedWorld ω) where
  proposeFuzzy obligations settlements :=
    watch (client.invoke (model.fuzzyProposal obligations settlements))
      ((client.toLlmClient model).proposeFuzzy obligations settlements)
  decide exception withinSla threshold :=
    watch (client.invoke (model.exceptionDecision exception withinSla threshold))
      ((client.toLlmClient model).decide exception withinSla threshold)
  draftEmail exception role tag :=
    watch (client.invoke (model.emailDraft exception role tag))
      ((client.toLlmClient model).draftEmail exception role tag)

end GroqLlmClient

/-- An action on the world outside the client. -/
def onOutside (act : ω → α × ω) (world : WatchedWorld ω) : α × WatchedWorld ω :=
  let reply := act world.groq.outside
  (reply.1, { world with groq := { world.groq with outside := reply.2 } })

def Breaker.outside (breaker : Breaker ω) : Breaker (WatchedWorld ω) where
  admits := onOutside breaker.admits
  onSuccess world := (onOutside (fun outside => ((), breaker.onSuccess outside)) world).2
  onFailure := onOutside breaker.onFailure

def NotificationService.outside (service : NotificationService ω) : NotificationService (WatchedWorld ω) where
  notifier := { send := fun request => onOutside (service.notifier.send request) }
  breaker := service.breaker.outside
  resilience := service.resilience

def IncidentService.outside (service : IncidentService ω) : IncidentService (WatchedWorld ω) where
  adminEmail := service.adminEmail
  notificationService := service.notificationService.map NotificationService.outside
  bestEffortEmail := service.bestEffortEmail

def Host.outside (host : Host ω) : Host (WatchedWorld ω) where
  now world := host.now world.groq.outside
  today world := host.today world.groq.outside
  newRunId := onOutside host.newRunId
  newIncidentId := onOutside host.newIncidentId

/-- The collaborators of an agent with the Groq client in place of the given one. -/
def groqAgent (client : GroqLlmClient) (model : ChatModel ω) (deps : AgentDependencies ω) :
    AgentDependencies (WatchedWorld ω) where
  config := deps.config
  llm := client.watched model
  notifications := deps.notifications.outside
  incidents := deps.incidents.outside
  host := deps.host.outside
  fuzzyEnabled := deps.fuzzyEnabled

/-- A run that the agent serves, with the world outside the client as the run finds it. -/
structure ServedRun (ω : Type) where
  request : RunRequest
  outside : ω

/-- The system when the process starts: a new client has made no call. -/
def processStart (sys : Sys ω) : Sys (WatchedWorld ω) where
  world := { groq := { outside := sys.world } }
  db := sys.db
  incidentFiles := sys.incidentFiles
  incidentStream := sys.incidentStream

/-- The system as a run finds it. -/
def ServedRun.finds (run : ServedRun ω) (sys : Sys (WatchedWorld ω)) : Sys (WatchedWorld ω) :=
  { sys with world := { sys.world with groq := { sys.world.groq with outside := run.outside } } }

/-- The system after an agent has served runs, whether they complete, fail or raise. -/
def serveAll (agent : AgentDependencies (WatchedWorld ω)) (sys : Sys (WatchedWorld ω))
    (runs : List (ServedRun ω)) : Sys (WatchedWorld ω) :=
  runs.foldl (fun sys run => finalState ((ReconciliationAgent.run agent run.request).run (run.finds sys))) sys

end ReconcileFlow
