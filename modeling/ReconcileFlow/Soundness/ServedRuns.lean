import ReconcileFlow.Soundness.ProgressPolls
import ReconcileFlow.Soundness.Uploads

/-! # The server as a process of background runs

Requests and workers of a server make steps of the abstract process: a request that is let in registers its run,
the turn of a worker is the whole of its thread. As long as no run id is given out twice, every run takes
its steps in the order of the protocol, and polls and pages answer from the state of the process
(`server_refines_process`).
-/

namespace ReconcileFlow

open EffectRun ReconciliationAgent

variable {ω : Type}

theorem phaseOf_append_other {runId : String} (steps : List ProcessStep) {more : List ProcessStep}
    (others : ∀ step ∈ more, step.runId ≠ runId) : phaseOf runId (steps ++ more) = phaseOf runId steps := by
  have none : more.filter (fun step => step.runId = runId) = [] :=
    List.filter_eq_nil_iff.mpr fun step member => by
      rw [decide_eq_true_eq]
      exact others step member
  rw [phaseOf_append, none]
  cases phaseOf runId steps <;> rfl

theorem phaseOf_append_own {runId : String} {steps more : List ProcessStep} {phase : WorkerPhase}
    (reached : phaseOf runId steps = some phase) (own : ∀ step ∈ more, step.runId = runId) :
    phaseOf runId (steps ++ more) = more.foldlM workerNext phase := by
  rw [phaseOf_append, reached, List.filter_eq_self.mpr fun step member => decide_eq_true (own step member)]
  rfl

/-- The registry after the steps of a worker. -/
theorem registry_threadSteps {runId : String} (process : Process) (commits : List (WorkerCommit runId))
    (ended : WorkerEnd) :
    (process.run (threadSteps runId commits ended)).registry = process.registry.setRecord runId ended.record := by
  have silent : (commits.map (ProcessStep.commit runId)).filterMap ProcessStep.call? = [] := by
    rw [List.filterMap_map]
    exact List.filterMap_eq_nil_iff.mpr fun made _ => rfl
  unfold threadSteps
  rw [Process.run_append]
  change ((Process.run _ _).apply (ended.step runId)).registry = _
  rw [registry_apply_end, registry_run, silent]
  rfl

/-- The ids of the runs that were let in. -/
def handedOut (replies : List ServerReply) : List String :=
  replies.filterMap fun reply =>
    match reply with
    | .answered (.progressPage runId _) => some runId
    | _ => none

/-- The process holds what the handlers of the server read. -/
structure Reads (process : Process) (server : Server ω) : Prop where
  registry : process.registry = server.registry
  runs : process.db.runs = server.sys.db.runs
  audit : process.db.audit = server.sys.db.audit

/-- The steps have brought every run to where the server has it. -/
structure Tracks (replies : List ServerReply) (server : Server ω) (steps : List ProcessStep) : Prop where
  unknown : ∀ runId ∉ handedOut replies, phaseOf runId steps = some .absent
  pending : ∀ job ∈ server.pending, job.request.runId = some job.runId ∧ job.runId ∈ handedOut replies ∧
    phaseOf job.runId steps = some .registered
  distinct : (server.pending.map QueuedRun.runId).Nodup
  finished : ∀ runId ended, .worked runId ended ∈ replies → phaseOf runId steps = some (.ended ended.failed)

theorem handedOut_append (replies : List ServerReply) (reply : ServerReply) :
    handedOut (replies ++ [reply]) = handedOut replies ++ handedOut [reply] := List.filterMap_append

theorem replies_append (app : AppContext ω) (server : Server ω) (first second : List (ServerEvent ω)) :
    server.replies app (first ++ second) = server.replies app first ++ (server.after app first).replies app second := by
  induction first generalizing server with
  | nil => rfl
  | cons event rest ih => exact congrArg (List.cons (server.step app event).1) (ih (server.step app event).2)

theorem replies_append_singleton (app : AppContext ω) (server : Server ω) (events : List (ServerEvent ω))
    (event : ServerEvent ω) :
    server.replies app (events ++ [event]) =
      server.replies app events ++ [((server.after app events).step app event).1] := replies_append ..

namespace Tracks

variable {replies : List ServerReply} {server : Server ω} {steps : List ProcessStep}

/-- An event that neither registers nor ends a run. -/
theorem silent {reply : ServerReply} {after : Server ω} (tracks : Tracks replies server steps)
    (pending : after.pending = server.pending) (unheard : handedOut [reply] = [])
    (unworked : ∀ runId ended, reply ≠ .worked runId ended) : Tracks (replies ++ [reply]) after steps where
  unknown := by
    rw [handedOut_append, unheard, List.append_nil]
    exact tracks.unknown
  pending := by
    rw [handedOut_append, unheard, List.append_nil, pending]
    exact tracks.pending
  distinct := by
    rw [pending]
    exact tracks.distinct
  finished runId ended member := by
    rcases List.mem_append.mp member with earlier | last
    · exact tracks.finished runId ended earlier
    · exact (unworked runId ended (List.mem_singleton.mp last).symm).elim

/-- A request that is let in under a new id. -/
theorem started (tracks : Tracks replies server steps) {runId : String} {demo : Bool} (request : RunRequest) (world : ω)
    (new : runId ∉ handedOut replies) :
    Tracks (replies ++ [.answered (.progressPage runId demo)]) ((server.finds world).startBackgroundRun runId request demo)
      (steps ++ [.start runId demo]) := by
  have handed : handedOut (replies ++ [.answered (.progressPage runId demo)]) = handedOut replies ++ [runId] :=
    handedOut_append ..
  have old {other : String} (different : other ≠ runId) :
      phaseOf other (steps ++ [.start runId demo]) = phaseOf other steps :=
    phaseOf_append_other steps (List.forall_mem_singleton.mpr different.symm)
  have registered : phaseOf runId (steps ++ [.start runId demo]) = some .registered :=
    phaseOf_append_own (tracks.unknown runId new) (List.forall_mem_singleton.mpr rfl)
  refine ⟨fun other unheard => ?_, fun job member => ?_, ?_, fun other ended member => ?_⟩
  · rw [handed, List.mem_append, not_or] at unheard
    rw [old fun same => unheard.2 (List.mem_singleton.mpr same)]
    exact tracks.unknown other unheard.1
  · rw [handed]
    rcases List.mem_append.mp member with waiting | last
    · obtain ⟨named, known, phase⟩ := tracks.pending job waiting
      refine ⟨named, List.mem_append_left _ known, ?_⟩
      rwa [old fun same => new (same ▸ known)]
    · cases List.mem_singleton.mp last
      exact ⟨rfl, List.mem_append_right _ (List.mem_singleton_self _), registered⟩
  · change ((server.pending ++ [_]).map QueuedRun.runId).Nodup
    rw [List.map_append, List.map_singleton]
    refine List.nodup_append.mpr ⟨tracks.distinct, List.nodup_singleton _, fun other waits last member => ?_⟩
    rw [List.mem_singleton.mp member]
    rintro rfl
    obtain ⟨job, waiting, same⟩ := List.mem_map.mp waits
    exact new (same ▸ (tracks.pending job waiting).2.1)
  · rcases List.mem_append.mp member with earlier | last
    · have phase := tracks.finished other ended earlier
      rw [old fun same => ?_]
      · exact phase
      · rw [same, tracks.unknown runId new] at phase
        cases phase
    · cases List.mem_singleton.mp last

/-- The turn of a worker that takes all steps of its thread. -/
theorem worked (tracks : Tracks replies server steps) {place : ℕ} {job : QueuedRun}
    (found : server.pending[place]? = some job) {more : List ProcessStep}
    (own : ∀ step ∈ more, step.runId = job.runId) {ended : WorkerEnd}
    (ends : more.foldlM workerNext .registered = some (.ended ended.failed)) (sys : Sys ω) (registry : RunRegistry) :
    Tracks (replies ++ [.worked job.runId ended]) { sys, registry, pending := server.pending.eraseIdx place }
      (steps ++ more) := by
  have handed : handedOut (replies ++ [.worked job.runId ended]) = handedOut replies :=
    (handedOut_append ..).trans (List.append_nil _)
  obtain ⟨-, known, registered⟩ := tracks.pending job (List.mem_of_getElem? found)
  have old {other : String} (different : other ≠ job.runId) : phaseOf other (steps ++ more) = phaseOf other steps :=
    phaseOf_append_other steps fun step member same => different (same.symm.trans (own step member))
  have split : (job.runId :: (server.pending.eraseIdx place).map QueuedRun.runId).Nodup := by
    obtain ⟨within, taken⟩ := List.getElem?_eq_some_iff.mp found
    have perm := (List.getElem_cons_eraseIdx_perm within).map QueuedRun.runId
    rw [taken] at perm
    exact perm.nodup_iff.mpr tracks.distinct
  obtain ⟨gone, distinct⟩ := List.nodup_cons.mp split
  refine ⟨fun other unheard => ?_, fun waits member => ?_, distinct, fun other ended' member => ?_⟩
  · rw [handed] at unheard
    have different : other ≠ job.runId := by
      rintro rfl
      exact unheard known
    rw [old different]
    exact tracks.unknown other unheard
  · obtain ⟨named, heard, phase⟩ := tracks.pending waits (List.mem_of_mem_eraseIdx member)
    have different : waits.runId ≠ job.runId := fun same => gone (same ▸ List.mem_map_of_mem member)
    rw [handed, old different]
    exact ⟨named, heard, phase⟩
  · rcases List.mem_append.mp member with earlier | last
    · have phase := tracks.finished other ended' earlier
      rw [old fun same => ?_]
      · exact phase
      · rw [same, registered] at phase
        cases phase
    · cases List.mem_singleton.mp last
      exact (phaseOf_append_own registered own).trans ends

/-- The agent takes the id that the handler drew. -/
theorem chosen (tracks : Tracks replies server steps) (named : "" ∉ handedOut replies) {place : ℕ} {job : QueuedRun}
    (found : server.pending[place]? = some job) (world : ω) (host : Host ω) :
    chosenRunId host job.request world = job.runId := by
  obtain ⟨own, known, -⟩ := tracks.pending job (List.mem_of_getElem? found)
  have filled : job.runId ≠ "" := fun empty => named (empty ▸ known)
  have truth : truthy (some job.runId) = some job.runId := Option.filter_some_pos (bne_iff_ne.mpr filled)
  unfold chosenRunId
  rw [own, truth]
  rfl

end Tracks

section Turn

variable {deps : AgentDependencies ω} {request : RunRequest} {before after : Sys ω} {runId : String}
  {process : Process} {server : Server ω}

/-- A worker whose run returns makes the steps of its thread. -/
theorem thread_of_returned {outcome : RunOutcome} (ran : (ReconciliationAgent.run deps request).run before = .ok outcome after)
    (named : chosenRunId deps.host request before.world = runId) (reads : Reads process server)
    (found : server.sys.db = before.db) :
    ∃ commits, (threadSteps runId commits (.returned outcome)).foldlM workerNext .registered = some (.ended false) ∧
      ∀ pending, Reads (process.run (threadSteps runId commits (.returned outcome)))
        { sys := after, registry := server.registry.setOutcome runId outcome, pending := pending } := by
  subst named
  obtain ⟨rows, reached, status, summary, now, own, advanced, writes⟩ := run_commits ran
  have alone : [(⟨rows, own⟩ : Batch _)].flatMap Subtype.val = rows := List.append_nil rows
  obtain ⟨runs, audit⟩ := writes process [⟨rows, own⟩] (reads.runs.trans (congrArg Database.runs found))
    (reads.audit.trans (congrArg Database.audit found)) alone
  refine ⟨runCommits (startedRow deps request before) rfl [⟨rows, own⟩] status summary now,
    threadSteps_end (alone.symm ▸ advanced) status summary now (.returned outcome), fun pending => ?_⟩
  refine ⟨?_, runs.symm, audit.symm⟩
  rw [registry_threadSteps, reads.registry]
  rfl

/-- A worker whose run raises only leaves the error. -/
theorem thread_of_raised {raised : Raised} (ran : (ReconciliationAgent.run deps request).run before = .error raised after)
    (reads : Reads process server) (found : server.sys.db = before.db) (pending : List QueuedRun) :
    Reads (process.run (threadSteps runId [] (.raised raised.text)))
      { sys := after, registry := server.registry.setError runId raised.text, pending := pending } := by
  have db := (db_of_run_raises ran).trans found.symm
  refine ⟨?_, reads.runs.trans (congrArg Database.runs db.symm), reads.audit.trans (congrArg Database.audit db.symm)⟩
  rw [registry_threadSteps, reads.registry]
  rfl

end Turn

/-- An event of the server is some steps of the process. -/
theorem Tracks.step {app : AppContext ω} {replies : List ServerReply} {server : Server ω} {steps : List ProcessStep}
    {start : Process} (tracks : Tracks replies server steps) (reads : Reads (start.run steps) server) (event : ServerEvent ω)
    (named : "" ∉ handedOut (replies ++ [(server.step app event).1]))
    (distinct : (handedOut (replies ++ [(server.step app event).1])).Nodup) :
    ∃ more, Tracks (replies ++ [(server.step app event).1]) (server.step app event).2 (steps ++ more) ∧
      Reads (start.run (steps ++ more)) (server.step app event).2 := by
  have ends := step_ends app server event
  generalize (server.step app event).1 = reply, (server.step app event).2 = after at ends named distinct ⊢
  cases ends with
  | refused | brokenUpload | brokenDemo | idle =>
    refine ⟨[], ?_, ?_⟩
    · rw [List.append_nil]
      exact tracks.silent rfl rfl nofun
    · rw [List.append_nil]
      exact ⟨reads.registry, reads.runs, reads.audit⟩
  | invalid read reported =>
    refine ⟨[], ?_, ?_⟩
    · rw [List.append_nil]
      exact tracks.silent rfl rfl nofun
    · rw [List.append_nil]
      exact ⟨reads.registry, reads.runs.trans reported.runs.symm, reads.audit.trans reported.audit.symm⟩
  | accepted asks runId world =>
    have new : runId ∉ handedOut replies := by
      rw [handedOut_append] at distinct
      exact fun known => (List.nodup_append.mp distinct).2.2 runId known runId (List.mem_singleton_self runId) rfl
    refine ⟨[.start runId _], tracks.started _ world new, ?_⟩
    rw [Process.run_append]
    exact ⟨congrArg (fun registry => RunRegistry.start registry runId _) reads.registry, reads.runs, reads.audit⟩
  | @returned place world job outcome sys found ran =>
    have known : "" ∉ handedOut replies := by
      rw [handedOut_append, List.mem_append, not_or] at named
      exact named.1
    obtain ⟨commits, ends, left⟩ := thread_of_returned ran (tracks.chosen known found world _) reads rfl
    refine ⟨threadSteps job.runId commits (.returned outcome), tracks.worked found runId_threadSteps ends _ _, ?_⟩
    rw [Process.run_append]
    exact left _
  | @raised place world job raised sys found ran =>
    refine ⟨threadSteps job.runId [] (.raised raised.text), tracks.worked found runId_threadSteps rfl _ _, ?_⟩
    rw [Process.run_append]
    exact thread_of_raised ran reads rfl _

/-- The steps bring the process to where the handlers of the server read, and every run to where its request and
its worker have it. -/
structure MadeBy (app : AppContext ω) (start : Server ω) (events : List (ServerEvent ω)) (steps : List ProcessStep) :
    Prop where
  poll : ∀ runId, (Process.run ⟨start.registry, start.sys.db⟩ steps).poll runId =
    computeProgress (start.after app events).registry (start.after app events).sys.db runId
  page : ∀ runId, (Process.run ⟨start.registry, start.sys.db⟩ steps).page runId =
    resultsPage (start.after app events).registry runId
  unknown : ∀ runId ∉ handedOut (start.replies app events), phaseOf runId steps = some .absent
  waiting : ∀ job ∈ (start.after app events).pending, phaseOf job.runId steps = some .registered
  ended : ∀ runId ended, .worked runId ended ∈ start.replies app events →
    phaseOf runId steps = some (.ended ended.failed)

theorem Reads.madeBy {app : AppContext ω} {start : Server ω} {events : List (ServerEvent ω)} {steps : List ProcessStep}
    (reads : Reads (Process.run ⟨start.registry, start.sys.db⟩ steps) (start.after app events))
    (tracks : Tracks (start.replies app events) (start.after app events) steps) : MadeBy app start events steps where
  poll runId := by
    unfold Process.poll computeProgress Database.getRun Database.listEvents
    rw [reads.registry, reads.runs, reads.audit]
  page runId := by
    unfold Process.page
    rw [reads.registry]
  unknown := tracks.unknown
  waiting job member := (tracks.pending job member).2.2
  ended := tracks.finished

/-- From a server on which nothing waits, more events are more steps. -/
theorem Tracks.extend {app : AppContext ω} {start : Server ω} {first : List (ServerEvent ω)} {steps : List ProcessStep}
    {process : Process} (tracks : Tracks (start.replies app first) (start.after app first) steps)
    (reads : Reads (process.run steps) (start.after app first)) (second : List (ServerEvent ω))
    (named : "" ∉ handedOut (start.replies app (first ++ second)))
    (distinct : (handedOut (start.replies app (first ++ second))).Nodup) :
    ∃ more, Tracks (start.replies app (first ++ second)) (start.after app (first ++ second)) (steps ++ more) ∧
      Reads (process.run (steps ++ more)) (start.after app (first ++ second)) := by
  induction second using List.reverseRecOn with
  | nil =>
    refine ⟨[], ?_⟩
    rw [List.append_nil, List.append_nil]
    exact ⟨tracks, reads⟩
  | append_singleton second event ih =>
    rw [← List.append_assoc, replies_append_singleton] at named distinct ⊢
    obtain ⟨more, tracked, read⟩ := ih
      (fun known => named (handedOut_append (start.replies app (first ++ second)) _ ▸ List.mem_append_left _ known))
      (handedOut_append (start.replies app (first ++ second)) _ ▸ distinct).of_append_left
    obtain ⟨last, tracksLast, readsLast⟩ := tracked.step read event named distinct
    refine ⟨more ++ last, ?_⟩
    rw [after_append_singleton, ← List.append_assoc]
    exact ⟨tracksLast, readsLast⟩

/-- The server is a process of background runs: whatever requests come and whenever the workers get their turns,
some steps of the process bring it to where the handlers read, and later events only add steps. As long as no
run id is given out twice, every run takes its steps in the order of the protocol. -/
theorem server_refines_process (app : AppContext ω) {start : Server ω} (quiet : start.pending = [])
    (first second : List (ServerEvent ω)) (named : "" ∉ handedOut (start.replies app (first ++ second)))
    (distinct : (handedOut (start.replies app (first ++ second))).Nodup) :
    ∃ steps more, MadeBy app start first steps ∧ MadeBy app start (first ++ second) (steps ++ more) := by
  have tracks : Tracks (start.replies app []) (start.after app []) [] := by
    refine ⟨fun _ _ => rfl, fun job member => ?_, ?_, nofun⟩
    · change job ∈ start.pending at member
      rw [quiet] at member
      cases member
    · change (start.pending.map QueuedRun.runId).Nodup
      rw [quiet]
      exact List.nodup_nil
  have early : (handedOut (start.replies app first)).Sublist (handedOut (start.replies app (first ++ second))) := by
    rw [replies_append]
    exact (List.sublist_append_left ..).filterMap _
  have reads : Reads (Process.run ⟨start.registry, start.sys.db⟩ []) (start.after app []) := ⟨rfl, rfl, rfl⟩
  obtain ⟨steps, tracked, reads⟩ := tracks.extend reads first
    (fun known => named (early.subset known)) (distinct.sublist early)
  obtain ⟨more, trackedMore, readsMore⟩ := tracked.extend reads second named distinct
  exact ⟨steps, more, reads.madeBy tracked, readsMore.madeBy trackedMore⟩

theorem server_refines_process_keyed :
    let start : Server Unit := ⟨emptyStart, {}, []⟩
    (start.after keyedApp (keyedEvents.take 2)).pending.length = 1 ∧
      ∃ steps more, MadeBy keyedApp start (keyedEvents.take 2) steps ∧
        MadeBy keyedApp start (keyedEvents.take 2 ++ keyedEvents.drop 2) (steps ++ more) :=
  ⟨by decide +kernel, server_refines_process keyedApp rfl _ _ (by decide +kernel) (by decide +kernel)⟩

end ReconcileFlow
