import ReconcileFlow.Soundness.Rerun

/-! # The lifecycle over histories of runs

Runs follow one another on one system; each may complete or fail, and between two runs the outside
world may move. On the stored statuses a completed run is one `Snapshot.sync` with the entries of its
dispatch loop, so afterwards the unresolved rows are exactly the ones it recorded, whatever happened
before. Rows are only ever updated in place: this is a frame of every run, also of a failed one.
-/

namespace ReconcileFlow

open EffectRun ReconciliationAgent

variable {ω : Type}

/-- A run of a history, with the world it finds. -/
structure ScheduledRun (ω : Type) where
  deps : AgentDependencies ω
  request : RunRequest
  world : ω

namespace ScheduledRun

/-- The system as the run finds it. -/
def finds (run : ScheduledRun ω) (sys : Sys ω) : Sys ω := { sys with world := run.world }

/-- The system as the run leaves it, whether it completes, fails or raises. -/
def leaves (run : ScheduledRun ω) (sys : Sys ω) : Sys ω :=
  finalState ((ReconciliationAgent.run run.deps run.request).run (run.finds sys))

/-- The system after a history. -/
def runAll (sys : Sys ω) (runs : List (ScheduledRun ω)) : Sys ω :=
  runs.foldl (fun sys run => run.leaves sys) sys

theorem runAll_append (sys : Sys ω) (past later : List (ScheduledRun ω)) :
    runAll sys (past ++ later) = runAll (runAll sys past) later := List.foldl_append

/-- A preorder that every run keeps, from the system it finds, holds along every history. -/
theorem runAll_keeps {R : Sys ω → Sys ω → Prop} [IsPreorder (Sys ω) R] (node : NodeFrame R)
    (lifecycle : LifecycleFrame R) (mail : MailFrame R) (record : RunFrame R) (sys : Sys ω)
    (runs : List (ScheduledRun ω)) : R sys (runAll sys runs) := by
  induction runs generalizing sys with
  | nil => exact refl_of R sys
  | cons run rest ih =>
    have found := node.world sys run.world
    have ran := keeps_run node lifecycle mail record run.deps run.request (run.finds sys)
    exact trans_of R found (trans_of R ran (ih (run.leaves sys)))

end ScheduledRun

open ScheduledRun

/-- Every row of the lifecycle table is still there, and was first seen when it was. -/
def RowsKept (before after : Sys ω) : Prop :=
  ∀ row ∈ before.db.exceptions.rows, ∃ row' ∈ after.db.exceptions.rows,
    row'.mismatchKey = row.mismatchKey ∧ row'.firstSeen = row.firstSeen

theorem RowsKept.of_exceptions {before after : Sys ω} (same : after.db.exceptions = before.db.exceptions) :
    RowsKept before after := by
  intro row member
  exact ⟨row, same ▸ member, rfl, rfl⟩

instance : IsPreorder (Sys ω) RowsKept where
  refl _ := .of_exceptions rfl
  trans _ _ _ first second := by
    intro row member
    obtain ⟨between, present, key, seen⟩ := first row member
    obtain ⟨last, stored, lastKey, lastSeen⟩ := second between present
    exact ⟨last, stored, lastKey.trans key, lastSeen.trans seen⟩

theorem rowsKept_nodeFrame : NodeFrame (RowsKept : Sys ω → Sys ω → Prop) where
  world _ _ := .of_exceptions rfl
  rollback _ := .of_exceptions rfl
  audit _ _ _ := .of_exceptions rfl
  judge _ _ _ := .of_exceptions rfl

theorem rowsKept_mailFrame : MailFrame (RowsKept : Sys ω → Sys ω → Prop) where
  send _ _ _ := .of_exceptions rfl
  record _ _ := .of_exceptions rfl

theorem rowsKept_runFrame : RunFrame (RowsKept : Sys ω → Sys ω → Prop) where
  runs _ _ := .of_exceptions rfl
  incident _ _ _ := .of_exceptions rfl
  stored _ _ := .of_exceptions rfl

theorem rowsKept_upsert (sys : Sys ω) (mismatchKey runId reason : String)
    (status : ExceptionLifecycleStatus) (now : Timestamp) :
    RowsKept sys { sys with db := sys.db.upsertException mismatchKey runId reason status now } := by
  intro row member
  unfold Database.upsertException
  by_cases same : row.mismatchKey = mismatchKey
  · have found : sys.db.exceptions.find? mismatchKey = some row :=
      KeyedTable.find?_eq_some_iff.mpr ⟨member, same⟩
    dsimp only
    rw [found]
    exact ⟨_, KeyedTable.mem_put.mpr (.inl rfl), rfl, rfl⟩
  · refine ⟨row, KeyedTable.mem_put.mpr (.inr ⟨member, ?_⟩), rfl, rfl⟩
    split
    · next existing found =>
      rw [(KeyedTable.find?_eq_some_iff.mp found).2]
      exact same
    · exact same

theorem rowsKept_lifecycleFrame : LifecycleFrame (RowsKept : Sys ω → Sys ω → Prop) where
  upsert := rowsKept_upsert
  sweep sys runId currentKeys now := by
    intro row member
    refine ⟨_, List.mem_map_of_mem member, Database.mismatchKey_resolveRow .., ?_⟩
    unfold Database.resolveRow
    split <;> rfl

/-- The lifecycle table did not move. -/
def ExceptionsSame (before after : Sys ω) : Prop := after.db.exceptions = before.db.exceptions

instance : IsPreorder (Sys ω) ExceptionsSame where
  refl _ := rfl
  trans _ _ _ first second := second.trans first

theorem exceptionsSame_nodeFrame : NodeFrame (ExceptionsSame : Sys ω → Sys ω → Prop) where
  world _ _ := rfl
  rollback _ := rfl
  audit _ _ _ := rfl
  judge _ _ _ := rfl

theorem exceptionsSame_mailFrame : MailFrame (ExceptionsSame : Sys ω → Sys ω → Prop) where
  send _ _ _ := rfl
  record _ _ := rfl

theorem exceptionsSame_runFrame : RunFrame (ExceptionsSame : Sys ω → Sys ω → Prop) where
  runs _ _ := rfl
  incident _ _ _ := rfl
  stored _ _ := rfl

/-- A graph that raises has not reached the commit of its dispatch loop. -/
theorem exceptions_of_graph_raises {deps : AgentDependencies ω} {initial : ReconciliationState}
    {before after : Sys ω} {raised : Raised}
    (failure : (invokeGraph deps initial).run before = .error raised after) :
    after.db.exceptions = before.db.exceptions := by
  have drafts := keeps_draftNodes (exceptionsSame_nodeFrame.graph deps.llm) initial
    (.inr (exceptionsSame_nodeFrame.mailsWithin exceptionsSame_mailFrame _ _ _)) before
  rw [invokeGraph_error_iff.mp failure] at drafts
  exact drafts

/-- A run that does not complete leaves the lifecycle table as it was. -/
theorem exceptions_of_incomplete {deps : AgentDependencies ω} {request : RunRequest} {before : Sys ω}
    (incomplete : completedRun deps request before = none) :
    (finalState ((ReconciliationAgent.run deps request).run before)).db.exceptions = before.db.exceptions := by
  have begins := keeps_beginRun (exceptionsSame_nodeFrame.host deps.host) exceptionsSame_runFrame request before
  unfold completedRun at incomplete
  unfold ReconciliationAgent.run
  rw [execute_eq] at incomplete ⊢
  cases begun : (beginRun deps request).run before with
  | error raised started =>
    rw [begun] at begins
    rw [bind_of_error (bind_of_error begun)]
    exact begins
  | ok begun' started =>
    rw [begun] at begins
    rw [bind_of_ok begun] at incomplete
    rw [bind_assoc, bind_of_ok begun]
    let initial := initialState deps.config request begun'.1 begun'.2
    cases graph : (invokeGraph deps initial).run started with
    | ok final ended =>
      rw [bind_of_ok (attempt_of_ok graph)] at incomplete
      cases incomplete
    | error raised ended =>
      have kept : ExceptionsSame before ended := (exceptions_of_graph_raises graph).trans begins
      rw [bind_assoc, bind_of_ok (attempt_of_error graph)]
      exact trans_of ExceptionsSame kept (keeps_handleFailure exceptionsSame_nodeFrame.session.rollback
        (exceptionsSame_nodeFrame.host _) exceptionsSame_runFrame request
        (.inr (exceptionsSame_nodeFrame.adminMailsWithin exceptionsSame_mailFrame _ _ _)) raised ended)

/-! ## One completed run -/

/-- The number of rows that were unresolved before and are resolved after. -/
def newlyResolved (before after : Sys ω) : ℕ :=
  after.db.exceptions.rows.countP fun row =>
    decide (row.status = .resolved) && (before.db.statuses row.mismatchKey).any Database.isUnresolved

/-- What a completed run leaves in the lifecycle table; `lists` is what its dispatch loop built, and
`opened` the time at which they were written. -/
structure LifecycleLeft (before : Sys ω) (lists : DispatchLists) (opened : Timestamp)
    (final : ReconciliationState) (outcome : RunOutcome) (after : Sys ω) : Prop where
  unresolved : ∀ key, (∃ row ∈ after.db.exceptions.rows, row.mismatchKey = key ∧
    Database.isUnresolved row.status = true) ↔ key ∈ final.currentKeys
  lastStatus : ∀ row ∈ after.db.exceptions.rows, Database.isUnresolved row.status = true →
    Snapshot.lastValue (lists.lifecycle.map LifecycleEntry.recorded) row.mismatchKey = some row.status
  firstSeen : ∀ row ∈ after.db.exceptions.rows, before.db.statuses row.mismatchKey = none →
    row.firstSeen = opened
  resolved : ∃ summary, outcome.summary = .summary summary ∧ summary.resolved = newlyResolved before after

/-- The loop never records a resolved exception. -/
theorem entriesOf_unresolved {config : AppConfig} {decided : ExceptionRecord × ExceptionDecision}
    {entry : LifecycleEntry} (member : entry ∈ entriesOf config decided) :
    Database.isUnresolved entry.status = true := by
  unfold entriesOf at member
  split at member
  · obtain ⟨target, -, rfl⟩ := List.mem_map.mp member
    rfl
  · obtain ⟨target, -, rfl⟩ := List.mem_map.mp member
    unfold targetEntry
    dsimp only
    split <;> rfl

/-- The entries of a draft are all open. -/
theorem DraftFacts.opens {deps : AgentDependencies ω} {before drafted : Sys ω}
    {decided : ReconciliationState} {lists : DispatchLists}
    (facts : DraftFacts deps before decided lists drafted) :
    ∀ entry ∈ lists.lifecycle.map LifecycleEntry.recorded, Database.isUnresolved entry.2 = true := by
  intro recorded member
  obtain ⟨entry, present, rfl⟩ := List.mem_map.mp member
  rw [facts.lifecycle] at present
  obtain ⟨one, -, listed⟩ := List.mem_flatMap.mp present
  exact entriesOf_unresolved listed

theorem settle_resolves (status : ExceptionLifecycleStatus) :
    ¬Database.isUnresolved (settle status) = true := by
  cases status <;> decide

theorem find?_of_mem {db : Database} {row : ExceptionRow} (member : row ∈ db.exceptions.rows) :
    db.statuses row.mismatchKey = some row.status := by
  unfold Database.statuses
  rw [KeyedTable.find?_eq_some_iff.mpr ⟨member, rfl⟩]
  rfl

theorem exists_row_iff {db : Database} {key : String} (Kept : ExceptionLifecycleStatus → Prop) :
    (∃ row ∈ db.exceptions.rows, row.mismatchKey = key ∧ Kept row.status) ↔
      ∃ status, db.statuses key = some status ∧ Kept status := by
  constructor
  · rintro ⟨row, member, rfl, kept⟩
    exact ⟨row.status, find?_of_mem member, kept⟩
  · rintro ⟨status, stored, kept⟩
    obtain ⟨row, found, rfl⟩ := Option.map_eq_some_iff.mp stored
    obtain ⟨member, key⟩ := KeyedTable.find?_eq_some_iff.mp found
    exact ⟨row, member, key, kept⟩

theorem verifyNode_rows {deps : AgentDependencies ω} {state final : ReconciliationState}
    {before after : Sys ω} (success : (verifyNode deps state).run before = .ok final after) :
    after.db.exceptions.rows = before.db.exceptions.rows.map
      (Database.resolveRow state.runId state.currentKeys (deps.host.now before.world)) := by
  cases success
  rfl

/-- A row the sweep meets counts as stale exactly when the run turns it to resolved. -/
theorem stale_iff_turned {before opened : Sys ω} {entries : List (String × ExceptionLifecycleStatus)}
    (statuses : opened.db.statuses = Snapshot.record entries before.db.statuses)
    (opens : ∀ entry ∈ entries, Database.isUnresolved entry.2 = true) (runId : String) (now : Timestamp)
    {row : ExceptionRow} (member : row ∈ opened.db.exceptions.rows) :
    let swept := Database.resolveRow runId (entries.map Prod.fst) now row
    (decide (swept.status = .resolved) && (before.db.statuses swept.mismatchKey).any Database.isUnresolved) =
      Database.isStale (entries.map Prod.fst) row := by
  intro swept
  have stored := find?_of_mem member
  rw [statuses] at stored
  have key : swept.mismatchKey = row.mismatchKey := Database.mismatchKey_resolveRow ..
  rw [key]
  by_cases current : row.mismatchKey ∈ entries.map Prod.fst
  · -- A current row keeps the open status that was recorded for it.
    have notStale : Database.isStale (entries.map Prod.fst) row = false := by
      unfold Database.isStale
      rw [decide_eq_false (not_not_intro current), Bool.and_false]
    have kept : swept = row := by
      dsimp only [swept]
      unfold Database.resolveRow
      rw [notStale]
      rfl
    obtain ⟨status, last⟩ := Snapshot.exists_lastValue current
    rw [Snapshot.record_of_lastValue last, Option.some.injEq] at stored
    have isOpen := opens _ (Snapshot.mem_of_lastValue last)
    have notResolved : row.status ≠ .resolved := by
      rintro same
      rw [stored, same] at isOpen
      cases isOpen
    rw [kept, notStale, decide_eq_false notResolved, Bool.false_and]
  · rw [Snapshot.record_of_notMem current] at stored
    have stale : Database.isStale (entries.map Prod.fst) row = Database.isUnresolved row.status := by
      unfold Database.isStale
      rw [decide_eq_true current, Bool.and_true]
    rw [stored, Option.any_some, stale]
    cases unresolved : Database.isUnresolved row.status with
    | false => rw [Bool.and_false]
    | true =>
      have resolves : swept.status = .resolved := by
        dsimp only [swept]
        unfold Database.resolveRow
        rw [stale, unresolved]
        rfl
      rw [resolves]
      rfl

/-- A row of the second system was there before, first seen when it was, or is first seen now; time
stands still in between. -/
structure CreatedNow (host : Host ω) (before after : Sys ω) : Prop where
  world : after.world = before.world
  rows : ∀ row ∈ after.db.exceptions.rows,
    (∃ old ∈ before.db.exceptions.rows, old.mismatchKey = row.mismatchKey ∧ old.firstSeen = row.firstSeen) ∨
      row.firstSeen = host.now before.world

instance (host : Host ω) : IsPreorder (Sys ω) (CreatedNow host) where
  refl _ := ⟨rfl, fun row member => .inl ⟨row, member, rfl, rfl⟩⟩
  trans _ _ _ first second := by
    refine ⟨second.world.trans first.world, fun row member => ?_⟩
    rcases second.rows row member with ⟨old, present, key, seen⟩ | now
    · rw [← key, ← seen]
      exact first.rows old present
    · rw [first.world] at now
      exact .inr now

theorem createdNow_upsert (host : Host ω) (runId : String) (entry : LifecycleEntry) :
    Keeps (CreatedNow host) (upsertEntry host runId entry) := by
  intro sys
  refine ⟨rfl, fun row member => ?_⟩
  rcases KeyedTable.mem_put.mp member with rfl | ⟨present, -⟩
  · split
    · next existing found => exact .inl ⟨existing, (KeyedTable.find?_eq_some_iff.mp found).1, rfl, rfl⟩
    · exact .inr rfl
  · exact .inl ⟨row, present, rfl, rfl⟩

theorem recordDispatch_creates {deps : AgentDependencies ω} {runId : String} {lists : DispatchLists}
    {before after : Sys ω} (success : (recordDispatch deps runId lists).run before = .ok () after) :
    CreatedNow deps.host before after := by
  have logs (event : AuditEvent) : Keeps (CreatedNow deps.host) (logEvent deps.host event) :=
    fun _ => ⟨rfl, fun row member => .inl ⟨row, member, rfl, rfl⟩⟩
  have body : Keeps (CreatedNow deps.host) (do
      forEach lists.lifecycle (upsertEntry deps.host runId)
      forEach lists.events (logEvent deps.host)) :=
    keeps_bind (keeps_foldlM (fun _ entry => createdNow_upsert deps.host runId entry) _ _) fun _ =>
      keeps_foldlM (fun _ event => logs event) _ _
  exact body.of_ok (of_withSession_ok success)

theorem exceptions_concluded (deps : AgentDependencies ω) (runId : String) (final : ReconciliationState)
    (sys : Sys ω) : (concluded deps runId final sys).db.exceptions = sys.db.exceptions :=
  (quiet_finishRun sys runId .completed (finalSummary final) (deps.host.now sys.world)).exceptions

theorem ReconciliationAgent.Stages.lifecycleLeft {deps : AgentDependencies ω} {request : RunRequest}
    {before drafted opened verified : Sys ω} {decided final : ReconciliationState} {lists : DispatchLists}
    (stages : Stages deps request before decided lists drafted opened final verified) (runId : String) :
    LifecycleLeft before lists (deps.host.now drafted.world) final (buildOutcome runId request final)
      (concluded deps runId final verified) := by
  obtain ⟨-, facts⟩ := draftRun_facts stages.drafts
  obtain ⟨keys, openedStatuses, statuses⟩ := stages.statuses
  have opens := facts.opens
  have unresolved (key : String) : (∃ row ∈ verified.db.exceptions.rows, row.mismatchKey = key ∧
      Database.isUnresolved row.status = true) ↔ key ∈ final.currentKeys := by
    rw [exists_row_iff fun status => Database.isUnresolved status = true, statuses, keys]
    exact Snapshot.sync_open_iff settle_resolves opens before.db.statuses key
  refine ⟨?_, ?_, ?_, ?_⟩
  · rw [exceptions_concluded]
    exact unresolved
  · rw [exceptions_concluded]
    intro row member isOpen
    have current := (unresolved row.mismatchKey).mp ⟨row, member, rfl, isOpen⟩
    rw [keys] at current
    obtain ⟨status, last⟩ := Snapshot.exists_lastValue current
    have stored := find?_of_mem member
    rw [statuses, Snapshot.sync_of_lastValue last] at stored
    rw [last, stored]
  · rw [exceptions_concluded, verifyNode_rows stages.verifies]
    intro swept member absent
    obtain ⟨row, present, rfl⟩ := List.mem_map.mp member
    rw [Database.mismatchKey_resolveRow] at absent
    have seen : (Database.resolveRow (decided.withLists lists).runId (decided.withLists lists).currentKeys
        (deps.host.now opened.world) row).firstSeen = row.firstSeen := by
      unfold Database.resolveRow
      split <;> rfl
    rw [seen]
    rcases (recordDispatch_creates stages.opens).rows row present with ⟨old, stored, key, -⟩ | now
    · rw [facts.mails.exceptions] at stored
      rw [← key, find?_of_mem stored] at absent
      cases absent
    · exact now
  · have swept := verifyNode_rows stages.verifies
    obtain ⟨_, verified, -, -⟩ := verifyNode_run deps (decided.withLists lists) opened
    rw [stages.verifies] at verified
    cases verified
    refine ⟨_, rfl, ?_⟩
    unfold newlyResolved
    rw [exceptions_concluded, swept, List.countP_map]
    have current : (decided.withLists lists).currentKeys =
      (lists.lifecycle.map LifecycleEntry.recorded).map Prod.fst := keys
    rw [current]
    exact (List.countP_congr fun row member => by
      rw [Function.comp_apply, stale_iff_turned openedStatuses opens _ _ member]).symm

/-! ## Every history -/

/-- Along every history, right after each completed run the unresolved rows are exactly the keys the
run recorded, each with the status last recorded for it, and the summary counts the rows it resolved.
No run, completed or not, deletes a row or moves the time it was first seen. -/
theorem lifecycle_over_history (start : Sys ω) (runs : List (ScheduledRun ω)) :
    (∀ past run later, runs = past ++ run :: later → ∀ final outcome after,
      Completes run.deps run.request (run.finds (runAll start past)) final outcome after →
        run.leaves (runAll start past) = after ∧ ∃ decided lists drafted,
          (draftRun run.deps run.request).run (run.finds (runAll start past)) =
            .ok (decided, lists) drafted ∧
          LifecycleLeft (run.finds (runAll start past)) lists (run.deps.host.now drafted.world) final
            outcome after) ∧
      ∀ past later, runs = past ++ later → RowsKept (runAll start past) (runAll start runs) := by
  constructor
  · intro past run later _ final outcome after completes
    obtain ⟨decided, lists, drafted, opened, verified, stages, rfl, rfl⟩ := completes.stages
    refine ⟨?_, decided, lists, drafted, stages.drafts, stages.lifecycleLeft _⟩
    unfold ScheduledRun.leaves
    rw [completes.ran, finalState_ok]
  · rintro past later rfl
    rw [runAll_append]
    exact runAll_keeps rowsKept_nodeFrame rowsKept_lifecycleFrame rowsKept_mailFrame rowsKept_runFrame _ _

/-- Two unpaid orders, and then the same request without its second order. -/
def correctedHistory : List (ScheduledRun Unit) :=
  [⟨scriptedDependencies (.ok {}), { separateRequest with runId := some "run-1" }, ()⟩,
    ⟨scriptedDependencies (.ok {}),
      { separateRequest with runId := some "run-2", orders := [makeOrder "O1" ⟨10000⟩] }, ()⟩]

theorem lifecycle_over_corrected :
    ∃ run final outcome after lists opened, correctedHistory = correctedHistory.take 1 ++ [run] ∧
      LifecycleLeft (run.finds (runAll emptyStart (correctedHistory.take 1))) lists opened final outcome
        after := by
  have returned : (correctedHistory[1]?.bind fun run => completedRun run.deps run.request
      (run.finds (runAll emptyStart (correctedHistory.take 1)))).any (fun _ => true) = true := by
    decide +kernel
  obtain ⟨final, outcome, after, completes, -⟩ := completes_passing returned
  obtain ⟨-, decided, lists, drafted, -, left⟩ :=
    (lifecycle_over_history emptyStart correctedHistory).1 (correctedHistory.take 1) _ [] rfl final outcome
      after completes
  exact ⟨_, final, outcome, after, lists, _, rfl, left⟩

end ReconcileFlow
