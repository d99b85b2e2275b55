import ReconcileFlow.Soundness.Pipeline
import ReconcileFlow.ToMathlib.Snapshot

/-! # The lifecycle of exceptions across runs

A run writes its lifecycle list into `exception_log` and then resolves the unresolved keys it did
not see. On the statuses stored under the mismatch keys that is recording a snapshot and closing the
absent keys; run ids and times do not matter to it.
-/

namespace ReconcileFlow

open EffectRun

variable {ω : Type}

/-- The lifecycle status stored under each mismatch key. -/
def Database.statuses (db : Database) (mismatchKey : String) : Option ExceptionLifecycleStatus :=
  (db.exceptions.find? mismatchKey).map ExceptionRow.status

/-- The status after a sweep that did not see the key. -/
def settle (status : ExceptionLifecycleStatus) : ExceptionLifecycleStatus :=
  if Database.isUnresolved status then .resolved else status

theorem settle_settle (status : ExceptionLifecycleStatus) : settle (settle status) = settle status := by
  cases status <;> rfl

/-- A status that a sweep leaves alone is resolved. -/
theorem isUnresolved_of_settle_eq {status : ExceptionLifecycleStatus} (settled : settle status = status) :
    Database.isUnresolved status = false := by
  cases status with
  | resolved => rfl
  | opened => cases settled
  | escalated => cases settled
  | awaitingRecheck => cases settled

/-- The key and the status of a lifecycle entry. -/
def LifecycleEntry.recorded (entry : LifecycleEntry) : String × ExceptionLifecycleStatus :=
  (entry.mismatchKey, entry.status)

theorem statuses_upsertException (db : Database) (mismatchKey runId reason : String)
    (status : ExceptionLifecycleStatus) (now : Timestamp) :
    (db.upsertException mismatchKey runId reason status now).statuses =
      Function.update db.statuses mismatchKey (some status) := by
  funext other
  unfold Database.statuses Database.upsertException
  cases found : db.exceptions.find? mismatchKey with
  | none =>
    dsimp only
    rw [KeyedTable.find?_put]
    by_cases same : mismatchKey = other
    · rw [if_pos same, ← same, Function.update_self]
      rfl
    · rw [if_neg same, Function.update_of_ne (Ne.symm same)]
  | some existing =>
    obtain ⟨-, key⟩ := KeyedTable.find?_eq_some_iff.mp found
    dsimp only
    rw [KeyedTable.find?_put]
    dsimp only
    by_cases same : mismatchKey = other
    · rw [if_pos (key.trans same), ← same, Function.update_self]
      rfl
    · rw [if_neg fun equal => same (key.symm.trans equal), Function.update_of_ne (Ne.symm same)]

theorem statuses_markResolved (db : Database) (runId : String) (currentKeys : List String)
    (now : Timestamp) : (db.markResolved runId currentKeys now).1.statuses =
      Snapshot.closeAbsent settle currentKeys db.statuses := by
  funext key
  unfold Database.statuses Database.markResolved Snapshot.closeAbsent
  dsimp only
  rw [KeyedTable.find?_mapRows]
  cases found : db.exceptions.find? key with
  | none =>
    split_ifs <;> rfl
  | some row =>
    obtain ⟨-, rfl⟩ := KeyedTable.find?_eq_some_iff.mp found
    unfold Database.resolveRow Database.isStale settle
    by_cases current : row.mismatchKey ∈ currentKeys
    · simp [current]
    · cases unresolved : Database.isUnresolved row.status <;> simp [current, unresolved]

/-- Nothing is stale when every absent key is resolved. -/
theorem countP_isStale_eq_zero {db : Database} {currentKeys : List String}
    (resolved : ∀ key status, key ∉ currentKeys → db.statuses key = some status →
      Database.isUnresolved status = false) :
    db.exceptions.rows.countP (Database.isStale currentKeys) = 0 := by
  rw [List.countP_eq_zero]
  intro row member stale
  unfold Database.isStale at stale
  rw [Bool.and_eq_true, decide_eq_true_eq] at stale
  have stored : db.statuses row.mismatchKey = some row.status := by
    unfold Database.statuses
    rw [KeyedTable.find?_eq_some_iff.mpr ⟨member, rfl⟩]
    rfl
  have settled := resolved _ _ stale.2 stored
  rw [stale.1] at settled
  cases settled

/-- From one state to another only the audit log and the exception table moved. -/
structure LifecycleOnly (before after : Sys ω) : Prop where
  world : after.world = before.world
  notifications : after.db.notifications = before.db.notifications
  calls : after.calls = before.calls

theorem AuditOnly.lifecycleOnly {before after : Sys ω} (frame : AuditOnly before after) :
    LifecycleOnly before after := ⟨frame.world, frame.notifications, frame.calls⟩

theorem LifecycleOnly.trans {before between after : Sys ω} (first : LifecycleOnly before between)
    (second : LifecycleOnly between after) : LifecycleOnly before after :=
  ⟨second.world.trans first.world, second.notifications.trans first.notifications,
    second.calls.trans first.calls⟩

/-- The body of the loop over the lifecycle list. -/
def upsertEntry (host : Host ω) (runId : String) (entry : LifecycleEntry) : RunM ω Unit := do
  let now ← readClock host
  modifyDb fun db => db.upsertException entry.mismatchKey runId entry.reason entry.status now

theorem forEach_upsertEntry (host : Host ω) (runId : String) (entries : List LifecycleEntry)
    (before : Sys ω) : ∃ after, (forEach entries (upsertEntry host runId)).run before = .ok () after ∧
      LifecycleOnly before after ∧
      after.db.statuses = Snapshot.record (entries.map LifecycleEntry.recorded) before.db.statuses := by
  unfold forEach
  induction entries generalizing before with
  | nil => exact ⟨before, rfl, ⟨rfl, rfl, rfl⟩, rfl⟩
  | cons entry rest ih =>
    let db := before.db.upsertException entry.mismatchKey runId entry.reason entry.status
      (host.now before.world)
    let written : Sys ω := { before with db }
    have unchanged : LifecycleOnly before written := ⟨rfl, rfl, rfl⟩
    have wrote : (upsertEntry host runId entry).run before = .ok () written := rfl
    obtain ⟨after, success, frame, statuses⟩ := ih written
    refine ⟨after, ?_, unchanged.trans frame, ?_⟩
    · rw [List.foldlM_cons, bind_of_ok wrote]
      exact success
    · rw [statuses]
      dsimp only [written, db]
      rw [statuses_upsertException]
      rfl

theorem recordDispatch_run (deps : AgentDependencies ω) (runId : String) (lists : DispatchLists)
    (before : Sys ω) : ∃ after, (recordDispatch deps runId lists).run before = .ok () after ∧
      LifecycleOnly before after ∧ after.db.statuses =
        Snapshot.record (lists.lifecycle.map LifecycleEntry.recorded) before.db.statuses := by
  obtain ⟨between, upserted, frame, statuses⟩ :=
    forEach_upsertEntry deps.host runId lists.lifecycle before
  obtain ⟨after, logged, audited⟩ := forEach_logEvent deps.host id lists.events between
  refine ⟨after, run_withSession_of_ok ?_, frame.trans audited.lifecycleOnly, ?_⟩
  · exact (bind_of_ok upserted).trans logged
  · rw [← statuses]
    unfold Database.statuses
    rw [audited.exceptions]

theorem verifyNode_run (deps : AgentDependencies ω) (state : ReconciliationState) (before : Sys ω) :
    ∃ after, (verifyNode deps state).run before =
        .ok { state with summary := some (buildSummary state
          (before.db.exceptions.rows.countP (Database.isStale state.currentKeys))) } after ∧
      LifecycleOnly before after ∧
      after.db.statuses = Snapshot.closeAbsent settle state.currentKeys before.db.statuses := by
  refine ⟨_, rfl, ⟨rfl, rfl, rfl⟩, ?_⟩
  exact statuses_markResolved before.db state.runId state.currentKeys (deps.host.now before.world)

end ReconcileFlow
