import ReconcileFlow.Soundness.RegistryRetention
import ReconcileFlow.Soundness.RunTrail

/-! # What polls see of a run

A poll reads the registry and then the database, with steps of any thread in between. Whatever the other
runs do, two polls of one run that follow one another never go backwards: its events are only added to,
and its record turns from pending to its end once. Other runs can only make it disappear.
-/

namespace ReconcileFlow

open EffectRun ReconciliationAgent

variable {runId : String}

theorem percentOf_eq (rank : ℕ) : percentOf rank = max 3 (15 * rank : ℤ) := by
  unfold percentOf totalRank
  rw [show (rank : ℚ) / (6 : ℕ) * 90 = ((15 * rank : ℕ) : ℚ) by push_cast; ring, round_natCast]
  push_cast
  rfl

theorem percentOf_mono {low high : ℕ} (le : low ≤ high) : percentOf low ≤ percentOf high := by
  rw [percentOf_eq, percentOf_eq]
  omega

theorem eventRank_le {eventType : String} {rank : ℕ} (ranked : eventRank eventType = some rank) :
    rank ≤ totalRank := by
  unfold eventRank at ranked
  obtain ⟨before, after, entries, -⟩ := List.lookup_eq_some_iff.mp ranked
  have all : ∀ entry ∈ [("reconcile_completed", 1), ("fuzzy_auto_applied", 2), ("fuzzy_review_flagged", 2),
      ("fuzzy_match_skipped", 2), ("exceptions_finalized", 3), ("exception_decided", 4),
      ("notification_dispatched", 5), ("verify_completed", 6)], entry.2 ≤ totalRank := by decide
  refine all (eventType, rank) ?_
  rw [entries]
  exact List.mem_append_right before List.mem_cons_self

theorem reachedRank_append (first second : List AuditRow) :
    reachedRank (first ++ second) = max (reachedRank first) (reachedRank second) := by
  unfold reachedRank
  rw [List.filterMap_append, List.foldr_append]
  induction first.filterMap fun event => eventRank event.eventType with
  | nil => exact (Nat.zero_max _).symm
  | cons rank rest ih => rw [List.foldr_cons, List.foldr_cons, ih, Nat.max_assoc]

theorem reachedRank_le (events : List AuditRow) : reachedRank events ≤ totalRank := by
  induction events with
  | nil => exact Nat.zero_le _
  | cons event rest ih =>
    rw [← List.singleton_append, reachedRank_append]
    refine Nat.max_le.mpr ⟨?_, ih⟩
    unfold reachedRank
    cases ranked : eventRank event.eventType with
    | none => simp [ranked]
    | some rank => simpa [ranked] using eventRank_le ranked

/-- Events in pipeline order have reached the rank of the last one. -/
theorem reachedRank_of_advance {start reached : ℕ} {events : List AuditRow}
    (advanced : advance start events = some reached) : max start (reachedRank events) = reached := by
  induction events generalizing start with
  | nil =>
    cases advanced
    exact Nat.max_zero _
  | cons event rest ih =>
    unfold advance at advanced ih
    rw [List.foldlM_cons] at advanced
    obtain ⟨next, moved, advanced⟩ := Option.bind_eq_some_iff.mp advanced
    obtain ⟨ranked, behind⟩ := Option.filter_eq_some_iff.mp moved
    rw [← ih advanced, ← List.singleton_append, reachedRank_append, ← Nat.max_assoc]
    congr 1
    unfold reachedRank
    simpa [ranked] using of_decide_eq_true behind

theorem getRun_finishRun_other (db : Database) {closed : String} (different : closed ≠ runId) (status : RunStatus)
    (summary : SummaryJson) (now : Timestamp) :
    (db.finishRun closed status summary now).getRun runId = db.getRun runId := by
  unfold Database.finishRun Database.getRun
  split
  · next run found =>
    have id : run.id = closed := (KeyedTable.find?_eq_some_iff.mp found).2
    dsimp only
    rw [KeyedTable.find?_put, if_neg fun same => different (id.symm.trans same)]
  · rfl

theorem listEvents_finishRun (db : Database) (closed : String) (status : RunStatus) (summary : SummaryJson)
    (now : Timestamp) : (db.finishRun closed status summary now).listEvents runId = db.listEvents runId := by
  unfold Database.finishRun
  split <;> rfl

/-- A step of another run can only take the record of this one away. -/
structure Process.Apart (runId : String) (before after : Process) : Prop where
  record : after.registry.get runId = before.registry.get runId ∨ after.registry.get runId = none
  run : after.db.getRun runId = before.db.getRun runId
  events : after.db.listEvents runId = before.db.listEvents runId

theorem Process.apart_apply (process : Process) {step : ProcessStep} (other : step.runId ≠ runId) :
    Apart runId process (process.apply step) := by
  cases step with
  | start started demo => exact ⟨RunRegistry.get_start_other _ other demo, rfl, rfl⟩
  | setOutcome ended outcome => exact ⟨.inl ((RunRegistry.get_setRecord ..).trans (if_neg other)), rfl, rfl⟩
  | setError ended message => exact ⟨.inl ((RunRegistry.get_setRecord ..).trans (if_neg other)), rfl, rfl⟩
  | commit writer made =>
    cases made with
    | record row ofRun =>
      refine ⟨.inl rfl, ?_, rfl⟩
      change (process.db.runs.put row).find? runId = _
      rw [KeyedTable.find?_put, if_neg fun same => other (ofRun.symm.trans same)]
      rfl
    | events rows ofRun =>
      refine ⟨.inl rfl, rfl, ?_⟩
      change (process.db.audit ++ rows).filter _ = _
      have none : rows.filter (fun row => row.runId = runId) = [] := by
        refine List.filter_eq_nil_iff.mpr fun row member => ?_
        rw [decide_eq_true_eq, ofRun row member]
        exact other
      rw [List.filter_append, none, List.append_nil]
      rfl
    | closed status summary now =>
      exact ⟨.inl rfl, getRun_finishRun_other process.db other status summary now,
        listEvents_finishRun process.db writer status summary now⟩

/-! ## What stands in the process -/

/-- The registry state of a run in a phase. -/
def WorkerPhase.state : WorkerPhase → RunState
  | absent => .unknown
  | registered | working _ => .pending
  | ended false => .done
  | ended true => .error

/-- The run record was committed; a run that was only registered has logged nothing. -/
def WorkerPhase.Recorded : WorkerPhase → Option RunLogRow → List AuditRow → Prop
  | absent, run, events | registered, run, events => run = none ∧ events = []
  | working rank, run, events => run.isSome = true ∧ advance 0 events = some rank
  | ended _, _, _ => True

/-- The process holds of the run what belongs to its phase, unless its record was evicted. -/
structure Process.Stands (runId : String) (phase : WorkerPhase) (process : Process) : Prop where
  record : ∀ record, process.registry.get runId = some record → record.state = phase.state
  recorded : phase.Recorded (process.db.getRun runId) (process.db.listEvents runId)

/-- A pending record has neither an outcome nor an error. -/
theorem RunRecord.eq_of_pending {record : RunRecord} (pending : record.state = .pending) :
    record = { demo := record.demo } := by
  obtain ⟨demo, outcome, error⟩ := record
  cases error with
  | some message => cases pending
  | none =>
    cases outcome with
    | some outcome => cases pending
    | none => rfl

namespace Process.Stands

variable {process : Process} {phase : WorkerPhase}

theorem apart {after : Process} (stands : process.Stands runId phase) (apart : Apart runId process after) :
    after.Stands runId phase := by
  refine ⟨fun record found => ?_, by rw [apart.run, apart.events]; exact stands.recorded⟩
  rcases apart.record with same | gone
  · exact stands.record record (same ▸ found)
  · rw [gone] at found
    cases found

/-- The record that an end of the run is written on. -/
theorem getD_pending (stands : process.Stands runId phase) (pending : phase.state = .pending) :
    ((process.registry.get runId).getD {}).state = .pending := by
  cases found : process.registry.get runId with
  | none => rfl
  | some record => exact (stands.record record found).trans pending

theorem start (stands : process.Stands runId .absent) (demo : Bool) :
    (process.apply (.start runId demo)).Stands runId .registered := by
  refine ⟨fun record found => ?_, stands.recorded⟩
  change (process.registry.start runId demo).get runId = some record at found
  unfold RunRegistry.start at found
  rcases RunRegistry.get_evictLocked { process.registry with runs := process.registry.runs.put (runId, { demo }) }
    runId with same | gone
  · rw [same] at found
    unfold RunRegistry.get at found
    rw [KeyedTable.find?_put, if_pos rfl] at found
    cases found
    rfl
  · rw [gone] at found
    cases found

theorem setOutcome (stands : process.Stands runId phase) (pending : phase.state = .pending) (outcome : RunOutcome) :
    (process.apply (.setOutcome runId outcome)).Stands runId (.ended false) := by
  refine ⟨fun record found => ?_, trivial⟩
  change (process.registry.setOutcome runId outcome).get runId = some record at found
  unfold RunRegistry.setOutcome at found
  rw [RunRegistry.get_setRecord, if_pos rfl, RunRecord.eq_of_pending (stands.getD_pending pending)] at found
  cases found
  rfl

theorem setError (stands : process.Stands runId phase) (pending : phase.state = .pending) (message : String) :
    (process.apply (.setError runId message)).Stands runId (.ended true) := by
  refine ⟨fun record found => ?_, trivial⟩
  change (process.registry.setError runId message).get runId = some record at found
  unfold RunRegistry.setError at found
  rw [RunRegistry.get_setRecord, if_pos rfl, RunRecord.eq_of_pending (stands.getD_pending pending)] at found
  cases found
  rfl

theorem inserted (stands : process.Stands runId .registered) {row : RunLogRow} (ofRun : row.id = runId) :
    (process.apply (.commit runId (.record row ofRun))).Stands runId (.working 0) := by
  obtain ⟨-, silent⟩ := stands.recorded
  refine ⟨stands.record, ?_, ?_⟩
  · change ((process.db.runs.put row).find? runId).isSome = true
    rw [KeyedTable.find?_put, if_pos ofRun]
    rfl
  · change advance 0 (process.db.listEvents runId) = some 0
    rw [silent]
    rfl

theorem events {rank next : ℕ} (stands : process.Stands runId (.working rank)) {rows : List AuditRow}
    (ofRun : ∀ row ∈ rows, row.runId = runId) (advanced : advance rank rows = some next) :
    (process.apply (.commit runId (.events rows ofRun))).Stands runId (.working next) := by
  obtain ⟨stored, trail⟩ := stands.recorded
  refine ⟨stands.record, stored, ?_⟩
  change advance 0 ((process.db.audit ++ rows).filter fun row => row.runId = runId) = some next
  rw [List.filter_append, List.filter_eq_self.mpr fun row member => decide_eq_true (ofRun row member)]
  change advance 0 (process.db.listEvents runId ++ rows) = some next
  rw [advance_append, trail, Option.bind_some, advanced]

theorem closed {rank : ℕ} (stands : process.Stands runId (.working rank)) (status : RunStatus)
    (summary : SummaryJson) (now : Timestamp) :
    (process.apply (.commit runId (.closed status summary now))).Stands runId (.working rank) := by
  obtain ⟨stored, trail⟩ := stands.recorded
  refine ⟨stands.record, ?_, ?_⟩
  · change ((process.db.finishRun runId status summary now).getRun runId).isSome = true
    unfold Database.finishRun Database.getRun
    split
    · next run found =>
      have id : run.id = runId := (KeyedTable.find?_eq_some_iff.mp found).2
      dsimp only
      rw [KeyedTable.find?_put, if_pos id]
      rfl
    · exact stored
  · change advance 0 ((process.db.finishRun runId status summary now).listEvents runId) = some rank
    rw [listEvents_finishRun, trail]

/-- A step that the run may take in its phase leaves it in the next one. -/
theorem apply (stands : process.Stands runId phase) {step : ProcessStep} (own : step.runId = runId)
    {next : WorkerPhase} (takes : workerNext phase step = some next) : (process.apply step).Stands runId next := by
  subst own
  cases step with
  | start started demo =>
    cases phase with
    | absent =>
      cases takes
      exact stands.start demo
    | registered | working | ended => cases takes
  | setOutcome ended outcome =>
    cases phase with
    | registered | working =>
      cases takes
      exact stands.setOutcome rfl outcome
    | absent | ended => cases takes
  | setError ended message =>
    cases phase with
    | registered | working =>
      cases takes
      exact stands.setError rfl message
    | absent | ended => cases takes
  | commit writer made =>
    cases made with
    | record row ofRun =>
      cases phase with
      | registered =>
        cases takes
        exact stands.inserted ofRun
      | absent | working | ended => cases takes
    | events rows ofRun =>
      cases phase with
      | working rank =>
        obtain ⟨reached, advanced, rfl⟩ := Option.map_eq_some_iff.mp takes
        exact stands.events ofRun advanced
      | absent | registered | ended => cases takes
    | closed status summary now =>
      cases phase with
      | working rank =>
        cases takes
        exact stands.closed status summary now
      | absent | registered | ended => cases takes

end Process.Stands

/-- Neither the registry nor the database knows the run. -/
structure Process.Fresh (runId : String) (process : Process) : Prop where
  unregistered : process.registry.get runId = none
  unrecorded : process.db.getRun runId = none
  silent : process.db.listEvents runId = []

theorem Process.run_append (process : Process) (first second : List ProcessStep) :
    process.run (first ++ second) = (process.run first).run second := List.foldl_append

theorem phaseOf_append (first second : List ProcessStep) :
    phaseOf runId (first ++ second) = (phaseOf runId first).bind fun phase =>
      (second.filter fun step => step.runId = runId).foldlM workerNext phase := by
  unfold phaseOf
  rw [List.filter_append, List.foldlM_append]
  rfl

/-- The phase after the first steps of an interleaving. -/
theorem phaseOf_prefix {first second : List ProcessStep} {phase : WorkerPhase}
    (ordered : phaseOf runId (first ++ second) = some phase) : ∃ early, phaseOf runId first = some early := by
  rw [phaseOf_append] at ordered
  obtain ⟨early, reached, -⟩ := Option.bind_eq_some_iff.mp ordered
  exact ⟨early, reached⟩

/-- A run that has ended takes no further step. -/
theorem phaseOf_ended {first second : List ProcessStep} {failed : Bool} {phase : WorkerPhase}
    (ended : phaseOf runId first = some (.ended failed))
    (ordered : phaseOf runId (first ++ second) = some phase) : phase = .ended failed := by
  rw [phaseOf_append, ended, Option.bind_some] at ordered
  cases own : second.filter fun step => step.runId = runId with
  | nil =>
    rw [own] at ordered
    cases ordered
    rfl
  | cons step rest =>
    rw [own, List.foldlM_cons] at ordered
    obtain ⟨next, takes, -⟩ := Option.bind_eq_some_iff.mp ordered
    cases step with
    | start | setOutcome | setError => cases takes
    | commit _ made => cases made <;> cases takes

/-- Whatever the other runs do, the process holds of a run what belongs to its phase. -/
theorem Process.Fresh.stands {process : Process} (fresh : process.Fresh runId) {steps : List ProcessStep}
    {phase : WorkerPhase} (ordered : phaseOf runId steps = some phase) : (process.run steps).Stands runId phase := by
  induction steps using List.reverseRecOn generalizing phase with
  | nil =>
    cases ordered
    refine ⟨fun record found => ?_, fresh.unrecorded, fresh.silent⟩
    rw [show process.run [] = process from rfl, fresh.unregistered] at found
    cases found
  | append_singleton steps step ih =>
    rw [phaseOf_append] at ordered
    obtain ⟨early, reached, takes⟩ := Option.bind_eq_some_iff.mp ordered
    rw [Process.run_append]
    change (Process.apply _ step).Stands runId phase
    by_cases own : step.runId = runId
    · have alone : [step].filter (fun step => step.runId = runId) = [step] :=
        List.filter_eq_self.mpr (List.forall_mem_singleton.mpr (decide_eq_true own))
      rw [alone, List.foldlM_cons] at takes
      obtain ⟨next, taken, finished⟩ := Option.bind_eq_some_iff.mp takes
      cases finished
      exact (ih reached).apply own taken
    · have none : [step].filter (fun step => step.runId = runId) = [] :=
        List.filter_eq_nil_iff.mpr (List.forall_mem_singleton.mpr (by rwa [decide_eq_true_eq]))
      rw [none] at takes
      cases takes
      exact (ih reached).apart (Process.apart_apply _ own)

/-! ## The feed only grows -/

/-- The events a pending poll ranks. -/
def Database.feed (db : Database) (runId : String) : List AuditRow :=
  match db.getRun runId with
  | some _ => db.listEvents runId
  | none => []

/-- A run record stays, and events are only added. -/
structure FeedGrows (runId : String) (before after : Database) : Prop where
  run : (before.getRun runId).isSome = true → (after.getRun runId).isSome = true
  events : before.listEvents runId <+: after.listEvents runId

theorem feedGrows_apply (process : Process) (step : ProcessStep) :
    FeedGrows runId process.db (process.apply step).db := by
  cases step with
  | start | setOutcome | setError => exact ⟨id, List.prefix_refl _⟩
  | commit writer made =>
    cases made with
    | record row ofRun =>
      refine ⟨fun stored => ?_, List.prefix_refl _⟩
      change ((process.db.runs.put row).find? runId).isSome = true
      rw [KeyedTable.find?_put]
      split
      · rfl
      · exact stored
    | events rows ofRun =>
      refine ⟨id, ?_⟩
      change _ <+: (process.db.audit ++ rows).filter _
      rw [List.filter_append]
      exact List.prefix_append ..
    | closed status summary now =>
      refine ⟨fun stored => ?_, ?_⟩
      · change ((process.db.finishRun writer status summary now).getRun runId).isSome = true
        by_cases own : writer = runId
        · subst own
          unfold Database.finishRun Database.getRun at *
          split
          · next run found =>
            dsimp only
            rw [KeyedTable.find?_put, if_pos (KeyedTable.find?_eq_some_iff.mp found).2]
            rfl
          · exact stored
        · rw [getRun_finishRun_other process.db own]
          exact stored
      · change _ <+: (process.db.finishRun writer status summary now).listEvents runId
        rw [listEvents_finishRun]

theorem feedGrows_run (process : Process) (steps : List ProcessStep) :
    FeedGrows runId process.db (process.run steps).db := by
  induction steps generalizing process with
  | nil => exact ⟨id, List.prefix_refl _⟩
  | cons step rest ih =>
    have first : FeedGrows runId process.db (process.apply step).db := feedGrows_apply process step
    have later := ih (process.apply step)
    exact ⟨fun stored => later.run (first.run stored), first.events.trans later.events⟩

/-- The rank of the feed never falls. -/
theorem FeedGrows.reachedRank {before after : Database} (grows : FeedGrows runId before after) :
    reachedRank (before.feed runId) ≤ reachedRank (after.feed runId) := by
  unfold Database.feed
  cases stored : before.getRun runId with
  | none => exact Nat.zero_le _
  | some run =>
    obtain ⟨kept, found⟩ := Option.isSome_iff_exists.mp (grows.run (by rw [stored]; rfl))
    obtain ⟨added, events⟩ := grows.events
    rw [found]
    dsimp only
    rw [← events, reachedRank_append]
    exact Nat.le_max_left ..

/-- What an answer says about the phase in which the registry was read. -/
theorem answered {registry : RunRegistry} {db : Database} {phase : WorkerPhase} {info : ProgressInfo}
    (holds : ∀ record, registry.get runId = some record → record.state = phase.state)
    (answers : computeProgress registry db runId = some info) :
    (phase.state = .pending ∧ info = pendingProgress (db.feed runId)) ∨
      ∃ failed, phase = .ended failed ∧ info = endedProgress runId failed := by
  unfold computeProgress RunRegistry.state at answers
  cases found : registry.get runId with
  | none =>
    rw [found] at answers
    cases answers
  | some record =>
    rw [found] at answers
    dsimp only at answers
    rw [holds record found] at answers
    cases phase with
    | absent => cases answers
    | registered | working =>
      cases answers
      exact .inl ⟨rfl, rfl⟩
    | ended failed =>
      cases failed with
      | false | true =>
        cases answers
        exact .inr ⟨_, rfl, rfl⟩

/-- What a poll answers in a phase. -/
def WorkerPhase.Shows (runId : String) : WorkerPhase → ProgressInfo → Prop
  | absent, _ => False
  | registered, info => info = pendingProgress []
  | working rank, info => info.done = false ∧ info.percent = percentOf rank ∧ (rank ≠ 5 → info.label = phaseLabel rank)
  | ended failed, info => info = endedProgress runId failed

theorem percent_le (events : List AuditRow) : (pendingProgress events).percent ≤ 100 := by
  refine (percentOf_mono (reachedRank_le events)).trans ?_
  rw [percentOf_eq]
  decide

/-- Two polls of a run, the second behind the first, with any steps of any runs between their reads: the
later answer is no less far, and an answer that said done is repeated. -/
theorem polls_never_regress {process : Process} (fresh : process.Fresh runId)
    {first second third fourth : List ProcessStep} {phase : WorkerPhase}
    (ordered : phaseOf runId (first ++ second ++ third ++ fourth) = some phase) {early late : ProgressInfo}
    (polled : process.pollAcross first second runId = some early)
    (again : process.pollAcross (first ++ second ++ third) fourth runId = some late) :
    early.percent ≤ late.percent ∧ (early.done = true → late = early) := by
  obtain ⟨latePhase, lateOrdered⟩ := phaseOf_prefix ordered
  have joined := lateOrdered
  rw [List.append_assoc] at joined
  obtain ⟨earlyPhase, earlyOrdered⟩ := phaseOf_prefix joined
  have seen := answered (fresh.stands earlyOrdered).record polled
  have seenAgain := answered (fresh.stands lateOrdered).record again
  rcases seen with ⟨-, rfl⟩ | ⟨failed, ended, rfl⟩
  · refine ⟨?_, nofun⟩
    rcases seenAgain with ⟨-, rfl⟩ | ⟨failed, -, rfl⟩
    · refine percentOf_mono (FeedGrows.reachedRank ?_)
      rw [List.append_assoc (first ++ second), Process.run_append process (first ++ second)]
      exact feedGrows_run _ _
    · exact percent_le _
  · have same := phaseOf_ended (ended ▸ earlyOrdered) joined
    rcases seenAgain with ⟨pending, -⟩ | ⟨failed', ended', rfl⟩
    · rw [same] at pending
      cases failed <;> cases pending
    · rw [same] at ended'
      cases ended'
      exact ⟨le_refl _, fun _ => rfl⟩

/-- A process that has served nobody. -/
def newProcess : Process := ⟨{}, {}⟩

theorem fresh_newProcess (runId : String) : newProcess.Fresh runId := ⟨rfl, rfl, rfl⟩

/-- A run whose record is committed, next to one that is only registered. -/
def recordedSteps : List ProcessStep :=
  [.start "first" false, .start "second" true, .commit "first" (.record { id := "first", startedAt := 0 } rfl)]

/-- The key matching of the first run, and the end of the second one. -/
def matchedSteps : List ProcessStep :=
  [.commit "first" (.events [{ runId := "first", eventType := "reconcile_completed", ts := 1 }]
      (List.forall_mem_singleton.mpr rfl)),
    .setError "second" "worker failed"]

theorem polls_never_regress_matched : ∃ early late,
    newProcess.pollAcross recordedSteps [] "first" = some early ∧
      newProcess.pollAcross (recordedSteps ++ [] ++ []) matchedSteps "first" = some late ∧
      early.percent ≤ late.percent ∧ (early.done = true → late = early) := by
  have ordered : phaseOf "first" (recordedSteps ++ [] ++ [] ++ matchedSteps) = some (.working 1) := by decide
  exact ⟨_, _, rfl, rfl, polls_never_regress (fresh_newProcess "first") ordered rfl rfl⟩

/-- The call a step makes on the registry. -/
def ProcessStep.call? : ProcessStep → Option RegistryCall
  | start runId demo => some (.start runId demo)
  | setOutcome runId outcome => some (.setOutcome runId outcome)
  | setError runId message => some (.setError runId message)
  | commit _ _ => none

theorem registry_run (process : Process) (steps : List ProcessStep) :
    (process.run steps).registry = process.registry.run (steps.filterMap ProcessStep.call?) := by
  induction steps generalizing process with
  | nil => rfl
  | cons step rest ih =>
    have later := ih (process.apply step)
    cases step with
    | commit | start | setOutcome | setError => exact later

/-- The runs that are registered or ended in some steps. -/
def touchedIds (steps : List ProcessStep) : List String := writtenIds (steps.filterMap ProcessStep.call?)

theorem mem_touchedIds {steps : List ProcessStep} (touched : runId ∈ touchedIds steps) :
    ∃ step ∈ steps, step.runId = runId := by
  obtain ⟨call, member, written⟩ := List.mem_filterMap.mp touched
  obtain ⟨step, present, made⟩ := List.mem_filterMap.mp member
  refine ⟨step, present, ?_⟩
  cases step with
  | commit => cases made
  | start | setOutcome | setError =>
    cases made
    exact Option.some.inj written

namespace WorkerEnd

def failed : WorkerEnd → Bool
  | returned _ => false
  | raised _ => true

def record : WorkerEnd → RunRecord → RunRecord
  | returned outcome, record => { record with outcome := some outcome }
  | raised message, record => { record with error := some message }

/-- The page of a run that has ended. -/
def page (demo : Bool) : WorkerEnd → ResultsPage
  | returned outcome => .results outcome demo
  | raised message => .failed ((truthy (some message)).getD "The run failed unexpectedly.")

end WorkerEnd

theorem registry_apply_end (process : Process) (ended : WorkerEnd) :
    (process.apply (ended.step runId)).registry = process.registry.setRecord runId ended.record := by
  cases ended <;> rfl

/-- A worker ends a pending run. -/
theorem workerNext_end {ended : WorkerEnd} {phase next : WorkerPhase}
    (takes : workerNext phase (ended.step runId) = some next) :
    phase.state = .pending ∧ next = .ended ended.failed := by
  cases ended with
  | returned | raised =>
    cases phase with
    | absent | ended => cases takes
    | registered | working =>
      cases takes
      exact ⟨rfl, rfl⟩

/-- The answers about a record that a worker ended. -/
theorem answers_of_ended {registry : RunRegistry} {ended : WorkerEnd} {demo : Bool}
    (found : registry.get runId = some (ended.record { demo })) (db : Database) :
    resultsPage registry runId = ended.page demo ∧
      computeProgress registry db runId = some (endedProgress runId ended.failed) := by
  unfold resultsPage computeProgress RunRegistry.state
  rw [found]
  cases ended with
  | returned | raised => exact ⟨rfl, rfl⟩

/-- Where a run stands right before its worker ends it, and how its last steps fall to other runs. -/
theorem phaseOf_end {first second : List ProcessStep} {ended : WorkerEnd} {phase : WorkerPhase}
    (ordered : phaseOf runId (first ++ ended.step runId :: second) = some phase) :
    (∃ before, phaseOf runId first = some before ∧ before.state = .pending) ∧
      runId ∉ touchedIds second := by
  have own : (ended.step runId).runId = runId := by cases ended <;> rfl
  rw [phaseOf_append] at ordered
  obtain ⟨before, reached, ordered⟩ := Option.bind_eq_some_iff.mp ordered
  have split : (ended.step runId :: second).filter (fun step => step.runId = runId) =
      ended.step runId :: second.filter fun step => step.runId = runId := by
    rw [List.filter_cons, if_pos (decide_eq_true own)]
  rw [split, List.foldlM_cons] at ordered
  obtain ⟨next, takes, ordered⟩ := Option.bind_eq_some_iff.mp ordered
  obtain ⟨pending, rfl⟩ := workerNext_end takes
  refine ⟨⟨before, reached, pending⟩, fun touched => ?_⟩
  obtain ⟨step, member, own⟩ := mem_touchedIds touched
  have present : step ∈ second.filter fun step => step.runId = runId :=
    List.mem_filter.mpr ⟨member, decide_eq_true own⟩
  cases later : second.filter fun step => step.runId = runId with
  | nil =>
    rw [later] at present
    cases present
  | cons other rest =>
    rw [later, List.foldlM_cons] at ordered
    obtain ⟨third, takes, -⟩ := Option.bind_eq_some_iff.mp ordered
    cases other with
    | start | setOutcome | setError => cases takes
    | commit _ made => cases made <;> cases takes

/-- The page of a finished run shows what its own worker left, or the run is gone; it is still there as long
as fewer other runs were registered or ended since than the registry has entries. -/
theorem finished_page {process : Process} (fresh : process.Fresh runId) (ended : WorkerEnd)
    {first second : List ProcessStep} {phase : WorkerPhase}
    (ordered : phaseOf runId (first ++ ended.step runId :: second) = some phase) :
    let left := process.run (first ++ ended.step runId :: second)
    (left.page runId = .notFound ∨ ∃ demo, left.page runId = ended.page demo) ∧
      ((touchedIds second).toFinset.card < process.registry.maxEntries →
        (∃ demo, left.page runId = ended.page demo) ∧
          left.poll runId = some (endedProgress runId ended.failed)) := by
  intro left
  obtain ⟨⟨before, reached, pending⟩, others⟩ := phaseOf_end ordered
  have stands := fresh.stands reached
  have old := RunRecord.eq_of_pending (stands.getD_pending pending)
  have whole : left.registry = ((process.run first).registry.setRecord runId ended.record).run
      (second.filterMap ProcessStep.call?) := by
    rw [← registry_apply_end, ← registry_run]
    exact congrArg Process.registry (Process.run_append process first _)
  have written := RunRegistry.get_setRecord (process.run first).registry runId runId ended.record
  rw [if_pos rfl, old] at written
  constructor
  · rcases RunRegistry.get_run_others _ others with same | gone
    · rw [written, ← whole] at same
      exact .inr ⟨_, (answers_of_ended same left.db).1⟩
    · rw [← whole] at gone
      refine .inl ?_
      unfold Process.page resultsPage
      rw [gone]
  · intro few
    have kept := RunRegistry.get_run_of_setRecord (process.run first).registry runId ended.record others (by
      rwa [registry_run, RunRegistry.maxEntries_run])
    rw [old, ← whole] at kept
    exact ⟨⟨_, (answers_of_ended kept left.db).1⟩, (answers_of_ended kept left.db).2⟩

theorem finished_page_second :
    let left := newProcess.run (recordedSteps ++ WorkerEnd.step "second" (.raised "worker failed") ::
      [.setError "first" "stopped"])
    ∃ demo, left.page "second" = (WorkerEnd.raised "worker failed").page demo := by
  have ordered : phaseOf "second" (recordedSteps ++ WorkerEnd.step "second" (.raised "worker failed") ::
      [.setError "first" "stopped"]) = some (.ended true) := by decide
  exact ((finished_page (fresh_newProcess "second") _ ordered).2 (by decide)).1

/-! ## The steps of a run -/

/-- Audit rows of one run that are committed together. -/
abbrev Batch (runId : String) : Type := {rows : List AuditRow // ∀ row ∈ rows, row.runId = runId}

/-- The commits of a run whose record was inserted, with its events in batches. -/
def runCommits (row : RunLogRow) (ofRun : row.id = runId) (batches : List (Batch runId)) (status : RunStatus)
    (summary : SummaryJson) (now : Timestamp) : List (WorkerCommit runId) :=
  .record row ofRun :: (batches.map (fun batch => .events batch.1 batch.2) ++ [.closed status summary now])

theorem advance_batches {rank reached : ℕ} {batches : List (Batch runId)}
    (advanced : advance rank (batches.flatMap Subtype.val) = some reached) :
    (batches.map fun batch => ProcessStep.commit runId (.events batch.1 batch.2)).foldlM workerNext (.working rank) =
      some (.working reached) := by
  induction batches generalizing rank with
  | nil =>
    cases advanced
    rfl
  | cons batch rest ih =>
    rw [List.flatMap_cons, advance_append] at advanced
    obtain ⟨next, first, later⟩ := Option.bind_eq_some_iff.mp advanced
    rw [List.map_cons, List.foldlM_cons]
    change ((advance rank batch.1).map WorkerPhase.working).bind _ = _
    rw [first]
    exact ih later

theorem runId_threadSteps {commits : List (WorkerCommit runId)} {ended : WorkerEnd} :
    ∀ step ∈ threadSteps runId commits ended, step.runId = runId := by
  intro step member
  rcases List.mem_append.mp member with commit | last
  · obtain ⟨made, -, rfl⟩ := List.mem_map.mp commit
    rfl
  · rw [List.mem_singleton.mp last]
    cases ended <;> rfl

/-- Events in pipeline order take a registered run to its end, in whatever batches they are committed. -/
theorem threadSteps_end {row : RunLogRow} {ofRun : row.id = runId} {batches : List (Batch runId)} {reached : ℕ}
    (advanced : advance 0 (batches.flatMap Subtype.val) = some reached) (status : RunStatus)
    (summary : SummaryJson) (now : Timestamp) (ended : WorkerEnd) :
    (threadSteps runId (runCommits row ofRun batches status summary now) ended).foldlM workerNext .registered =
      some (.ended ended.failed) := by
  unfold threadSteps runCommits
  rw [List.map_cons, List.map_append, List.map_map, List.cons_append]
  change (_ ++ [ProcessStep.commit runId (.closed status summary now)] ++ [ended.step runId]).foldlM workerNext
    (.working 0) = _
  rw [List.append_assoc, List.foldlM_append]
  change ((batches.map fun batch => ProcessStep.commit runId (.events batch.1 batch.2)).foldlM workerNext
    (.working 0)).bind _ = _
  rw [advance_batches advanced]
  cases ended <;> rfl

theorem phaseOf_workerSteps (demo : Bool) (commits : List (WorkerCommit runId)) (ended : WorkerEnd) :
    phaseOf runId (workerSteps runId demo commits ended) =
      (threadSteps runId commits ended).foldlM workerNext .registered := by
  have own : (workerSteps runId demo commits ended).filter (fun step => step.runId = runId) =
      workerSteps runId demo commits ended :=
    List.filter_eq_self.mpr (List.forall_mem_cons.mpr
      ⟨decide_eq_true rfl, fun step member => decide_eq_true (runId_threadSteps step member)⟩)
  unfold phaseOf
  rw [own]
  rfl

theorem db_run_batches (process : Process) (batches : List (Batch runId)) :
    (process.run (batches.map fun batch => ProcessStep.commit runId (.events batch.1 batch.2))).db =
      { process.db with audit := process.db.audit ++ batches.flatMap Subtype.val } := by
  induction batches generalizing process with
  | nil =>
    rw [List.flatMap_nil, List.append_nil]
    rfl
  | cons batch rest ih =>
    rw [List.flatMap_cons, ← List.append_assoc]
    exact ih (process.apply (.commit runId (.events batch.1 batch.2)))

/-- What the steps of a worker leave in the database. -/
theorem db_threadSteps (process : Process) {row : RunLogRow} (ofRun : row.id = runId) (batches : List (Batch runId))
    (status : RunStatus) (summary : SummaryJson) (now : Timestamp) (ended : WorkerEnd) :
    (process.run (threadSteps runId (runCommits row ofRun batches status summary now) ended)).db =
      ({ process.db with
          runs := process.db.runs.put row
          audit := process.db.audit ++ batches.flatMap Subtype.val } : Database).finishRun runId status summary now := by
  let inserted := process.apply (.commit runId (.record row ofRun))
  have batched := db_run_batches inserted batches
  have steps : threadSteps runId (runCommits row ofRun batches status summary now) ended =
      .commit runId (.record row ofRun) ::
        ((batches.map fun batch => ProcessStep.commit runId (.events batch.1 batch.2)) ++
          [.commit runId (.closed status summary now), ended.step runId]) := by
    unfold threadSteps runCommits
    rw [List.map_cons, List.map_append, List.map_map, List.cons_append, List.append_assoc]
    rfl
  rw [steps]
  change (Process.run inserted _).db = _
  rw [Process.run_append]
  generalize inserted.run _ = between at batched ⊢
  have closes : (between.run [.commit runId (.closed status summary now), ended.step runId]).db =
      between.db.finishRun runId status summary now := by
    cases ended <;> rfl
  rw [closes, batched]
  rfl

variable {ω : Type}

theorem runs_finishRun {first second : Database} (same : first.runs = second.runs) (closed : String)
    (status : RunStatus) (summary : SummaryJson) (now : Timestamp) :
    (first.finishRun closed status summary now).runs = (second.finishRun closed status summary now).runs := by
  unfold Database.finishRun
  rw [same]
  split
  · rfl
  · exact same

/-- A run whose id is new returns, and closes the record it started with. -/
theorem run_closes_record (deps : AgentDependencies ω) (request : RunRequest) (before : Sys ω)
    (fresh : before.db.runs.find? (chosenRunId deps.host request before.world) = none) :
    ∃ outcome after status summary now, (ReconciliationAgent.run deps request).run before = .ok outcome after ∧
      after.db.runs = ((startedSys deps request before).db.finishRun
        (chosenRunId deps.host request before.world) status summary now).runs := by
  have kept := graphRun_keeps deps request before
  cases graph : graphRun deps request before with
  | ok final ended =>
    rw [graph] at kept
    refine ⟨_, _, .completed, finalSummary final, deps.host.now ended.world, run_of_graph_returns fresh graph, ?_⟩
    exact runs_finishRun kept.runs _ _ _ _
  | error raised ended =>
    rw [graph] at kept
    obtain ⟨incident, written, mailed, outcome, after, ran, recorded⟩ := handleFailure_recorded kept raised
    rw [run_of_graph_raises fresh graph]
    refine ⟨outcome, after, .failed, .failure raised.text incident.incidentId, deps.host.now mailed.world, ran, ?_⟩
    obtain ⟨between, attempted, mails⟩ := notifyAdmin_returns deps.incidents deps.host incident written
    rw [recorded.attempted] at attempted
    cases attempted
    have stored : written.db.runs = ended.db.runs := by
      have created := recorded.created
      cases created
      rfl
    have finished := recorded.finished
    cases finished
    exact runs_finishRun (mails.runs.trans (stored.trans kept.runs)) _ _ _ _

/-- A run that raises has found its id taken. -/
theorem db_of_run_raises {deps : AgentDependencies ω} {request : RunRequest} {before after : Sys ω} {raised : Raised}
    (ran : (ReconciliationAgent.run deps request).run before = .error raised after) : after.db = before.db := by
  cases fresh : before.db.runs.find? (chosenRunId deps.host request before.world) with
  | some row =>
    rw [run_of_taken fresh] at ran
    cases ran
    rfl
  | none =>
    obtain ⟨outcome, ended, status, summary, now, returned, -⟩ := run_closes_record deps request before fresh
    cases returned.symm.trans ran

/-- The steps of a worker whose run returns, with its events in any batches, write what the run wrote. -/
theorem run_commits {deps : AgentDependencies ω} {request : RunRequest} {before after : Sys ω} {outcome : RunOutcome}
    (ran : (ReconciliationAgent.run deps request).run before = .ok outcome after) :
    let runId := chosenRunId deps.host request before.world
    ∃ rows reached status summary now, (∀ row ∈ rows, row.runId = runId) ∧ advance 0 rows = some reached ∧
      ∀ (process : Process) (batches : List (Batch runId)), process.db.runs = before.db.runs →
        process.db.audit = before.db.audit → batches.flatMap Subtype.val = rows →
        let left := process.run (threadSteps runId
          (runCommits (startedRow deps request before) rfl batches status summary now) (.returned outcome))
        after.db.runs = left.db.runs ∧ after.db.audit = left.db.audit := by
  intro runId
  have fresh : before.db.runs.find? runId = none := by
    refine Option.eq_none_iff_forall_ne_some.mpr fun row found => ?_
    cases (run_of_taken found).symm.trans ran
  obtain ⟨outcome', ended, status, summary, now, returned, written⟩ := run_closes_record deps request before fresh
  cases returned.symm.trans ran
  obtain ⟨rows, reached, audit, own, advanced⟩ := trail_of_run deps request before
  rw [ran, finalState_ok] at audit
  refine ⟨rows, reached, status, summary, now, own, advanced, fun process batches runs events split => ?_⟩
  subst split
  have left := db_threadSteps process (show (startedRow deps request before).id = runId from rfl) batches status
    summary now (.returned outcome)
  dsimp only
  rw [left, written, audit]
  constructor
  · refine runs_finishRun ?_ _ _ _ _
    exact congrArg (fun table => KeyedTable.put table (startedRow deps request before)) runs.symm
  · rw [← events]
    unfold Database.finishRun
    split <;> rfl

end ReconcileFlow
