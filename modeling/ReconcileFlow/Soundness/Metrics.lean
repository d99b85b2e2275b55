import ReconcileFlow.Model.Metrics
import ReconcileFlow.Soundness.FinishedRuns

/-! # Incident files and metrics over a history

Whatever an incident quotes, its files are read back as they were written: the escapes keep every line on one
line (`incident_files_faithful`). So the metrics can count the incidents from the text of the file, and over
every history they add up: one row in the run log for each run that starts, one open incident for each that
fails (`metrics_over_history`).
-/

namespace ReconcileFlow

open EffectRun ReconciliationAgent ScheduledRun JsonLines

variable {ω : Type}

section Files

variable (isoformat : Timestamp → String)

theorem numberless_jsonOptional (text : Option String) : Numberless (jsonOptional text) := by
  cases text <;> trivial

theorem numberless_toJsonDict (incident : Incident) : Numberless (incident.toJsonDict isoformat) :=
  ⟨trivial, trivial, trivial, trivial, trivial, trivial, trivial, numberless_jsonOptional _,
    numberless_jsonOptional _, trivial⟩

theorem jsonText_injective : Function.Injective jsonText := by
  intro first second same
  unfold jsonText at same
  exact String.toList_inj.mp (Json.str.inj same)

theorem jsonOptional_injective : Function.Injective jsonOptional := by
  intro first second same
  cases first with
  | none =>
    cases second with
    | none => rfl
    | some text => cases same
  | some text =>
    cases second with
    | none => cases same
    | some text' => exact congrArg some (jsonText_injective same)

theorem IncidentSeverity.value_injective : Function.Injective IncidentSeverity.value := by
  intro first second same
  cases first <;> cases second <;> first | rfl | exact absurd same (by decide)

theorem FailureType.value_injective : Function.Injective FailureType.value := by
  intro first second same
  cases first <;> cases second <;> first | rfl | exact absurd same (by decide)

/-- The dictionary of an incident holds all that is in it. -/
theorem toJsonDict_injective (distinct : Function.Injective isoformat) :
    Function.Injective (Incident.toJsonDict isoformat) := by
  intro first second same
  unfold Incident.toJsonDict at same
  simp only [Json.obj.injEq, List.cons.injEq, Prod.mk.injEq, true_and, and_true] at same
  obtain ⟨incidentId, runId, severity, failureType, rootCause, timestamp, remediation, orderId⟩ := same
  cases first
  cases second
  congr
  · exact jsonText_injective incidentId
  · exact jsonText_injective runId
  · exact IncidentSeverity.value_injective (jsonText_injective severity)
  · exact FailureType.value_injective (jsonText_injective failureType)
  · exact jsonText_injective rootCause
  · exact distinct (jsonText_injective timestamp)
  · exact jsonOptional_injective remediation
  · exact jsonOptional_injective orderId

theorem splitLines_stream (incidents : List Incident) : splitLines (incidentStreamText isoformat incidents) =
    incidents.map fun incident => dumps .compact (incident.toJsonDict isoformat) := by
  unfold incidentStreamText
  rw [splitLines_fileOf (List.forall_mem_map.mpr fun incident _ => numberless_toJsonDict isoformat incident),
    List.map_map]
  rfl

/-- The lines of the stream are the dictionaries of its incidents. -/
theorem loads_stream (incidents : List Incident) :
    (splitLines (incidentStreamText isoformat incidents)).mapM loads =
      some (incidents.map (Incident.toJsonDict isoformat)) := by
  have read : (loads ∘ fun incident : Incident => dumps .compact (incident.toJsonDict isoformat)) =
      fun incident => pure (incident.toJsonDict isoformat) := by
    funext incident
    rw [Function.comp_apply, loads_dumps compact_blank (numberless_toJsonDict isoformat incident)]
    rfl
  rw [splitLines_stream, List.mapM_map, read, List.mapM_pure]
  rfl

/-- Both files of incidents keep all that is in them, whatever characters the texts have: the stream holds one
line for each incident, every line and every file of its own loads to the dictionary that was dumped, and
two lists of incidents with one stream are the same list. -/
theorem incident_files_faithful (distinct : Function.Injective isoformat) (incidents : List Incident) :
    (splitLines (incidentStreamText isoformat incidents)).mapM loads =
        some (incidents.map (Incident.toJsonDict isoformat)) ∧
      (∀ incident ∈ incidents, loads (incidentFileText isoformat incident) = some (incident.toJsonDict isoformat)) ∧
      ∀ others, incidentStreamText isoformat others = incidentStreamText isoformat incidents → others = incidents := by
  refine ⟨loads_stream isoformat incidents, fun incident _ => ?_, fun others same => ?_⟩
  · exact loads_dumps (indented_blank 2) (numberless_toJsonDict isoformat incident)
  · have read := loads_stream isoformat others
    rw [same, loads_stream isoformat incidents] at read
    exact (toJsonDict_injective isoformat distinct).list_map (Option.some.inj read).symm

/-- An incident that quotes line breaks, quotes, a backslash and a character beyond the basic plane. -/
def quotingIncident : Incident where
  incidentId := "inc-1"
  runId := "run-1"
  severity := .high
  failureType := .plannerError
  rootCause := "row 1: \"a\\b\"\r\nrow 2: \u2028😀"
  timestamp := 0

theorem incident_files_faithful_quoting :
    (splitLines (incidentStreamText toString [quotingIncident, quotingIncident])).mapM loads =
        some ([quotingIncident, quotingIncident].map (Incident.toJsonDict toString)) ∧
      loads (incidentFileText toString quotingIncident) = some (quotingIncident.toJsonDict toString) := by
  have distinct : Function.Injective (toString : Timestamp → String) := by
    intro first second same
    have digits : Nat.toDigits 10 first = Nat.toDigits 10 second := by
      rw [← Nat.toList_repr, ← Nat.toList_repr]
      exact congrArg String.toList same
    rw [← Nat.ofDigitChars_ten_toDigits (n := first), digits, Nat.ofDigitChars_ten_toDigits]
  obtain ⟨stream, files, -⟩ := incident_files_faithful toString distinct [quotingIncident, quotingIncident]
  exact ⟨stream, files quotingIncident (List.mem_cons_self ..)⟩

/-- A line that holds an object has no blanks around it. -/
theorem strip_dumps (incident : Incident) :
    strip (dumps .compact (incident.toJsonDict isoformat)) = dumps .compact (incident.toJsonDict isoformat) := by
  have ends : ∃ inner, dumps .compact (incident.toJsonDict isoformat) = '{' :: (inner ++ ['}']) := ⟨_, rfl⟩
  obtain ⟨inner, text⟩ := ends
  rw [text]
  unfold strip
  rw [List.dropWhile_cons_of_neg (by decide), ← List.cons_append, List.rdropWhile_concat_neg _ _ _ (by decide)]

theorem lineStatus_dumps (incident : Incident) :
    lineStatus (dumps .compact (incident.toJsonDict isoformat)) = some "OPEN" := by
  unfold lineStatus
  rw [loads_dumps compact_blank (numberless_toJsonDict isoformat incident)]
  rfl

/-- How often a text is counted. -/
def tally (counts : List (String × ℕ)) (text : String) : ℕ := (counts.lookup text).getD 0

/-- How many texts are counted. -/
def total (counts : List (String × ℕ)) : ℕ := (counts.map Prod.snd).sum

theorem counter_eq (texts : List String) :
    counter texts = texts.eraseDups.map fun text => (text, texts.count text) := by
  unfold counter
  rw [KeyedTable.rows_group, List.map_map, List.filterMap_some]
  refine List.map_congr_left fun text _ => ?_
  rw [Function.comp_apply, List.count_eq_length_filter]
  congr 2
  refine List.filter_congr fun other _ => ?_
  rw [beq_eq_decide, decide_eq_decide, Option.some.injEq]

theorem tally_counter (texts : List String) (text : String) : tally (counter texts) text = texts.count text := by
  unfold tally
  rw [counter_eq]
  by_cases seen : text ∈ texts
  · rw [List.lookup_graph _ (List.mem_eraseDups.mpr seen)]
    rfl
  · rw [List.count_eq_zero_of_not_mem seen, List.lookup_eq_none_iff.mpr]
    · rfl
    · intro entry member
      obtain ⟨other, present, rfl⟩ := List.mem_map.mp member
      have different : text ≠ other := fun same => seen (same ▸ List.mem_eraseDups.mp present)
      exact bne_iff_ne.mpr different

theorem total_counter (texts : List String) : total (counter texts) = texts.length := by
  have grouped : ((KeyedTable.group some texts).rows.flatMap Prod.snd).Perm texts :=
    KeyedTable.flatMap_group_perm (fun _ => rfl) texts
  rw [← grouped.length_eq, List.length_flatMap]
  unfold total counter
  rw [List.map_map]
  rfl

/-- Whatever the incidents quote, counting the lines of the stream counts the incidents. -/
theorem countByStatus_stream (incidents : List Incident) :
    countByStatus (incidentStreamText isoformat incidents) = some (counter (incidents.map fun _ => "OPEN")) := by
  have read : (lineStatus ∘ fun incident : Incident => dumps .compact (incident.toJsonDict isoformat)) =
      fun _ => pure "OPEN" := by
    funext incident
    rw [Function.comp_apply, lineStatus_dumps]
    rfl
  have stripped : (strip ∘ fun incident : Incident => dumps .compact (incident.toJsonDict isoformat)) =
      fun incident => dumps .compact (incident.toJsonDict isoformat) := by
    funext incident
    rw [Function.comp_apply, strip_dumps]
  unfold countByStatus
  rw [splitLines_stream, List.map_map, stripped, List.filter_eq_self.mpr, List.mapM_map, read, List.mapM_pure]
  · rfl
  · intro line member
    obtain ⟨incident, -, rfl⟩ := List.mem_map.mp member
    exact decide_eq_true (List.cons_ne_nil _ _)

end Files

/-! ## Histories -/

/-- How a run ends; a run whose id exists raises, and has no outcome. -/
def ending (run : ScheduledRun ω) (sys : Sys ω) : Option RunStatus :=
  match (ReconciliationAgent.run run.deps run.request).run (run.finds sys) with
  | .ok outcome _ => some outcome.status
  | .error _ _ => none

/-- How the runs of a history end, those without an outcome left out. -/
def endings : Sys ω → List (ScheduledRun ω) → List RunStatus
  | _, [] => []
  | sys, run :: later => (ending run sys).toList ++ endings (run.leaves sys) later

/-- No log lost what the metrics count in it. -/
structure LogsKept (before after : Sys ω) : Prop where
  sent : SentKept before after
  pairs : ∀ row ∈ before.db.notifications.rows, ∃ row' ∈ after.db.notifications.rows, row'.pair = row.pair
  exceptions : RowsKept before after

/-- A dispatch takes no pair out of the log. -/
theorem DispatchEnds.pairsKept {host : Host ω} {call : DispatchCall} {before : Sys ω}
    {ended : EStateM.Result Raised (Sys ω) SendResult} (ends : DispatchEnds host call before ended) :
    ∀ row ∈ before.db.notifications.rows, ∃ row' ∈ (finalState ended).db.notifications.rows, row'.pair = row.pair := by
  intro row member
  cases ends with
  | duplicate notified => exact ⟨row, member, rfl⟩
  | @recorded result between new notNotified calls sends =>
    by_cases same : row.pair = (call.mismatchKey, call.recipientEmail)
    · exact ⟨call.row result (host.now between.world), KeyedTable.mem_put.mpr (.inl rfl), same.symm⟩
    · exact ⟨row, KeyedTable.mem_put.mpr (.inr ⟨member, same⟩), rfl⟩
  | escaped notNotified unexpected fails =>
    rw [finalState_error, fails.db]
    exact ⟨row, member, rfl⟩

namespace LogsKept

theorem of_logs {before after : Sys ω} (notifications : after.db.notifications = before.db.notifications)
    (exceptions : RowsKept before after) : LogsKept before after where
  sent _ member _ := notifications ▸ member
  pairs row member := ⟨row, notifications ▸ member, rfl⟩
  exceptions := exceptions

instance : IsPreorder (Sys ω) LogsKept where
  refl _ := .of_logs rfl (.of_exceptions rfl)
  trans before between after first second := by
    refine ⟨first.sent.trans second.sent, fun row member => ?_, trans_of RowsKept first.exceptions second.exceptions⟩
    obtain ⟨row', stored, pair⟩ := first.pairs row member
    obtain ⟨row'', last, lastPair⟩ := second.pairs row' stored
    exact ⟨row'', last, lastPair.trans pair⟩

theorem nodeFrame : NodeFrame (LogsKept : Sys ω → Sys ω → Prop) where
  world sys world := .of_logs rfl (rowsKept_nodeFrame.world sys world)
  rollback kept := .of_logs rfl (rowsKept_nodeFrame.rollback kept.exceptions)
  audit sys event now := .of_logs rfl (rowsKept_nodeFrame.audit sys event now)
  judge sys call asked := .of_logs rfl (rowsKept_nodeFrame.judge sys call asked)

theorem lifecycleFrame : LifecycleFrame (LogsKept : Sys ω → Sys ω → Prop) where
  upsert sys mismatchKey runId reason status now :=
    .of_logs rfl (rowsKept_lifecycleFrame.upsert sys mismatchKey runId reason status now)
  sweep sys runId currentKeys now := .of_logs rfl (rowsKept_lifecycleFrame.sweep sys runId currentKeys now)

theorem runFrame : RunFrame (LogsKept : Sys ω → Sys ω → Prop) where
  runs sys runs := .of_logs rfl (rowsKept_runFrame.runs sys runs)
  incident sys files stream := .of_logs rfl (rowsKept_runFrame.incident sys files stream)
  stored sys incident := .of_logs rfl (rowsKept_runFrame.stored sys incident)

theorem mailsWithin (service : NotificationService ω) (host : Host ω) (runId : String) :
    MailsWithin LogsKept service host runId := by
  intro call _ sys
  have ends := dispatch_cases service host call sys
  exact ⟨ends.sentKept, ends.pairsKept, rowsKept_nodeFrame.mailsWithin rowsKept_mailFrame service host call.runId call rfl sys⟩

/-- The logs are kept by every run, whatever its dependencies are. -/
theorem of_run (deps : AgentDependencies ω) (request : RunRequest) (before : Sys ω) :
    LogsKept before (finalState ((ReconciliationAgent.run deps request).run before)) :=
  run_keeps nodeFrame.session (nodeFrame.graph _) (nodeFrame.host _) lifecycleFrame runFrame request before
    (mailsWithin _ _ _) fun notifications _ => mailsWithin notifications _ _

end LogsKept

/-- So many runs were recorded, so many incidents were written, and no log lost anything. -/
structure Counted (before after : Sys ω) (runs incidents : ℕ) : Prop where
  runs : after.db.runs.rows.length = before.db.runs.rows.length + runs
  incidents : after.incidentStream.length = before.incidentStream.length + incidents
  logs : LogsKept before after

namespace Counted

theorem of_world (sys : Sys ω) (world : ω) : Counted sys { sys with world } 0 0 :=
  ⟨rfl, rfl, LogsKept.nodeFrame.world sys world⟩

theorem add {before between after : Sys ω} {runs moreRuns incidents moreIncidents : ℕ}
    (first : Counted before between runs incidents) (second : Counted between after moreRuns moreIncidents) :
    Counted before after (runs + moreRuns) (incidents + moreIncidents) where
  runs := by rw [second.runs, first.runs, Nat.add_assoc]
  incidents := by rw [second.incidents, first.incidents, Nat.add_assoc]
  logs := trans_of LogsKept first.logs second.logs

end Counted

/-- A closed record is one more. -/
theorem RecordClosed.length {before after : Sys ω} {row : RunLogRow} (record : RecordClosed before row after)
    (fresh : before.db.runs.find? row.id = none) :
    after.db.runs.rows.length = before.db.runs.rows.length + 1 := by
  have keys : (after.db.runs.rows.map RunLogRow.id).toFinset =
      insert row.id (before.db.runs.rows.map RunLogRow.id).toFinset := by
    ext id
    rw [Finset.mem_insert, List.mem_toFinset, List.mem_toFinset, ← KeyedTable.isSome_find?_iff,
      ← KeyedTable.isSome_find?_iff]
    by_cases same : id = row.id
    · simp [same, record.closed]
    · simp [same, record.others id same]
  have absent : row.id ∉ (before.db.runs.rows.map RunLogRow.id).toFinset := by
    rw [List.mem_toFinset, ← KeyedTable.isSome_find?_iff, fresh]
    exact Bool.false_ne_true
  have counted := congrArg Finset.card keys
  rwa [Finset.card_insert_of_notMem absent, List.toFinset_card_of_nodup after.db.runs.unique,
    List.toFinset_card_of_nodup before.db.runs.unique, List.length_map, List.length_map] at counted

/-- What a run adds to the counts, by the status of its outcome. -/
theorem counted_run (deps : AgentDependencies ω) (request : RunRequest) (before : Sys ω) :
    let ran := (ReconciliationAgent.run deps request).run before
    (∀ raised after, ran = .error raised after → Counted before after 0 0) ∧
      ∀ outcome after, ran = .ok outcome after →
        Counted before after 1 ([outcome.status].count .failed) := by
  intro ran
  have logs : LogsKept before (finalState ran) := LogsKept.of_run deps request before
  cases fresh : before.db.runs.find? (chosenRunId deps.host request before.world) with
  | some row =>
    have taken : ran = _ := run_of_taken fresh
    rw [taken] at logs ⊢
    refine ⟨fun raised after failed => ?_, nofun⟩
    cases failed
    exact ⟨rfl, rfl, logs⟩
  | none =>
    obtain ⟨row, id, closed⟩ := run_closes fresh
    have more := closed.length (id ▸ fresh)
    have kept := graphRun_keeps deps request before
    cases graph : graphRun deps request before with
    | ok final ended =>
      have returned : ran = _ := run_of_graph_returns fresh graph
      rw [graph] at kept
      change (finalState ran).db.runs.rows.length = _ at more
      rw [returned] at logs more ⊢
      refine ⟨nofun, fun outcome after success => ?_⟩
      cases success
      exact ⟨more, congrArg List.length kept.incidentStream, logs⟩
    | error raised ended =>
      rw [graph, finalState_error] at kept
      obtain ⟨incident, written, mailed, failure, closedSys, handled, recorded⟩ := handleFailure_recorded kept raised
      have returned : ran = .ok failure closedSys := (run_of_graph_raises fresh graph).trans handled
      change (finalState ran).db.runs.rows.length = _ at more
      rw [returned] at logs more ⊢
      refine ⟨nofun, fun outcome after success => ?_⟩
      cases success
      have status : failure.status = .failed := congrArg RunOutcome.status recorded.outcome_eq
      refine ⟨more, ?_, logs⟩
      rw [recorded.streamKept, recorded.inStream, status, List.length_append]
      rfl

theorem counted_leaves (run : ScheduledRun ω) (sys : Sys ω) :
    Counted sys (run.leaves sys) (ending run sys).toList.length ((ending run sys).toList.count .failed) := by
  have found := Counted.of_world sys run.world
  obtain ⟨raises, returns⟩ := counted_run run.deps run.request (run.finds sys)
  unfold ending ScheduledRun.leaves
  cases ran : (ReconciliationAgent.run run.deps run.request).run (run.finds sys) with
  | ok outcome after => simpa using found.add (returns outcome after ran)
  | error raised after => exact found.add (raises raised after ran)

theorem counted_runAll (start : Sys ω) (runs : List (ScheduledRun ω)) :
    Counted start (runAll start runs) (endings start runs).length ((endings start runs).count .failed) := by
  induction runs generalizing start with
  | nil => exact .of_world start start.world
  | cons run later ih =>
    have counted := (counted_leaves run start).add (ih (run.leaves start))
    rwa [← List.length_append, ← List.count_append] at counted

theorem buildMetricsSnapshot_eq (isoformat : Timestamp → String) (sys : Sys ω) :
    buildMetricsSnapshot isoformat sys = some
      { runsTotal := sys.db.runs.rows.length
        exceptionsByReason := counter (sys.db.exceptions.rows.map ExceptionRow.reason)
        notifications := counter (sys.db.notifications.rows.map fun row => row.status.value)
        incidents := counter (sys.incidentStream.map fun _ => "OPEN") } := by
  unfold buildMetricsSnapshot
  rw [countByStatus_stream]
  rfl

theorem tally_open (incidents : List Incident) (status : String) :
    tally (counter (incidents.map fun _ => "OPEN")) status = if status = "OPEN" then incidents.length else 0 := by
  rw [tally_counter, List.map_const', List.count_replicate]
  exact if_congr (beq_iff_eq.trans eq_comm) rfl rfl

theorem tally_sent (rows : List NotificationRow) :
    tally (counter (rows.map fun row => row.status.value)) "SENT" =
      (rows.filter fun row => row.status = .sent).length := by
  rw [tally_counter, List.count_eq_length_filter, List.filter_map, List.length_map]
  congr 1
  refine List.filter_congr fun row _ => ?_
  cases status : row.status <;> simp [status, NotificationStatus.value]

namespace LogsKept

variable {before after : Sys ω} (kept : LogsKept before after)
include kept

theorem sent_le : (before.db.notifications.rows.filter fun row => row.status = .sent).length ≤
    (after.db.notifications.rows.filter fun row => row.status = .sent).length := by
  refine (List.subperm_of_subset (before.db.notifications.rows_nodup.filter _) fun row member => ?_).length_le
  obtain ⟨stored, sent⟩ := List.mem_filter.mp member
  exact List.mem_filter.mpr ⟨kept.sent row stored (of_decide_eq_true sent), sent⟩

theorem notifications_le : before.db.notifications.rows.length ≤ after.db.notifications.rows.length := by
  rw [← List.length_map (f := NotificationRow.pair), ← List.length_map (f := NotificationRow.pair)]
  refine (List.subperm_of_subset before.db.notifications.unique fun pair member => ?_).length_le
  obtain ⟨row, stored, rfl⟩ := List.mem_map.mp member
  obtain ⟨row', last, same⟩ := kept.pairs row stored
  exact same ▸ List.mem_map_of_mem last

theorem exceptions_le : before.db.exceptions.rows.length ≤ after.db.exceptions.rows.length := by
  rw [← List.length_map (f := ExceptionRow.mismatchKey), ← List.length_map (f := ExceptionRow.mismatchKey)]
  refine (List.subperm_of_subset before.db.exceptions.unique fun key member => ?_).length_le
  obtain ⟨row, stored, rfl⟩ := List.mem_map.mp member
  obtain ⟨row', last, same, -⟩ := kept.exceptions row stored
  exact same ▸ List.mem_map_of_mem last

end LogsKept

/-- What the metrics show after so many runs and so many incidents more: no incident that is not open, and no
fewer sent notifications, notifications and exceptions. -/
structure MetricsGrown (first last : MetricsSnapshot) (runs incidents : ℕ) : Prop where
  runsTotal : last.runsTotal = first.runsTotal + runs
  incidents : ∀ status, tally last.incidents status =
    tally first.incidents status + if status = "OPEN" then incidents else 0
  sent : tally first.notifications "SENT" ≤ tally last.notifications "SENT"
  notifications : total first.notifications ≤ total last.notifications
  exceptions : total first.exceptionsByReason ≤ total last.exceptionsByReason

theorem Counted.metricsGrown {before after : Sys ω} {runs incidents : ℕ} (counted : Counted before after runs incidents)
    (isoformat : Timestamp → String) :
    ∃ first last, buildMetricsSnapshot isoformat before = some first ∧
      buildMetricsSnapshot isoformat after = some last ∧ MetricsGrown first last runs incidents := by
  refine ⟨_, _, buildMetricsSnapshot_eq isoformat before, buildMetricsSnapshot_eq isoformat after, counted.runs,
    fun status => ?_, ?_, ?_, ?_⟩
  · rw [tally_open, tally_open, counted.incidents]
    split <;> rfl
  · rw [tally_sent, tally_sent]
    exact counted.logs.sent_le
  · rw [total_counter, total_counter, List.length_map, List.length_map]
    exact counted.logs.notifications_le
  · rw [total_counter, total_counter, List.length_map, List.length_map]
    exact counted.logs.exceptions_le

/-- The metrics add up over every history, though they are counted from three tables and from the text of a
file: the runs grow by those that start, the open incidents by those that fail. -/
theorem metrics_over_history (isoformat : Timestamp → String) (start : Sys ω) (runs : List (ScheduledRun ω)) :
    ∃ first last, buildMetricsSnapshot isoformat start = some first ∧
      buildMetricsSnapshot isoformat (runAll start runs) = some last ∧
      MetricsGrown first last (endings start runs).length ((endings start runs).count .failed) :=
  (counted_runAll start runs).metricsGrown isoformat

end ReconcileFlow
