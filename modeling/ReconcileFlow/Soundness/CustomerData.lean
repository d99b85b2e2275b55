import ReconcileFlow.Model.Prompts
import ReconcileFlow.Soundness.Frames
import ReconcileFlow.ToMathlib.EffectImage

/-! # Customer data stays out of a run

An order carries the name and the mail address of a customer, and so does its obligation, but nothing a
run decides, writes, mails or asks about depends on them. Run on a request without them, the agent does
the same in every respect; only the ghost log of its questions holds the obligations as they were handed
to the client. This needs a client whose proposal does not depend on them: the mock is one, and so is
the Groq client around any chat model, because its prompt does not name them.
-/

namespace ReconcileFlow

open EffectRun ReconciliationAgent

variable {ω : Type}

def Order.anonymous (order : Order) : Order := { order with customerName := none, customerEmail := none }

def Obligation.anonymous (obligation : Obligation) : Obligation :=
  { obligation with customerName := none, customerEmail := none }

theorem orderId_anonymous (obligation : Obligation) : obligation.anonymous.orderId = obligation.orderId := rfl

def MatchedPair.anonymous (pair : MatchedPair) : MatchedPair := { pair with obligation := pair.obligation.anonymous }

def RunRequest.anonymous (request : RunRequest) : RunRequest :=
  { request with orders := request.orders.map Order.anonymous }

def ReconciliationState.anonymous (state : ReconciliationState) : ReconciliationState :=
  { state with
    obligations := state.obligations.map Obligation.anonymous
    matched := state.matched.map MatchedPair.anonymous
    unmatchedObligations := state.unmatchedObligations.map Obligation.anonymous }

/-- The question that was asked, without the customers of its obligations. -/
def ExternalCall.anonymous : ExternalCall → ExternalCall
  | proposeFuzzy obligations settlements reply =>
    .proposeFuzzy (obligations.map Obligation.anonymous) settlements reply
  | call => call

def Sys.anonymous (sys : Sys ω) : Sys ω := { sys with calls := sys.calls.map ExternalCall.anonymous }

/-! ## Matching -/

theorem orderSumException_anonymous (orderId : String) (first : Order) (rows : List Order) (tolerance : ℚ) :
    orderSumException orderId first.anonymous (rows.map Order.anonymous) tolerance =
      orderSumException orderId first rows tolerance := by
  have paid : (rows.map Order.anonymous).map Order.paymentAmount = rows.map Order.paymentAmount := by
    rw [List.map_map]
    rfl
  have party : (rows.map Order.anonymous).findSome? Order.responsibleParty =
      rows.findSome? Order.responsibleParty := by
    rw [List.findSome?_map]
    rfl
  unfold orderSumException
  rw [paid, party]
  rfl

theorem buildGroup_anonymous (tolerance : ℚ) (group : String × List Order) :
    buildGroup tolerance (group.1, group.2.map Order.anonymous) =
      { buildGroup tolerance group with
        obligations := (buildGroup tolerance group).obligations.map Obligation.anonymous } := by
  have placed : placedRows (group.2.map Order.anonymous) = (placedRows group.2).map Order.anonymous := List.filter_map
  unfold buildGroup
  dsimp only
  rw [placed]
  cases placedRows group.2 with
  | nil => rfl
  | cons first rest =>
    have built : (((first :: rest).map Order.anonymous).zipIdx.map fun indexed => toObligation indexed.1 indexed.2) =
        ((first :: rest).zipIdx.map fun indexed => toObligation indexed.1 indexed.2).map Obligation.anonymous := by
      rw [List.zipIdx_map, List.map_map, List.map_map]
      rfl
    have sums := orderSumException_anonymous group.1 first (first :: rest) tolerance
    rw [List.map_cons] at built sums ⊢
    dsimp only
    rw [built, sums]

theorem buildObligations_anonymous (orders : List Order) (tolerance : ℚ) :
    buildObligations (orders.map Order.anonymous) tolerance =
      { buildObligations orders tolerance with
        obligations := (buildObligations orders tolerance).obligations.map Obligation.anonymous } := by
  have groups : (groupByOrder (orders.map Order.anonymous)).rows =
      (groupByOrder orders).rows.map fun group => (group.1, group.2.map Order.anonymous) :=
    KeyedTable.rows_group_map (fun order => (rfl : some order.anonymous.orderId = some order.orderId)) orders
  unfold buildObligations
  rw [groups, List.map_map]
  have built : buildGroup tolerance ∘ (fun group : String × List Order => (group.1, group.2.map Order.anonymous)) =
      fun group => { buildGroup tolerance group with
        obligations := (buildGroup tolerance group).obligations.map Obligation.anonymous } :=
    funext fun group => buildGroup_anonymous tolerance group
  rw [built]
  dsimp only
  rw [List.flatMap_map, List.flatMap_map, List.flatMap_map, List.flatMap_map, List.map_flatMap]

/-- The matching loop does the same without customer data. -/
def KeyMatchState.anonymous (state : KeyMatchState) : KeyMatchState :=
  { state with
    matched := state.matched.map MatchedPair.anonymous
    unmatchedObligations := state.unmatchedObligations.map Obligation.anonymous }

theorem keyMatchStep_anonymous (index : SettlementIndex) (tolerance : ℚ) (state : KeyMatchState)
    (obligation : Obligation) : keyMatchStep index tolerance state.anonymous obligation.anonymous =
      (keyMatchStep index tolerance state obligation).anonymous := by
  have found : candidates index state.anonymous.consumed obligation.anonymous =
      candidates index state.consumed obligation := rfl
  unfold keyMatchStep
  rw [found]
  rcases candidates index state.consumed obligation with _ | ⟨first, _ | ⟨second, rest⟩⟩
  · unfold KeyMatchState.anonymous
    dsimp only
    rw [List.map_append]
    rfl
  · unfold KeyMatchState.anonymous
    dsimp only
    change (if amountStatus obligation.expectedAmount first.amount tolerance = .matched then _ else _) = _
    split
    · dsimp only
      rw [List.map_append]
      rfl
    · rfl
  · rfl

/-- The result of the key matching, without customer data. -/
def KeyMatchResult.anonymous (result : KeyMatchResult) : KeyMatchResult :=
  { result with
    matched := result.matched.map MatchedPair.anonymous
    unmatchedObligations := result.unmatchedObligations.map Obligation.anonymous }

theorem reconcileKeys_anonymous (obligations : List Obligation) (settlements : List Settlement) (tolerance : ℚ) :
    reconcileKeys (obligations.map Obligation.anonymous) settlements tolerance =
      (reconcileKeys obligations settlements tolerance).anonymous := by
  have loop (obligations : List Obligation) (state : KeyMatchState) :
      (obligations.map Obligation.anonymous).foldl (keyMatchStep (indexSettlements settlements) tolerance)
        state.anonymous =
      (obligations.foldl (keyMatchStep (indexSettlements settlements) tolerance) state).anonymous := by
    induction obligations generalizing state with
    | nil => rfl
    | cons obligation rest ih => rw [List.map_cons, List.foldl_cons, List.foldl_cons, keyMatchStep_anonymous, ih]
  unfold reconcileKeys
  rw [show (⟨∅, [], [], []⟩ : KeyMatchState) = KeyMatchState.anonymous ⟨∅, [], [], []⟩ from rfl, loop]
  rfl

def FuzzyState.anonymous (state : FuzzyState) : FuzzyState :=
  { state with
    oblByOrder := state.oblByOrder.mapRows Obligation.anonymous orderId_anonymous
    matched := state.matched.map MatchedPair.anonymous }

theorem named_anonymous (state : FuzzyState) (pairing : FuzzyPairing) :
    state.anonymous.named pairing =
      (state.named pairing).map fun pair => (pair.1.anonymous, pair.2) := by
  unfold FuzzyState.named
  cases pairing.orderId with
  | none => rfl
  | some orderId =>
    cases pairing.settlementId with
    | none => rfl
    | some settlementId =>
      dsimp only
      have found : state.anonymous.oblByOrder.find? orderId =
          (state.oblByOrder.find? orderId).map Obligation.anonymous :=
        KeyedTable.find?_mapRows _ _ orderId_anonymous _
      have kept : state.anonymous.settleById = state.settleById := rfl
      rw [found, kept]
      cases state.oblByOrder.find? orderId with
      | none => rfl
      | some obligation =>
        cases state.settleById.find? settlementId with
        | none => rfl
        | some settlement => rfl

theorem applyPairing_anonymous (thresholds : FuzzyMatchConfig) (state : FuzzyState) (pairing : FuzzyPairing) :
    applyPairing thresholds state.anonymous pairing = (applyPairing thresholds state pairing).anonymous := by
  unfold applyPairing
  rw [named_anonymous]
  cases state.named pairing with
  | none => rfl
  | some pair =>
    obtain ⟨obligation, settlement⟩ := pair
    have erased : state.anonymous.oblByOrder.erase obligation.anonymous.orderId =
        (state.oblByOrder.erase obligation.orderId).mapRows Obligation.anonymous orderId_anonymous :=
      KeyedTable.erase_mapRows ..
    rw [Option.map_some]
    dsimp only
    unfold FuzzyState.consume
    rw [erased]
    split
    · unfold FuzzyState.anonymous
      dsimp only
      rw [List.map_append]
      rfl
    · split <;> rfl

theorem applyPairings_anonymous (thresholds : FuzzyMatchConfig) (state : ReconciliationState)
    (pairings : List FuzzyPairing) :
    applyPairings thresholds state.anonymous pairings = (applyPairings thresholds state pairings).anonymous := by
  have loop (pairings : List FuzzyPairing) (fuzzy : FuzzyState) :
      pairings.foldl (applyPairing thresholds) fuzzy.anonymous =
        (pairings.foldl (applyPairing thresholds) fuzzy).anonymous := by
    induction pairings generalizing fuzzy with
    | nil => rfl
    | cons pairing rest ih => rw [List.foldl_cons, List.foldl_cons, applyPairing_anonymous, ih]
  have start : initialFuzzyState state.anonymous = (initialFuzzyState state).anonymous := by
    unfold initialFuzzyState FuzzyState.anonymous ReconciliationState.anonymous
    dsimp only
    rw [KeyedTable.ofList_map orderId_anonymous]
  unfold applyPairings
  rw [start, loop]

theorem classifyLeftovers_anonymous (obligations : List Obligation) (settlements : List Settlement)
    (graceDays : PaymentType → Option ℤ) (asOfDate : Date) :
    classifyLeftovers (obligations.map Obligation.anonymous) settlements graceDays asOfDate =
      classifyLeftovers obligations settlements graceDays asOfDate := by
  unfold classifyLeftovers
  rw [List.map_map]
  rfl

/-- The computation does the same without customer data. -/
abbrev Unaware {α : Type} (x : RunM ω α) : Prop := MapsRun Sys.anonymous id x x

section Steps

variable {α : Type}

theorem unaware_pure (value : α) : Unaware (pure value : RunM ω α) := fun _ => rfl

theorem unaware_throw (raised : Raised) : Unaware (throw raised : RunM ω α) := fun _ => rfl

theorem unaware_bind {β : Type} {x : RunM ω α} {f : α → RunM ω β} (first : Unaware x)
    (next : ∀ value, Unaware (f value)) : Unaware (x >>= f) := mapsRun_bind first next

theorem unaware_stepWorld (act : ω → α × ω) : Unaware (stepWorld act) := fun _ => rfl

theorem unaware_readClock (host : Host ω) : Unaware (readClock host) := fun _ => rfl

theorem unaware_modifyDb (update : Database → Database) : Unaware (modifyDb update : RunM ω Unit) := fun _ => rfl

theorem mapsRun_withSession {β : Type} {onValue : α → β} {x : RunM ω α} {y : RunM ω β}
    (maps : MapsRun Sys.anonymous onValue x y) :
    MapsRun Sys.anonymous onValue (withSession x) (withSession y) := by
  intro sys
  rw [run_withSession, run_withSession, maps sys]
  cases x.run sys with
  | ok value after => rfl
  | error raised after => rfl

/-- A call that is asked the same in the same world, and logged without customers. -/
theorem mapsRun_callOutside {record record' : Except Raised α → ExternalCall}
    (anonymous : ∀ reply, (record reply).anonymous = record' reply) (act : ω → Except Raised α × ω) :
    MapsRun Sys.anonymous id (callOutside record act) (callOutside record' act) := by
  intro sys
  have logged (reply : Except Raised α) : sys.anonymous.calls ++ [record' reply] =
      (sys.calls ++ [record reply]).map ExternalCall.anonymous := by
    rw [List.map_append, List.map_singleton, anonymous]
    rfl
  rcases answered : act sys.world with ⟨reply, next⟩
  have answered' : act sys.anonymous.world = (reply, next) := answered
  unfold callOutside
  dsimp only [EStateM.run]
  rw [answered, answered']
  cases reply with
  | ok value =>
    dsimp only
    rw [logged]
    rfl
  | error raised =>
    dsimp only
    rw [logged]
    rfl

/-- A call whose question names no customer. -/
theorem unaware_callOutside {record : Except Raised α → ExternalCall}
    (plain : ∀ reply, (record reply).anonymous = record reply) (act : ω → Except Raised α × ω) :
    Unaware (callOutside record act) := mapsRun_callOutside plain act

theorem unaware_writeIncident (incident : Incident) : Unaware (writeIncident (ω := ω) incident) := by
  intro sys
  have logged : sys.anonymous.calls ++ [ExternalCall.storeIncident incident] =
      (sys.calls ++ [ExternalCall.storeIncident incident]).map ExternalCall.anonymous := by
    rw [List.map_append]
    rfl
  unfold writeIncident
  dsimp only [EStateM.run]
  rw [logged]
  rfl

theorem unaware_logEvent (host : Host ω) (event : AuditEvent) : Unaware (logEvent host event) := fun _ => rfl

theorem unaware_session {x : RunM ω α} (unaware : Unaware x) : Unaware (withSession x) := mapsRun_withSession unaware

theorem unaware_foldlM {β : Type} {step : β → α → RunM ω β} (each : ∀ acc item, Unaware (step acc item))
    (items : List α) (acc : β) : Unaware (items.foldlM step acc) := mapsRun_foldlM_id each items acc

theorem unaware_forEach {body : α → RunM ω Unit} (each : ∀ item, Unaware (body item)) (items : List α) :
    Unaware (forEach items body) := unaware_foldlM (fun _ item => each item) items ()

end Steps

section Mails

theorem unaware_breakerCall (breaker : Breaker ω) {α : Type} {func : RunM ω α} (unaware : Unaware func) :
    Unaware (breaker.call func) := by
  refine unaware_bind (unaware_stepWorld _) fun admitted => ?_
  split
  · refine unaware_bind (mapsRun_attempt_id unaware) fun reply => ?_
    cases reply with
    | ok value => exact unaware_bind (unaware_stepWorld _) fun _ => unaware_pure _
    | error raised =>
      refine unaware_bind (unaware_stepWorld _) fun tripped => ?_
      split <;> exact unaware_throw _
  · exact unaware_throw _

theorem unaware_dispatch (service : NotificationService ω) (host : Host ω) (call : DispatchCall) :
    Unaware (service.dispatch host call) := by
  have attempts : Unaware (callWithRetry (service.attemptSend call.request)
      service.resilience.emailRetryAttempts Raised.isTransient) := by
    unfold callWithRetry
    rw [retryLoop_eq]
    exact mapsRun_retry (unaware_breakerCall _ (unaware_callOutside (fun _ => rfl) _)) _ _
  have sends : Unaware (service.send call.request) := by
    refine unaware_bind (mapsRun_attempt_id attempts) fun reply => ?_
    cases reply with
    | ok result => exact unaware_pure _
    | error raised =>
      dsimp only
      split
      · exact unaware_pure _
      · exact unaware_throw _
  refine unaware_bind (unaware_session fun _ => rfl) fun notified => ?_
  split
  · exact unaware_pure _
  · refine unaware_bind sends fun result => unaware_bind (unaware_session ?_) fun _ => unaware_pure _
    exact unaware_bind (unaware_readClock host) fun now => unaware_modifyDb _

theorem unaware_raiseIncident (service : IncidentService ω) (host : Host ω) (runId : String)
    (failureType : FailureType) (rootCause : String) (orderId remediation : Option String) :
    Unaware (service.raiseIncident host runId failureType rootCause orderId remediation) := by
  have creates : Unaware (createIncident host runId failureType rootCause orderId remediation) :=
    unaware_bind (unaware_stepWorld _) fun hex => unaware_bind (unaware_readClock host) fun now =>
      unaware_bind (unaware_writeIncident _) fun _ => unaware_pure _
  refine unaware_bind creates fun incident => unaware_bind ?_ fun _ => unaware_pure _
  unfold IncidentService.notifyAdmin
  split
  · split
    · exact unaware_bind (mapsRun_attempt_id (unaware_dispatch _ _ _)) fun _ => unaware_pure _
    · exact unaware_pure _
  · exact unaware_pure _

end Mails

/-! ## Nodes -/

/-- The proposal of the client does not depend on customers. -/
def LlmClient.Unaware (llm : LlmClient ω) : Prop :=
  ∀ obligations settlements, llm.proposeFuzzy (obligations.map Obligation.anonymous) settlements =
    llm.proposeFuzzy obligations settlements

section Nodes

variable {deps : AgentDependencies ω} (state : ReconciliationState)

theorem mapsRun_reconcileNode : MapsRun Sys.anonymous ReconciliationState.anonymous (reconcileNode deps state)
    (reconcileNode deps state.anonymous) := by
  have keyed : reconcileKeys state.anonymous.obligations state.anonymous.settlements
      deps.config.reconciliation.amountTolerance =
        (reconcileKeys state.obligations state.settlements deps.config.reconciliation.amountTolerance).anonymous :=
    reconcileKeys_anonymous ..
  unfold reconcileNode
  rw [keyed]
  generalize reconcileKeys state.obligations state.settlements deps.config.reconciliation.amountTolerance = result
  have matched : result.anonymous.matched.length = result.matched.length := List.length_map ..
  have left : result.anonymous.unmatchedObligations.length = result.unmatchedObligations.length :=
    List.length_map ..
  dsimp only
  rw [matched, left]
  exact mapsRun_bind (unaware_session (unaware_logEvent _ _)) fun _ => mapsRun_pure rfl

theorem routesToFuzzy_anonymous : routesToFuzzy deps state.anonymous = routesToFuzzy deps state := by
  have left : state.anonymous.unmatchedObligations.isEmpty = state.unmatchedObligations.isEmpty := List.isEmpty_map
  unfold routesToFuzzy
  rw [left]
  rfl

/-- The proposal of an unaware client is the same; only the logged question differs. -/
theorem mapsRun_proposedPairings (unaware : deps.llm.Unaware) :
    MapsRun Sys.anonymous id (proposedPairings deps state) (proposedPairings deps state.anonymous) := by
  have asks : MapsRun Sys.anonymous id
      (callOutside (.proposeFuzzy state.unmatchedObligations state.unmatchedSettlements)
        (deps.llm.proposeFuzzy state.unmatchedObligations state.unmatchedSettlements))
      (callOutside (.proposeFuzzy state.anonymous.unmatchedObligations state.anonymous.unmatchedSettlements)
        (deps.llm.proposeFuzzy state.anonymous.unmatchedObligations state.anonymous.unmatchedSettlements)) := by
    have same : deps.llm.proposeFuzzy state.anonymous.unmatchedObligations state.anonymous.unmatchedSettlements =
        deps.llm.proposeFuzzy state.unmatchedObligations state.unmatchedSettlements := unaware _ _
    rw [same]
    exact mapsRun_callOutside (fun _ => rfl) _
  refine mapsRun_bind (mapsRun_attempt_id asks) fun reply => ?_
  cases reply with
  | ok proposal => exact unaware_pure _
  | error raised => exact unaware_bind (unaware_session (unaware_logEvent _ _)) fun _ => unaware_pure _

theorem mapsRun_fuzzyEdge (unaware : deps.llm.Unaware) :
    MapsRun Sys.anonymous ReconciliationState.anonymous (fuzzyEdge deps state) (fuzzyEdge deps state.anonymous) := by
  unfold fuzzyEdge
  rw [routesToFuzzy_anonymous]
  split
  · refine mapsRun_bind (mapsRun_proposedPairings state unaware) fun pairings => ?_
    dsimp only [id]
    rw [applyPairings_anonymous]
    refine mapsRun_bind (unaware_session (unaware_forEach (fun _ => unaware_logEvent _ _) _)) fun _ => mapsRun_pure rfl
  · exact mapsRun_pure rfl

theorem mapsRun_classifyNode : MapsRun Sys.anonymous ReconciliationState.anonymous (classifyNode deps state)
    (classifyNode deps state.anonymous) := by
  have leftovers : classifyLeftovers state.anonymous.unmatchedObligations state.anonymous.unmatchedSettlements
      deps.config.reconciliation.slaGraceDays state.anonymous.asOfDate =
        classifyLeftovers state.unmatchedObligations state.unmatchedSettlements
          deps.config.reconciliation.slaGraceDays state.asOfDate := classifyLeftovers_anonymous ..
  unfold classifyNode
  rw [leftovers]
  exact mapsRun_bind (unaware_session (unaware_logEvent _ _)) fun _ => mapsRun_pure rfl

theorem mapsRun_decideNode : MapsRun Sys.anonymous ReconciliationState.anonymous (decideNode deps state)
    (decideNode deps state.anonymous) := by
  refine mapsRun_bind (unaware_session (unaware_foldlM (fun decisions exception => ?_) _ _)) fun _ => mapsRun_pure rfl
  exact unaware_bind (unaware_callOutside (fun _ => rfl) _) fun _ =>
    unaware_bind (unaware_logEvent _ _) fun _ => unaware_pure _

theorem unaware_dispatchException (lists : DispatchLists) (one : ExceptionRecord × ExceptionDecision) :
    MapsRun Sys.anonymous id (dispatchException deps state lists one) (dispatchException deps state.anonymous lists one) := by
  unfold dispatchException
  split
  · exact unaware_pure _
  · refine mapsRun_foldlM_id (fun lists target => ?_) _ _
    refine mapsRun_bind (unaware_callOutside (fun _ => rfl) _) fun draft => mapsRun_bind ?_ fun _ => unaware_pure _
    unfold dispatchOne
    change MapsRun _ _ _ (if state.dryRun then _ else _)
    split
    · exact unaware_pure _
    · exact unaware_dispatch _ _ _

theorem mapsRun_dispatchNode : MapsRun Sys.anonymous ReconciliationState.anonymous (dispatchNode deps state)
    (dispatchNode deps state.anonymous) := by
  refine mapsRun_bind (mapsRun_foldlM_id (unaware_dispatchException state) _ _) fun lists => ?_
  have records : Unaware (recordDispatch deps state.runId lists) := by
    refine unaware_session (unaware_bind (unaware_forEach (fun entry => ?_) _) fun _ => ?_)
    · exact unaware_bind (unaware_readClock _) fun now => unaware_modifyDb _
    · exact unaware_forEach (fun event => unaware_logEvent _ event) _
  have finishes : MapsRun Sys.anonymous ReconciliationState.anonymous
      (do
        recordDispatch deps state.runId lists
        pure { state with emails := lists.emails, currentKeys := lists.currentKeys })
      (do
        recordDispatch deps state.anonymous.runId lists
        pure { state.anonymous with emails := lists.emails, currentKeys := lists.currentKeys }) :=
    mapsRun_bind records fun _ => mapsRun_pure rfl
  dsimp only [id]
  rw [show state.anonymous.exceptions = state.exceptions from rfl,
    show state.anonymous.decisions = state.decisions from rfl]
  split
  · exact fun _ => rfl
  · exact finishes

theorem mapsRun_verifyNode : MapsRun Sys.anonymous ReconciliationState.anonymous (verifyNode deps state)
    (verifyNode deps state.anonymous) := by
  refine mapsRun_bind (unaware_session (unaware_bind (fun _ => rfl) fun resolved => ?_)) fun resolved => ?_
  · exact unaware_bind (unaware_logEvent _ _) fun _ => unaware_pure _
  · refine mapsRun_pure ?_
    have summary : buildSummary state.anonymous resolved = buildSummary state resolved := by
      unfold buildSummary ReconciliationState.anonymous
      dsimp only
      rw [List.length_map]
    dsimp only [id]
    rw [summary]
    rfl

theorem mapsRun_invokeGraph (unaware : deps.llm.Unaware) : MapsRun Sys.anonymous ReconciliationState.anonymous
    (invokeGraph deps state) (invokeGraph deps state.anonymous) :=
  mapsRun_bind (mapsRun_reconcileNode state) fun reconciled =>
    mapsRun_bind (mapsRun_fuzzyEdge reconciled unaware) fun paired =>
      mapsRun_bind (mapsRun_classifyNode paired) fun classified =>
        mapsRun_bind (mapsRun_decideNode classified) fun decided =>
          mapsRun_bind (mapsRun_dispatchNode decided) fun dispatched => mapsRun_verifyNode dispatched

end Nodes

section Runs

variable {deps : AgentDependencies ω} (request : RunRequest)

theorem initialState_anonymous (config : AppConfig) (runId : String) (asOf : Date) :
    initialState config request.anonymous runId asOf = (initialState config request runId asOf).anonymous := by
  have built := buildObligations_anonymous request.orders config.reconciliation.amountTolerance
  unfold initialState
  rw [show request.anonymous.orders = request.orders.map Order.anonymous from rfl, built]
  rfl

theorem mapsRun_startRun (host : Host ω) (runId : String) :
    MapsRun Sys.anonymous id (startRun host runId request) (startRun host runId request.anonymous) := by
  intro sys
  have counted : request.anonymous.orders.length = request.orders.length := List.length_map ..
  unfold startRun
  rw [counted]
  dsimp only [EStateM.run]
  rw [show sys.anonymous.db = sys.db from rfl, show sys.anonymous.world = sys.world from rfl,
    show request.anonymous.inputHash = request.inputHash from rfl,
    show request.anonymous.settlements = request.settlements from rfl]
  split <;> rfl

theorem mapsRun_execute (unaware : deps.llm.Unaware) : MapsRun Sys.anonymous
    (Prod.map id (Except.map ReconciliationState.anonymous)) (execute deps request) (execute deps request.anonymous) := by
  have chooses : MapsRun Sys.anonymous id (chooseRunId deps.host request) (chooseRunId deps.host request.anonymous) := by
    unfold chooseRunId
    rw [show request.anonymous.runId = request.runId from rfl]
    split
    · exact unaware_pure _
    · exact unaware_stepWorld _
  have dates : MapsRun Sys.anonymous id (chooseAsOf deps.host request) (chooseAsOf deps.host request.anonymous) :=
    fun _ => rfl
  refine mapsRun_bind chooses fun runId => mapsRun_bind dates fun asOf =>
    mapsRun_bind (mapsRun_startRun request deps.host runId) fun _ => ?_
  dsimp only [id]
  rw [initialState_anonymous]
  exact mapsRun_bind (mapsRun_attempt (mapsRun_invokeGraph _ unaware)) fun result => mapsRun_pure rfl

theorem mapsRun_run (unaware : deps.llm.Unaware) :
    MapsRun Sys.anonymous id (ReconciliationAgent.run deps request) (ReconciliationAgent.run deps request.anonymous) := by
  have finishes (runId : String) (status : RunStatus) (summary : SummaryJson) :
      Unaware (finishRun deps.host runId status summary) :=
    unaware_session (unaware_bind (unaware_readClock _) fun now => unaware_modifyDb _)
  have counted : request.anonymous.orders.length = request.orders.length := List.length_map ..
  refine mapsRun_bind (mapsRun_execute request unaware) fun executed => ?_
  obtain ⟨runId, result⟩ := executed
  cases result with
  | ok final =>
    have outcome : buildOutcome runId request.anonymous final.anonymous = buildOutcome runId request final := by
      unfold buildOutcome
      rw [counted]
      rfl
    refine mapsRun_bind (finishes _ _ _) fun _ => mapsRun_pure ?_
    exact outcome
  | error raised =>
    change MapsRun Sys.anonymous id (handleFailure deps request runId raised)
      (handleFailure deps request.anonymous runId raised)
    unfold handleFailure
    rw [counted]
    exact mapsRun_bind (unaware_raiseIncident _ _ _ _ _ _ _) fun incident =>
      mapsRun_bind (finishes _ _ _) fun _ => unaware_pure _

end Runs

/-! ## The clients -/

theorem mockPairings_anonymous (settlements : List Settlement) (used : List String) (obligations : List Obligation) :
    mockPairings settlements used (obligations.map Obligation.anonymous) = mockPairings settlements used obligations := by
  induction obligations generalizing used with
  | nil => rfl
  | cons obligation rest ih =>
    have partner : mockPartner used obligation.anonymous settlements = mockPartner used obligation settlements := rfl
    have paired (settlement : Settlement) :
        mockPairing obligation.anonymous settlement = mockPairing obligation settlement := rfl
    rw [List.map_cons, mockPairings, mockPairings, partner]
    cases mockPartner used obligation settlements with
    | none => exact ih used
    | some settlement =>
      dsimp only
      rw [paired, ih]

theorem mock_unaware : (mockLlm : LlmClient ω).Unaware := by
  intro obligations settlements
  have proposal : mockProposal (obligations.map Obligation.anonymous) settlements =
      mockProposal obligations settlements := by
    unfold mockProposal
    rw [mockPairings_anonymous]
  funext world
  exact congrArg (fun reply => (reply, world)) proposal

/-- The prompt lists no customer. -/
theorem obligationsText_anonymous (obligations : List Obligation) :
    obligationsText (obligations.map Obligation.anonymous) = obligationsText obligations := by
  unfold obligationsText
  rw [List.map_map]
  rfl

theorem groq_unaware (client : GroqLlmClient) (model : TextModel ω) (decimalText : ℚ → String) :
    (client.toLlmClient (model.asked decimalText)).Unaware := by
  intro obligations settlements
  have asks : (model.asked decimalText).fuzzyProposal (obligations.map Obligation.anonymous) settlements =
      (model.asked decimalText).fuzzyProposal obligations settlements := by
    unfold TextModel.asked
    dsimp only
    rw [obligationsText_anonymous]
  unfold GroqLlmClient.toLlmClient GroqLlmClient.proposeFuzzy
  dsimp only
  rw [asks]

/-- With a client that ignores customers, two requests that differ in them only have the same run: the
same outcome or exception, and the same state but for the customers in the logged questions. -/
theorem run_ignores_customers {deps : AgentDependencies ω} (unaware : deps.llm.Unaware) {first second : RunRequest}
    (same : first.anonymous = second.anonymous) (before : Sys ω) :
    mapResult Sys.anonymous id ((ReconciliationAgent.run deps first).run before) =
      mapResult Sys.anonymous id ((ReconciliationAgent.run deps second).run before) := by
  rw [← mapsRun_run first unaware before, ← mapsRun_run second unaware before, same]

/-- Under both shipped clients, whatever model answers the prompts, no customer name or address has any
effect on a run. -/
theorem shipped_runs_ignore_customers {first second : RunRequest} (same : first.anonymous = second.anonymous) :
    (∀ (deps : AgentDependencies ω) (before : Sys ω), let agent := { deps with llm := mockLlm }
      mapResult Sys.anonymous id ((ReconciliationAgent.run agent first).run before) =
        mapResult Sys.anonymous id ((ReconciliationAgent.run agent second).run before)) ∧
    ∀ (deps : AgentDependencies (GroqWorld ω)) (client : GroqLlmClient) (model : TextModel ω)
      (decimalText : ℚ → String) (before : Sys (GroqWorld ω)),
      let agent := { deps with llm := client.toLlmClient (model.asked decimalText) }
      mapResult Sys.anonymous id ((ReconciliationAgent.run agent first).run before) =
        mapResult Sys.anonymous id ((ReconciliationAgent.run agent second).run before) :=
  ⟨fun _ before => run_ignores_customers mock_unaware same before,
    fun _ client model decimalText before =>
      run_ignores_customers (groq_unaware client model decimalText) same before⟩

/-- Two unpaid orders, of a named customer. -/
def namedRequest : RunRequest :=
  { separateRequest with
    orders := separateRequest.orders.map fun order =>
      { order with customerName := some "A. Customer", customerEmail := some "customer@demo.local" } }

theorem shipped_runs_ignore_customers_named :
    mapResult Sys.anonymous id ((ReconciliationAgent.run
        { scriptedDependencies (.ok {}) with llm := mockLlm } namedRequest).run emptyStart) =
      mapResult Sys.anonymous id ((ReconciliationAgent.run
        { scriptedDependencies (.ok {}) with llm := mockLlm } separateRequest).run emptyStart) := by
  have same : namedRequest.anonymous = separateRequest.anonymous := rfl
  exact (shipped_runs_ignore_customers same).1 (scriptedDependencies (.ok {})) emptyStart

end ReconcileFlow
