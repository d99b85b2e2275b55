import ReconcileFlow.Model.Offline

/-! # The Groq client

`GroqLLMClient` around a chat model that may return an object of the requested schema, return nothing
because it made no tool call, or raise anything. A call is counted against the budget once and tried
at most three times. `decide` and `draft_email` fall back to the mock when the call fails; what the
model returned is passed on unchecked.
-/

namespace ReconcileFlow

open EffectRun

variable {ω α : Type}

/-- The reply of `structured.invoke(prompt)`. -/
inductive ModelReply (α : Type) where
  | object (value : α)
  | noToolCall
  | raises (text : String)

/-- The chat model, by schema; its prompt is a function of the arguments. -/
structure ChatModel (ω : Type) where
  fuzzyProposal : List Obligation → List Settlement → ω → ModelReply FuzzyProposal × ω
  exceptionDecision : ExceptionRecord → Bool → ℚ → ω → ModelReply ExceptionDecision × ω
  emailDraft : ExceptionRecord → RecipientRole → String → ω → ModelReply EmailDraft × ω

/-- The exceptions of `_invoke`. -/
inductive LlmError where
  | transient (text : String)
  | budgetExceeded (text : String)
deriving DecidableEq, Repr

namespace LlmError

def text : LlmError → String
  | transient text | budgetExceeded text => text

def isTransient : LlmError → Bool
  | transient _ => true
  | budgetExceeded _ => false

end LlmError

/-- The world of the client: its call counter, and everything outside it. -/
structure GroqWorld (ω : Type) where
  calls : ℤ := 0
  outside : ω

structure GroqLlmClient where
  maxCalls : ℤ
deriving DecidableEq, Repr

namespace GroqLlmClient

variable (client : GroqLlmClient)

/-- Count a call; beyond the budget it raises (`_consume_budget`). -/
def consumeBudget : EStateM LlmError (GroqWorld ω) Unit := do
  modify fun world => { world with calls := world.calls + 1 }
  if (← get).calls > client.maxCalls then
    throw (.budgetExceeded ("Exceeded LLM call budget of " ++ toString client.maxCalls))

/-- One attempt: whatever the model raises is transient. -/
def structuredCall (model : ω → ModelReply α × ω) : EStateM LlmError (GroqWorld ω) (Option α) := fun world =>
  match model world.outside with
  | (.object value, outside) => .ok (some value) { world with outside }
  | (.noToolCall, outside) => .ok none { world with outside }
  | (.raises text, outside) => .error (.transient text) { world with outside }

/-- `_invoke`: what comes back is cast to the schema without a check. -/
def invoke (model : ω → ModelReply α × ω) : EStateM LlmError (GroqWorld ω) (Option α) := do
  client.consumeBudget
  retry (structuredCall model) LlmError.isTransient 2

/-- The `except` clause that falls back to the mock. -/
def orFallback (call : EStateM LlmError (GroqWorld ω) (Option α)) (fallback : Except Raised α) :
    EStateM Raised (GroqWorld ω) (Option α) := fun world =>
  match call.run world with
  | .ok reply after => .ok reply after
  | .error _ after =>
    match fallback with
    | .ok value => .ok (some value) after
    | .error raised => .error raised after

/-- A failing call escapes; the fuzzy node catches it. -/
def proposeFuzzy (model : ChatModel ω) (obligations : List Obligation) (settlements : List Settlement) :
    EStateM Raised (GroqWorld ω) (Option FuzzyProposal) := fun world =>
  match (client.invoke (model.fuzzyProposal obligations settlements)).run world with
  | .ok reply after => .ok reply after
  | .error failure after => .error (.other failure.text) after

def decide (model : ChatModel ω) (exception : ExceptionRecord) (withinSla : Bool)
    (highValueThreshold : ℚ) : EStateM Raised (GroqWorld ω) (Option ExceptionDecision) :=
  orFallback (client.invoke (model.exceptionDecision exception withinSla highValueThreshold))
    (mockDecision exception withinSla highValueThreshold)

def draftEmail (model : ChatModel ω) (exception : ExceptionRecord) (role : RecipientRole) (tag : String) :
    EStateM Raised (GroqWorld ω) (Option EmailDraft) :=
  orFallback (client.invoke (model.emailDraft exception role tag)) (mockDraft exception role tag)

end GroqLlmClient

/-- Reading an attribute of `None`. -/
def noneAttribute (name : String) : Raised := .other ("'NoneType' object has no attribute '" ++ name ++ "'")

/-- What a node sees of a reply: the first thing it does is read an attribute of it. -/
def attributeOf (name : String) : EStateM.Result Raised (GroqWorld ω) (Option α) → Except Raised α × GroqWorld ω
  | .ok (some value) world => (.ok value, world)
  | .ok none world => (.error (noneAttribute name), world)
  | .error raised world => (.error raised, world)

/-- The Groq client among the collaborators of a run. -/
def GroqLlmClient.toLlmClient (client : GroqLlmClient) (model : ChatModel ω) : LlmClient (GroqWorld ω) where
  proposeFuzzy obligations settlements world :=
    attributeOf "pairings" ((client.proposeFuzzy model obligations settlements).run world)
  decide exception withinSla threshold world :=
    attributeOf "action" ((client.decide model exception withinSla threshold).run world)
  draftEmail exception role tag world :=
    attributeOf "subject" ((client.draftEmail model exception role tag).run world)

end ReconcileFlow
