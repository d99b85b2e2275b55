import Mathlib

/-! # Runs of stateful computations that may raise

Rules for computations in `EStateM ε σ`. An exception keeps the state reached so far, so what a
computation does to the state is a relation between the state before it and the state after it,
whether it returns or raises. `Keeps` is that relation as a frame rule: it composes along `bind`,
`attempt` and loops when the relation is a preorder. The inversion lemmas take a successful run
apart, and `foldlM_invariant` carries an invariant through a loop.
-/

namespace EffectRun

variable {ε σ α β : Type}

/-- The state at the end of a run, returned or raised. -/
def finalState : EStateM.Result ε σ α → σ
  | .ok _ state => state
  | .error _ state => state

@[simp] theorem finalState_ok (value : α) (state : σ) :
    finalState (.ok value state : EStateM.Result ε σ α) = state := rfl

@[simp] theorem finalState_error (raised : ε) (state : σ) :
    finalState (.error raised state : EStateM.Result ε σ α) = state := rfl

/-- The run ended with an exception. -/
def raises : EStateM.Result ε σ α → Bool
  | .ok _ _ => false
  | .error _ _ => true

/-- Run a computation and catch what it raises; its effects on the state stay. -/
def attempt (x : EStateM ε σ α) : EStateM ε σ (Except ε α) := fun state =>
  match x.run state with
  | .ok value after => .ok (.ok value) after
  | .error raised after => .ok (.error raised) after

theorem exists_of_raises {result : EStateM.Result ε σ α} (raised : raises result = true) :
    ∃ error state, result = .error error state := by
  cases result with
  | ok value state => cases raised
  | error error state => exact ⟨error, state, rfl⟩

@[simp] theorem run_throw (raised : ε) (state : σ) :
    (throw raised : EStateM ε σ α).run state = .error raised state := rfl

theorem run_attempt (x : EStateM ε σ α) (state : σ) :
    (attempt x).run state = match x.run state with
      | .ok value after => .ok (.ok value) after
      | .error raised after => .ok (.error raised) after := rfl

theorem bind_of_ok {x : EStateM ε σ α} {f : α → EStateM ε σ β} {before after : σ} {value : α}
    (success : x.run before = .ok value after) : (x >>= f).run before = (f value).run after := by
  rw [EStateM.run_bind, success]

theorem bind_of_error {x : EStateM ε σ α} {f : α → EStateM ε σ β} {before after : σ} {raised : ε}
    (failure : x.run before = .error raised after) : (x >>= f).run before = .error raised after := by
  rw [EStateM.run_bind, failure]

/-- A successful sequence takes apart into two successful runs. -/
theorem bind_eq_ok_iff {x : EStateM ε σ α} {f : α → EStateM ε σ β} {before after : σ} {value : β} :
    (x >>= f).run before = .ok value after ↔
      ∃ first between, x.run before = .ok first between ∧ (f first).run between = .ok value after := by
  rw [EStateM.run_bind]
  cases x.run before with
  | ok first between => simp
  | error raised between => simp

theorem attempt_of_ok {x : EStateM ε σ α} {before after : σ} {value : α}
    (success : x.run before = .ok value after) : (attempt x).run before = .ok (.ok value) after := by
  rw [run_attempt, success]

/-- A caught computation that returned did not raise. -/
theorem of_attempt_ok {x : EStateM ε σ α} {before after : σ} {value : α}
    (success : (attempt x).run before = .ok (.ok value) after) : x.run before = .ok value after := by
  rw [run_attempt] at success
  cases result : x.run before with
  | ok other between =>
    rw [result] at success
    cases success
    rfl
  | error raised between =>
    rw [result] at success
    cases success

theorem attempt_of_error {x : EStateM ε σ α} {before after : σ} {raised : ε}
    (failure : x.run before = .error raised after) :
    (attempt x).run before = .ok (.error raised) after := by
  rw [run_attempt, failure]

/-! ## Frames -/

/-- The computation relates every state to the state it ends in, returned or raised. -/
def Keeps (R : σ → σ → Prop) (x : EStateM ε σ α) : Prop :=
  ∀ state, R state (finalState (x.run state))

theorem Keeps.of_ok {R : σ → σ → Prop} {x : EStateM ε σ α} {before after : σ} {value : α}
    (keeps : Keeps R x) (success : x.run before = .ok value after) : R before after := by
  have ended := keeps before
  rwa [success] at ended

theorem keeps_attempt {R : σ → σ → Prop} {x : EStateM ε σ α} (keeps : Keeps R x) :
    Keeps R (attempt x) := by
  intro state
  have ended := keeps state
  rw [run_attempt]
  cases result : x.run state with
  | ok value after =>
    rw [result] at ended
    exact ended
  | error raised after =>
    rw [result] at ended
    exact ended

/-- Two parts of a computation that keep relations of their own keep a third one together, when it holds
of both parts in turn and of the first part alone. -/
theorem keeps_bind_into {R S T : σ → σ → Prop} {x : EStateM ε σ α} {f : α → EStateM ε σ β} (first : Keeps R x)
    (next : ∀ value before between, x.run before = .ok value between → Keeps S (f value))
    (both : ∀ before between after, R before between → S between after → T before after)
    (alone : ∀ before after, R before after → T before after) : Keeps T (x >>= f) := by
  intro state
  have start := first state
  rw [EStateM.run_bind]
  cases result : x.run state with
  | ok value between =>
    rw [result] at start
    exact both _ _ _ start (next value state between result between)
  | error raised between =>
    rw [result] at start
    exact alone _ _ start

section Preorder

variable {R : σ → σ → Prop} [IsPreorder σ R]

theorem keeps_pure (value : α) : Keeps R (pure value : EStateM ε σ α) := fun state => refl_of R state

/-- The second computation only has to keep the relation on values the first one returns. -/
theorem keeps_bind_of_ok {x : EStateM ε σ α} {f : α → EStateM ε σ β} (first : Keeps R x)
    (next : ∀ value before between, x.run before = .ok value between → Keeps R (f value)) :
    Keeps R (x >>= f) := by
  intro state
  have start := first state
  rw [EStateM.run_bind]
  cases result : x.run state with
  | ok value between =>
    rw [result] at start
    exact trans_of R start (next value state between result between)
  | error raised between =>
    rw [result] at start
    exact start

theorem keeps_bind {x : EStateM ε σ α} {f : α → EStateM ε σ β} (first : Keeps R x)
    (next : ∀ value, Keeps R (f value)) : Keeps R (x >>= f) :=
  keeps_bind_of_ok first fun value _ _ _ => next value

theorem keeps_foldlM_of_mem {step : β → α → EStateM ε σ β} {items : List α}
    (each : ∀ item ∈ items, ∀ acc, Keeps R (step acc item)) (acc : β) : Keeps R (items.foldlM step acc) := by
  induction items generalizing acc with
  | nil => exact keeps_pure acc
  | cons item rest ih =>
    obtain ⟨first, later⟩ := List.forall_mem_cons.mp each
    rw [List.foldlM_cons]
    exact keeps_bind (first acc) (ih later)

theorem keeps_foldlM {step : β → α → EStateM ε σ β} (each : ∀ acc item, Keeps R (step acc item))
    (items : List α) (acc : β) : Keeps R (items.foldlM step acc) :=
  keeps_foldlM_of_mem (fun item _ acc => each acc item) acc

end Preorder

/-! ## Loops -/

/-- An invariant of a loop that returns. `done` is the part of the list already processed. -/
theorem foldlM_invariant {step : β → α → EStateM ε σ β} (Inv : List α → β → σ → Prop)
    (next : ∀ done item acc before acc' after, Inv done acc before →
      (step acc item).run before = .ok acc' after → Inv (done ++ [item]) acc' after)
    {items : List α} {acc result : β} {before after : σ} (start : Inv [] acc before)
    (success : (items.foldlM step acc).run before = .ok result after) : Inv items result after := by
  have fromHere : ∀ (items done : List α) (acc : β) (before : σ), Inv done acc before →
      (items.foldlM step acc).run before = .ok result after → Inv (done ++ items) result after := by
    intro items
    induction items with
    | nil =>
      intro done acc before holds success
      cases success
      simpa using holds
    | cons item rest ih =>
      intro done acc before holds success
      rw [List.foldlM_cons] at success
      obtain ⟨acc', between, stepped, success⟩ := bind_eq_ok_iff.mp success
      have continued := ih (done ++ [item]) acc' between (next _ _ _ _ _ _ holds stepped) success
      rwa [List.append_assoc, List.singleton_append] at continued
  exact fromHere items [] acc before start success

/-- A condition on the item, the accumulator and the state of every pass that the loop reaches. -/
def AlongLoop (condition : α → β → σ → Prop) (step : β → α → EStateM ε σ β) : List α → β → σ → Prop
  | [], _, _ => True
  | item :: rest, acc, state => condition item acc state ∧
      ∀ acc' after, (step acc item).run state = .ok acc' after → AlongLoop condition step rest acc' after

theorem AlongLoop.of_forall {condition : α → β → σ → Prop} {step : β → α → EStateM ε σ β} {items : List α}
    (all : ∀ item ∈ items, ∀ acc state, condition item acc state) (acc : β) (state : σ) :
    AlongLoop condition step items acc state := by
  induction items generalizing acc state with
  | nil => trivial
  | cons item rest ih =>
    obtain ⟨now, later⟩ := List.forall_mem_cons.mp all
    exact ⟨now acc state, fun acc' after _ => ih later acc' after⟩

theorem AlongLoop.mono {first second : α → β → σ → Prop} {step : β → α → EStateM ε σ β} {items : List α}
    {acc : β} {state : σ} (along : AlongLoop first step items acc state)
    (weaker : ∀ item ∈ items, ∀ acc state, first item acc state → second item acc state) :
    AlongLoop second step items acc state := by
  induction items generalizing acc state with
  | nil => trivial
  | cons item rest ih =>
    obtain ⟨now, later⟩ := List.forall_mem_cons.mp weaker
    exact ⟨now acc state along.1, fun acc' after stepped => ih (along.2 acc' after stepped) later⟩

theorem alongLoop_congr {first second : α → β → σ → Prop} {step : β → α → EStateM ε σ β} {items : List α}
    (same : ∀ item ∈ items, ∀ acc state, first item acc state ↔ second item acc state) (acc : β) (state : σ) :
    AlongLoop first step items acc state ↔ AlongLoop second step items acc state :=
  ⟨fun along => along.mono fun item member acc state => (same item member acc state).mp,
    fun along => along.mono fun item member acc state => (same item member acc state).mpr⟩

/-- A loop returns exactly when every pass it reaches does. -/
theorem foldlM_returns_iff {step : β → α → EStateM ε σ β} {items : List α} {acc : β} {before : σ} :
    (∃ result after, (items.foldlM step acc).run before = .ok result after) ↔
      AlongLoop (fun item acc state => ∃ acc' after, (step acc item).run state = .ok acc' after) step
        items acc before := by
  induction items generalizing acc before with
  | nil => exact iff_of_true ⟨acc, before, rfl⟩ trivial
  | cons item rest ih =>
    rw [List.foldlM_cons, AlongLoop]
    constructor
    · rintro ⟨result, after, success⟩
      obtain ⟨acc', between, stepped, continued⟩ := bind_eq_ok_iff.mp success
      refine ⟨⟨acc', between, stepped⟩, fun acc'' other again => ?_⟩
      rw [stepped] at again
      cases again
      exact ih.mp ⟨result, after, continued⟩
    · rintro ⟨⟨acc', between, stepped⟩, later⟩
      obtain ⟨result, after, success⟩ := ih.mpr (later acc' between stepped)
      exact ⟨result, after, by rw [bind_of_ok stepped, success]⟩

/-- A loop returns when every step returns. -/
theorem foldlM_returns {step : β → α → EStateM ε σ β} {items : List α}
    (each : ∀ item ∈ items, ∀ acc before, ∃ acc' after, (step acc item).run before = .ok acc' after)
    (acc : β) (before : σ) : ∃ result after, (items.foldlM step acc).run before = .ok result after :=
  foldlM_returns_iff.mpr (.of_forall each acc before)

/-- The loop comes to a pass over `item`, with the accumulator and in the state of that pass. -/
inductive LoopReaches (step : β → α → EStateM ε σ β) : List α → β → σ → α → β → σ → Prop
  | here (item : α) (rest : List α) (acc : β) (state : σ) :
      LoopReaches step (item :: rest) acc state item acc state
  | later {first item : α} {rest : List α} {acc acc' reached : β} {state between met : σ}
      (stepped : (step acc first).run state = .ok acc' between)
      (reaches : LoopReaches step rest acc' between item reached met) :
      LoopReaches step (first :: rest) acc state item reached met

theorem LoopReaches.mem {step : β → α → EStateM ε σ β} {items : List α} {item : α} {acc reached : β}
    {state met : σ} (reaches : LoopReaches step items acc state item reached met) : item ∈ items := by
  induction reaches with
  | here => exact List.mem_cons_self
  | later _ _ ih => exact List.mem_cons_of_mem _ ih

/-- A loop that returned has come to every item, and that pass returned. -/
theorem loopReaches_of_mem {step : β → α → EStateM ε σ β} {items : List α} {acc result : β} {before after : σ}
    (success : (items.foldlM step acc).run before = .ok result after) {item : α} (member : item ∈ items) :
    ∃ reached met acc' left, LoopReaches step items acc before item reached met ∧
      (step reached item).run met = .ok acc' left := by
  induction items generalizing acc before with
  | nil => cases member
  | cons first rest ih =>
    rw [List.foldlM_cons] at success
    obtain ⟨acc', between, stepped, continued⟩ := bind_eq_ok_iff.mp success
    rcases List.mem_cons.mp member with rfl | later
    · exact ⟨acc, before, acc', between, .here .., stepped⟩
    · obtain ⟨reached, met, made, left, reaches, passed⟩ := ih continued later
      exact ⟨reached, met, made, left, .later stepped reaches, passed⟩

/-- What only a pass can bring about holds behind the loop exactly when it held before it or a pass
brought it about. -/
theorem foldlM_brings_iff (Fact : β → σ → Prop) (Brings : α → β → σ → Prop)
    {step : β → α → EStateM ε σ β} (each : ∀ item acc state acc' after,
      (step acc item).run state = .ok acc' after → (Fact acc' after ↔ Fact acc state ∨ Brings item acc state))
    {items : List α} {acc result : β} {before after : σ}
    (success : (items.foldlM step acc).run before = .ok result after) :
    Fact result after ↔ Fact acc before ∨
      ∃ item reached met, LoopReaches step items acc before item reached met ∧ Brings item reached met := by
  induction items generalizing acc before with
  | nil =>
    cases success
    refine (or_iff_left ?_).symm
    rintro ⟨item, reached, met, ⟨⟩, -⟩
  | cons item rest ih =>
    rw [List.foldlM_cons] at success
    obtain ⟨acc', between, stepped, continued⟩ := bind_eq_ok_iff.mp success
    rw [ih continued, each item acc before acc' between stepped, or_assoc]
    refine or_congr_right ⟨?_, ?_⟩
    · rintro (now | ⟨other, reached, met, reaches, brings⟩)
      · exact ⟨item, acc, before, .here .., now⟩
      · exact ⟨other, reached, met, .later stepped reaches, brings⟩
    · rintro ⟨other, reached, met, reaches, brings⟩
      cases reaches with
      | here => exact .inl brings
      | later again reaches =>
        rw [stepped] at again
        cases again
        exact .inr ⟨other, reached, met, reaches, brings⟩

/-! ## Retries -/

/-- Run, and again at most `further` times while the exception asks for it. -/
def retry (x : EStateM ε σ α) (again : ε → Bool) : ℕ → EStateM ε σ α
  | 0 => x
  | further + 1 => do
    match ← attempt x with
    | .ok value => pure value
    | .error raised => if again raised then retry x again further else throw raised

theorem retry_of_ok {x : EStateM ε σ α} {again : ε → Bool} {before after : σ} {value : α} (further : ℕ)
    (success : x.run before = .ok value after) : (retry x again further).run before = .ok value after := by
  cases further with
  | zero => exact success
  | succ further =>
    rw [retry, bind_of_ok (attempt_of_ok success)]
    rfl

theorem retry_of_error {x : EStateM ε σ α} {again : ε → Bool} {before after : σ} {raised : ε} (further : ℕ)
    (failure : x.run before = .error raised after) (retried : again raised = true) :
    (retry x again (further + 1)).run before = (retry x again further).run after := by
  rw [retry, bind_of_ok (attempt_of_error failure)]
  dsimp only
  rw [if_pos retried]

theorem keeps_retry {R : σ → σ → Prop} [IsPreorder σ R] {x : EStateM ε σ α} (keeps : Keeps R x)
    (again : ε → Bool) (further : ℕ) : Keeps R (retry x again further) := by
  induction further with
  | zero => exact keeps
  | succ further ih =>
    refine keeps_bind (keeps_attempt keeps) fun reply => ?_
    cases reply with
    | ok value => exact keeps_pure value
    | error raised =>
      dsimp only
      split
      · exact ih
      · exact fun state => refl_of R state

/-- What the attempts raise is what the retried computation can raise. -/
theorem retry_raises (Expected : ε → Prop) {x : EStateM ε σ α} {again : ε → Bool}
    (raises : ∀ before raised after, x.run before = .error raised after → Expected raised) {further : ℕ}
    {before after : σ} {raised : ε} (failure : (retry x again further).run before = .error raised after) :
    Expected raised := by
  induction further generalizing before with
  | zero => exact raises _ _ _ failure
  | succ further ih =>
    cases tried : x.run before with
    | ok value between =>
      rw [retry_of_ok _ tried] at failure
      cases failure
    | error first between =>
      cases retried : again first with
      | true =>
        rw [retry_of_error further tried retried] at failure
        exact ih failure
      | false =>
        rw [retry, bind_of_ok (attempt_of_error tried)] at failure
        dsimp only at failure
        rw [retried] at failure
        cases failure
        exact raises _ _ _ tried

/-! ## Mirrors -/

section Mirrors

variable {γ δ : Type}

/-- The end of a run agrees with a partial result: it returned, related to the result, when there is
one, and raised when there is none. -/
def Mirrors (Rel : γ → α → σ → Prop) (expected : Option γ) (result : EStateM.Result ε σ α) : Prop :=
  match expected with
  | some model => ∃ value state, result = .ok value state ∧ Rel model value state
  | none => raises result = true

theorem Mirrors.raises_iff {Rel : γ → α → σ → Prop} {expected : Option γ} {result : EStateM.Result ε σ α}
    (mirrors : Mirrors Rel expected result) : raises result = true ↔ expected = none := by
  cases expected with
  | none => exact iff_of_true mirrors rfl
  | some model =>
    obtain ⟨value, state, rfl, -⟩ := mirrors
    exact iff_of_false Bool.false_ne_true (Option.some_ne_none model)

/-- A result that mirrors a model comes from what was expected. -/
theorem Mirrors.of_ok {Rel : γ → α → σ → Prop} {expected : Option γ} {value : α} {after : σ}
    (mirrors : Mirrors Rel expected (EStateM.Result.ok value after : EStateM.Result ε σ α)) :
    ∃ model, expected = some model ∧ Rel model value after := by
  cases expected with
  | none => cases mirrors
  | some model =>
    obtain ⟨value', state, same, related⟩ := mirrors
    cases same
    exact ⟨model, rfl, related⟩

/-- A sequence is mirrored by a bind of what mirrors its parts. -/
theorem mirrors_bind {Rel : γ → α → σ → Prop} {Next : δ → β → σ → Prop} {x : EStateM ε σ α}
    {f : α → EStateM ε σ β} {expected : Option γ} {next : γ → Option δ} {before : σ}
    (first : Mirrors Rel expected (x.run before))
    (continues : ∀ model value state, Rel model value state →
      Mirrors Next (next model) ((f value).run state)) :
    Mirrors Next (expected.bind next) ((x >>= f).run before) := by
  cases expected with
  | none =>
    obtain ⟨error, state, failure⟩ := exists_of_raises first
    rw [bind_of_error failure]
    rfl
  | some model =>
    obtain ⟨value, state, success, related⟩ := first
    rw [bind_of_ok success]
    exact continues model value state related

/-- Rewriting the returned value does not move the end of a run. -/
theorem Mirrors.map {Rel : γ → α → σ → Prop} {Next : γ → β → σ → Prop} {x : EStateM ε σ α} {g : α → β}
    {expected : Option γ} {before : σ} (mirrors : Mirrors Rel expected (x.run before))
    (maps : ∀ model value state, Rel model value state → Next model (g value) state) :
    Mirrors Next expected ((x >>= fun value => pure (g value)).run before) := by
  have pures (model : γ) (value : α) (state : σ) (related : Rel model value state) :
      Mirrors Next (some model) ((pure (g value) : EStateM ε σ β).run state) :=
    ⟨g value, state, rfl, maps model value state related⟩
  have bound := mirrors_bind mirrors pures
  rwa [Option.bind_fun_some] at bound

/-- A loop is mirrored by the loop of what mirrors its step. -/
theorem mirrors_foldlM {Rel : γ → β → σ → Prop} {step : β → α → EStateM ε σ β} {mirror : γ → α → Option γ}
    (each : ∀ model acc state item, Rel model acc state →
      Mirrors Rel (mirror model item) ((step acc item).run state))
    (items : List α) {model : γ} {acc : β} {before : σ} (start : Rel model acc before) :
    Mirrors Rel (items.foldlM mirror model) ((items.foldlM step acc).run before) := by
  induction items generalizing model acc before with
  | nil => exact ⟨acc, before, rfl, start⟩
  | cons item rest ih =>
    rw [List.foldlM_cons, List.foldlM_cons]
    exact mirrors_bind (each model acc before item start) fun _ _ _ related => ih related

end Mirrors

end EffectRun
