import ReconcileFlow.ToMathlib.EffectRun

/-! # Images of runs

Erasing a part of the state is a map on states. A computation whose run on the image of a state is the
image of another computation's run cannot depend on what is erased, nor pass it on. `MapsRun` is that
relation between two computations, with a map for their values; it composes along `bind`, `attempt`,
loops and retries.
-/

namespace EffectRun

variable {ε σ τ α α' β β' γ γ' : Type}

/-- A result with the images of its value and its state. -/
def mapResult (onState : σ → τ) (onValue : α → α') : EStateM.Result ε σ α → EStateM.Result ε τ α'
  | .ok value state => .ok (onValue value) (onState state)
  | .error raised state => .error raised (onState state)

/-- From the image of a state, `y` does the image of what `x` does from the state. -/
def MapsRun (onState : σ → τ) (onValue : α → α') (x : EStateM ε σ α) (y : EStateM ε τ α') : Prop :=
  ∀ state, y.run (onState state) = mapResult onState onValue (x.run state)

variable {onState : σ → τ}

theorem mapsRun_pure {onValue : α → α'} {value : α} {value' : α'} (same : value' = onValue value) :
    MapsRun onState onValue (pure value : EStateM ε σ α) (pure value') := by
  subst same
  exact fun _ => rfl

theorem mapsRun_throw (onValue : α → α') (raised : ε) :
    MapsRun onState onValue (throw raised : EStateM ε σ α) (throw raised) := fun _ => rfl

theorem mapsRun_bind {onValue : α → α'} {onNext : β → β'} {x : EStateM ε σ α} {y : EStateM ε τ α'}
    {f : α → EStateM ε σ β} {g : α' → EStateM ε τ β'} (first : MapsRun onState onValue x y)
    (next : ∀ value, MapsRun onState onNext (f value) (g (onValue value))) :
    MapsRun onState onNext (x >>= f) (y >>= g) := by
  intro state
  rw [EStateM.run_bind, EStateM.run_bind, first state]
  cases x.run state with
  | ok value between => exact next value between
  | error raised between => rfl

theorem mapsRun_attempt {onValue : α → α'} {x : EStateM ε σ α} {y : EStateM ε τ α'}
    (maps : MapsRun onState onValue x y) : MapsRun onState (Except.map onValue) (attempt x) (attempt y) := by
  intro state
  rw [run_attempt, run_attempt, maps state]
  cases x.run state with
  | ok value after => rfl
  | error raised after => rfl

/-- A computation whose value has no image of its own. -/
theorem mapsRun_attempt_id {x : EStateM ε σ α} {y : EStateM ε τ α} (maps : MapsRun onState id x y) :
    MapsRun onState id (attempt x) (attempt y) := by
  intro state
  rw [run_attempt, run_attempt, maps state]
  cases x.run state with
  | ok value after => rfl
  | error raised after => rfl

theorem mapsRun_foldlM {onItem : γ → γ'} {onAcc : β → β'} {step : β → γ → EStateM ε σ β}
    {step' : β' → γ' → EStateM ε τ β'}
    (each : ∀ acc item, MapsRun onState onAcc (step acc item) (step' (onAcc acc) (onItem item)))
    (items : List γ) (acc : β) :
    MapsRun onState onAcc (items.foldlM step acc) ((items.map onItem).foldlM step' (onAcc acc)) := by
  induction items generalizing acc with
  | nil => exact mapsRun_pure rfl
  | cons item rest ih =>
    rw [List.map_cons, List.foldlM_cons, List.foldlM_cons]
    exact mapsRun_bind (each acc item) ih

/-- A loop over the same items. -/
theorem mapsRun_foldlM_id {onAcc : β → β'} {step : β → γ → EStateM ε σ β} {step' : β' → γ → EStateM ε τ β'}
    (each : ∀ acc item, MapsRun onState onAcc (step acc item) (step' (onAcc acc) item)) (items : List γ) (acc : β) :
    MapsRun onState onAcc (items.foldlM step acc) (items.foldlM step' (onAcc acc)) := by
  have mapped : MapsRun onState onAcc (items.foldlM step acc) ((items.map id).foldlM step' (onAcc acc)) :=
    mapsRun_foldlM each items acc
  rwa [List.map_id] at mapped

theorem mapsRun_retry {onValue : α → α'} {x : EStateM ε σ α} {y : EStateM ε τ α'}
    (maps : MapsRun onState onValue x y) (again : ε → Bool) (further : ℕ) :
    MapsRun onState onValue (retry x again further) (retry y again further) := by
  induction further with
  | zero => exact maps
  | succ further ih =>
    refine mapsRun_bind (mapsRun_attempt maps) fun reply => ?_
    cases reply with
    | ok value => exact mapsRun_pure rfl
    | error raised =>
      change MapsRun onState onValue (if again raised then retry x again further else throw raised)
        (if again raised then retry y again further else throw raised)
      split
      · exact ih
      · exact mapsRun_throw onValue raised

end EffectRun
