import Mathlib

/-! # Checks that collect their errors

A check of an input is valid with a value, invalid with at least one error, or aborted by an exception
that is not an error of the input. Checks combined with `ap` report the errors of all of them, in order,
unless one aborts; `andThen` checks a value only once it is there. `collect` runs one check for each
item of a list: it aborts exactly when one of them does, and otherwise returns the values of the valid
items and the errors of the invalid ones, both in order.
-/

/-- The outcome of a check. -/
inductive Checked (ε κ α : Type) where
  | aborted (exception : ε)
  | invalid (first : κ) (more : List κ)
  | valid (value : α)
deriving DecidableEq, Repr

namespace Checked

variable {ε κ κ' α β : Type}

def isAborted : Checked ε κ α → Bool
  | aborted _ => true
  | _ => false

/-- The errors that the check reports. -/
def errors : Checked ε κ α → List κ
  | invalid first more => first :: more
  | _ => []

def value? : Checked ε κ α → Option α
  | valid value => some value
  | _ => none

/-- Both checks; the second one runs unless the first one aborts. -/
def ap : Checked ε κ (α → β) → Checked ε κ α → Checked ε κ β
  | aborted exception, _ => aborted exception
  | _, aborted exception => aborted exception
  | invalid first more, invalid next others => invalid first (more ++ next :: others)
  | invalid first more, valid _ => invalid first more
  | valid _, invalid first more => invalid first more
  | valid build, valid value => valid (build value)

/-- A further check of a valid value. -/
def andThen : Checked ε κ α → (α → Checked ε κ β) → Checked ε κ β
  | aborted exception, _ => aborted exception
  | invalid first more, _ => invalid first more
  | valid value, next => next value

@[simp] theorem isAborted_valid (value : α) : (valid value : Checked ε κ α).isAborted = false := rfl

@[simp] theorem isAborted_invalid (first : κ) (more : List κ) :
    (invalid first more : Checked ε κ α).isAborted = false := rfl

@[simp] theorem isAborted_aborted (exception : ε) :
    (aborted exception : Checked ε κ α).isAborted = true := rfl

@[simp] theorem isAborted_ap (build : Checked ε κ (α → β)) (check : Checked ε κ α) :
    (build.ap check).isAborted = (build.isAborted || check.isAborted) := by
  cases build <;> cases check <;> rfl

/-- Combined checks are valid together. -/
theorem ap_eq_valid_iff {build : Checked ε κ (α → β)} {check : Checked ε κ α} {result : β} :
    build.ap check = valid result ↔
      ∃ function value, build = valid function ∧ check = valid value ∧ function value = result := by
  cases build <;> cases check <;> simp [ap]

theorem value?_eq_some_iff {check : Checked ε κ α} {value : α} :
    check.value? = some value ↔ check = valid value := by
  cases check <;> simp [value?]

/-- Whether the check has a value. -/
def isValid (check : Checked ε κ α) : Bool := check.value?.isSome

@[simp] theorem isValid_ap (build : Checked ε κ (α → β)) (check : Checked ε κ α) :
    (build.ap check).isValid = (build.isValid && check.isValid) := by
  cases build <;> cases check <;> rfl

theorem isValid_of_andThen {check : Checked ε κ α} {next : α → Checked ε κ β}
    (accepted : (check.andThen next).isValid = true) : check.isValid = true := by
  cases check with
  | aborted exception => cases accepted
  | invalid first more => cases accepted
  | valid value => rfl

/-- Without an abort, the check has a value or reports errors. -/
theorem errors_ne_nil_iff {check : Checked ε κ α} (runs : check.isAborted = false) :
    check.errors ≠ [] ↔ check.isValid = false := by
  cases check with
  | aborted exception => cases runs
  | invalid first more => simp [errors, isValid, value?]
  | valid value => simp [errors, isValid, value?]

/-- The value of a valid check has a property. -/
def All (property : α → Prop) (check : Checked ε κ α) : Prop := ∀ value, check = valid value → property value

theorem All.valid {property : α → Prop} {value : α} (holds : property value) :
    All property (valid value : Checked ε κ α) := by
  rintro _ ⟨⟩
  exact holds

theorem All.ap {property : β → Prop} {build : Checked ε κ (α → β)}
    (holds : All (fun function => ∀ value, property (function value)) build) (check : Checked ε κ α) :
    All property (build.ap check) := by
  intro result valid
  cases build with
  | aborted exception => cases valid
  | invalid first more => cases check <;> cases valid
  | valid function =>
    cases check with
    | aborted exception => cases valid
    | invalid first more => cases valid
    | valid value =>
      cases valid
      exact holds function rfl value

/-- A further check that never aborts does not add a way to abort. -/
theorem isAborted_andThen {check : Checked ε κ α} {next : α → Checked ε κ β}
    (never : All (fun value => (next value).isAborted = false) check) :
    (check.andThen next).isAborted = check.isAborted := by
  cases check with
  | aborted exception => rfl
  | invalid first more => rfl
  | valid value => exact never value rfl

/-- A check is valid, aborted, or reports errors. -/
theorem errors_eq_nil_iff {check : Checked ε κ α} (runs : check.isAborted = false) :
    check.errors = [] ↔ ∃ value, check = valid value := by
  cases check with
  | aborted exception => cases runs
  | invalid first more => simp [errors]
  | valid value => simp [errors]

variable {γ : Type}

/-- The values and the errors collected so far. -/
structure Collected (κ α : Type) where
  values : List α := []
  errors : List κ := []

/-- One more item; its errors are translated with the item at hand. -/
def collectStep (check : γ → Checked ε κ α) (report : γ → κ → κ') (collected : Collected κ' α) (item : γ) :
    Except ε (Collected κ' α) :=
  match check item with
  | aborted exception => .error exception
  | invalid first more =>
    .ok { collected with errors := collected.errors ++ (first :: more).map (report item) }
  | valid value => .ok { collected with values := collected.values ++ [value] }

/-- Check every item in order. -/
def collect (check : γ → Checked ε κ α) (report : γ → κ → κ') (items : List γ) : Except ε (Collected κ' α) :=
  items.foldlM (collectStep check report) {}

theorem collectStep_of_not_aborted {check : γ → Checked ε κ α} {report : γ → κ → κ'} {item : γ}
    (runs : (check item).isAborted = false) (collected : Collected κ' α) :
    collectStep check report collected item = .ok
      { values := collected.values ++ (check item).value?.toList
        errors := collected.errors ++ (check item).errors.map (report item) } := by
  unfold collectStep
  cases outcome : check item with
  | aborted exception =>
    rw [outcome] at runs
    cases runs
  | invalid first more => simp [value?, Checked.errors]
  | valid value => simp [value?, Checked.errors]

theorem foldlM_collectStep {check : γ → Checked ε κ α} {report : γ → κ → κ'} {items : List γ}
    (run : ∀ item ∈ items, (check item).isAborted = false) (collected : Collected κ' α) :
    items.foldlM (collectStep check report) collected = .ok
      { values := collected.values ++ items.filterMap fun item => (check item).value?
        errors := collected.errors ++ items.flatMap fun item => (check item).errors.map (report item) } := by
  induction items generalizing collected with
  | nil => simp [pure, Except.pure]
  | cons item rest ih =>
    obtain ⟨now, later⟩ := List.forall_mem_cons.mp run
    rw [List.foldlM_cons, collectStep_of_not_aborted now]
    change rest.foldlM (collectStep check report) _ = _
    rw [ih later]
    cases value : (check item).value? <;> simp [value]

/-- Without an abort, everything is collected. -/
theorem collect_of_run {check : γ → Checked ε κ α} {report : γ → κ → κ'} {items : List γ}
    (run : ∀ item ∈ items, (check item).isAborted = false) :
    collect check report items = .ok
      { values := items.filterMap fun item => (check item).value?
        errors := items.flatMap fun item => (check item).errors.map (report item) } :=
  foldlM_collectStep run {}

/-- One aborted check aborts the whole. -/
theorem collect_of_aborted {check : γ → Checked ε κ α} {report : γ → κ → κ'} {items : List γ} {item : γ}
    (member : item ∈ items) (aborts : (check item).isAborted = true) :
    ∃ exception, collect check report items = .error exception := by
  unfold collect
  generalize ({} : Collected κ' α) = collected
  induction items generalizing collected with
  | nil => cases member
  | cons head rest ih =>
    rw [List.foldlM_cons]
    unfold collectStep
    cases outcome : check head with
    | aborted exception => exact ⟨exception, rfl⟩
    | invalid first more =>
      rcases List.mem_cons.mp member with rfl | later
      · rw [outcome] at aborts
        cases aborts
      · exact ih later _
    | valid value =>
      rcases List.mem_cons.mp member with rfl | later
      · rw [outcome] at aborts
        cases aborts
      · exact ih later _

/-- Where no errors are reported, the values belong to the items one by one. -/
theorem forall₂_of_no_errors {check : γ → Checked ε κ α} {items : List γ}
    (run : ∀ item ∈ items, (check item).isAborted = false)
    (accepted : ∀ item ∈ items, (check item).errors = []) :
    List.Forall₂ (fun item value => check item = valid value) items
      (items.filterMap fun item => (check item).value?) := by
  induction items with
  | nil => exact .nil
  | cons item rest ih =>
    obtain ⟨runNow, runLater⟩ := List.forall_mem_cons.mp run
    obtain ⟨acceptedNow, acceptedLater⟩ := List.forall_mem_cons.mp accepted
    obtain ⟨value, outcome⟩ := (errors_eq_nil_iff runNow).mp acceptedNow
    rw [List.filterMap_cons, outcome]
    exact .cons outcome (ih runLater acceptedLater)

end Checked
