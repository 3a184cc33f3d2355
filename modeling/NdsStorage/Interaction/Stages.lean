import Mathlib.Data.List.Basic

/-! Procedures that change a state in place and return at the first failure.
What a procedure has changed before it fails stays changed. -/
namespace Interaction

variable {State Failure : Type}

/-- Run stages in order. A stage that fails leaves the state as it found it. -/
def runStages : List (State → Except Failure State) → State → Except Failure Unit × State
  | [], state => (.ok (), state)
  | stage :: stages, state =>
      match stage state with
      | .error failure => (.error failure, state)
      | .ok next => runStages stages next

variable {stage : State → Except Failure State}
variable {stages first second : List (State → Except Failure State)}
  {state next : State} {failure : Failure}

/-- A stage that succeeds hands over to the next one. -/
theorem runStages_ok (h : stage state = .ok next) :
    runStages (stage :: stages) state = runStages stages next := by
  rw [runStages, h]

theorem runStages_error (h : stage state = .error failure) :
    runStages (stage :: stages) state = (.error failure, state) := by
  rw [runStages, h]

/-- A procedure that ends well has passed its first stage. -/
theorem runStages_first (h : (runStages (stage :: stages) state).1 = .ok ()) :
    ∃ next, stage state = .ok next ∧ (runStages stages next).1 = .ok () := by
  cases hStage : stage state with
  | error failure =>
      rw [runStages_error hStage] at h
      cases h
  | ok next =>
      rw [runStages_ok hStage] at h
      exact ⟨next, rfl, h⟩

/-- The second part begins where the first has succeeded. -/
theorem runStages_append_ok (h : (runStages first state).1 = .ok ()) :
    runStages (first ++ second) state = runStages second (runStages first state).2 := by
  induction first generalizing state with
  | nil => rfl
  | cons stage stages ih =>
      obtain ⟨next, hStage, hRest⟩ := runStages_first h
      rw [List.cons_append, runStages_ok hStage, runStages_ok hStage, ih hRest]

/-- A failure in the first part skips the second. -/
theorem runStages_append_error (h : (runStages first state).1 = .error failure) :
    runStages (first ++ second) state = runStages first state := by
  induction first generalizing state with
  | nil => cases h
  | cons stage stages ih =>
      cases hStage : stage state with
      | error other => rw [List.cons_append, runStages_error hStage, runStages_error hStage]
      | ok next =>
          rw [runStages_ok hStage] at h
          rw [List.cons_append, runStages_ok hStage, runStages_ok hStage, ih h]

/-- What every stage keeps holds wherever the procedure ends. -/
theorem runStages_invariant {invariant : State → Prop}
    (hKeeps : ∀ stage ∈ stages, ∀ state next, invariant state → stage state = .ok next →
      invariant next)
    (h : invariant state) : invariant (runStages stages state).2 := by
  induction stages generalizing state with
  | nil => exact h
  | cons stage stages ih =>
      rw [List.forall_mem_cons] at hKeeps
      cases hStage : stage state with
      | error failure =>
          rw [runStages_error hStage]
          exact h
      | ok next =>
          rw [runStages_ok hStage]
          exact ih hKeeps.2 (hKeeps.1 state next h hStage)

end Interaction
