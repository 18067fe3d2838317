import Bsrs.Library.Run

namespace Bsrs.Library

/-- What a run does, in order: each step it takes adds what it `emits` where it is made. -/
def record (step : γ → ℓ → Option γ) (emits : γ → ℓ → List ε) : γ → List ℓ → List ε
  | _, [] => []
  | start, label :: rest =>
      emits start label ++ ((step start label).map fun next => record step emits next rest).getD []

section

variable {step : γ → ℓ → Option γ} {emits : γ → ℓ → List ε}

theorem record_cons {start next : γ} {label : ℓ} (stepped : step start label = some next)
    (rest : List ℓ) :
    record step emits start (label :: rest) = emits start label ++ record step emits next rest := by
  rw [record, stepped, Option.map_some, Option.getD_some]

/-- The invariant rule for a state and the record of how it was reached. -/
theorem exec_record (holds : γ → List ε → Prop) {allowed : γ → ℓ → Prop}
    (preserved : ∀ before label after past, step before label = some after →
      allowed before label → holds before past → holds after (past ++ emits before label)) :
    ∀ {labels : List ℓ} {start reached : γ} {past : List ε}, exec step start labels = some reached →
      Throughout step allowed start labels → holds start past →
      holds reached (past ++ record step emits start labels) := by
  intro labels
  induction labels with
  | nil =>
      intro start reached past trace _ initial
      cases trace
      simpa only [record, List.append_nil] using initial
  | cons label rest ih =>
      intro start reached past trace permitted initial
      obtain ⟨next, stepped, remaining⟩ := exec_cons trace
      rw [record_cons stepped, ← List.append_assoc]
      exact ih remaining (permitted.2 next stepped)
        (preserved start label next past stepped permitted.1 initial)

/-- The record of the labels alone. -/
theorem record_labels {labels : List ℓ} {start reached : γ}
    (trace : exec step start labels = some reached) :
    record step (fun _ label => [label]) start labels = labels := by
  induction labels generalizing start with
  | nil => rfl
  | cons label rest ih =>
      obtain ⟨next, stepped, remaining⟩ := exec_cons trace
      rw [record_cons stepped, ih remaining]
      rfl

end

end Bsrs.Library
