namespace Bsrs.Library

/-- Drive a labelled step function along a list of labels; `none` once a label does not apply. -/
def exec (step : γ → ℓ → Option γ) : γ → List ℓ → Option γ
  | start, [] => some start
  | start, label :: rest => (step start label).bind fun next => exec step next rest

section

variable {step : γ → ℓ → Option γ}

theorem exec_cons {start reached : γ} {label : ℓ} {rest : List ℓ}
    (trace : exec step start (label :: rest) = some reached) :
    ∃ next, step start label = some next ∧ exec step next rest = some reached := by
  simp only [exec] at trace
  cases stepped : step start label with
  | none =>
      rw [stepped] at trace
      cases trace
  | some next =>
      rw [stepped] at trace
      exact ⟨next, rfl, trace⟩

theorem exec_append (start : γ) (first second : List ℓ) :
    exec step start (first ++ second) =
      (exec step start first).bind fun middle => exec step middle second := by
  induction first generalizing start with
  | nil => rfl
  | cons label rest ih =>
      cases stepped : step start label with
      | none => simp [exec, stepped]
      | some next => simp [exec, stepped, ih]

/-- What every step preserves holds wherever a run arrives. -/
theorem exec_invariant (holds : γ → Prop)
    (preserved : ∀ before label after, step before label = some after → holds before → holds after) :
    ∀ {labels : List ℓ} {start reached : γ},
      exec step start labels = some reached → holds start → holds reached := by
  intro labels
  induction labels with
  | nil =>
      intro start reached trace initial
      cases trace
      exact initial
  | cons label rest ih =>
      intro start reached trace initial
      obtain ⟨next, stepped, remaining⟩ := exec_cons trace
      exact ih remaining (preserved start label next stepped initial)

/-- The invariant rule for a property that may foresee the labels to come. -/
theorem exec_invariant_ahead (holds : List ℓ → γ → Prop)
    (preserved : ∀ before label rest after, step before label = some after →
      holds (label :: rest) before → holds rest after) :
    ∀ {labels : List ℓ} {start reached : γ},
      exec step start labels = some reached → holds labels start → holds [] reached := by
  intro labels
  induction labels with
  | nil =>
      intro start reached trace initial
      cases trace
      exact initial
  | cons label rest ih =>
      intro start reached trace initial
      obtain ⟨next, stepped, remaining⟩ := exec_cons trace
      exact ih remaining (preserved start label rest next stepped initial)

/-- Every step the labels make from `start` on is allowed where it is made. -/
def Throughout (step : γ → ℓ → Option γ) (allowed : γ → ℓ → Prop) : γ → List ℓ → Prop
  | _, [] => True
  | start, label :: rest =>
      allowed start label ∧ ∀ next ∈ step start label, Throughout step allowed next rest

instance Throughout.decidable {allowed : γ → ℓ → Prop}
    [∀ point label, Decidable (allowed point label)] :
    ∀ start labels, Decidable (Throughout step allowed start labels)
  | _, [] => isTrue trivial
  | start, label :: rest =>
      have _later : ∀ next, Decidable (Throughout step allowed next rest) :=
        fun next => Throughout.decidable next rest
      inferInstanceAs (Decidable (allowed start label ∧
        ∀ next ∈ step start label, Throughout step allowed next rest))

/-- Two conditions that hold throughout hold together throughout. -/
theorem Throughout.and {first second : γ → ℓ → Prop} {labels : List ℓ} {start : γ}
    (one : Throughout step first start labels) (other : Throughout step second start labels) :
    Throughout step (fun point label => first point label ∧ second point label) start labels := by
  induction labels generalizing start with
  | nil => trivial
  | cons label rest ih =>
      exact ⟨⟨one.1, other.1⟩, fun next stepped => ih (one.2 next stepped) (other.2 next stepped)⟩

/-- What is allowed everywhere is allowed throughout. -/
theorem Throughout.of_forall {allowed : γ → ℓ → Prop}
    (everywhere : ∀ point label, allowed point label) (start : γ) (labels : List ℓ) :
    Throughout step allowed start labels := by
  induction labels generalizing start with
  | nil => trivial
  | cons label rest ih => exact ⟨everywhere start label, fun next _ => ih next⟩

/-- What is known of every label may be asked of every step besides. -/
theorem Throughout.of_labels {allowed : γ → ℓ → Prop} {known : ℓ → Prop} :
    ∀ {labels : List ℓ} {start : γ}, Throughout step allowed start labels →
      (∀ label ∈ labels, known label) →
      Throughout step (fun point label => allowed point label ∧ known label) start labels := by
  intro labels
  induction labels with
  | nil => exact fun _ _ => trivial
  | cons label rest ih =>
      intro start permitted each
      refine ⟨⟨permitted.1, each label (by simp)⟩, fun next stepped => ?_⟩
      exact ih (permitted.2 next stepped) fun other member => each other (by simp [member])

/-- What the invariant gives of every allowed step holds of all steps of a run. -/
theorem Throughout.of_invariant (holds : γ → Prop) {allowed checked : γ → ℓ → Prop}
    (preserved : ∀ before label after, step before label = some after →
      allowed before label → holds before → holds after)
    (checks : ∀ point label, allowed point label → holds point → checked point label) :
    ∀ {labels : List ℓ} {start : γ}, Throughout step allowed start labels → holds start →
      Throughout step checked start labels := by
  intro labels
  induction labels with
  | nil => exact fun _ _ => trivial
  | cons label rest ih =>
      intro start permitted initial
      refine ⟨checks start label permitted.1 initial, fun next stepped => ?_⟩
      exact ih (permitted.2 next stepped)
        (preserved start label next stepped permitted.1 initial)

/-- Two checks that agree under an invariant of every step agree over all runs. -/
theorem Throughout.congr_invariant (holds : γ → Prop) {first second : γ → ℓ → Prop}
    (preserved : ∀ before label after, step before label = some after → holds before → holds after)
    (agree : ∀ point label, holds point → (first point label ↔ second point label))
    {labels : List ℓ} {start : γ} (initial : holds start) :
    Throughout step first start labels ↔ Throughout step second start labels := by
  constructor
  · intro checked
    exact checked.of_invariant holds
      (fun before label after stepped _ => preserved before label after stepped)
      (fun point label check held => (agree point label held).mp check) initial
  · intro checked
    exact checked.of_invariant holds
      (fun before label after stepped _ => preserved before label after stepped)
      (fun point label check held => (agree point label held).mpr check) initial

/-- The invariant rule for runs whose every step is allowed. -/
theorem exec_invariant_throughout (holds : γ → Prop) {allowed : γ → ℓ → Prop}
    (preserved : ∀ before label after, step before label = some after →
      allowed before label → holds before → holds after) :
    ∀ {labels : List ℓ} {start reached : γ}, exec step start labels = some reached →
      Throughout step allowed start labels → holds start → holds reached := by
  intro labels
  induction labels with
  | nil =>
      intro start reached trace _ initial
      cases trace
      exact initial
  | cons label rest ih =>
      intro start reached trace permitted initial
      obtain ⟨next, stepped, remaining⟩ := exec_cons trace
      exact ih remaining (permitted.2 next stepped)
        (preserved start label next stepped permitted.1 initial)

/-- Steps that each lower a rank make a run no longer than the rank it starts from. -/
theorem exec_descends (holds : γ → Prop) {allowed : ℓ → Prop} (rank : γ → Nat)
    (preserved : ∀ before label after, step before label = some after → holds before → holds after)
    (lower : ∀ before label after, step before label = some after → allowed label → holds before →
      rank after < rank before) :
    ∀ {labels : List ℓ} {start reached : γ}, exec step start labels = some reached →
      (∀ label ∈ labels, allowed label) → holds start → rank reached + labels.length ≤ rank start := by
  intro labels
  induction labels with
  | nil =>
      intro start reached trace _ _
      cases trace
      exact Nat.le_refl _
  | cons label rest ih =>
      intro start reached trace each initial
      obtain ⟨next, stepped, remaining⟩ := exec_cons trace
      have first := lower start label next stepped (each label List.mem_cons_self) initial
      have later := ih remaining (fun other member => each other (List.mem_cons_of_mem _ member))
        (preserved start label next stepped initial)
      rw [List.length_cons]
      omega

/-- Two systems whose steps answer to each other under every label do so along every run. -/
theorem exec_alike {other : δ → ℓ → Option δ} {same : γ → δ → Prop}
    (kept : ∀ left right label, same left right →
      Option.Rel same (step left label) (other right label)) :
    ∀ (labels : List ℓ) {left : γ} {right : δ}, same left right →
      Option.Rel same (exec step left labels) (exec other right labels) := by
  intro labels
  induction labels with
  | nil => exact fun initial => .some initial
  | cons label rest ih =>
      intro left right initial
      have stepped := kept left right label initial
      simp only [exec]
      cases first : step left label with
      | none =>
          rw [first] at stepped
          cases second : other right label with
          | none => exact .none
          | some reached =>
              rw [second] at stepped
              cases stepped
      | some next =>
          rw [first] at stepped
          cases second : other right label with
          | none =>
              rw [second] at stepped
              cases stepped
          | some reached =>
              rw [second] at stepped
              cases stepped with
              | some paired => exact ih paired

/-- A system follows another along every run whose steps are allowed, when it follows each step. -/
theorem exec_follows {other : δ → ℓ → Option δ} {follows : γ → δ → Prop} {allowed : γ → ℓ → Prop}
    (kept : ∀ left right label next, follows left right → allowed left label →
      step left label = some next → ∃ reached, other right label = some reached ∧ follows next reached) :
    ∀ {labels : List ℓ} {left arrived : γ} {right : δ}, exec step left labels = some arrived →
      Throughout step allowed left labels → follows left right →
      ∃ reached, exec other right labels = some reached ∧ follows arrived reached := by
  intro labels
  induction labels with
  | nil =>
      intro left arrived right trace _ initial
      cases trace
      exact ⟨right, rfl, initial⟩
  | cons label rest ih =>
      intro left arrived right trace permitted initial
      obtain ⟨next, stepped, remaining⟩ := exec_cons trace
      obtain ⟨middle, answered, paired⟩ := kept left right label next initial permitted.1 stepped
      obtain ⟨reached, ran, final⟩ := ih remaining (permitted.2 next stepped) paired
      exact ⟨reached, by simp [exec, answered, ran], final⟩

end

end Bsrs.Library
