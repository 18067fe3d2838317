import Mathlib.Order.Defs.Unbundled

namespace Bsrs.Library

/-- A computation on a state that returns or fails and keeps the state it reached either way. -/
def Action (σ ε α : Type) := σ → Except ε α × σ

namespace Action

variable {σ ε α β : Type}

protected def pure (value : α) : Action σ ε α :=
  fun state => (.ok value, state)

protected def bind (first : Action σ ε α) (next : α → Action σ ε β) : Action σ ε β :=
  fun state =>
    match first state with
    | (.ok value, reached) => next value reached
    | (.error failure, reached) => (.error failure, reached)

instance : Monad (Action σ ε) where
  pure := Action.pure
  bind := Action.bind

/-- Read something off the state. -/
def ask (view : σ → α) : Action σ ε α :=
  fun state => (.ok (view state), state)

/-- Update the state. -/
def modify (update : σ → σ) : Action σ ε Unit :=
  fun state => (.ok (), update state)

/-- Read something off the state and update it in one step. -/
def advance (step : σ → α × σ) : Action σ ε α :=
  fun state => (.ok (step state).1, (step state).2)

def fail (failure : ε) : Action σ ε α :=
  fun state => (.error failure, state)

def lift (outcome : Except ε α) : Action σ ε α :=
  fun state => (outcome, state)

/-- Turn a failure into a value; the state reached stays. -/
def attempt (body : Action σ ε α) : Action σ ε (Except ε α) :=
  fun state => (.ok (body state).1, (body state).2)

/-- Run `body` on every element, in order, up to the first failure. -/
def each (body : α → Action σ ε Unit) : List α → Action σ ε Unit
  | [] => pure ()
  | item :: rest => do
      body item
      each body rest

/-- Run `body` on every element, in order, and gather the results. -/
def gather (body : α → Action σ ε β) : List α → Action σ ε (List β)
  | [] => pure []
  | item :: rest => do
      let first ← body item
      let others ← gather body rest
      pure (first :: others)

@[simp]
theorem pure_apply (value : α) (state : σ) :
    (pure value : Action σ ε α) state = (.ok value, state) := rfl

theorem bind_apply (first : Action σ ε α) (next : α → Action σ ε β) (state : σ) :
    (first >>= next) state =
      match first state with
      | (.ok value, reached) => next value reached
      | (.error failure, reached) => (.error failure, reached) := rfl

@[simp]
theorem ask_apply (view : σ → α) (state : σ) :
    (ask view : Action σ ε α) state = (.ok (view state), state) := rfl

@[simp]
theorem modify_apply (update : σ → σ) (state : σ) :
    (modify update : Action σ ε Unit) state = (.ok (), update state) := rfl

@[simp]
theorem advance_apply (step : σ → α × σ) (state : σ) :
    (advance step : Action σ ε α) state = (.ok (step state).1, (step state).2) := rfl

@[simp]
theorem fail_apply (failure : ε) (state : σ) :
    (fail failure : Action σ ε α) state = (.error failure, state) := rfl

@[simp]
theorem lift_apply (outcome : Except ε α) (state : σ) :
    (lift outcome : Action σ ε α) state = (outcome, state) := rfl

@[simp]
theorem attempt_apply (body : Action σ ε α) (state : σ) :
    attempt body state = (.ok (body state).1, (body state).2) := rfl

theorem bind_ok {first : Action σ ε α} (ran : first state = (.ok value, reached))
    (next : α → Action σ ε β) : (first >>= next) state = next value reached := by
  rw [bind_apply, ran]

theorem bind_error {first : Action σ ε α} {failure : ε}
    (ran : first state = (.error failure, reached)) (next : α → Action σ ε β) : (first >>= next) state = (.error failure, reached) := by
  rw [bind_apply, ran]

@[simp]
theorem ask_bind (view : σ → α) (next : α → Action σ ε β) (state : σ) :
    (ask view >>= next) state = next (view state) state := rfl

@[simp]
theorem modify_bind (update : σ → σ) (next : Unit → Action σ ε β) (state : σ) :
    (modify update >>= next) state = next () (update state) := rfl

@[simp]
theorem advance_bind (step : σ → α × σ) (next : α → Action σ ε β) (state : σ) :
    (advance step >>= next) state = next (step state).1 (step state).2 := rfl

@[simp]
theorem attempt_bind (body : Action σ ε α) (next : Except ε α → Action σ ε β) (state : σ) :
    (attempt body >>= next) state = next (body state).1 (body state).2 := rfl

theorem bind_assoc (first : Action σ ε α) (next : α → Action σ ε β) (last : β → Action σ ε γ) :
    ((first >>= next) >>= last) = first >>= fun value => next value >>= last := by
  funext state
  simp only [bind_apply]
  rcases first state with ⟨outcome, reached⟩
  cases outcome with
  | ok value => rfl
  | error failure => rfl

/-- What is returned in the end does not matter to the state. -/
theorem bind_pure_snd (first : Action σ ε α) (value : α → β) (state : σ) :
    ((first >>= fun result => pure (value result)) state).2 = (first state).2 := by
  rw [bind_apply]
  rcases first state with ⟨outcome, reached⟩
  cases outcome with
  | ok result => rfl
  | error failure => rfl

theorem bind_cases {first : Action σ ε α} {next : α → Action σ ε β}
    (ran : (first >>= next) state = (.ok value, reached)) :
    ∃ middle mid, first state = (.ok middle, mid) ∧ next middle mid = (.ok value, reached) := by
  rw [bind_apply] at ran
  rcases earlier : first state with ⟨outcome, mid⟩
  cases outcome with
  | ok middle =>
      rw [earlier] at ran
      exact ⟨middle, mid, rfl, ran⟩
  | error failure =>
      rw [earlier] at ran
      cases ran

/-! ## What a computation does to the state -/

/-- Whatever `action` does and however it ends, the state moves along `rel`. -/
def Keeps (rel : σ → σ → Prop) (action : Action σ ε α) : Prop :=
  ∀ state, rel state (action state).2

/-- `action` keeps the invariant `holds`, also when it fails. -/
def Stable (holds : σ → Prop) (action : Action σ ε α) : Prop :=
  Keeps (fun before after => holds before → holds after) action

instance stable_refl (holds : σ → Prop) :
    Std.Refl fun before after : σ => holds before → holds after :=
  ⟨fun _ => id⟩

instance stable_trans (holds : σ → Prop) :
    IsTrans σ fun before after : σ => holds before → holds after :=
  ⟨fun _ _ _ head tail => tail ∘ head⟩

section Keeps

variable {rel : σ → σ → Prop}

theorem Keeps.mono {action : Action σ ε α} {wider : σ → σ → Prop} (keeps : Keeps rel action)
    (wide : ∀ before after, rel before after → wider before after) : Keeps wider action :=
  fun state => wide _ _ (keeps state)

theorem Keeps.modify {update : σ → σ} (moves : ∀ state, rel state (update state)) :
    Keeps rel (Action.modify update : Action σ ε Unit) :=
  moves

theorem Keeps.advance {step : σ → α × σ} (moves : ∀ state, rel state (step state).2) :
    Keeps rel (Action.advance step : Action σ ε α) :=
  moves

theorem Keeps.attempt {body : Action σ ε α} (keeps : Keeps rel body) :
    Keeps rel (Action.attempt body) :=
  keeps

/-- The continuation of a read may use what it read. -/
theorem Keeps.ask_bind {view : σ → α} {next : α → Action σ ε β}
    (tail : ∀ state, rel state (next (view state) state).2) :
    Keeps rel (Action.ask view >>= next) :=
  tail

section Reflexive

variable [Std.Refl rel]

theorem Keeps.pure (value : α) : Keeps rel (pure value : Action σ ε α) :=
  fun state => refl_of rel state

theorem Keeps.ask (view : σ → α) : Keeps rel (Action.ask view : Action σ ε α) :=
  fun state => refl_of rel state

theorem Keeps.fail (failure : ε) : Keeps rel (Action.fail failure : Action σ ε α) :=
  fun state => refl_of rel state

theorem Keeps.lift (outcome : Except ε α) : Keeps rel (Action.lift outcome : Action σ ε α) :=
  fun state => refl_of rel state

end Reflexive

theorem Keeps.bind [IsTrans σ rel] {first : Action σ ε α} {next : α → Action σ ε β} (head : Keeps rel first)
    (tail : ∀ value, Keeps rel (next value)) : Keeps rel (first >>= next) := by
  intro state
  rw [bind_apply]
  rcases ran : first state with ⟨outcome, reached⟩
  have moved : rel state reached := by
    have moved := head state
    rwa [ran] at moved
  cases outcome with
  | ok value => exact trans_of rel moved (tail value reached)
  | error failure => exact moved

/-- The continuation may use what the computation before it returned. -/
theorem Keeps.bind_of [IsTrans σ rel] {first : Action σ ε α} {next : α → Action σ ε β}
    (head : Keeps rel first)
    (tail : ∀ value state reached, first state = (.ok value, reached) →
      rel reached (next value reached).2) : Keeps rel (first >>= next) := by
  intro state
  rw [bind_apply]
  rcases ran : first state with ⟨outcome, reached⟩
  have moved : rel state reached := by
    have moved := head state
    rwa [ran] at moved
  cases outcome with
  | ok value => exact trans_of rel moved (tail value state reached ran)
  | error failure => exact moved

variable [Std.Refl rel] [IsTrans σ rel]

theorem Keeps.each {body : α → Action σ ε Unit} {items : List α}
    (keeps : ∀ item ∈ items, Keeps rel (body item)) : Keeps rel (Action.each body items) := by
  induction items with
  | nil => exact Keeps.pure ()
  | cons item rest ih =>
      exact Keeps.bind (keeps item (by simp)) fun _ =>
        ih fun other member => keeps other (by simp [member])

theorem Keeps.gather {body : α → Action σ ε β} {items : List α}
    (keeps : ∀ item ∈ items, Keeps rel (body item)) : Keeps rel (Action.gather body items) := by
  induction items with
  | nil => exact Keeps.pure []
  | cons item rest ih =>
      exact Keeps.bind (keeps item (by simp)) fun _ =>
        Keeps.bind (ih fun other member => keeps other (by simp [member])) fun _ =>
          Keeps.pure _

end Keeps

end Action

end Bsrs.Library
