import Bsrs.Library.Action

namespace Bsrs.Library.Action

variable {σ ε α β : Type}

/-- Started where `pre` holds, `action` returns where `post` holds of its value, or fails where
`fails` holds of the failure. -/
def Triple (pre : σ → Prop) (action : Action σ ε α) (post : α → σ → Prop) (fails : ε → σ → Prop) :
    Prop :=
  ∀ state, pre state →
    match action state with
    | (.ok value, reached) => post value reached
    | (.error failure, reached) => fails failure reached

namespace Triple

variable {pre : σ → Prop} {post : α → σ → Prop} {fails : ε → σ → Prop}

/-- A computation that moves along `rel`, from states where `rel` leads to `post` and `fails`. -/
theorem of_keeps {rel : σ → σ → Prop} {action : Action σ ε α} (keeps : Keeps rel action)
    (returns : ∀ before value after, pre before → rel before after → post value after)
    (stops : ∀ before failure after, pre before → rel before after → fails failure after) :
    Triple pre action post fails := by
  intro state held
  have moved := keeps state
  rcases ran : action state with ⟨outcome, reached⟩
  rw [ran] at moved
  cases outcome with
  | ok value => exact returns state value reached held moved
  | error failure => exact stops state failure reached held moved

theorem to_keeps {action : Action σ ε α} {holds : σ → Prop}
    (triple : Triple pre action (fun _ => holds) (fun _ => holds)) :
    Keeps (fun before after => pre before → holds after) action := by
  intro state held
  have ended := triple state held
  rcases ran : action state with ⟨outcome, reached⟩
  rw [ran] at ended
  cases outcome with
  | ok value => exact ended
  | error failure => exact ended

/-- What holds at the end, whichever way it ends. -/
theorem of_end {action : Action σ ε α} {holds : σ → Prop}
    (ends : ∀ state, pre state → holds (action state).2) :
    Triple pre action (fun _ => holds) (fun _ => holds) := by
  have keeps : Keeps (fun before after => pre before → holds after) action := ends
  exact of_keeps keeps (fun _ _ _ held moved => moved held) fun _ _ _ held moved => moved held

theorem weaken {action : Action σ ε α} {stronger : σ → Prop} {sharper : α → σ → Prop}
    {stricter : ε → σ → Prop} (triple : Triple stronger action sharper stricter)
    (before : ∀ state, pre state → stronger state)
    (returns : ∀ value state, sharper value state → post value state)
    (stops : ∀ failure state, stricter failure state → fails failure state) :
    Triple pre action post fails := by
  intro state held
  have ended := triple state (before state held)
  rcases ran : action state with ⟨outcome, reached⟩
  rw [ran] at ended
  cases outcome with
  | ok value => exact returns value reached ended
  | error failure => exact stops failure reached ended

theorem pure (value : α) (holds : ∀ state, pre state → post value state) :
    Triple pre (pure value : Action σ ε α) post fails :=
  holds

theorem fail (failure : ε) (holds : ∀ state, pre state → fails failure state) :
    Triple pre (Action.fail failure : Action σ ε α) post fails :=
  holds

theorem lift {outcome : Except ε α}
    (returns : ∀ value state, outcome = .ok value → pre state → post value state)
    (stops : ∀ failure state, pre state → fails failure state) :
    Triple pre (Action.lift outcome) post fails := by
  intro state held
  cases outcome with
  | ok value => exact returns value state rfl held
  | error failure => exact stops failure state held

theorem modify {update : σ → σ} {post : Unit → σ → Prop}
    (holds : ∀ state, pre state → post () (update state)) :
    Triple pre (Action.modify update : Action σ ε Unit) post fails :=
  holds

theorem bind {first : Action σ ε α} {next : α → Action σ ε β} {middle : α → σ → Prop}
    {post : β → σ → Prop} (head : Triple pre first middle fails)
    (tail : ∀ value, Triple (middle value) (next value) post fails) :
    Triple pre (first >>= next) post fails := by
  intro state held
  have ended := head state held
  rw [bind_apply]
  rcases ran : first state with ⟨outcome, reached⟩
  rw [ran] at ended
  cases outcome with
  | ok value => exact tail value reached ended
  | error failure => exact ended

/-- What holds whichever way the computation ends holds once its failure is caught. -/
theorem attempt {action : Action σ ε α} {holds : σ → Prop}
    (triple : Triple pre action (fun _ => holds) (fun _ => holds)) :
    Triple pre (Action.attempt action) (fun _ => holds) fails :=
  fun state held => triple.to_keeps state held

/-- What a read finds is known to the rest. -/
theorem ask_bind {view : σ → α} {next : α → Action σ ε β} {post : β → σ → Prop}
    (tail : ∀ value, Triple (fun state => pre state ∧ view state = value) (next value) post fails) :
    Triple pre (Action.ask view >>= next) post fails :=
  fun state held => tail (view state) state ⟨held, rfl⟩

/-- A loop whose invariant tells what is done, by what is left to do. -/
theorem each {body : α → Action σ ε Unit} (invariant : List α → σ → Prop)
    (turn : ∀ item rest, Triple (invariant (item :: rest)) (body item) (fun _ => invariant rest) fails) :
    ∀ items, Triple (invariant items) (Action.each body items) (fun _ => invariant []) fails
  | [] => fun _ held => held
  | item :: rest => bind (turn item rest) fun _ => each invariant turn rest

/-- A loop that gathers results: the invariant tells of the results so far, newest first. -/
theorem gather {body : α → Action σ ε β} (invariant : List α → List β → σ → Prop)
    (turn : ∀ item rest results, Triple (invariant (item :: rest) results) (body item)
      (fun result => invariant rest (result :: results)) fails) :
    ∀ items results, Triple (invariant items results) (Action.gather body items)
      (fun gathered => invariant [] (gathered.reverse ++ results)) fails
  | [], _ => fun _ held => held
  | item :: rest, results => by
      refine bind (turn item rest results) fun first => ?_
      refine bind (gather invariant turn rest (first :: results)) fun others => ?_
      exact pure _ fun state held => by simpa using held

end Triple

end Bsrs.Library.Action
