import Bsrs.Core.StatusCalls

namespace Bsrs.Core

open Library

namespace StatusSystem

variable {system next : StatusSystem}

/-- What the threads have yet to do once one of them has gone on: `work` made way for `more`. -/
structure Advances (system next : StatusSystem) (work : StatusWork) (more : List StatusWork) : Prop where
  head : system.Underway work
  kept : ∀ other, system.Underway other → other = work ∨ next.Underway other
  fresh : ∀ other ∈ more, next.Underway other
  origin : ∀ other, next.Underway other → other ∈ more ∨ system.Underway other
  queued : ∀ callback, next.queued callback + carries callback work =
    system.queued callback + tally (carries callback) more

theorem advances {thread : Nat} {work : StatusWork} {rest more : List StatusWork}
    (found : system.threads[thread]? = some (work :: rest))
    (threads : next.threads = system.threads.set thread (more ++ rest)) :
    system.Advances next work more := by
  have inside := (List.getElem?_eq_some_iff.mp found).1
  have member := List.mem_of_getElem? found
  have here : more ++ rest ∈ next.threads := by
    rw [threads]
    exact List.mem_set inside _
  refine ⟨⟨_, member, List.mem_cons_self⟩, ?_, fun other among =>
    ⟨_, here, List.mem_append_left _ among⟩, ?_, fun callback => ?_⟩
  · rintro other ⟨held, there, among⟩
    by_cases same : held = work :: rest
    · subst same
      rcases List.mem_cons.mp among with rfl | later
      · exact Or.inl rfl
      · exact Or.inr ⟨_, here, List.mem_append_right _ later⟩
    · obtain ⟨position, at_⟩ := List.getElem?_of_mem there
      have elsewhere : thread ≠ position := by
        rintro rfl
        exact same (Option.some.inj (at_.symm.trans found))
      refine Or.inr ⟨held, ?_, among⟩
      rw [threads]
      refine List.mem_of_getElem? (i := position) ?_
      rw [List.getElem?_set_ne elsewhere, at_]
  · rintro other ⟨held, there, among⟩
    rw [threads] at there
    rcases List.mem_or_eq_of_mem_set there with before | rfl
    · exact Or.inr ⟨held, before, among⟩
    · rcases List.mem_append.mp among with fresh | later
      · exact Or.inl fresh
      · exact Or.inr ⟨_, member, List.mem_cons_of_mem _ later⟩
  · unfold StatusSystem.queued
    rw [threads]
    have change : tally (tally (carries callback)) (system.threads.set thread (more ++ rest)) +
        tally (carries callback) (work :: rest) =
          tally (tally (carries callback)) system.threads + tally (carries callback) (more ++ rest) :=
      tally_set found _
    rw [tally_cons, tally_append] at change
    omega

/-- What a slot keeps whatever a thread does. -/
structure Persists (held slot : StatusSlot) : Prop where
  outcome : ∀ outcome, held.phase.outcome = some outcome → slot.phase.outcome = some outcome
  parts : slot.parts = held.parts
  setter : slot.setter = held.setter
  timer : slot.timer = held.timer

theorem Persists.refl (slot : StatusSlot) : Persists slot slot :=
  ⟨fun _ => id, rfl, rfl, rfl⟩

/-- A thread has done `work` and has `more` to do in its place. -/
structure Goes (system next : StatusSystem) (work : StatusWork) (more : List StatusWork) : Prop
    extends Advances system next work more where
  length : next.slots.length = system.slots.length
  frame : ∀ (status : Nat) held, system.slots[status]? = some held →
    ∃ slot, next.slots[status]? = some slot ∧ Persists held slot
  homes : next.homes = system.homes
  cancels : next.cancels = system.cancels
  polled : next.polled = system.polled
  before : ∀ other, system.Did other → next.Did other
  did : ∀ other, next.Did other → system.Did other ∨ other = work
  done : next.Did work ∨ ∃ status callback, work = .register status callback
  placed : ∀ callback, next.stored callback + tally (carries callback) more + next.runs callback =
    system.stored callback + carries callback work + system.runs callback

theorem Goes.held {work : StatusWork} {more : List StatusWork} (goes : system.Goes next work more)
    {status : Nat} {slot : StatusSlot} (found : next.slots[status]? = some slot) :
    ∃ held, system.slots[status]? = some held ∧ Persists held slot := by
  have within : status < system.slots.length :=
    goes.length ▸ (List.getElem?_eq_some_iff.mp found).1
  have there := List.getElem?_eq_getElem within
  obtain ⟨other, same, persists⟩ := goes.frame status _ there
  cases found.symm.trans same
  exact ⟨_, there, persists⟩

theorem Goes.parts {work : StatusWork} {more : List StatusWork} (goes : system.Goes next work more)
    (status : Nat) : (next.slots[status]?).bind StatusSlot.parts =
      (system.slots[status]?).bind StatusSlot.parts := by
  cases found : next.slots[status]? with
  | none =>
      have beyond := List.getElem?_eq_none_iff.mp found
      rw [goes.length] at beyond
      rw [List.getElem?_eq_none beyond]
  | some slot =>
      obtain ⟨held, there, persists⟩ := goes.held found
      rw [there, Option.bind_some, Option.bind_some, persists.parts]

theorem Goes.home {work : StatusWork} {more : List StatusWork} (goes : system.Goes next work more) :
    next.home = system.home :=
  home_eq goes.homes goes.parts

theorem Goes.grows {work : StatusWork} {more : List StatusWork} (goes : system.Goes next work more) :
    system.Grows next where
  length := Nat.le_of_eq goes.length.symm
  ended status outcome ended := by
    rw [ended_iff] at ended ⊢
    obtain ⟨held, found, done⟩ := ended
    obtain ⟨slot, there, persists⟩ := goes.frame status held found
    exact ⟨slot, there, persists.outcome outcome done⟩
  cancels status member := goes.cancels ▸ member
  homes number status here := goes.homes ▸ here
  parts status _ := goes.parts status

theorem Goes.places {work : StatusWork} {more : List StatusWork} (goes : system.Goes next work more)
    (callback : StatusCallback) : next.places callback = system.places callback := by
  have placed := goes.placed callback
  have queued := goes.queued callback
  unfold StatusSystem.places
  omega

/-- What is left to look at once a thread has gone on. -/
theorem Sound.goes {work : StatusWork} {more : List StatusWork} (sound : system.Sound)
    (goes : system.Goes next work more) (valid : ∀ other ∈ more, next.Valid other)
    (stored : ∀ (status : Nat) slot, next.slots[status]? = some slot → ∀ callback ∈ slot.phase.callbacks,
      (∃ held, system.slots[status]? = some held ∧ callback ∈ held.phase.callbacks) ∨
        system.home callback = some status)
    (first : ∀ (status : Nat) slot, next.slots[status]? = some slot →
      (next.finishes.find? fun entry => entry.1 = status).map Prod.snd = slot.phase.outcome)
    (wakers : ∀ (status : Nat) held, system.slots[status]? = some held → ∀ task ∈ held.phase.wakers,
      (∃ slot, next.slots[status]? = some slot ∧ task ∈ slot.phase.wakers) ∨
        next.Underway (.wake status task))
    (counted : ∀ (status : Nat) held slot, system.slots[status]? = some held →
      next.slots[status]? = some slot → held.pending + system.successes status = 2 →
        slot.pending + next.successes status = 2 ∧
          (slot.pending = 0 → held.pending = 0 ∨ next.Underway (.finish status .success)))
    (ends : ∀ status outcome, work = .finish status outcome → ∃ other, next.Ended status other)
    (fails : ∀ target left error, work = .run (.part target left) (.failed error) →
      next.Underway (.finish target (.failed error))) : next.Sound where
  homes callback status here := by
    rw [goes.length]
    exact sound.homes callback status (goes.home ▸ here)
  conserved callback := by rw [goes.places, goes.home, sound.conserved]
  valid := sound.valid_of goes.grows fun other there => by
    rcases there with underway | did
    · rcases goes.origin other underway with fresh | before
      · exact Or.inr (valid other fresh)
      · exact Or.inl (Or.inl before)
    · rcases goes.did other did with before | rfl
      · exact Or.inl (Or.inr before)
      · exact Or.inl (Or.inl goes.head)
  stored status slot found callback member := by
    rw [goes.home]
    rcases stored status slot found callback member with ⟨held, there, before⟩ | home
    · exact sound.stored status held there callback before
    · exact home
  first := first
  waits status task member := by
    rw [goes.polled] at member
    rcases sound.waits status task member with ⟨held, found, waits⟩ | underway | woken
    · exact (wakers status held found task waits).imp_right Or.inl
    · rcases goes.kept _ underway with rfl | still
      · rcases goes.done with done | ⟨_, _, other⟩
        · exact Or.inr (Or.inr done)
        · cases other
      · exact Or.inr (Or.inl still)
    · exact Or.inr (Or.inr (goes.before (.wake status task) woken))
  combined status slot found parts := by
    obtain ⟨held, there, persists⟩ := goes.held found
    have before := sound.combined status held there (persists.parts ▸ parts)
    obtain ⟨both, last⟩ := counted status held slot there found before.counted
    refine ⟨persists.setter.trans before.setter, persists.timer.trans before.timer, both, fun zero => ?_⟩
    rcases last zero with already | underway
    · rcases before.finished already with underway | done
      · rcases goes.kept _ underway with same | still
        · obtain ⟨other, ended⟩ := ends status .success same.symm
          obtain ⟨again, at_, outcome⟩ := ended_iff.mp ended
          cases found.symm.trans at_
          exact Or.inr (by rw [outcome, Option.isSome_some])
        · exact Or.inl still
      · obtain ⟨outcome, done⟩ := Option.isSome_iff_exists.mp done
        exact Or.inr (by rw [persists.outcome outcome done, Option.isSome_some])
    · exact Or.inl underway
  failing target left error member := by
    rcases goes.did (.run (.part target left) (.failed error)) member with before | same
    · rcases sound.failing target left error before with underway | ⟨outcome, ended⟩
      · rcases goes.kept _ underway with same | still
        · exact Or.inr (ends target (.failed error) same.symm)
        · exact Or.inl still
      · exact Or.inr ⟨outcome, goes.grows.ended _ _ ended⟩
    · exact Or.inl (fails target left error same.symm)

section Works

variable {threads : List (List StatusWork)}

theorem Sound.wake {status task : Nat} (sound : system.Sound)
    (advances : system.Advances { system with woken := system.woken ++ [(status, task)], threads }
      (.wake status task) []) :
    ({ system with woken := system.woken ++ [(status, task)], threads } : StatusSystem).Sound := by
  have logged (other : StatusWork) :
      ({ system with woken := system.woken ++ [(status, task)], threads } : StatusSystem).Did other ↔
        system.Did other ∨ other = .wake status task := by
    cases other <;> simp [Did]
  exact sound.goes
    { advances with
      length := rfl
      frame := fun _ held found => ⟨held, found, .refl held⟩
      homes := rfl
      cancels := rfl
      polled := rfl
      before := fun other did => (logged other).mpr (Or.inl did)
      did := fun other did => (logged other).mp did
      done := Or.inl ((logged _).mpr (Or.inr rfl))
      placed := fun _ => rfl }
    (fun other member => by cases member)
    (fun _ slot found _ member => Or.inl ⟨slot, found, member⟩) sound.first
    (fun _ held found _ waits => Or.inl ⟨held, found, waits⟩)
    (fun _ held slot found there both => by
      cases found.symm.trans there
      exact ⟨both, Or.inl⟩)
    (fun _ _ same => by cases same) (fun _ _ _ same => by cases same)

/-- The callbacks that ran, with one more. -/
theorem runs_log (callback other : StatusCallback) (outcome : StatusOutcome)
    (logged : next.ran = system.ran ++ [(callback, outcome)]) :
    next.runs other = system.runs other + if callback = other then 1 else 0 := by
  simp [StatusSystem.runs, logged, List.countP_cons]

theorem did_run (system next : StatusSystem) {callback : StatusCallback} {outcome : StatusOutcome}
    (logged : next.ran = system.ran ++ [(callback, outcome)]) (finishes : next.finishes = system.finishes)
    (woken : next.woken = system.woken) (other : StatusWork) :
    next.Did other ↔ system.Did other ∨ other = .run callback outcome := by
  cases other <;> simp [Did, logged, finishes, woken]

/-- A callback that counts nothing down: a user's, or a part's with a failure. -/
theorem Sound.run {callback : StatusCallback} {outcome : StatusOutcome} {more : List StatusWork}
    (sound : system.Sound)
    (advances : system.Advances { system with ran := system.ran ++ [(callback, outcome)], threads }
      (.run callback outcome) more)
    (quiet : ∀ target left, (callback, outcome) ≠ (.part target left, .success))
    (idle : ∀ other, tally (carries other) more = 0)
    (valid : ∀ other ∈ more,
      ({ system with ran := system.ran ++ [(callback, outcome)], threads } : StatusSystem).Valid other)
    (fails : ∀ target left error, callback = .part target left → outcome = .failed error →
      .finish target (.failed error) ∈ more) :
    ({ system with ran := system.ran ++ [(callback, outcome)], threads } : StatusSystem).Sound := by
  have logged := did_run system
    { system with ran := system.ran ++ [(callback, outcome)], threads } rfl rfl rfl
  refine sound.goes
    { advances with
      length := rfl
      frame := fun _ held found => ⟨held, found, .refl held⟩
      homes := rfl
      cancels := rfl
      polled := rfl
      before := fun other did => (logged other).mpr (Or.inl did)
      did := fun other did => (logged other).mp did
      done := Or.inl ((logged _).mpr (Or.inr rfl))
      placed := fun other => by
        rw [idle, runs_log callback other outcome rfl, carries]
        show system.stored other + 0 + _ = _
        omega }
    valid (fun _ slot found _ member => Or.inl ⟨slot, found, member⟩) sound.first
    (fun _ held found _ waits => Or.inl ⟨held, found, waits⟩) ?_ (fun _ _ same => by cases same)
    (fun target left error same => by
      cases same
      exact advances.fresh _ (fails target left error rfl rfl))
  intro status held slot found there both
  cases found.symm.trans there
  refine ⟨?_, Or.inl⟩
  have absent (left : Bool) :
      ([(callback, outcome)] : List (StatusCallback × StatusOutcome)).count
        (.part status left, .success) = 0 :=
    List.count_eq_zero.mpr fun member => quiet status left (List.mem_singleton.mp member).symm
  rw [successes, List.count_append, List.count_append, absent, absent]
  exact both

theorem Sound.run_failed {target : Nat} {left : Bool} {error : StatusError} (sound : system.Sound)
    (advances : system.Advances
      { system with ran := system.ran ++ [(.part target left, .failed error)], threads }
      (.run (.part target left) (.failed error)) [.finish target (.failed error)]) :
    ({ system with ran := system.ran ++ [(.part target left, .failed error)], threads } :
      StatusSystem).Sound := by
  obtain ⟨status, home, ended⟩ := sound.valid _ (Or.inl advances.head)
  have within : target < system.slots.length := target_lt (by rw [home, Option.isSome_some])
  refine sound.run advances (fun _ _ same => by cases same) (carries_finish _ _) ?_ ?_
  · intro other member
    obtain rfl := List.mem_singleton.mp member
    refine ⟨within, fun first second combines => ?_⟩
    have same := home.symm.trans (home_part combines left)
    cases left <;> cases same
    · exact Or.inr (Or.inl ended)
    · exact Or.inl ended
  · rintro _ _ _ ⟨⟩ ⟨⟩
    exact List.mem_singleton_self _

/-- Once both successes are counted both parts have ended with one. -/
theorem Sound.both (sound : system.Sound) {target first second : Nat} {work : StatusWork}
    {more : List StatusWork} (goes : system.Goes next work more)
    (successes : next.successes target = 2) (combines : next.Combines target first second) :
    next.Ended first .success ∧ next.Ended second .success := by
  have once (callback : StatusCallback) : next.runs callback ≤ 1 :=
    StatusSystem.runs_le (by rw [goes.places, goes.home, sound.conserved])
  have ended (left : Bool) (ran : (.part target left, .success) ∈ next.ran) :
      next.Ended (if left then first else second) .success := by
    have before : system.Valid (.run (.part target left) .success) := by
      rcases goes.did (.run (.part target left) .success) ran with did | rfl
      · exact sound.valid _ (Or.inr did)
      · exact sound.valid _ (Or.inl goes.head)
    obtain ⟨status, home, ended⟩ := before
    rw [← goes.home, home_part combines left] at home
    cases home
    exact goes.grows.ended _ _ ended
  obtain ⟨left, right⟩ := (of_successes once target).2 successes
  exact ⟨ended true left, ended false right⟩

theorem Sound.run_success {target : Nat} {left : Bool} {slot : StatusSlot} (sound : system.Sound)
    (found : system.slots[target]? = some slot)
    (advances : system.Advances
      { system with
        ran := system.ran ++ [(.part target left, .success)]
        slots := system.slots.set target { slot with pending := slot.pending - 1 }
        threads }
      (.run (.part target left) .success) (if slot.pending = 1 then [.finish target .success] else [])) :
    ({ system with
      ran := system.ran ++ [(.part target left, .success)]
      slots := system.slots.set target { slot with pending := slot.pending - 1 }
      threads } : StatusSystem).Sound := by
  generalize reached : ({ system with
    ran := system.ran ++ [(.part target left, .success)]
    slots := system.slots.set target { slot with pending := slot.pending - 1 }
    threads } : StatusSystem) = next at advances ⊢
  have ran : next.ran = system.ran ++ [(.part target left, .success)] := by rw [← reached]
  have slots : next.slots = system.slots.set target { slot with pending := slot.pending - 1 } := by
    rw [← reached]
  have logged := did_run system next ran (by rw [← reached]) (by rw [← reached])
  have within : target < system.slots.length := (List.getElem?_eq_some_iff.mp found).1
  have stored (other : StatusCallback) : next.stored other = system.stored other := by
    rw [StatusSystem.stored, slots]
    exact tally_set_same found rfl
  have idle (other : StatusCallback) : tally (carries other)
      (if slot.pending = 1 then [.finish target .success] else []) = 0 := by
    split
    · exact carries_finish _ _ other
    · rfl
  have goes : system.Goes next (.run (.part target left) .success)
      (if slot.pending = 1 then [.finish target .success] else []) :=
    { advances with
      length := by rw [slots, List.length_set]
      frame := fun status held there => by
        rw [slots]
        by_cases same : status = target
        · subst same
          cases found.symm.trans there
          exact ⟨_, set_found _ found, fun _ => id, rfl, rfl, rfl⟩
        · exact ⟨held, by rw [List.getElem?_set_ne (Ne.symm same), there], .refl held⟩
      homes := by rw [← reached]
      cancels := by rw [← reached]
      polled := by rw [← reached]
      before := fun other did => (logged other).mpr (Or.inl did)
      did := fun other did => (logged other).mp did
      done := Or.inl ((logged _).mpr (Or.inr rfl))
      placed := fun other => by
        rw [stored, idle, runs_log (.part target left) other .success ran, carries]
        omega }
  have once (callback : StatusCallback) : next.runs callback ≤ 1 :=
    StatusSystem.runs_le (by rw [goes.places, goes.home, sound.conserved])
  have counted : next.successes target = system.successes target + 1 := by
    rw [successes, ran]
    cases left <;> simp [successes, List.count_append] <;> omega
  have elsewhere (status : Nat) (other : status ≠ target) :
      next.successes status = system.successes status := by
    rw [successes, ran]
    simp [successes, List.count_append, Ne.symm other]
  have atMost : next.successes target ≤ 2 := (of_successes once target).1
  -- The target's slot differs from what it was by its count, the others' do not.
  have origin (status : Nat) (later : StatusSlot) (there : next.slots[status]? = some later) :
      ∃ held, system.slots[status]? = some held ∧ later.phase = held.phase ∧
        (status = target ∧ later.pending = held.pending - 1 ∨ status ≠ target ∧ later = held) := by
    rw [slots] at there
    rcases found_set found there with ⟨rfl, rfl⟩ | ⟨other, before⟩
    · exact ⟨slot, found, rfl, Or.inl ⟨rfl, rfl⟩⟩
    · exact ⟨later, before, rfl, Or.inr ⟨other, rfl⟩⟩
  refine sound.goes goes ?_ ?_ ?_ ?_ ?_ (fun _ _ same => by cases same) (fun _ _ _ same => by cases same)
  · intro other member
    split at member
    case isFalse => cases member
    case isTrue last =>
      obtain rfl := List.mem_singleton.mp member
      refine ⟨goes.length ▸ within, fun first second combines => sound.both goes ?_ combines⟩
      have parts : slot.parts = some (first, second) := by
        rwa [combines_iff, goes.parts, found] at combines
      have before := (sound.combined target slot found (by rw [parts, Option.isSome_some])).counted
      omega
  · intro status later there callback member
    obtain ⟨held, before, phase, _⟩ := origin status later there
    exact Or.inl ⟨held, before, phase ▸ member⟩
  · intro status later there
    obtain ⟨held, before, phase, _⟩ := origin status later there
    rw [phase, ← sound.first status held before, ← reached]
  · intro status held before task waits
    obtain ⟨later, there, _⟩ := goes.frame status held before
    obtain ⟨again, same, phase, _⟩ := origin status later there
    cases before.symm.trans same
    exact Or.inl ⟨later, there, phase ▸ waits⟩
  · intro status held later before there both
    obtain ⟨again, same, _, ⟨rfl, less⟩ | ⟨other, rfl⟩⟩ := origin status later there
    · cases before.symm.trans same
      refine ⟨by omega, fun zero => Or.inr ?_⟩
      cases found.symm.trans before
      refine advances.fresh _ ?_
      rw [if_pos (by omega)]
      exact List.mem_singleton_self _
    · cases before.symm.trans same
      exact ⟨by rw [elsewhere status other, both], Or.inl⟩

/-- Registering does nothing that is logged. -/
theorem did_register (system next : StatusSystem) {status : Nat} {callback : StatusCallback}
    (ran : next.ran = system.ran) (finishes : next.finishes = system.finishes) (woken : next.woken = system.woken)
    (other : StatusWork) : (system.Did other → next.Did other) ∧
      (next.Did other → system.Did other ∨ other = .register status callback) := by
  have same : next.Did other ↔ system.Did other := by
    cases other <;> simp [Did, ran, finishes, woken]
  exact ⟨same.mpr, fun did => Or.inl (same.mp did)⟩

theorem carries_one (status : Nat) (callback other : StatusCallback) (outcome : StatusOutcome) :
    tally (carries other) [.run callback outcome] = carries other (.register status callback) := by
  simp [carries]

theorem Sound.register_done {status : Nat} {callback : StatusCallback} {outcome : StatusOutcome}
    (sound : system.Sound) (ended : system.Ended status outcome)
    (advances : system.Advances { system with threads } (.register status callback)
      [.run callback outcome]) : ({ system with threads } : StatusSystem).Sound := by
  have home : system.home callback = some status := sound.valid _ (Or.inl advances.head)
  have logged (other : StatusWork) :
      (system.Did other → ({ system with threads } : StatusSystem).Did other) ∧
        (({ system with threads } : StatusSystem).Did other →
          system.Did other ∨ other = .register status callback) :=
    did_register system { system with threads } rfl rfl rfl other
  exact sound.goes
    { advances with
      length := rfl
      frame := fun _ held found => ⟨held, found, .refl held⟩
      homes := rfl
      cancels := rfl
      polled := rfl
      before := fun other => (logged other).1
      did := fun other => (logged other).2
      done := Or.inr ⟨status, callback, rfl⟩
      placed := fun other => by rw [carries_one status]; rfl }
    (fun other member => by
      obtain rfl := List.mem_singleton.mp member
      exact ⟨status, home, ended⟩)
    (fun _ slot found _ member => Or.inl ⟨slot, found, member⟩) sound.first
    (fun _ held found _ waits => Or.inl ⟨held, found, waits⟩)
    (fun _ held slot found there both => by
      cases found.symm.trans there
      exact ⟨both, Or.inl⟩)
    (fun _ _ same => by cases same) (fun _ _ _ same => by cases same)

theorem Sound.register_pending {status : Nat} {callback : StatusCallback} {slot : StatusSlot}
    {callbacks : List StatusCallback} {wakers : List Nat} (sound : system.Sound)
    (found : system.slots[status]? = some slot) (phase : slot.phase = .pending callbacks wakers)
    (advances : system.Advances
      { system with
        slots := system.slots.set status { slot with phase := .pending (callbacks ++ [callback]) wakers }
        threads } (.register status callback) []) :
    ({ system with
      slots := system.slots.set status { slot with phase := .pending (callbacks ++ [callback]) wakers }
      threads } : StatusSystem).Sound := by
  generalize reached : ({ system with
    slots := system.slots.set status { slot with phase := .pending (callbacks ++ [callback]) wakers }
    threads } : StatusSystem) = next at advances ⊢
  have slots : next.slots =
      system.slots.set status { slot with phase := .pending (callbacks ++ [callback]) wakers } := by
    rw [← reached]
  have home : system.home callback = some status := sound.valid _ (Or.inl advances.head)
  have ran : next.ran = system.ran := by rw [← reached]
  have logged (other : StatusWork) : (system.Did other → next.Did other) ∧
      (next.Did other → system.Did other ∨ other = .register status callback) :=
    did_register system next ran (by rw [← reached]) (by rw [← reached]) other
  have stored (other : StatusCallback) :
      next.stored other = system.stored other + if callback = other then 1 else 0 := by
    have change : tally (fun slot => slot.phase.callbacks.count other) next.slots +
        slot.phase.callbacks.count other = system.stored other + (callbacks ++ [callback]).count other := by
      rw [slots]
      exact tally_set found _
    rw [phase, StatusPhase.callbacks, List.count_append, List.count_singleton] at change
    simp only [beq_iff_eq] at change
    rw [StatusSystem.stored]
    omega
  have goes : system.Goes next (.register status callback) [] :=
    { advances with
      length := by rw [slots, List.length_set]
      frame := fun other held there => by
        rw [slots]
        by_cases same : other = status
        · subst same
          cases found.symm.trans there
          refine ⟨_, set_found _ found, fun outcome done => ?_, rfl, rfl, rfl⟩
          rw [phase] at done
          cases done
        · exact ⟨held, by rw [List.getElem?_set_ne (Ne.symm same), there], .refl held⟩
      homes := by rw [← reached]
      cancels := by rw [← reached]
      polled := by rw [← reached]
      before := fun other => (logged other).1
      did := fun other => (logged other).2
      done := Or.inr ⟨status, callback, rfl⟩
      placed := fun other => by
        rw [stored, StatusSystem.runs, ran, tally_nil, carries, StatusSystem.runs]
        omega }
  -- The status's slot differs from what it was by the callback, the others' do not.
  have origin (other : Nat) (later : StatusSlot) (there : next.slots[other]? = some later) :
      ∃ held, system.slots[other]? = some held ∧ later.pending = held.pending ∧
        later.phase.outcome = held.phase.outcome ∧ later.phase.wakers = held.phase.wakers ∧
          ∀ member ∈ later.phase.callbacks, member ∈ held.phase.callbacks ∨
            other = status ∧ member = callback := by
    rw [slots] at there
    rcases found_set found there with ⟨rfl, rfl⟩ | ⟨_, before⟩
    · refine ⟨slot, found, rfl, by rw [phase]; rfl, by rw [phase]; rfl, fun member among => ?_⟩
      rw [phase]
      exact (List.mem_append.mp among).imp_right fun last => ⟨rfl, List.mem_singleton.mp last⟩
    · exact ⟨later, before, rfl, rfl, rfl, fun _ => Or.inl⟩
  refine sound.goes goes (fun other member => by cases member) ?_ ?_ ?_ ?_
    (fun _ _ same => by cases same) (fun _ _ _ same => by cases same)
  · intro other later there member among
    obtain ⟨held, before, _, _, _, callbacks⟩ := origin other later there
    rcases callbacks member among with already | ⟨rfl, rfl⟩
    · exact Or.inl ⟨held, before, already⟩
    · exact Or.inr home
  · intro other later there
    obtain ⟨held, before, _, outcome, _⟩ := origin other later there
    rw [outcome, ← sound.first other held before, ← reached]
  · intro other held before task waits
    obtain ⟨later, there, _⟩ := goes.frame other held before
    obtain ⟨again, same, _, _, kept, _⟩ := origin other later there
    cases before.symm.trans same
    exact Or.inl ⟨later, there, kept ▸ waits⟩
  · intro other held later before there both
    obtain ⟨again, same, pending, _⟩ := origin other later there
    cases before.symm.trans same
    rw [pending, successes, ran]
    exact ⟨both, Or.inl⟩

/-- Finishing is logged whether it is the first or not. -/
theorem did_finish (system next : StatusSystem) {status : Nat} {outcome : StatusOutcome}
    (ran : next.ran = system.ran) (finishes : next.finishes = system.finishes ++ [(status, outcome)])
    (woken : next.woken = system.woken) (other : StatusWork) :
    next.Did other ↔ system.Did other ∨ other = .finish status outcome := by
  cases other <;> simp [Did, ran, finishes, woken]

theorem Sound.finish_done {status : Nat} {outcome former : StatusOutcome} (sound : system.Sound)
    (ended : system.Ended status former)
    (advances : system.Advances
      { system with finishes := system.finishes ++ [(status, outcome)], threads }
      (.finish status outcome) []) :
    ({ system with finishes := system.finishes ++ [(status, outcome)], threads } :
      StatusSystem).Sound := by
  have logged := did_finish system
    { system with finishes := system.finishes ++ [(status, outcome)], threads } rfl rfl rfl
  refine sound.goes
    { advances with
      length := rfl
      frame := fun _ held found => ⟨held, found, .refl held⟩
      homes := rfl
      cancels := rfl
      polled := rfl
      before := fun other did => (logged other).mpr (Or.inl did)
      did := fun other did => (logged other).mp did
      done := Or.inl ((logged _).mpr (Or.inr rfl))
      placed := fun _ => rfl }
    (fun other member => by cases member)
    (fun _ slot found _ member => Or.inl ⟨slot, found, member⟩) ?_
    (fun _ held found _ waits => Or.inl ⟨held, found, waits⟩)
    (fun _ held slot found there both => by
      cases found.symm.trans there
      exact ⟨both, Or.inl⟩)
    (fun _ _ same => by cases same; exact ⟨former, ended⟩) (fun _ _ _ same => by cases same)
  intro other slot found
  have before := sound.first other slot found
  by_cases same : other = status
  · subst same
    obtain ⟨held, there, done⟩ := ended_iff.mp ended
    cases found.symm.trans there
    rw [done, Option.map_eq_some_iff] at before
    obtain ⟨entry, hit, kept⟩ := before
    rw [List.find?_append, hit, done]
    simp [kept]
  · simpa [List.find?_append, Ne.symm same] using before

/-- The callbacks a finished status gives up are those its thread runs. -/
theorem carries_released (status : Nat) (callbacks : List StatusCallback) (wakers : List Nat)
    (outcome : StatusOutcome) (callback : StatusCallback) :
    tally (carries callback) (callbacks.map (fun callback => .run callback outcome) ++
      wakers.map fun task => .wake status task) = callbacks.count callback := by
  have woken : tally (carries callback) (wakers.map fun task => .wake status task) = 0 := by
    refine tally_eq_zero.mpr fun work member => ?_
    obtain ⟨task, _, rfl⟩ := List.mem_map.mp member
    rfl
  rw [tally_append, woken, Nat.add_zero]
  induction callbacks with
  | nil => rfl
  | cons head rest ih =>
      rw [List.map_cons, tally_cons, ih, List.count_cons, carries]
      simp only [beq_iff_eq]
      omega

theorem Sound.finish_pending {status : Nat} {outcome : StatusOutcome} {slot : StatusSlot}
    {callbacks : List StatusCallback} {wakers : List Nat} (sound : system.Sound)
    (found : system.slots[status]? = some slot) (phase : slot.phase = .pending callbacks wakers)
    (advances : system.Advances
      { system with
        finishes := system.finishes ++ [(status, outcome)]
        slots := system.slots.set status { slot with phase := .done outcome }
        threads } (.finish status outcome)
      (callbacks.map (fun callback => .run callback outcome) ++
        wakers.map fun task => .wake status task)) :
    ({ system with
      finishes := system.finishes ++ [(status, outcome)]
      slots := system.slots.set status { slot with phase := .done outcome }
      threads } : StatusSystem).Sound := by
  generalize reached : ({ system with
    finishes := system.finishes ++ [(status, outcome)]
    slots := system.slots.set status { slot with phase := .done outcome }
    threads } : StatusSystem) = next at advances ⊢
  have slots : next.slots = system.slots.set status { slot with phase := .done outcome } := by
    rw [← reached]
  have finishes : next.finishes = system.finishes ++ [(status, outcome)] := by rw [← reached]
  have ran : next.ran = system.ran := by rw [← reached]
  have logged := did_finish system next ran finishes (by rw [← reached])
  have ended : next.Ended status outcome :=
    ⟨{ slot with phase := .done outcome }, by rw [slots, set_found _ found], rfl⟩
  have stored (callback : StatusCallback) :
      next.stored callback + callbacks.count callback = system.stored callback := by
    have change : tally (fun slot => slot.phase.callbacks.count callback) next.slots +
        slot.phase.callbacks.count callback = system.stored callback + 0 := by
      rw [slots]
      exact tally_set found _
    rw [phase, StatusPhase.callbacks] at change
    exact change
  have goes : system.Goes next (.finish status outcome)
      (callbacks.map (fun callback => .run callback outcome) ++
        wakers.map fun task => .wake status task) :=
    { advances with
      length := by rw [slots, List.length_set]
      frame := fun other held there => by
        rw [slots]
        by_cases same : other = status
        · subst same
          cases found.symm.trans there
          refine ⟨_, set_found _ found, fun former done => ?_, rfl, rfl, rfl⟩
          rw [phase] at done
          cases done
        · exact ⟨held, by rw [List.getElem?_set_ne (Ne.symm same), there], .refl held⟩
      homes := by rw [← reached]
      cancels := by rw [← reached]
      polled := by rw [← reached]
      before := fun other did => (logged other).mpr (Or.inl did)
      did := fun other did => (logged other).mp did
      done := Or.inl ((logged _).mpr (Or.inr rfl))
      placed := fun callback => by
        rw [carries_released, StatusSystem.runs, ran, carries, stored, StatusSystem.runs]
        rfl }
  refine sound.goes goes ?_ ?_ ?_ ?_ ?_ ?_ (fun _ _ _ same => by cases same)
  · intro work member
    rcases List.mem_append.mp member with runs | wakes
    · obtain ⟨callback, among, rfl⟩ := List.mem_map.mp runs
      refine ⟨status, ?_, ended⟩
      rw [goes.home]
      exact sound.stored status slot found callback (by rw [phase]; exact among)
    · obtain ⟨task, _, rfl⟩ := List.mem_map.mp wakes
      exact ⟨outcome, ended⟩
  · intro other later there callback member
    rw [slots] at there
    rcases found_set found there with ⟨rfl, rfl⟩ | ⟨_, before⟩
    · cases member
    · exact Or.inl ⟨later, before, member⟩
  · intro other later there
    rw [slots] at there
    rw [finishes, List.find?_append]
    rcases found_set found there with ⟨rfl, rfl⟩ | ⟨elsewhere, before⟩
    · have none := sound.first other slot found
      rw [phase, StatusPhase.outcome, Option.map_eq_none_iff] at none
      rw [none]
      simp [StatusPhase.outcome]
    · simpa [Ne.symm elsewhere] using sound.first other later before
  · intro other held before task waits
    by_cases same : other = status
    · subst same
      cases found.symm.trans before
      rw [phase] at waits
      exact Or.inr (advances.fresh _ (List.mem_append_right _ (List.mem_map_of_mem waits)))
    · exact Or.inl ⟨held, by rw [slots, List.getElem?_set_ne (Ne.symm same), before], waits⟩
  · intro other held later before there both
    rw [successes, ran]
    rw [slots] at there
    rcases found_set found there with ⟨rfl, rfl⟩ | ⟨_, same⟩
    · cases found.symm.trans before
      exact ⟨both, Or.inl⟩
    · cases before.symm.trans same
      exact ⟨both, Or.inl⟩
  · rintro other former ⟨⟩
    exact ⟨outcome, ended⟩

end Works

/-- A thread that goes on has its next piece of work made. -/
theorem step_work {thread : Nat} (ran : system.step (.work thread) = some next) :
    ∃ work rest, system.threads[thread]? = some (work :: rest) ∧
      next = { (system.perform work).1 with
        threads := (system.perform work).1.threads.set thread ((system.perform work).2 ++ rest) } := by
  rw [step] at ran
  split at ran
  case h_1 work rest found => exact ⟨work, rest, found, (Option.some.inj ran).symm⟩
  case h_2 => cases ran

theorem Sound.work (sound : system.Sound) {thread : Nat}
    (ran : system.step (.work thread) = some next) : next.Sound := by
  obtain ⟨work, rest, found, rfl⟩ := step_work ran
  have underway : system.Underway work := ⟨_, List.mem_of_getElem? found, List.mem_cons_self⟩
  have valid := sound.valid work (Or.inl underway)
  cases work with
  | wake status task => exact sound.wake (advances found rfl)
  | register status callback =>
      obtain ⟨slot, there⟩ : ∃ slot, system.slots[status]? = some slot :=
        ⟨_, List.getElem?_eq_getElem (sound.homes callback status valid)⟩
      cases phase : slot.phase with
      | done outcome =>
          simp only [perform, register, there, phase]
          exact sound.register_done ⟨slot, there, phase⟩ (advances found rfl)
      | pending callbacks wakers =>
          simp only [perform, register, there, phase]
          exact sound.register_pending there phase (advances found rfl)
  | run callback outcome =>
      cases callback with
      | user number =>
          exact sound.run (advances found rfl) (fun _ _ same => by cases same) (fun _ => rfl)
            (fun other member => by cases member) (fun _ _ _ same => by cases same)
      | part target left =>
          cases outcome with
          | failed error => exact sound.run_failed (advances found rfl)
          | success =>
              obtain ⟨status, home, _⟩ := valid
              obtain ⟨slot, there⟩ : ∃ slot, system.slots[target]? = some slot :=
                ⟨_, List.getElem?_eq_getElem (target_lt (by rw [home, Option.isSome_some]))⟩
              simp only [perform, StatusSystem.run, there]
              exact sound.run_success there (advances found rfl)
  | finish status outcome =>
      obtain ⟨slot, there⟩ : ∃ slot, system.slots[status]? = some slot :=
        ⟨_, List.getElem?_eq_getElem valid.1⟩
      cases phase : slot.phase with
      | done former =>
          simp only [perform, finish, there, phase]
          exact sound.finish_done ⟨slot, there, phase⟩ (advances found rfl)
      | pending callbacks wakers =>
          simp only [perform, finish, there, phase]
          exact sound.finish_pending there phase (advances found rfl)

theorem Sound.step {event : StatusEvent} (sound : system.Sound)
    (ran : system.step event = some next) : next.Sound := by
  cases event with
  | create settles timed =>
      cases ran
      exact sound.create settles timed
  | success status =>
      obtain ⟨slot, found, ran⟩ := Option.bind_eq_some_iff.mp ran
      split at ran
      · exact sound.report (by decide) (fun _ member => by cases member) ran
      · exact sound.report (by decide) (fun _ member => ⟨_, List.mem_singleton.mp member⟩) ran
  | settled status =>
      exact sound.report (by decide) (fun _ member => ⟨_, List.mem_singleton.mp member⟩) ran
  | fail status error =>
      rw [StatusSystem.step] at ran
      split at ran
      · cases ran
      · exact sound.report (by decide) (fun _ member => ⟨_, List.mem_singleton.mp member⟩) ran
  | cancel status => exact sound.cancel ran
  | expire status => exact sound.expire ran
  | addCallback status => exact sound.addCallback ran
  | poll status task => exact sound.poll ran
  | and left right => exact sound.and ran
  | work thread => exact sound.work ran

theorem Sound.exec {events : List StatusEvent} (sound : system.Sound)
    (ran : exec StatusSystem.step system events = some next) : next.Sound :=
  exec_invariant StatusSystem.Sound (fun _ _ _ stepped sound => sound.step stepped) ran sound

end StatusSystem

end Bsrs.Core
