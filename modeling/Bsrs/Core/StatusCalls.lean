import Bsrs.Core.StatusInvariant

namespace Bsrs.Core

open Library

namespace StatusSystem

variable {system next : StatusSystem}

/-! ## What one step changes -/

theorem found_set {slots : List StatusSlot} {status other : Nat} {slot held found : StatusSlot}
    (here : slots[status]? = some held) (hit : (slots.set status slot)[other]? = some found) :
    other = status ∧ found = slot ∨ other ≠ status ∧ slots[other]? = some found := by
  by_cases same : other = status
  · subst same
    rw [List.getElem?_set_self (List.getElem?_eq_some_iff.mp here).1] at hit
    exact Or.inl ⟨rfl, (Option.some.inj hit).symm⟩
  · rw [List.getElem?_set_ne (Ne.symm same)] at hit
    exact Or.inr ⟨same, hit⟩

theorem set_found {slots : List StatusSlot} {status : Nat} {held : StatusSlot} (slot : StatusSlot)
    (here : slots[status]? = some held) : (slots.set status slot)[status]? = some slot :=
  List.getElem?_set_self (List.getElem?_eq_some_iff.mp here).1

/-- The callbacks are where they were registered as long as the parts are what they were. -/
theorem home_eq (homes : next.homes = system.homes) (parts : ∀ status : Nat,
    (next.slots[status]?).bind StatusSlot.parts = (system.slots[status]?).bind StatusSlot.parts) :
    next.home = system.home := by
  funext callback
  cases callback with
  | user number => simp [home, homes]
  | part target left => simp [home, parts]

theorem parts_set {slots : List StatusSlot} {status : Nat} {held slot : StatusSlot}
    (here : slots[status]? = some held) (same : slot.parts = held.parts) (other : Nat) :
    ((slots.set status slot)[other]?).bind StatusSlot.parts =
      (slots[other]?).bind StatusSlot.parts := by
  by_cases at_ : other = status
  · rw [at_, set_found slot here, here, Option.bind_some, Option.bind_some, same]
  · rw [List.getElem?_set_ne (Ne.symm at_)]

theorem combines_iff {status left right : Nat} : system.Combines status left right ↔
    (system.slots[status]?).bind StatusSlot.parts = some (left, right) := by
  simp [Combines, Option.bind_eq_some_iff]

theorem ended_iff {status : Nat} {outcome : StatusOutcome} : system.Ended status outcome ↔
    ∃ slot, system.slots[status]? = some slot ∧ slot.phase.outcome = some outcome := by
  constructor
  · rintro ⟨slot, found, done⟩
    exact ⟨slot, found, by rw [done, StatusPhase.outcome]⟩
  · rintro ⟨slot, found, done⟩
    refine ⟨slot, found, ?_⟩
    cases phase : slot.phase with
    | pending callbacks wakers => simp [phase, StatusPhase.outcome] at done
    | done other => simpa [phase, StatusPhase.outcome] using done

/-- Statuses that ended stay so, the cancelled ones too, the callbacks where they were registered, and
the parts what they were. -/
structure Grows (system next : StatusSystem) : Prop where
  length : system.slots.length ≤ next.slots.length
  ended : ∀ status outcome, system.Ended status outcome → next.Ended status outcome
  cancels : ∀ status ∈ system.cancels, status ∈ next.cancels
  homes : ∀ (number status : Nat), system.homes[number]? = some status →
    next.homes[number]? = some status
  parts : ∀ status : Nat, status < system.slots.length →
    (next.slots[status]?).bind StatusSlot.parts = (system.slots[status]?).bind StatusSlot.parts

theorem target_lt {target : Nat} {left : Bool} (homed : (system.home (.part target left)).isSome) :
    target < system.slots.length := by
  by_contra beyond
  simp [home, List.getElem?_eq_none (Nat.not_lt.mp beyond)] at homed

theorem Grows.home (grows : system.Grows next) {callback : StatusCallback} {status : Nat}
    (here : system.home callback = some status) : next.home callback = some status := by
  cases callback with
  | user number => exact grows.homes number status here
  | part target left =>
      have within : target < system.slots.length := target_lt (by rw [here, Option.isSome_some])
      rw [StatusSystem.home, grows.parts target within]
      exact here

theorem Warranted.grows {status : Nat} {outcome : StatusOutcome} (within : status < system.slots.length)
    (warranted : system.Warranted status outcome) (grows : system.Grows next) :
    next.Warranted status outcome := by
  intro left right combines
  rw [combines_iff, grows.parts status within, ← combines_iff] at combines
  have before := warranted left right combines
  cases outcome with
  | success => exact ⟨grows.ended _ _ before.1, grows.ended _ _ before.2⟩
  | failed error =>
      rcases before with failed | failed | ⟨cancelled, own⟩
      · exact Or.inl (grows.ended _ _ failed)
      · exact Or.inr (Or.inl (grows.ended _ _ failed))
      · exact Or.inr (Or.inr ⟨cancelled, grows.cancels _ own⟩)

theorem Valid.grows {work : StatusWork} (valid : system.Valid work) (grows : system.Grows next) :
    next.Valid work := by
  cases work with
  | finish status outcome =>
      exact ⟨Nat.lt_of_lt_of_le valid.1 grows.length, Warranted.grows valid.1 valid.2 grows⟩
  | register status callback => exact grows.home valid
  | run callback outcome =>
      obtain ⟨status, home, ended⟩ := valid
      exact ⟨status, grows.home home, grows.ended _ _ ended⟩
  | wake status task =>
      obtain ⟨outcome, ended⟩ := valid
      exact ⟨outcome, grows.ended _ _ ended⟩

/-- Only what is new has to be looked at. -/
theorem Sound.valid_of (sound : system.Sound) (grows : system.Grows next)
    (origin : ∀ work, next.Underway work ∨ next.Did work →
      (system.Underway work ∨ system.Did work) ∨ next.Valid work) :
    ∀ work, next.Underway work ∨ next.Did work → next.Valid work := by
  intro work there
  rcases origin work there with before | fresh
  · exact (sound.valid work before).grows grows
  · exact fresh

/-! ## Calls -/

/-- What a slot keeps while nobody finishes its status, registers with it or counts it down. -/
structure Keeps (held slot : StatusSlot) : Prop where
  callbacks : slot.phase.callbacks = held.phase.callbacks
  outcome : slot.phase.outcome = held.phase.outcome
  wakers : ∀ task ∈ held.phase.wakers, task ∈ slot.phase.wakers
  parts : slot.parts = held.parts
  pending : slot.pending = held.pending
  setter : held.setter = .spent → slot.setter = .spent
  timer : held.timer = false → slot.timer = false

theorem Keeps.refl (slot : StatusSlot) : Keeps slot slot :=
  ⟨rfl, rfl, fun _ member => member, rfl, rfl, id, id⟩

/-- A status just made. -/
structure Fresh (slot : StatusSlot) : Prop where
  phase : slot.phase = .pending [] []
  pending : slot.pending = 2
  setter : slot.parts.isSome = true → slot.setter = .spent
  timer : slot.parts.isSome = true → slot.timer = false

/-- The statuses of before are kept, and the others are just made. -/
structure SlotsKept (slots later : List StatusSlot) : Prop where
  kept : ∀ (status : Nat) held, slots[status]? = some held →
    ∃ slot, later[status]? = some slot ∧ Keeps held slot
  origin : ∀ (status : Nat) slot, later[status]? = some slot →
    (∃ held, slots[status]? = some held ∧ Keeps held slot) ∨ slots.length ≤ status ∧ Fresh slot
  stored : ∀ callback : StatusCallback, tally (fun slot => slot.phase.callbacks.count callback) later =
    tally (fun slot => slot.phase.callbacks.count callback) slots

theorem SlotsKept.refl (slots : List StatusSlot) : SlotsKept slots slots where
  kept _ held found := ⟨held, found, .refl held⟩
  origin _ slot found := Or.inl ⟨slot, found, .refl slot⟩
  stored _ := rfl

theorem SlotsKept.set {slots : List StatusSlot} {status : Nat} {held slot : StatusSlot}
    (here : slots[status]? = some held) (keeps : Keeps held slot) :
    SlotsKept slots (slots.set status slot) where
  kept other found there := by
    by_cases same : other = status
    · subst same
      cases here.symm.trans there
      exact ⟨slot, set_found slot here, keeps⟩
    · exact ⟨found, by rw [List.getElem?_set_ne (Ne.symm same), there], .refl found⟩
  origin other found there := by
    rcases found_set here there with ⟨rfl, rfl⟩ | ⟨_, before⟩
    · exact Or.inl ⟨held, here, keeps⟩
    · exact Or.inl ⟨found, before, .refl found⟩
  stored callback := tally_set_same here (by rw [keeps.callbacks])

theorem SlotsKept.append {slot : StatusSlot} (slots : List StatusSlot) (fresh : Fresh slot) :
    SlotsKept slots (slots ++ [slot]) where
  kept other found there :=
    ⟨found, by rw [List.getElem?_append_left (List.getElem?_eq_some_iff.mp there).1, there], .refl found⟩
  origin other found there := by
    rcases Nat.lt_or_ge other slots.length with within | beyond
    · rw [List.getElem?_append_left within] at there
      exact Or.inl ⟨found, there, .refl found⟩
    · rw [List.getElem?_append_right beyond] at there
      obtain rfl : found = slot := List.mem_singleton.mp (List.mem_of_getElem? there)
      exact Or.inr ⟨beyond, fresh⟩
  stored callback := by
    rw [tally_append, tally_cons, tally_nil, fresh.phase]
    simp [StatusPhase.callbacks]

theorem SlotsKept.length_le {slots later : List StatusSlot} (kept : SlotsKept slots later) :
    slots.length ≤ later.length := by
  by_contra shorter
  have within : later.length < slots.length := Nat.not_le.mp shorter
  obtain ⟨slot, found, _⟩ := kept.kept later.length _ (List.getElem?_eq_getElem within)
  exact absurd (List.getElem?_eq_some_iff.mp found).1 (Nat.lt_irrefl _)

/-- A call that finishes nothing itself: the statuses are kept, and `works` are left to a thread. -/
structure Calls (system next : StatusSystem) (works : List StatusWork) : Prop where
  slots : SlotsKept system.slots next.slots
  underway : ∀ work, next.Underway work ↔ system.Underway work ∨ work ∈ works
  queued : ∀ callback, next.queued callback = system.queued callback + tally (carries callback) works
  ran : next.ran = system.ran
  woken : next.woken = system.woken
  finishes : next.finishes = system.finishes
  cancels : ∀ status ∈ system.cancels, status ∈ next.cancels
  homes : ∀ (number status : Nat), system.homes[number]? = some status →
    next.homes[number]? = some status

theorem Calls.grows {works : List StatusWork} (calls : system.Calls next works) :
    system.Grows next where
  length := calls.slots.length_le
  ended status outcome ended := by
    rw [ended_iff] at ended ⊢
    obtain ⟨held, found, done⟩ := ended
    obtain ⟨slot, there, keeps⟩ := calls.slots.kept status held found
    exact ⟨slot, there, keeps.outcome.trans done⟩
  cancels := calls.cancels
  homes := calls.homes
  parts status within := by
    have found := List.getElem?_eq_getElem within
    obtain ⟨slot, there, keeps⟩ := calls.slots.kept status _ found
    rw [found, there, Option.bind_some, Option.bind_some, keeps.parts]

theorem Calls.did {works : List StatusWork} (calls : system.Calls next works) (work : StatusWork) :
    next.Did work ↔ system.Did work := by
  cases work <;> simp [Did, calls.ran, calls.woken, calls.finishes]

/-- A status that is not there has no part counted. -/
theorem Sound.successes_zero (sound : system.Sound) {target : Nat}
    (beyond : system.slots.length ≤ target) : system.successes target = 0 := by
  have absent (left : Bool) : system.ran.count (.part target left, .success) = 0 := by
    refine List.count_eq_zero.mpr fun member => ?_
    obtain ⟨status, home, _⟩ := sound.valid (.run (.part target left) .success) (Or.inr member)
    exact absurd (target_lt (by rw [home, Option.isSome_some])) (Nat.not_lt.mpr beyond)
  rw [successes, absent, absent]

theorem Sound.calls {works : List StatusWork} (sound : system.Sound) (calls : system.Calls next works)
    (homed : ∀ callback status, next.home callback = some status →
      system.home callback = some status ∨ status < system.slots.length)
    (counted : ∀ callback, (if (next.home callback).isSome then 1 else 0) =
      (if (system.home callback).isSome then 1 else 0) + tally (carries callback) works)
    (valid : ∀ work ∈ works, next.Valid work)
    (polled : ∀ status task, (status, task) ∈ next.polled → (status, task) ∈ system.polled ∨
      ∃ slot, next.slots[status]? = some slot ∧ task ∈ slot.phase.wakers) : next.Sound where
  homes callback status here := by
    refine Nat.lt_of_lt_of_le ?_ calls.slots.length_le
    exact (homed callback status here).elim (sound.homes callback status) id
  conserved callback := by
    have before := sound.conserved callback
    have stored : next.stored callback = system.stored callback := calls.slots.stored callback
    have runs : next.runs callback = system.runs callback := by
      rw [StatusSystem.runs, StatusSystem.runs, calls.ran]
    rw [counted callback, ← before, places, places, stored, runs, calls.queued]
    omega
  valid := sound.valid_of calls.grows fun work there => by
    rw [calls.underway, calls.did] at there
    rcases there with (before | fresh) | before
    · exact Or.inl (Or.inl before)
    · exact Or.inr (valid work fresh)
    · exact Or.inl (Or.inr before)
  stored status slot found callback member := by
    rcases calls.slots.origin status slot found with ⟨held, there, keeps⟩ | ⟨_, fresh⟩
    · rw [keeps.callbacks] at member
      exact calls.grows.home (sound.stored status held there callback member)
    · rw [fresh.phase] at member
      cases member
  first status slot found := by
    rw [calls.finishes]
    rcases calls.slots.origin status slot found with ⟨held, there, keeps⟩ | ⟨beyond, fresh⟩
    · rw [keeps.outcome, sound.first status held there]
    · rw [fresh.phase, StatusPhase.outcome, Option.map_eq_none_iff, List.find?_eq_none]
      rintro ⟨other, outcome⟩ member same
      have within := (sound.valid (.finish other outcome) (Or.inr member)).1
      obtain rfl : other = status := by simpa using same
      omega
  waits status task member := by
    rw [calls.underway, calls.woken]
    rcases polled status task member with before | waiting
    · rcases sound.waits status task before with ⟨held, found, waits⟩ | underway | woken
      · obtain ⟨slot, there, keeps⟩ := calls.slots.kept status held found
        exact Or.inl ⟨slot, there, keeps.wakers task waits⟩
      · exact Or.inr (Or.inl (Or.inl underway))
      · exact Or.inr (Or.inr woken)
    · exact Or.inl waiting
  combined status slot found parts := by
    have successes : next.successes status = system.successes status := by
      rw [StatusSystem.successes, StatusSystem.successes, calls.ran]
    rcases calls.slots.origin status slot found with ⟨held, there, keeps⟩ | ⟨beyond, fresh⟩
    · have before := sound.combined status held there (keeps.parts ▸ parts)
      refine ⟨keeps.setter before.setter, keeps.timer before.timer, ?_, fun zero => ?_⟩
      · rw [keeps.pending, successes, before.counted]
      · rw [keeps.pending] at zero
        rw [keeps.outcome, calls.underway]
        exact (before.finished zero).imp_left Or.inl
    · refine ⟨fresh.setter parts, fresh.timer parts, ?_, fun zero => ?_⟩
      · rw [fresh.pending, successes, sound.successes_zero beyond]
      · rw [fresh.pending] at zero
        cases zero
  failing target left error member := by
    rw [calls.ran] at member
    rw [calls.underway]
    rcases sound.failing target left error member with underway | ⟨outcome, ended⟩
    · exact Or.inl (Or.inl underway)
    · exact Or.inr ⟨outcome, calls.grows.ended _ _ ended⟩

theorem underway_append {threads : List (List StatusWork)} {works : List StatusWork}
    (same : next.threads = threads ++ [works]) (work : StatusWork) : next.Underway work ↔
      (∃ thread ∈ threads, work ∈ thread) ∨ work ∈ works := by
  simp [Underway, same, or_and_right, exists_or]

theorem queued_append {works : List StatusWork} (same : next.threads = system.threads ++ [works])
    (callback : StatusCallback) :
    next.queued callback = system.queued callback + tally (carries callback) works := by
  simp [queued, same]

/-- The callbacks' places are as many as before where a call registers nothing. -/
theorem counted_same {works : List StatusWork} (home : next.home = system.home)
    (idle : ∀ callback, tally (carries callback) works = 0) (callback : StatusCallback) :
    (if (next.home callback).isSome then 1 else 0) =
      (if (system.home callback).isSome then 1 else 0) + tally (carries callback) works := by
  rw [home, idle, Nat.add_zero]

theorem carries_finish (status : Nat) (outcome : StatusOutcome) (callback : StatusCallback) :
    tally (carries callback) [.finish status outcome] = 0 := by
  simp [carries]

/-- A status whose producer or timer can still act is no `and`. -/
theorem Sound.not_combines (sound : system.Sound) {status : Nat} {slot : StatusSlot}
    (found : system.slots[status]? = some slot) (able : slot.setter ≠ .spent ∨ slot.timer = true) :
    slot.parts = none := by
  cases parts : slot.parts with
  | none => rfl
  | some both =>
      have combined := sound.combined status slot found (by rw [parts, Option.isSome_some])
      rcases able with held | running
      · exact absurd combined.setter held
      · rw [combined.timer] at running
        cases running

/-- What a producer or a timer does is no matter of an `and`. -/
theorem warranted_of_parts {status : Nat} {slot : StatusSlot} (outcome : StatusOutcome)
    (found : next.slots[status]? = some slot) (none : slot.parts = none) :
    next.Warranted status outcome := by
  rintro left right ⟨held, there, parts⟩
  cases found.symm.trans there
  rw [none] at parts
  cases parts

/-- A slot that is not an `and` is given up to finish its status. -/
theorem Sound.given (sound : system.Sound) {status : Nat} {held slot : StatusSlot}
    {works : List StatusWork} (found : system.slots[status]? = some held) (keeps : Keeps held slot)
    (none : held.parts = none) (only : ∀ work ∈ works, ∃ outcome, work = .finish status outcome) :
    ({ system with slots := system.slots.set status slot }.spawn works : StatusSystem).Sound := by
  have home : ({ system with slots := system.slots.set status slot }.spawn works).home =
      system.home :=
    home_eq rfl (parts_set found keeps.parts)
  have idle (callback : StatusCallback) : tally (carries callback) works = 0 := by
    refine tally_eq_zero.mpr fun work member => ?_
    obtain ⟨outcome, rfl⟩ := only work member
    rfl
  refine sound.calls
    { slots := .set found keeps
      underway := underway_append rfl
      queued := queued_append rfl
      ran := rfl
      woken := rfl
      finishes := rfl
      cancels := fun _ member => member
      homes := fun _ _ here => here }
    (fun callback target here => Or.inl (home ▸ here)) (counted_same home idle) ?_
    (fun other task member => Or.inl member)
  intro work member
  obtain ⟨outcome, rfl⟩ := only work member
  refine ⟨?_, warranted_of_parts outcome (set_found slot found) (keeps.parts.trans none)⟩
  exact Nat.lt_of_lt_of_eq (List.getElem?_eq_some_iff.mp found).1 List.length_set.symm

theorem Sound.report (sound : system.Sound) {status : Nat} {stage later : SetterStage}
    {works : List StatusWork} (owned : stage ≠ .spent)
    (only : ∀ work ∈ works, ∃ outcome, work = .finish status outcome)
    (ran : system.report status stage later works = some next) : next.Sound := by
  obtain ⟨slot, found, ran⟩ := Option.bind_eq_some_iff.mp ran
  split at ran
  case isFalse => cases ran
  case isTrue same =>
    cases ran
    refine sound.given found
      { callbacks := rfl, outcome := rfl, wakers := fun _ member => member, parts := rfl
        pending := rfl, setter := fun spent => absurd (same.symm.trans spent) owned, timer := id }
      (sound.not_combines found (Or.inl (same ▸ owned))) only

theorem Sound.expire (sound : system.Sound) {status : Nat}
    (ran : system.step (.expire status) = some next) : next.Sound := by
  obtain ⟨slot, found, ran⟩ := Option.bind_eq_some_iff.mp ran
  split at ran
  case isFalse => cases ran
  case isTrue running =>
    cases ran
    refine sound.given found
      { callbacks := rfl, outcome := rfl, wakers := fun _ member => member, parts := rfl
        pending := rfl, setter := id, timer := fun _ => rfl }
      (sound.not_combines found (Or.inr running)) ?_
    intro work member
    exact ⟨_, List.mem_singleton.mp member⟩

theorem Sound.cancel (sound : system.Sound) {status : Nat}
    (ran : system.step (.cancel status) = some next) : next.Sound := by
  rw [step] at ran
  split at ran
  case isFalse => cases ran
  case isTrue within =>
    cases ran
    have cancelled : status ∈ system.cancels ++ [status] :=
      List.mem_append_right _ (List.mem_singleton_self _)
    refine sound.calls
      { slots := .refl _
        underway := underway_append rfl
        queued := queued_append rfl
        ran := rfl
        woken := rfl
        finishes := rfl
        cancels := fun _ member => List.mem_append_left _ member
        homes := fun _ _ here => here }
      (fun callback target here => Or.inl here)
      (counted_same rfl (carries_finish status (.failed .cancelled))) ?_
      (fun other task member => Or.inl member)
    intro work member
    obtain rfl := List.mem_singleton.mp member
    exact ⟨within, fun left right _ => Or.inr (Or.inr ⟨rfl, cancelled⟩)⟩

theorem parts_append_lt {slots : List StatusSlot} {target : Nat} (slot : StatusSlot)
    (within : target < slots.length) : ((slots ++ [slot])[target]?).bind StatusSlot.parts =
      (slots[target]?).bind StatusSlot.parts := by
  rw [List.getElem?_append_left within]

theorem parts_append_length (slots : List StatusSlot) (slot : StatusSlot) :
    ((slots ++ [slot])[slots.length]?).bind StatusSlot.parts = slot.parts := by
  rw [List.getElem?_append_right (Nat.le_refl _), Nat.sub_self]
  rfl

theorem parts_append_gt {slots : List StatusSlot} {target : Nat} (slot : StatusSlot)
    (beyond : slots.length < target) : (slots ++ [slot])[target]? = none ∧ slots[target]? = none := by
  refine ⟨List.getElem?_eq_none ?_, List.getElem?_eq_none (Nat.le_of_lt beyond)⟩
  rw [List.length_append, List.length_singleton]
  omega

theorem Sound.create (sound : system.Sound) (settles timed : Bool) :
    ({ system with slots := system.slots ++ [.fresh settles .held timed none] } :
      StatusSystem).Sound := by
  have fresh : Fresh (.fresh settles .held timed none) :=
    ⟨rfl, rfl, (fun parts => nomatch parts), (fun parts => nomatch parts)⟩
  have home : ({ system with slots := system.slots ++ [.fresh settles .held timed none] } :
      StatusSystem).home = system.home := by
    refine home_eq rfl fun status => ?_
    rcases Nat.lt_trichotomy status system.slots.length with within | rfl | beyond
    · exact parts_append_lt _ within
    · rw [parts_append_length, List.getElem?_eq_none (Nat.le_refl _)]
      rfl
    · obtain ⟨there, before⟩ := parts_append_gt (.fresh settles .held timed none) beyond
      rw [there, before]
  have calls : system.Calls
      { system with slots := system.slots ++ [.fresh settles .held timed none] } [] :=
    { slots := .append _ fresh
      underway := fun work => by simp [Underway]
      queued := fun _ => rfl
      ran := rfl
      woken := rfl
      finishes := rfl
      cancels := fun _ member => member
      homes := fun _ _ here => here }
  exact sound.calls calls
    (fun callback status here => Or.inl (home ▸ here)) (counted_same home fun _ => rfl)
    (fun work member => by cases member) (fun status task member => Or.inl member)

theorem Sound.addCallback (sound : system.Sound) {status : Nat}
    (ran : system.step (.addCallback status) = some next) : next.Sound := by
  rw [step] at ran
  split at ran
  case isFalse => cases ran
  case isTrue within =>
    cases ran
    refine sound.calls
      { slots := .refl _
        underway := underway_append rfl
        queued := queued_append rfl
        ran := rfl
        woken := rfl
        finishes := rfl
        cancels := fun _ member => member
        homes := fun number home here => by
          rw [spawn, List.getElem?_append_left (List.getElem?_eq_some_iff.mp here).1, here] }
      (fun callback home here => ?_) (fun callback => ?_) (fun work member => ?_)
      (fun other task member => Or.inl member)
    · cases callback with
      | part target left => exact Or.inl here
      | user number =>
          have member := List.mem_of_getElem? here
          rcases Nat.lt_or_ge number system.homes.length with before | beyond
          · refine Or.inl ?_
            rwa [StatusSystem.home, spawn, List.getElem?_append_left before] at here
          · rw [StatusSystem.home, spawn, List.getElem?_append_right beyond] at here
            obtain rfl := List.mem_singleton.mp (List.mem_of_getElem? here)
            exact Or.inr within
    · cases callback with
      | part target left => simp [StatusSystem.home, spawn, carries]
      | user number =>
          rcases Nat.lt_trichotomy number system.homes.length with before | rfl | beyond
          · have other : system.homes.length ≠ number := Nat.ne_of_gt before
            simp [StatusSystem.home, spawn, carries, before, other, Nat.lt_succ_of_lt before]
          · simp [StatusSystem.home, spawn, carries]
          · have other : system.homes.length ≠ number := Nat.ne_of_lt beyond
            have outside : ¬ number < system.homes.length + 1 := by omega
            simp [StatusSystem.home, spawn, carries, other, outside, Nat.le_of_lt beyond]
    · obtain rfl := List.mem_singleton.mp member
      simp [Valid, StatusSystem.home, spawn]

theorem Sound.poll (sound : system.Sound) {status task : Nat}
    (ran : system.step (.poll status task) = some next) : next.Sound := by
  obtain ⟨slot, found, ran⟩ := Option.map_eq_some_iff.mp ran
  split at ran
  case h_1 => exact ran ▸ sound
  case h_2 callbacks wakers phase =>
    subst ran
    have waiting : task ∈ if task ∈ wakers then wakers else wakers ++ [task] := by
      split
      · assumption
      · simp
    have keeps : Keeps slot { slot with
        phase := .pending callbacks (if task ∈ wakers then wakers else wakers ++ [task]) } :=
      { callbacks := by rw [phase]; rfl
        outcome := by rw [phase]; rfl
        wakers := fun other member => by
          rw [phase] at member
          show other ∈ if task ∈ wakers then wakers else wakers ++ [task]
          split
          · exact member
          · exact List.mem_append_left _ member
        parts := rfl, pending := rfl, setter := id, timer := id }
    generalize reached : ({ system with
      slots := system.slots.set status { slot with
        phase := .pending callbacks (if task ∈ wakers then wakers else wakers ++ [task]) }
      polled := system.polled ++ [(status, task)] } : StatusSystem) = next
    have home : next.home = system.home := by
      rw [← reached]
      exact home_eq rfl (parts_set found rfl)
    have calls : system.Calls next [] := by
      rw [← reached]
      exact
        { slots := .set found keeps
          underway := fun work => by simp [Underway]
          queued := fun _ => rfl
          ran := rfl
          woken := rfl
          finishes := rfl
          cancels := fun _ member => member
          homes := fun _ _ here => here }
    refine sound.calls calls
      (fun callback target here => Or.inl (home ▸ here)) (counted_same home fun _ => rfl)
      (fun work member => by cases member) (fun other waiter member => ?_)
    rw [← reached] at member ⊢
    rcases List.mem_append.mp member with before | fresh
    · exact Or.inl before
    · cases List.mem_singleton.mp fresh
      exact Or.inr ⟨_, set_found _ found, waiting⟩

theorem Sound.and (sound : system.Sound) {left right : Nat}
    (ran : system.step (.and left right) = some next) : next.Sound := by
  rw [step] at ran
  split at ran
  case isFalse => cases ran
  case isTrue within =>
    obtain ⟨first, second⟩ := within
    cases ran
    refine sound.calls
      { slots := .append _
          { phase := rfl, pending := rfl, setter := fun _ => rfl, timer := fun _ => rfl }
        underway := underway_append rfl
        queued := queued_append rfl
        ran := rfl
        woken := rfl
        finishes := rfl
        cancels := fun _ member => member
        homes := fun _ _ here => here }
      (fun callback status here => ?_) (fun callback => ?_) (fun work member => ?_)
      (fun other task member => Or.inl member)
    · cases callback with
      | user number => exact Or.inl here
      | part target side =>
          rcases Nat.lt_trichotomy target system.slots.length with before | rfl | beyond
          · refine Or.inl ?_
            rwa [StatusSystem.home, spawn, parts_append_lt _ before] at here
          · rw [StatusSystem.home, spawn, parts_append_length] at here
            cases side <;> cases here
            · exact Or.inr second
            · exact Or.inr first
          · rw [StatusSystem.home, spawn, (parts_append_gt _ beyond).1] at here
            cases here
    · cases callback with
      | user number => simp [StatusSystem.home, spawn, carries]
      | part target side =>
          rcases Nat.lt_trichotomy target system.slots.length with before | rfl | beyond
          · have other : system.slots.length ≠ target := Nat.ne_of_gt before
            simp only [StatusSystem.home, spawn, parts_append_lt _ before]
            simp [carries, other]
          · cases side <;> simp [StatusSystem.home, spawn, carries, StatusSlot.fresh]
          · have other : system.slots.length ≠ target := Nat.ne_of_lt beyond
            have outside : ¬ target < system.slots.length + 1 := by omega
            simp [StatusSystem.home, spawn, carries, other, outside, Nat.le_of_lt beyond]
    · rcases List.mem_cons.mp member with rfl | later
      · simp [Valid, StatusSystem.home, spawn, StatusSlot.fresh]
      · obtain rfl := List.mem_singleton.mp later
        simp [Valid, StatusSystem.home, spawn, StatusSlot.fresh]

end StatusSystem

end Bsrs.Core
