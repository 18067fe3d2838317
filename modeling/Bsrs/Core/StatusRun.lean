import Bsrs.Core.StatusThreads

namespace Bsrs.Core

open Library

namespace StatusSystem

variable {system next : StatusSystem}

/-- The statuses stay, and those done stay as they ended. -/
def Lasts (slots later : List StatusSlot) : Prop :=
  ∀ (status : Nat) held, slots[status]? = some held → ∃ slot, later[status]? = some slot ∧
    ∀ outcome, held.phase = .done outcome → slot.phase = .done outcome

theorem Lasts.refl (slots : List StatusSlot) : Lasts slots slots :=
  fun _ held found => ⟨held, found, fun _ => id⟩

theorem Lasts.set {slots : List StatusSlot} {status : Nat} {held slot : StatusSlot}
    (here : slots[status]? = some held)
    (lasts : ∀ outcome, held.phase = .done outcome → slot.phase = .done outcome) :
    Lasts slots (slots.set status slot) := by
  intro other found there
  by_cases same : other = status
  · subst same
    cases here.symm.trans there
    exact ⟨slot, set_found slot here, lasts⟩
  · exact ⟨found, by rw [List.getElem?_set_ne (Ne.symm same), there], fun _ => id⟩

theorem Lasts.append (slots fresh : List StatusSlot) : Lasts slots (slots ++ fresh) :=
  fun _ held found => ⟨held, by
    rw [List.getElem?_append_left (List.getElem?_eq_some_iff.mp found).1, found], fun _ => id⟩

theorem perform_lasts (work : StatusWork) : Lasts system.slots (system.perform work).1.slots := by
  cases work with
  | wake status task => exact .refl _
  | finish status outcome =>
      cases found : system.slots[status]? with
      | none => simpa only [perform, finish, found] using Lasts.refl _
      | some slot =>
          cases phase : slot.phase with
          | done former => simpa only [perform, finish, found, phase] using Lasts.refl _
          | pending callbacks wakers =>
              simp only [perform, finish, found, phase]
              exact .set found fun former done => by rw [phase] at done; cases done
  | register status callback =>
      cases found : system.slots[status]? with
      | none => simpa only [perform, register, found] using Lasts.refl _
      | some slot =>
          cases phase : slot.phase with
          | done outcome => simpa only [perform, register, found, phase] using Lasts.refl _
          | pending callbacks wakers =>
              simp only [perform, register, found, phase]
              exact .set found fun former done => by rw [phase] at done; cases done
  | run callback outcome =>
      cases callback with
      | user number => exact .refl _
      | part target left =>
          cases outcome with
          | failed error => exact .refl _
          | success =>
              cases found : system.slots[target]? with
              | none => simpa only [perform, run, found] using Lasts.refl _
              | some slot =>
                  simp only [perform, run, found]
                  exact .set found fun _ => id

theorem report_lasts {status : Nat} {stage later : SetterStage} {works : List StatusWork}
    (ran : system.report status stage later works = some next) : Lasts system.slots next.slots := by
  obtain ⟨slot, found, ran⟩ := Option.bind_eq_some_iff.mp ran
  split at ran
  · cases ran
    exact .set found fun _ => id
  · cases ran

theorem step_lasts {event : StatusEvent} (ran : system.step event = some next) :
    Lasts system.slots next.slots := by
  cases event with
  | create settles timed =>
      cases ran
      exact .append _ _
  | success status =>
      obtain ⟨slot, found, ran⟩ := Option.bind_eq_some_iff.mp ran
      split at ran <;> exact report_lasts ran
  | settled status => exact report_lasts ran
  | fail status error =>
      rw [step] at ran
      split at ran
      · cases ran
      · exact report_lasts ran
  | cancel status =>
      rw [step] at ran
      split at ran <;> cases ran
      exact .refl _
  | expire status =>
      obtain ⟨slot, found, ran⟩ := Option.bind_eq_some_iff.mp ran
      split at ran <;> cases ran
      exact .set found fun _ => id
  | addCallback status =>
      rw [step] at ran
      split at ran <;> cases ran
      exact .refl _
  | poll status task =>
      obtain ⟨slot, found, rfl⟩ := Option.map_eq_some_iff.mp ran
      split
      · exact .refl _
      · rename_i callbacks wakers phase
        exact .set found fun outcome done => by rw [phase] at done; cases done
  | and left right =>
      rw [step] at ran
      split at ran <;> cases ran
      exact .append _ _
  | work thread =>
      obtain ⟨work, rest, _, rfl⟩ := step_work ran
      exact perform_lasts work

/-- A status that ended stays so in every run. -/
theorem exec_ended {events : List StatusEvent} {status : Nat} {outcome : StatusOutcome}
    (ran : exec StatusSystem.step system events = some next) (ended : system.Ended status outcome) :
    next.Ended status outcome := by
  refine exec_invariant (fun system => system.Ended status outcome) ?_ ran ended
  rintro system event next stepped ⟨held, found, done⟩
  obtain ⟨slot, there, lasts⟩ := step_lasts stepped status held found
  exact ⟨slot, there, lasts outcome done⟩

/-- The steps a piece of work takes, with what it brings about: a failed part's callback finishes its
target, and one registered late is run. -/
def effort : StatusWork → Nat
  | .finish _ _ | .wake _ _ => 1
  | .run _ _ => 2
  | .register _ _ => 3

/-- The steps a status leaves to the thread that finishes it. -/
def owed (slot : StatusSlot) : Nat :=
  2 * slot.phase.callbacks.length + slot.phase.wakers.length

/-- The most steps the threads can still take. -/
def remaining (system : StatusSystem) : Nat :=
  tally owed system.slots + tally (tally effort) system.threads

theorem effort_released (status : Nat) (callbacks : List StatusCallback) (wakers : List Nat)
    (outcome : StatusOutcome) : tally effort (callbacks.map (fun callback => .run callback outcome) ++
      wakers.map fun task => .wake status task) = 2 * callbacks.length + wakers.length := by
  have woken : tally effort (wakers.map fun task => .wake status task) = wakers.length := by
    induction wakers with
    | nil => rfl
    | cons task rest ih => rw [List.map_cons, tally_cons, ih, effort, List.length_cons, Nat.add_comm]
  rw [tally_append, woken]
  induction callbacks with
  | nil => simp
  | cons head rest ih =>
      rw [List.map_cons, tally_cons, effort, List.length_cons]
      omega

theorem perform_threads (work : StatusWork) : (system.perform work).1.threads = system.threads := by
  cases work with
  | wake status task => rfl
  | finish status outcome => simp only [perform, finish]; split <;> [rfl; split <;> rfl]
  | register status callback => simp only [perform, register]; split <;> [rfl; split <;> rfl]
  | run callback outcome =>
      cases callback with
      | user number => rfl
      | part target left =>
          cases outcome with
          | failed error => rfl
          | success => simp only [perform, run]; split <;> rfl

/-- Work done leaves less to do. -/
theorem perform_less (system : StatusSystem) (work : StatusWork) :
    tally owed (system.perform work).1.slots + tally effort (system.perform work).2 <
      tally owed system.slots + effort work := by
  cases work with
  | wake status task => simp [perform, effort]
  | finish status outcome =>
      cases found : system.slots[status]? with
      | none => simp [perform, finish, found, effort]
      | some slot =>
          cases phase : slot.phase with
          | done former => simp [perform, finish, found, phase, effort]
          | pending callbacks wakers =>
              simp only [perform, finish, found, phase]
              have change : tally owed (system.slots.set status { slot with phase := .done outcome }) +
                  owed slot = tally owed system.slots + 0 := tally_set found _
              rw [owed, phase, StatusPhase.callbacks, StatusPhase.wakers] at change
              rw [effort_released, effort]
              omega
  | register status callback =>
      cases found : system.slots[status]? with
      | none => simp [perform, register, found, effort]
      | some slot =>
          cases phase : slot.phase with
          | done outcome => simp [perform, register, found, phase, effort]
          | pending callbacks wakers =>
              simp only [perform, register, found, phase]
              have change : tally owed (system.slots.set status
                  { slot with phase := .pending (callbacks ++ [callback]) wakers }) + owed slot =
                    tally owed system.slots + owed { slot with
                      phase := .pending (callbacks ++ [callback]) wakers } := tally_set found _
              simp only [owed, phase, StatusPhase.callbacks, StatusPhase.wakers, List.length_append,
                List.length_singleton] at change
              rw [effort, tally_nil]
              omega
  | run callback outcome =>
      cases callback with
      | user number => simp [perform, run, effort]
      | part target left =>
          cases outcome with
          | failed error => simp [perform, run, effort]
          | success =>
              cases found : system.slots[target]? with
              | none => simp [perform, run, found, effort]
              | some slot =>
                  simp only [perform, run, found]
                  have same : tally owed (system.slots.set target
                      { slot with pending := slot.pending - 1 }) = tally owed system.slots :=
                    tally_set_same found rfl
                  rw [same]
                  split <;> simp [effort]

theorem work_remaining {thread : Nat} (ran : system.step (.work thread) = some next) :
    next.remaining < system.remaining := by
  obtain ⟨work, rest, found, rfl⟩ := step_work ran
  have less := perform_less system work
  have change : tally (tally effort) (system.threads.set thread ((system.perform work).2 ++ rest)) +
      tally effort (work :: rest) =
        tally (tally effort) system.threads + tally effort ((system.perform work).2 ++ rest) :=
    tally_set found _
  rw [tally_cons, tally_append] at change
  simp only [remaining, perform_threads]
  omega

/-- The threads alone go on for so many steps at most. -/
theorem exec_works {works : List StatusEvent} (threads : ∀ event ∈ works, ∃ thread, event = .work thread)
    (ran : exec StatusSystem.step system works = some next) :
    works.length + next.remaining ≤ system.remaining := by
  induction works generalizing system with
  | nil =>
      cases ran
      simp
  | cons event rest ih =>
      obtain ⟨middle, stepped, later⟩ := exec_cons ran
      obtain ⟨thread, rfl⟩ := threads event List.mem_cons_self
      have less := work_remaining stepped
      have most := ih (fun event member => threads event (List.mem_cons_of_mem _ member)) later
      rw [List.length_cons]
      omega

/-- Whatever state they are in, the threads can go on until nothing is left. -/
theorem settles (system : StatusSystem) : ∃ works final,
    (∀ event ∈ works, ∃ thread, event = .work thread) ∧
      exec StatusSystem.step system works = some final ∧ final.Settled := by
  induction bound : system.remaining using Nat.strongRecOn generalizing system with
  | ind bound ih =>
      by_cases settled : system.Settled
      · exact ⟨[], system, (fun event member => by cases member), rfl, settled⟩
      · obtain ⟨thread, member, busy⟩ : ∃ thread ∈ system.threads, thread ≠ [] := by
          simpa [Settled] using settled
        obtain ⟨work, rest, rfl⟩ := List.exists_cons_of_ne_nil busy
        obtain ⟨number, found⟩ := List.getElem?_of_mem member
        obtain ⟨next, stepped⟩ : ∃ next, system.step (.work number) = some next :=
          ⟨_, by rw [step, found]⟩
        obtain ⟨works, final, threads, ran, settled⟩ :=
          ih next.remaining (bound ▸ work_remaining stepped) next rfl
        refine ⟨.work number :: works, final, ?_, ?_, settled⟩
        · intro event member
          rcases List.mem_cons.mp member with rfl | later
          · exact ⟨number, rfl⟩
          · exact threads event later
        · rw [exec, stepped, Option.bind_some, ran]

/-- In every run each status has one outcome, the first it was finished with, and keeps it; its
callbacks and wakers see it, an `and` has the outcome of its parts, and the threads come to an end. -/
theorem one_outcome {events : List StatusEvent} {reached : StatusSystem}
    (ran : exec step new events = some reached) :
    reached.Resolved ∧
      (∀ more later, exec step reached more = some later → ∀ status outcome,
        reached.Ended status outcome → later.Ended status outcome) ∧
      (∃ bound, ∀ works final, (∀ event ∈ works, ∃ thread, event = .work thread) →
        exec step reached works = some final → works.length ≤ bound) ∧
      ∃ works final, (∀ event ∈ works, ∃ thread, event = .work thread) ∧
        exec step reached works = some final ∧ final.Settled := by
  refine ⟨(Sound.new.exec ran).resolved, fun more later onward status outcome => exec_ended onward,
    ⟨reached.remaining, fun works final threads onward => ?_⟩, settles reached⟩
  have most := exec_works threads onward
  omega

/-- A status with a timeout and one that settles, a callback and a task on their `and`: the first times
out while the second settles. -/
def timedRun : List StatusEvent :=
  [.create false true, .create true false, .and 0 1, .work 0, .work 0, .addCallback 2, .work 1, .poll 2 7,
    .success 1, .expire 0, .fail 0 (.failed "late"), .work 3, .work 3, .work 3, .settled 1, .work 3,
    .work 3, .work 4, .work 5, .work 5]

theorem timed_out : ∃ reached, exec step new timedRun = some reached ∧
    reached.slots.map (fun slot => slot.phase.outcome) =
      [some (.failed .timeout), some .success, some (.failed .timeout)] ∧
    reached.Resolved ∧
      (∀ more later, exec step reached more = some later → ∀ status outcome,
        reached.Ended status outcome → later.Ended status outcome) ∧
      (∃ bound, ∀ works final, (∀ event ∈ works, ∃ thread, event = .work thread) →
        exec step reached works = some final → works.length ≤ bound) ∧
      ∃ works final, (∀ event ∈ works, ∃ thread, event = .work thread) ∧
        exec step reached works = some final ∧ final.Settled := by
  have arrives : (exec step new timedRun).isSome = true := by decide +kernel
  have outcomes : ∀ reached ∈ exec step new timedRun,
      reached.slots.map (fun slot => slot.phase.outcome) =
        [some (.failed .timeout), some .success, some (.failed .timeout)] := by decide +kernel
  obtain ⟨reached, ran⟩ := Option.isSome_iff_exists.mp arrives
  exact ⟨reached, ran, outcomes reached ran, one_outcome ran⟩

/-- An `and` cancelled before its parts succeed, and one of two parts that had both failed, the right one
first. -/
theorem and_otherwise :
    (∃ reached, exec step new [.create false false, .create false false, .and 0 1, .work 0, .work 0,
        .cancel 2, .work 1, .success 0, .success 1, .work 2, .work 3, .work 2, .work 3] = some reached ∧
      reached.Combines 2 0 1 ∧ reached.Ended 0 .success ∧ reached.Ended 1 .success ∧
        reached.Ended 2 (.failed .cancelled)) ∧
      ∃ reached, exec step new [.create false false, .create false false, .fail 1 (.failed "right"),
          .work 0, .fail 0 (.failed "left"), .work 1, .and 0 1, .work 2, .work 2, .work 2] = some reached ∧
        reached.Combines 2 0 1 ∧
        reached.finishes =
          [(1, .failed (.failed "right")), (0, .failed (.failed "left")), (2, .failed (.failed "left"))] ∧
        reached.Ended 2 (.failed (.failed "left")) := by
  refine ⟨⟨_, rfl, ⟨_, rfl, rfl⟩, ⟨_, rfl, rfl⟩, ⟨_, rfl, rfl⟩, ⟨_, rfl, rfl⟩⟩, _, rfl, ⟨_, rfl, rfl⟩, rfl,
    ⟨_, rfl, rfl⟩⟩

end StatusSystem

end Bsrs.Core
