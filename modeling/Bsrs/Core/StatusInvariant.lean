import Bsrs.Core.Status
import Bsrs.Library.Tally

namespace Bsrs.Core

open Library

namespace StatusSystem

/-! ## Where the callbacks are -/

/-- A thread has the work yet to do. -/
def Underway (system : StatusSystem) (work : StatusWork) : Prop :=
  ∃ thread ∈ system.threads, work ∈ thread

/-- How often a piece of work is for a callback. -/
def carries (callback : StatusCallback) : StatusWork → Nat
  | .register _ other | .run other _ => if other = callback then 1 else 0
  | .finish _ _ | .wake _ _ => 0

def stored (system : StatusSystem) (callback : StatusCallback) : Nat :=
  tally (fun slot => slot.phase.callbacks.count callback) system.slots

def queued (system : StatusSystem) (callback : StatusCallback) : Nat :=
  tally (tally (carries callback)) system.threads

/-- The places a callback is in: with a status, with a thread, or among those that ran. -/
def places (system : StatusSystem) (callback : StatusCallback) : Nat :=
  system.stored callback + system.queued callback + system.runs callback

/-- The parts of a status whose success was counted. -/
def successes (system : StatusSystem) (target : Nat) : Nat :=
  system.ran.count (.part target true, .success) + system.ran.count (.part target false, .success)

/-- What an `and` may be finished with: what its parts ended with, or a cancel of its own. -/
def Warranted (system : StatusSystem) (status : Nat) (outcome : StatusOutcome) : Prop :=
  ∀ left right, system.Combines status left right →
    match outcome with
    | .success => system.Ended left .success ∧ system.Ended right .success
    | .failed error => system.Ended left (.failed error) ∨ system.Ended right (.failed error) ∨
        error = .cancelled ∧ status ∈ system.cancels

/-- An `and` has no producer, counts its parts down, and is finished once both are counted. -/
structure Combined (system : StatusSystem) (status : Nat) (slot : StatusSlot) : Prop where
  setter : slot.setter = .spent
  timer : slot.timer = false
  counted : slot.pending + system.successes status = 2
  finished : slot.pending = 0 → system.Underway (.finish status .success) ∨
    slot.phase.outcome.isSome = true

/-- What a piece of work rests on. -/
def Valid (system : StatusSystem) : StatusWork → Prop
  | .finish status outcome => status < system.slots.length ∧ system.Warranted status outcome
  | .register status callback => system.home callback = some status
  | .run callback outcome => ∃ status, system.home callback = some status ∧ system.Ended status outcome
  | .wake status _ => ∃ outcome, system.Ended status outcome

/-- A piece of work was done. -/
def Did (system : StatusSystem) : StatusWork → Prop
  | .finish status outcome => (status, outcome) ∈ system.finishes
  | .register _ _ => False
  | .run callback outcome => (callback, outcome) ∈ system.ran
  | .wake status task => (status, task) ∈ system.woken

structure Sound (system : StatusSystem) : Prop where
  homes : ∀ callback status, system.home callback = some status → status < system.slots.length
  conserved : ∀ callback, system.places callback = if (system.home callback).isSome then 1 else 0
  valid : ∀ work, system.Underway work ∨ system.Did work → system.Valid work
  stored : ∀ status slot, system.slots[status]? = some slot → ∀ callback ∈ slot.phase.callbacks,
    system.home callback = some status
  first : ∀ status slot, system.slots[status]? = some slot →
    (system.finishes.find? fun entry => entry.1 = status).map Prod.snd = slot.phase.outcome
  waits : ∀ status task, (status, task) ∈ system.polled →
    (∃ slot, system.slots[status]? = some slot ∧ task ∈ slot.phase.wakers) ∨
      system.Underway (.wake status task) ∨ (status, task) ∈ system.woken
  combined : ∀ status slot, system.slots[status]? = some slot → slot.parts.isSome = true →
    system.Combined status slot
  failing : ∀ target left error, (.part target left, .failed error) ∈ system.ran →
    system.Underway (.finish target (.failed error)) ∨ ∃ outcome, system.Ended target outcome

variable {system next : StatusSystem}

theorem Sound.new : (new : StatusSystem).Sound where
  homes callback status here := by cases callback <;> simp [home, StatusSystem.new] at here
  conserved callback := by
    cases callback <;>
      simp [places, StatusSystem.stored, queued, StatusSystem.runs, home, StatusSystem.new]
  valid work there := by cases work <;> simp [Underway, Did, StatusSystem.new] at there
  stored := by simp [StatusSystem.new]
  first := by simp [StatusSystem.new]
  waits := by simp [StatusSystem.new]
  combined := by simp [StatusSystem.new]
  failing := by simp [StatusSystem.new]

/-! ## What a sound system has resolved -/

theorem ended_lt {status : Nat} {outcome : StatusOutcome} (ended : system.Ended status outcome) :
    status < system.slots.length := by
  obtain ⟨slot, found, _⟩ := ended
  exact (List.getElem?_eq_some_iff.mp found).1

/-- A status ends once. -/
theorem Ended.unique {status : Nat} {outcome other : StatusOutcome}
    (ended : system.Ended status outcome) (again : system.Ended status other) : outcome = other := by
  obtain ⟨slot, found, done⟩ := ended
  obtain ⟨slot', found', done'⟩ := again
  cases found.symm.trans found'
  cases done.symm.trans done'
  rfl

theorem Sound.first_iff (sound : system.Sound) {status : Nat} {outcome : StatusOutcome} :
    system.Ended status outcome ↔ status < system.slots.length ∧
      system.finishes.find? (fun entry => entry.1 = status) = some (status, outcome) := by
  constructor
  · intro ended
    obtain ⟨slot, found, done⟩ := id ended
    refine ⟨ended_lt ended, ?_⟩
    have same := sound.first status slot found
    rw [done, StatusPhase.outcome, Option.map_eq_some_iff] at same
    obtain ⟨⟨other, end_⟩, hit, rfl⟩ := same
    have here : other = status := by simpa using List.find?_some hit
    rw [hit, here]
  · rintro ⟨within, hit⟩
    have found := List.getElem?_eq_getElem within
    have same := sound.first status _ found
    rw [hit, Option.map_some] at same
    refine ⟨_, found, ?_⟩
    cases phase : (system.slots[status]).phase with
    | pending callbacks wakers => simp [phase, StatusPhase.outcome] at same
    | done outcome => simpa [phase, StatusPhase.outcome] using same.symm

/-- Once the threads are through nothing is under way. -/
theorem Settled.none (settled : system.Settled) {work : StatusWork} : ¬ system.Underway work := by
  rintro ⟨thread, member, among⟩
  rw [settled thread member] at among
  cases among

theorem runs_le {callback : StatusCallback}
    (conserved : system.places callback = if (system.home callback).isSome then 1 else 0) :
    system.runs callback ≤ 1 := by
  unfold places at conserved
  split at conserved <;> omega

theorem Sound.runs_le (sound : system.Sound) (callback : StatusCallback) :
    system.runs callback ≤ 1 :=
  StatusSystem.runs_le (sound.conserved callback)

/-- The callback of a finished status has run once the threads are through. -/
theorem Sound.runs_eq (sound : system.Sound) (settled : system.Settled) {callback : StatusCallback}
    {status : Nat} {outcome : StatusOutcome} (home : system.home callback = some status)
    (ended : system.Ended status outcome) : system.runs callback = 1 := by
  have places := sound.conserved callback
  rw [home, Option.isSome_some, if_pos rfl, StatusSystem.places] at places
  have idle : system.queued callback = 0 := by
    refine tally_eq_zero.mpr fun thread member => ?_
    rw [settled thread member, tally_nil]
  have released : system.stored callback = 0 := by
    refine tally_eq_zero.mpr fun slot member => ?_
    obtain ⟨position, found⟩ := List.getElem?_of_mem member
    refine List.count_eq_zero.mpr fun held => ?_
    have same := sound.stored position slot found callback held
    cases home.symm.trans same
    obtain ⟨_, there, done⟩ := ended
    cases found.symm.trans there
    rw [done] at held
    cases held
  omega

theorem mem_ran_of_runs {callback : StatusCallback} (ran : system.runs callback = 1) :
    ∃ outcome, (callback, outcome) ∈ system.ran := by
  obtain ⟨entry, member, same⟩ := List.countP_pos_iff.mp
    (Nat.lt_of_lt_of_eq Nat.zero_lt_one ran.symm : 0 < system.runs callback)
  obtain ⟨other, outcome⟩ := entry
  obtain rfl : other = callback := by simpa using same
  exact ⟨outcome, member⟩

/-- The outcome a part's callback ran with. -/
theorem Sound.part_ran (sound : system.Sound) (settled : system.Settled) {callback : StatusCallback}
    {status : Nat} {outcome : StatusOutcome} (home : system.home callback = some status)
    (ended : system.Ended status outcome) : (callback, outcome) ∈ system.ran := by
  obtain ⟨other, member⟩ := mem_ran_of_runs (sound.runs_eq settled home ended)
  obtain ⟨_, again, with_⟩ := sound.valid (.run callback other) (Or.inr member)
  cases home.symm.trans again
  exact with_.unique ended ▸ member

theorem home_part {status left right : Nat} (combines : system.Combines status left right)
    (side : Bool) : system.home (.part status side) = some (if side then left else right) := by
  obtain ⟨slot, found, parts⟩ := combines
  simp [home, found, parts]

/-- Two callbacks that ran with a success are two successes counted. -/
theorem two_successes {target : Nat} (left : (.part target true, .success) ∈ system.ran)
    (right : (.part target false, .success) ∈ system.ran) : 2 ≤ system.successes target := by
  have first := List.count_pos_iff.mpr left
  have second := List.count_pos_iff.mpr right
  unfold successes
  omega

theorem count_le_runs (callback : StatusCallback) (outcome : StatusOutcome) :
    system.ran.count (callback, outcome) ≤ system.runs callback :=
  List.countP_mono_left fun entry _ same => by simp [eq_of_beq same]

/-- Two successes are the most there are, and then one of each part. -/
theorem of_successes (once : ∀ callback, system.runs callback ≤ 1) (target : Nat) :
    system.successes target ≤ 2 ∧ (system.successes target = 2 →
      (.part target true, .success) ∈ system.ran ∧ (.part target false, .success) ∈ system.ran) := by
  have left : system.ran.count (.part target true, .success) ≤ 1 :=
    Nat.le_trans (count_le_runs _ _) (once _)
  have right : system.ran.count (.part target false, .success) ≤ 1 :=
    Nat.le_trans (count_le_runs _ _) (once _)
  unfold successes
  refine ⟨by omega, fun both => ⟨List.count_pos_iff.mp (by omega), List.count_pos_iff.mp (by omega)⟩⟩

/-- A part that failed has its target finished once the threads are through. -/
theorem Sound.carried (sound : system.Sound) (settled : system.Settled) {status left right : Nat}
    {error : StatusError} (combines : system.Combines status left right)
    (failed : system.Ended left (.failed error) ∨ system.Ended right (.failed error)) :
    ∃ outcome, system.Ended status outcome := by
  rcases failed with there | there
  · have ran := sound.part_ran settled (home_part combines true) there
    exact (sound.failing status true error ran).resolve_left settled.none
  · have ran := sound.part_ran settled (home_part combines false) there
    exact (sound.failing status false error ran).resolve_left settled.none

/-- Two parts that succeeded have their target finished once the threads are through. -/
theorem Sound.counted (sound : system.Sound) (settled : system.Settled) {status left right : Nat}
    (combines : system.Combines status left right) (first : system.Ended left .success)
    (second : system.Ended right .success) : ∃ outcome, system.Ended status outcome := by
  have both := two_successes (sound.part_ran settled (home_part combines true) first)
    (sound.part_ran settled (home_part combines false) second)
  obtain ⟨slot, found, parts⟩ := combines
  have combined := sound.combined status slot found (by simp [parts])
  have zero : slot.pending = 0 := by
    have counted := combined.counted
    omega
  have done := (combined.finished zero).resolve_left settled.none
  cases phase : slot.phase with
  | pending callbacks wakers => simp [phase, StatusPhase.outcome] at done
  | done outcome => exact ⟨outcome, slot, found, phase⟩

/-- What an `and` ended with is warranted. -/
theorem Sound.warranted (sound : system.Sound) {status : Nat} {outcome : StatusOutcome}
    (ended : system.Ended status outcome) : system.Warranted status outcome := by
  obtain ⟨_, hit⟩ := sound.first_iff.mp ended
  exact (sound.valid (.finish status outcome) (Or.inr (List.mem_of_find?_eq_some hit))).2

/-- The failure of the one part that failed is the one carried. -/
theorem Sound.carried_first (sound : system.Sound) (settled : system.Settled)
    {status part other : Nat} {error : StatusError}
    (combines : system.Combines status part other ∨ system.Combines status other part)
    (own : status ∉ system.cancels) (failed : system.Ended part (.failed error))
    (alone : ∀ later, ¬ system.Ended other (.failed later)) : system.Ended status (.failed error) := by
  have carried : ∃ outcome, system.Ended status outcome := by
    rcases combines with combines | combines
    · exact sound.carried settled combines (Or.inl failed)
    · exact sound.carried settled combines (Or.inr failed)
  obtain ⟨outcome, ended⟩ := carried
  cases outcome with
  | success =>
      rcases combines with combines | combines
      · cases failed.unique (sound.warranted ended _ _ combines).1
      · cases failed.unique (sound.warranted ended _ _ combines).2
  | failed another =>
      have origin : system.Ended part (.failed another) ∨ system.Ended other (.failed another) ∨
          another = .cancelled ∧ status ∈ system.cancels := by
        rcases combines with combines | combines
        · exact sound.warranted ended _ _ combines
        · exact or_left_comm.mp (sound.warranted ended _ _ combines)
      rcases origin with same | late | ⟨_, cancelled⟩
      · cases failed.unique same
        exact ended
      · exact absurd late (alone another)
      · exact absurd cancelled own

theorem Sound.resolved (sound : system.Sound) : system.Resolved where
  first _ _ := sound.first_iff
  ranWith callback outcome member := sound.valid (.run callback outcome) (Or.inr member)
  once := sound.runs_le
  every settled _ _ _ := sound.runs_eq settled
  wokenAfter status task member := sound.valid (.wake status task) (Or.inr member)
  woken settled status task outcome member ended := by
    rcases sound.waits status task member with ⟨slot, found, waits⟩ | underway | woken
    · obtain ⟨_, there, done⟩ := ended
      cases found.symm.trans there
      rw [done] at waits
      cases waits
    · exact absurd underway settled.none
    · exact woken
  succeeds _ left right combines ended := sound.warranted ended left right combines
  fails _ left right _ combines ended := sound.warranted ended left right combines
  combines settled status left right combines own := by
    refine ⟨fun ended => sound.warranted ended left right combines, fun ⟨first, second⟩ => ?_⟩
    obtain ⟨outcome, ended⟩ := sound.counted settled combines first second
    cases outcome with
    | success => exact ended
    | failed error =>
        rcases sound.warranted ended left right combines with failed | failed | ⟨_, cancelled⟩
        · cases first.unique failed
        · cases second.unique failed
        · exact absurd cancelled own
  carries settled status left right error combines failed := by
    obtain ⟨outcome, ended⟩ := sound.carried settled combines failed
    cases outcome with
    | failed other => exact ⟨other, ended⟩
    | success =>
        obtain ⟨first, second⟩ := sound.warranted ended left right combines
        rcases failed with failed | failed
        · cases first.unique failed
        · cases second.unique failed
  carriesFirst settled _ _ _ _ combines own failed alone :=
    sound.carried_first settled combines own failed alone

end StatusSystem

end Bsrs.Core
