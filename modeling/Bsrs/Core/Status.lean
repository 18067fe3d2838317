import Bsrs.Core.Error
import Bsrs.Library.Run

/-! `Status`: the statuses of a process, and the threads that finish them, run their callbacks and
wake who waits for them, one hold of a lock or one atomic access at a time. -/

namespace Bsrs.Core

open Library

/-- `StatusOutcome`, and the `End` a finished status keeps. -/
inductive StatusOutcome where
  | success
  | failed (error : StatusError)
  deriving Repr, DecidableEq

/-- A callback: the so-manieth one given to `add_callback`, or the one `and` registers for its target
with the left or the right part. -/
inductive StatusCallback where
  | user (number : Nat)
  | part (target : Nat) (left : Bool)
  deriving Repr, DecidableEq

/-- `Phase`, its wakers by their task. -/
inductive StatusPhase where
  | pending (callbacks : List StatusCallback) (wakers : List Nat)
  | done (outcome : StatusOutcome)
  deriving Repr, DecidableEq

/-- What the producer has of its setter: still all of it, a success that settles, or nothing. -/
inductive SetterStage where
  | held
  | settling
  | spent
  deriving Repr, DecidableEq

/-- A status: its `Inner`, the timer of its timeout, and for an `and` its parts with the count of
those that have not succeeded. -/
structure StatusSlot where
  phase : StatusPhase
  settles : Bool
  setter : SetterStage
  timer : Bool
  parts : Option (Nat × Nat)
  pending : Nat
  deriving Repr, DecidableEq

/-- A status nobody waits for yet. -/
def StatusSlot.fresh (settles : Bool) (setter : SetterStage) (timer : Bool)
    (parts : Option (Nat × Nat)) : StatusSlot where
  phase := .pending [] []
  settles
  setter
  timer
  parts
  pending := 2

/-- The callbacks a status holds on to. -/
def StatusPhase.callbacks : StatusPhase → List StatusCallback
  | .pending callbacks _ => callbacks
  | .done _ => []

def StatusPhase.wakers : StatusPhase → List Nat
  | .pending _ wakers => wakers
  | .done _ => []

def StatusPhase.outcome : StatusPhase → Option StatusOutcome
  | .pending _ _ => none
  | .done outcome => some outcome

/-- What a thread has yet to do. -/
inductive StatusWork where
  | finish (status : Nat) (outcome : StatusOutcome)
  | register (status : Nat) (callback : StatusCallback)
  | run (callback : StatusCallback) (outcome : StatusOutcome)
  | wake (status task : Nat)
  deriving Repr, DecidableEq

/-- The statuses by their numbers, and the threads; where each user callback was registered, and what
has happened: the callbacks run, the tasks that polled `Pending` and those woken, the finishing steps
made and the statuses cancelled. -/
structure StatusSystem where
  slots : List StatusSlot
  threads : List (List StatusWork)
  homes : List Nat
  ran : List (StatusCallback × StatusOutcome)
  polled : List (Nat × Nat)
  woken : List (Nat × Nat)
  finishes : List (Nat × StatusOutcome)
  cancels : List Nat
  deriving Repr, DecidableEq

/-- A call, a timer running out, or a thread going on. -/
inductive StatusEvent where
  | create (settles timed : Bool)
  | success (status : Nat)
  | settled (status : Nat)
  | fail (status : Nat) (error : StatusError)
  | cancel (status : Nat)
  | expire (status : Nat)
  | addCallback (status : Nat)
  | poll (status task : Nat)
  | and (left right : Nat)
  | work (thread : Nat)
  deriving Repr, DecidableEq

namespace StatusSystem

def new : StatusSystem where
  slots := []
  threads := []
  homes := []
  ran := []
  polled := []
  woken := []
  finishes := []
  cancels := []

variable (system : StatusSystem)

/-- A thread begins. -/
def spawn (works : List StatusWork) : StatusSystem :=
  { system with threads := system.threads ++ [works] }

/-- `finish`: the first one takes the waiters, which are run and woken after the lock is released. -/
def finish (status : Nat) (outcome : StatusOutcome) : StatusSystem × List StatusWork :=
  let logged := { system with finishes := system.finishes ++ [(status, outcome)] }
  match system.slots[status]? with
  | none => (logged, [])
  | some slot =>
      match slot.phase with
      | .done _ => (logged, [])
      | .pending callbacks wakers =>
          ({ logged with slots := system.slots.set status { slot with phase := .done outcome } },
            callbacks.map (fun callback => .run callback outcome) ++
              wakers.map fun task => .wake status task)

/-- `add_callback`: queued while the status is pending, run by the caller once it is done. -/
def register (status : Nat) (callback : StatusCallback) : StatusSystem × List StatusWork :=
  match system.slots[status]? with
  | none => (system, [])
  | some slot =>
      match slot.phase with
      | .done outcome => (system, [.run callback outcome])
      | .pending callbacks wakers =>
          ({ system with
              slots := system.slots.set status
                { slot with phase := .pending (callbacks ++ [callback]) wakers } }, [])

/-- A callback runs. The one of an `and` fails its target with the failure of the part, or counts the
part down and has the last one finish the target. -/
def run (callback : StatusCallback) (outcome : StatusOutcome) : StatusSystem × List StatusWork :=
  let logged := { system with ran := system.ran ++ [(callback, outcome)] }
  match callback with
  | .user _ => (logged, [])
  | .part target _ =>
      match outcome with
      | .failed error => (logged, [.finish target (.failed error)])
      | .success =>
          match system.slots[target]? with
          | none => (logged, [])
          | some slot =>
              ({ logged with
                  slots := system.slots.set target { slot with pending := slot.pending - 1 } },
                if slot.pending = 1 then [.finish target .success] else [])

def perform : StatusWork → StatusSystem × List StatusWork
  | .finish status outcome => system.finish status outcome
  | .register status callback => system.register status callback
  | .run callback outcome => system.run callback outcome
  | .wake status task => ({ system with woken := system.woken ++ [(status, task)] }, [])

/-- What the producer does with its setter, from one stage to the next. -/
def report (status : Nat) (stage next : SetterStage) (works : List StatusWork) :
    Option StatusSystem :=
  (system.slots[status]?).bind fun slot =>
    if slot.setter = stage then
      some ({ system with slots := system.slots.set status { slot with setter := next } }.spawn works)
    else none

def step (system : StatusSystem) : StatusEvent → Option StatusSystem
  | .create settles timed =>
      some
        { system with slots := system.slots ++ [.fresh settles .held timed none] }
  | .success status =>
      (system.slots[status]?).bind fun slot =>
        if slot.settles then system.report status .held .settling []
        else system.report status .held .spent [.finish status .success]
  | .settled status => system.report status .settling .spent [.finish status .success]
  | .fail status error =>
      -- Nobody but the timer can make the error of a timeout.
      if error = .timeout then none
      else system.report status .held .spent [.finish status (.failed error)]
  | .cancel status =>
      if status < system.slots.length then
        some ({ system with cancels := system.cancels ++ [status] }.spawn
          [.finish status (.failed .cancelled)])
      else none
  | .expire status =>
      (system.slots[status]?).bind fun slot =>
        if slot.timer then
          some ({ system with slots := system.slots.set status { slot with timer := false } }.spawn
            [.finish status (.failed .timeout)])
        else none
  | .addCallback status =>
      if status < system.slots.length then
        some ({ system with homes := system.homes ++ [status] }.spawn
          [.register status (.user system.homes.length)])
      else none
  | .poll status task =>
      (system.slots[status]?).map fun slot =>
        match slot.phase with
        | .done _ => system
        | .pending callbacks wakers =>
            { system with
              slots := system.slots.set status
                { slot with
                  phase := .pending callbacks (if task ∈ wakers then wakers else wakers ++ [task]) }
              polled := system.polled ++ [(status, task)] }
  | .and left right =>
      if left < system.slots.length ∧ right < system.slots.length then
        let target := system.slots.length
        some ({ system with
          slots := system.slots ++ [StatusSlot.fresh false .spent false (some (left, right))] }.spawn
            [.register left (.part target true), .register right (.part target false)])
      else none
  | .work thread =>
      match system.threads[thread]? with
      | some (work :: rest) =>
          let (next, more) := system.perform work
          some { next with threads := next.threads.set thread (more ++ rest) }
      | _ => none

/-- A status has ended so. -/
def Ended (status : Nat) (outcome : StatusOutcome) : Prop :=
  ∃ slot, system.slots[status]? = some slot ∧ slot.phase = .done outcome

/-- The parts a status combines. -/
def Combines (status left right : Nat) : Prop :=
  ∃ slot, system.slots[status]? = some slot ∧ slot.parts = some (left, right)

/-- No thread has anything left to do. -/
def Settled : Prop :=
  ∀ thread ∈ system.threads, thread = []

/-- The status a callback was registered with. -/
def home : StatusCallback → Option Nat
  | .user number => system.homes[number]?
  | .part target left =>
      ((system.slots[target]?).bind StatusSlot.parts).map fun parts => if left then parts.1 else parts.2

/-- How often a callback ran. -/
def runs (callback : StatusCallback) : Nat :=
  system.ran.countP fun entry => entry.1 = callback

/-- A status has the outcome of the first finishing step made on it; a callback runs with that outcome
and once, and has run once its status is done and the threads are through; a task that polled
`Pending` is woken after, and only after, its status is done; and an `and` succeeds only if both parts
do, fails only with the failure of a part or by a cancel of its own, and, not cancelled, does end so
once its parts say so and the threads are through. -/
structure Resolved (system : StatusSystem) : Prop where
  first : ∀ status outcome, system.Ended status outcome ↔
    status < system.slots.length ∧
      system.finishes.find? (fun entry => entry.1 = status) = some (status, outcome)
  ranWith : ∀ callback outcome, (callback, outcome) ∈ system.ran →
    ∃ status, system.home callback = some status ∧ system.Ended status outcome
  once : ∀ callback, system.runs callback ≤ 1
  every : system.Settled → ∀ callback status outcome, system.home callback = some status →
    system.Ended status outcome → system.runs callback = 1
  wokenAfter : ∀ status task, (status, task) ∈ system.woken → ∃ outcome, system.Ended status outcome
  woken : system.Settled → ∀ status task outcome, (status, task) ∈ system.polled →
    system.Ended status outcome → (status, task) ∈ system.woken
  succeeds : ∀ status left right, system.Combines status left right →
    system.Ended status .success → system.Ended left .success ∧ system.Ended right .success
  fails : ∀ status left right error, system.Combines status left right →
    system.Ended status (.failed error) → system.Ended left (.failed error) ∨
      system.Ended right (.failed error) ∨ error = .cancelled ∧ status ∈ system.cancels
  combines : system.Settled → ∀ status left right, system.Combines status left right →
    status ∉ system.cancels → (system.Ended status .success ↔
      system.Ended left .success ∧ system.Ended right .success)
  carries : system.Settled → ∀ status left right error, system.Combines status left right →
    (system.Ended left (.failed error) ∨ system.Ended right (.failed error)) →
      ∃ other, system.Ended status (.failed other)
  carriesFirst : system.Settled → ∀ status part other error,
    (system.Combines status part other ∨ system.Combines status other part) →
      status ∉ system.cancels → system.Ended part (.failed error) →
        (∀ later, ¬ system.Ended other (.failed later)) → system.Ended status (.failed error)

end StatusSystem

end Bsrs.Core
