import Bsrs.Library.Run
import Mathlib.Data.List.Basic

/-! The progress updates of a `Status`: `update_watcher`, and `observe_watcher` one hold of a lock at
a time. -/

namespace Bsrs.Core

open Library

/-- `WatcherUpdate`, its numbers by their text. -/
structure WatcherUpdate where
  current : String
  initial : String
  target : String
  name : Option String
  unit : Option String
  precision : Option Int
  fraction : Option String
  timeElapsed : Option String
  timeRemaining : Option String
  deriving Repr, DecidableEq

/-- The elapsed time `update_watcher` fills in where the producer left it out. -/
def WatcherUpdate.filled (update : WatcherUpdate) (elapsed : String) : WatcherUpdate :=
  { update with timeElapsed := some (update.timeElapsed.getD elapsed) }

/-- Where an `observe_watcher` stands: registered, with the latest update to hand on; about to ask
whether the status is done, or for its next update; handing on what is left; returned; or dropped. -/
inductive WatchStage where
  | starting (latest : Option WatcherUpdate)
  | looking
  | asking
  | draining
  | stopped
  | gone
  deriving Repr, DecidableEq

/-- An `observe_watcher` with its queue, what its watcher was handed, and how many updates were
posted before it registered. -/
structure WatchObserver where
  stage : WatchStage
  queue : List WatcherUpdate
  received : List WatcherUpdate
  since : Nat
  deriving Repr, DecidableEq

/-- Its receiver is still there. -/
def WatchObserver.running (observer : WatchObserver) : Bool :=
  observer.stage ≠ .stopped && observer.stage ≠ .gone

/-- What an observer does next; it asks first whether the status is done. -/
def WatchObserver.next (observer : WatchObserver) (done : Bool) : Option WatchObserver :=
  match observer.stage with
  | .starting latest =>
      some { observer with stage := .looking, received := observer.received ++ latest.toList }
  | .looking => some { observer with stage := if done then .draining else .asking }
  | .asking =>
      match observer.queue with
      | [] => some { observer with stage := .looking }
      | update :: rest =>
          some
            { observer with stage := .looking, queue := rest, received := observer.received ++ [update] }
  | .draining =>
      match observer.queue with
      | [] => some { observer with stage := .stopped }
      | update :: rest =>
          some { observer with queue := rest, received := observer.received ++ [update] }
  | .stopped | .gone => none

/-- A status by its updates: the latest one, those who observe it, all that were posted, and how many
of them before it finished. -/
structure WatchedStatus where
  latest : Option WatcherUpdate
  observers : List WatchObserver
  posts : List WatcherUpdate
  finishedAt : Option Nat
  deriving Repr, DecidableEq

/-- A call, an observer going on, or an observer's future being dropped. -/
inductive WatchEvent where
  | update (update : WatcherUpdate) (elapsed : String)
  | observe
  | finish
  | goOn (observer : Nat)
  | leave (observer : Nat)

namespace WatchedStatus

def new : WatchedStatus where
  latest := none
  observers := []
  posts := []
  finishedAt := none

/-- An update goes to every queue with a receiver; the latest one is kept beside them, under the same
lock. The handle an observer is driven from keeps the channel of the latest one open. -/
def step (status : WatchedStatus) : WatchEvent → Option WatchedStatus
  | .update update elapsed =>
      let filled := update.filled elapsed
      some
        { status with
          latest := some filled
          observers := status.observers.map fun observer =>
            if observer.running then { observer with queue := observer.queue ++ [filled] } else observer
          posts := status.posts ++ [filled] }
  | .observe =>
      some
        { status with
          observers := status.observers ++ [⟨.starting status.latest, [], [], status.posts.length⟩] }
  | .finish => some { status with finishedAt := status.finishedAt.or (some status.posts.length) }
  | .goOn position =>
      (status.observers[position]?).bind fun observer =>
        (observer.next status.finishedAt.isSome).map fun next =>
          { status with observers := status.observers.set position next }
  | .leave position =>
      (status.observers[position]?).bind fun observer =>
        if observer.running then
          some { status with observers := status.observers.set position { observer with stage := .gone } }
        else none

/-- What an observer that registered after so many updates is to receive: the latest one posted
before, and every one posted after and before the status finished. -/
def expected (status : WatchedStatus) (since : Nat) : List WatcherUpdate :=
  (status.posts.take since).getLast?.toList ++
    (status.posts.take (status.finishedAt.getD status.posts.length)).drop since

/-- An observer has received the updates it is to receive from the first one on, and all of them,
after the status finished, once it has returned. -/
structure Delivered (status : WatchedStatus) (observer : WatchObserver) : Prop where
  inOrder : observer.received <+: status.expected observer.since
  whole : observer.stage = .stopped →
    status.finishedAt.isSome = true ∧ observer.received = status.expected observer.since

/-- No update is posted between the finish of the status and the return of an observer. -/
def Quiet (status : WatchedStatus) : WatchEvent → Prop
  | .update _ _ => status.finishedAt.isSome = true →
      ∀ observer ∈ status.observers, observer.running = false
  | _ => True

instance (status : WatchedStatus) : ∀ event, Decidable (status.Quiet event)
  | .update _ _ => inferInstanceAs (Decidable (status.finishedAt.isSome = true →
      ∀ observer ∈ status.observers, observer.running = false))
  | .observe | .finish | .goOn _ | .leave _ => isTrue trivial

/-! ## What holds between two steps -/

/-- What an observer has been handed, has yet to be handed first, and has in its queue. -/
def accounted (observer : WatchObserver) : List WatcherUpdate :=
  observer.received ++
    (match observer.stage with
    | .starting latest => latest.toList
    | _ => []) ++ observer.queue

/-- A running observer's account is what it is to receive; one that returned received it all, one
that was dropped a part of it. -/
structure Follows (status : WatchedStatus) (observer : WatchObserver) : Prop where
  since : observer.since ≤ status.posts.length
  running : observer.running = true → accounted observer = status.expected observer.since
  draining : observer.stage = .draining → status.finishedAt.isSome = true
  delivered : observer.running = false → status.Delivered observer

structure Sound (status : WatchedStatus) : Prop where
  latest : status.latest = status.posts.getLast?
  finished : ∀ count, status.finishedAt = some count → count ≤ status.posts.length
  follows : ∀ observer ∈ status.observers, status.Follows observer

variable {status : WatchedStatus} {observer : WatchObserver}

theorem Follows.isDelivered (follows : status.Follows observer) : status.Delivered observer := by
  cases running : observer.running with
  | false => exact follows.delivered running
  | true =>
      have account := follows.running running
      refine ⟨?_, fun stopped => ?_⟩
      · rw [← account, accounted, List.append_assoc]
        exact List.prefix_append ..
      · simp [WatchObserver.running, stopped] at running

/-- Where an observer registers, its account is the latest update. -/
theorem expected_here (sound : status.Sound) :
    status.expected status.posts.length = status.latest.toList := by
  have bound : status.finishedAt.getD status.posts.length ≤ status.posts.length := by
    cases finished : status.finishedAt with
    | none => exact Nat.le_refl _
    | some count => exact sound.finished count finished
  have none : (status.posts.take (status.finishedAt.getD status.posts.length)).drop
      status.posts.length = [] :=
    List.drop_eq_nil_of_le (Nat.le_trans (List.length_take_le _ _) bound)
  rw [expected, List.take_length, none, List.append_nil, sound.latest]

/-- The step of an observer keeps its account. -/
theorem Follows.next {next : WatchObserver} (follows : status.Follows observer)
    (stepped : observer.next status.finishedAt.isSome = some next) : status.Follows next := by
  obtain ⟨stage, queue, received, since⟩ := observer
  cases stage with
  | starting latest =>
      cases stepped
      refine ⟨follows.since, fun _ => ?_, by simp, by simp [WatchObserver.running]⟩
      have account := follows.running rfl
      simpa [accounted, expected] using account
  | looking =>
      cases stepped
      have account := follows.running rfl
      refine ⟨follows.since, fun _ => ?_, fun draining => ?_, ?_⟩
      · cases finished : status.finishedAt.isSome <;> simpa [accounted, finished] using account
      · cases finished : status.finishedAt.isSome with
        | true => rfl
        | false => simp [finished] at draining
      · cases status.finishedAt.isSome <;> simp [WatchObserver.running]
  | asking =>
      have account := follows.running rfl
      cases queue with
      | nil =>
          cases stepped
          exact ⟨follows.since, fun _ => account, by simp, by simp [WatchObserver.running]⟩
      | cons update rest =>
          cases stepped
          refine ⟨follows.since, fun _ => ?_, by simp, by simp [WatchObserver.running]⟩
          simpa [accounted] using account
  | draining =>
      have account := follows.running rfl
      have finished := follows.draining rfl
      cases queue with
      | nil =>
          cases stepped
          have whole : received = status.expected since := by simpa [accounted] using account
          exact ⟨follows.since, by simp [WatchObserver.running], by simp,
            fun _ => ⟨⟨[], by simpa using whole⟩, fun _ => ⟨finished, whole⟩⟩⟩
      | cons update rest =>
          cases stepped
          refine ⟨follows.since, fun _ => ?_, fun _ => finished, by simp [WatchObserver.running]⟩
          simpa [accounted] using account
  | stopped => cases stepped
  | gone => cases stepped

/-- Another state under which an observer is to receive the same, or more where it was dropped. -/
theorem Follows.alike {next : WatchedStatus} (follows : status.Follows observer)
    (since : observer.since ≤ next.posts.length)
    (grows : status.expected observer.since <+: next.expected observer.since)
    (same : observer.running = true ∨ status.finishedAt.isSome = true →
      next.expected observer.since = status.expected observer.since)
    (finished : status.finishedAt.isSome = true → next.finishedAt.isSome = true) :
    next.Follows observer where
  since := since
  running there := (follows.running there).trans (same (Or.inl there)).symm
  draining there := finished (follows.draining there)
  delivered left := by
    obtain ⟨inOrder, whole⟩ := follows.delivered left
    refine ⟨inOrder.trans grows, fun stopped => ?_⟩
    obtain ⟨done, all⟩ := whole stopped
    exact ⟨finished done, all.trans (same (Or.inr done)).symm⟩

/-- One more update while the status is pending is one more for everybody registered. -/
theorem expected_update {update : WatcherUpdate} {next : WatchedStatus} {since : Nat}
    (pending : status.finishedAt = none) (still : next.finishedAt = none)
    (posts : next.posts = status.posts ++ [update]) (within : since ≤ status.posts.length) :
    next.expected since = status.expected since ++ [update] := by
  simp only [expected, pending, still, posts, Option.getD_none, List.take_length,
    List.take_append_of_le_length within, List.drop_append_of_le_length within, List.append_assoc]

/-- An update of a finished status is one for nobody. -/
theorem expected_late {next : WatchedStatus} {update : WatcherUpdate} {since count : Nat}
    (finished : status.finishedAt = some count) (still : next.finishedAt = some count)
    (posts : next.posts = status.posts ++ [update]) (within : since ≤ status.posts.length)
    (bound : count ≤ status.posts.length) : next.expected since = status.expected since := by
  simp only [expected, finished, still, posts, Option.getD_some,
    List.take_append_of_le_length within, List.take_append_of_le_length bound]

theorem Follows.update {filled : WatcherUpdate} {next : WatchedStatus}
    (follows : status.Follows observer) (sound : status.Sound)
    (posts : next.posts = status.posts ++ [filled]) (still : next.finishedAt = status.finishedAt)
    (quiet : status.finishedAt.isSome = true → observer.running = false) :
    next.Follows (if observer.running then { observer with queue := observer.queue ++ [filled] }
      else observer) := by
  have since : observer.since ≤ next.posts.length := by
    rw [posts]
    simpa using Nat.le_succ_of_le follows.since
  cases finished : status.finishedAt with
  | none =>
      have more := expected_update finished (still.trans finished) posts follows.since
      cases running : observer.running with
      | false =>
          refine follows.alike since (more ▸ List.prefix_append ..) ?_ (by simp [finished])
          rintro (there | done)
          · simp [running] at there
          · simp [finished] at done
      | true =>
          refine ⟨since, fun _ => ?_, fun draining => ?_, fun left => ?_⟩
          · have account := follows.running running
            simp only [if_true, more, ← account, accounted, List.append_assoc]
          · have done := follows.draining draining
            simp [finished] at done
          · simp only [if_true] at left
            exact absurd (running.symm.trans left) (by decide)
  | some count =>
      have left := quiet (by simp [finished])
      have alike := expected_late finished (still.trans finished) posts follows.since
        (sound.finished count finished)
      rw [left]
      exact follows.alike since (alike ▸ List.prefix_rfl) (fun _ => alike) (by simp [still])

/-- Every step without a late update keeps the status sound. -/
theorem Sound.step (status : WatchedStatus) (event : WatchEvent) (next : WatchedStatus)
    (stepped : status.step event = some next) (quiet : status.Quiet event) (sound : status.Sound) :
    next.Sound := by
  cases event with
  | update update elapsed =>
      cases stepped
      refine ⟨by simp, fun count finished => ?_, ?_⟩
      · simpa using Nat.le_succ_of_le (sound.finished count finished)
      · simp only [List.forall_mem_map]
        exact fun observer member => (sound.follows observer member).update sound rfl rfl
          fun finished => quiet finished observer member
  | observe =>
      cases stepped
      refine ⟨sound.latest, sound.finished, ?_⟩
      simp only [List.forall_mem_append, List.forall_mem_singleton]
      refine ⟨fun observer member => ?_, ?_⟩
      · exact (sound.follows observer member).alike (sound.follows observer member).since
          List.prefix_rfl (fun _ => rfl) id
      · refine ⟨Nat.le_refl _, fun _ => ?_, by simp, by simp [WatchObserver.running]⟩
        have here := expected_here sound
        simpa [accounted, expected] using here.symm
  | finish =>
      cases stepped
      refine ⟨sound.latest, ?_, fun observer member => ?_⟩
      · cases finished : status.finishedAt with
        | none => simp
        | some count => simpa [finished] using sound.finished count finished
      · have alike (since : Nat) : WatchedStatus.expected
            { status with finishedAt := status.finishedAt.or (some status.posts.length) } since =
              status.expected since := by
          cases finished : status.finishedAt <;> simp [expected, finished]
        exact (sound.follows observer member).alike (sound.follows observer member).since
          (alike _ ▸ List.prefix_rfl) (fun _ => alike _) (by simp)
  | goOn position =>
      obtain ⟨observer, found, went⟩ := Option.bind_eq_some_iff.mp stepped
      obtain ⟨moved, next, rfl⟩ := Option.map_eq_some_iff.mp went
      refine ⟨sound.latest, sound.finished, fun other member => ?_⟩
      have follows : status.Follows other := by
        rcases List.mem_or_eq_of_mem_set member with before | rfl
        · exact sound.follows other before
        · exact (sound.follows observer (List.mem_of_getElem? found)).next next
      exact follows.alike follows.since List.prefix_rfl (fun _ => rfl) id
  | leave position =>
      obtain ⟨observer, found, went⟩ := Option.bind_eq_some_iff.mp stepped
      simp only [Option.ite_none_right_eq_some, Option.some.injEq] at went
      obtain ⟨_, rfl⟩ := went
      refine ⟨sound.latest, sound.finished, fun other member => ?_⟩
      have follows : status.Follows other := by
        rcases List.mem_or_eq_of_mem_set member with before | rfl
        · exact sound.follows other before
        · have held := sound.follows observer (List.mem_of_getElem? found)
          exact ⟨held.since, by simp [WatchObserver.running], by simp,
            fun _ => ⟨held.isDelivered.inOrder, by simp⟩⟩
      exact follows.alike follows.since List.prefix_rfl (fun _ => rfl) id

theorem new_sound : new.Sound :=
  ⟨rfl, by simp [new], by simp [new]⟩

/-! ## Observers return -/

/-- Steps of the observer at this place alone have it return. -/
def Returns (status : WatchedStatus) (position : Nat) : Prop :=
  ∃ count reached observer, exec step status (List.replicate count (.goOn position)) = some reached ∧
    reached.observers[position]? = some observer ∧ observer.stage = .stopped

theorem Returns.next {position : Nat} {next : WatchObserver}
    (found : status.observers[position]? = some observer)
    (stepped : observer.next status.finishedAt.isSome = some next)
    (later : next.stage ≠ .stopped → Returns { status with observers := status.observers.set position next }
      position) : Returns status position := by
  have went : status.step (.goOn position) =
      some { status with observers := status.observers.set position next } := by
    simp [step, found, stepped]
  by_cases stopped : next.stage = .stopped
  · have inside := (List.getElem?_eq_some_iff.mp found).1
    exact ⟨1, { status with observers := status.observers.set position next }, next,
      by simp [exec, went], by simp [inside], stopped⟩
  · obtain ⟨count, reached, last, ran, there, done⟩ := later stopped
    exact ⟨count + 1, reached, last, by simpa [List.replicate_succ, exec, went] using ran, there, done⟩

/-- An observer that hands on what is left comes to the end of it. -/
theorem returns_of_draining {position : Nat} (finished : status.finishedAt.isSome = true)
    (found : status.observers[position]? = some observer) (draining : observer.stage = .draining) :
    Returns status position := by
  obtain ⟨stage, queue, received, since⟩ := observer
  obtain rfl : stage = .draining := draining
  induction queue generalizing status received with
  | nil => exact Returns.next found rfl fun running => absurd rfl running
  | cons update rest ih =>
      refine Returns.next found rfl fun _ => ?_
      have inside := (List.getElem?_eq_some_iff.mp found).1
      exact ih finished (received ++ [update]) (by simp [inside])

theorem returns_of_looking {position : Nat} (finished : status.finishedAt.isSome = true)
    (found : status.observers[position]? = some observer) (looking : observer.stage = .looking) :
    Returns status position := by
  have inside := (List.getElem?_eq_some_iff.mp found).1
  obtain ⟨stage, queue, received, since⟩ := observer
  obtain rfl : stage = .looking := looking
  refine Returns.next found rfl fun _ => ?_
  exact returns_of_draining finished (List.getElem?_set_self inside) (by simp [finished])

/-- Once the status is finished a running observer returns, however much is queued. -/
theorem returns_of_running {position : Nat} (finished : status.finishedAt.isSome = true)
    (found : status.observers[position]? = some observer) (running : observer.running = true) :
    Returns status position := by
  have inside := (List.getElem?_eq_some_iff.mp found).1
  obtain ⟨stage, queue, received, since⟩ := observer
  cases stage with
  | starting latest =>
      refine Returns.next found rfl fun _ => ?_
      exact returns_of_looking finished (List.getElem?_set_self inside) rfl
  | looking => exact returns_of_looking finished found rfl
  | asking =>
      cases queue with
      | nil =>
          refine Returns.next found rfl fun _ => ?_
          exact returns_of_looking finished (List.getElem?_set_self inside) rfl
      | cons update rest =>
          refine Returns.next found rfl fun _ => ?_
          exact returns_of_looking finished (List.getElem?_set_self inside) rfl
  | draining => exact returns_of_draining finished found rfl
  | stopped => simp [WatchObserver.running] at running
  | gone => simp [WatchObserver.running] at running

/-- Over any interleaving in which nothing is posted between the finish of the status and the return
of an observer, every observer gets the latest update posted before it registered and then each one
posted before the finish, in order and once; and it returns once the status is finished. -/
theorem progress_updates {events : List WatchEvent} (ran : exec step new events = some reached)
    (quiet : Throughout step Quiet new events) :
    (∀ observer ∈ reached.observers, reached.Delivered observer) ∧
      (reached.finishedAt.isSome = true → ∀ position observer,
        reached.observers[position]? = some observer → observer.running = true →
          Returns reached position) := by
  have sound := exec_invariant_throughout Sound Sound.step ran quiet new_sound
  exact ⟨fun observer member => (sound.follows observer member).isDelivered,
    fun finished position observer found => returns_of_running finished found⟩

/-- An update of a motor on its way. -/
def movedTo (current : String) : WatcherUpdate :=
  ⟨current, "0", "3", some "m", some "mm", none, none, none, none⟩

/-- One observer that registers between two updates and another after the finish. -/
def moveWatched : List WatchEvent :=
  [.update (movedTo "1") "0.1", .observe, .goOn 0, .update (movedTo "2") "0.2", .goOn 0, .goOn 0,
    .update (movedTo "3") "0.3", .finish, .observe, .goOn 0, .goOn 0, .goOn 0, .goOn 1]

theorem progress_updates_moved :
    ∃ reached ∈ exec step new moveWatched,
      (∀ observer ∈ reached.observers, reached.Delivered observer) ∧
        (reached.finishedAt.isSome = true → ∀ position observer,
          reached.observers[position]? = some observer → observer.running = true →
            Returns reached position) := by
  have arrives : (exec step new moveWatched).isSome = true := by decide +kernel
  obtain ⟨reached, ran⟩ := Option.isSome_iff_exists.mp arrives
  exact ⟨reached, ran, progress_updates ran (by decide +kernel)⟩

/-- A cancelled move whose producer posts once more before the observer looks again. -/
theorem progress_updates_late :
    ∃ reached ∈ exec step new
      [.observe, .goOn 0, .finish, .update (movedTo "1") "0.1", .goOn 0, .goOn 0, .goOn 0],
      ∃ observer ∈ reached.observers, ¬ reached.Delivered observer := by
  refine ⟨_, rfl, _, List.mem_singleton_self _, fun delivered => ?_⟩
  exact absurd delivered.inOrder (by decide)

end WatchedStatus

end Bsrs.Core
