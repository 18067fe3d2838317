import Bsrs.Library.Run
import Bsrs.Library.Tally
import Mathlib.Data.List.Nodup
import Mathlib.Data.List.Basic

/-! The soft signal's one write path, and the subscribers it delivers to.

A thread may panic in a callback and go on with whatever caught the panic. While the panic unwinds it,
nothing on that thread uses the backend: a destructor that stores on the way out is not modelled (there
`ReleaseOnPanic` acts at the ordinary end of a drain too). -/

namespace Bsrs.Devices

open Library

variable {τ κ : Type}

/-- What a store changes, as one record. A subscriber is named by its id. -/
structure SoftState (τ κ : Type) where
  value : τ
  setpoint : τ
  timestamp : κ
  subscribers : List Nat
  nextId : Nat
  poll : Bool

structure Mailbox (ρ : Type) where
  pending : List ρ
  draining : Bool

/-- Queue a reading; `true` if the caller must now `drain`. -/
def Mailbox.enqueue (mailbox : Mailbox ρ) (reading : ρ) : Bool × Mailbox ρ :=
  (!mailbox.draining, ⟨mailbox.pending ++ [reading], true⟩)

/-- A registered callback, with what an observer notes of it: how many stores came before the
reading it starts with, what was popped for it, and what it has been called with. -/
structure SoftSubscriber (ρ : Type) extends Mailbox ρ where
  since : Nat
  taken : List ρ
  heard : List ρ

/-- Where a thread is inside the backend's own code. -/
inductive SoftFrame (ρ : Type) where
  /-- A store under the `State` lock: who is still to be queued for, and whom it must drain. -/
  | posting (reading : ρ) (rest toDrain : List Nat)
  /-- A store that has let the lock go. -/
  | delivering (toDrain : List Nat)
  /-- The head of `drain`'s loop. -/
  | draining (id : Nat)
  | popped (id : Nat) (reading : ρ)
  /-- Inside the callback, which may use the backend again. -/
  | calling (id : Nat)
  /-- `set_callback`, whose first drain comes before the token is handed out. -/
  | subscribing (id : Nat)
  /-- An unsubscribe that has left the list and not yet dropped what is queued. -/
  | clearing (id : Nat)
deriving DecidableEq

/-- The backend and the threads that use it. `pollPeriod` says that the getter has one;
`history` is every reading stored; `panicked` the callbacks that have panicked; `stranded` the
subscribers a panic made a store forget. -/
structure SoftSystem (τ κ : Type) where
  pollPeriod : Bool
  state : SoftState τ κ
  locked : Bool
  subs : List (SoftSubscriber (τ × κ))
  threads : List (List (SoftFrame (τ × κ)))
  tokens : List Nat
  history : List (τ × κ)
  panicked : List Nat
  stranded : List Nat

inductive SoftAction (τ κ : Type) where
  | store (value : τ) (ts : κ) (put : Bool)
  /-- The setpoint that a put records before it awaits its setter. -/
  | aim (value : τ)
  | subscribe
  /-- The token's drop. -/
  | unsubscribe (id : Nat)
  /-- The thread goes on with the frame it is in. -/
  | go
  | returns
  /-- The callback panics, and the panic leaves the store or the `set_callback` around it. -/
  | panics

namespace SoftSystem

def start (pollPeriod : Bool) (initial : τ) (ts : κ) (threads : Nat) : SoftSystem τ κ where
  pollPeriod := pollPeriod
  state := ⟨initial, initial, ts, [], 0, false⟩
  locked := false
  subs := []
  threads := List.replicate threads []
  tokens := []
  history := [(initial, ts)]
  panicked := []
  stranded := []

/-- A thread may call the backend from outside of it or from a callback. -/
def free : List (SoftFrame ρ) → Bool
  | [] => true
  | .calling _ :: _ => true
  | _ => false

/-- The thread's frames are now `stack`. -/
def resume (system : SoftSystem τ κ) (thread : Nat) (stack : List (SoftFrame (τ × κ))) :
    SoftSystem τ κ :=
  { system with threads := system.threads.set thread stack }

def putSub (system : SoftSystem τ κ) (id : Nat) (sub : SoftSubscriber (τ × κ)) : SoftSystem τ κ :=
  { system with subs := system.subs.set id sub }

/-- The head of `store`: the state is written and the lock is held. -/
def store (system : SoftSystem τ κ) (value : τ) (ts : κ) (put : Bool) : SoftSystem τ κ :=
  { system with
    state := { system.state with
      value := value
      setpoint := if put then value else system.state.setpoint
      timestamp := ts }
    locked := true
    history := system.history ++ [(value, ts)] }

/-- `set_callback`, as far as the lock reaches. -/
def subscribe (system : SoftSystem τ κ) : SoftSystem τ κ :=
  let id := system.state.nextId
  let subscribers := system.state.subscribers ++ [id]
  { system with
    state := { system.state with
      subscribers := subscribers
      nextId := id + 1
      poll := if subscribers.length = 1 then system.pollPeriod else system.state.poll }
    subs := system.subs ++ [{
      pending := [(system.state.value, system.state.timestamp)]
      draining := true
      since := system.history.length - 1
      taken := []
      heard := [] }] }

def unsubscribe (system : SoftSystem τ κ) (id : Nat) : SoftSystem τ κ :=
  let subscribers := system.state.subscribers.erase id
  { system with
    state := { system.state with
      subscribers := subscribers
      poll := if subscribers.isEmpty then false else system.state.poll }
    tokens := system.tokens.erase id }

/-- What the thread does next in the frame it is in. -/
def go (system : SoftSystem τ κ) (thread : Nat) :
    List (SoftFrame (τ × κ)) → Option (SoftSystem τ κ)
  | .posting reading (id :: rest) toDrain :: below =>
      (system.subs[id]?).map fun sub =>
        let (claimed, mailbox) := sub.enqueue reading
        (system.putSub id { sub with toMailbox := mailbox }).resume thread
          (.posting reading rest (if claimed then toDrain ++ [id] else toDrain) :: below)
  | .posting _ [] toDrain :: below =>
      some ({ system with locked := false }.resume thread (.delivering toDrain :: below))
  | .delivering (id :: rest) :: below =>
      some (system.resume thread (.draining id :: .delivering rest :: below))
  | .delivering [] :: below => some (system.resume thread below)
  | .draining id :: below =>
      (system.subs[id]?).map fun sub =>
        match sub.pending with
        | reading :: rest =>
            (system.putSub id { sub with
              pending := rest
              taken := sub.taken ++ [reading] }).resume thread (.popped id reading :: below)
        | [] => (system.putSub id { sub with draining := false }).resume thread below
  | .popped id reading :: below =>
      (system.subs[id]?).map fun sub =>
        (system.putSub id { sub with heard := sub.heard ++ [reading] }).resume thread
          (.calling id :: below)
  | .subscribing id :: below =>
      some ({ system with tokens := system.tokens ++ [id] }.resume thread below)
  | .clearing id :: below =>
      (system.subs[id]?).map fun sub =>
        (system.putSub id { sub with pending := [] }).resume thread below
  | .calling _ :: _ => none
  | [] => none

/-- What unwinding out of a drain forgets: the rest of a store's list, or a `set_callback`. -/
def unwind : List (SoftFrame ρ) → List Nat × List (SoftFrame ρ)
  | .delivering toDrain :: below => (toDrain, below)
  | .subscribing _ :: below => ([], below)
  | stack => ([], stack)

/-- `ReleaseOnPanic`, and the unwinding up to the frame that catches the panic. -/
def panics (system : SoftSystem τ κ) (thread id : Nat) (below : List (SoftFrame (τ × κ))) :
    Option (SoftSystem τ κ) :=
  (system.subs[id]?).map fun sub =>
    { system.putSub id { sub with draining := false } with
      panicked := system.panicked ++ [id]
      stranded := system.stranded ++ (unwind below).1 }.resume thread (unwind below).2

/-- One step of one thread. -/
def step (system : SoftSystem τ κ) : Nat × SoftAction τ κ → Option (SoftSystem τ κ)
  | (thread, action) =>
      (system.threads[thread]?).bind fun stack =>
        match action, stack with
        | .go, stack => system.go thread stack
        | .returns, .calling id :: below => some (system.resume thread (.draining id :: below))
        | .panics, .calling id :: below => system.panics thread id below
        | .store value ts put, stack =>
            if free stack ∧ system.locked = false then
              some ((system.store value ts put).resume thread
                (.posting (value, ts) system.state.subscribers [] :: stack))
            else none
        | .aim value, stack =>
            if free stack ∧ system.locked = false then
              some { system with state := { system.state with setpoint := value } }
            else none
        | .subscribe, stack =>
            if free stack ∧ system.locked = false then
              some (system.subscribe.resume thread
                (.draining system.state.nextId :: .subscribing system.state.nextId :: stack))
            else none
        | .unsubscribe id, stack =>
            if free stack ∧ system.locked = false ∧ id ∈ system.tokens then
              some ((system.unsubscribe id).resume thread
                (if id ∈ system.state.subscribers then .clearing id :: stack else stack))
            else none
        | _, _ => none

/-! ## Who works for a subscriber -/

/-- A drain of this subscriber that is under way or promised. -/
def claims (id : Nat) : SoftFrame ρ → Nat
  | .posting _ _ toDrain | .delivering toDrain => toDrain.count id
  | .draining other | .popped other _ | .calling other => if other = id then 1 else 0
  | .subscribing _ | .clearing _ => 0

/-- A store that has not queued its reading for this subscriber yet. -/
def awaits (id : Nat) : SoftFrame ρ → Nat
  | .posting _ rest _ => rest.count id
  | _ => 0

def posts : SoftFrame ρ → Nat
  | .posting _ _ _ => 1
  | _ => 0

def total (weight : SoftFrame (τ × κ) → Nat) (system : SoftSystem τ κ) : Nat :=
  tally (tally weight) system.threads

/-- A thread has popped the reading and not called the callback with it yet. -/
def InHand (system : SoftSystem τ κ) (id : Nat) (reading : τ × κ) : Prop :=
  ∃ stack ∈ system.threads, .popped id reading ∈ stack

/-- The mailbox is marked as drained by someone. -/
def claimed (system : SoftSystem τ κ) (id : Nat) : Bool :=
  (system.subs[id]?).any fun sub => sub.draining

/-- No thread is inside the backend or one of its callbacks. -/
def AtRest (system : SoftSystem τ κ) : Prop :=
  ∀ stack ∈ system.threads, stack = []

variable {system : SoftSystem τ κ} {thread : Nat} {stack : List (SoftFrame (τ × κ))}

theorem total_resume (weight : SoftFrame (τ × κ) → Nat) (found : system.threads[thread]? = some stack)
    (after : List (SoftFrame (τ × κ))) :
    total weight (system.resume thread after) + tally weight stack =
      total weight system + tally weight after :=
  tally_set found after

theorem le_total (weight : SoftFrame (τ × κ) → Nat) (found : system.threads[thread]? = some stack) :
    tally weight stack ≤ total weight system :=
  le_tally (List.mem_of_getElem? found)

theorem total_same {weight : SoftFrame (τ × κ) → Nat} (found : system.threads[thread]? = some stack)
    {after : List (SoftFrame (τ × κ))} (same : tally weight after = tally weight stack) :
    total weight (system.resume thread after) = total weight system := by
  have both := total_resume weight found after
  omega

theorem awaits_le_posts (id : Nat) {frame : SoftFrame ρ} (none : posts frame = 0) :
    awaits id frame = 0 := by
  cases frame with
  | posting => cases none
  | _ => rfl

/-- While nobody posts, nobody is waited for. -/
theorem awaits_of_posts (none : total posts system = 0) (id : Nat) : total (awaits id) system = 0 := by
  apply tally_eq_zero.mpr
  intro stack member
  apply tally_eq_zero.mpr
  intro frame among
  exact awaits_le_posts id (tally_eq_zero.mp (tally_eq_zero.mp none stack member) frame among)

/-- A reading in the hand of another thread. -/
def Elsewhere (system : SoftSystem τ κ) (thread id : Nat) (reading : τ × κ) : Prop :=
  ∃ position stack, position ≠ thread ∧ system.threads[position]? = some stack ∧
    .popped id reading ∈ stack

theorem inHand_iff (found : system.threads[thread]? = some stack) (id : Nat) (reading : τ × κ) :
    system.InHand id reading ↔ .popped id reading ∈ stack ∨ system.Elsewhere thread id reading := by
  constructor
  · rintro ⟨other, member, popped⟩
    obtain ⟨position, at_⟩ := List.getElem?_of_mem member
    by_cases same : position = thread
    · subst same
      cases at_.symm.trans found
      exact Or.inl popped
    · exact Or.inr ⟨position, other, same, at_, popped⟩
  · intro either
    cases either with
    | inl here => exact ⟨stack, List.mem_of_getElem? found, here⟩
    | inr other =>
        obtain ⟨position, held, _, at_, popped⟩ := other
        exact ⟨held, List.mem_of_getElem? at_, popped⟩

theorem elsewhere_resume (after : List (SoftFrame (τ × κ))) (id : Nat) (reading : τ × κ) :
    (system.resume thread after).Elsewhere thread id reading ↔ system.Elsewhere thread id reading := by
  unfold Elsewhere resume
  apply exists_congr
  intro position
  apply exists_congr
  intro held
  by_cases same : position = thread
  · simp [same]
  · simp [same, List.getElem?_set_ne (Ne.symm same)]

theorem inHand_resume (found : system.threads[thread]? = some stack)
    (after : List (SoftFrame (τ × κ))) (id : Nat) (reading : τ × κ) :
    (system.resume thread after).InHand id reading ↔
      .popped id reading ∈ after ∨ system.Elsewhere thread id reading := by
  have here : (system.resume thread after).threads[thread]? = some after := by
    have within := (List.getElem?_eq_some_iff.mp found).1
    simp [resume, within]
  rw [inHand_iff here, elsewhere_resume]

theorem claims_popped (id : Nat) (reading : ρ) : claims id (.popped id reading) = 1 := by
  simp [claims]

/-- One claim leaves none to another frame. -/
theorem sole {frame : SoftFrame (τ × κ)} {below : List (SoftFrame (τ × κ))} {id : Nat}
    (found : system.threads[thread]? = some (frame :: below)) (claim : claims id frame = 1)
    (one : total (claims id) system ≤ 1) (reading : τ × κ) :
    .popped id reading ∉ below ∧ ¬ system.Elsewhere thread id reading := by
  have rest : total (claims id) (system.resume thread below) = 0 := by
    have both := total_resume (claims id) found below
    rw [tally_cons] at both
    omega
  have absent : ¬ (system.resume thread below).InHand id reading := by
    intro there
    obtain ⟨held, member, popped⟩ := there
    have zero := tally_eq_zero.mp (tally_eq_zero.mp rest held member) _ popped
    rw [claims_popped] at zero
    cases zero
  rw [inHand_resume found] at absent
  exact not_or.mp absent

end SoftSystem

end Bsrs.Devices
