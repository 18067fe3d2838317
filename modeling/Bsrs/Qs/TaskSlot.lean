import Mathlib.Data.List.Nodup

namespace Bsrs.Qs

/-- A spawned task, by the order in which the runtime was handed it. -/
abbrev TaskId := Nat

/-- A live claim; the abort handle arrives with `register`. -/
structure Entry where
  generation : Nat
  handle : Option TaskId
  deriving Repr, DecidableEq

/-- `QueueTaskSlot`: at most one live claim, stamped with its generation, and the notice that a
worker released it. -/
structure QueueTaskSlot where
  nextGen : Nat
  entry : Option Entry
  workerFinished : Bool
  deriving Repr, DecidableEq

namespace QueueTaskSlot

def new : QueueTaskSlot where
  nextGen := 0
  entry := none
  workerFinished := false

/-- The generation of the claim that is current. -/
def current (slot : QueueTaskSlot) : Option Nat :=
  slot.entry.map Entry.generation

/-- `claim`: the slot with the new claim and its generation, unless another claim is live. -/
def claim (slot : QueueTaskSlot) : Option (QueueTaskSlot × Nat) :=
  match slot.entry with
  | some _ => none
  | none =>
      some ({ slot with nextGen := slot.nextGen + 1, entry := some ⟨slot.nextGen, none⟩ },
        slot.nextGen)

/-- `register`: the slot, and whether the handle was aborted instead of kept. -/
def register (slot : QueueTaskSlot) (generation : Nat) (handle : TaskId) : QueueTaskSlot × Bool :=
  match slot.entry with
  | some entry =>
      if entry.generation = generation then
        ({ slot with entry := some { entry with handle := some handle } }, false)
      else (slot, true)
  | none => (slot, true)

/-- `take`: the emptied slot and the handle that was in it. -/
def take (slot : QueueTaskSlot) : QueueTaskSlot × Option TaskId :=
  ({ slot with entry := none }, slot.entry.bind Entry.handle)

def isActive (slot : QueueTaskSlot) : Bool :=
  slot.entry.isSome

/-- `finish`, what dropping a `SlotClaim` does: inert unless the claim is current. -/
def finish (slot : QueueTaskSlot) (generation : Nat) : QueueTaskSlot :=
  match slot.entry with
  | some entry =>
      if entry.generation = generation then
        { slot with entry := none, workerFinished := true }
      else slot
  | none => slot

/-- `take_worker_finished`: the slot with the notice taken, and the notice. -/
def takeWorkerFinished (slot : QueueTaskSlot) : QueueTaskSlot × Bool :=
  ({ slot with workerFinished := false }, slot.workerFinished)

theorem current_eq_some {slot : QueueTaskSlot} :
    slot.current = some generation ↔
      ∃ entry, slot.entry = some entry ∧ entry.generation = generation := by
  simp [current]

/-- A claim succeeds exactly on an empty slot. -/
theorem claim_eq_some {slot : QueueTaskSlot} :
    slot.claim = some (next, generation) ↔
      slot.entry = none ∧ generation = slot.nextGen ∧
        next = { slot with nextGen := slot.nextGen + 1, entry := some ⟨slot.nextGen, none⟩ } := by
  cases held : slot.entry with
  | none =>
      simp only [claim, held, Option.some.injEq, Prod.mk.injEq, true_and]
      constructor
      · rintro ⟨rfl, rfl⟩
        exact ⟨rfl, rfl⟩
      · rintro ⟨rfl, rfl⟩
        exact ⟨rfl, rfl⟩
  | some entry => simp [claim, held]

theorem register_of_current {slot : QueueTaskSlot} (current : slot.current = some generation)
    (handle : TaskId) :
    slot.register generation handle =
      ({ slot with entry := some ⟨generation, some handle⟩ }, false) := by
  obtain ⟨entry, held, same⟩ := current_eq_some.mp current
  simp [register, held, same]

/-- A registration by any other generation leaves the slot alone and aborts the handle. -/
theorem register_of_stale {slot : QueueTaskSlot} (stale : slot.current ≠ some generation)
    (handle : TaskId) : slot.register generation handle = (slot, true) := by
  cases held : slot.entry with
  | none => simp [register, held]
  | some entry =>
      have different : entry.generation ≠ generation := by
        simpa [current, held] using stale
      simp [register, held, different]

theorem finish_of_current {slot : QueueTaskSlot} (current : slot.current = some generation) :
    slot.finish generation = { slot with entry := none, workerFinished := true } := by
  obtain ⟨entry, held, same⟩ := current_eq_some.mp current
  simp [finish, held, same]

/-- A release by any other generation is inert. -/
theorem finish_of_stale {slot : QueueTaskSlot} (stale : slot.current ≠ some generation) :
    slot.finish generation = slot := by
  cases held : slot.entry with
  | none => simp [finish, held]
  | some entry =>
      have different : entry.generation ≠ generation := by
        simpa [current, held] using stale
      simp [finish, held, different]

theorem nextGen_register (slot : QueueTaskSlot) (generation : Nat) (handle : TaskId) :
    (slot.register generation handle).1.nextGen = slot.nextGen := by
  by_cases live : slot.current = some generation
  · rw [register_of_current live]
  · rw [register_of_stale live]

theorem nextGen_finish (slot : QueueTaskSlot) (generation : Nat) :
    (slot.finish generation).nextGen = slot.nextGen := by
  by_cases live : slot.current = some generation
  · rw [finish_of_current live]
  · rw [finish_of_stale live]

end QueueTaskSlot

end Bsrs.Qs
