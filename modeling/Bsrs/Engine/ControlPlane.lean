import Bsrs.Library.Run
import Bsrs.Engine.Control

namespace Bsrs.Engine

open Bsrs.Library (Throughout exec exec_invariant_throughout)

/-! ## Accesses of the operations -/

/-- An operation on the control plane, at the access it makes next: a `pause`, a `resume`, an
interrupt request, or a `request_suspend`, which goes on as the `release` of its hold once what it
waits for has come. The count of a pause and the cancelling of the token are one access, made under
the token's lock; `run_gen` does not change within a run, so reading it is none. -/
inductive Operation where
  | pauseManual
  | pauseMark
  | pauseCount
  | resumeManual
  | resumeClear
  | resumeNotify
  | interruptCount
  | interruptClear
  | interruptNotify
  | suspendStore (suspension : Suspension)
  | suspendHold
  | suspendMark
  | suspendCount
  | releaseCheck (gen : Nat)
  | releaseLower
  | releaseRead
  | releaseClear
  | releaseNotify
  deriving Repr, DecidableEq

namespace RunControl

def countPause (ctl : RunControl) : RunControl :=
  { ctl with pauseSeq := ctl.pauseSeq + 1, cancelled := true }

def notify (ctl : RunControl) : RunControl :=
  { ctl with permit := if ctl.permit = .armed then .notified else ctl.permit }

/-- One access, and where the operation is afterwards, if it goes on. -/
def access (ctl : RunControl) : Operation → RunControl × Option Operation
  | .pauseManual => ({ ctl with manualPause := true }, some .pauseMark)
  | .pauseMark => ({ ctl with isPaused := true }, some .pauseCount)
  | .pauseCount => (ctl.countPause, none)
  | .resumeManual => ({ ctl with manualPause := false }, some .resumeClear)
  | .resumeClear => ({ ctl with isPaused := false }, some .resumeNotify)
  | .resumeNotify => (ctl.notify, none)
  | .interruptCount => ({ ctl with cancelled := true }, some .interruptClear)
  | .interruptClear => ({ ctl with isPaused := false }, some .interruptNotify)
  | .interruptNotify => (ctl.notify, none)
  | .suspendStore suspension => ({ ctl with pendingSuspend := some suspension }, some .suspendHold)
  | .suspendHold => ({ ctl with holds := ctl.holds + 1 }, some .suspendMark)
  | .suspendMark => ({ ctl with isPaused := true }, some .suspendCount)
  | .suspendCount => (ctl.countPause, some (.releaseCheck ctl.runGen))
  | .releaseCheck gen => (ctl, if gen ≠ ctl.runGen then none else some .releaseLower)
  | .releaseLower =>
      ({ ctl with holds := ctl.holds - 1 }, if ctl.holds ≤ 1 then some .releaseRead else none)
  | .releaseRead => (ctl, if ctl.manualPause = false then some .releaseClear else none)
  | .releaseClear => ({ ctl with isPaused := false }, some .releaseNotify)
  | .releaseNotify => (ctl.notify, none)

/-- An operation that nothing comes between, for so many accesses at most. -/
def complete : Nat → RunControl → Operation → RunControl
  | 0, ctl, _ => ctl
  | fuel + 1, ctl, operation =>
      match ctl.access operation with
      | (next, none) => next
      | (next, some later) => complete fuel next later

/-- By themselves the accesses come to the operations as a whole. -/
theorem complete_eq (ctl : RunControl) (suspension : Suspension) (gen : Nat) :
    complete 3 ctl .pauseManual = ctl.pause ∧
      complete 3 ctl .resumeManual = ctl.resume ∧
      complete 3 ctl .interruptCount = { ctl with cancelled := true }.wake ∧
      complete 4 ctl (.suspendStore suspension) = ctl.requestSuspend suspension ∧
      complete 5 ctl (.releaseCheck gen) = ctl.release gen := by
  refine ⟨rfl, rfl, rfl, rfl, ?_⟩
  unfold release
  by_cases own : gen = ctl.runGen
  · by_cases last : ctl.holds ≤ 1
    · cases manual : ctl.manualPause <;>
        simp [complete, access, own, last, manual, wake, notify]
    · simp [complete, access, own, last]
  · simp [complete, access, own]

end RunControl

/-! ## The control plane and the pause gate -/

/-- Where the run loop is with the pause gate; from `entering` on with the suspension it took. The
gate's walks and the plans it runs make no access of their own. -/
inductive Gate where
  | outside
  | arming
  | acking
  | taking
  | entering (suspension : Option Suspension)
  | prePlan (suspension : Option Suspension)
  | checking (suspension : Option Suspension)
  | parked (suspension : Option Suspension)
  | absorbing (suspension : Option Suspension)
  | deciding (suspension : Option Suspension)
  | resuming (suspension : Option Suspension)
  | postPlan (suspension : Option Suspension)
  deriving Repr, DecidableEq

/-- The control plane within one run, with the operations on their way. `userPaused` is set from a
pause of the user's on, until a resume or an interrupt; `requested` are the suspensions stored since
the gate was last passed, `own` those of them that were there when it took the one it uses. -/
structure Plane where
  ctl : RunControl
  interruptSeq : Nat
  operations : List Operation
  gate : Gate
  pauseSeen : Nat
  thrownSeq : Nat
  userPaused : Bool
  requested : List Suspension
  own : List Suspension
  deriving Repr, DecidableEq

/-- What can be asked of the control plane. -/
inductive Asked where
  | pause
  | resume
  | interrupt
  | suspend (suspension : Suspension)

def Asked.operation : Asked → Operation
  | .pause => .pauseManual
  | .resume => .resumeManual
  | .interrupt => .interruptCount
  | .suspend suspension => .suspendStore suspension

/-- What can happen next: an operation begins, one makes its next access, the run loop takes its
next step with the gate, or it acts on the interrupts requested so far. -/
inductive Plane.Label where
  | begins (asked : Asked)
  | goes (operation : Operation)
  | gate
  | acts

namespace Plane

/-- A run begins on a reset control plane. Releases of earlier runs may still be to come. -/
def start (ctl : RunControl) (stale : List Nat) : Plane where
  ctl := ctl.resetForRun
  interruptSeq := 0
  operations := (stale.filter (· ≠ ctl.resetForRun.runGen)).map .releaseCheck
  gate := .outside
  pauseSeen := ctl.pauseSeq
  thrownSeq := 0
  userPaused := false
  requested := []
  own := []

/-- An operation makes its next access. -/
def go (plane : Plane) (operation : Operation) : Plane :=
  { plane with
    ctl := (plane.ctl.access operation).1
    interruptSeq := if operation = .interruptCount then plane.interruptSeq + 1 else plane.interruptSeq
    operations := (plane.ctl.access operation).2.toList ++ plane.operations.erase operation
    userPaused :=
      match operation with
      | .pauseMark => true
      | .resumeManual | .interruptClear => false
      | _ => plane.userPaused
    requested :=
      match operation with
      | .suspendStore suspension => suspension :: plane.requested
      | _ => plane.requested }

/-- `ack_pause`. -/
def ack (plane : Plane) : Plane :=
  { plane with
    pauseSeen := (plane.ctl.ackPause plane.pauseSeen).1
    ctl := (plane.ctl.ackPause plane.pauseSeen).2 }

/-- The next step of `pause_gate`; `none` where the loop is elsewhere, or parked. -/
def passGate (plane : Plane) : Option Plane :=
  match plane.gate with
  | .outside => if plane.ctl.pauseSeq ≠ plane.pauseSeen then some { plane with gate := .arming } else none
  | .arming => some { plane with ctl := plane.ctl.arm, gate := .acking }
  | .acking => some { plane.ack with gate := .taking }
  | .taking =>
      some { plane with
        ctl := { plane.ctl with pendingSuspend := none }
        gate := .entering plane.ctl.pendingSuspend
        own := plane.requested }
  | .entering suspension =>
      some { plane with
        gate := if (suspension.map Suspension.prePlan).getD false then .prePlan suspension
          else .checking suspension }
  | .prePlan suspension => some { plane with gate := .checking suspension }
  | .checking suspension =>
      some { plane with
        gate := if plane.ctl.isPaused then .parked suspension else .absorbing suspension }
  | .parked suspension =>
      if plane.ctl.permit = .notified then some { plane with gate := .absorbing suspension } else none
  | .absorbing suspension => some { plane.ack with gate := .deciding suspension, requested := [] }
  | .deciding suspension =>
      some { plane with
        ctl := plane.ctl.disarm
        gate := if plane.interruptSeq ≠ plane.thrownSeq then .outside else .resuming suspension }
  | .resuming suspension =>
      some { plane with
        gate := if (suspension.map Suspension.postPlan).getD false then .postPlan suspension
          else .outside }
  | .postPlan _ => some { plane with gate := .outside }

def step (plane : Plane) : Label → Option Plane
  | .begins asked => some { plane with operations := asked.operation :: plane.operations }
  | .goes operation => if operation ∈ plane.operations then some (plane.go operation) else none
  | .gate => plane.passGate
  | .acts =>
      if plane.gate = .outside ∧ plane.interruptSeq ≠ plane.thrownSeq then
        some { plane with
          ctl := { plane.ctl with cancelled := false }
          thrownSeq := plane.interruptSeq }
      else
        none

/-! ## What suspensions are to keep -/

end Plane

/-- A suspension whose hold is counted and not released yet. -/
def Operation.isOutstanding (gen : Nat) : Operation → Bool
  | .suspendMark | .suspendCount | .releaseLower => true
  | .releaseCheck of => of = gen
  | _ => false

/-- Done, or a suspension that waits for what will release it. -/
def Operation.isAtRest : Operation → Bool
  | .releaseCheck _ => true
  | _ => false

/-- A release that has lowered the holds to zero and has not woken the engine yet. -/
def Operation.isLifting : Operation → Bool
  | .releaseRead | .releaseClear | .releaseNotify => true
  | _ => false

/-- A release that has read `manual_pause` too and is to wake the engine. -/
def Operation.isWaking : Operation → Bool
  | .releaseClear | .releaseNotify => true
  | _ => false

/-- On the way to writing `is_paused`. -/
def Operation.isFlagging : Operation → Bool
  | .releaseRead | .releaseClear | .resumeClear | .pauseMark => true
  | _ => false

/-- Inside the gate, with the request taken and not acknowledged for the second time. -/
def Gate.isPassing : Gate → Bool
  | .entering _ | .prePlan _ | .checking _ | .parked _ | .absorbing _ => true
  | _ => false

/-- The suspension a pass of the gate uses. -/
def Gate.suspension : Gate → Option Suspension
  | .entering suspension | .prePlan suspension | .checking suspension | .parked suspension
  | .absorbing suspension | .deciding suspension | .resuming suspension | .postPlan suspension =>
      suspension
  | _ => none

namespace Plane

/-- The suspensions of the run that are not released yet. -/
def outstanding (plane : Plane) : Nat :=
  plane.operations.countP (Operation.isOutstanding plane.ctl.runGen)

/-- With no operation under way, every suspension released and no pause of the user's in force the
engine is not paused. -/
def LiftsOnceReleased (plane : Plane) : Prop :=
  (∀ operation ∈ plane.operations, operation.isAtRest = true) → plane.outstanding = 0 →
    plane.userPaused = false → plane.ctl.isPaused = false

/-- While a release wakes the engine no suspension is outstanding and no pause of the user's in
force. -/
def HoldsWhileOutstanding (plane : Plane) : Prop :=
  (∃ operation ∈ plane.operations, operation.isWaking = true) →
    plane.outstanding = 0 ∧ plane.userPaused = false

/-- The suspension the gate uses was requested for that very pause. -/
def UsesOwn (plane : Plane) : Prop :=
  ∀ suspension ∈ plane.gate.suspension, suspension ∈ plane.own

/-- Suspensions release as they should, and are attributed to the pauses they were requested
for. -/
structure Attributed (plane : Plane) : Prop where
  lifts : plane.LiftsOnceReleased
  holds : plane.HoldsWhileOutstanding
  uses : plane.UsesOwn

instance (plane : Plane) : Decidable plane.LiftsOnceReleased :=
  inferInstanceAs (Decidable (_ → _ → _ → _))

instance (plane : Plane) : Decidable plane.HoldsWhileOutstanding :=
  inferInstanceAs (Decidable ((∃ operation ∈ plane.operations, _) → _))

instance (plane : Plane) : Decidable plane.UsesOwn :=
  inferInstanceAs (Decidable (∀ suspension ∈ plane.gate.suspension, _))

/-- No request comes between the accesses of another where the two do not agree. A suspension is
stored outside the gate, and takes its hold while no release has lowered the holds to zero and not
woken the engine yet; no pause is marked between a release's reading of `manual_pause` and its
wake-up; and what it reads there stands for a pause of the user's that is in force or being made. -/
def Apart (plane : Plane) : Label → Prop
  | .goes (.suspendStore _) => plane.gate.isPassing = false
  | .goes .suspendHold => ∀ operation ∈ plane.operations, operation.isLifting = false
  | .goes .pauseMark => ∀ operation ∈ plane.operations, operation.isWaking = false
  | .goes .releaseRead =>
      (plane.userPaused = true → plane.ctl.manualPause = true) ∧
        (plane.ctl.manualPause = true → plane.userPaused = true ∨ .pauseMark ∈ plane.operations)
  | _ => True

instance (plane : Plane) : ∀ label, Decidable (plane.Apart label) := by
  intro label
  unfold Apart
  split <;> infer_instance

/-! ## The invariant -/

/-- What the flags say while operations are under way. -/
structure Sound (plane : Plane) : Prop where
  holds : plane.ctl.holds = plane.outstanding
  lowered : ∀ operation ∈ plane.operations, operation.isLifting = true → plane.ctl.holds = 0
  waking : ∀ operation ∈ plane.operations, operation.isWaking = true → plane.userPaused = false
  paused : plane.ctl.isPaused = true → 0 < plane.ctl.holds ∨ plane.userPaused = true ∨
    ∃ operation ∈ plane.operations, operation.isFlagging = true
  passing : plane.gate.isPassing = true → plane.ctl.pendingSuspend = none
  pending : ∀ suspension ∈ plane.ctl.pendingSuspend, suspension ∈ plane.requested
  uses : plane.UsesOwn

variable {plane after : Plane} {operation : Operation}

attribute [local grind] Plane.go RunControl.access RunControl.countPause RunControl.notify

/-- What was outstanding is the operation that moves, if it was, and what is beside it. -/
private theorem outstanding_eq (member : operation ∈ plane.operations) : plane.outstanding =
    (if operation.isOutstanding plane.ctl.runGen then 1 else 0) +
      (plane.operations.erase operation).countP (Operation.isOutstanding plane.ctl.runGen) := by
  rw [outstanding, (List.perm_cons_erase member).countP_eq, List.countP_cons, Nat.add_comm]

private theorem holds_go (sound : plane.Sound) (member : operation ∈ plane.operations) :
    (plane.go operation).ctl.holds = (plane.go operation).outstanding := by
  have count := outstanding_eq member
  have holds := sound.holds
  cases operation <;> grind [outstanding, Operation.isOutstanding]

section

variable (sound : plane.Sound) (member : operation ∈ plane.operations)
  (apart : plane.Apart (.goes operation))
  (fewer : ∀ other ∈ plane.operations.erase operation, other ∈ plane.operations)
  (kept : ∀ other ∈ plane.operations, other ≠ operation → other ∈ plane.operations.erase operation)
include sound member apart fewer kept

private theorem lowered_go {other : Operation} (held : other ∈ (plane.go operation).operations)
    (lifting : other.isLifting = true) : (plane.go operation).ctl.holds = 0 := by
  have lowered := sound.lowered
  cases operation <;> grind [Apart, Operation.isLifting]

private theorem waking_go {other : Operation} (held : other ∈ (plane.go operation).operations)
    (wakes : other.isWaking = true) : (plane.go operation).userPaused = false := by
  have waking := sound.waking
  cases operation <;> grind [Apart, Operation.isWaking]

private theorem paused_go (isPaused : (plane.go operation).ctl.isPaused = true) :
    0 < (plane.go operation).ctl.holds ∨ (plane.go operation).userPaused = true ∨
      ∃ other ∈ (plane.go operation).operations, other.isFlagging = true := by
  have paused := sound.paused
  have held : operation.isOutstanding plane.ctl.runGen = true → 0 < plane.ctl.holds := by
    intro counts
    rw [sound.holds, outstanding_eq member, if_pos counts]
    omega
  cases operation <;> grind [Apart, Operation.isFlagging, Operation.isOutstanding]

private theorem gate_go : ((plane.go operation).gate.isPassing = true →
    (plane.go operation).ctl.pendingSuspend = none) ∧
    ∀ suspension ∈ (plane.go operation).ctl.pendingSuspend, suspension ∈ (plane.go operation).requested := by
  have passing := sound.passing
  have pending := sound.pending
  cases operation <;> grind [Apart]

end

theorem Sound.go (sound : plane.Sound) (member : operation ∈ plane.operations)
    (apart : plane.Apart (.goes operation)) : (plane.go operation).Sound := by
  have fewer : ∀ other ∈ plane.operations.erase operation, other ∈ plane.operations :=
    fun _ => List.mem_of_mem_erase
  have kept : ∀ other ∈ plane.operations, other ≠ operation → other ∈ plane.operations.erase operation :=
    fun _ held different => (List.mem_erase_of_ne different).mpr held
  obtain ⟨passing, pending⟩ := gate_go sound member apart fewer kept
  exact ⟨holds_go sound member, fun _ => lowered_go sound member apart fewer kept,
    fun _ => waking_go sound member apart fewer kept, paused_go sound member apart fewer kept, passing,
    pending, sound.uses⟩

/-- An operation that begins makes no access yet. -/
theorem Sound.begins (sound : plane.Sound) (asked : Asked) :
    Sound { plane with operations := asked.operation :: plane.operations } := by
  obtain ⟨holds, lowered, waking, paused, passing, pending, uses⟩ := sound
  constructor
  · cases asked <;> simpa [outstanding, Asked.operation, Operation.isOutstanding] using holds
  · cases asked <;> simpa [Asked.operation, Operation.isLifting] using lowered
  · cases asked <;> simpa [Asked.operation, Operation.isWaking] using waking
  · intro isPaused
    refine (paused isPaused).imp_right (Or.imp_right ?_)
    rintro ⟨other, held, kind⟩
    exact ⟨other, List.mem_cons_of_mem _ held, kind⟩
  · exact passing
  · exact pending
  · exact uses

/-- The gate leaves the flags of a pause alone. -/
theorem Sound.gated (sound : plane.Sound) (after : Plane)
    (operations : after.operations = plane.operations)
    (isPaused : after.ctl.isPaused = plane.ctl.isPaused)
    (held : after.ctl.holds = plane.ctl.holds) (runGen : after.ctl.runGen = plane.ctl.runGen)
    (user : after.userPaused = plane.userPaused)
    (passing : after.gate.isPassing = true → after.ctl.pendingSuspend = none)
    (pending : ∀ suspension ∈ after.ctl.pendingSuspend, suspension ∈ after.requested)
    (uses : after.UsesOwn) : after.Sound := by
  constructor
  · rw [outstanding, held, operations, runGen]
    exact sound.holds
  · rw [operations, held]
    exact sound.lowered
  · rw [operations, user]
    exact sound.waking
  · rw [operations, user, isPaused, held]
    exact sound.paused
  · exact passing
  · exact pending
  · exact uses

/-- Renewing the token leaves the flags and the pending suspension alone. -/
theorem ack_eq (plane : Plane) :
    plane.ack.ctl = plane.ctl ∨ plane.ack.ctl = { plane.ctl with cancelled := false } := by
  unfold ack RunControl.ackPause
  by_cases counted : plane.ctl.pauseSeq ≠ plane.pauseSeen
  · rw [if_pos counted]
    exact .inr rfl
  · rw [if_neg counted]
    exact .inl rfl

/-- A step of the gate that takes nothing and acknowledges nothing for the second time. -/
private theorem Sound.proceeds (sound : plane.Sound) (gate : Gate) {ctl : RunControl}
    (same : ctl = plane.ctl ∨ ctl = { plane.ctl with cancelled := false } ∨ ctl = plane.ctl.arm ∨
      ctl = plane.ctl.disarm)
    (within : gate.isPassing = true → plane.gate.isPassing = true)
    (carried : ∀ suspension ∈ gate.suspension, suspension ∈ plane.gate.suspension)
    (seen thrown : Nat) :
    Sound { plane with gate, ctl, pauseSeen := seen, thrownSeq := thrown } := by
  have uses : UsesOwn { plane with gate, ctl, pauseSeen := seen, thrownSeq := thrown } :=
    fun suspension used => sound.uses suspension (carried suspension used)
  rcases same with rfl | rfl | rfl | rfl
  all_goals
    exact sound.gated { plane with gate, ctl := _, pauseSeen := seen, thrownSeq := thrown }
      rfl rfl rfl rfl rfl (fun passing => sound.passing (within passing)) sound.pending uses

theorem Sound.passGate (sound : plane.Sound) (passed : plane.passGate = some after) : after.Sound := by
  have acked := ack_eq plane
  unfold Plane.passGate at passed
  cases place : plane.gate with
  | outside | parked suspension =>
      simp only [place] at passed
      obtain ⟨-, next⟩ := Option.ite_none_right_eq_some.mp passed
      cases next
      exact sound.proceeds _ (.inl rfl) (by simp [place, Gate.isPassing])
        (by simp [place, Gate.suspension]) _ _
  | arming =>
      simp only [place] at passed
      cases passed
      exact sound.proceeds .acking (.inr (.inr (.inl rfl))) (by simp [Gate.isPassing])
        (by simp [Gate.suspension]) _ _
  | acking =>
      simp only [place] at passed
      cases passed
      exact sound.proceeds .taking (acked.imp_right .inl) (by simp [Gate.isPassing])
        (by simp [Gate.suspension]) _ _
  | taking =>
      simp only [place] at passed
      cases passed
      exact sound.gated _ rfl rfl rfl rfl rfl (fun _ => rfl) (by simp) sound.pending
  | entering suspension | checking suspension | resuming suspension =>
      simp only [place] at passed
      cases passed
      exact sound.proceeds _ (.inl rfl) (by split <;> simp [place, Gate.isPassing])
        (by split <;> simp [place, Gate.suspension]) _ _
  | prePlan suspension | postPlan suspension =>
      simp only [place] at passed
      cases passed
      exact sound.proceeds _ (.inl rfl) (by simp [place, Gate.isPassing])
        (by simp [place, Gate.suspension]) _ _
  | absorbing suspension =>
      simp only [place] at passed
      cases passed
      have none : plane.ctl.pendingSuspend = none := sound.passing (by rw [place]; rfl)
      have uses : ∀ other ∈ suspension, other ∈ plane.own := by
        have before := sound.uses
        rwa [UsesOwn, place] at before
      rcases acked with same | same
      all_goals
        exact sound.gated _ rfl (by simp [same]) (by simp [same]) (by simp [same]) rfl
          (by simp [Gate.isPassing]) (by simp [same, none]) uses
  | deciding suspension =>
      simp only [place] at passed
      cases passed
      exact sound.proceeds _ (.inr (.inr (.inr rfl))) (by split <;> simp [Gate.isPassing])
        (by split <;> simp [place, Gate.suspension]) _ _

theorem Sound.step {label : Label} (sound : plane.Sound) (apart : plane.Apart label)
    (stepped : plane.step label = some after) : after.Sound := by
  cases label with
  | begins asked =>
      cases stepped
      exact sound.begins asked
  | goes operation =>
      obtain ⟨member, next⟩ := Option.ite_none_right_eq_some.mp stepped
      cases next
      exact sound.go member apart
  | gate => exact sound.passGate stepped
  | acts =>
      obtain ⟨-, next⟩ := Option.ite_none_right_eq_some.mp stepped
      cases next
      exact sound.proceeds plane.gate (.inr (.inl rfl)) id (fun _ => id) _ _

theorem Sound.start (ctl : RunControl) (stale : List Nat) : (Plane.start ctl stale).Sound := by
  have stale_only : ∀ operation ∈ (Plane.start ctl stale).operations,
      ∃ gen, operation = .releaseCheck gen ∧ gen ≠ ctl.resetForRun.runGen := by
    intro operation member
    obtain ⟨gen, kept, rfl⟩ := List.mem_map.mp member
    exact ⟨gen, rfl, of_decide_eq_true (List.mem_filter.mp kept).2⟩
  have none : (Plane.start ctl stale).outstanding = 0 := by
    refine List.countP_eq_zero.mpr fun operation member => ?_
    obtain ⟨gen, rfl, other⟩ := stale_only operation member
    exact fun own => other (of_decide_eq_true own)
  constructor
  · exact none.symm
  · intro operation member lifting
    obtain ⟨gen, rfl, -⟩ := stale_only operation member
    cases lifting
  · intro operation member wakes
    rfl
  · intro paused
    cases paused
  · intro passing
    cases passing
  · intro suspension pending
    cases pending
  · intro suspension used
    cases used

theorem Sound.attributed (sound : plane.Sound) : plane.Attributed where
  lifts rests none calm := by
    refine Bool.eq_false_iff.mpr fun waits => ?_
    rcases sound.paused waits with more | user | ⟨operation, member, flagging⟩
    · rw [sound.holds, none] at more
      cases more
    · rw [calm] at user
      cases user
    · have rest := rests operation member
      cases operation <;> simp_all [Operation.isFlagging, Operation.isAtRest]
  holds := by
    rintro ⟨operation, member, wakes⟩
    refine ⟨?_, sound.waking operation member wakes⟩
    rw [← sound.holds]
    have lifts : operation.isLifting = true := by
      cases operation <;> simp_all [Operation.isWaking, Operation.isLifting]
    exact sound.lowered operation member lifts
  uses := sound.uses

end Plane

/-- A suspension that brings a `pre_plan`. -/
private def beamLost : Suspension :=
  { justification := "beam lost", prePlan := true, postPlan := false }

/-- All accesses of an operation in turn. -/
private def alone (asked : Asked) : List Plane.Label :=
  .begins asked :: match asked with
    | .pause => [.goes .pauseManual, .goes .pauseMark, .goes .pauseCount]
    | .resume => [.goes .resumeManual, .goes .resumeClear, .goes .resumeNotify]
    | .interrupt => [.goes .interruptCount, .goes .interruptClear, .goes .interruptNotify]
    | .suspend suspension =>
        [.goes (.suspendStore suspension), .goes .suspendHold, .goes .suspendMark, .goes .suspendCount]

private def released : List Plane.Label :=
  [.goes (.releaseCheck 1), .goes .releaseLower, .goes .releaseRead, .goes .releaseClear,
    .goes .releaseNotify]

private def gated (count : Nat) : List Plane.Label :=
  List.replicate count .gate

/-- A second suspension is requested while the first one is released, and a pause while the second
one is: the gate goes on once the pause is resumed. -/
private def overlapping : List Plane.Label :=
  alone (.suspend beamLost) ++ gated 7 ++
    [.begins (.suspend beamLost), .goes (.releaseCheck 1), .goes .releaseLower, .goes .releaseRead,
      .goes .releaseClear, .goes .releaseNotify] ++ gated 4 ++
    [.goes (.suspendStore beamLost), .goes .suspendHold, .goes .suspendMark, .goes .suspendCount,
      .begins .pause, .goes .pauseManual, .goes (.releaseCheck 1), .goes .pauseMark,
      .goes .releaseLower, .goes .pauseCount, .goes .releaseRead] ++ gated 7 ++ alone .resume ++ gated 4 ++
    [.goes (.releaseCheck 0)]

/-- Parked by a pause, the engine is suspended and, the suspension released, resumed; at the next
pause the gate runs the suspension's plans. -/
private def suspendedWhileParked : List Plane.Label :=
  alone .pause ++ gated 6 ++ alone (.suspend beamLost) ++ released.take 3 ++ alone .resume ++ gated 4 ++
    alone .pause ++ gated 4

/-- A pause is lifted by an interrupt; a later suspension, once released, leaves the engine paused. -/
private def suspendedAfterInterrupt : List Plane.Label :=
  alone .pause ++ alone .interrupt ++ alone (.suspend beamLost) ++ released.take 3

/-- Once a release has lowered the holds to zero, another suspension is requested before it wakes
the engine. -/
private def suspendedInBetween : List Plane.Label :=
  alone (.suspend beamLost) ++ released.take 3 ++ alone (.suspend beamLost)

end Bsrs.Engine
