namespace Bsrs.Engine

/-- Where the run loop's waiter on the `permit` notification stands. -/
inductive Permit where
  | unarmed
  | armed
  | notified
  deriving Repr, DecidableEq

/-- What a suspension records, and whether it brings a `pre_plan` and a `post_plan`. -/
structure Suspension where
  justification : String
  prePlan : Bool
  postPlan : Bool
  deriving Repr, DecidableEq

/-- `RunControl`: the flags a pause, resume or suspension request touches.
`cancelled` is the state of the current token; renewing the token clears it. -/
structure RunControl where
  isRunning : Bool
  isPaused : Bool
  permit : Permit
  cancelled : Bool
  pauseSeq : Nat
  pendingSuspend : Option Suspension
  holds : Nat
  manualPause : Bool
  runGen : Nat
  deriving Repr, DecidableEq

namespace RunControl

def new : RunControl where
  isRunning := false
  isPaused := false
  permit := .unarmed
  cancelled := false
  pauseSeq := 0
  pendingSuspend := none
  holds := 0
  manualPause := false
  runGen := 0

def resetForRun (ctl : RunControl) : RunControl :=
  { ctl with
    runGen := ctl.runGen + 1
    isPaused := false
    manualPause := false
    holds := 0
    pendingSuspend := none
    cancelled := false }

/-- `mark_paused`, the one `is_paused: false → true` transition. -/
def markPaused (ctl : RunControl) : RunControl :=
  { ctl with isPaused := true, pauseSeq := ctl.pauseSeq + 1, cancelled := true }

def pause (ctl : RunControl) : RunControl :=
  { ctl with manualPause := true }.markPaused

/-- `wake`, the one `is_paused: true → false` transition; an armed waiter is notified. -/
def wake (ctl : RunControl) : RunControl :=
  { ctl with
    isPaused := false
    permit := if ctl.permit = .armed then .notified else ctl.permit }

def resume (ctl : RunControl) : RunControl :=
  { ctl with manualPause := false }.wake

/-- `request_suspend`; the release of the hold it takes comes later, tagged with `runGen`. -/
def requestSuspend (ctl : RunControl) (suspension : Suspension) : RunControl :=
  { ctl with pendingSuspend := some suspension, holds := ctl.holds + 1 }.markPaused

def release (ctl : RunControl) (gen : Nat) : RunControl :=
  if gen ≠ ctl.runGen then
    ctl
  else
    let lowered := { ctl with holds := ctl.holds - 1 }
    if ctl.holds ≤ 1 ∧ ctl.manualPause = false then lowered.wake else lowered

/-- `ack_pause` against the count `seen`: the count acted on and the renewed token. -/
def ackPause (ctl : RunControl) (seen : Nat) : Nat × RunControl :=
  if ctl.pauseSeq ≠ seen then (ctl.pauseSeq, { ctl with cancelled := false }) else (seen, ctl)

/-- Register the waiter before the slow pause-enter work, as `pause_gate` does. -/
def arm (ctl : RunControl) : RunControl :=
  { ctl with permit := .armed }

/-- The waiter is dropped with the pass of the gate it belongs to. -/
def disarm (ctl : RunControl) : RunControl :=
  { ctl with permit := .unarmed }

end RunControl

end Bsrs.Engine
