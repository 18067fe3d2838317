import Bsrs.Engine.Control
import Bsrs.Library.Run

namespace Bsrs.Suspender

open Bsrs.Engine (RunControl Suspension)

/-- `SignalSuspender`, while its producers hold the source; the delay is in milliseconds. -/
structure SignalSuspender (α : Type) where
  bad : α → Bool
  resumeDelay : Option Nat
  autoResume : Bool
  suspension : Suspension

/-- `SignalSuspender::new`. -/
def SignalSuspender.new (bad : α → Bool) (justification : String) : SignalSuspender α where
  bad
  resumeDelay := none
  autoResume := true
  suspension := { justification, prePlan := false, postPlan := false }

def SignalSuspender.withResumeDelay (suspender : SignalSuspender α) (delay : Nat) :
    SignalSuspender α :=
  { suspender with resumeDelay := some delay }

def suspendBoolHigh (name : String) : SignalSuspender Bool :=
  .new id s!"{name}: signal high"

def suspendBoolLow (name : String) : SignalSuspender Bool :=
  .new (fun value => !value) s!"{name}: signal low"

inductive ThresholdDirection where
  | badIfBelow
  | badIfAbove
  deriving Repr, DecidableEq

def suspendThreshold [LT α] [DecidableLT α] [ToString α] (name : String) (threshold : α) :
    ThresholdDirection → SignalSuspender α
  | .badIfBelow => .new (fun value => decide (value < threshold)) s!"{name}: signal < {threshold}"
  | .badIfAbove => .new (fun value => decide (threshold < value)) s!"{name}: signal > {threshold}"

def suspendOutsideBand [LE α] [DecidableLE α] [ToString α] (name : String) (bottom top : α) :
    SignalSuspender α :=
  .new (fun value => decide (value ≤ bottom) || decide (top ≤ value))
    s!"{name}: outside ({bottom}, {top})"

/-- `SuspendWhenChanged` without `allow_resume`: it never lifts on its own. -/
def suspendWhenChanged [DecidableEq α] (name : String) (expected : α) : SignalSuspender α :=
  { SignalSuspender.new (fun value => decide (value ≠ expected))
      s!"{name}: value changed (manual resume required)" with autoResume := false }

/-- `SuspendWhenChanged::allow_resume`. -/
def SignalSuspender.allowResume (suspender : SignalSuspender α) (name : String) :
    SignalSuspender α :=
  { suspender with
    autoResume := true
    suspension := { suspender.suspension with
      justification := s!"{name}: value changed from expected" } }

/-! ## The futures -/

/-- The future `watch` returns: pending for ever, at its queue, or asleep for the resume delay. -/
inductive Clear (α : Type) where
  | never
  | reading (queue : List α)
  | asleep (queue : List α)
  deriving Repr, DecidableEq

/-- What a poll of such a future comes to. -/
inductive Poll (α : Type) where
  | pending (clear : Clear α)
  | resolved
  deriving Repr, DecidableEq

/-- `listen`: a queue that starts with the latest value. -/
def listen (latest : Option α) : List α :=
  latest.toList

def SignalSuspender.watch (suspender : SignalSuspender α) (latest : Option α) : Clear α :=
  if suspender.autoResume then .reading (listen latest) else .never

/-- `tripped`, at the latest value. -/
def SignalSuspender.tripped (suspender : SignalSuspender α) (latest : Option α) :
    Option (Clear α) :=
  if latest.any suspender.bad then some (suspender.watch latest) else none

/-- `await_good_stable` is handed a value: BAD keeps it reading, GOOD resolves it or puts it to
sleep. -/
def SignalSuspender.judge (suspender : SignalSuspender α) (value : α) (rest : List α) : Poll α :=
  if suspender.bad value then .pending (.reading rest)
  else if suspender.resumeDelay.isSome then .pending (.asleep rest)
  else .resolved

/-- The next thing a pending `watch` notices: a value in its queue, or the end of its sleep. -/
inductive Notice where
  | value
  | elapsed
  deriving Repr, DecidableEq

/-- A sleep may end at any moment after it began, also with values waiting in the queue. -/
def SignalSuspender.poll (suspender : SignalSuspender α) : Clear α → Notice → Option (Poll α)
  | .reading (value :: rest), .value | .asleep (value :: rest), .value =>
      some (suspender.judge value rest)
  | .asleep _, .elapsed => some .resolved
  | _, _ => none

def Clear.post (value : α) : Clear α → Clear α
  | .never => .never
  | .reading queue => .reading (queue ++ [value])
  | .asleep queue => .asleep (queue ++ [value])

/-! ## The tasks -/

/-- Where the watcher task of `register_suspender` stands in its loop. -/
inductive Watcher (α : Type) where
  | arming
  | tripping (queue : List α)
  | tripped
  | clearing
  | requesting (clear : Clear α)
  | rearming
  | watching (own : Clear α)
  deriving Repr, DecidableEq

/-- Where `run_async` stands; `gated` waits for the future the plan-start gate collected. -/
inductive Phase (α : Type) where
  | idle
  | claimed
  | fresh
  | gated (clear : Clear α)
  | running
  deriving Repr, DecidableEq

/-- A suspension requested and not yet released: its run generation, and its future. -/
structure Hold (α : Type) where
  gen : Nat
  clear : Clear α
  deriving Repr, DecidableEq

/-- The source, the engine and the watcher of one installed suspender. `asked` counts its requests
and `hasTripped` tells whether its trip ever resolved. -/
structure State (α : Type) where
  latest : Option α
  ctl : RunControl
  phase : Phase α
  watcher : Watcher α
  suspensions : List (Hold α)
  asked : Nat
  hasTripped : Bool
  deriving Repr, DecidableEq

/-- A suspender just installed, on an idle engine or during a run. -/
def State.installed (latest : Option α) (ctl : RunControl) : State α where
  latest
  ctl
  phase := if ctl.isRunning then .running else .idle
  watcher := .arming
  suspensions := []
  asked := 0
  hasTripped := false

def Watcher.post (value : α) : Watcher α → Watcher α
  | .tripping queue => .tripping (queue ++ [value])
  | .requesting clear => .requesting (clear.post value)
  | .watching own => .watching (own.post value)
  | other => other

def Phase.post (value : α) : Phase α → Phase α
  | .gated clear => .gated (clear.post value)
  | other => other

/-- `Fanout::post`: every live listener, and the latest value. -/
def State.post (state : State α) (value : α) : State α :=
  { state with
    latest := some value
    phase := state.phase.post value
    watcher := state.watcher.post value
    suspensions := state.suspensions.map fun hold => { hold with clear := hold.clear.post value } }

/-- The statements of the watcher's loop. -/
inductive Turn where
  | arm
  | trip
  | look
  | clear
  | request
  | rearm
  | watch (notice : Notice)
  deriving Repr, DecidableEq

/-- The statements of `run_async` a suspender can tell apart. -/
inductive Stage where
  | claim
  | reset
  | gate
  | wait (notice : Notice)
  | finish
  deriving Repr, DecidableEq

inductive Label (α : Type) where
  | post (value : α)
  | watcher (turn : Turn)
  | run (stage : Stage)
  | hold (index : Nat) (notice : Notice)
  deriving Repr, DecidableEq

/-! ## Steps -/

/-- A statement of the watcher's loop:
`loop { trip().await; if is_running { request_suspend(watch(), …) }; watch().await }`. -/
def watcherStep (suspender : SignalSuspender α) (state : State α) (turn : Turn) :
    Option (State α) :=
  match state.watcher, turn with
  | .arming, .arm => some { state with watcher := .tripping (listen state.latest) }
  | .tripping (value :: rest), .trip =>
      if suspender.bad value then some { state with watcher := .tripped, hasTripped := true }
      else some { state with watcher := .tripping rest }
  | .tripped, .look =>
      some { state with watcher := if state.ctl.isRunning then .clearing else .rearming }
  | .clearing, .clear => some { state with watcher := .requesting (suspender.watch state.latest) }
  | .requesting clear, .request =>
      some { state with
        ctl := state.ctl.requestSuspend suspender.suspension
        suspensions := state.suspensions ++ [{ gen := state.ctl.runGen, clear }]
        asked := state.asked + 1
        watcher := .rearming }
  | .rearming, .rearm => some { state with watcher := .watching (suspender.watch state.latest) }
  | .watching own, .watch notice =>
      (suspender.poll own notice).map fun poll =>
        match poll with
        | .pending own => { state with watcher := .watching own }
        | .resolved => { state with watcher := .arming }
  | _, _ => none

/-- A statement of `run_async`: the claim, the reset, the plan-start gate, the end. -/
def runStep (suspender : SignalSuspender α) (state : State α) (stage : Stage) :
    Option (State α) :=
  match state.phase, stage with
  | .idle, .claim =>
      if state.ctl.isRunning then none
      else some { state with ctl := { state.ctl with isRunning := true }, phase := .claimed }
  | .claimed, .reset => some { state with ctl := state.ctl.resetForRun, phase := .fresh }
  | .fresh, .gate =>
      match suspender.tripped state.latest with
      | none => some { state with phase := .running }
      | some clear => some { state with phase := .gated clear }
  | .gated clear, .wait notice =>
      (suspender.poll clear notice).map fun poll =>
        match poll with
        | .pending clear => { state with phase := .gated clear }
        | .resolved => { state with phase := .running }
  | .running, .finish =>
      some { state with ctl := { state.ctl with isRunning := false }, phase := .idle }
  | _, _ => none

/-- The task of one suspension polls its future, and releases the hold once it resolves. -/
def holdStep (suspender : SignalSuspender α) (state : State α) (index : Nat) (notice : Notice) :
    Option (State α) :=
  state.suspensions[index]?.bind fun hold =>
    (suspender.poll hold.clear notice).map fun poll =>
      match poll with
      | .pending clear =>
          { state with suspensions := state.suspensions.set index { hold with clear } }
      | .resolved =>
          { state with
            ctl := state.ctl.release hold.gen
            suspensions := state.suspensions.eraseIdx index }

def step (suspender : SignalSuspender α) (state : State α) : Label α → Option (State α)
  | .post value => some (state.post value)
  | .watcher turn => watcherStep suspender state turn
  | .run stage => runStep suspender state stage
  | .hold index notice => holdStep suspender state index notice

end Bsrs.Suspender
