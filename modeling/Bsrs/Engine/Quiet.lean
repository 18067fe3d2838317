import Bsrs.Library.Journal
import Bsrs.Engine.HandlerEffect

namespace Bsrs.Engine

open Bsrs.Library (Grows)
open Bsrs.EventModel
open Bsrs.Core
open Relation (ReflTransGen)

/-- The part of the engine the run loop itself steers by. -/
structure Core where
  ctl : RunControl
  deferredPause : Bool
  isAborting : Bool
  isHalting : Bool
  isStopping : Bool
  interruptSeq : Nat
  interruptReason : String
  contingencyStack : List SinkId
  msgCache : List Msg
  replayQueue : List Msg
  rewindable : Bool
  sinks : List (Option Thrown)

def RunEngine.core (engine : RunEngine) : Core where
  ctl := engine.ctl
  deferredPause := engine.deferredPause
  isAborting := engine.isAborting
  isHalting := engine.isHalting
  isStopping := engine.isStopping
  interruptSeq := engine.interruptSeq
  interruptReason := engine.interruptReason
  contingencyStack := engine.state.contingencyStack
  msgCache := engine.state.msgCache
  replayQueue := engine.state.replayQueue
  rewindable := engine.state.rewindable
  sinks := engine.sinks

/-- Entries about devices, groups, runs and documents. -/
def Entry.isRoutine : Entry → Bool
  | .awaited _ _ | .called _ | .reported _ _ | .flown _ _ | .collecting _ _ | .opened _ _
  | .closed _ _ | .counted _ _ _ | .emitted _ _ _ _ | .broadcast _ | .drained _ _ _
  | .published _ => true
  | _ => false

theorem Entry.isRoutine_of_isTrace {entry : Entry} (quiet : entry.isTrace = true) :
    entry.isRoutine = true := by
  cases entry <;> simp_all [Entry.isTrace, Entry.isRoutine]

/-- A step that leaves the core alone and reports routine entries only. -/
structure Quiet (before after : RunEngine) : Prop where
  core : after.core = before.core
  log : Grows Entry.isRoutine before.log after.log

theorem Quiet.of_same {before after : RunEngine} (core : after.core = before.core)
    (log : after.log = before.log) : Quiet before after :=
  ⟨core, by rw [log]; exact .refl before.log⟩

theorem Quiet.record (engine : RunEngine) {entry : Entry} (routine : entry.isRoutine = true) :
    Quiet engine (engine.record entry) :=
  ⟨rfl, .cons routine engine.log⟩

theorem Quiet.trans {first second third : RunEngine} (head : Quiet first second)
    (tail : Quiet second third) : Quiet first third :=
  ⟨tail.core.trans head.core, head.log.trans tail.log⟩

/-- Composing and sending an Event steers nothing. -/
theorem feed_quiet (engine : RunEngine) (key : RunKey) (stream : String) (source : Source)
    (data timestamps : Bsrs.Library.Table String Value) :
    Quiet engine (engine.feed key stream source data timestamps) := by
  unfold RunEngine.feed
  split
  · exact .of_same rfl rfl
  · split
    · exact .of_same rfl rfl
    · exact ⟨rfl, .cons rfl engine.log⟩

theorem pump_quiet (engine : RunEngine) (update : Update) : Quiet engine (engine.pump update) := by
  unfold RunEngine.pump
  split
  · exact feed_quiet _ _ _ _ _ _
  · exact .of_same rfl rfl

theorem countWith_quiet (engine : RunEngine) (key : RunKey) (stream : Option String)
    (update : RunBundler → RunBundler) : Quiet engine (engine.countWith key stream update) := by
  unfold RunEngine.countWith
  split
  · exact ⟨rfl, .cons rfl engine.log⟩
  · exact .of_same rfl rfl

/-- What handling a message can do to the core: nothing, or one of the listed transitions. -/
inductive CoreStep (msg : Msg) : RunEngine → RunEngine → Prop
  | quiet {before after} (same : Quiet before after) : CoreStep msg before after
  | restart (engine : RunEngine) (on) (restarts : Restarts msg engine.state.rewindable on) :
      CoreStep msg engine (engine.setRewindable on).resetCheckpointState
  | clear (engine : RunEngine) (clears : msg = .clearCheckpoint) :
      CoreStep msg engine engine.clearCheckpoint
  | due (engine : RunEngine) (checkpoint : msg = .checkpoint) :
      CoreStep msg engine { engine with deferredPause := false }.pauseNow
  | request (engine : RunEngine) (request) (requests : Requests msg request) :
      CoreStep msg engine (engine.receive request)
  | push (engine : RunEngine) (sink) (pushes : msg = .pushContingency sink) :
      CoreStep msg engine ((engine.setSink sink none).withState fun state =>
        { state with contingencyStack := sink :: state.contingencyStack })
  | pop (engine : RunEngine) (pops : msg = .popContingency) :
      CoreStep msg engine (engine.withState fun state =>
        { state with contingencyStack := state.contingencyStack.tail })

theorem coreStep_of_effect {scope : Scope} {before after : RunEngine}
    (effect : Effect scope msg before after) :
    CoreStep msg before after := by
  cases effect with
  | pump update => exact .quiet (pump_quiet before update)
  | interrupt content key own describes => exact .quiet (feed_quiet before _ _ _ _ _)
  | tick => exact .quiet (.of_same rfl rfl)
  | mint count => exact .quiet (.of_same rfl rfl)
  | result lastMsgResult => exact .quiet (.of_same rfl rfl)
  | persist md scanId => exact .quiet (.of_same rfl rfl)
  | trace entry leaves =>
      exact .quiet (.record before (Entry.isRoutine_of_isTrace (Entry.isTrace_of_leaves leaves)))
  | sentOut key stream event own sends describes => exact .quiet (.record before rfl)
  | registries => exact .quiet (.of_same rfl rfl)
  | slot key update own changes => exact .quiet (.of_same rfl rfl)
  | count key stream update own uses => exact .quiet (countWith_quiet before key stream update)
  | quiesce => exact .quiet (.of_same rfl rfl)
  | opened key bundler own opens fresh => exact .quiet ⟨rfl, .cons rfl before.log⟩
  | closed key bundler uid status reason stop own closes found stopped =>
      exact .quiet ⟨rfl, .cons rfl before.log⟩
  | lost key own closes => exact .quiet (.of_same rfl rfl)
  | restart on restarts => exact .restart before on restarts
  | clear clears => exact .clear before clears
  | due checkpoint => exact .due before checkpoint
  | request request requests => exact .request before request requests
  | push sink pushes => exact .push before sink pushes
  | pop pops => exact .pop before pops

/-- The same for a property that moves with `Quiet` steps only, for messages of no region, no
request and no contingency. -/
theorem quiet_of_effects {scope : Scope} {msg : Msg} {before after : RunEngine} (effects : Effects scope msg before after)
    (plain : ∀ engine next, CoreStep msg engine next → Quiet engine next) : Quiet before after := by
  induction effects with
  | refl => exact .of_same rfl rfl
  | tail _ effect ih => exact ih.trans (plain _ _ (coreStep_of_effect effect))

end Bsrs.Engine
