import Bsrs.Library.Action
import Bsrs.Engine.Bundler
import Bsrs.Engine.Control

namespace Bsrs.Engine

open Bsrs.Library (Table Action)
open Bsrs.EventModel
open Bsrs.Core

/-- A live monitor pump: the stream it feeds and the data key its subscription carries. -/
structure MonitorTask where
  stream : String
  key : String
  deriving Repr, DecidableEq

/-- The record of an active monitor, which outlives the pump. -/
structure MonitorSpec where
  obj : Obj
  stream : String
  deriving Repr, DecidableEq

/-- `RunSlot`: all state owned by one open run. `retired` are pumps that were aborted, each of which
goes on until it comes to an await that has to wait. -/
structure RunSlot where
  bundler : RunBundler
  bundleAssetObjs : List Obj
  monitorTasks : Table String MonitorTask
  retired : List MonitorTask
  monitored : Table String MonitorSpec
  uncollected : Table String Obj
  deriving DecidableEq

def RunSlot.new (bundler : RunBundler) : RunSlot where
  bundler
  bundleAssetObjs := []
  monitorTasks := ∅
  retired := []
  monitored := ∅
  uncollected := ∅

namespace RunSlot

/-- The pumps that may compose an Event of the run. -/
def pumps (slot : RunSlot) : List MonitorTask :=
  slot.monitorTasks.values ++ slot.retired

/-- Dropping the tasks aborts their pumps. -/
def clearTasks (slot : RunSlot) : RunSlot :=
  { slot with monitorTasks := ∅, retired := slot.pumps }

/-- A task under the name of an earlier one drops that one. -/
def insertTask (slot : RunSlot) (object : String) (task : MonitorTask) : RunSlot :=
  { slot with
    monitorTasks := slot.monitorTasks.insert object task
    retired := (slot.monitorTasks.lookup object).toList ++ slot.retired }

/-- A task whose pump has ended. -/
def eraseTask (slot : RunSlot) (object : String) : RunSlot :=
  { slot with monitorTasks := slot.monitorTasks.erase object }

variable {slot : RunSlot} {object : String} {task : MonitorTask}

theorem mem_pumps : task ∈ slot.pumps ↔
    (∃ object, slot.monitorTasks.lookup object = some task) ∨ task ∈ slot.retired := by
  rw [pumps, List.mem_append, Table.mem_values]

theorem mem_pumps_insertTask {other : MonitorTask}
    (running : other ∈ (slot.insertTask object task).pumps) : other = task ∨ other ∈ slot.pumps := by
  rw [mem_pumps] at running ⊢
  simp only [insertTask, List.mem_append, Option.mem_toList] at running
  rcases running with ⟨name, found⟩ | replaced | retired
  · by_cases same : name = object
    · rw [same, AList.lookup_insert] at found
      exact .inl (Option.some.inj found).symm
    · rw [AList.lookup_insert_ne same] at found
      exact .inr (.inl ⟨name, found⟩)
  · exact .inr (.inl ⟨object, replaced⟩)
  · exact .inr (.inr retired)

theorem mem_pumps_eraseTask (running : task ∈ (slot.eraseTask object).pumps) :
    task ∈ slot.pumps := by
  rw [mem_pumps] at running ⊢
  refine running.imp_left fun ⟨name, found⟩ => ⟨name, ?_⟩
  by_cases same : name = object
  · rw [same, eraseTask, AList.lookup_erase] at found
    cases found
  · rwa [eraseTask, AList.lookup_erase_ne same] at found

end RunSlot

/-- A `Status`, by the number of its issue. -/
abbrev Status := Nat

/-- `EngineState`; the contingency stack is kept innermost first. -/
structure EngineState where
  runs : Table RunKey RunSlot
  groups : Table GroupId (List Status)
  staged : List Obj
  movableObjsTouched : Table String Obj
  flyableObjsTouched : Table String Obj
  pausables : Table String Obj
  tempSubscribers : List SubscriptionId
  contingencyStack : List SinkId
  msgCache : List Msg
  replayQueue : List Msg
  rewindable : Bool
  suspenders : Table Nat String
  deriving DecidableEq

namespace EngineState

def new : EngineState where
  runs := ∅
  groups := ∅
  staged := []
  movableObjsTouched := ∅
  flyableObjsTouched := ∅
  pausables := ∅
  tempSubscribers := []
  contingencyStack := []
  msgCache := []
  replayQueue := []
  rewindable := false
  suspenders := ∅

def run (state : EngineState) (key : RunKey) : Option RunSlot :=
  state.runs.lookup key

def bundler (state : EngineState) (key : RunKey) : Option RunBundler :=
  (state.run key).map RunSlot.bundler

def runOpen (state : EngineState) (key : RunKey) : Bool :=
  (state.run key).isSome

def anyRunOpen (state : EngineState) : Bool :=
  !state.runs.entries.isEmpty

def anyBundling (state : EngineState) : Bool :=
  state.runs.values.any fun slot => slot.bundler.isBundling

end EngineState

/-- A request made from outside the run loop. -/
inductive Request where
  | pause
  | deferPause
  | resume
  | suspend (suspension : Suspension)
  | release (gen : Nat)
  | stop
  | abort (reason : String)
  | halt (reason : String)
  | recordInterruptions (on : Bool)
  deriving Repr, DecidableEq

/-- A call on a device that changes it. -/
inductive Call where
  | set (obj : Obj) (value : Value)
  | trigger (obj : Obj)
  | stage (obj : Obj)
  | unstage (obj : Obj)
  | stop (obj : Obj) (success : Bool)
  | kickoff (obj : Obj)
  | complete (obj : Obj)
  | configure (obj : Obj) (args : Value)
  | prepare (obj : Obj) (value : Value)
  | stopOnPause (obj : Obj)
  | pause (obj : Obj)
  | resume (obj : Obj)
  deriving Repr, DecidableEq

/-- What a plan tells of itself between two items: a wrapper with `auto_raise = false` has taken what was
thrown into its region, and will not raise it again. -/
inductive Note where
  | swallowed (sink : SinkId)
  deriving Repr, DecidableEq

/-- Which path of the engine composed an Event. -/
inductive Source where
  | bundle
  | pump
  | interruption
  deriving Repr, DecidableEq

/-- One observation of a `run_async` call. `restarted` marks a restart of the rewindable region, with
the flag it sets and whether a bundle is open then; `counted` marks a message of the plan using a
stream's counter, with the sequence numbers it hands out, `published` a document the plan supplied,
`drained` one a device supplied, `emitted` an Event the engine composed: it goes out then, but for a
pump's, which goes out when the pump gets to it. `flown` and `collecting` tell when a flyer is to be collected and
when it is passed to `collect_object`, `reported` what a device said of its configuration. -/
inductive Entry where
  | asked (request : Request)
  | pulled (item : PlanItem)
  | ended
  | replayed (msg : Msg)
  | handled (msg : Msg) (failure : Option BsrsError)
  | injected (msg : Msg) (failure : Option BsrsError)
  | cut (msg : Msg)
  | restarted (rewindable bundling : Bool)
  | resumed (replay : List Msg)
  | wentOn
  | thrown (sink : SinkId) (value : Thrown)
  | escaped (value : Thrown)
  | awaited (group : GroupId) (members : List Status)
  | called (call : Call)
  | reported (obj : Obj) (configuration : Configuration)
  | flown (key : RunKey) (obj : Obj)
  | collecting (key : RunKey) (obj : Obj)
  | opened (key : RunKey) (start : Uid)
  | closed (key : RunKey) (stop : RunStop)
  | counted (key : RunKey) (stream : String) (numbers : StreamRange)
  | emitted (key : RunKey) (stream : String) (source : Source) (event : Event)
  | broadcast (doc : Document)
  | drained (key : RunKey) (stream : String) (doc : Document)
  | published (doc : Document)
  | noted (note : Note)
  deriving DecidableEq

/-- `RunEngine`, with the observations of the current call in `log`, newest first. The hooks,
sinks and subscribers are not in it: they only observe. -/
structure RunEngine where
  ctl : RunControl
  deferredPause : Bool
  isAborting : Bool
  isHalting : Bool
  isStopping : Bool
  interruptSeq : Nat
  interruptReason : String
  state : EngineState
  md : Table String Value
  scanId : Nat
  perCallMd : Table String Value
  stagedTempSubs : List SubscriptionId
  lastMsgResult : MsgResult
  recordInterruptions : Bool
  /-- The values in the contingency sinks of the current plan. -/
  sinks : List (Option Thrown)
  /-- The supply of uids and status numbers. -/
  nextUid : Uid
  /-- The number of awaits so far, by which the environment's answers are told apart. -/
  ticks : Nat
  log : List Entry
  deriving DecidableEq

namespace RunEngine

def new : RunEngine where
  ctl := .new
  deferredPause := false
  isAborting := false
  isHalting := false
  isStopping := false
  interruptSeq := 0
  interruptReason := ""
  state := .new
  md := ∅
  scanId := 0
  perCallMd := ∅
  stagedTempSubs := []
  lastMsgResult := .none
  recordInterruptions := false
  sinks := []
  nextUid := 0
  ticks := 0
  log := []

def record (engine : RunEngine) (entry : Entry) : RunEngine :=
  { engine with log := entry :: engine.log }

def withState (engine : RunEngine) (update : EngineState → EngineState) : RunEngine :=
  { engine with state := update engine.state }

/-- Update the slot of an open run. -/
def withSlot (engine : RunEngine) (key : RunKey) (update : RunSlot → RunSlot) : RunEngine :=
  engine.withState fun state => { state with runs := state.runs.modify key update }

/-- Update the bundler of an open run. -/
def withBundler (engine : RunEngine) (key : RunKey) (update : RunBundler → RunBundler) :
    RunEngine :=
  engine.withSlot key fun slot => { slot with bundler := update slot.bundler }

/-- Update the bundler of an open run in a way that uses the counter of `stream`, if any. -/
def countWith (engine : RunEngine) (key : RunKey) (stream : Option String)
    (update : RunBundler → RunBundler) : RunEngine :=
  match engine.state.bundler key, stream with
  | some bundler, some name => (engine.withBundler key update).record (.counted key name
      ⟨bundler.bundle.seqNum name + 1, (update bundler).bundle.seqNum name + 1⟩)
  | _, _ => engine.withBundler key update

/-- `reset_checkpoint_state`: the rewindable region restarts here. -/
def resetCheckpointState (engine : RunEngine) : RunEngine :=
  (engine.withState fun state =>
    { state with
      msgCache := []
      runs := state.runs.mapValues fun _ slot =>
        { slot with bundler := slot.bundler.resetCheckpointState } }).record
    (.restarted engine.state.rewindable engine.state.anyBundling)

/-- The state half of `ClearCheckpoint`: the region ends and the rewind target goes with it. -/
def clearCheckpoint (engine : RunEngine) : RunEngine :=
  (engine.withState fun state =>
    { state with
      rewindable := false
      msgCache := []
      runs := state.runs.mapValues fun _ slot =>
        { slot with bundler := slot.bundler.clearCheckpoint } }).record
    (.restarted false engine.state.anyBundling)

def setRewindable (engine : RunEngine) (on : Bool) : RunEngine :=
  engine.withState fun state => { state with rewindable := on }

/-! ## Requests from outside the run loop -/

/-- `RunControl::pause`, as the engine's own `pause(false)` and a due deferred pause call it. -/
def pauseNow (engine : RunEngine) : RunEngine :=
  { engine with ctl := engine.ctl.pause }.record (.asked .pause)

def pause (engine : RunEngine) (defer : Bool) : RunEngine :=
  if defer then { engine with deferredPause := true }.record (.asked .deferPause)
  else engine.pauseNow

def resume (engine : RunEngine) : RunEngine :=
  { engine with ctl := engine.ctl.resume }.record (.asked .resume)

def requestSuspend (engine : RunEngine) (suspension : Suspension) : RunEngine :=
  { engine with ctl := engine.ctl.requestSuspend suspension }.record (.asked (.suspend suspension))

def release (engine : RunEngine) (gen : Nat) : RunEngine :=
  { engine with ctl := engine.ctl.release gen }.record (.asked (.release gen))

/-- `request_interrupt`: counted with the token cancelled, and the pause lifted. -/
def requestInterrupt (engine : RunEngine) : RunEngine :=
  { engine with
    interruptSeq := engine.interruptSeq + 1
    ctl := { engine.ctl with cancelled := true }.wake }

def abort (engine : RunEngine) (reason : String) : RunEngine :=
  { engine with
    interruptReason := reason
    isAborting := true
    isStopping := false }.requestInterrupt.record (.asked (.abort reason))

def halt (engine : RunEngine) (reason : String) : RunEngine :=
  { engine with
    interruptReason := reason
    isHalting := true
    isAborting := true }.requestInterrupt.record (.asked (.halt reason))

def stop (engine : RunEngine) : RunEngine :=
  { engine with
    isStopping := true
    isAborting := true }.requestInterrupt.record (.asked .stop)

def setRecordInterruptions (engine : RunEngine) (on : Bool) : RunEngine :=
  { engine with recordInterruptions := on }.record (.asked (.recordInterruptions on))

/-- One request, as the method it calls. -/
def receive (engine : RunEngine) : Request → RunEngine
  | .pause => engine.pause false
  | .deferPause => engine.pause true
  | .resume => engine.resume
  | .suspend suspension => engine.requestSuspend suspension
  | .release gen => engine.release gen
  | .stop => engine.stop
  | .abort reason => engine.abort reason
  | .halt reason => engine.halt reason
  | .recordInterruptions on => engine.setRecordInterruptions on

/-- `stop_reason`: an empty reason is none. -/
def stopReason (engine : RunEngine) : Option String :=
  if engine.interruptReason = "" then none else some engine.interruptReason

end RunEngine

/-- A computation of the engine. -/
abbrev EngineAction (α : Type) := Action RunEngine BsrsError α

end Bsrs.Engine
