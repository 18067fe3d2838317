import Bsrs.Engine.State

namespace Bsrs.Engine

open Bsrs.Library (Table Action)
open Bsrs.Library.Action
open Bsrs.EventModel
open Bsrs.Core

/-- One update reaching a pump. -/
structure Update where
  run : RunKey
  task : MonitorTask
  value : Value
  timestamp : Value
  deriving Repr, DecidableEq

/-- How a parked await ends: its future resolves, its timeout runs out, or the cancelled token
unparks it. `unparked` counts only while the token is cancelled. -/
inductive Parked where
  | resolved
  | statusFailed (error : StatusError)
  | failed (error : BsrsError)
  | elapsed
  | unparked
  deriving Repr, DecidableEq

/-- What the devices, hooks and other tasks do during one step of the run loop. An answer may
depend on the await it is given at. -/
structure Env where
  pumped : Nat → List Update
  read : Nat → Obj → Except BsrsError (Table String ReadingValue)
  describe : Nat → Obj → Except BsrsError (Table String DataKey)
  readConfiguration : Nat → Obj → Except BsrsError Configuration
  describeCollect : Nat → Obj → Except BsrsError (Table String (Table String DataKey))
  collectAssetDocs : Nat → Obj → Uid → Except BsrsError (List Document)
  collectStreamDocs : Nat → Obj → Uid → Except BsrsError (List Document)
  collect : Nat → Obj →
    Except BsrsError (List (String × Table String Value × Table String Value))
  locate : Nat → Obj → Except BsrsError (Value × Value)
  subscribe : Nat → Obj → Except BsrsError String
  acknowledge : Nat → Call → Except BsrsError Unit
  parked : Nat → Parked
  input : Nat → Option (String → Except BsrsError String)
  command : Nat → String → Option (Value → Except BsrsError Unit)
  scanIdSource : Option (Table String Value → Except BsrsError Nat)
  mdValidator : Option (Table String Value → Except BsrsError Unit)
  mdNormalizer : Option (Table String Value → Except BsrsError (Table String Value))
  subscriptionId : Nat → SubscriptionId
  monitorStreamName : Nat → String
  /-- The next item of the suspender plan being driven, if it has one. -/
  injectedItem : Option PlanItem
  /-- What the plan itself learns from outside before its next item. -/
  planInput : Value

/-- Devices that answer at once and have nothing to tell; a parked await lasts. -/
def Env.calm : Env where
  pumped _ := []
  read _ _ := .ok ∅
  describe _ _ := .ok ∅
  readConfiguration _ _ := .ok .empty
  describeCollect _ _ := .ok ∅
  collectAssetDocs _ _ _ := .ok []
  collectStreamDocs _ _ _ := .ok []
  collect _ _ := .ok []
  locate _ _ := .ok ("", "")
  subscribe _ _ := .ok ""
  acknowledge _ _ := .ok ()
  parked _ := .unparked
  input _ := none
  command _ _ := none
  scanIdSource := none
  mdValidator := none
  mdNormalizer := none
  subscriptionId _ := 0
  monitorStreamName tick := s!"monitor-{tick}"
  injectedItem := none
  planInput := ""

namespace RunEngine

/-- Compose an Event on `stream` of the open run `key`, the way of the pumps and of the interruption
records. Nothing happens while the stream is not declared. -/
def feed (engine : RunEngine) (key : RunKey) (stream : String) (source : Source)
    (data timestamps : Table String Value) : RunEngine :=
  match engine.state.bundler key with
  | none => engine
  | some bundler =>
      match (bundler.bundle.event engine.nextUid stream data timestamps).1 with
      | none => engine
      | some event =>
          ({ engine with nextUid := engine.nextUid + 1 }.withBundler key fun bundler =>
            { bundler with
              bundle := (bundler.bundle.event engine.nextUid stream data timestamps).2 }).record
            (.emitted key stream source event)

/-- A pump of the open run `key`. -/
def hasPump (engine : RunEngine) (key : RunKey) (task : MonitorTask) : Bool :=
  (engine.state.run key).any fun slot => task ∈ slot.pumps

theorem hasPump_iff (engine : RunEngine) {key : RunKey} {task : MonitorTask} :
    engine.hasPump key task = true ↔ ∃ slot ∈ engine.state.run key, task ∈ slot.pumps := by
  rw [hasPump, Option.any_eq_true]
  simp

/-- A monitor pump composes the Event of a reading it has taken. When the sinks see it is up to
the pump. -/
def pump (engine : RunEngine) (update : Update) : RunEngine :=
  if engine.hasPump update.run update.task then
    engine.feed update.run update.task.stream .pump
      (AList.singleton update.task.key update.value)
      (AList.singleton update.task.key update.timestamp)
  else
    engine

/-- One interruption record on the run `key`. -/
def interrupt (engine : RunEngine) (content : String) (key : RunKey) : RunEngine :=
  engine.feed key "interruptions" .interruption (AList.singleton "interruption" content)
    (AList.singleton "interruption" "now")

end RunEngine

/-- An await: the pumps may run, and the environment's next answer has this number. -/
def await (env : Env) : EngineAction Nat :=
  advance fun engine =>
    (engine.ticks,
      (env.pumped engine.ticks).foldl RunEngine.pump { engine with ticks := engine.ticks + 1 })

def mint : EngineAction Uid :=
  advance fun engine => (engine.nextUid, { engine with nextUid := engine.nextUid + 1 })

def reject (error : PlanError) : EngineAction α :=
  fail (.plan error)

def record (entry : Entry) : EngineAction Unit :=
  modify fun engine => engine.record entry

def setMsgResult (result : MsgResult) : EngineAction Unit :=
  modify fun engine => { engine with lastMsgResult := result }

/-- `take_msg_result`. -/
def takeMsgResult : EngineAction MsgResult :=
  advance fun engine => (engine.lastMsgResult, { engine with lastMsgResult := .none })

/-- A device call that completes before it returns. -/
def call (env : Env) (request : Call) : EngineAction Unit := do
  let tick ← await env
  record (.called request)
  lift (env.acknowledge tick request)

/-- A device call that returns a `Status`. -/
def issue (env : Env) (request : Call) : EngineAction Status := do
  let _ ← await env
  record (.called request)
  mint

/-- `broadcast`; a failing sink is logged there and fails nothing. -/
def broadcast (env : Env) (doc : Document) : EngineAction Unit := do
  record (.broadcast doc)
  let _ ← await env

/-- `broadcast` of a document the plan supplied. -/
def publish (env : Env) (doc : Document) : EngineAction Unit := do
  record (.published doc)
  let _ ← await env

/-- `broadcast` of an asset document a device supplied. -/
def deliver (env : Env) (key : RunKey) (stream : String) (doc : Document) : EngineAction Unit := do
  record (.drained key stream doc)
  let _ ← await env

/-- `broadcast` of an Event the engine composed on `stream`. -/
def emit (env : Env) (key : RunKey) (stream : String) (source : Source) (event : Event) :
    EngineAction Unit := do
  record (.emitted key stream source event)
  let _ ← await env

/-- The outcome of a parked await, the token's cancellation taken into account. -/
def park (env : Env) : EngineAction Parked := do
  let tick ← await env
  let cancelled ← ask fun engine => engine.ctl.cancelled
  pure (if env.parked tick = .unparked ∧ cancelled = false then .resolved else env.parked tick)

/-- What a status that failed makes of the handler that awaited it. -/
def statusFailure : StatusError → BsrsError
  | .cancelled => .cancelled
  | .timeout => .status .timeout
  | .failed reason => .backend reason

end Bsrs.Engine
