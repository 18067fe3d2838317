import Bsrs.Library.Run
import Bsrs.Engine.Handle

namespace Bsrs.Engine

open Bsrs.Library (Table Action exec)
open Bsrs.Library.Action
open Bsrs.EventModel
open Bsrs.Core

/-! ## Plans -/

/-- What a plan does up to its next item: the item, if it has one, and what it left behind. -/
structure Yield (σ : Type) where
  item : Option PlanItem
  plan : σ
  sinks : List (Option Thrown)
  notes : List Note

/-- A plan as the run loop drives it. It shares the contingency sinks with the engine, and
`respond` is the answer a `Respond` item waits for, `none` when its sender is dropped. -/
structure PlanStream (σ : Type) where
  next : σ → List (Option Thrown) → Value → Yield σ
  respond : σ → Option MsgResult → σ

/-- `plan_items` of a finished list: the items and nothing in between. -/
def planItems : PlanStream (List PlanItem) where
  next
    | [], sinks, _ => ⟨none, [], sinks, []⟩
    | item :: rest, sinks, _ => ⟨some item, rest, sinks, []⟩
  respond plan _ := plan

/-! ## The pause gate's work -/

/-- `record_interruption`, on every open run that has the stream. -/
def recordInterruption (env : Env) (content : String) : EngineAction Unit := do
  if ← ask RunEngine.recordInterruptions then
    let keys ← ask fun engine =>
      (engine.state.runs.pairs.filter fun entry =>
        (entry.2.bundler.descriptorUid "interruptions").isSome).map Prod.fst
    each
      (fun key => do
        modify fun engine => engine.interrupt content key
        let _ ← await env)
      keys

/-- Call a device hook whose failure is only logged. -/
def notify (env : Env) (request : Call) : EngineAction Unit := do
  let _ ← attempt (call env request)

/-- `on_pause_enter`. -/
def onPauseEnter (env : Env) (interruption : String) : EngineAction Unit := do
  modify fun engine => engine.withState fun state =>
    { state with runs := state.runs.mapValues fun _ slot => slot.clearTasks }
  let movables ← ask fun engine => engine.state.movableObjsTouched.values
  each (fun obj => notify env (.stopOnPause obj)) movables
  let flyables ← ask fun engine => engine.state.flyableObjsTouched.values
  each (fun obj => notify env (.stopOnPause obj)) flyables
  let pausables ← ask fun engine => engine.state.pausables.values
  each (fun obj => notify env (.pause obj)) pausables
  recordInterruption env interruption

/-- The state half of `on_resume`: the cache becomes the replay, and a replay that has anything
to replay rolls every open run back first. -/
def RunEngine.armReplay (engine : RunEngine) : RunEngine :=
  (engine.withState fun state =>
    { state with
      msgCache := []
      replayQueue := state.replayQueue ++ state.msgCache
      runs :=
        if state.msgCache.isEmpty then state.runs
        else state.runs.mapValues fun _ slot =>
          { slot with bundler := slot.bundler.rewind, bundleAssetObjs := [] } }).record
    (.resumed engine.state.msgCache)

/-- `on_resume`. -/
def onResume (env : Env) : EngineAction Unit := do
  modify RunEngine.armReplay
  let pausables ← ask fun engine => engine.state.pausables.values
  each (fun obj => notify env (.resume obj)) pausables
  restoreMonitors env
  recordInterruption env "resume"

/-- `run_injected_plan`'s handling of one item: whether the plan goes on. Only a panic leaves it. -/
def handleInjected (env : Env) (item : PlanItem) : EngineAction Bool := do
  match ← attempt (handle env item.msg) with
  | .error .panicked => fail .panicked
  | .error error => do
      record (.injected item.msg (some error))
      pure false
  | .ok _ =>
      match item with
      | .bare msg => do
          record (.injected msg none)
          pure true
      | .respond msg => do
          record (.injected msg none)
          let _ ← takeMsgResult
          pure true

/-- One turn of `run_injected_plan`: whether there is another. A `Raise` ends it. -/
def injectedStep (env : Env) : EngineAction Bool := do
  if ← ask RunEngine.isAborting then
    pure false
  else
    match env.injectedItem with
    | none => pure false
    | some item => if item.msg.isRaise then pure false else handleInjected env item

/-! ## The run loop -/

/-- `RunResult`. -/
structure RunResult where
  runUids : List Uid
  exitStatus : String
  interrupted : Bool
  reason : String
  exception : Option BsrsError
  deriving Repr, DecidableEq

/-- Where the message in hand came from. -/
inductive Origin where
  | plan
  | respond
  | replay
  deriving Repr, DecidableEq

/-- Where the run loop stands: at the top of the loop, at the awaits of `pause_gate`, at
`pull_msg`, with a message in hand, or past the loop. -/
inductive Pc where
  | top
  | entering (suspension : Option Suspension)
  | prePlan (suspension : Option Suspension)
  | checking (suspension : Option Suspension)
  | parked (suspension : Option Suspension)
  | restoring
  | taking
  | resuming (suspension : Option Suspension)
  | postPlan
  | pull
  | handling (msg : Msg) (origin : Origin)
  | closing (status : String) (reason : Option String) (exception : Option BsrsError)
  | done (result : RunResult)
  | panicked
  deriving DecidableEq

/-- A `run_async` call in progress, with the locals of `run_loop`. -/
structure Config (σ : Type) where
  engine : RunEngine
  plan : σ
  pc : Pc
  thrownSeq : Nat
  pauseSeen : Nat
  runUids : List Uid

/-- An interrupt request the loop has not acted on. -/
inductive InterruptRequest where
  | halt
  | throw (kind : Interrupt)
  deriving Repr, DecidableEq

/-- What an outstanding interrupt request asks for. -/
def RunEngine.interruptRequest (engine : RunEngine) : InterruptRequest :=
  if engine.isHalting then .halt
  else if engine.isStopping then .throw .stop
  else .throw .abort

/-- `throw_into_plan`: hand the value to the innermost region; a replay in progress dies. -/
def RunEngine.throwIntoPlan (engine : RunEngine) (thrown : Thrown) : Option RunEngine :=
  match engine.state.contingencyStack with
  | [] => none
  | sink :: _ =>
      some (((engine.setSink sink (some thrown)).withState fun state =>
        { state with replayQueue := [] }).record (.thrown sink thrown))

namespace Config

variable {σ : Type}

def goTo (config : Config σ) (pc : Pc) : Config σ :=
  { config with pc }

def withEngine (config : Config σ) (engine : RunEngine) : Config σ :=
  { config with engine }

/-- Throw into the plan, or end the run the way the value that nothing catches ends it. -/
def throw (config : Config σ) (thrown : Thrown) : Config σ :=
  match config.engine.throwIntoPlan thrown with
  | some engine => (config.withEngine engine).goTo .top
  | none =>
      (config.withEngine (config.engine.record (.escaped thrown))).goTo <|
        match thrown with
        | .interrupt kind _ => .closing kind.exitStatus config.engine.stopReason none
        | .error error => .closing "fail" (some error.text) (some error)

/-- The interrupt requests so far are acted on, and the token they cancelled is renewed. -/
def renewed (config : Config σ) : Config σ :=
  { config with
    engine := { config.engine with ctl := { config.engine.ctl with cancelled := false } }
    thrownSeq := config.engine.interruptSeq }

/-- `take_interrupt`. -/
def takeInterrupt (config : Config σ) : Option InterruptRequest × Config σ :=
  if config.engine.interruptSeq = config.thrownSeq then (none, config)
  else (some config.engine.interruptRequest, config.renewed)

/-- Act on an interrupt that was taken, with `otherwise` when there was none. -/
def act (config : Config σ) (otherwise : Config σ → Config σ) : Config σ :=
  match config.takeInterrupt with
  | (none, config) => otherwise config
  | (some .halt, config) => config.goTo (.closing "halt" config.engine.stopReason none)
  | (some (.throw kind), config) => config.throw (.interrupt kind config.engine.stopReason)

/-- `take_interrupt` at the top of the loop; with none, the loop goes on to the next message. -/
def goOn (config : Config σ) : Config σ :=
  config.act fun config => (config.withEngine (config.engine.record .wentOn)).goTo .pull

/-- The loop's `ack_pause`. -/
def ackPause (config : Config σ) : Config σ :=
  let acknowledged := config.engine.ctl.ackPause config.pauseSeen
  { config with
    pauseSeen := acknowledged.1
    engine := { config.engine with ctl := acknowledged.2 } }

/-- A pass of the gate begins: the waiter is armed, the requests are acknowledged and the
suspension behind them is taken. -/
def enterGate (config : Config σ) : Config σ :=
  let armed := config.withEngine { config.engine with ctl := config.engine.ctl.arm }
  let acked := armed.ackPause
  let suspension := acked.engine.ctl.pendingSuspend
  (acked.withEngine
    { acked.engine with ctl := { acked.engine.ctl with pendingSuspend := none } }).goTo
    (.entering suspension)

/-- The wait is over: acknowledge what came meanwhile, and rewind unless an interrupt woke it. -/
def leaveGate (config : Config σ) (suspension : Option Suspension) : Config σ :=
  let acked := config.ackPause
  let acked := acked.withEngine { acked.engine with ctl := acked.engine.ctl.disarm }
  if acked.engine.interruptSeq ≠ acked.thrownSeq then acked.goTo .restoring
  else acked.goTo (.resuming suspension)

/-- `pull_msg`: the replay first, then the plan, remembering what a later rewind may replay. -/
def pullMsg (plans : PlanStream σ) (config : Config σ) (input : Value) : Config σ :=
  match config.engine.state.replayQueue with
  | msg :: rest =>
      (config.withEngine ((config.engine.withState fun state =>
        { state with replayQueue := rest }).record (.replayed msg))).goTo (.handling msg .replay)
  | [] =>
      let yielded := plans.next config.plan config.engine.sinks input
      let engine := yielded.notes.foldl (fun engine note => engine.record (.noted note))
        { config.engine with sinks := yielded.sinks }
      let config := { config with plan := yielded.plan }
      match yielded.item with
      | none =>
          (config.withEngine (engine.record .ended)).goTo <|
            if engine.state.anyRunOpen = false ∧ config.runUids = [] then .closing "no-run" none none
            else .closing "success" none none
      | some (.respond msg) =>
          (config.withEngine (engine.record (.pulled (.respond msg)))).goTo (.handling msg .respond)
      | some (.bare msg) =>
          (config.withEngine ((engine.withState fun state =>
            { state with
              msgCache := if state.rewindable ∧ msg.isCacheable then state.msgCache ++ [msg]
                else state.msgCache }).record (.pulled (.bare msg)))).goTo (.handling msg .plan)

/-- The plan's `Respond` channel is dropped without an answer. -/
def dropResponder (plans : PlanStream σ) (config : Config σ) (origin : Origin) : Config σ :=
  if origin = .respond then { config with plan := plans.respond config.plan none } else config

/-- The result of the handled message goes back to a `Respond` item. -/
def answer (plans : PlanStream σ) (config : Config σ) (origin : Origin) : Config σ :=
  if origin = .respond then
    { config with
      plan := plans.respond config.plan (some config.engine.lastMsgResult)
      engine := { config.engine with lastMsgResult := .none } }
  else
    config

/-- What the loop makes of a handler's outcome. -/
def settle (plans : PlanStream σ) (config : Config σ) (msg : Msg) (origin : Origin) :
    Except BsrsError (Option Uid) → Config σ
  | .ok uid =>
      (({ config with runUids := config.runUids ++ uid.toList }.withEngine
        (config.engine.record (.handled msg none))).answer plans origin).goTo .top
  | .error .panicked => config.goTo .panicked
  | .error .cancelled =>
      ((config.withEngine (config.engine.record (.handled msg (some .cancelled)))).dropResponder
        plans origin).act fun config =>
          if config.engine.ctl.pauseSeq ≠ config.pauseSeen then
            (config.withEngine (config.engine.record (.cut msg))).goTo .top
          else
            config.throw (.error .cancelled)
  | .error error =>
      ((config.withEngine (config.engine.record (.handled msg (some error)))).dropResponder
        plans origin).throw (.error error)

/-- The message in hand: a `Raise` is thrown on unchanged, any other is handled. -/
def handleMsg (plans : PlanStream σ) (config : Config σ) (env : Env) (msg : Msg)
    (origin : Origin) : Config σ :=
  match msg with
  | .raise thrown => (config.dropResponder plans origin).throw thrown
  | msg =>
      let handled := handle env msg config.engine
      (config.withEngine handled.2).settle plans msg origin handled.1

/-- `build_result`. -/
def buildResult (config : Config σ) (exitStatus : String) (exception : Option BsrsError) :
    RunResult where
  runUids := config.runUids
  exitStatus
  interrupted := exitStatus = "fail" || config.engine.isHalting || config.engine.isStopping ||
    config.engine.isAborting
  reason :=
    match exception with
    | some error => error.text
    | none => config.engine.stopReason.getD ""
  exception

/-- Carry an engine computation out and go on with its value; a failure is a panic. -/
def perform (config : Config σ) (body : EngineAction α) (next : α → Pc) : Config σ :=
  let ran := body config.engine
  match ran.1 with
  | .ok value => (config.withEngine ran.2).goTo (next value)
  | .error _ => (config.withEngine ran.2).goTo .panicked

/-- Past the loop: what the open runs still hold is drained, they are closed and the result built. -/
def closeOut (config : Config σ) (env : Env) (status : String) (reason : Option String)
    (exception : Option BsrsError) : Config σ :=
  let ran := config.perform (drainAndClose env status reason) fun _ => .top
  if ran.pc = .panicked then ran else ran.goTo (.done (ran.buildResult status exception))

end Config

/-- What can happen next: a request, a pump iteration, or the run loop reaching its next await. -/
inductive Label where
  | request (request : Request)
  | update (update : Update)
  | loop (env : Env)

/-- The run loop up to its next await; `none` where it is parked or over. -/
def loopStep (plans : PlanStream σ) (config : Config σ) (env : Env) : Option (Config σ) :=
  match config.pc with
  | .top =>
      some <| if config.engine.ctl.pauseSeq ≠ config.pauseSeen then config.enterGate
        else config.goOn
  | .entering suspension =>
      some <| config.perform
        (onPauseEnter env ((suspension.map Suspension.justification).getD "pause"))
        fun _ => if (suspension.map Suspension.prePlan).getD false then .prePlan suspension
          else .checking suspension
  | .prePlan suspension =>
      some <| config.perform (injectedStep env) fun more =>
        if more then .prePlan suspension else .checking suspension
  | .checking suspension =>
      some <| if config.engine.ctl.isPaused then config.goTo (.parked suspension)
        else config.leaveGate suspension
  | .parked suspension =>
      if config.engine.ctl.permit = .notified then some (config.leaveGate suspension) else none
  | .restoring => some <| config.perform (restoreMonitors env) fun _ => .taking
  | .taking => some config.goOn
  | .resuming suspension =>
      some <| config.perform (onResume env) fun _ =>
        if (suspension.map Suspension.postPlan).getD false then .postPlan else .top
  | .postPlan => some <| config.perform (injectedStep env) fun more =>
      if more then .postPlan else .top
  | .pull => some (config.pullMsg plans env.planInput)
  | .handling msg origin => some (config.handleMsg plans env msg origin)
  | .closing status reason exception => some (config.closeOut env status reason exception)
  | .done _ | .panicked => none

/-- One step of the engine and its surroundings. -/
def step (plans : PlanStream σ) (config : Config σ) : Label → Option (Config σ)
  | .request request => some (config.withEngine (config.engine.receive request))
  | .update update => some (config.withEngine (config.engine.pump update))
  | .loop env => loopStep plans config env

/-! ## One `run_async` call -/

/-- What `run_async` resets on entry. The sinks, the count of awaits and the log belong to the
call and start afresh. -/
def RunEngine.begin (engine : RunEngine) : RunEngine :=
  { engine with
    ctl := { engine.ctl.resetForRun with isRunning := true, permit := .unarmed }
    isAborting := false
    isHalting := false
    isStopping := false
    interruptReason := ""
    deferredPause := false
    state := { engine.state with
      tempSubscribers := engine.state.tempSubscribers ++ engine.stagedTempSubs }
    stagedTempSubs := []
    sinks := []
    ticks := 0
    log := [] }

/-- The call about to enter `run_loop`. -/
def Config.start (engine : RunEngine) (plan : σ) : Config σ where
  engine := engine.begin
  plan
  pc := .top
  thrownSeq := engine.interruptSeq
  pauseSeen := engine.ctl.pauseSeq
  runUids := []

/-- What `run_async` takes out of the engine on its way out. -/
def RunEngine.cleared (engine : RunEngine) : RunEngine :=
  { engine with
    ctl := { engine.ctl with isRunning := false }
    perCallMd := ∅
    state := { engine.state with
      staged := []
      movableObjsTouched := ∅
      flyableObjsTouched := ∅
      runs := ∅
      contingencyStack := []
      tempSubscribers := []
      pausables := ∅ } }

/-- The end of `run_async`: stop what moved, unstage what is still staged. -/
def finish (env : Env) : EngineAction Unit := do
  let staged ← ask fun engine => engine.state.staged
  let movables ← ask fun engine => engine.state.movableObjsTouched.values
  let flyables ← ask fun engine => engine.state.flyableObjsTouched.values
  modify RunEngine.cleared
  each (fun obj => notify env (.stopOnPause obj)) movables
  each (fun obj => notify env (.stopOnPause obj)) flyables
  each (fun obj => notify env (.unstage obj)) staged

/-- A number of steps of the run loop alone. -/
def loops (env : Env) (count : Nat) : List Label :=
  List.replicate count (.loop env)

/-- A pause and a resume while a message is parked: the loop leaves the message, walks through the
gate, and hands out the message again. -/
def pausedWhileParked : List Label :=
  .request .pause :: loops .calm 4 ++ .request .resume :: loops .calm 4

/-- The call after a sequence of steps. -/
abbrev run (plans : PlanStream σ) (config : Config σ) (labels : List Label) : Option (Config σ) :=
  exec (step plans) config labels

end Bsrs.Engine
