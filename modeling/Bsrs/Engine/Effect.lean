import Mathlib.Logic.Relation
import Bsrs.Engine.RunLoop

namespace Bsrs.Engine

open Bsrs.Library (Table Action)
open Bsrs.Library.Action
open Bsrs.EventModel
open Bsrs.Core
open Relation (ReflTransGen)

/-- Entries that only report what a handler did to devices, groups and documents. -/
def Entry.isTrace : Entry → Bool
  | .awaited _ _ | .called _ | .reported _ _ | .flown _ _ | .collecting _ _ | .broadcast _
  | .drained _ _ _ | .published _ => true
  | _ => false

/-- What a handler may do to the runs it works for, beyond what its message's own guards show. -/
inductive Power where
  | opens
  | closes
  | configures
  | declares
  | drains
  | flies
  | collects
  | sends
  deriving Repr, DecidableEq

/-- The powers a message of the plan has. -/
def powers : Msg → Power → Prop
  | .openRun _, power => power = .opens
  | .closeRun _ _, power => power = .closes
  | .save, power => power = .drains ∨ power = .sends
  | .declareStream _ _, power => power = .configures ∨ power = .declares
  | .collect _ _, power =>
      power = .configures ∨ power = .drains ∨ power = .collects ∨ power = .sends
  | .kickoff _ _, power => power = .flies
  | .read _, power | .monitor _ _, power | .configure _ _, power => power = .configures
  | _, _ => False

/-- What a handler may touch: the runs it works for, and how. -/
structure Scope where
  own : RunKey → Prop
  may : Power → Prop

/-- A message of the plan works for the run it is routed to. -/
def Scope.of (key : RunKey) (msg : Msg) : Scope where
  own other := other = key
  may := powers msg

/-- The engine's own work is for every run. -/
def Scope.all : Scope where
  own _ := True
  may _ := True

/-- Messages that may compose Descriptors and send Events out, as restoring a monitor does. -/
def Describes : Msg → Prop
  | .openRun _ | .save | .declareStream _ _ | .collect _ _ | .configure _ _ | .monitor _ _ => True
  | _ => False

theorem describes_save : Describes .save :=
  trivial

/-- Messages that open, fill or end the open bundle of their run. -/
def Shapes : Msg → Prop
  | .create _ | .drop | .read _ => True
  | _ => False

/-- Messages that restart the rewindable region, and with which flag. -/
def Restarts (msg : Msg) (before after : Bool) : Prop :=
  match msg with
  | .checkpoint => after = true
  | .rewindable on => after = on ∧ before ≠ on
  | .stage _ | .unstage _ | .monitor _ _ | .unmonitor _ | .subscribe _ | .unsubscribe _ =>
      after = before
  | _ => False

/-- The requests a message makes of the control plane itself. -/
def Requests : Msg → Request → Prop
  | .pause true, request => request = .deferPause
  | .pause false, request => request = .pause
  | .resume, request => request = .resume
  | _, _ => False

/-- The entries among these that a message leaves. -/
def Leaves (scope : Scope) (msg : Msg) : Entry → Prop
  | .awaited _ _ | .called _ => True
  | .reported _ _ => scope.may .configures
  | .flown key _ => scope.own key ∧ scope.may .flies
  | .collecting key _ => scope.own key ∧ scope.may .collects
  | .drained key _ _ => scope.own key ∧ scope.may .drains
  | .broadcast (.start _) => scope.may .opens
  | .broadcast (.stop _) => scope.may .closes
  | .broadcast (.descriptor _) => Describes msg
  | .published doc => msg = .publish doc
  | _ => False

theorem Entry.isTrace_of_leaves {scope : Scope} {msg : Msg} {entry : Entry}
    (leaves : Leaves scope msg entry) : entry.isTrace = true := by
  cases entry <;> first | rfl | exact leaves.elim

/-- What handling `msg` can do to one slot at a time. -/
inductive SlotEffect (scope : Scope) (msg : Msg) : RunSlot → RunSlot → Prop
  | assets (slot : RunSlot) (objs) : SlotEffect scope msg slot { slot with bundleAssetObjs := objs }
  | monitors (slot : RunSlot) (monitored) : SlotEffect scope msg slot { slot with monitored }
  | flyers (slot : RunSlot) (uncollected) (keeps : scope.may .flies ∨ scope.may .collects) :
      SlotEffect scope msg slot { slot with uncollected }
  | task (slot : RunSlot) (object task) (describes : Describes msg) :
      SlotEffect scope msg slot (slot.insertTask object task)
  | untask (slot : RunSlot) (object) : SlotEffect scope msg slot (slot.eraseTask object)
  | configuration (slot : RunSlot) (configCache) (configures : scope.may .configures) :
      SlotEffect scope msg slot { slot with bundler := { slot.bundler with configCache } }
  | registry (slot : RunSlot) (streamResourceDataKeys) (drains : scope.may .drains) :
      SlotEffect scope msg slot { slot with
        bundler := { slot.bundler with streamResourceDataKeys } }
  | streams (slot : RunSlot) (declaredStreamNames) (declares : scope.may .declares) :
      SlotEffect scope msg slot { slot with bundler := { slot.bundler with declaredStreamNames } }
  | declare (slot uid stream objs) (describes : Describes msg) :
      SlotEffect scope msg slot { slot with
        bundler := (slot.bundler.declareStream uid stream objs).2 }
  | install (slot descriptors) (configures : ∃ obj args, msg = .configure obj args) :
      SlotEffect scope msg slot { slot with bundler := slot.bundler.installReconfigured descriptors }
  | reshape (slot openBundle objs) (shapes : Shapes msg) :
      SlotEffect scope msg slot { slot with
        bundler := { slot.bundler with openBundle }, bundleAssetObjs := objs }

/-- What a message of the plan can do with the counter of `stream`. -/
inductive Counting (msg : Msg) : Option String → RunBundler → RunBundler → Prop
  | compose (bundler : RunBundler) (uid stream data timestamps) :
      Counting msg (some stream) bundler { bundler with
        bundle := (bundler.bundle.event uid stream data timestamps).2 }
  | advance (bundler : RunBundler) (stream count) :
      Counting msg (some stream) bundler
        { bundler with bundle := bundler.bundle.advanceSeq stream count }
  | save (bundler : RunBundler) (descriptorUid eventUid) (saves : msg = .save) :
      Counting msg bundler.openStreamName bundler (bundler.save descriptorUid eventUid).2

/-- A bundler as `open_run` leaves it. -/
structure Fresh (bundler : RunBundler) : Prop where
  startUid : bundler.startUid = bundler.bundle.startUid
  openBundle : bundler.openBundle = none
  seqSnapshot : bundler.seqSnapshot = none
  configCache : bundler.configCache = ∅
  streamResourceDataKeys : bundler.streamResourceDataKeys = ∅
  declaredStreamNames : bundler.declaredStreamNames = ∅
  seqNum : ∀ stream, bundler.bundle.seqNum stream = 0

/-- The elementary steps handling `msg` is made of. -/
inductive Effect (scope : Scope) (msg : Msg) : RunEngine → RunEngine → Prop
  | pump (engine update) : Effect scope msg engine (engine.pump update)
  | interrupt (engine content key) (own : ∀ key, scope.own key) (describes : Describes msg) :
      Effect scope msg engine (engine.interrupt content key)
  | tick (engine : RunEngine) : Effect scope msg engine { engine with ticks := engine.ticks + 1 }
  | mint (engine : RunEngine) (count) :
      Effect scope msg engine { engine with nextUid := engine.nextUid + count }
  | result (engine : RunEngine) (lastMsgResult) : Effect scope msg engine { engine with lastMsgResult }
  | persist (engine : RunEngine) (md scanId) : Effect scope msg engine { engine with md, scanId }
  | trace (engine : RunEngine) (entry) (leaves : Leaves scope msg entry) :
      Effect scope msg engine (engine.record entry)
  | sentOut (engine : RunEngine) (key stream event) (own : scope.own key)
      (sends : scope.may .sends) (describes : Describes msg) :
      Effect scope msg engine (engine.record (.emitted key stream .bundle event))
  | registries (engine : RunEngine) (groups staged movableObjsTouched flyableObjsTouched pausables
      tempSubscribers suspenders) :
      Effect scope msg engine (engine.withState fun state =>
        { state with
          groups, staged, movableObjsTouched, flyableObjsTouched, pausables, tempSubscribers,
          suspenders })
  | slot (engine : RunEngine) (key update) (own : scope.own key)
      (changes : ∀ slot, engine.state.run key = some slot → SlotEffect scope msg slot (update slot)) :
      Effect scope msg engine (engine.withSlot key update)
  | count (engine : RunEngine) (key stream update) (own : scope.own key)
      (uses : ∀ bundler, engine.state.bundler key = some bundler →
        Counting msg stream bundler (update bundler)) :
      Effect scope msg engine (engine.countWith key stream update)
  | quiesce (engine : RunEngine) (own : ∀ key, scope.own key) :
      Effect scope msg engine (engine.withState fun state =>
        { state with runs := state.runs.mapValues fun _ slot => slot.clearTasks })
  | opened (engine : RunEngine) (key bundler) (own : scope.own key)
      (opens : ∃ metadata, msg = .openRun metadata)
      (fresh : Fresh bundler) :
      Effect scope msg engine ((engine.withState fun state =>
        { state with runs := state.runs.insert key (.new bundler) }).record
        (.opened key bundler.startUid))
  | closed (engine : RunEngine) (key bundler uid status reason stop) (own : scope.own key)
      (closes : ∃ status reason, msg = .closeRun status reason)
      (found : engine.state.bundler key = some bundler)
      (stopped : bundler.bundle.stop uid status reason = some stop) :
      Effect scope msg engine ((engine.dropRun key).record (.closed key stop))
  | lost (engine : RunEngine) (key) (own : scope.own key)
      (closes : ∃ status reason, msg = .closeRun status reason) :
      Effect scope msg engine (engine.dropRun key)
  | restart (engine : RunEngine) (on) (restarts : Restarts msg engine.state.rewindable on) :
      Effect scope msg engine (engine.setRewindable on).resetCheckpointState
  | clear (engine : RunEngine) (clears : msg = .clearCheckpoint) :
      Effect scope msg engine engine.clearCheckpoint
  | due (engine : RunEngine) (checkpoint : msg = .checkpoint) :
      Effect scope msg engine { engine with deferredPause := false }.pauseNow
  | request (engine : RunEngine) (request) (requests : Requests msg request) :
      Effect scope msg engine (engine.receive request)
  | push (engine : RunEngine) (sink) (pushes : msg = .pushContingency sink) :
      Effect scope msg engine ((engine.setSink sink none).withState fun state =>
        { state with contingencyStack := sink :: state.contingencyStack })
  | pop (engine : RunEngine) (pops : msg = .popContingency) :
      Effect scope msg engine (engine.withState fun state =>
        { state with contingencyStack := state.contingencyStack.tail })

/-- What handling `msg` does to the engine, however it ends. -/
abbrev Effects (scope : Scope) (msg : Msg) : RunEngine → RunEngine → Prop :=
  ReflTransGen (Effect scope msg)

variable {scope : Scope} {msg : Msg}

private theorem keeps_modify {update : RunEngine → RunEngine}
    (effect : ∀ engine, Effect scope msg engine (update engine)) :
    Keeps (Effects scope msg) (Action.modify update : EngineAction Unit) :=
  Keeps.modify fun engine => .single (effect engine)

/-- Pump iterations, one after the other. -/
theorem effects_pumped (engine : RunEngine) (updates : List Update) :
    Effects scope msg engine (updates.foldl RunEngine.pump engine) := by
  induction updates generalizing engine with
  | nil => exact .refl
  | cons update rest ih => exact (ReflTransGen.single (.pump engine update)).trans (ih _)

theorem await_effects (env : Env) : Keeps (Effects scope msg) (await env) := by
  intro engine
  exact (ReflTransGen.single (.tick engine)).trans (effects_pumped _ _)

theorem mint_effects : Keeps (Effects scope msg) mint :=
  fun engine => .single (.mint engine 1)

theorem reject_effects (error : PlanError) :
    Keeps (Effects scope msg) (reject error : EngineAction α) :=
  Keeps.fail _

theorem record_effects {entry : Entry} (leaves : Leaves scope msg entry) :
    Keeps (Effects scope msg) (record entry) :=
  keeps_modify fun engine => .trace engine entry leaves

theorem setMsgResult_effects (result : MsgResult) :
    Keeps (Effects scope msg) (setMsgResult result) :=
  keeps_modify fun engine => .result engine result

theorem call_effects (env : Env) (request : Call) : Keeps (Effects scope msg) (call env request) :=
  Keeps.bind (await_effects env) fun _ =>
    Keeps.bind (record_effects trivial) fun _ => Keeps.lift _

theorem issue_effects (env : Env) (request : Call) :
    Keeps (Effects scope msg) (issue env request) :=
  Keeps.bind (await_effects env) fun _ =>
    Keeps.bind (record_effects trivial) fun _ => mint_effects

theorem broadcast_effects (env : Env) {doc : Document} (leaves : Leaves scope msg (.broadcast doc)) :
    Keeps (Effects scope msg) (broadcast env doc) :=
  Keeps.bind (record_effects leaves) fun _ =>
    Keeps.bind (await_effects env) fun _ => Keeps.pure _

theorem publish_effects (env : Env) (doc : Document) :
    Keeps (Effects scope (.publish doc)) (publish env doc) :=
  Keeps.bind (record_effects rfl) fun _ =>
    Keeps.bind (await_effects env) fun _ => Keeps.pure _

theorem deliver_effects {key : RunKey} (own : scope.own key) (drains : scope.may .drains)
    (env : Env) (stream : String) (doc : Document) :
    Keeps (Effects scope msg) (deliver env key stream doc) :=
  Keeps.bind (record_effects ⟨own, drains⟩) fun _ =>
    Keeps.bind (await_effects env) fun _ => Keeps.pure _

theorem emit_effects {key : RunKey} (own : scope.own key) (sends : scope.may .sends)
    (describes : Describes msg) (env : Env) (stream : String) (event : Event) :
    Keeps (Effects scope msg) (emit env key stream .bundle event) :=
  Keeps.bind (keeps_modify fun engine => .sentOut engine key stream event own sends describes)
    fun _ => Keeps.bind (await_effects env) fun _ => Keeps.pure _

theorem park_effects (env : Env) : Keeps (Effects scope msg) (park env) :=
  Keeps.bind (await_effects env) fun _ => Keeps.bind (Keeps.ask _) fun _ => Keeps.pure _

/-- An update of a slot that is the same kind of change whatever the slot holds. -/
theorem slot_effects {key : RunKey} {update : RunSlot → RunSlot} (own : scope.own key)
    (changes : ∀ slot, SlotEffect scope msg slot (update slot)) :
    Keeps (Effects scope msg)
      (Action.modify fun engine => engine.withSlot key update : EngineAction Unit) :=
  keeps_modify fun engine => .slot engine key update own fun slot _ => changes slot

/-- A use of a stream's counter that is the same kind of use whatever the bundler holds. -/
theorem count_effects {key : RunKey} {stream : Option String} {update : RunBundler → RunBundler}
    (own : scope.own key) (uses : ∀ bundler, Counting msg stream bundler (update bundler)) :
    Keeps (Effects scope msg)
      (Action.modify fun engine => engine.countWith key stream update : EngineAction Unit) :=
  keeps_modify fun engine => .count engine key stream update own fun bundler _ => uses bundler

theorem bundler_effects {key : RunKey} {update : RunBundler → RunBundler} (own : scope.own key)
    (changes : ∀ slot : RunSlot,
      SlotEffect scope msg slot { slot with bundler := update slot.bundler }) :
    Keeps (Effects scope msg)
      (Action.modify fun engine => engine.withBundler key update : EngineAction Unit) :=
  slot_effects own changes

end Bsrs.Engine
