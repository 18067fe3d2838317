import Mathlib.Algebra.Group.Nat.Defs
import Bsrs.Engine.Assets

namespace Bsrs.Engine

open Bsrs.Library (Table Action)
open Bsrs.Library.Action
open Bsrs.EventModel
open Bsrs.Core

/-! ## Runs -/

/-- The metadata of an `OpenRun`, lowest precedence first: `RE.md`, the computed level, the
message's extras, the call's. -/
def mergedMetadata (engine : RunEngine) (metadata : RunMetadata) : Table String Value :=
  let computed := engine.md.insert "plan_type" "generator"
  let named :=
    match metadata.planName with
    | some name => computed.insert "plan_name" name
    | none => computed
  engine.perCallMd ∪ (metadata.extra ∪ named)

/-- The counter's next number; past the largest `u64` it starts again. -/
def nextScanId (scanId : Nat) : Nat :=
  (scanId + 1) % 2 ^ 64

/-- The `scan_id` of an `OpenRun`: the message's, else the hook's, else the counter's next. -/
def resolveScanId (env : Env) (metadata : RunMetadata) (merged : Table String Value) :
    EngineAction Nat :=
  match metadata.scanId with
  | some scanId => do
      modify fun engine => { engine with scanId }
      pure scanId
  | none =>
      match env.scanIdSource with
      | some source => lift (source merged)
      | none => advance fun engine =>
          (nextScanId engine.scanId, { engine with scanId := nextScanId engine.scanId })

/-- The `interruptions` stream has one data key, of no object. -/
def interruptionKeys : Table String DataKey :=
  AList.singleton "interruption" { schema := "RunEngine string", external := none, objectName := none }

/-- The metadata hooks of `open_run`: the validator, then the normalizer. -/
def checkMetadata (env : Env) (merged : Table String Value) :
    Except BsrsError (Table String Value) := do
  (env.mdValidator.getD fun _ => .ok ()) merged
  (env.mdNormalizer.getD .ok) merged

/-- The slot of a freshly opened run, its `interruptions` stream declared while recording is on. -/
def installRun (env : Env) (key : RunKey) (start : RunStart) : EngineAction Unit := do
  let descriptorUid ← mint
  let bundler := RunBundler.new (RunBundle.open start)
  if ← ask RunEngine.recordInterruptions then
    let declared := bundler.declareStream descriptorUid "interruptions"
      [.objectless interruptionKeys]
    modify fun engine => (engine.withState fun state =>
      { state with runs := state.runs.insert key (.new declared.2) }).record (.opened key start.uid)
    broadcast env (.descriptor declared.1)
  else
    modify fun engine => (engine.withState fun state =>
      { state with runs := state.runs.insert key (.new bundler) }).record (.opened key start.uid)

/-- `open_run`. -/
def openRun (env : Env) (key : RunKey) (metadata : RunMetadata) : EngineAction Uid := do
  if ← ask fun engine => engine.state.runOpen key then
    reject .openRunWhileOpen
  else
    let merged ← ask fun engine => mergedMetadata engine metadata
    let scanId ← resolveScanId env metadata merged
    let merged := if (merged.lookup "scan_id").isSome then merged
      else merged.insert "scan_id" (toString scanId)
    modify fun engine => { engine with md := engine.md.insert "scan_id" (toString scanId) }
    let uid ← mint
    let extra ← lift (checkMetadata env merged)
    let start : RunStart := { uid, scanId := some scanId, extra }
    broadcast env (.start start)
    installRun env key start
    pure uid

def RunEngine.dropRun (engine : RunEngine) (key : RunKey) : RunEngine :=
  engine.withState fun state => { state with runs := state.runs.erase key }

/-- `close_run_if_open`. -/
def closeRunIfOpen (env : Env) (key : RunKey) (exitStatus : String) (reason : Option String) :
    EngineAction Unit := do
  let exitStatus := if exitStatus = "halt" then "abort" else exitStatus
  let uid ← mint
  match ← ask fun engine => engine.state.bundler key with
  | none => pure ()
  | some bundler =>
      match bundler.bundle.stop uid exitStatus reason with
      | none => do
          modify fun engine => engine.dropRun key
          fail .panicked
      | some stop => do
          modify fun engine => (engine.dropRun key).record (.closed key stop)
          broadcast env (.stop stop)

/-! ## Bundles -/

/-- The asset documents of a bundle's readers, stamped with the stream's descriptor. -/
def drainAssets (env : Env) (objs : List Obj) : Option Uid → EngineAction (List Document)
  | none => pure []
  | some uid => do
      let drained ← gather
        (fun obj => do
          let tick ← await env
          lift (env.collectAssetDocs tick obj uid))
        objs
      pure drained.flatten

def eventSeq? (docs : List Document) : Option Nat :=
  docs.findSome? fun doc =>
    match doc with
    | .event event => some event.seqNum
    | _ => none

/-- Emission of a saved bundle: descriptors, then assets, then Events. -/
def emitSaved (env : Env) (key : RunKey) (stream : String) (docs assets : List Document) :
    EngineAction Unit := do
  each (broadcast env) (docs.filter Document.isDescriptor)
  each (deliver env key stream) assets
  each
    (fun doc =>
      match doc with
      | .event event => emit env key stream .bundle event
      | other => broadcast env other)
    (docs.filter fun doc => !doc.isDescriptor)

/-- Validate and stamp the assets of a saved bundle. -/
def packSaved (key : RunKey) (stream : String) (docs assets : List Document) :
    EngineAction (List Document) :=
  if assets.isEmpty then
    pure []
  else if (eventSeq? docs).isNone ∧ assets.any Document.isStreamDatum then
    reject .saveUnanchoredDatum
  else do
    let packed ← packInto key .saveLostRun (some stream) ((eventSeq? docs).getD 0) assets
    pure packed.1

/-- A saved bundle on its way out: its stream, its documents and its asset readers. -/
structure SavedBundle where
  stream : Option String
  docs : List Document
  assetObjs : List Obj

/-- What `slot` saved, its asset readers taken with it. -/
def takeSaved (key : RunKey) (slot : RunSlot) :
    Except PlanError (List Document) → EngineAction SavedBundle
  | .error error => reject error
  | .ok docs => do
      modify fun engine => engine.withSlot key fun slot => { slot with bundleAssetObjs := [] }
      pure { stream := slot.bundler.openStreamName, docs, assetObjs := slot.bundleAssetObjs }

/-- The first half of `Msg::Save`: take the bundle and compose its documents. -/
def composeSave (key : RunKey) : EngineAction SavedBundle := do
  let descriptorUid ← mint
  let eventUid ← mint
  match ← ask fun engine => engine.state.run key with
  | none => reject .saveNoOpenRun
  | some slot =>
      modify fun engine => engine.countWith key slot.bundler.openStreamName fun bundler =>
        (bundler.save descriptorUid eventUid).2
      takeSaved key slot (slot.bundler.save descriptorUid eventUid).1

/-- The asset documents of a saved bundle, drained, validated and stamped. -/
def savedAssets (env : Env) (key : RunKey) (stream : String) (saved : SavedBundle) :
    EngineAction (List Document) := do
  let descriptor ← ask fun engine => (engine.state.bundler key).bind (·.descriptorUid stream)
  let drained ← drainAssets env saved.assetObjs descriptor
  packSaved key stream saved.docs drained

/-- `Msg::Save`. A bundle that was saved had a stream. -/
def handleSave (env : Env) (key : RunKey) : EngineAction Unit := do
  let saved ← composeSave key
  match saved.stream with
  | none => pure ()
  | some stream =>
      let assets ← savedAssets env key stream saved
      emitSaved env key stream saved.docs assets

/-- Apply a bundler operation to an open run's bundle and forget the bundle's asset readers. -/
def reshapeBundle (key : RunKey) (missing : PlanError)
    (operation : RunBundler → Except PlanError RunBundler) : EngineAction Unit := do
  match ← ask fun engine => engine.state.bundler key with
  | none => reject missing
  | some bundler =>
      match operation bundler with
      | .error error => reject error
      | .ok updated =>
          modify fun engine => engine.withSlot key fun slot =>
            { slot with bundler := updated, bundleAssetObjs := [] }

/-- `Msg::Create`. -/
def handleCreate (key : RunKey) (streamName : String) : EngineAction Unit :=
  reshapeBundle key .createNoOpenRun fun bundler => bundler.create streamName

/-- `Msg::Drop`. -/
def handleDrop (key : RunKey) : EngineAction Unit :=
  reshapeBundle key .dropNoOpenRun RunBundler.dropBundle

/-- The bundled half of `Msg::Read`. -/
def bundleRead (env : Env) (key : RunKey) (obj : Obj) (readings : Table String ReadingValue) :
    EngineAction Unit := do
  let tick ← await env
  let dataKeys ← lift (env.describe tick obj)
  let readObj ← streamObject env key obj dataKeys
  match ← ask fun engine => engine.state.bundler key with
  | none => pure ()
  | some bundler =>
      match bundler.addRead readObj readings with
      | .error error => reject error
      | .ok updated =>
          modify fun engine => engine.withSlot key fun slot =>
            { slot with
              bundler := updated
              bundleAssetObjs :=
                if obj.writesExternalAssets then slot.bundleAssetObjs ++ [obj]
                else slot.bundleAssetObjs }

/-- `Msg::Read`: the reading is surfaced always, bundled only while a bundle is open. -/
def handleRead (env : Env) (key : RunKey) (obj : Obj) : EngineAction Unit := do
  let tick ← await env
  let readings ← lift (env.read tick obj)
  if ← ask fun engine => ((engine.state.bundler key).map (·.isBundling)).getD false then
    bundleRead env key obj readings
  setMsgResult (.reading readings)

/-- `Msg::DeclareStream`. -/
def handleDeclareStream (env : Env) (key : RunKey) (streamName : String) (objs : StreamObjs) :
    EngineAction Unit := do
  if ← ask fun engine => engine.state.runOpen key then
    let streamObjs ← describeStreamObjs env key streamName objs
    modify fun engine => engine.withBundler key fun bundler =>
      bundler.recordDeclaredStream (streamObjs.filterMap StreamObject.object).toFinset streamName
    let descriptor ← declareInto key .declareStreamNoOpenRun streamName streamObjs
    broadcast env (.descriptor descriptor)
  else
    reject .declareStreamNoOpenRun

/-- `Msg::Configure`: new descriptor generations are installed only once they are announced. -/
def handleConfigure (env : Env) (key : RunKey) (obj : Obj) (args : Value) : EngineAction Unit := do
  if ← ask fun engine => ((engine.state.bundler key).map (·.isBundling)).getD false then
    reject .configureInBundle
  else
    call env (.configure obj args)
    if ← ask fun engine => engine.state.runOpen key then
      let config ← readObjectConfiguration env obj
      match ← ask fun engine => engine.state.bundler key with
      | none => pure ()
      | some bundler =>
          modify fun engine => engine.withBundler key (·.cacheConfiguration obj.name config)
          let firstUid ← ask RunEngine.nextUid
          let descriptors := bundler.composeReconfigure firstUid obj.name config
          modify fun engine =>
            { engine with nextUid := engine.nextUid + bundler.descriptors.keys.length }
          each (fun descriptor => broadcast env (.descriptor descriptor)) descriptors
          modify fun engine => engine.withBundler key (·.installReconfigured descriptors)

/-! ## Flyers -/

/-- The stream a collect goes to, as far as `Msg::DeclareStream` declared one. -/
def resolveCollectStream (bundler : RunBundler) (obj : Obj) (streamName : Option String) :
    Except PlanError (Option String) :=
  let declared := bundler.declaredStreams {obj.name}
  match streamName with
  | some name =>
      if name ∈ declared then .ok (some name) else .error (.collectUndeclared name obj.name)
  | none =>
      let distinct := declared.dedup
      if distinct.length > 1 then
        .error (.collectSeveralStreams obj.name (distinct.insertionSort (· ≤ ·)))
      else
        .ok declared.head?

/-- Declare the streams an undeclared collectable describes that the run does not have yet. -/
def declareCollected (env : Env) (key : RunKey) (obj : Obj) : EngineAction (Option String) := do
  let tick ← await env
  let described ← lift (env.describeCollect tick obj)
  let configuration ← ensureObjectConfiguration env key obj
  if ← ask fun engine => engine.state.runOpen key then
    let fresh ← ask fun engine =>
      described.pairs.filter fun entry =>
        (((engine.state.bundler key).bind (·.descriptorUid entry.1)).isNone)
    let descriptors ← gather
      (fun entry => declareInto key .collectDescriptorLost entry.1
        [{ object := some obj.name
           dataKeys := entry.2
           hintFields := obj.hintFields
           configuration }])
      fresh
    each (fun descriptor => broadcast env (.descriptor descriptor)) descriptors
    pure described.keys.head?
  else
    reject .collectDescriptorLost

/-- Drain the stream assets of a collect, advancing the stream's counter by their width. -/
def collectAssets (env : Env) (key : RunKey) (obj : Obj) (stream : String) (uid : Uid) :
    EngineAction Unit := do
  let tick ← await env
  let docs ← lift (env.collectStreamDocs tick obj uid)
  if docs.isEmpty then
    pure ()
  else
    match ← ask fun engine => engine.state.bundler key with
    | none => reject .collectLostRun
    | some bundler =>
        match bundler.bundle.peekNextSeq stream with
        | none => reject (.collectNoCounter stream)
        | some nextSeq =>
            let packed ← packInto key .collectLostRun (some stream) nextSeq docs
            if packed.2 > 0 then
              modify fun engine => engine.countWith key (some stream) fun bundler =>
                { bundler with bundle := bundler.bundle.advanceSeq stream packed.2 }
            each (deliver env key stream) packed.1

/-- One collected event, composed and broadcast. -/
def collectEvent (env : Env) (key : RunKey) (declared : Option String)
    (item : String × Table String Value × Table String Value) : EngineAction Unit := do
  let stream := declared.getD item.1
  let uid ← mint
  match ← ask fun engine => engine.state.bundler key with
  | none => reject .collectLostRunMidProcess
  | some bundler =>
      modify fun engine => engine.countWith key (some stream) fun bundler =>
        { bundler with bundle := (bundler.bundle.event uid stream item.2.1 item.2.2).2 }
      match (bundler.bundle.event uid stream item.2.1 item.2.2).1 with
      | none => reject .collectUnknownStream
      | some event => emit env key stream .bundle event

/-- The stream a collect's assets go to, declared on the way when nothing was declared before. -/
def collectStream (env : Env) (key : RunKey) (obj : Obj) :
    Option String → EngineAction (Option String)
  | some stream => pure (some stream)
  | none => declareCollected env key obj

/-- The asset half of a collect, when its stream has a descriptor. -/
def drainCollected (env : Env) (key : RunKey) (obj : Obj) (stream : Option String) :
    EngineAction Unit := do
  match ← ask fun engine => engine.state.bundler key with
  | none => reject .collectLostRun
  | some bundler =>
      match stream.bind fun name => (bundler.descriptorUid name).map fun uid => (name, uid) with
      | some (name, uid) => collectAssets env key obj name uid
      | none => pure ()

/-- `collect_object`. -/
def collectObject (env : Env) (key : RunKey) (obj : Obj) (streamName : Option String) :
    EngineAction Unit := do
  record (.collecting key obj)
  match ← ask fun engine => engine.state.bundler key with
  | none => reject .collectNoOpenRun
  | some bundler =>
      let declared ← lift ((resolveCollectStream bundler obj streamName).mapError .plan)
      let stream ← collectStream env key obj declared
      drainCollected env key obj stream
      let tick ← await env
      let events ← lift (env.collect tick obj)
      each (collectEvent env key declared) events
      modify fun engine => engine.withSlot key fun slot =>
        { slot with uncollected := slot.uncollected.erase obj.name }

/-- `backstop_collect`: one object's failure is logged and swallowed. -/
def backstopCollect (env : Env) : EngineAction Unit := do
  let pending ← ask fun engine =>
    engine.state.runs.pairs.flatMap fun entry =>
      entry.2.uncollected.values.map fun obj => (entry.1, obj)
  each
    (fun entry => do
      let _ ← attempt (collectObject env entry.1 entry.2 none))
    pending

/-- `drain_and_close`. -/
def drainAndClose (env : Env) (status : String) (reason : Option String) : EngineAction Unit := do
  backstopCollect env
  let openKeys ← ask fun engine => engine.state.runs.keys
  each (fun key => closeRunIfOpen env key status reason) openKeys

/-! ## Monitors -/

/-- `start_monitor`. -/
def startMonitor (env : Env) (key : RunKey) (stream : String) (obj : Obj) : EngineAction Unit := do
  let tick ← await env
  let dataKeys ← lift (env.describe tick obj)
  let monitored ← streamObject env key obj dataKeys
  match ← ask fun engine => engine.state.bundler key with
  | none => reject .monitorStartNoOpenRun
  | some bundler =>
      if (bundler.descriptorUid stream).isNone then
        let descriptor ← declareInto key .monitorStartNoOpenRun stream [monitored]
        broadcast env (.descriptor descriptor)
      let tick ← await env
      let eventKey ← lift (env.subscribe tick obj)
      if (dataKeys.lookup eventKey).isNone then
        reject (.monitorKeyUndeclared obj.name eventKey)
      else
        modify fun engine => engine.withSlot key fun slot =>
          slot.insertTask obj.name { stream, key := eventKey }

/-- `Msg::Monitor`. -/
def handleMonitor (env : Env) (key : RunKey) (obj : Obj) (name : Option String) :
    EngineAction Unit := do
  match ← ask fun engine => engine.state.run key with
  | none => reject .monitorNoOpenRun
  | some slot =>
      if (slot.monitored.lookup obj.name).isSome then
        reject (.monitorAlreadyMonitored obj.name)
      else
        let tick ← await env
        let stream := name.getD (env.monitorStreamName tick)
        startMonitor env key stream obj
        modify fun engine => engine.withSlot key fun slot =>
          { slot with monitored := slot.monitored.insert obj.name { obj, stream } }
        modify RunEngine.resetCheckpointState

/-- `Msg::Unmonitor`; the pump drains what it has queued before it is gone. -/
def handleUnmonitor (env : Env) (key : RunKey) (obj : Obj) : EngineAction Unit := do
  match ← ask fun engine => engine.state.run key with
  | none => reject (.unmonitorNotMonitored obj.name)
  | some slot =>
      if (slot.monitored.lookup obj.name).isNone then
        reject (.unmonitorNotMonitored obj.name)
      else
        modify fun engine => engine.withSlot key fun slot =>
          { slot with monitored := slot.monitored.erase obj.name }
        modify RunEngine.resetCheckpointState
        let _ ← await env
        modify fun engine => engine.withSlot key fun slot => slot.eraseTask obj.name

/-- `restore_monitors`: a monitor that cannot be restored is logged and left out. -/
def restoreMonitors (env : Env) : EngineAction Unit := do
  let specs ← ask fun engine =>
    engine.state.runs.pairs.flatMap fun entry =>
      entry.2.monitored.values.map fun spec => (entry.1, spec)
  each
    (fun entry => do
      let _ ← attempt (startMonitor env entry.1 entry.2.stream entry.2.obj))
    specs

/-! ## Statuses -/

/-- `handle_status`: a grouped status joins its group, an ungrouped one is awaited here. -/
def handleStatus (env : Env) (status : Status) : Option GroupId → EngineAction Unit
  | some group =>
      modify fun engine => engine.withState fun state =>
        { state with
          groups := state.groups.insert group ((state.groups.lookup group).getD [] ++ [status]) }
  | none => do
      match ← park env with
      | .unparked => fail .cancelled
      | .statusFailed error => fail (statusFailure error)
      | .failed _ | .elapsed | .resolved => pure ()

/-- The messages that issue a status: the call, its group as the result, then the status. -/
def handleIssue (env : Env) (request : Call) (group : Option GroupId) : EngineAction Unit := do
  let status ← issue env request
  match group with
  | some name => setMsgResult (.status name)
  | none => pure ()
  handleStatus env status group

/-- `wait_group`: the members are taken out, and put back only by a move-on timeout. -/
def waitGroup (env : Env) (group : GroupId) (errorOnTimeout : Bool) (timeout : Option String) :
    EngineAction Bool := do
  let members ← ask fun engine => (engine.state.groups.lookup group).getD []
  modify fun engine => engine.withState fun state =>
    { state with groups := state.groups.erase group }
  record (.awaited group members)
  if members.isEmpty then
    pure true
  else
    match ← park env, timeout with
    | .unparked, _ => fail .cancelled
    | .statusFailed error, _ => fail (statusFailure error)
    | .elapsed, some after =>
        if errorOnTimeout then
          fail (.timeout after)
        else
          modify fun engine => engine.withState fun state =>
            { state with
              groups := state.groups.insert group
                ((state.groups.lookup group).getD [] ++ members) }
          pure false
    | .elapsed, none | .failed _, _ | .resolved, _ => pure true

/-! ## The handler -/

/-- `Msg::Kickoff`. -/
def handleKickoff (env : Env) (key : RunKey) (obj : Obj) (group : Option GroupId) :
    EngineAction Unit := do
  if ← ask fun engine => engine.state.runOpen key then
    modify fun engine => engine.withState fun state =>
      { state with flyableObjsTouched := state.flyableObjsTouched.insert obj.name obj }
    if obj.collectable then
      modify fun engine => engine.withSlot key fun slot =>
        { slot with uncollected := slot.uncollected.insert obj.name obj }
      record (.flown key obj)
    handleIssue env (.kickoff obj) group
  else
    reject .kickoffNoOpenRun

/-- `Msg::Checkpoint`: the region restarts, and a deferred pause comes due. -/
def handleCheckpoint : EngineAction Unit := do
  if ← ask fun engine => engine.state.anyBundling then
    reject .checkpointInBundle
  else
    modify fun engine => (engine.setRewindable true).resetCheckpointState
    if ← ask RunEngine.deferredPause then
      modify fun engine => { engine with deferredPause := false }.pauseNow

/-- `Msg::Rewindable`: a change of the flag restarts the region. -/
def handleRewindable (on : Bool) : EngineAction Unit :=
  modify fun engine =>
    if engine.state.rewindable = on then engine
    else (engine.setRewindable on).resetCheckpointState

/-- `Msg::Sleep`. -/
def handleSleep (env : Env) : EngineAction Unit := do
  match ← park env with
  | .unparked => fail .cancelled
  | _ => pure ()

/-- `Msg::WaitFor`. -/
def handleWaitFor (env : Env) (timeout : Option String) : EngineAction Unit := do
  match ← park env, timeout with
  | .unparked, _ => fail .cancelled
  | .failed error, _ => fail error
  | .elapsed, some after => fail (.timeout after)
  | _, _ => pure ()

/-- `Msg::Stage`, `Msg::Unstage`: the device first, then the commit point. -/
def handleStage (env : Env) (obj : Obj) : EngineAction Unit := do
  call env (.stage obj)
  modify fun engine => engine.withState fun state =>
    { state with
      staged := if state.staged.any fun other => other.ptr = obj.ptr then state.staged
        else state.staged ++ [obj] }
  modify RunEngine.resetCheckpointState

def handleUnstage (env : Env) (obj : Obj) : EngineAction Unit := do
  call env (.unstage obj)
  modify fun engine => engine.withState fun state =>
    { state with staged := state.staged.filter fun other => other.ptr ≠ obj.ptr }
  modify RunEngine.resetCheckpointState

/-- `Msg::Locate`. -/
def handleLocate (env : Env) (obj : Obj) : EngineAction Unit := do
  let tick ← await env
  let location ← lift (env.locate tick obj)
  setMsgResult (.location location.1 location.2)

/-- `Msg::Input`. -/
def handleInput (env : Env) (prompt : String) : EngineAction Unit := do
  let tick ← await env
  match env.input tick with
  | none => reject .noInputHandler
  | some handler =>
      let text ← lift (handler prompt)
      setMsgResult (.input text)

/-- `Msg::Custom`. -/
def handleCustom (env : Env) (name : String) (payload : Value) : EngineAction Unit := do
  let tick ← await env
  match env.command tick name with
  | none => reject (.unknownCommand name)
  | some handler => lift (handler payload)

/-- `Msg::CloseRun`. -/
def handleCloseRun (env : Env) (key : RunKey) (exitStatus : String) (reason : Option String) :
    EngineAction Unit := do
  if ← ask fun engine => engine.state.runOpen key then
    closeRunIfOpen env key exitStatus reason
    setMsgResult (.closeRun exitStatus)
  else
    reject .closeRunWithoutOpenRun

def handleSubscribe (env : Env) : EngineAction Unit := do
  let tick ← await env
  modify fun engine => engine.withState fun state =>
    { state with tempSubscribers := state.tempSubscribers ++ [env.subscriptionId tick] }
  modify RunEngine.resetCheckpointState
  setMsgResult (.subscriptionId (env.subscriptionId tick))

def handleUnsubscribe (id : SubscriptionId) : EngineAction Unit := do
  modify fun engine => engine.withState fun state =>
    { state with tempSubscribers := state.tempSubscribers.filter fun other => other ≠ id }
  modify RunEngine.resetCheckpointState

/-- The sink an arming region starts with is empty, whatever it held. -/
def RunEngine.setSink (engine : RunEngine) (sink : SinkId) (value : Option Thrown) : RunEngine :=
  { engine with sinks := engine.sinks.set sink value }

/-- The body of `handle` for a message already routed to the run `key`: the uid of the run it
opened, if it opened one. -/
def handleRouted (env : Env) (key : RunKey) (msg : Msg) : EngineAction (Option Uid) := do
  match msg with
  | .inRun _ _ => reject .inRunNested
  | .openRun metadata =>
      let uid ← openRun env key metadata
      setMsgResult (.openRun uid)
      return some uid
  | .closeRun exitStatus reason => handleCloseRun env key exitStatus reason
  | .create streamName => handleCreate key streamName
  | .save => handleSave env key
  | .drop => handleDrop key
  | .declareStream streamName objs => handleDeclareStream env key streamName objs
  | .read obj => handleRead env key obj
  | .locate obj => handleLocate env obj
  | .set obj value group =>
      modify fun engine => engine.withState fun state =>
        { state with movableObjsTouched := state.movableObjsTouched.insert obj.name obj }
      handleIssue env (.set obj value) group
  | .trigger obj group => handleIssue env (.trigger obj) group
  | .stage obj => handleStage env obj
  | .unstage obj => handleUnstage env obj
  | .stop obj success => call env (.stop obj success)
  | .kickoff obj group => handleKickoff env key obj group
  | .complete obj group => handleIssue env (.complete obj) group
  | .collect obj streamName => collectObject env key obj streamName
  | .monitor obj name => handleMonitor env key obj name
  | .unmonitor obj => handleUnmonitor env key obj
  | .wait group errorOnTimeout timeout =>
      let done ← waitGroup env group errorOnTimeout timeout
      setMsgResult (.waitComplete done)
  | .sleep _ => handleSleep env
  | .checkpoint => handleCheckpoint
  | .clearCheckpoint => modify RunEngine.clearCheckpoint
  | .pause defer => modify fun engine => engine.pause defer
  | .resume => modify RunEngine.resume
  | .rewindable on => handleRewindable on
  | .installSuspender _ none => reject .suspenderPayload
  | .installSuspender id (some suspender) =>
      modify fun engine => engine.withState fun state =>
        { state with suspenders := state.suspenders.insert id suspender }
  | .removeSuspender id =>
      modify fun engine => engine.withState fun state =>
        { state with suspenders := state.suspenders.erase id }
  | .registerPausable obj =>
      modify fun engine => engine.withState fun state =>
        { state with pausables := state.pausables.insert obj.name obj }
  | .unregisterPausable obj =>
      modify fun engine => engine.withState fun state =>
        { state with pausables := state.pausables.erase obj.name }
  | .input prompt => handleInput env prompt
  | .reClass => setMsgResult (.engineClass "bsrs.RunEngine")
  | .subscribe _ => handleSubscribe env
  | .unsubscribe id => handleUnsubscribe id
  | .configure obj args => handleConfigure env key obj args
  | .prepare obj value group => handleIssue env (.prepare obj value) group
  | .waitFor _ timeout => handleWaitFor env timeout
  | .custom name payload => handleCustom env name payload
  | .publish doc => publish env doc
  | .null => pure ()
  | .fail reason => reject (.planFailed reason)
  | .raise _ => reject .raiseRouted
  | .pushContingency sink => modify fun engine => (engine.setSink sink none).withState fun state =>
      { state with contingencyStack := sink :: state.contingencyStack }
  | .popContingency => modify fun engine => engine.withState fun state =>
      { state with contingencyStack := state.contingencyStack.tail }
  return none

/-- The run key a message carries and the message inside. -/
def route : Msg → RunKey × Msg
  | .inRun run inner => (some run, inner)
  | other => (none, other)

/-- `handle`. -/
def handle (env : Env) (msg : Msg) : EngineAction (Option Uid) :=
  handleRouted env (route msg).1 (route msg).2

end Bsrs.Engine
