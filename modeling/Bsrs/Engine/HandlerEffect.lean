import Bsrs.Engine.Effect

namespace Bsrs.Engine

open Bsrs.Library (Table Action)
open Bsrs.Library.Action
open Bsrs.EventModel
open Bsrs.Core
open Relation (ReflTransGen)

variable {scope : Scope} {msg : Msg}

/-! ## Assets and configuration -/

theorem packInto_effects (own : scope.own key) (drains : scope.may .drains) (lost : PlanError)
    (stream : Option String) (nextSeq : Nat) (docs : List Document) :
    Keeps (Effects scope msg) (packInto key lost stream nextSeq docs) := by
  refine Keeps.bind (Keeps.ask _) fun found => ?_
  cases found with
  | none => exact reject_effects _
  | some bundler =>
      refine Keeps.bind (bundler_effects own fun slot => .registry slot _ drains) fun _ => ?_
      split
      · exact reject_effects _
      · exact Keeps.pure _

theorem readObjectConfiguration_effects (configures : scope.may .configures) (env : Env)
    (obj : Obj) :
    Keeps (Effects scope msg) (readObjectConfiguration env obj) :=
  Keeps.bind (await_effects env) fun _ => Keeps.bind (Keeps.lift _) fun _ =>
    Keeps.bind (record_effects configures) fun _ => Keeps.pure _

theorem ensureObjectConfiguration_effects (own : scope.own key)
    (configures : scope.may .configures) (env : Env) (obj : Obj) :
    Keeps (Effects scope msg) (ensureObjectConfiguration env key obj) := by
  refine Keeps.bind (Keeps.ask _) fun cached => ?_
  cases cached with
  | some config => exact Keeps.pure _
  | none =>
      have cache : ∀ config, Keeps (Effects scope msg)
          (do
            Action.modify fun engine =>
              engine.withBundler key (·.cacheConfiguration obj.name config)
            pure config : EngineAction Configuration) := fun config =>
        Keeps.bind (bundler_effects own fun slot => .configuration slot _ configures) fun _ =>
          Keeps.pure _
      dsimp only
      split
      · exact Keeps.bind (readObjectConfiguration_effects configures env obj) cache
      · exact Keeps.bind (Keeps.pure _) cache

theorem streamObject_effects (own : scope.own key) (configures : scope.may .configures) (env : Env)
    (obj : Obj) (dataKeys : Table String DataKey) :
    Keeps (Effects scope msg) (streamObject env key obj dataKeys) :=
  Keeps.bind (ensureObjectConfiguration_effects own configures env obj) fun _ => Keeps.pure _

theorem declareInto_effects (own : scope.own key) (describes : Describes msg)
    (missing : PlanError) (stream : String) (objs : List StreamObject) :
    Keeps (Effects scope msg) (declareInto key missing stream objs) := by
  refine Keeps.bind mint_effects fun uid => Keeps.bind (Keeps.ask _) fun found => ?_
  cases found with
  | none => exact reject_effects _
  | some bundler =>
      exact Keeps.bind
        (bundler_effects own fun slot => .declare slot uid stream objs describes) fun _ =>
          Keeps.pure _

theorem describeStreamObjs_effects (own : scope.own key) (configures : scope.may .configures)
    (env : Env) (streamName : String) (objs : StreamObjs) :
    Keeps (Effects scope msg) (describeStreamObjs env key streamName objs) := by
  cases objs with
  | readable objs =>
      refine Keeps.gather fun obj _ => ?_
      exact Keeps.bind (await_effects env) fun _ =>
        Keeps.bind (Keeps.lift _) fun _ => streamObject_effects own configures env obj _
  | collectable objs =>
      refine Keeps.gather fun obj _ => ?_
      refine Keeps.bind (await_effects env) fun _ => Keeps.bind (Keeps.lift _) fun described => ?_
      split
      · exact streamObject_effects own configures env obj _
      · exact reject_effects _

/-! ## Runs -/

theorem resolveScanId_effects (env : Env) (metadata : RunMetadata) (merged : Table String Value) :
    Keeps (Effects scope msg) (resolveScanId env metadata merged) := by
  unfold resolveScanId
  split
  · exact Keeps.bind (Keeps.modify fun engine => .single (.persist engine engine.md _)) fun _ =>
      Keeps.pure _
  · split
    · exact Keeps.lift _
    · exact Keeps.advance fun engine => .single (.persist engine engine.md _)

/-- A bundler just declared for a fresh run has no bundle open and every counter at zero. -/
theorem new_declared_seqNum (start : RunStart) (uid : Uid) (name : String)
    (objs : List StreamObject) (stream : String) :
    ((RunBundler.new (RunBundle.open start)).declareStream uid name objs).2.bundle.seqNum stream
      = 0 := by
  by_cases same : stream = name <;>
    simp [RunBundler.declareStream, RunBundler.prepareStream, RunBundler.new, RunBundle.open,
      RunBundle.descriptor, RunBundle.seqNum, same]

theorem installRun_effects (own : scope.own key) (env : Env) (start : RunStart)
    (metadata : RunMetadata) :
    Keeps (Effects scope (.openRun metadata)) (installRun env key start) := by
  have describes : Describes (.openRun metadata) := trivial
  refine Keeps.bind mint_effects fun uid => Keeps.bind (Keeps.ask _) fun recording => ?_
  split
  · refine Keeps.bind (Keeps.modify fun engine => .single
      (.opened engine key (RunBundler.declareStream _ uid _ _).2 own ⟨metadata, rfl⟩
        ⟨(RunBundle.startUid_descriptor _ _ _ _ _ _ _).symm, rfl, rfl, rfl, rfl, rfl,
          new_declared_seqNum start uid _ _⟩)) fun _ => ?_
    exact broadcast_effects env describes
  · exact Keeps.modify fun engine => .single
      (.opened engine key (RunBundler.new (RunBundle.open start)) own ⟨metadata, rfl⟩
        ⟨rfl, rfl, rfl, rfl, rfl, rfl, fun _ => rfl⟩)

theorem openRun_effects (own : scope.own key) (opens : scope.may .opens) (env : Env)
    (metadata : RunMetadata) :
    Keeps (Effects scope (.openRun metadata)) (openRun env key metadata) := by
  refine Keeps.bind (Keeps.ask _) fun taken => ?_
  split
  · exact reject_effects _
  · refine Keeps.bind (Keeps.ask _) fun merged =>
      Keeps.bind (resolveScanId_effects env metadata merged) fun scanId => ?_
    refine Keeps.bind (Keeps.modify fun engine => .single (.persist engine _ engine.scanId))
      fun _ => Keeps.bind mint_effects fun uid => Keeps.bind (Keeps.lift _) fun extra => ?_
    exact Keeps.bind (broadcast_effects env opens) fun _ =>
      Keeps.bind (installRun_effects own env _ metadata) fun _ => Keeps.pure _

/-- Before the run's own uid nothing is minted and nothing sent out. -/
theorem resolveScanId_unseen (env : Env) (metadata : RunMetadata) (merged : Table String Value)
    (engine : RunEngine) :
    (resolveScanId env metadata merged engine).2.nextUid = engine.nextUid ∧
      (resolveScanId env metadata merged engine).2.log = engine.log ∧
        (resolveScanId env metadata merged engine).2.state = engine.state := by
  unfold resolveScanId
  cases metadata.scanId with
  | some scanId => exact ⟨rfl, rfl, rfl⟩
  | none =>
      cases env.scanIdSource with
      | none => exact ⟨rfl, rfl, rfl⟩
      | some source => exact ⟨rfl, rfl, rfl⟩

/-- Installing a run always succeeds. -/
theorem installRun_ok (env : Env) (key : RunKey) (start : RunStart) (engine : RunEngine) :
    (installRun env key start engine).1 = .ok () := by
  unfold installRun mint
  rw [advance_bind, ask_bind]
  dsimp only
  split
  · rfl
  · rfl

/-- How `open_run` ends: with nothing sent out, or with the run installed. -/
inductive Opening (env : Env) (key : RunKey) (before : RunEngine) :
    Except BsrsError Uid → RunEngine → Prop
  | refused (failure) (after : RunEngine) (log : after.log = before.log)
      (state : after.state = before.state) (minted : before.nextUid ≤ after.nextUid) :
      Opening env key before (.error failure) after
  | opened (sent : RunEngine) (start : RunStart) (closed : before.state.run key = none)
      (log : sent.log = before.log) (state : sent.state = before.state)
      (minted : sent.nextUid = before.nextUid + 1) (uid : start.uid = before.nextUid) :
      Opening env key before (.ok before.nextUid) (installRun env key start
        (await env (sent.record (.broadcast (.start start)))).2).2

theorem openRun_opening (env : Env) (key : RunKey) (metadata : RunMetadata) (before : RunEngine) :
    Opening env key before (openRun env key metadata before).1
      (openRun env key metadata before).2 := by
  unfold openRun
  rw [ask_bind]
  split
  · exact .refused _ _ rfl rfl le_rfl
  · rename_i untaken
    have closed : before.state.run key = none := by
      simpa [EngineState.runOpen] using untaken
    rw [ask_bind, bind_apply]
    obtain ⟨minted, silent, same⟩ :=
      resolveScanId_unseen env metadata (mergedMetadata before metadata) before
    rcases ran : resolveScanId env metadata (mergedMetadata before metadata) before with
      ⟨outcome, reached⟩
    rw [ran] at minted silent same
    cases outcome with
    | error failure => exact .refused _ _ silent same minted.ge
    | ok scanId =>
        dsimp only at minted silent same ⊢
        rw [modify_bind]
        unfold mint
        rw [advance_bind, bind_apply]
        generalize (if ((mergedMetadata before metadata).lookup "scan_id").isSome then
          mergedMetadata before metadata
          else (mergedMetadata before metadata).insert "scan_id" (toString scanId)) = merged
        rw [lift_apply]
        cases checkMetadata env merged with
        | error failure => exact .refused _ _ silent same (minted.ge.trans (Nat.le_succ _))
        | ok extra =>
            dsimp only
            rw [minted]
            let sent : RunEngine := { reached with
              md := reached.md.insert "scan_id" (toString scanId)
              nextUid := before.nextUid + 1 }
            let start : RunStart := { uid := before.nextUid, scanId := some scanId, extra }
            have opening : Opening env key before (.ok before.nextUid) (installRun env key start
                (await env (sent.record (.broadcast (.start start)))).2).2 :=
              .opened sent start closed silent same rfl rfl
            have installed := installRun_ok env key start
              (await env (sent.record (.broadcast (.start start)))).2
            rcases ran : installRun env key start
              (await env (sent.record (.broadcast (.start start)))).2 with ⟨outcome, last⟩
            rw [ran] at opening installed
            have announced : broadcast env (.start start) sent =
                (.ok (), (await env (sent.record (.broadcast (.start start)))).2) := rfl
            dsimp only at installed
            rw [bind_ok announced, bind_ok (by rw [ran, installed])]
            exact opening

theorem closeRunIfOpen_effects (own : scope.own key) (mayClose : scope.may .closes) (env : Env)
    (exitStatus status : String) (reason cause : Option String) :
    Keeps (Effects scope (.closeRun status cause)) (closeRunIfOpen env key exitStatus reason) := by
  unfold closeRunIfOpen
  dsimp only
  generalize (if exitStatus = "halt" then "abort" else exitStatus) = exit
  have sent : ∀ (stop : RunStop), Keeps (Effects scope (.closeRun status cause))
      (broadcast env (.stop stop)) := fun stop =>
    broadcast_effects env mayClose
  refine Keeps.bind mint_effects fun uid => Keeps.ask_bind fun engine => ?_
  cases found : engine.state.bundler key with
  | none => exact Keeps.pure _ engine
  | some bundler =>
      dsimp only
      cases stopped : bundler.bundle.stop uid exit reason with
      | none => exact .single (.lost engine key own ⟨status, cause, rfl⟩)
      | some stop =>
          exact (ReflTransGen.single
            (.closed engine key bundler uid exit reason stop own ⟨status, cause, rfl⟩ found
              stopped)).trans (sent stop _)

/-- The engine closes what is still open as a message of the plan would. -/
theorem closeOpenRun_effects (env : Env) (key : RunKey) (exitStatus : String)
    (reason : Option String) :
    Keeps (Effects .all (.closeRun "" none)) (closeRunIfOpen env key exitStatus reason) :=
  closeRunIfOpen_effects trivial trivial env exitStatus "" reason none

/-- The statuses a RunStop can have, as `close_run_if_open` passes them on. -/
def isStopStatus (status : String) : Bool :=
  (ExitStatus.parse (if status = "halt" then "abort" else status)).isSome

/-- How `close_run_if_open` ends: with nothing to close, in the panic, or with the RunStop out. -/
inductive Closing (env : Env) (key : RunKey) (status : String) (before : RunEngine) :
    Except BsrsError Unit → RunEngine → Prop
  | absent (closed : before.state.run key = none) :
      Closing env key status before (.ok ()) { before with nextUid := before.nextUid + 1 }
  | lost (slot) (open_ : before.state.run key = some slot) (illegal : isStopStatus status = false) :
      Closing env key status before (.error .panicked)
        (RunEngine.dropRun { before with nextUid := before.nextUid + 1 } key)
  | stopped (slot exit reason stop) (open_ : before.state.run key = some slot)
      (legal : isStopStatus status = true)
      (stops : slot.bundler.bundle.stop before.nextUid exit reason = some stop) :
      Closing env key status before (.ok ()) (await env
        (((RunEngine.dropRun { before with nextUid := before.nextUid + 1 } key).record
          (.closed key stop)).record (.broadcast (.stop stop)))).2

theorem closeRunIfOpen_closing (env : Env) (key : RunKey) (status : String)
    (reason : Option String) (before : RunEngine) :
    Closing env key status before (closeRunIfOpen env key status reason before).1
      (closeRunIfOpen env key status reason before).2 := by
  have judged : isStopStatus status =
      (ExitStatus.parse (if status = "halt" then "abort" else status)).isSome := rfl
  unfold closeRunIfOpen mint
  generalize (if status = "halt" then "abort" else status) = exit at judged
  rw [advance_bind, ask_bind]
  dsimp only
  cases found : before.state.run key with
  | none =>
      have missing : before.state.bundler key = none := by
        simp [EngineState.bundler, found]
      rw [missing]
      exact .absent found
  | some slot =>
      have open_ : before.state.bundler key = some slot.bundler := by
        simp [EngineState.bundler, found]
      rw [open_]
      dsimp only
      cases stops : slot.bundler.bundle.stop before.nextUid exit reason with
      | none =>
          refine .lost slot found ?_
          rw [judged, ← Option.isSome_map]
          exact congrArg Option.isSome stops
      | some stop =>
          refine .stopped slot exit reason stop found ?_ stops
          rw [judged, ← Option.isSome_map]
          exact congrArg Option.isSome stops

theorem handleCloseRun_effects (own : scope.own key) (mayClose : scope.may .closes) (env : Env)
    (exitStatus : String) (reason : Option String) :
    Keeps (Effects scope (.closeRun exitStatus reason)) (handleCloseRun env key exitStatus reason) := by
  refine Keeps.bind (Keeps.ask _) fun isOpen => ?_
  split
  · exact Keeps.bind (closeRunIfOpen_effects own mayClose env _ _ _ _) fun _ =>
      setMsgResult_effects _
  · exact reject_effects _

/-! ## Bundles -/

theorem drainAssets_effects (env : Env) (objs : List Obj) (descriptor : Option Uid) :
    Keeps (Effects scope msg) (drainAssets env objs descriptor) := by
  cases descriptor with
  | none => exact Keeps.pure _
  | some uid =>
      exact Keeps.bind
        (Keeps.gather fun _ _ => Keeps.bind (await_effects env) fun _ => Keeps.lift _)
        fun _ => Keeps.pure _

/-- The documents a saved bundle composes are its Event and, before it, a Descriptor. -/
def Bundled (docs : List Document) : Prop :=
  docs = [] ∨ (∃ event, docs = [.event event]) ∨
    ∃ descriptor event, docs = [.descriptor descriptor, .event event]

theorem emitSaved_effects (own : scope.own key) (drains : scope.may .drains)
    (sends : scope.may .sends) (describes : Describes msg) (env : Env) (stream : String) {docs : List Document}
    (bundled : Bundled docs) (assets : List Document) :
    Keeps (Effects scope msg) (emitSaved env key stream docs assets) := by
  have delivered : Keeps (Effects scope msg) (each (deliver env key stream) assets) :=
    Keeps.each fun _ _ => deliver_effects own drains env _ _
  have sent : ∀ event, Keeps (Effects scope msg) (do
      emit env key stream .bundle event
      pure () : EngineAction Unit) := fun event =>
    Keeps.bind (emit_effects own sends describes env stream event) fun _ => Keeps.pure _
  rcases bundled with rfl | ⟨event, rfl⟩ | ⟨descriptor, event, rfl⟩
  · exact Keeps.bind (Keeps.pure _) fun _ => Keeps.bind delivered fun _ => Keeps.pure _
  · exact Keeps.bind (Keeps.pure _) fun _ => Keeps.bind delivered fun _ => sent event
  · have announced : Keeps (Effects scope msg) (do
        broadcast env (.descriptor descriptor)
        pure () : EngineAction Unit) :=
      Keeps.bind (broadcast_effects env describes) fun _ => Keeps.pure _
    exact Keeps.bind announced fun _ => Keeps.bind delivered fun _ => sent event

theorem packSaved_effects (own : scope.own key) (drains : scope.may .drains) (stream : String)
    (docs assets : List Document) :
    Keeps (Effects scope msg) (packSaved key stream docs assets) := by
  unfold packSaved
  split
  · exact Keeps.pure _
  · split
    · exact reject_effects _
    · exact Keeps.bind (packInto_effects own drains _ _ _ _) fun _ => Keeps.pure _

theorem takeSaved_effects (own : scope.own key) (slot : RunSlot)
    (outcome : Except PlanError (List Document)) :
    Keeps (Effects scope msg) (takeSaved key slot outcome) := by
  cases outcome with
  | error error => exact reject_effects _
  | ok docs => exact Keeps.bind (slot_effects own fun slot => .assets slot []) fun _ => Keeps.pure _

theorem composeSave_effects (own : scope.own key) :
    Keeps (Effects scope .save) (composeSave key) := by
  refine Keeps.bind mint_effects fun descriptorUid => Keeps.bind mint_effects fun eventUid =>
    Keeps.ask_bind fun engine => ?_
  cases found : engine.state.run key with
  | none => exact reject_effects _ engine
  | some slot =>
      have saved : Effects scope .save engine (engine.countWith key slot.bundler.openStreamName
          fun bundler => (bundler.save descriptorUid eventUid).2) := by
        refine .single (.count engine key _ _ own fun bundler held => ?_)
        have same : slot.bundler = bundler := by
          simpa [EngineState.bundler, found] using held
        subst same
        exact .save slot.bundler descriptorUid eventUid rfl
      exact saved.trans (takeSaved_effects own slot _ _)

theorem composeSave_bundled {saved : SavedBundle} {engine reached : RunEngine}
    (composed : composeSave key engine = (.ok saved, reached)) : Bundled saved.docs := by
  unfold composeSave at composed
  obtain ⟨descriptorUid, minted, -, composed⟩ := bind_cases composed
  obtain ⟨eventUid, again, -, composed⟩ := bind_cases composed
  rw [ask_bind] at composed
  cases found : again.state.run key with
  | none =>
      rw [found] at composed
      cases composed
  | some slot =>
      rw [found] at composed
      dsimp only at composed
      rw [modify_bind] at composed
      cases made : (slot.bundler.save descriptorUid eventUid).1 with
      | error error =>
          rw [made] at composed
          cases composed
      | ok docs =>
          rw [made] at composed
          cases composed
          exact RunBundler.save_docs made

theorem savedAssets_effects (own : scope.own key) (drains : scope.may .drains) (env : Env)
    (stream : String) (saved : SavedBundle) :
    Keeps (Effects scope msg) (savedAssets env key stream saved) :=
  Keeps.bind (Keeps.ask _) fun _ => Keeps.bind (drainAssets_effects env _ _) fun _ =>
    packSaved_effects own drains _ _ _

theorem handleSave_effects (own : scope.own key) (drains : scope.may .drains)
    (sends : scope.may .sends) (env : Env) :
    Keeps (Effects scope .save) (handleSave env key) := by
  have describes : Describes .save := trivial
  refine Keeps.bind_of (composeSave_effects own) fun saved engine reached composed => ?_
  cases saved.stream with
  | none => exact Keeps.pure _ reached
  | some stream =>
      have sent : Keeps (Effects scope .save) (do
          let assets ← savedAssets env key stream saved
          emitSaved env key stream saved.docs assets : EngineAction Unit) :=
        Keeps.bind (savedAssets_effects own drains env stream saved) fun _ =>
          emitSaved_effects own drains sends describes env _ (composeSave_bundled composed) _
      exact sent reached

/-- A message that reshapes the open bundle, when it is a message that may. -/
theorem reshapeBundle_effects (own : scope.own key) (shapes : Shapes msg) (missing : PlanError)
    {operation : RunBundler → Except PlanError RunBundler}
    (reshapes : ∀ bundler updated, operation bundler = .ok updated →
      ∃ openBundle, updated = { bundler with openBundle }) :
    Keeps (Effects scope msg) (reshapeBundle key missing operation) := by
  refine Keeps.ask_bind fun engine => ?_
  cases found : engine.state.bundler key with
  | none => exact reject_effects _ engine
  | some bundler =>
      dsimp only
      cases result : operation bundler with
      | error error => exact reject_effects _ engine
      | ok updated =>
          obtain ⟨openBundle, rfl⟩ := reshapes bundler updated result
          refine .single (.slot engine key _ own fun slot held => ?_)
          have same : slot.bundler = bundler := by
            simpa [EngineState.bundler, held] using found
          subst same
          exact .reshape slot openBundle [] shapes

theorem handleCreate_effects (own : scope.own key) (streamName : String) :
    Keeps (Effects scope (.create streamName)) (handleCreate key streamName) := by
  have shapes : Shapes (.create streamName) := trivial
  refine reshapeBundle_effects own shapes _ fun bundler updated created => ?_
  unfold RunBundler.create at created
  split at created
  · cases created
  · cases created
    exact ⟨_, rfl⟩

theorem handleDrop_effects (own : scope.own key) :
    Keeps (Effects scope .drop) (handleDrop key) := by
  have shapes : Shapes .drop := trivial
  refine reshapeBundle_effects own shapes _ fun bundler updated dropped => ?_
  unfold RunBundler.dropBundle at dropped
  split at dropped
  · cases dropped
  · cases dropped
    exact ⟨none, rfl⟩

theorem bundleRead_effects (own : scope.own key) (configures : scope.may .configures) (env : Env)
    (obj : Obj) (readings : Table String ReadingValue) :
    Keeps (Effects scope (.read obj)) (bundleRead env key obj readings) := by
  refine Keeps.bind (await_effects env) fun _ => Keeps.bind (Keeps.lift _) fun dataKeys =>
    Keeps.bind (streamObject_effects own configures env obj dataKeys) fun readObj =>
      Keeps.ask_bind fun engine => ?_
  cases found : engine.state.bundler key with
  | none => exact Keeps.pure _ engine
  | some bundler =>
      dsimp only
      cases result : bundler.addRead readObj readings with
      | error error => exact reject_effects _ engine
      | ok updated =>
          refine .single (.slot engine key _ own fun slot held => ?_)
          have same : slot.bundler = bundler := by
            simpa [EngineState.bundler, held] using found
          subst same
          unfold RunBundler.addRead at result
          split at result
          · cases result
          · split at result
            · cases result
            · cases result
              exact .reshape slot _ _ trivial

theorem handleRead_effects (own : scope.own key) (configures : scope.may .configures) (env : Env)
    (obj : Obj) :
    Keeps (Effects scope (.read obj)) (handleRead env key obj) := by
  refine Keeps.bind (await_effects env) fun _ => Keeps.bind (Keeps.lift _) fun readings =>
    Keeps.bind (Keeps.ask _) fun bundling => ?_
  split
  · exact Keeps.bind (bundleRead_effects own configures env obj readings) fun _ => setMsgResult_effects _
  · exact setMsgResult_effects _

theorem handleDeclareStream_effects (own : scope.own key) (configures : scope.may .configures)
    (declares : scope.may .declares) (env : Env) (streamName : String) (objs : StreamObjs) :
    Keeps (Effects scope (.declareStream streamName objs))
      (handleDeclareStream env key streamName objs) := by
  have describes : Describes (.declareStream streamName objs) := trivial
  refine Keeps.bind (Keeps.ask _) fun isOpen => ?_
  split
  · exact Keeps.bind (describeStreamObjs_effects own configures env _ _) fun _ =>
      Keeps.bind (bundler_effects own fun slot => .streams slot _ declares) fun _ =>
        Keeps.bind (declareInto_effects own describes _ _ _) fun _ =>
          broadcast_effects env describes
  · exact reject_effects _

theorem handleConfigure_effects (own : scope.own key) (configures : scope.may .configures)
    (env : Env) (obj : Obj) (args : Value) :
    Keeps (Effects scope (.configure obj args)) (handleConfigure env key obj args) := by
  have describes : Describes (.configure obj args) := trivial
  refine Keeps.bind (Keeps.ask _) fun bundling => ?_
  split
  · exact reject_effects _
  · refine Keeps.bind (call_effects env _) fun _ => Keeps.bind (Keeps.ask _) fun isOpen => ?_
    split
    · refine Keeps.bind (readObjectConfiguration_effects configures env obj) fun config =>
        Keeps.bind (Keeps.ask _) fun found => ?_
      cases found with
      | none => exact Keeps.pure _
      | some bundler =>
          refine Keeps.bind (bundler_effects own fun slot => .configuration slot _ configures)
            fun _ => Keeps.bind (Keeps.ask _) fun firstUid => ?_
          exact Keeps.bind (Keeps.modify fun engine => .single (.mint engine _)) fun _ =>
            Keeps.bind (Keeps.each fun _ _ => broadcast_effects env describes) fun _ =>
              bundler_effects own fun slot => .install slot _ ⟨obj, args, rfl⟩
    · exact Keeps.pure _

/-! ## Flyers -/

theorem declareCollected_effects (own : scope.own key) (configures : scope.may .configures)
    (describes : Describes msg) (env : Env) (obj : Obj) :
    Keeps (Effects scope msg) (declareCollected env key obj) := by
  refine Keeps.bind (await_effects env) fun _ => Keeps.bind (Keeps.lift _) fun described =>
    Keeps.bind (ensureObjectConfiguration_effects own configures env obj) fun _ =>
      Keeps.bind (Keeps.ask _) fun isOpen => ?_
  split
  · exact Keeps.bind (Keeps.ask _) fun _ =>
      Keeps.bind (Keeps.gather fun _ _ => declareInto_effects own describes _ _ _) fun _ =>
        Keeps.bind (Keeps.each fun _ _ => broadcast_effects env describes) fun _ => Keeps.pure _
  · exact reject_effects _

theorem collectAssets_effects (own : scope.own key) (drains : scope.may .drains) (env : Env)
    (obj : Obj) (stream : String) (uid : Uid) :
    Keeps (Effects scope msg) (collectAssets env key obj stream uid) := by
  refine Keeps.bind (await_effects env) fun _ => Keeps.bind (Keeps.lift _) fun docs => ?_
  split
  · exact Keeps.pure _
  · refine Keeps.bind (Keeps.ask _) fun found => ?_
    cases found with
    | none => exact reject_effects _
    | some bundler =>
        dsimp only
        split
        · exact reject_effects _
        · refine Keeps.bind (packInto_effects own drains _ _ _ _) fun packed => ?_
          split
          · exact Keeps.bind (count_effects own fun bundler => .advance bundler stream _) fun _ =>
              Keeps.each fun _ _ => deliver_effects own drains env _ _
          · exact Keeps.each fun _ _ => deliver_effects own drains env _ _

theorem collectEvent_effects (own : scope.own key) (sends : scope.may .sends)
    (describes : Describes msg) (env : Env) (declared : Option String)
    (item : String × Table String Value × Table String Value) :
    Keeps (Effects scope msg) (collectEvent env key declared item) := by
  refine Keeps.bind mint_effects fun uid => Keeps.bind (Keeps.ask _) fun found => ?_
  cases found with
  | none => exact reject_effects _
  | some bundler =>
      refine Keeps.bind (count_effects own fun bundler => .compose bundler uid _ _ _) fun _ => ?_
      split
      · exact reject_effects _
      · exact emit_effects own sends describes env _ _

theorem drainCollected_effects (own : scope.own key) (drains : scope.may .drains) (env : Env)
    (obj : Obj) (stream : Option String) :
    Keeps (Effects scope msg) (drainCollected env key obj stream) := by
  refine Keeps.bind (Keeps.ask _) fun found => ?_
  cases found with
  | none => exact reject_effects _
  | some bundler =>
      dsimp only
      split
      · exact collectAssets_effects own drains env obj _ _
      · exact Keeps.pure _

theorem collectObject_effects (own : scope.own key) (configures : scope.may .configures)
    (drains : scope.may .drains) (collects : scope.may .collects) (sends : scope.may .sends)
    (describes : Describes msg) (env : Env) (obj : Obj) (streamName : Option String) :
    Keeps (Effects scope msg) (collectObject env key obj streamName) := by
  refine Keeps.bind (record_effects ⟨own, collects⟩) fun _ =>
    Keeps.bind (Keeps.ask _) fun found => ?_
  cases found with
  | none => exact reject_effects _
  | some bundler =>
      refine Keeps.bind (Keeps.lift _) fun declared => ?_
      have stream : Keeps (Effects scope msg) (collectStream env key obj declared) := by
        cases declared with
        | none => exact declareCollected_effects own configures describes env obj
        | some stream => exact Keeps.pure _
      exact Keeps.bind stream fun _ =>
        Keeps.bind (drainCollected_effects own drains env obj _) fun _ =>
          Keeps.bind (await_effects env) fun _ => Keeps.bind (Keeps.lift _) fun _ =>
            Keeps.bind (Keeps.each fun _ _ => collectEvent_effects own sends describes env _ _)
              fun _ =>
              slot_effects own fun slot => .flyers slot _ (.inr collects)

/-- The flyers still to be collected, run by run. -/
def RunEngine.owedFlyers (engine : RunEngine) : List (RunKey × Obj) :=
  engine.state.runs.pairs.flatMap fun entry =>
    entry.2.uncollected.values.map fun obj => (entry.1, obj)

/-- The engine's own collections send Events out as a message of the plan would. -/
theorem backstopCollect_effects (describes : Describes msg) (env : Env) :
    Keeps (Effects .all msg) (backstopCollect env) :=
  Keeps.bind (Keeps.ask _) fun _ => Keeps.each fun _ _ =>
    Keeps.bind (Keeps.attempt
      (collectObject_effects trivial trivial trivial trivial trivial describes env _ _)) fun _ =>
        Keeps.pure _

/-! ## Monitors -/

theorem startMonitor_effects (own : scope.own key) (configures : scope.may .configures)
    (describes : Describes msg) (env : Env) (stream : String) (obj : Obj) :
    Keeps (Effects scope msg) (startMonitor env key stream obj) := by
  refine Keeps.bind (await_effects env) fun _ => Keeps.bind (Keeps.lift _) fun dataKeys =>
    Keeps.bind (streamObject_effects own configures env obj _) fun monitored =>
      Keeps.bind (Keeps.ask _) fun found => ?_
  cases found with
  | none => exact reject_effects _
  | some bundler =>
      have subscribed : Keeps (Effects scope msg) (do
          let tick ← await env
          let eventKey ← lift (env.subscribe tick obj)
          if (dataKeys.lookup eventKey).isNone then
            reject (.monitorKeyUndeclared obj.name eventKey)
          else
            Action.modify fun engine => engine.withSlot key fun slot =>
              slot.insertTask obj.name { stream, key := eventKey } :
          EngineAction Unit) := by
        refine Keeps.bind (await_effects env) fun _ => Keeps.bind (Keeps.lift _) fun eventKey => ?_
        split
        · exact reject_effects _
        · exact slot_effects own fun slot => .task slot _ _ describes
      dsimp only
      split
      · exact Keeps.bind (declareInto_effects own describes _ _ _) fun _ =>
          Keeps.bind (broadcast_effects env describes) fun _ => subscribed
      · exact subscribed

/-- The pause gate works for every run, and on what a monitor needs. -/
def Scope.gate : Scope where
  own _ := True
  may power := power = .configures

theorem restoreMonitors_effects (describes : Describes msg) (env : Env) :
    Keeps (Effects .gate msg) (restoreMonitors env) :=
  Keeps.bind (Keeps.ask _) fun _ => Keeps.each fun _ _ =>
    Keeps.bind (Keeps.attempt (startMonitor_effects trivial rfl describes env _ _)) fun _ =>
      Keeps.pure _

/-- A commit point that keeps the rewindable flag. -/
theorem reset_effects (commits : ∀ flag, Restarts msg flag flag) :
    Keeps (Effects scope msg) (Action.modify RunEngine.resetCheckpointState : EngineAction Unit) :=
  Keeps.modify fun engine => .single
    (.restart engine engine.state.rewindable (commits engine.state.rewindable))

theorem handleMonitor_effects (own : scope.own key) (configures : scope.may .configures)
    (env : Env) (obj : Obj) (name : Option String) :
    Keeps (Effects scope (.monitor obj name)) (handleMonitor env key obj name) := by
  have describes : Describes (.monitor obj name) := trivial
  refine Keeps.bind (Keeps.ask _) fun found => ?_
  cases found with
  | none => exact reject_effects _
  | some slot =>
      dsimp only
      split
      · exact reject_effects _
      · exact Keeps.bind (await_effects env) fun _ =>
          Keeps.bind (startMonitor_effects own configures describes env _ obj) fun _ =>
            Keeps.bind (slot_effects own fun slot => .monitors slot _) fun _ =>
              reset_effects fun _ => rfl

theorem handleUnmonitor_effects (own : scope.own key) (env : Env) (obj : Obj) :
    Keeps (Effects scope (.unmonitor obj)) (handleUnmonitor env key obj) := by
  refine Keeps.bind (Keeps.ask _) fun found => ?_
  cases found with
  | none => exact reject_effects _
  | some slot =>
      dsimp only
      split
      · exact reject_effects _
      · exact Keeps.bind (slot_effects own fun slot => .monitors slot _) fun _ =>
          Keeps.bind (reset_effects fun _ => rfl) fun _ => Keeps.bind (await_effects env) fun _ =>
            slot_effects own fun slot => .untask slot _

/-! ## Statuses -/

private theorem registries_effects {update : EngineState → EngineState}
    (same : ∀ state, update state =
      { state with
        groups := (update state).groups
        staged := (update state).staged
        movableObjsTouched := (update state).movableObjsTouched
        flyableObjsTouched := (update state).flyableObjsTouched
        pausables := (update state).pausables
        tempSubscribers := (update state).tempSubscribers
        suspenders := (update state).suspenders }) :
    Keeps (Effects scope msg) (Action.modify fun engine => engine.withState update : EngineAction Unit) := by
  refine Keeps.modify fun engine => ?_
  have shaped : engine.withState update = engine.withState fun state =>
      { state with
        groups := (update engine.state).groups
        staged := (update engine.state).staged
        movableObjsTouched := (update engine.state).movableObjsTouched
        flyableObjsTouched := (update engine.state).flyableObjsTouched
        pausables := (update engine.state).pausables
        tempSubscribers := (update engine.state).tempSubscribers
        suspenders := (update engine.state).suspenders } := by
    unfold RunEngine.withState
    rw [same engine.state]
  rw [shaped]
  exact .single (.registries engine _ _ _ _ _ _ _)

theorem handleStatus_effects (env : Env) (status : Status) (group : Option GroupId) :
    Keeps (Effects scope msg) (handleStatus env status group) := by
  cases group with
  | some name => exact registries_effects fun state => rfl
  | none =>
      refine Keeps.bind (park_effects env) fun outcome => ?_
      cases outcome with
      | unparked => exact Keeps.fail _
      | statusFailed error => exact Keeps.fail _
      | failed error => exact Keeps.pure _
      | elapsed => exact Keeps.pure _
      | resolved => exact Keeps.pure _

theorem handleIssue_effects (env : Env) (request : Call) (group : Option GroupId) :
    Keeps (Effects scope msg) (handleIssue env request group) := by
  refine Keeps.bind (issue_effects env request) fun status => ?_
  cases group with
  | some name =>
      exact Keeps.bind (setMsgResult_effects _) fun _ => handleStatus_effects env status _
  | none => exact handleStatus_effects env status _

theorem waitGroup_effects (env : Env) (group : GroupId) (errorOnTimeout : Bool)
    (timeout : Option String) :
    Keeps (Effects scope msg) (waitGroup env group errorOnTimeout timeout) := by
  refine Keeps.bind (Keeps.ask _) fun members =>
    Keeps.bind (registries_effects fun state => rfl) fun _ =>
      Keeps.bind (record_effects trivial) fun _ => ?_
  split
  · exact Keeps.pure _
  · refine Keeps.bind (park_effects env) fun outcome => ?_
    split
    · exact Keeps.fail _
    · exact Keeps.fail _
    · split
      · exact Keeps.fail _
      · exact Keeps.bind (registries_effects fun state => rfl) fun _ => Keeps.pure _
    all_goals exact Keeps.pure _

/-! ## The handler -/

theorem handleKickoff_effects (own : scope.own key) (flies : scope.may .flies) (env : Env)
    (obj : Obj) (group : Option GroupId) :
    Keeps (Effects scope msg) (handleKickoff env key obj group) := by
  refine Keeps.bind (Keeps.ask _) fun isOpen => ?_
  split
  · refine Keeps.bind (registries_effects fun state => rfl) fun _ => ?_
    split
    · exact Keeps.bind (slot_effects own fun slot => .flyers slot _ (.inl flies)) fun _ =>
        Keeps.bind (record_effects ⟨own, flies⟩) fun _ => handleIssue_effects env _ _
    · exact handleIssue_effects env _ _
  · exact reject_effects _

theorem handleCheckpoint_effects : Keeps (Effects scope .checkpoint) handleCheckpoint := by
  refine Keeps.bind (Keeps.ask _) fun bundling => ?_
  split
  · exact reject_effects _
  · refine Keeps.bind (Keeps.modify fun engine => .single (.restart engine true rfl)) fun _ =>
      Keeps.bind (Keeps.ask _) fun deferred => ?_
    split
    · exact Keeps.modify fun engine => .single (.due engine rfl)
    · exact Keeps.pure _

theorem handleRewindable_effects (on : Bool) :
    Keeps (Effects scope (.rewindable on)) (handleRewindable on) := by
  refine Keeps.modify fun engine => ?_
  split
  · exact .refl
  · rename_i differs
    exact .single (.restart engine on ⟨rfl, differs⟩)

theorem handleSleep_effects (env : Env) : Keeps (Effects scope msg) (handleSleep env) := by
  refine Keeps.bind (park_effects env) fun outcome => ?_
  split
  · exact Keeps.fail _
  · exact Keeps.pure _

theorem handleWaitFor_effects (env : Env) (timeout : Option String) :
    Keeps (Effects scope msg) (handleWaitFor env timeout) := by
  refine Keeps.bind (park_effects env) fun outcome => ?_
  split
  · exact Keeps.fail _
  · exact Keeps.fail _
  · exact Keeps.fail _
  · exact Keeps.pure _

theorem handleStage_effects (env : Env) (obj : Obj) :
    Keeps (Effects scope (.stage obj)) (handleStage env obj) :=
  Keeps.bind (call_effects env _) fun _ => Keeps.bind (registries_effects fun _ => rfl) fun _ =>
    reset_effects fun _ => rfl

theorem handleUnstage_effects (env : Env) (obj : Obj) :
    Keeps (Effects scope (.unstage obj)) (handleUnstage env obj) :=
  Keeps.bind (call_effects env _) fun _ => Keeps.bind (registries_effects fun _ => rfl) fun _ =>
    reset_effects fun _ => rfl

theorem handleLocate_effects (env : Env) (obj : Obj) :
    Keeps (Effects scope msg) (handleLocate env obj) :=
  Keeps.bind (await_effects env) fun _ => Keeps.bind (Keeps.lift _) fun _ =>
    setMsgResult_effects _

theorem handleInput_effects (env : Env) (prompt : String) :
    Keeps (Effects scope msg) (handleInput env prompt) := by
  refine Keeps.bind (await_effects env) fun tick => ?_
  split
  · exact reject_effects _
  · exact Keeps.bind (Keeps.lift _) fun _ => setMsgResult_effects _

theorem handleCustom_effects (env : Env) (name : String) (payload : Value) :
    Keeps (Effects scope msg) (handleCustom env name payload) := by
  refine Keeps.bind (await_effects env) fun tick => ?_
  split
  · exact reject_effects _
  · exact Keeps.lift _

theorem handleSubscribe_effects (env : Env) (callback : Nat) :
    Keeps (Effects scope (.subscribe callback)) (handleSubscribe env) :=
  Keeps.bind (await_effects env) fun _ => Keeps.bind (registries_effects fun _ => rfl) fun _ =>
    Keeps.bind (reset_effects fun _ => rfl) fun _ => setMsgResult_effects _

theorem handleUnsubscribe_effects (id : SubscriptionId) :
    Keeps (Effects scope (.unsubscribe id)) (handleUnsubscribe id) :=
  Keeps.bind (registries_effects fun _ => rfl) fun _ => reset_effects fun _ => rfl

/-- Everything handling a message can do to the engine. -/
theorem handleRouted_effects (env : Env) (key : RunKey) (msg : Msg) :
    Keeps (Effects (.of key msg) msg) (handleRouted env key msg) := by
  have unit : ∀ {body : EngineAction Unit}, Keeps (Effects (.of key msg) msg) body →
      Keeps (Effects (.of key msg) msg) (do body; pure none : EngineAction (Option Uid)) :=
    fun keeps => Keeps.bind keeps fun _ => Keeps.pure _
  cases msg with
  | openRun metadata =>
      exact Keeps.bind (openRun_effects rfl rfl env metadata) fun _ =>
        Keeps.bind (setMsgResult_effects _) fun _ => Keeps.pure _
  | closeRun exitStatus reason => exact unit (handleCloseRun_effects rfl rfl env exitStatus reason)
  | inRun run inner => exact unit (reject_effects _)
  | create streamName => exact unit (handleCreate_effects rfl streamName)
  | save =>
      have drains : powers .save .drains := .inl rfl
      have sends : powers .save .sends := .inr rfl
      exact unit (handleSave_effects rfl drains sends env)
  | drop => exact unit (handleDrop_effects rfl)
  | declareStream streamName objs =>
      have configures : powers (.declareStream streamName objs) .configures := .inl rfl
      have declares : powers (.declareStream streamName objs) .declares := .inr rfl
      exact unit (handleDeclareStream_effects rfl configures declares env streamName objs)
  | read obj => exact unit (handleRead_effects rfl rfl env obj)
  | set obj value group =>
      exact Keeps.bind (registries_effects fun _ => rfl) fun _ =>
        Keeps.bind (handleIssue_effects env _ _) fun _ => Keeps.pure _
  | trigger obj group => exact unit (handleIssue_effects env _ _)
  | stage obj => exact unit (handleStage_effects env obj)
  | unstage obj => exact unit (handleUnstage_effects env obj)
  | stop obj success => exact unit (call_effects env _)
  | kickoff obj group => exact unit (handleKickoff_effects rfl rfl env obj group)
  | complete obj group => exact unit (handleIssue_effects env _ _)
  | collect obj streamName =>
      have describes : Describes (.collect obj streamName) := trivial
      have configures : powers (.collect obj streamName) .configures := .inl rfl
      have drains : powers (.collect obj streamName) .drains := .inr (.inl rfl)
      have collects : powers (.collect obj streamName) .collects := .inr (.inr (.inl rfl))
      have sends : powers (.collect obj streamName) .sends := .inr (.inr (.inr rfl))
      exact unit (collectObject_effects rfl configures drains collects sends describes env obj
        streamName)
  | locate obj => exact unit (handleLocate_effects env obj)
  | monitor obj name => exact unit (handleMonitor_effects rfl rfl env obj name)
  | unmonitor obj => exact unit (handleUnmonitor_effects rfl env obj)
  | wait group errorOnTimeout timeout =>
      exact Keeps.bind (waitGroup_effects env group errorOnTimeout timeout) fun _ =>
        Keeps.bind (setMsgResult_effects _) fun _ => Keeps.pure _
  | sleep duration => exact unit (handleSleep_effects env)
  | checkpoint => exact unit handleCheckpoint_effects
  | clearCheckpoint => exact unit (Keeps.modify fun engine => .single (.clear engine rfl))
  | pause defer =>
      refine unit (Keeps.modify fun engine => .single ?_)
      cases defer with
      | true => exact .request engine .deferPause rfl
      | false => exact .request engine .pause rfl
  | configure obj args => exact unit (handleConfigure_effects rfl rfl env obj args)
  | prepare obj value group => exact unit (handleIssue_effects env _ _)
  | waitFor factories timeout => exact unit (handleWaitFor_effects env timeout)
  | registerPausable obj => exact unit (registries_effects fun _ => rfl)
  | unregisterPausable obj => exact unit (registries_effects fun _ => rfl)
  | input prompt => exact unit (handleInput_effects env prompt)
  | reClass => exact unit (setMsgResult_effects _)
  | subscribe callback => exact unit (handleSubscribe_effects env callback)
  | unsubscribe id => exact unit (handleUnsubscribe_effects id)
  | fail reason => exact unit (reject_effects _)
  | raise thrown => exact unit (reject_effects _)
  | resume => exact unit (Keeps.modify fun engine => .single (.request engine .resume rfl))
  | installSuspender id suspender =>
      cases suspender with
      | none => exact unit (reject_effects _)
      | some suspender => exact unit (registries_effects fun _ => rfl)
  | removeSuspender id => exact unit (registries_effects fun _ => rfl)
  | rewindable on => exact unit (handleRewindable_effects on)
  | custom name payload => exact unit (handleCustom_effects env name payload)
  | publish doc => exact unit (publish_effects env doc)
  | pushContingency sink =>
      exact unit (Keeps.modify fun engine => .single (.push engine sink rfl))
  | popContingency => exact unit (Keeps.modify fun engine => .single (.pop engine rfl))
  | null => exact unit (Keeps.pure ())

theorem handle_effects (env : Env) (msg : Msg) :
    Keeps (Effects (.of (route msg).1 (route msg).2) (route msg).2) (handle env msg) :=
  handleRouted_effects env _ _

/-! ## The pause gate's work -/

theorem notify_effects (env : Env) (request : Call) : Keeps (Effects scope msg) (notify env request) :=
  Keeps.bind (Keeps.attempt (call_effects env request)) fun _ => Keeps.pure _

theorem recordInterruption_effects (describes : Describes msg) (env : Env) (content : String) :
    Keeps (Effects .gate msg) (recordInterruption env content) := by
  refine Keeps.bind (Keeps.ask _) fun recording => ?_
  split
  · refine Keeps.bind (Keeps.ask _) fun keys => Keeps.each fun key _ => ?_
    exact Keeps.bind (Keeps.modify fun engine => .single
      (.interrupt engine content key (fun _ => trivial) describes)) fun _ =>
        Keeps.bind (await_effects env) fun _ => Keeps.pure _
  · exact Keeps.pure _

theorem onPauseEnter_effects (describes : Describes msg) (env : Env) (interruption : String) :
    Keeps (Effects .gate msg) (onPauseEnter env interruption) :=
  Keeps.bind (Keeps.modify fun engine => .single (.quiesce engine fun _ => trivial)) fun _ =>
    Keeps.bind (Keeps.ask _) fun _ => Keeps.bind (Keeps.each fun _ _ => notify_effects env _) fun _ =>
      Keeps.bind (Keeps.ask _) fun _ =>
        Keeps.bind (Keeps.each fun _ _ => notify_effects env _) fun _ =>
          Keeps.bind (Keeps.ask _) fun _ =>
            Keeps.bind (Keeps.each fun _ _ => notify_effects env _) fun _ =>
              recordInterruption_effects describes env _

/-- `on_resume` once the replay is armed. -/
def afterRearm (env : Env) : EngineAction Unit := do
  let pausables ← ask fun engine => engine.state.pausables.values
  each (fun obj => notify env (.resume obj)) pausables
  restoreMonitors env
  recordInterruption env "resume"

theorem onResume_eq (env : Env) (engine : RunEngine) :
    onResume env engine = afterRearm env engine.armReplay := rfl

theorem afterRearm_effects (describes : Describes msg) (env : Env) :
    Keeps (Effects .gate msg) (afterRearm env) :=
  Keeps.bind (Keeps.ask _) fun _ => Keeps.bind (Keeps.each fun _ _ => notify_effects env _) fun _ =>
    Keeps.bind (restoreMonitors_effects describes env) fun _ =>
      recordInterruption_effects describes env _

end Bsrs.Engine
