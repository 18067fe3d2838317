import Bsrs.Engine.Catalog

namespace Bsrs.Engine

open Bsrs.Library (Table Action Grows Always)
open Bsrs.Library.Action
open Bsrs.EventModel
open Bsrs.Core

variable {goals : Goals} {key : RunKey}

/-- The handler keeps the catalogue, however it ends. -/
abbrev Files (goals : Goals) (key : RunKey) (body : EngineAction α) : Prop :=
  Triple (fun engine => Catalogued goals [] engine ∧ AtHome goals key engine) body
    (fun _ engine => Catalogued goals [] engine ∧ AtHome goals key engine)
    (fun _ => Catalogued goals [])

theorem files_of_tame {body : EngineAction α} (tame : Keeps Tame body) :
    Files goals key body :=
  tame_triple tame fun _ _ moved home => home.kept moved.kept

theorem files_ask {view : RunEngine → α} {next : α → EngineAction β}
    (files : ∀ value, Files goals key (next value)) : Files goals key (ask view >>= next) :=
  Triple.ask_bind fun value =>
    (files value).weaken (fun _ held => held.1) (fun _ _ => id) fun _ _ => id

/-- What a computation that files makes of one engine. -/
theorem Files.after {body : EngineAction α} (files : Files goals key body) {engine : RunEngine}
    (held : Catalogued goals [] engine) (home : AtHome goals key engine) :
    Catalogued goals [] (body engine).2 := by
  have ended := files engine ⟨held, home⟩
  rcases ran : body engine with ⟨outcome, reached⟩
  rw [ran] at ended
  cases outcome with
  | ok value => exact ended.1
  | error failure => exact ended

/-! ## Declaring streams -/

theorem announce_files (env : Env) (descriptor : EventDescriptor) :
    Triple (fun engine => Catalogued goals [descriptor] engine ∧ AtHome goals key engine)
      (broadcast env (.descriptor descriptor))
      (fun _ engine => Catalogued goals [] engine ∧ AtHome goals key engine)
      (fun _ => Catalogued goals []) :=
  (announce_catalogued env descriptor fun _ _ kept _ home => home.kept kept).weaken
    (fun _ held => held) (fun _ _ held => ⟨held.1, held.2.1⟩) fun _ _ held => held

theorem describeStreamObjs_tame (env : Env) (key : RunKey) (streamName : String)
    (objs : StreamObjs) : Keeps Tame (describeStreamObjs env key streamName objs) :=
  tame_body (describeStreamObjs_effects trivial trivial env streamName objs)

/-- One more Descriptor to broadcast. -/
theorem declareInto_files (missing : PlanError) (stream : String)
    (objs : List StreamObject) :
    Triple
      (fun engine => Catalogued goals [] engine ∧ AtHome goals key engine ∧
        (goals.once → Unsaid key stream [] engine))
      (declareInto key missing stream objs)
      (fun descriptor engine => Catalogued goals [descriptor] engine ∧ AtHome goals key engine)
      (fun _ => Catalogued goals []) :=
  (declareInto_catalogued key missing stream objs []).weaken
    (fun _ held => ⟨held.1, held.2.1, held.2.2, fun _ member => by cases member⟩)
    (fun _ _ held => ⟨held.1, held.2.1⟩) fun _ _ held => held

/-- A stream whose Descriptor is on the wire already is not to be declared again. -/
theorem handleDeclareStream_catalogued {env : Env} {streamName : String} {objs : StreamObjs}
    {engine : RunEngine} (held : Catalogued goals [] engine) (home : AtHome goals key engine)
    (afresh : goals.once → (describeStreamObjs env key streamName objs engine).1.isOk = true →
      Unsaid key streamName [] engine) :
    Catalogued goals [] (handleDeclareStream env key streamName objs engine).2 := by
  unfold handleDeclareStream
  rw [ask_bind]
  split
  · rw [bind_apply]
    have moved := describeStreamObjs_tame env key streamName objs engine
    rcases ran : describeStreamObjs env key streamName objs engine with ⟨outcome, reached⟩
    rw [ran] at moved afresh
    cases outcome with
    | error failure => exact moved.catalogued goals [] held
    | ok streamObjs =>
        have recorded : Keeps Tame (Action.modify fun engine => engine.withBundler key fun bundler =>
            bundler.recordDeclaredStream (streamObjs.filterMap StreamObject.object).toFinset
              streamName : EngineAction Unit) :=
          tame_body (bundler_effects trivial fun slot => .streams slot _ trivial)
        have whole : Triple
            (fun engine => Catalogued goals [] engine ∧ AtHome goals key engine ∧
              (goals.once → Unsaid key streamName [] engine))
            (do
              Action.modify fun engine => engine.withBundler key fun bundler =>
                bundler.recordDeclaredStream (streamObjs.filterMap StreamObject.object).toFinset
                  streamName
              let descriptor ← declareInto key .declareStreamNoOpenRun streamName streamObjs
              broadcast env (.descriptor descriptor) : EngineAction Unit)
            (fun _ => Catalogued goals []) (fun _ => Catalogued goals []) := by
          refine Triple.bind (tame_triple recorded fun _ _ tame both =>
            ⟨both.1.kept tame.kept, fun once => (both.2 once).kept tame⟩) fun _ => ?_
          refine Triple.bind (declareInto_files _ streamName streamObjs) fun descriptor => ?_
          exact (announce_files env descriptor).weaken (fun _ held => held)
            (fun _ _ held => held.1) fun _ _ held => held
        exact (Triple.to_keeps whole) reached ⟨moved.catalogued goals [] held, home.kept moved.kept,
          fun once => (afresh once rfl).kept moved⟩
  · exact held

/-! ## Monitors -/

/-- What starting a monitor does before the pump is there: the key of its subscription. -/
def subscribeMonitor (env : Env) (key : RunKey) (stream : String) (obj : Obj) :
    EngineAction String := do
  let tick ← await env
  let dataKeys ← lift (env.describe tick obj)
  let monitored ← streamObject env key obj dataKeys
  match ← ask fun engine => engine.state.bundler key with
  | none => reject .monitorStartNoOpenRun
  | some bundler =>
      if (bundler.descriptorUid stream).isNone then
        let descriptor ← declareInto key .monitorStartNoOpenRun stream [monitored]
        broadcast env (.descriptor descriptor)
      let tick ← await env
      let eventKey ← lift (env.subscribe tick obj)
      if (dataKeys.lookup eventKey).isNone then
        reject (.monitorKeyUndeclared obj.name eventKey)
      else
        pure eventKey

theorem startMonitor_eq (env : Env) (key : RunKey) (stream : String) (obj : Obj) :
    startMonitor env key stream obj = (do
      let eventKey ← subscribeMonitor env key stream obj
      Action.modify fun engine => engine.withSlot key fun slot =>
        slot.insertTask obj.name { stream, key := eventKey }) := by
  unfold startMonitor subscribeMonitor
  rw [bind_assoc]
  refine congrArg _ (funext fun tick => ?_)
  rw [bind_assoc]
  refine congrArg _ (funext fun dataKeys => ?_)
  rw [bind_assoc]
  refine congrArg _ (funext fun monitored => ?_)
  rw [bind_assoc]
  refine congrArg _ (funext fun found => ?_)
  let subscribed : EngineAction String := do
    let tick ← await env
    let eventKey ← lift (env.subscribe tick obj)
    if (dataKeys.lookup eventKey).isNone then
      reject (.monitorKeyUndeclared obj.name eventKey)
    else
      pure eventKey
  let fed (eventKey : String) : EngineAction Unit :=
    Action.modify fun engine => engine.withSlot key fun slot =>
      slot.insertTask obj.name { stream, key := eventKey }
  have feeding : (subscribed >>= fed) = (do
      let tick ← await env
      let eventKey ← lift (env.subscribe tick obj)
      if (dataKeys.lookup eventKey).isNone then
        reject (.monitorKeyUndeclared obj.name eventKey)
      else
        fed eventKey : EngineAction Unit) := by
    dsimp only [subscribed]
    rw [bind_assoc]
    refine congrArg _ (funext fun tick => ?_)
    rw [bind_assoc]
    refine congrArg _ (funext fun eventKey => ?_)
    split
    · rfl
    · rfl
  cases found with
  | none => rfl
  | some bundler =>
      dsimp only
      split
      · rw [bind_assoc]
        refine congrArg _ (funext fun descriptor => ?_)
        rw [bind_assoc]
        exact congrArg _ (funext fun _ => feeding.symm)
      · exact feeding.symm

private theorem subscribeMonitor_files (env : Env) (stream : String) (obj : Obj) :
    Files goals key (subscribeMonitor env key stream obj) := by
  refine Triple.bind (files_of_tame (tame_body (await_effects env))) fun tick =>
    Triple.bind (files_of_tame (tame_body (Keeps.lift _))) fun dataKeys =>
      Triple.bind (files_of_tame (tame_body (streamObject_effects trivial trivial env obj _)))
        fun monitored => Triple.ask_bind fun found => ?_
  have subscribed : Files goals key (do
      let tick ← await env
      let eventKey ← lift (env.subscribe tick obj)
      if (dataKeys.lookup eventKey).isNone then
        reject (.monitorKeyUndeclared obj.name eventKey)
      else
        pure eventKey) := by
    refine Triple.bind (files_of_tame (tame_body (await_effects env))) fun tick =>
      Triple.bind (files_of_tame (tame_body (Keeps.lift _))) fun eventKey => ?_
    split
    · exact Triple.fail _ fun _ held => held.1
    · exact Triple.pure _ fun _ held => held
  cases found with
  | none => exact Triple.fail _ fun _ held => held.1.1
  | some bundler =>
      dsimp only
      split
      · rename_i absent
        refine Triple.bind ((declareInto_files _ stream [monitored]).weaken ?_ (fun _ _ => id)
          fun _ _ => id) fun descriptor => Triple.bind (announce_files env descriptor) fun _ =>
            subscribed
        -- A stream the bundler's cache does not have is declared nowhere in the run.
        rintro engine ⟨⟨held, home⟩, found⟩
        refine ⟨held, home, fun _ => Undeclared.unsaid fun slot open_ => ?_⟩
        have same : slot.bundler = bundler := by
          simpa [EngineState.bundler, Option.mem_def.mp open_] using found
        have synced := (held.slots key slot open_).synced stream
        rw [same] at synced ⊢
        rw [Option.isNone_iff_eq_none.mp absent] at synced
        exact Option.map_eq_none_iff.mp synced.symm
      · exact subscribed.weaken (fun _ held => held.1) (fun _ _ => id) fun _ _ => id

/-- The stream a monitor's pump is about to feed has the subscription's key alone. -/
def startsAlone (env : Env) (key : RunKey) (stream : String) (obj : Obj) (engine : RunEngine) :
    Bool :=
  match subscribeMonitor env key stream obj engine with
  | (.error _, _) => true
  | (.ok eventKey, reached) =>
      ((reached.state.bundler key).bind (·.bundle.described stream)).any fun descriptor =>
        descriptor.dataKeys.keys = [eventKey]

/-- A pump starts on a stream that has its key alone. -/
private theorem Catalogued.fed {engine : RunEngine} {task : MonitorTask}
    (held : Catalogued goals [] engine) (object : String)
    (alone : goals.agree → ∀ slot ∈ engine.state.run key,
      ∃ descriptor ∈ slot.bundler.bundle.described task.stream,
        descriptor.dataKeys.keys = [task.key]) :
    Catalogued goals [] (engine.withSlot key fun slot => slot.insertTask object task) := by
  refine held.file (fun slot open_ => ?_) (fun _ _ => rfl)
    (fun slot open_ stream descriptor current => .inr (.inl ⟨key, slot, open_, stream, current⟩))
    fun agree => ?_
  · have filed := held.slots key slot open_
    exact ⟨filed.synced, filed.named, filed.owned⟩
  · refine (held.schema agree).withSlot (fun slot _ stream descriptor declared =>
      ⟨descriptor, declared, rfl⟩) fun slot open_ running started => ?_
    rcases RunSlot.mem_pumps_insertTask started with rfl | already
    · exact .inr (alone agree slot open_)
    · exact .inl already

theorem startMonitor_catalogued {env : Env} {stream : String} {obj : Obj} {engine : RunEngine}
    (held : Catalogued goals [] engine) (home : AtHome goals key engine)
    (alone : goals.agree → startsAlone env key stream obj engine = true) :
    Catalogued goals [] (startMonitor env key stream obj engine).2 ∧
      ((startMonitor env key stream obj engine).1.isOk = true →
        AtHome goals key (startMonitor env key stream obj engine).2) := by
  have ended := subscribeMonitor_files env stream obj engine ⟨held, home⟩
  unfold startsAlone at alone
  rw [startMonitor_eq, bind_apply]
  rcases ran : subscribeMonitor env key stream obj engine with ⟨outcome, reached⟩
  rw [ran] at ended alone
  cases outcome with
  | error failure => exact ⟨ended, nofun⟩
  | ok eventKey =>
      obtain ⟨filed, home⟩ := ended
      refine ⟨filed.fed obj.name fun agree slot open_ => ?_, fun _ slot open_ => ?_⟩
      · have found : reached.state.bundler key = some slot.bundler :=
          Option.map_eq_some_iff.mpr ⟨slot, open_, rfl⟩
        have keys := alone agree
        dsimp only at keys
        rw [found] at keys
        obtain ⟨descriptor, declared, same⟩ := (Option.any_eq_true ..).mp keys
        exact ⟨descriptor, declared, of_decide_eq_true same⟩
      · change slot ∈ (reached.withSlot key _).state.run key at open_
        rw [run_withSlot, if_pos rfl] at open_
        obtain ⟨earlier, was, rfl⟩ := Option.map_eq_some_iff.mp open_
        exact home earlier was

/-- The monitor a message starts, if it starts one. -/
def monitorsAlone (env : Env) (key : RunKey) (obj : Obj) (name : Option String)
    (engine : RunEngine) : Bool :=
  match await env engine with
  | (.ok tick, reached) => startsAlone env key (name.getD (env.monitorStreamName tick)) obj reached
  | (.error _, _) => true

theorem resetCheckpointState_tame :
    Keeps Tame (Action.modify RunEngine.resetCheckpointState : EngineAction Unit) := by
  have commits : Keeps (Effects .all (.unsubscribe 0))
      (Action.modify RunEngine.resetCheckpointState : EngineAction Unit) :=
    reset_effects fun _ => rfl
  exact tame_of_effects id commits

theorem handleMonitor_catalogued {env : Env} {obj : Obj} {name : Option String}
    {engine : RunEngine} (held : Catalogued goals [] engine) (home : AtHome goals key engine)
    (alone : goals.agree → monitorsAlone env key obj name engine = true) :
    Catalogued goals [] (handleMonitor env key obj name engine).2 := by
  unfold handleMonitor
  rw [ask_bind]
  cases engine.state.run key with
  | none => exact held
  | some slot =>
      dsimp only
      split
      · exact held
      · have waited : Keeps Tame (await env) := tame_body (await_effects env)
        have moved := waited engine
        unfold monitorsAlone at alone
        rw [bind_apply]
        rcases ran : await env engine with ⟨outcome, reached⟩
        rw [ran] at moved alone
        cases outcome with
        | error failure => exact moved.catalogued goals [] held
        | ok tick =>
            have started := startMonitor_catalogued (moved.catalogued goals [] held)
              (home.kept moved.kept) alone
            dsimp only
            rw [bind_apply]
            rcases went : startMonitor env key (name.getD (env.monitorStreamName tick)) obj reached
              with ⟨outcome, left⟩
            rw [went] at started
            cases outcome with
            | error failure => exact started.1
            | ok done =>
                have booked : ∀ spec : MonitorSpec, Files goals key (do
                    Action.modify fun engine => engine.withSlot key fun slot =>
                      { slot with monitored := slot.monitored.insert obj.name spec }
                    Action.modify RunEngine.resetCheckpointState : EngineAction Unit) := fun _ =>
                  Triple.bind (files_of_tame (tame_body
                    (slot_effects trivial fun slot => .monitors slot _))) fun _ =>
                      files_of_tame resetCheckpointState_tame
                exact (booked _).after started.1 (started.2 rfl)

/-- Every monitor about to be restored feeds a stream of its own key. -/
def restoresAlone (env : Env) : List (RunKey × MonitorSpec) → RunEngine → Bool
  | [], _ => true
  | entry :: rest, engine =>
      startsAlone env entry.1 entry.2.stream entry.2.obj engine &&
        restoresAlone env rest (startMonitor env entry.1 entry.2.stream entry.2.obj engine).2

/-- The monitors on record, run by run. -/
def RunEngine.monitorSpecs (engine : RunEngine) : List (RunKey × MonitorSpec) :=
  engine.state.runs.pairs.flatMap fun entry =>
    entry.2.monitored.values.map fun spec => (entry.1, spec)

theorem restoreMonitors_catalogued {env : Env} {engine : RunEngine}
    (held : Catalogued goals [] engine) (everywhere : ∀ start, goals.home start)
    (alone : goals.agree → restoresAlone env engine.monitorSpecs engine = true) :
    Catalogued goals [] (restoreMonitors env engine).2 := by
  have all : ∀ (specs : List (RunKey × MonitorSpec)) (engine : RunEngine),
      Catalogued goals [] engine → (goals.agree → restoresAlone env specs engine = true) →
      Catalogued goals [] (Action.each (fun entry => do
        let _ ← attempt (startMonitor env entry.1 entry.2.stream entry.2.obj)) specs engine).2 := by
    intro specs
    induction specs with
    | nil => exact fun _ held _ => held
    | cons entry rest ih =>
        intro engine held alone
        have both := fun agree => (Bool.and_eq_true _ _).mp (alone agree)
        have home : AtHome goals entry.1 engine := fun _ _ => everywhere _
        have started := startMonitor_catalogued held home fun agree => (both agree).1
        exact ih _ started.1 fun agree => (both agree).2
  exact all engine.monitorSpecs engine held alone

/-! ## Configuring -/

theorem spare_unannounced {pending : List EventDescriptor} {engine : RunEngine}
    {descriptor : EventDescriptor} (spare : Spare descriptor.uid pending engine) :
    announced descriptor.runStart descriptor.uid engine.log = false := by
  refine Bool.eq_false_iff.mpr fun heard => ?_
  obtain ⟨other, member, -, same⟩ := announced_iff.mp heard
  exact spare.unused other (.inr (.inr member)) same

/-- Several Descriptors of new uids are on their way. -/
private theorem Catalogued.pendAll {engine : RunEngine} (held : Catalogued goals [] engine)
    {descriptors : List EventDescriptor}
    (spare : ∀ descriptor ∈ descriptors, Spare descriptor.uid [] engine)
    (distinct : (descriptors.map EventDescriptor.uid).Nodup)
    (home : ∀ descriptor ∈ descriptors, goals.home descriptor.runStart) :
    Catalogued goals descriptors engine := by
  induction descriptors with
  | nil => exact held
  | cons descriptor rest ih =>
      obtain ⟨new, later⟩ := List.nodup_cons.mp distinct
      have own := spare descriptor (List.mem_cons_self ..)
      have others := ih (fun other member => spare other (List.mem_cons_of_mem _ member)) later
        fun other member => home other (List.mem_cons_of_mem _ member)
      refine others.pend (.inr ⟨own.minted, fun other known => ?_⟩)
        (home descriptor (List.mem_cons_self ..)) fun _ => ⟨spare_unannounced own, new⟩
      rcases known with waiting | known
      · exact fun same => new (same ▸ List.mem_map_of_mem waiting)
      · exact own.unused other (.inr known)

/-- New generations of streams the run `key` has declared. -/
def Reissues (key : RunKey) (descriptors : List EventDescriptor) (engine : RunEngine) : Prop :=
  ∀ slot ∈ engine.state.run key, ∀ descriptor ∈ descriptors, ∃ stream,
    descriptor.name = some stream ∧ descriptor.runStart = slot.bundler.bundle.startUid ∧
      ∃ current ∈ slot.bundler.bundle.described stream, descriptor.dataKeys = current.dataKeys

private theorem Reissues.kept {descriptors : List EventDescriptor} {before after : RunEngine}
    (reissues : Reissues key descriptors before) (kept : RunsKept before after) :
    Reissues key descriptors after := by
  intro slot held descriptor member
  obtain ⟨earlier, found, same⟩ := kept.slots key slot held
  obtain ⟨stream, name, owned, current, declared, keys⟩ := reissues earlier found descriptor member
  exact ⟨stream, name, owned.trans same.startUid.symm, current,
    (same.described stream).symm ▸ declared, keys⟩

private theorem composeReconfigure_eq {bundler : RunBundler} {uid : Uid} {objectName : String}
    {configuration : Configuration} {descriptor : EventDescriptor}
    (member : descriptor ∈ bundler.composeReconfigure uid objectName configuration) :
    ∃ entry ∈ bundler.descriptors.keys.zipIdx, descriptor.uid = uid + entry.2 ∧
      ∃ held ∈ bundler.bundle.described entry.1, descriptor.name = held.name ∧
        descriptor.runStart = held.runStart ∧ descriptor.dataKeys = held.dataKeys := by
  obtain ⟨entry, place, composed⟩ := List.mem_filterMap.mp member
  obtain ⟨held, found, rfl⟩ := RunBundle.composeRedescribe_eq composed
  exact ⟨entry, place, rfl, held, found, rfl, rfl, rfl⟩

/-- The generations composed together have different uids. -/
private theorem composeReconfigure_distinct (bundler : RunBundler) (uid : Uid) (objectName : String)
    (configuration : Configuration) :
    ((bundler.composeReconfigure uid objectName configuration).map EventDescriptor.uid).Nodup := by
  have places : bundler.descriptors.keys.zipIdx.Pairwise fun first second =>
      first.2 ≠ second.2 := by
    rw [← List.pairwise_map (f := Prod.snd) (R := (· ≠ ·)), List.zipIdx_map_snd]
    exact List.nodup_range'
  refine List.pairwise_map.mpr (List.Pairwise.filterMap _ ?_ places)
  intro first second different one composed other also
  obtain ⟨held, -, rfl⟩ := RunBundle.composeRedescribe_eq composed
  obtain ⟨now, -, rfl⟩ := RunBundle.composeRedescribe_eq also
  exact fun same => different (Nat.add_left_cancel same)

/-- What installing new generations makes of a slot. -/
private structure Reinstalled (descriptors : List EventDescriptor) (before after : RunSlot) :
    Prop where
  filed : SlotFiled after
  startUid : after.bundler.bundle.startUid = before.bundler.bundle.startUid
  tasks : after.pumps = before.pumps
  current : ∀ stream, ∀ descriptor ∈ after.bundler.bundle.described stream,
    descriptor ∈ descriptors ∨ descriptor ∈ before.bundler.bundle.described stream
  keys : ∀ stream, ∀ descriptor ∈ before.bundler.bundle.described stream,
    ∃ now ∈ after.bundler.bundle.described stream, now.dataKeys = descriptor.dataKeys

private theorem reinstalled {slot : RunSlot} (descriptors : List EventDescriptor)
    (filed : SlotFiled slot)
    (reissues : ∀ descriptor ∈ descriptors, ∃ stream, descriptor.name = some stream ∧
      descriptor.runStart = slot.bundler.bundle.startUid ∧
        ∃ current ∈ slot.bundler.bundle.described stream,
          descriptor.dataKeys = current.dataKeys) :
    Reinstalled descriptors slot
      { slot with bundler := slot.bundler.installReconfigured descriptors } := by
  induction descriptors generalizing slot with
  | nil => exact ⟨filed, rfl, rfl, fun _ _ => .inr, fun _ current had => ⟨current, had, rfl⟩⟩
  | cons descriptor rest ih =>
      obtain ⟨stream, name, owned, current, declared, same⟩ :=
        reissues descriptor (List.mem_cons_self ..)
      have now : ∀ other, (slot.bundler.bundle.installDescriptor stream descriptor).described other =
          if other = stream then some descriptor else slot.bundler.bundle.described other := by
        intro other
        rw [RunBundle.described_installDescriptor, Option.mem_def.mp declared]
        rfl
      have replaced : SlotFiled { slot with bundler := { slot.bundler with
          bundle := slot.bundler.bundle.installDescriptor stream descriptor
          descriptors := slot.bundler.descriptors.insert stream descriptor.uid } } :=
        filed.replace rfl now rfl name owned
      have later := ih replaced fun other member => by
        obtain ⟨own, name, owned, held, declared, keys⟩ :=
          reissues other (List.mem_cons_of_mem _ member)
        refine ⟨own, name, owned, ?_⟩
        dsimp only
        rw [now]
        by_cases here : own = stream
        · subst here
          obtain rfl : held = current := Option.some.inj
            ((Option.mem_def.mp ‹held ∈ _›).symm.trans (Option.mem_def.mp ‹current ∈ _›))
          exact ⟨descriptor, if_pos rfl, keys.trans same.symm⟩
        · exact ⟨held, (if_neg here).trans declared, keys⟩
      have unfolded : slot.bundler.installReconfigured (descriptor :: rest) =
          RunBundler.installReconfigured { slot.bundler with
            bundle := slot.bundler.bundle.installDescriptor stream descriptor
            descriptors := slot.bundler.descriptors.insert stream descriptor.uid } rest := by
        rw [RunBundler.installReconfigured, name]
      rw [unfolded]
      refine ⟨later.filed, later.startUid, later.tasks, fun other found member => ?_,
        fun other had member => ?_⟩
      · rcases later.current other found member with recent | before
        · exact .inl (List.mem_cons_of_mem _ recent)
        · dsimp only at before
          rw [now] at before
          by_cases here : other = stream
          · rw [if_pos here] at before
            cases before
            exact .inl (List.mem_cons_self ..)
          · rw [if_neg here] at before
            exact .inr before
      · by_cases here : other = stream
        · subst here
          obtain rfl : had = current := Option.some.inj
            ((Option.mem_def.mp member).symm.trans (Option.mem_def.mp declared))
          obtain ⟨newest, found, keys⟩ := later.keys other descriptor (by
            dsimp only
            rw [now]
            exact if_pos rfl)
          exact ⟨newest, found, keys.trans same⟩
        · exact later.keys other had (by
            dsimp only
            rw [now]
            exact (if_neg here).trans member)

/-- Generations that are on the wire take the places of the ones before them. -/
private theorem Catalogued.install {engine : RunEngine} (held : Catalogued goals [] engine)
    {descriptors : List EventDescriptor} (reissues : Reissues key descriptors engine)
    (heard : ∀ descriptor ∈ descriptors, Entry.broadcast (.descriptor descriptor) ∈ engine.log) :
    Catalogued goals [] (engine.withBundler key (·.installReconfigured descriptors)) := by
  have each : ∀ slot ∈ engine.state.run key, Reinstalled descriptors slot
      { slot with bundler := slot.bundler.installReconfigured descriptors } := fun slot open_ =>
    reinstalled descriptors (held.slots key slot open_) (reissues slot open_)
  refine held.file (fun slot open_ => (each slot open_).filed)
    (fun slot open_ => (each slot open_).startUid)
    (fun slot open_ stream descriptor current => ?_) fun agree => ?_
  · rcases (each slot open_).current stream descriptor current with issued | had
    · exact .inr (.inr (heard descriptor issued))
    · exact .inr (.inl ⟨key, slot, open_, stream, had⟩)
  · exact (held.schema agree).withSlot (fun slot open_ => (each slot open_).keys)
      fun slot open_ task running => .inl ((each slot open_).tasks ▸ running)

/-- Broadcast all that is pending. -/
theorem announceAll_catalogued (env : Env) {holds : RunEngine → Prop}
    (framed : ∀ before after, RunsKept before after → before.log <:+ after.log →
      holds before → holds after) (descriptors : List EventDescriptor) :
    Triple (fun engine => Catalogued goals descriptors engine ∧ holds engine)
      (Action.each (fun descriptor => broadcast env (.descriptor descriptor)) descriptors)
      (fun _ engine => Catalogued goals [] engine ∧ holds engine ∧
        ∀ descriptor ∈ descriptors, Entry.broadcast (.descriptor descriptor) ∈ engine.log)
      (fun _ => Catalogued goals []) := by
  let settled (rest : List EventDescriptor) (engine : RunEngine) : Prop :=
    holds engine ∧ ∀ descriptor ∈ descriptors, descriptor ∈ rest ∨
      Entry.broadcast (.descriptor descriptor) ∈ engine.log
  have settledFramed : ∀ rest before after, RunsKept before after → before.log <:+ after.log →
      settled rest before → settled rest after := fun rest before after kept grown held =>
    ⟨framed before after kept grown held.1, fun descriptor member =>
      (held.2 descriptor member).imp id fun heard => grown.subset heard⟩
  have all : Triple (fun engine => Catalogued goals descriptors engine ∧ settled descriptors engine)
      (Action.each (fun descriptor => broadcast env (.descriptor descriptor)) descriptors)
      (fun _ engine => Catalogued goals [] engine ∧ settled [] engine)
      (fun _ => Catalogued goals []) := Triple.each
    (fun rest engine => Catalogued goals rest engine ∧ settled rest engine)
    (fun descriptor rest => (announce_catalogued env descriptor
      (settledFramed (descriptor :: rest))).weaken
      (fun engine held => held)
      (fun _ engine held => ⟨held.1, held.2.1.1, fun other member => by
        rcases held.2.1.2 other member with waiting | sent
        · rcases List.mem_cons.mp waiting with rfl | waiting
          · exact .inr held.2.2
          · exact .inl waiting
        · exact .inr sent⟩)
      fun _ _ held => held) descriptors
  refine all.weaken (fun _ held => ⟨held.1, held.2, fun _ member => .inl member⟩)
    (fun _ engine held => ⟨held.1, held.2.1, fun descriptor member => ?_⟩) fun _ _ held => held
  exact (held.2.2 descriptor member).resolve_left (List.not_mem_nil)

/-- From the configuration the device reports on: compose, broadcast, install. -/
private theorem reconfigure_files (env : Env) (objectName : String) (configuration : Configuration) :
    Files goals key (do
      match ← ask fun engine => engine.state.bundler key with
      | none => pure ()
      | some bundler =>
          Action.modify fun engine =>
            engine.withBundler key (·.cacheConfiguration objectName configuration)
          let firstUid ← ask RunEngine.nextUid
          let descriptors := bundler.composeReconfigure firstUid objectName configuration
          Action.modify fun engine =>
            { engine with nextUid := engine.nextUid + bundler.descriptors.keys.length }
          Action.each (fun descriptor => broadcast env (.descriptor descriptor)) descriptors
          Action.modify fun engine => engine.withBundler key (·.installReconfigured descriptors)) := by
  refine Triple.ask_bind fun found => ?_
  cases found with
  | none => exact Triple.pure _ fun _ held => held.1
  | some bundler =>
      rintro engine ⟨⟨held, home⟩, found⟩
      obtain ⟨slot, open_, rfl⟩ := run_of_bundler found
      have caching : Keeps Tame (Action.modify fun engine =>
          engine.withBundler key (·.cacheConfiguration objectName configuration) :
          EngineAction Unit) :=
        tame_body (bundler_effects trivial fun slot => .configuration slot _ trivial)
      have moved := caching engine
      have cached := moved.catalogued goals [] held
      dsimp only
      rw [modify_bind, ask_bind, modify_bind]
      dsimp only [modify_apply] at moved cached
      generalize engine.withBundler key (·.cacheConfiguration objectName configuration) = reached
        at moved cached ⊢
      let minted : RunEngine :=
        { reached with nextUid := reached.nextUid + slot.bundler.descriptors.keys.length }
      let descriptors :=
        slot.bundler.composeReconfigure reached.nextUid objectName configuration
      have tame : Tame reached minted :=
        .of_mute (.of_same rfl (.refl _)) (Nat.le_add_right _ _) rfl (.refl _)
      have reissues : Reissues key descriptors engine := by
        intro other also descriptor member
        obtain rfl : slot = other := Option.some.inj (open_.symm.trans also)
        obtain ⟨entry, -, -, current, declared, name, owned, keys⟩ := composeReconfigure_eq member
        have filed := held.slots key slot open_
        exact ⟨entry.1, name.trans (filed.named _ current declared),
          owned.trans (filed.owned _ current declared), current, declared, keys⟩
      have pended : Catalogued goals descriptors minted := by
        refine (tame.catalogued goals [] cached).pendAll (fun descriptor member => ?_)
          (composeReconfigure_distinct _ _ _ _) fun descriptor member => ?_
        · obtain ⟨entry, place, uid, -⟩ := composeReconfigure_eq member
          have bound := List.snd_lt_of_mem_zipIdx place
          refine ⟨by rw [uid]; exact Nat.add_lt_add_left bound _, fun other known => ?_⟩
          have early := cached.minted other (known.of_kept tame.kept tame.log)
          have late : reached.nextUid ≤ descriptor.uid := uid ▸ Nat.le_add_right _ _
          exact (early.trans_le late).ne
        · obtain ⟨entry, -, -, current, declared, -, owned, -⟩ := composeReconfigure_eq member
          rw [owned, (held.slots key slot open_).owned _ current declared]
          exact home slot open_
      have framed : ∀ before after, RunsKept before after → before.log <:+ after.log →
          AtHome goals key before ∧ Reissues key descriptors before →
          AtHome goals key after ∧ Reissues key descriptors after :=
        fun _ _ kept _ both => ⟨both.1.kept kept, both.2.kept kept⟩
      have whole : Triple
          (fun engine => Catalogued goals descriptors engine ∧ AtHome goals key engine ∧
            Reissues key descriptors engine)
          (do
            Action.each (fun descriptor => broadcast env (.descriptor descriptor)) descriptors
            Action.modify fun engine =>
              engine.withBundler key (·.installReconfigured descriptors) : EngineAction Unit)
          (fun _ engine => Catalogued goals [] engine ∧ AtHome goals key engine)
          (fun _ => Catalogued goals []) := by
        refine Triple.bind (announceAll_catalogued env framed descriptors) fun _ =>
          Triple.modify fun engine ⟨held, ⟨home, reissues⟩, heard⟩ => ?_
        refine ⟨held.install reissues heard, fun now also => ?_⟩
        change now ∈ (engine.withSlot key _).state.run key at also
        rw [run_withSlot, if_pos rfl] at also
        obtain ⟨earlier, was, rfl⟩ := Option.map_eq_some_iff.mp also
        have same := (reinstalled descriptors (held.slots key earlier was)
          (reissues earlier was)).startUid
        rw [same]
        exact home earlier was
      have both := moved.kept.trans tame.kept
      exact whole minted ⟨pended, home.kept both, reissues.kept both⟩

theorem handleConfigure_files (env : Env) (obj : Obj) (args : Value) :
    Files goals key (handleConfigure env key obj args) := by
  refine files_ask fun bundling => ?_
  split
  · exact files_of_tame (tame_body (reject_effects _))
  · refine Triple.bind (files_of_tame (tame_body (call_effects env _))) fun _ =>
      files_ask fun isOpen => ?_
    split
    · exact Triple.bind (files_of_tame (tame_body (readObjectConfiguration_effects trivial env obj)))
        fun config => reconfigure_files env obj.name config
    · exact Triple.pure _ fun _ held => held

end Bsrs.Engine
