import Bsrs.Engine.Described

namespace Bsrs.Engine

open Bsrs.Library (Table Action Grows Always Throughout)
open Bsrs.Library.Action
open Bsrs.EventModel
open Bsrs.Core

/-! ## The handlers that compose Descriptors -/

/-- The handler leaves no Descriptor unannounced, however it ends. -/
abbrev Announces (body : EngineAction α) : Prop :=
  Triple (Described []) body (fun _ => Described []) (fun _ => Described [])

private theorem announces_of_plain {body : EngineAction α} (plain : Keeps Plain body) :
    Announces body :=
  plain_stable plain

private theorem announces_attempt {body : EngineAction α} (announces : Announces body) :
    Announces (attempt body) :=
  fun engine held => (Triple.to_keeps announces) engine held

private theorem announces_ask {view : RunEngine → α} {next : α → EngineAction β}
    (announces : ∀ value, Announces (next value)) : Announces (ask view >>= next) :=
  Triple.ask_bind fun value =>
    (announces value).weaken (fun _ held => held.1) (fun _ _ => id) fun _ _ => id

private theorem announces_each {body : α → EngineAction Unit} (announces : ∀ item, Announces (body item))
    (items : List α) : Announces (each body items) :=
  Triple.each (fun _ => Described []) (fun item _ => announces item) items

private theorem broadcast_announces (env : Env) (descriptor : EventDescriptor) :
    Triple (Described [descriptor]) (broadcast env (.descriptor descriptor))
      (fun _ => Described []) (fun _ => Described []) := by
  have framed : ∀ before after, RunsKept before after → True → True := fun _ _ _ => id
  exact (announce_triple env descriptor framed).weaken (fun _ held => ⟨held, trivial⟩)
    (fun _ _ held => held.1) fun _ _ held => held

theorem handleDeclareStream_announces (env : Env) (key : RunKey) (streamName : String)
    (objs : StreamObjs) : Announces (handleDeclareStream env key streamName objs) := by
  refine announces_ask fun isOpen => ?_
  split
  · have recorded : ∀ streamObjs : List StreamObject, Keeps Plain
        (Action.modify fun engine => engine.withBundler key fun bundler =>
          bundler.recordDeclaredStream (streamObjs.filterMap StreamObject.object).toFinset streamName :
          EngineAction Unit) :=
      fun _ => plain_body (bundler_effects trivial fun slot => .streams slot _ trivial)
    refine Triple.bind (announces_of_plain
      (plain_body (describeStreamObjs_effects trivial trivial env _ _)))
      fun streamObjs => Triple.bind (announces_of_plain (recorded streamObjs)) fun _ => ?_
    refine Triple.bind (declareInto_triple key _ _ _) fun descriptor => ?_
    exact (broadcast_announces env descriptor).weaken (fun _ held => held.1) (fun _ _ => id)
      fun _ _ => id
  · exact announces_of_plain (plain_body (reject_effects _))

/-- A pump starts once its stream's Descriptor is on the wire. -/
theorem Described.fed {engine : RunEngine} {key : RunKey} {task : MonitorTask}
    (described : Described [] engine) (declares : Declares key task.stream engine) (object : String) :
    Described [] (engine.withSlot key fun slot => slot.insertTask object task) := by
  refine described.withSlot (List.Subset.refl _) (fun _ _ => rfl) fun slot held => ?_
  have before := described.slots key slot held
  refine ⟨before.synced, before.named, before.owned, before.known, fun current running => ?_⟩
  rcases RunSlot.mem_pumps_insertTask running with rfl | already
  · obtain ⟨descriptor, declared⟩ := Option.isSome_iff_exists.mp (declares slot held)
    refine ⟨descriptor, declared, ?_⟩
    rcases before.known _ descriptor declared with none | sent
    · cases none
    · exact sent
  · exact before.fed current already

theorem startMonitor_announces (env : Env) (key : RunKey) (stream : String) (obj : Obj) :
    Announces (startMonitor env key stream obj) := by
  have kept : ∀ before after, RunsKept before after → Declares key stream before →
      Declares key stream after := fun _ _ kept declares => declares.kept kept
  refine Triple.bind (announces_of_plain (plain_body (await_effects env))) fun tick =>
    Triple.bind (announces_of_plain (plain_body (Keeps.lift _))) fun dataKeys =>
      Triple.bind (announces_of_plain (plain_body (streamObject_effects trivial trivial env obj _)))
        fun monitored => Triple.ask_bind fun found => ?_
  have subscribed : Triple (fun engine => Described [] engine ∧ Declares key stream engine)
      (do
        let tick ← await env
        let eventKey ← lift (env.subscribe tick obj)
        if (dataKeys.lookup eventKey).isNone then
          reject (.monitorKeyUndeclared obj.name eventKey)
        else
          Action.modify fun engine => engine.withSlot key fun slot =>
            slot.insertTask obj.name { stream, key := eventKey } :
        EngineAction Unit) (fun _ => Described []) (fun _ => Described []) := by
    refine Triple.bind (plain_triple (plain_body (await_effects env)) kept) fun tick =>
      Triple.bind (plain_triple (plain_body (Keeps.lift _)) kept) fun eventKey => ?_
    split
    · exact Triple.fail _ fun _ held => held.1
    · exact Triple.modify fun _ held => held.1.fed held.2 obj.name
  cases found with
  | none => exact Triple.fail _ fun _ held => held.1
  | some bundler =>
      dsimp only
      split
      · refine Triple.bind ((declareInto_triple key _ stream _).weaken (fun _ held => held.1)
          (fun _ _ => id) fun _ _ => id) fun descriptor => ?_
        refine Triple.bind (announce_triple env descriptor kept) fun _ => ?_
        exact subscribed.weaken (fun _ held => ⟨held.1, held.2.1⟩) (fun _ _ => id) fun _ _ => id
      · rename_i cached
        refine subscribed.weaken (fun engine held => ⟨held.1, fun slot open_ => ?_⟩) (fun _ _ => id)
          fun _ _ => id
        have same : slot.bundler = bundler := by
          simpa [EngineState.bundler, Option.mem_def.mp open_] using held.2
        have synced := (held.1.slots key slot open_).synced stream
        rw [same] at synced ⊢
        cases declared : bundler.bundle.described stream with
        | none => simp [synced, declared] at cached
        | some descriptor => rfl

theorem handleMonitor_announces (env : Env) (key : RunKey) (obj : Obj) (name : Option String) :
    Announces (handleMonitor env key obj name) := by
  refine announces_ask fun found => ?_
  cases found with
  | none => exact announces_of_plain (plain_body (reject_effects _))
  | some slot =>
      have booked : ∀ stream, Keeps Plain (Action.modify fun engine => engine.withSlot key fun slot =>
          { slot with monitored := slot.monitored.insert obj.name { obj, stream } } :
          EngineAction Unit) := fun _ =>
        plain_body (slot_effects trivial fun slot => .monitors slot _)
      have reset : Keeps Plain (Action.modify RunEngine.resetCheckpointState : EngineAction Unit) := by
        have commits : Keeps (Effects .all (.stage obj))
            (Action.modify RunEngine.resetCheckpointState : EngineAction Unit) :=
          reset_effects fun _ => rfl
        exact plain_of_effects id commits
      dsimp only
      split
      · exact announces_of_plain (plain_body (reject_effects _))
      · exact Triple.bind (announces_of_plain (plain_body (await_effects env))) fun tick =>
          Triple.bind (startMonitor_announces env key _ obj) fun _ =>
            Triple.bind (announces_of_plain (booked _)) fun _ => announces_of_plain reset

theorem restoreMonitors_announces (env : Env) : Announces (restoreMonitors env) := by
  refine announces_ask fun specs => announces_each (fun entry => ?_) specs
  exact Triple.bind (announces_attempt (startMonitor_announces env _ _ _)) fun _ =>
    Triple.pure _ fun _ held => held

/-- New generations can replace the descriptors of the streams they are named after. -/
def Installable (key : RunKey) (descriptors : List EventDescriptor) (engine : RunEngine) : Prop :=
  ∀ slot ∈ engine.state.run key, ∀ descriptor ∈ descriptors, ∃ stream,
    descriptor.name = some stream ∧ (slot.bundler.bundle.described stream).isSome ∧
      descriptor.runStart = slot.bundler.bundle.startUid

private theorem installable_kept {key : RunKey} {descriptors : List EventDescriptor}
    {before after : RunEngine} (kept : RunsKept before after)
    (installable : Installable key descriptors before) : Installable key descriptors after := by
  intro slot held descriptor member
  obtain ⟨earlier, found, same⟩ := kept.slots key slot held
  obtain ⟨stream, named, declared, owned⟩ := installable earlier found descriptor member
  exact ⟨stream, named, (same.described stream).symm ▸ declared, owned.trans same.startUid.symm⟩

private theorem composeReconfigure_installable {engine : RunEngine} {key : RunKey} {slot : RunSlot}
    (described : Described [] engine) (held : slot ∈ engine.state.run key) (uid : Uid)
    (objectName : String) (configuration : Configuration) :
    Installable key (slot.bundler.composeReconfigure uid objectName configuration) engine := by
  intro other same descriptor member
  obtain rfl : slot = other := Option.some.inj (Option.mem_def.mp held ▸ Option.mem_def.mp same)
  obtain ⟨entry, -, composed⟩ := List.mem_filterMap.mp member
  obtain ⟨current, declared, runStart, name⟩ := RunBundle.composeRedescribe_some composed
  have slotDescribed := described.slots key slot held
  refine ⟨entry.1, ?_, by simp [declared], ?_⟩
  · exact name.trans (slotDescribed.named _ current declared)
  · exact runStart.trans (slotDescribed.owned _ current declared)

/-- Announced generations take the places of the ones before them. -/
private theorem installReconfigured_described {log : List Entry} {slot : RunSlot}
    (descriptors : List EventDescriptor) (described : SlotDescribed [] log slot)
    (installable : ∀ descriptor ∈ descriptors, ∃ stream, descriptor.name = some stream ∧
      (slot.bundler.bundle.described stream).isSome ∧
        descriptor.runStart = slot.bundler.bundle.startUid)
    (sent : ∀ descriptor ∈ descriptors,
      announced descriptor.runStart descriptor.uid log = true) :
    SlotDescribed [] log
        { slot with bundler := slot.bundler.installReconfigured descriptors } ∧
      (slot.bundler.installReconfigured descriptors).bundle.startUid =
        slot.bundler.bundle.startUid := by
  induction descriptors generalizing slot with
  | nil => exact ⟨described, rfl⟩
  | cons descriptor rest ih =>
      obtain ⟨stream, name, declared, owned⟩ := installable descriptor (List.mem_cons_self ..)
      obtain ⟨current, was⟩ := Option.isSome_iff_exists.mp declared
      have replaced : ∀ other, (slot.bundler.bundle.installDescriptor stream descriptor).described other =
          if other = stream then some descriptor else slot.bundler.bundle.described other := by
        intro other
        rw [RunBundle.described_installDescriptor, was]
        rfl
      have announced := sent descriptor (List.mem_cons_self ..)
      have installed : SlotDescribed [] log { slot with bundler := { slot.bundler with
          bundle := slot.bundler.bundle.installDescriptor stream descriptor
          descriptors := slot.bundler.descriptors.insert stream descriptor.uid } } :=
        described.replace rfl replaced rfl name owned (List.Subset.refl _) (.inr announced)
          fun _ _ => .inr announced
      unfold RunBundler.installReconfigured
      rw [name]
      dsimp only
      refine ih installed ?_ fun other member => sent other (List.mem_cons_of_mem _ member)
      intro other member
      obtain ⟨own, name, declared, owned⟩ := installable other (List.mem_cons_of_mem _ member)
      refine ⟨own, name, ?_, owned⟩
      dsimp only
      rw [replaced]
      split
      · rfl
      · exact declared

/-- Broadcast all of `descriptors`; each is on the wire then. -/
private theorem announceAll_triple (env : Env) {holds : RunEngine → Prop}
    (framed : ∀ before after, RunsKept before after → holds before → holds after)
    (descriptors : List EventDescriptor) :
    Triple (fun engine => Described [] engine ∧ holds engine)
      (each (fun descriptor => broadcast env (.descriptor descriptor)) descriptors)
      (fun _ engine => Described [] engine ∧ holds engine ∧
        ∀ descriptor ∈ descriptors, announced descriptor.runStart descriptor.uid engine.log = true)
      (fun _ => Described []) := by
  let settled (rest : List EventDescriptor) (engine : RunEngine) : Prop :=
    holds engine ∧ ∀ descriptor ∈ descriptors, descriptor ∈ rest ∨
      announced descriptor.runStart descriptor.uid engine.log = true
  have settledFramed : ∀ rest before after, RunsKept before after → settled rest before →
      settled rest after := fun rest before after kept held =>
    ⟨framed before after kept held.1, fun descriptor member =>
      (held.2 descriptor member).imp id (kept.announced _ _)⟩
  have all : Triple (fun engine => Described [] engine ∧ settled descriptors engine)
      (each (fun descriptor => broadcast env (.descriptor descriptor)) descriptors)
      (fun _ engine => Described [] engine ∧ settled [] engine) (fun _ => Described []) :=
    Triple.each (fun rest engine => Described [] engine ∧ settled rest engine)
    (fun descriptor rest => (announce_triple env descriptor (settledFramed (descriptor :: rest))).weaken
      (fun engine held => ⟨held.1.mono (List.subset_cons_self _ _), held.2⟩)
      (fun _ engine held => ⟨held.1, held.2.1.1, fun other member => by
        rcases held.2.1.2 other member with waiting | sent
        · rcases List.mem_cons.mp waiting with rfl | waiting
          · exact .inr held.2.2
          · exact .inl waiting
        · exact .inr sent⟩)
      fun _ _ held => held) descriptors
  refine all.weaken (fun _ held => ⟨held.1, held.2, fun _ member => .inl member⟩)
    (fun _ engine held => ⟨held.1, held.2.1, fun descriptor member => ?_⟩) fun _ _ held => held
  exact (held.2.2 descriptor member).resolve_left (List.not_mem_nil)

theorem handleConfigure_announces (env : Env) (key : RunKey) (obj : Obj) (args : Value) :
    Announces (handleConfigure env key obj args) := by
  refine announces_ask fun bundling => ?_
  split
  · exact announces_of_plain (plain_body (reject_effects _))
  · refine Triple.bind (announces_of_plain (plain_body (call_effects env _))) fun _ =>
      announces_ask fun isOpen => ?_
    split
    · refine Triple.bind (announces_of_plain (plain_body (readObjectConfiguration_effects trivial env obj)))
        fun config => Triple.ask_bind fun found => ?_
      cases found with
      | none => exact Triple.pure _ fun _ held => held.1
      | some bundler =>
          have installable : ∀ engine, Described [] engine ∧ engine.state.bundler key = some bundler →
              Described [] engine ∧ ∀ uid,
                Installable key (bundler.composeReconfigure uid obj.name config) engine := by
            rintro engine ⟨described, found⟩
            obtain ⟨slot, held, rfl⟩ := run_of_bundler found
            exact ⟨described, fun uid => composeReconfigure_installable described held uid _ _⟩
          refine Triple.weaken ?_ installable (fun _ _ => id) (fun _ _ => id)
          have cached : Keeps Plain (Action.modify fun engine =>
              engine.withBundler key (·.cacheConfiguration obj.name config) : EngineAction Unit) :=
            plain_body (bundler_effects trivial fun slot => .configuration slot _ trivial)
          have minted : Keeps Plain (Action.modify fun engine =>
              { engine with nextUid := engine.nextUid + bundler.descriptors.keys.length } :
              EngineAction Unit) :=
            plain_body (Keeps.modify fun engine => .single (.mint engine _))
          refine Triple.bind (plain_triple cached fun _ _ kept held uid =>
            installable_kept kept (held uid)) fun _ => Triple.ask_bind fun firstUid => ?_
          rintro engine ⟨⟨described, installable⟩, -⟩
          refine Triple.bind (plain_triple minted fun _ _ => installable_kept) (fun _ =>
            Triple.bind (announceAll_triple env (fun _ _ => installable_kept) _) fun _ => ?_)
            engine ⟨described, installable firstUid⟩
          refine Triple.modify fun engine held => ?_
          obtain ⟨described, installable, sent⟩ := held
          have now := fun slot held => installReconfigured_described
            (bundler.composeReconfigure firstUid obj.name config) (described.slots key slot held)
            (installable slot held) sent
          exact described.withSlot (List.Subset.refl _) (fun slot held => (now slot held).2)
            fun slot held => (now slot held).1
    · exact Triple.pure _ fun _ held => held

/-! ## Collecting -/

/-- In an open run a stream is always declared. -/
private theorem declareInto_open {engine : RunEngine} {key : RunKey}
    (isOpen : engine.state.runOpen key = true) (missing : PlanError) (stream : String)
    (objs : List StreamObject) :
    ∃ descriptor reached, declareInto key missing stream objs engine = (.ok descriptor, reached) ∧
      reached.state.runOpen key = true := by
  obtain ⟨slot, held⟩ := Option.isSome_iff_exists.mp isOpen
  have found : engine.state.bundler key = some slot.bundler :=
    Option.map_eq_some_iff.mpr ⟨slot, held, rfl⟩
  let minted : RunEngine := { engine with nextUid := engine.nextUid + 1 }
  refine ⟨(slot.bundler.declareStream engine.nextUid stream objs).1,
    minted.withBundler key fun bundler => (bundler.declareStream engine.nextUid stream objs).2, ?_, ?_⟩
  · unfold declareInto mint
    rw [advance_bind, ask_bind, found]
    rfl
  · change ((minted.withSlot key _).state.run key).isSome = true
    rw [run_withSlot, if_pos rfl, Option.isSome_map]
    exact isOpen

private theorem declareInto_open_triple (key : RunKey) (missing : PlanError) (stream : String)
    (objs : List StreamObject) (pending : List EventDescriptor) :
    Triple (fun engine => Described pending engine ∧ engine.state.runOpen key = true)
      (declareInto key missing stream objs)
      (fun descriptor engine => Described (descriptor :: pending) engine ∧
        engine.state.runOpen key = true) (fun _ _ => False) := by
  rintro engine ⟨described, isOpen⟩
  obtain ⟨descriptor, reached, ran, still⟩ := declareInto_open isOpen missing stream objs
  have declared := declareInto_triple key missing stream objs engine described
  rw [ran] at declared ⊢
  exact ⟨declared.1, still⟩

/-- Broadcasting cannot fail, so all that is pending goes out. -/
private theorem broadcastAll_announces (env : Env) (descriptors : List EventDescriptor) :
    Triple (Described descriptors)
      (each (fun descriptor => broadcast env (.descriptor descriptor)) descriptors)
      (fun _ => Described []) (fun _ _ => False) := by
  refine Triple.each Described (fun descriptor rest => ?_) descriptors
  intro engine described
  have framed : ∀ before after, RunsKept before after → True → True := fun _ _ _ => id
  exact (announce_triple env descriptor framed engine ⟨described, trivial⟩).1

private theorem declareCollected_announces (env : Env) (key : RunKey) (obj : Obj) :
    Announces (declareCollected env key obj) := by
  refine Triple.bind (announces_of_plain (plain_body (await_effects env))) fun tick =>
    Triple.bind (announces_of_plain (plain_body (Keeps.lift _))) fun described =>
      Triple.bind (announces_of_plain (plain_body (ensureObjectConfiguration_effects trivial trivial env obj)))
        fun configuration => Triple.ask_bind fun isOpen => ?_
  split
  · rename_i isOpen
    refine Triple.ask_bind fun fresh => ?_
    let declare (entry : String × Table String DataKey) : EngineAction EventDescriptor :=
      declareInto key .collectDescriptorLost entry.1
        [{ object := some obj.name, dataKeys := entry.2, hintFields := obj.hintFields, configuration }]
    -- all the descriptors are cached before the first of them is broadcast
    have cached : Triple (fun engine => Described [] engine ∧ engine.state.runOpen key = true)
        (gather declare fresh)
        (fun gathered engine => Described (gathered.reverse ++ []) engine ∧
          engine.state.runOpen key = true) (fun _ _ => False) :=
      Triple.gather (fun _ results engine => Described results engine ∧
          engine.state.runOpen key = true)
        (fun entry _ results => declareInto_open_triple key _ entry.1 _ results) fresh []
    refine Triple.bind (cached.weaken (fun _ held => ⟨held.1.1, held.1.2.trans isOpen⟩)
      (fun _ _ => id) fun _ _ => False.elim) fun descriptors => ?_
    refine Triple.bind ((broadcastAll_announces env descriptors).weaken (fun engine held => ?_)
      (fun _ _ => id) fun _ _ => False.elim) fun _ => Triple.pure _ fun _ held => held
    exact held.1.mono fun descriptor member => by simpa using member
  · exact Triple.fail _ fun _ held => held.1

theorem collectEvent_announces (env : Env) (key : RunKey) (declared : Option String)
    (item : String × Table String Value × Table String Value) :
    Announces (collectEvent env key declared item) := by
  refine Triple.bind (announces_of_plain (plain_body mint_effects)) fun uid =>
    Triple.ask_bind fun found => ?_
  cases found with
  | none => exact Triple.fail _ fun _ held => held.1
  | some bundler =>
      let composed := bundler.bundle.event uid (declared.getD item.1) item.2.1 item.2.2
      have counted : Keeps (Effects .all .null) (Action.modify fun engine =>
          engine.countWith key (some (declared.getD item.1)) fun bundler => { bundler with
            bundle := (bundler.bundle.event uid (declared.getD item.1) item.2.1 item.2.2).2 } :
          EngineAction Unit) :=
        count_effects trivial fun bundler => .compose bundler uid _ _ _
      have sendable : ∀ engine, Described [] engine ∧ engine.state.bundler key = some bundler →
          Described [] engine ∧ ∀ event ∈ composed.1, Announced key event engine.log := by
        rintro engine ⟨described, found⟩
        refine ⟨described, fun event composed => ?_⟩
        obtain ⟨slot, held, rfl⟩ := run_of_bundler found
        obtain ⟨descriptor, current, same⟩ := RunBundle.event_descriptor composed
        have slotDescribed := described.slots key slot held
        refine ⟨slot.bundler.bundle.startUid, described.starts key slot held, ?_⟩
        rw [same, ← slotDescribed.owned _ descriptor current]
        exact (slotDescribed.known _ descriptor current).resolve_left List.not_mem_nil
      refine Triple.weaken ?_ sendable (fun _ _ => id) (fun _ _ => id)
      refine Triple.bind (plain_triple (plain_body counted) fun _ _ kept held event found =>
        (held event found).kept kept) fun _ => ?_
      cases found : composed.1 with
      | none => exact Triple.fail _ fun _ held => held.1
      | some event =>
          exact (emit_triple env key _ .bundle event).weaken (fun _ held => ⟨held.1, held.2 event rfl⟩)
            (fun _ _ => id) fun _ _ => id

theorem collectObject_announces (env : Env) (key : RunKey) (obj : Obj) (streamName : Option String) :
    Announces (collectObject env key obj streamName) := by
  refine Triple.bind (announces_of_plain (plain_body (record_effects ⟨trivial, trivial⟩))) fun _ =>
    announces_ask fun found => ?_
  cases found with
  | none => exact announces_of_plain (plain_body (reject_effects _))
  | some bundler =>
      refine Triple.bind (announces_of_plain (plain_body (Keeps.lift _))) fun declared => ?_
      have stream : Announces (collectStream env key obj declared) := by
        cases declared with
        | none => exact declareCollected_announces env key obj
        | some stream => exact Triple.pure _ fun _ held => held
      have collected : Keeps Plain (Action.modify fun engine => engine.withSlot key fun slot =>
          { slot with uncollected := slot.uncollected.erase obj.name } : EngineAction Unit) :=
        plain_body (slot_effects trivial fun slot => .flyers slot _ (.inl trivial))
      exact Triple.bind stream fun _ =>
        Triple.bind (announces_of_plain (plain_body (drainCollected_effects trivial trivial env obj _))) fun _ =>
          Triple.bind (announces_of_plain (plain_body (await_effects env))) fun _ =>
            Triple.bind (announces_of_plain (plain_body (Keeps.lift _))) fun events =>
              Triple.bind (announces_each (fun item => collectEvent_announces env key declared item)
                events) fun _ => announces_of_plain collected

/-- The end of a run collects first; closing composes no Descriptor. -/
theorem drainAndClose_announces (env : Env) (status : String) (reason : Option String) :
    Announces (drainAndClose env status reason) := by
  have collected : Announces (backstopCollect env) := by
    refine announces_ask fun pending => announces_each (fun entry => ?_) pending
    exact Triple.bind (announces_attempt (collectObject_announces env _ _ _)) fun _ =>
      Triple.pure _ fun _ held => held
  have closed : ∀ key, Announces (closeRunIfOpen env key status reason) := fun key =>
    announces_of_plain (plain_of_effects id (closeOpenRun_effects env key status reason))
  exact Triple.bind collected fun _ => announces_ask fun keys => announces_each closed keys

/-! ## Saving -/

/-- The documents of a saved bundle with the Descriptors still to be broadcast among them. -/
inductive Composed (key : RunKey) (log : List Entry) : List Document → List EventDescriptor → Prop
  | empty : Composed key log [] []
  | event (event : Event) (sendable : Announced key event log) : Composed key log [.event event] []
  | first (descriptor : EventDescriptor) (event : Event)
      (owned : startOf key log = some descriptor.runStart)
      (names : event.descriptor = descriptor.uid) :
      Composed key log [.descriptor descriptor, .event event] [descriptor]

private theorem composed_kept {key : RunKey} {docs : List Document} {pending : List EventDescriptor}
    {before after : RunEngine} (kept : RunsKept before after)
    (composed : Composed key before.log docs pending) : Composed key after.log docs pending := by
  cases composed with
  | empty => exact .empty
  | event event sendable => exact .event event (sendable.kept kept)
  | first descriptor event owned names =>
      exact .first descriptor event ((kept.starts key).trans owned) names

/-- What `save` makes of a bundler: its documents, or an error that cached nothing. -/
structure Saved (key : RunKey) (log : List Entry) (slot : RunSlot)
    (saved : Except PlanError (List Document) × RunBundler) (pending : List EventDescriptor) :
    Prop where
  described : SlotDescribed pending log { slot with bundler := saved.2 }
  startUid : saved.2.bundle.startUid = slot.bundler.bundle.startUid
  rejected : ∀ error, saved.1 = .error error → pending = []
  composed : ∀ docs, saved.1 = .ok docs → Composed key log docs pending

private theorem saveEvent_saved (key : RunKey) {log : List Entry} {slot : RunSlot}
    {pending : List EventDescriptor} (out : List Document) (uid : Uid) (bundle : OpenBundle)
    (described : SlotDescribed pending log slot)
    (declared : pending = [] ∨ (slot.bundler.bundle.described bundle.streamName).isSome)
    (composed : ∀ event, ∀ descriptor ∈ slot.bundler.bundle.described bundle.streamName,
      event.descriptor = descriptor.uid → Composed key log (out ++ [.event event]) pending) :
    Saved key log slot (slot.bundler.saveEvent uid bundle out) pending := by
  unfold RunBundler.saveEvent
  have kept : SlotKept slot { slot with bundler := { slot.bundler with
      bundle := (slot.bundler.bundle.event uid bundle.streamName
        (bundle.readings.mapValues fun _ reading => reading.value)
        (bundle.readings.mapValues fun _ reading => reading.timestamp)).2 } } :=
    ⟨by simp, by simp, rfl, fun _ => id⟩
  rcases ran : slot.bundler.bundle.event uid bundle.streamName
    (bundle.readings.mapValues fun _ reading => reading.value)
    (bundle.readings.mapValues fun _ reading => reading.timestamp) with ⟨event, advanced⟩
  rw [ran] at kept
  cases event with
  | none =>
      refine ⟨described, rfl, fun _ _ => ?_, nofun⟩
      rcases declared with none | declared
      · exact none
      · obtain ⟨descriptor, current⟩ := Option.isSome_iff_exists.mp declared
        obtain ⟨stream, found, -⟩ := Option.map_eq_some_iff.mp current
        simp [RunBundle.event, found] at ran
  | some event =>
      refine ⟨described.kept kept fun _ _ => id, kept.startUid, nofun, ?_⟩
      rintro docs made
      cases made
      have made : (slot.bundler.bundle.event uid bundle.streamName
        (bundle.readings.mapValues fun _ reading => reading.value)
        (bundle.readings.mapValues fun _ reading => reading.timestamp)).1 = some event := by rw [ran]
      obtain ⟨descriptor, current, same⟩ := RunBundle.event_descriptor made
      exact composed event descriptor current same

/-- The first bundle of a stream: its Descriptor is cached with it. -/
private theorem firstSave_saved {key : RunKey} {log : List Entry} {slot : RunSlot}
    (described : SlotDescribed [] log slot)
    (starts : startOf key log = some slot.bundler.bundle.startUid) (descriptorUid eventUid : Uid)
    (bundle : OpenBundle) :
    let prepared := slot.bundler.declareStream descriptorUid bundle.streamName bundle.objs
    Saved key log slot (prepared.2.saveEvent eventUid bundle [.descriptor prepared.1])
      [prepared.1] := by
  intro prepared
  have declared := described.declare descriptorUid bundle.streamName bundle.objs
  have current : prepared.2.bundle.described bundle.streamName = some prepared.1 :=
    (RunBundle.described_descriptor _ _ _ _ _ _ _ _).trans (if_pos rfl)
  have startUid : prepared.2.bundle.startUid = slot.bundler.bundle.startUid :=
    RunBundle.startUid_descriptor _ _ _ _ _ _ _
  have saved := saveEvent_saved key [.descriptor prepared.1] eventUid bundle declared
    (.inr (by rw [current]; rfl)) fun event descriptor found same => by
      obtain rfl := Option.some.inj (current.symm.trans found)
      refine .first prepared.1 event ?_ same
      rw [starts, declared.owned bundle.streamName _ current]
      exact congrArg some startUid.symm
  exact ⟨saved.described, saved.startUid.trans startUid, saved.rejected, saved.composed⟩

private theorem save_saved {key : RunKey} {log : List Entry} {slot : RunSlot}
    (described : SlotDescribed [] log slot)
    (starts : startOf key log = some slot.bundler.bundle.startUid) (descriptorUid eventUid : Uid) :
    ∃ pending, Saved key log slot (slot.bundler.save descriptorUid eventUid) pending := by
  unfold RunBundler.save
  cases opened : slot.bundler.openBundle with
  | none => exact ⟨[], described, rfl, fun _ _ => rfl, nofun⟩
  | some bundle =>
      have closed : SlotDescribed [] log
          { slot with bundler := { slot.bundler with openBundle := none } } :=
        ⟨described.synced, described.named, described.owned, described.known, described.fed⟩
      dsimp only
      split
      · refine ⟨[], closed, rfl, nofun, ?_⟩
        rintro docs made
        cases made
        exact .empty
      · cases cached : { slot.bundler with openBundle := none }.descriptorUid bundle.streamName with
        | some uid =>
            refine ⟨[], ?_⟩
            have saved := saveEvent_saved key [] eventUid bundle closed (.inl rfl)
              fun event descriptor current same => .event event
                ⟨slot.bundler.bundle.startUid, starts, ?_⟩
            · exact ⟨saved.described, saved.startUid, saved.rejected, saved.composed⟩
            · rw [same, ← closed.owned _ descriptor current]
              exact (closed.known _ descriptor current).resolve_left List.not_mem_nil
        | none =>
            have saved := firstSave_saved closed starts descriptorUid eventUid bundle
            exact ⟨_, saved.described, saved.startUid, saved.rejected, saved.composed⟩

private theorem save_openStreamName {bundler : RunBundler} {descriptorUid eventUid : Uid}
    {docs : List Document} (saved : (bundler.save descriptorUid eventUid).1 = .ok docs) :
    bundler.openStreamName.isSome := by
  unfold RunBundler.save at saved
  cases opened : bundler.openBundle with
  | none =>
      rw [opened] at saved
      cases saved
  | some bundle => simp [RunBundler.openStreamName, opened]

/-- Counting is also reported, which moves nothing. -/
private theorem countWith_plain (engine : RunEngine) (key : RunKey) (stream : Option String)
    (update : RunBundler → RunBundler) :
    Plain (engine.withBundler key update) (engine.countWith key stream update) := by
  unfold RunEngine.countWith
  split
  · rename_i bundler name found
    have kept : RunsKept (engine.withBundler key update)
        ((engine.withBundler key update).record (.counted key name
          ⟨bundler.bundle.seqNum name + 1, (update bundler).bundle.seqNum name + 1⟩)) :=
      .of_same rfl (.cons rfl _)
    exact ⟨kept, fun _ described => described.kept kept ⟨trivial, described.backed⟩⟩
  · exact refl_of Plain _

/-- Saving caches the Descriptor of a stream's first bundle with its Event, and nothing else. -/
private theorem composeSave_triple (key : RunKey) :
    Triple (Described []) (composeSave key)
      (fun saved engine => saved.stream.isSome ∧
        ∃ pending, Described pending engine ∧ Composed key engine.log saved.docs pending)
      (fun _ => Described []) := by
  refine Triple.bind (announces_of_plain (plain_body mint_effects)) fun descriptorUid =>
    Triple.bind (announces_of_plain (plain_body mint_effects)) fun eventUid =>
      Triple.ask_bind fun found => ?_
  cases found with
  | none => exact Triple.fail _ fun _ held => held.1
  | some slot =>
      have counted : Triple
          (fun engine => Described [] engine ∧ engine.state.run key = some slot)
          (Action.modify fun engine => engine.countWith key slot.bundler.openStreamName
            fun bundler => (bundler.save descriptorUid eventUid).2 : EngineAction Unit)
          (fun _ engine => ∃ pending, Described pending engine ∧
            (∀ error, (slot.bundler.save descriptorUid eventUid).1 = .error error → pending = []) ∧
            ∀ docs, (slot.bundler.save descriptorUid eventUid).1 = .ok docs →
              Composed key engine.log docs pending) (fun _ => Described []) := by
        refine Triple.modify fun engine ⟨described, held⟩ => ?_
        have only : ∀ other ∈ engine.state.run key, other = slot := fun other also =>
          Option.some.inj (Option.mem_def.mp also ▸ held)
        obtain ⟨pending, saved⟩ := save_saved (described.slots key slot held)
          (described.starts key slot held) descriptorUid eventUid
        have moved := countWith_plain engine key slot.bundler.openStreamName
          fun bundler => (bundler.save descriptorUid eventUid).2
        refine ⟨pending, moved.described pending ?_, saved.rejected, fun docs made =>
          composed_kept moved.kept (saved.composed docs made)⟩
        refine described.withSlot (List.nil_subset _) (fun other also => ?_) fun other also => ?_
        · rw [only other also]
          exact saved.startUid
        · rw [only other also]
          exact saved.described
      refine Triple.bind counted fun _ => ?_
      cases made : (slot.bundler.save descriptorUid eventUid).1 with
      | error error =>
          refine Triple.fail _ fun engine ⟨pending, described, rejected, _⟩ => ?_
          rw [← rejected error rfl]
          exact described
      | ok docs =>
          refine Triple.bind (Triple.modify fun engine ⟨pending, described, _, composed⟩ => ?_) fun _ =>
            Triple.pure _ fun _ held => held
          have taken : Keeps (Effects .all .null) (Action.modify fun engine =>
              engine.withSlot key fun slot => { slot with bundleAssetObjs := [] } :
              EngineAction Unit) :=
            slot_effects trivial fun slot => .assets slot []
          have moved := plain_body taken engine
          exact ⟨save_openStreamName made, pending, moved.described pending described,
            composed_kept moved.kept (composed docs rfl)⟩

/-- Assets and Events go out after the Descriptor. -/
private theorem sendEvent_triple (env : Env) (key : RunKey) (stream : String) (event : Event)
    (assets : List Document) :
    Triple (fun engine => Described [] engine ∧ Announced key event engine.log)
      (do
        each (deliver env key stream) assets
        emit env key stream .bundle event
        pure () : EngineAction Unit) (fun _ => Described []) (fun _ => Described []) := by
  have delivered : Keeps Plain (each (deliver env key stream) assets) :=
    plain_body (Keeps.each fun _ _ => deliver_effects trivial trivial env _ _)
  exact Triple.bind (plain_triple delivered fun _ _ kept held => held.kept kept) fun _ =>
    Triple.bind (emit_triple env key stream .bundle event) fun _ => Triple.pure _ fun _ held => held

private theorem emitSaved_triple (env : Env) (key : RunKey) (stream : String)
    (docs assets : List Document) :
    Triple
      (fun engine => ∃ pending, Described pending engine ∧ Composed key engine.log docs pending)
      (emitSaved env key stream docs assets) (fun _ => Described []) (fun _ => Described []) := by
  rintro engine ⟨pending, described, composed⟩
  have delivered : Announces (each (deliver env key stream) assets) :=
    announces_of_plain (plain_body (Keeps.each fun _ _ => deliver_effects trivial trivial env _ _))
  cases composed with
  | empty =>
      have nothing : Announces (emitSaved env key stream [] assets) :=
        Triple.bind (Triple.pure _ fun _ held => held) fun _ => Triple.bind delivered fun _ =>
          Triple.pure _ fun _ held => held
      exact nothing engine described
  | event event sendable =>
      exact sendEvent_triple env key stream event assets engine ⟨described, sendable⟩
  | first descriptor event owned names =>
      have framed : ∀ before after, RunsKept before after →
          startOf key before.log = some descriptor.runStart →
          startOf key after.log = some descriptor.runStart := fun _ _ kept owned =>
        (kept.starts key).trans owned
      have announced : Triple
          (fun engine => Described [descriptor] engine ∧
            startOf key engine.log = some descriptor.runStart)
          (broadcast env (.descriptor descriptor))
          (fun _ engine => Described [] engine ∧ Announced key event engine.log)
          (fun _ => Described []) :=
        (announce_triple env descriptor framed).weaken (fun _ held => held)
          (fun _ _ held => ⟨held.1, descriptor.runStart, held.2.1, names ▸ held.2.2⟩)
          fun _ _ held => held
      have whole : Triple
          (fun engine => Described [descriptor] engine ∧
            startOf key engine.log = some descriptor.runStart)
          (emitSaved env key stream [.descriptor descriptor, .event event] assets)
          (fun _ => Described []) (fun _ => Described []) := by
        refine Triple.bind (Triple.bind announced fun _ => Triple.pure _ fun _ held => held) fun _ =>
          sendEvent_triple env key stream event assets
      exact whole engine ⟨described, owned⟩

/-- A Save that composes its stream's Descriptor gets the stream's assets drained and packed. -/
def savesWhole (env : Env) (msg : Msg) (engine : RunEngine) : Bool :=
  match route msg with
  | (key, .save) =>
      match composeSave key engine with
      | (.error _, _) => true
      | (.ok saved, reached) =>
          !saved.docs.any Document.isDescriptor ||
            saved.stream.all fun stream => (savedAssets env key stream saved reached).1.isOk
  | _ => true

theorem handleSave_described {env : Env} {key : RunKey} {engine : RunEngine}
    (described : Described [] engine)
    (whole : ∀ saved reached stream, composeSave key engine = (.ok saved, reached) →
      saved.stream = some stream → saved.docs.any Document.isDescriptor = true →
      (savedAssets env key stream saved reached).1.isOk = true) :
    Described [] (handleSave env key engine).2 := by
  have composing := composeSave_triple key engine described
  unfold handleSave
  rw [bind_apply]
  rcases ran : composeSave key engine with ⟨outcome, reached⟩
  rw [ran] at composing
  cases outcome with
  | error error => exact composing
  | ok saved =>
      obtain ⟨named, pending, held, composed⟩ := composing
      obtain ⟨stream, name⟩ := Option.isSome_iff_exists.mp named
      dsimp only
      rw [name]
      have drained : Plain reached (savedAssets env key stream saved reached).2 :=
        plain_body (savedAssets_effects trivial trivial env stream saved) reached
      dsimp only
      rw [bind_apply]
      rcases took : savedAssets env key stream saved reached with ⟨outcome, left⟩
      rw [took] at drained
      cases outcome with
      | error error =>
          have none : pending = [] := by
            have cut := whole saved reached stream ran name
            rw [took] at cut
            generalize saved.docs = docs at composed cut
            cases composed with
            | empty => rfl
            | event event sendable => rfl
            | first descriptor event owned names => cases cut rfl
          subst none
          exact drained.described [] held
      | ok assets =>
          have sent := emitSaved_triple env key stream saved.docs assets
          exact (Triple.to_keeps sent) left
            ⟨pending, drained.described pending held, composed_kept drained.kept composed⟩

/-! ## Opening a run -/

private theorem Described.opened {engine : RunEngine} {pending : List EventDescriptor}
    (described : Described [] engine) (key : RunKey) {bundler : RunBundler} {start : Uid}
    (own : bundler.bundle.startUid = start)
    (slot : SlotDescribed pending engine.log (.new bundler)) :
    Described pending ((engine.withState fun state =>
      { state with runs := state.runs.insert key (.new bundler) }).record (.opened key start)) := by
  have later : ∀ first uid, announced first uid engine.log = true →
      announced first uid (.opened key start :: engine.log) = true := fun _ _ => id
  have among : ∀ other, ∀ current ∈ (engine.state.runs.insert key (.new bundler)).lookup other,
      other = key ∧ current = .new bundler ∨ other ≠ key ∧ current ∈ engine.state.run other := by
    intro other current held
    by_cases same : other = key
    · subst same
      rw [AList.lookup_insert] at held
      exact .inl ⟨rfl, (Option.some.inj held).symm⟩
    · rw [AList.lookup_insert_ne same] at held
      exact .inr ⟨same, held⟩
  refine ⟨fun other current held => ?_, fun other current held => ?_, trivial, described.backed⟩
  · rcases among other current held with ⟨rfl, rfl⟩ | ⟨-, was⟩
    · exact slot.kept (.refl _) later
    · exact ((described.slots other current was).kept (.refl _) later).mono (List.nil_subset _)
  · rcases among other current held with ⟨rfl, rfl⟩ | ⟨different, was⟩
    · exact (if_pos rfl).trans (congrArg some own.symm)
    · exact (if_neg (Ne.symm different)).trans (described.starts other current was)

private theorem new_described (log : List Entry) (start : RunStart) :
    SlotDescribed [] log (.new (RunBundler.new (RunBundle.open start))) :=
  ⟨fun _ => rfl, fun _ _ => nofun, fun _ _ => nofun, fun _ _ => nofun,
    fun _ running => absurd running List.not_mem_nil⟩

private theorem installRun_announces (env : Env) (key : RunKey) (start : RunStart) :
    Announces (installRun env key start) := by
  refine Triple.bind (announces_of_plain (plain_body mint_effects)) fun uid =>
    announces_ask fun recording => ?_
  split
  · refine Triple.bind (Triple.modify fun engine described => ?_) fun _ => broadcast_announces env _
    have declared := (new_described engine.log start).declare uid "interruptions"
      [.objectless interruptionKeys]
    exact described.opened key (RunBundle.startUid_descriptor _ _ _ _ _ _ _) declared
  · exact Triple.modify fun engine described =>
      described.opened key rfl (new_described engine.log start)

theorem openRun_announces (env : Env) (key : RunKey) (metadata : RunMetadata) :
    Announces (openRun env key metadata) := by
  refine announces_ask fun isOpen => ?_
  split
  · exact announces_of_plain (plain_body (reject_effects _))
  · refine announces_ask fun merged => ?_
    have persisted : ∀ scanId, Keeps Plain (Action.modify fun engine =>
        { engine with md := engine.md.insert "scan_id" (toString (scanId : Nat)) } :
        EngineAction Unit) := fun scanId =>
      plain_body (Keeps.modify fun engine => .single (.persist engine _ engine.scanId))
    exact Triple.bind (announces_of_plain (plain_body (resolveScanId_effects env metadata merged)))
      fun scanId => Triple.bind (announces_of_plain (persisted scanId)) fun _ =>
        Triple.bind (announces_of_plain (plain_body mint_effects)) fun uid =>
          Triple.bind (announces_of_plain (plain_body (Keeps.lift _))) fun extra =>
            Triple.bind (announces_of_plain (plain_body (broadcast_effects env trivial))) fun _ =>
              Triple.bind (installRun_announces env key _) fun _ => Triple.pure _ fun _ held => held

/-! ## Every message, and the engine's own work -/

theorem handle_described {env : Env} {msg : Msg} {engine : RunEngine}
    (described : Described [] engine) (whole : savesWhole env msg engine = true) :
    Described [] (handle env msg engine).2 := by
  have plain : ¬ Describes (route msg).2 → Described [] (handle env msg engine).2 := fun plain =>
    (plain_of_effects plain (handle_effects env msg) engine).described [] described
  have unit : ∀ {body : EngineAction Unit}, Described [] (body engine).2 →
      Described [] ((do body; return none : EngineAction (Option Uid)) engine).2 := by
    intro body held
    rw [bind_apply]
    rcases ran : body engine with ⟨outcome, reached⟩
    rw [ran] at held
    cases outcome <;> exact held
  unfold handle at plain ⊢
  unfold savesWhole at whole
  rcases routed : route msg with ⟨key, inner⟩
  rw [routed] at plain whole
  dsimp only at plain whole ⊢
  cases inner with
  | save =>
      refine unit (handleSave_described described fun saved reached stream ran named first => ?_)
      dsimp only at whole
      rw [ran] at whole
      simpa [named, first] using whole
  | openRun metadata =>
      have opened : Announces (handleRouted env key (.openRun metadata)) :=
        Triple.bind (openRun_announces env key metadata) fun _ =>
          Triple.bind (announces_of_plain (plain_body (setMsgResult_effects _))) fun _ =>
            Triple.pure _ fun _ held => held
      exact (Triple.to_keeps opened) engine described
  | declareStream streamName objs =>
      exact unit ((Triple.to_keeps (handleDeclareStream_announces env key streamName objs)) engine
        described)
  | collect obj streamName =>
      exact unit ((Triple.to_keeps (collectObject_announces env key obj streamName)) engine described)
  | configure obj args =>
      exact unit ((Triple.to_keeps (handleConfigure_announces env key obj args)) engine described)
  | monitor obj name =>
      exact unit ((Triple.to_keeps (handleMonitor_announces env key obj name)) engine described)
  | _ => exact plain id

/-- Interruption records go to the streams opening a run declared. -/
private theorem recordInterruption_announces (env : Env) (content : String) :
    Announces (recordInterruption env content) := by
  refine announces_ask fun recording => ?_
  split
  · refine announces_ask fun keys => announces_each (fun key => ?_) keys
    refine Triple.bind (Triple.modify fun engine described => ?_) fun _ =>
      Triple.bind (announces_of_plain (plain_body (await_effects env))) fun _ =>
        Triple.pure _ fun _ held => held
    exact feed_described .interruption _ _ described fun slot held descriptor current =>
      ((described.slots key slot held).known _ descriptor current).resolve_left List.not_mem_nil
  · exact Triple.pure _ fun _ held => held

private theorem notifyAll_announces (env : Env) (request : Obj → Call) (objs : List Obj) :
    Announces (each (fun obj => notify env (request obj)) objs) :=
  announces_each (fun _ => announces_of_plain (plain_body (notify_effects env _))) objs

private theorem onPauseEnter_announces (env : Env) (interruption : String) :
    Announces (onPauseEnter env interruption) := by
  have quiesced : Keeps Plain (Action.modify fun engine => engine.withState fun state =>
      { state with runs := state.runs.mapValues fun _ slot => slot.clearTasks } :
      EngineAction Unit) :=
    plain_body (Keeps.modify fun engine => .single (.quiesce engine fun _ => trivial))
  exact Triple.bind (announces_of_plain quiesced) fun _ =>
    announces_ask fun movables => Triple.bind (notifyAll_announces env _ movables) fun _ =>
      announces_ask fun flyables => Triple.bind (notifyAll_announces env _ flyables) fun _ =>
        announces_ask fun pausables => Triple.bind (notifyAll_announces env _ pausables) fun _ =>
          recordInterruption_announces env _

/-- A rewind rolls counters back, not descriptors. -/
private theorem armReplay_plain (engine : RunEngine) : Plain engine engine.armReplay := by
  have kept : RunsKept engine engine.armReplay := by
    cases empty : engine.state.msgCache.isEmpty with
    | true => exact .of_same (if_pos empty) (.cons rfl _)
    | false =>
        refine .mapValues (fun slot => { slot with
          bundler := slot.bundler.rewind, bundleAssetObjs := [] }) (if_neg (by simp [empty]))
          (fun slot => ?_) (.cons rfl _)
        unfold RunBundler.rewind
        split
        · exact ⟨rfl, fun _ => rfl, rfl, fun _ => id⟩
        · exact ⟨rfl, by simp, rfl, fun _ => id⟩
  exact ⟨kept, fun _ described => described.kept kept ⟨trivial, described.backed⟩⟩

private theorem onResume_announces (env : Env) : Announces (onResume env) :=
  Triple.bind (announces_of_plain (Keeps.modify armReplay_plain)) fun _ =>
    announces_ask fun pausables => Triple.bind (notifyAll_announces env _ pausables) fun _ =>
      Triple.bind (restoreMonitors_announces env) fun _ => recordInterruption_announces env _

/-- Every Save that is handled is whole. -/
private abbrev HandlesWhole (env : Env) (deed : Deed) (engine : RunEngine) : Prop :=
  ∀ msg, deed = .handle msg → savesWhole env msg engine = true

theorem described_of_loopMove {going : Prop} {before after : RunEngine}
    (move : LoopMove going HandlesWhole before after)
    (described : Described [] before) : Described [] after := by
  have still : before.state.runs = after.state.runs → Grows Entry.opensNone before.log after.log →
      Always Backed after.log → Described [] after := fun runs log backed =>
    described.kept (.of_same runs.symm log) backed
  cases move with
  | handled env msg taken => exact handle_described described (taken msg rfl)
  | pauseEntered env interruption taken =>
      exact (Triple.to_keeps (onPauseEnter_announces env interruption)) before described
  | restored env taken => exact (Triple.to_keeps (restoreMonitors_announces env)) before described
  | resumed env taken => exact (Triple.to_keeps (onResume_announces env)) before described
  | closed env status reason taken =>
      exact (Triple.to_keeps (drainAndClose_announces env status reason)) before described
  | receive request => cases request <;> exact still rfl (.cons rfl _) ⟨trivial, described.backed⟩
  | pump update => exact pump_described described update
  | mark entry plain =>
      have opensNone : entry.opensNone = true := by
        cases entry <;> first | rfl | cases plain
      have backed : Backed entry before.log := by
        cases entry <;> trivial
      exact still rfl (.cons opensNone _) ⟨backed, described.backed⟩
  | throw caught =>
      unfold RunEngine.throwIntoPlan at caught
      split at caught
      · cases caught
      · cases caught
        exact still rfl (.cons rfl _) ⟨trivial, described.backed⟩
  | answered | control | share => exact still rfl (.refl _) described.backed
  | _ => exact still rfl (.cons rfl _) ⟨trivial, described.backed⟩

/-- The Save about to be handled, if there is one, is whole. -/
def SavesWhole {σ : Type} (config : Config σ) (label : Label) : Prop :=
  ∀ handled ∈ config.handles label, savesWhole handled.1 handled.2 config.engine = true

instance {σ : Type} (config : Config σ) (label : Label) : Decidable (SavesWhole config label) :=
  inferInstanceAs (Decidable (∀ handled ∈ config.handles label, _))

/-- While every Save that composes its stream's Descriptor is whole, every Event the engine sends
out names a Descriptor its run has broadcast before. -/
theorem backed_of_savesWhole {plans : PlanStream σ} (idle : engine.Idle)
    (trace : run plans (Config.start engine plan) labels = some reached)
    (whole : Throughout (step plans) SavesWhole (Config.start engine plan) labels) :
    Always Backed reached.engine.log := by
  have initial : Described [] (Config.start engine plan).engine := by
    have none : ∀ key, (Config.start engine plan).engine.state.run key = none := by
      simp [Config.start, RunEngine.begin, EngineState.run, idle.runs]
    refine ⟨fun key slot held => ?_, fun key slot held => ?_, trivial⟩
    · rw [none] at held
      cases held
    · rw [none] at held
      cases held
  have held : Described [] reached.engine := by
    refine Bsrs.Library.exec_invariant_throughout (fun config => Described [] config.engine) ?_ trace
      whole initial
    intro before label after stepped allowed described
    have moves : LoopMoves True HandlesWhole before.engine after.engine :=
      step_moves stepped fun env deed does msg same =>
        allowed (env, msg) (Config.handles_of_does (same ▸ does))
    exact loopMoves_invariant (Described []) (fun _ _ => described_of_loopMove) moves described
  exact held.backed

/-- A detector that writes its data to files. -/
private def fileDetector : Obj :=
  { ptr := 0, name := "det", hintFields := none, configurable := false, collectable := false,
    writesExternalAssets := true }

/-- The detector's files cannot be reported. -/
private def lostAssets : Env :=
  { Env.calm with collectAssetDocs := fun _ _ _ => .error (.backend "unreachable") }

/-- Two bundles on one stream, the first of them saved in a contingency region. -/
private def savedTwice : List PlanItem :=
  [.openRun ⟨none, ∅, none⟩, .create "primary", .read fileDetector, .pushContingency 0, .save,
    .popContingency, .create "primary", .read fileDetector, .save].map .bare

theorem backed_savedTwice :
    ∃ reached ∈ run planItems (Config.start .new savedTwice) (loops .calm 27),
      Always Backed reached.engine.log := by
  have whole : Throughout (step planItems) SavesWhole (Config.start .new savedTwice)
      (loops .calm 27) := by decide +kernel
  have ends : (run planItems (Config.start .new savedTwice) (loops .calm 27)).isSome = true := by
    decide +kernel
  obtain ⟨reached, trace⟩ := Option.isSome_iff_exists.mp ends
  exact ⟨reached, trace, backed_of_savesWhole new_idle trace whole⟩

/-- The Save whose assets cannot be drained leaves a Descriptor that is never broadcast, and the
next bundle's Event names it. -/
theorem backed_fails_lostAssets :
    ∃ reached ∈ run planItems (Config.start .new savedTwice)
      (loops .calm 14 ++ .loop lostAssets :: loops .calm 12),
      ¬ Always Backed reached.engine.log := by
  decide +kernel

end Bsrs.Engine
