import Bsrs.Library.Triple
import Bsrs.Engine.Idle
import Bsrs.Engine.LoopMove

namespace Bsrs.Engine

open Bsrs.Library (Table Action Grows Always Throughout)
open Bsrs.Library.Action
open Bsrs.EventModel
open Bsrs.Core
open Relation (ReflTransGen)

/-! ## Descriptors on the wire -/

/-- The run last opened under the key. -/
def startOf (key : RunKey) : List Entry → Option Uid
  | [] => none
  | .opened other start :: rest => if other = key then some start else startOf key rest
  | _ :: rest => startOf key rest

def Entry.announces (start uid : Uid) : Entry → Bool
  | .broadcast (.descriptor doc) => doc.runStart = start ∧ doc.uid = uid
  | _ => false

/-- The run has broadcast a Descriptor with this uid. -/
def announced (start uid : Uid) (log : List Entry) : Bool :=
  log.any (Entry.announces start uid)

/-- The Event names a Descriptor that the run now open under the key has broadcast. -/
def Announced (key : RunKey) (event : Event) (log : List Entry) : Prop :=
  ∃ start ∈ startOf key log, announced start event.descriptor log = true

/-- An Event the engine sends out names a Descriptor its run has broadcast before. -/
def Backed : Entry → List Entry → Prop
  | .emitted key _ _ event, rest => Announced key event rest
  | _, _ => True

instance : ∀ entry rest, Decidable (Backed entry rest) := by
  rintro (_ | _) rest <;> dsimp only [Backed, Announced] <;> infer_instance

/-! ## Descriptors in the caches -/

/-- The caches of one open run agree, and the Descriptors in them are on the wire but for those
`pending`; a pump feeds a stream whose Descriptor is. -/
structure SlotDescribed (pending : List EventDescriptor) (log : List Entry) (slot : RunSlot) :
    Prop where
  synced : ∀ stream, slot.bundler.descriptorUid stream =
    (slot.bundler.bundle.described stream).map EventDescriptor.uid
  named : ∀ stream, ∀ descriptor ∈ slot.bundler.bundle.described stream,
    descriptor.name = some stream
  owned : ∀ stream, ∀ descriptor ∈ slot.bundler.bundle.described stream,
    descriptor.runStart = slot.bundler.bundle.startUid
  known : ∀ stream, ∀ descriptor ∈ slot.bundler.bundle.described stream,
    descriptor ∈ pending ∨ announced descriptor.runStart descriptor.uid log = true
  fed : ∀ task ∈ slot.pumps,
    ∃ descriptor ∈ slot.bundler.bundle.described task.stream,
      announced descriptor.runStart descriptor.uid log = true

structure Described (pending : List EventDescriptor) (engine : RunEngine) : Prop where
  slots : ∀ key, ∀ slot ∈ engine.state.run key, SlotDescribed pending engine.log slot
  starts : ∀ key, ∀ slot ∈ engine.state.run key,
    startOf key engine.log = some slot.bundler.bundle.startUid
  backed : Always Backed engine.log

/-- The open run `key`, if any, has declared the stream. -/
def Declares (key : RunKey) (stream : String) (engine : RunEngine) : Prop :=
  ∀ slot ∈ engine.state.run key, (slot.bundler.bundle.described stream).isSome

/-! ## Moves that compose nothing -/

/-- The slot's descriptors stay, and no pump is added. -/
structure SlotKept (before after : RunSlot) : Prop where
  startUid : after.bundler.bundle.startUid = before.bundler.bundle.startUid
  described : ∀ stream, after.bundler.bundle.described stream =
    before.bundler.bundle.described stream
  descriptors : after.bundler.descriptors = before.bundler.descriptors
  tasks : ∀ task ∈ after.pumps, task ∈ before.pumps

/-- The descriptors of the runs that stay open stay, on the wire as in the caches. -/
structure RunsKept (before after : RunEngine) : Prop where
  slots : ∀ key, ∀ slot ∈ after.state.run key, ∃ earlier ∈ before.state.run key,
    SlotKept earlier slot
  starts : ∀ key, startOf key after.log = startOf key before.log
  announced : ∀ start uid, announced start uid before.log = true →
    announced start uid after.log = true

theorem SlotKept.refl (slot : RunSlot) : SlotKept slot slot :=
  ⟨rfl, fun _ => rfl, rfl, fun _ => id⟩

theorem SlotKept.trans {first second third : RunSlot} (head : SlotKept first second)
    (tail : SlotKept second third) : SlotKept first third where
  startUid := tail.startUid.trans head.startUid
  described stream := (tail.described stream).trans (head.described stream)
  descriptors := tail.descriptors.trans head.descriptors
  tasks task held := head.tasks task (tail.tasks task held)

theorem RunsKept.refl (engine : RunEngine) : RunsKept engine engine :=
  ⟨fun _ slot held => ⟨slot, held, .refl slot⟩, fun _ => rfl, fun _ _ => id⟩

theorem RunsKept.trans {first second third : RunEngine} (head : RunsKept first second)
    (tail : RunsKept second third) : RunsKept first third where
  slots key slot held := by
    obtain ⟨middle, found, later⟩ := tail.slots key slot held
    obtain ⟨earlier, was, sooner⟩ := head.slots key middle found
    exact ⟨earlier, was, sooner.trans later⟩
  starts key := (tail.starts key).trans (head.starts key)
  announced start uid known := tail.announced start uid (head.announced start uid known)

/-- Entries that open no run. -/
def Entry.opensNone : Entry → Bool
  | .opened _ _ => false
  | _ => true

private theorem startOf_skips {key : RunKey} (entry : Entry) (rest : List Entry)
    (plain : entry.opensNone = true) : startOf key (entry :: rest) = startOf key rest := by
  cases entry <;> first | rfl | cases plain

theorem announced_grows {start uid : Uid} {known : Entry → Bool} {before after : List Entry}
    (grown : Grows known before after) (was : announced start uid before = true) :
    announced start uid after = true := by
  obtain ⟨added, rfl, -⟩ := grown
  unfold announced at was ⊢
  rw [List.any_append, was, Bool.or_true]

theorem RunsKept.of_log {before after : RunEngine}
    (slots : ∀ key, ∀ slot ∈ after.state.run key, ∃ earlier ∈ before.state.run key,
      SlotKept earlier slot)
    (log : Grows Entry.opensNone before.log after.log) : RunsKept before after :=
  ⟨slots, fun _ => log.reading startOf_skips, fun _ _ => announced_grows log⟩

/-- The runs are untouched. -/
theorem RunsKept.of_same {before after : RunEngine} (runs : after.state.runs = before.state.runs)
    (log : Grows Entry.opensNone before.log after.log) : RunsKept before after := by
  refine .of_log (fun key slot held => ⟨slot, ?_, .refl slot⟩) log
  unfold EngineState.run at held ⊢
  rwa [runs] at held

theorem run_withSlot (engine : RunEngine) (key other : RunKey) (update : RunSlot → RunSlot) :
    (engine.withSlot other update).state.run key =
      if key = other then (engine.state.run key).map update else engine.state.run key := by
  unfold RunEngine.withSlot RunEngine.withState EngineState.run
  dsimp only
  rw [Table.lookup_modify]
  by_cases same : key = other
  · subst same
    rfl
  · rw [if_neg same, if_neg same]

theorem RunsKept.withSlot (engine : RunEngine) (key : RunKey) {update : RunSlot → RunSlot}
    (kept : ∀ slot ∈ engine.state.run key, SlotKept slot (update slot)) :
    RunsKept engine (engine.withSlot key update) := by
  refine .of_log (fun other slot held => ?_) (.refl _)
  rw [run_withSlot] at held
  by_cases same : other = key
  · subst same
    rw [if_pos rfl] at held
    obtain ⟨earlier, found, rfl⟩ := Option.map_eq_some_iff.mp held
    exact ⟨earlier, found, kept earlier found⟩
  · rw [if_neg same] at held
    exact ⟨slot, held, .refl slot⟩

/-- All open runs at once. -/
theorem RunsKept.mapValues {before after : RunEngine} (update : RunSlot → RunSlot)
    (runs : after.state.runs = before.state.runs.mapValues fun _ slot => update slot)
    (kept : ∀ slot, SlotKept slot (update slot))
    (log : Grows Entry.opensNone before.log after.log) : RunsKept before after := by
  refine .of_log (fun key slot held => ?_) log
  unfold EngineState.run at held
  rw [runs, Table.lookup_mapValues] at held
  obtain ⟨earlier, found, rfl⟩ := Option.map_eq_some_iff.mp held
  exact ⟨earlier, found, kept earlier⟩

section

variable {pending : List EventDescriptor} {before after : RunEngine}

theorem SlotDescribed.kept {slot current : RunSlot} {log later : List Entry}
    (described : SlotDescribed pending log slot) (kept : SlotKept slot current)
    (known : ∀ start uid, announced start uid log = true → announced start uid later = true) :
    SlotDescribed pending later current where
  synced stream := by
    rw [kept.described, ← described.synced]
    unfold RunBundler.descriptorUid
    rw [kept.descriptors]
  named stream descriptor held := described.named stream descriptor (kept.described stream ▸ held)
  owned stream descriptor held := by
    rw [kept.startUid]
    exact described.owned stream descriptor (kept.described stream ▸ held)
  known stream descriptor held :=
    (described.known stream descriptor (kept.described stream ▸ held)).imp id (known _ _)
  fed task held := by
    obtain ⟨descriptor, found, sent⟩ := described.fed task (kept.tasks task held)
    exact ⟨descriptor, (kept.described task.stream).symm ▸ found, known _ _ sent⟩

theorem Described.kept (described : Described pending before) (kept : RunsKept before after)
    (backed : Always Backed after.log) : Described pending after where
  slots key slot held := by
    obtain ⟨earlier, found, same⟩ := kept.slots key slot held
    exact (described.slots key earlier found).kept same kept.announced
  starts key slot held := by
    obtain ⟨earlier, found, same⟩ := kept.slots key slot held
    rw [kept.starts, same.startUid]
    exact described.starts key earlier found
  backed := backed

theorem Declares.kept {key : RunKey} {stream : String} (declares : Declares key stream before)
    (kept : RunsKept before after) : Declares key stream after := by
  intro slot held
  obtain ⟨earlier, found, same⟩ := kept.slots key slot held
  rw [same.described]
  exact declares earlier found

theorem Announced.kept {key : RunKey} {event : Event} (sendable : Announced key event before.log)
    (kept : RunsKept before after) : Announced key event after.log := by
  obtain ⟨start, found, sent⟩ := sendable
  exact ⟨start, (kept.starts key).symm ▸ found, kept.announced start _ sent⟩

end

theorem run_of_bundler {engine : RunEngine} {key : RunKey} {bundler : RunBundler}
    (found : engine.state.bundler key = some bundler) :
    ∃ slot ∈ engine.state.run key, slot.bundler = bundler :=
  Option.map_eq_some_iff.mp found

theorem dropRun_slots (engine : RunEngine) (dropped key : RunKey) :
    ∀ slot ∈ (engine.dropRun dropped).state.run key, ∃ earlier ∈ engine.state.run key,
      SlotKept earlier slot := by
  intro slot held
  unfold RunEngine.dropRun RunEngine.withState EngineState.run at held
  by_cases same : key = dropped
  · subst same
    simp at held
  · rw [AList.lookup_erase_ne same] at held
    exact ⟨slot, held, .refl slot⟩

/-- A step that only updates the counters and caches of a run's bundler. -/
theorem SlotKept.bundler (slot : RunSlot) {update : RunBundler → RunBundler}
    (startUid : (update slot.bundler).bundle.startUid = slot.bundler.bundle.startUid)
    (described : ∀ stream, (update slot.bundler).bundle.described stream =
      slot.bundler.bundle.described stream)
    (descriptors : (update slot.bundler).descriptors = slot.bundler.descriptors) :
    SlotKept slot { slot with bundler := update slot.bundler } :=
  ⟨startUid, described, descriptors, fun _ => id⟩

theorem feed_kept (engine : RunEngine) (key : RunKey) (stream : String) (source : Source)
    (data timestamps : Table String Value) :
    RunsKept engine (engine.feed key stream source data timestamps) := by
  unfold RunEngine.feed
  split
  · exact .refl engine
  · split
    · exact .refl engine
    · have counted : ∀ slot : RunSlot, SlotKept slot { slot with bundler := { slot.bundler with
          bundle := (slot.bundler.bundle.event engine.nextUid stream data timestamps).2 } } :=
        fun slot => ⟨by simp, by simp, rfl, fun _ => id⟩
      have minted : RunsKept engine { engine with nextUid := engine.nextUid + 1 } :=
        .of_same rfl (.refl _)
      exact (minted.trans (.withSlot _ key fun slot _ => counted slot)).trans
        (.of_same rfl (.cons rfl _))

/-- An Event sent out at once on a stream whose Descriptor is on the wire. -/
theorem feed_described {engine : RunEngine} {key : RunKey} {stream : String} (source : Source)
    (data timestamps : Table String Value) {pending : List EventDescriptor}
    (described : Described pending engine)
    (sent : ∀ slot ∈ engine.state.run key, ∀ descriptor ∈ slot.bundler.bundle.described stream,
      announced descriptor.runStart descriptor.uid engine.log = true) :
    Described pending (engine.feed key stream source data timestamps) := by
  refine described.kept (feed_kept engine key stream source data timestamps) ?_
  unfold RunEngine.feed
  cases found : engine.state.bundler key with
  | none => exact described.backed
  | some bundler =>
      dsimp only
      cases composed : (bundler.bundle.event engine.nextUid stream data timestamps).1 with
      | none => exact described.backed
      | some event =>
          obtain ⟨slot, held, rfl⟩ := run_of_bundler found
          obtain ⟨descriptor, current, same⟩ := RunBundle.event_descriptor composed
          refine ⟨⟨slot.bundler.bundle.startUid, described.starts key slot held, ?_⟩, described.backed⟩
          rw [same, ← (described.slots key slot held).owned stream descriptor current]
          exact sent slot held descriptor current

theorem pump_described {engine : RunEngine} {pending : List EventDescriptor}
    (described : Described pending engine) (update : Update) :
    Described pending (engine.pump update) := by
  unfold RunEngine.pump
  split
  · rename_i running
    obtain ⟨slot, held, pumped⟩ := engine.hasPump_iff.mp running
    refine feed_described _ _ _ described fun other same descriptor current => ?_
    obtain rfl := Option.some.inj (held.symm.trans same)
    obtain ⟨fed, declared, sent⟩ := (described.slots _ slot held).fed update.task pumped
    obtain rfl := Option.some.inj (declared.symm.trans current)
    exact sent
  · exact described

theorem pump_kept (engine : RunEngine) (update : Update) : RunsKept engine (engine.pump update) := by
  unfold RunEngine.pump
  split
  · exact feed_kept _ _ _ _ _ _
  · exact .refl engine

section

variable {scope : Scope} {msg : Msg}

private theorem slotEffect_kept (plain : ¬ Describes msg) {before after : RunSlot}
    (effect : SlotEffect scope msg before after) : SlotKept before after := by
  cases effect with
  | task object task describes => exact absurd describes plain
  | declare uid stream objs describes => exact absurd describes plain
  | install descriptors configures =>
      obtain ⟨obj, args, rfl⟩ := configures
      exact absurd trivial plain
  | untask object => exact ⟨rfl, fun _ => rfl, rfl, fun _ => RunSlot.mem_pumps_eraseTask⟩
  | _ => exact ⟨rfl, fun _ => rfl, rfl, fun _ => id⟩

private theorem counting_kept (plain : ¬ Describes msg) {used : Option String}
    {before after : RunBundler} (counting : Counting msg used before after) :
    after.bundle.startUid = before.bundle.startUid ∧
      (∀ stream, after.bundle.described stream = before.bundle.described stream) ∧
      after.descriptors = before.descriptors := by
  cases counting with
  | compose _ uid stream data timestamps => exact ⟨by simp, by simp, rfl⟩
  | advance _ stream count => exact ⟨rfl, by simp, rfl⟩
  | save _ descriptorUid eventUid saves => exact absurd (saves ▸ trivial) plain

theorem countWith_kept (engine : RunEngine) (key : RunKey) (stream : Option String)
    {update : RunBundler → RunBundler}
    (kept : ∀ slot ∈ engine.state.run key,
      SlotKept slot { slot with bundler := update slot.bundler }) :
    RunsKept engine (engine.countWith key stream update) := by
  have counted : RunsKept engine (engine.withBundler key update) := .withSlot engine key kept
  unfold RunEngine.countWith
  split
  · exact counted.trans (.of_same rfl (.cons rfl _))
  · exact counted

private theorem receive_kept (engine : RunEngine) (request : Request) :
    RunsKept engine (engine.receive request) := by
  cases request <;> exact .of_same rfl (.cons rfl _)

/-- The elementary steps of a message that composes no Descriptor. -/
private theorem effect_kept (plain : ¬ Describes msg) {before after : RunEngine}
    (effect : Effect scope msg before after) : RunsKept before after := by
  cases effect with
  | pump update => exact pump_kept before update
  | interrupt content key own describes => exact absurd describes plain
  | trace entry leaves =>
      refine .of_same rfl (.cons ?_ _)
      cases entry <;> first | rfl | exact leaves.elim
  | sentOut key stream event own sends describes => exact absurd describes plain
  | slot key update own changes =>
      exact .withSlot before key fun slot found => slotEffect_kept plain (changes slot found)
  | count key stream update own uses =>
      refine countWith_kept before key stream fun slot found => ?_
      have held : before.state.bundler key = some slot.bundler :=
        Option.map_eq_some_iff.mpr ⟨slot, found, rfl⟩
      obtain ⟨startUid, described, descriptors⟩ := counting_kept plain (uses slot.bundler held)
      exact .bundler slot startUid described descriptors
  | quiesce =>
      exact .mapValues (fun slot => slot.clearTasks) rfl
        (fun slot => ⟨rfl, fun _ => rfl, rfl, fun _ => id⟩) (.refl _)
  | opened key bundler own opens fresh =>
      obtain ⟨metadata, rfl⟩ := opens
      exact absurd trivial plain
  | closed key bundler uid status reason stop own closes found stopped =>
      exact .of_log (dropRun_slots before key) (.cons rfl _)
  | lost key own closes => exact .of_log (dropRun_slots before key) (.refl _)
  | restart on restarts =>
      exact .mapValues (fun slot =>
        { slot with bundler := slot.bundler.resetCheckpointState }) rfl
        (fun _ => ⟨rfl, fun _ => rfl, rfl, fun _ => id⟩) (.cons rfl _)
  | clear clears =>
      exact .mapValues (fun slot =>
        { slot with bundler := slot.bundler.clearCheckpoint }) rfl
        (fun _ => ⟨rfl, fun _ => rfl, rfl, fun _ => id⟩) (.cons rfl _)
  | due checkpoint => exact .of_same rfl (.cons rfl _)
  | request request requests => exact receive_kept before request
  | _ => exact .of_same rfl (.refl _)

/-- Of these only the pumps send anything out. -/
private theorem effect_described (plain : ¬ Describes msg) {before after : RunEngine}
    {pending : List EventDescriptor} (effect : Effect scope msg before after)
    (described : Described pending before) : Described pending after := by
  refine described.kept (effect_kept plain effect) ?_
  cases effect with
  | pump update => exact (pump_described described update).backed
  | interrupt content key own describes => exact absurd describes plain
  | sentOut key stream event own sends describes => exact absurd describes plain
  | trace entry leaves =>
      refine ⟨?_, described.backed⟩
      cases entry <;> trivial
  | count key stream update own uses =>
      unfold RunEngine.countWith
      split
      · exact ⟨trivial, described.backed⟩
      · exact described.backed
  | request request requests => cases request <;> exact ⟨trivial, described.backed⟩
  | opened | closed | restart | clear | due => exact ⟨trivial, described.backed⟩
  | _ => exact described.backed

/-- A move that composes no Descriptor and sends out only what may be. -/
structure Plain (before after : RunEngine) : Prop where
  kept : RunsKept before after
  described : ∀ pending, Described pending before → Described pending after

instance : Std.Refl Plain :=
  ⟨fun engine => ⟨.refl engine, fun _ => id⟩⟩

instance : IsTrans RunEngine Plain :=
  ⟨fun _ _ _ head tail =>
    ⟨head.kept.trans tail.kept, fun pending => tail.described pending ∘ head.described pending⟩⟩

theorem plain_of_effect (plain : ¬ Describes msg) {before after : RunEngine}
    (effect : Effect scope msg before after) : Plain before after :=
  ⟨effect_kept plain effect, fun _ => effect_described plain effect⟩

theorem plain_of_effects (plain : ¬ Describes msg) {body : EngineAction α}
    (effects : Keeps (Effects scope msg) body) : Keeps Plain body := by
  intro engine
  have moves := effects engine
  generalize (body engine).2 = reached at moves ⊢
  induction moves with
  | refl => exact refl_of Plain engine
  | tail _ effect ih => exact trans_of Plain ih (plain_of_effect plain effect)

/-- What composes no Descriptor for any message composes none at all. -/
theorem plain_body {body : EngineAction α} (effects : Keeps (Effects .all .null) body) :
    Keeps Plain body :=
  plain_of_effects id effects

end

/-! ## Composing, broadcasting and sending out -/

section

variable {pending : List EventDescriptor} {holds : RunEngine → Prop}

/-- The frame rule: a plain computation keeps what depends on the runs' descriptors only. -/
theorem plain_triple {body : EngineAction α} (plain : Keeps Plain body)
    (framed : ∀ before after, RunsKept before after → holds before → holds after) :
    Triple (fun engine => Described pending engine ∧ holds engine) body
      (fun _ engine => Described pending engine ∧ holds engine)
      (fun _ engine => Described pending engine) :=
  .of_keeps plain
    (fun before _ after held moved =>
      ⟨moved.described pending held.1, framed before after moved.kept held.2⟩)
    (fun _ _ _ held moved => moved.described pending held.1)

theorem plain_stable {body : EngineAction α} (plain : Keeps Plain body) :
    Triple (Described pending) body (fun _ => Described pending) (fun _ => Described pending) :=
  .of_keeps plain (fun _ _ _ held moved => moved.described pending held)
    (fun _ _ _ held moved => moved.described pending held)

theorem SlotDescribed.mono {more : List EventDescriptor} {log : List Entry} {slot : RunSlot}
    (described : SlotDescribed pending log slot) (wider : pending ⊆ more) :
    SlotDescribed more log slot :=
  { described with
    known := fun stream descriptor held =>
      (described.known stream descriptor held).imp (fun member => wider member) id }

theorem Described.mono {more : List EventDescriptor} {engine : RunEngine}
    (described : Described pending engine) (wider : pending ⊆ more) : Described more engine :=
  { described with slots := fun key slot held => (described.slots key slot held).mono wider }

/-- Update one slot, which may leave Descriptors to broadcast. -/
theorem Described.withSlot {more : List EventDescriptor} {engine : RunEngine} {key : RunKey}
    {update : RunSlot → RunSlot} (described : Described pending engine) (wider : pending ⊆ more)
    (startUid : ∀ slot ∈ engine.state.run key,
      (update slot).bundler.bundle.startUid = slot.bundler.bundle.startUid)
    (now : ∀ slot ∈ engine.state.run key, SlotDescribed more engine.log (update slot)) :
    Described more (engine.withSlot key update) := by
  have found : ∀ other, ∀ slot ∈ (engine.withSlot key update).state.run other,
      slot ∈ engine.state.run other ∨
        other = key ∧ ∃ earlier ∈ engine.state.run key, update earlier = slot := by
    intro other slot held
    rw [run_withSlot] at held
    by_cases same : other = key
    · subst same
      rw [if_pos rfl] at held
      exact .inr ⟨rfl, Option.map_eq_some_iff.mp held⟩
    · rw [if_neg same] at held
      exact .inl held
  refine ⟨fun other slot held => ?_, fun other slot held => ?_, described.backed⟩
  · rcases found other slot held with untouched | ⟨rfl, earlier, was, rfl⟩
    · exact (described.slots other slot untouched).mono wider
    · exact now earlier was
  · rcases found other slot held with untouched | ⟨rfl, earlier, was, rfl⟩
    · exact described.starts other slot untouched
    · rw [startUid earlier was]
      exact described.starts other earlier was

/-- One stream's Descriptor is replaced in both caches; a pump may go on feeding the stream if the
new one is on the wire or is the old one. -/
theorem SlotDescribed.replace {log : List Entry} {slot : RunSlot} {more : List EventDescriptor}
    (described : SlotDescribed pending log slot) {bundler : RunBundler} {stream : String}
    {descriptor : EventDescriptor}
    (startUid : bundler.bundle.startUid = slot.bundler.bundle.startUid)
    (now : ∀ other, bundler.bundle.described other =
      if other = stream then some descriptor else slot.bundler.bundle.described other)
    (cached : bundler.descriptors = slot.bundler.descriptors.insert stream descriptor.uid)
    (named : descriptor.name = some stream)
    (owned : descriptor.runStart = slot.bundler.bundle.startUid) (wider : pending ⊆ more)
    (known : descriptor ∈ more ∨ announced descriptor.runStart descriptor.uid log = true)
    (fed : ∀ current ∈ slot.bundler.bundle.described stream, current = descriptor ∨
      announced descriptor.runStart descriptor.uid log = true) :
    SlotDescribed more log { slot with bundler } := by
  have among : ∀ other, ∀ current ∈ bundler.bundle.described other,
      other = stream ∧ current = descriptor ∨ current ∈ slot.bundler.bundle.described other := by
    intro other current found
    rw [now] at found
    by_cases same : other = stream
    · rw [if_pos same] at found
      exact .inl ⟨same, (Option.some.inj found).symm⟩
    · rw [if_neg same] at found
      exact .inr found
  refine ⟨fun other => ?_, fun other current found => ?_, fun other current found => ?_,
    fun other current found => ?_, fun task running => ?_⟩
  · dsimp only [RunBundler.descriptorUid]
    rw [now, cached]
    by_cases same : other = stream
    · subst same
      simp
    · rw [AList.lookup_insert_ne same, if_neg same]
      exact described.synced other
  · rcases among other current found with ⟨rfl, rfl⟩ | had
    · exact named
    · exact described.named other current had
  · dsimp only
    rw [startUid]
    rcases among other current found with ⟨rfl, rfl⟩ | had
    · exact owned
    · exact described.owned other current had
  · rcases among other current found with ⟨rfl, rfl⟩ | had
    · exact known
    · exact (described.known other current had).imp (fun member => wider member) id
  · obtain ⟨current, declared, sent⟩ := described.fed task running
    dsimp only
    rw [now]
    by_cases same : task.stream = stream
    · rw [if_pos same]
      refine ⟨descriptor, rfl, ?_⟩
      rcases fed current (same ▸ declared) with rfl | announced
      · exact sent
      · exact announced
    · rw [if_neg same]
      exact ⟨current, declared, sent⟩

/-- A declared stream's Descriptor is cached before it is broadcast. -/
theorem SlotDescribed.declare {log : List Entry} {slot : RunSlot}
    (described : SlotDescribed pending log slot) (uid : Uid) (stream : String)
    (objs : List StreamObject) :
    SlotDescribed ((slot.bundler.declareStream uid stream objs).1 :: pending) log
      { slot with bundler := (slot.bundler.declareStream uid stream objs).2 } := by
  have either : slot.bundler.bundle.described stream =
        some (slot.bundler.declareStream uid stream objs).1 ∨
      slot.bundler.bundle.described stream = none ∧
        (slot.bundler.declareStream uid stream objs).1.runStart = slot.bundler.bundle.startUid ∧
        (slot.bundler.declareStream uid stream objs).1.name = some stream :=
    RunBundle.descriptor_cases _ _ _ _ _ _ _
  have name : (slot.bundler.declareStream uid stream objs).1.name = some stream := by
    rcases either with had | ⟨-, -, name⟩
    · exact described.named stream _ had
    · exact name
  have owned : (slot.bundler.declareStream uid stream objs).1.runStart =
      slot.bundler.bundle.startUid := by
    rcases either with had | ⟨-, owned, -⟩
    · exact described.owned stream _ had
    · exact owned
  refine described.replace (RunBundle.startUid_descriptor _ _ _ _ _ _ _)
    (fun other => RunBundle.described_descriptor _ _ _ other _ _ _ _) rfl name owned
    (List.subset_cons_self _ _) (.inl (List.mem_cons_self ..)) fun current found => ?_
  rcases either with had | ⟨none, -, -⟩
  · exact .inl (Option.some.inj (Option.mem_def.mp found ▸ had))
  · rw [none] at found
    cases found

theorem declareInto_triple (key : RunKey) (missing : PlanError) (stream : String)
    (objs : List StreamObject) :
    Triple (Described pending) (declareInto key missing stream objs)
      (fun descriptor engine => Described (descriptor :: pending) engine ∧ Declares key stream engine)
      (fun _ => Described pending) := by
  refine Triple.bind (plain_stable (plain_body mint_effects)) fun uid => Triple.ask_bind fun found => ?_
  cases found with
  | none => exact Triple.fail _ fun engine held => held.1
  | some bundler =>
      rintro engine ⟨described, found⟩
      have same : ∀ slot ∈ engine.state.run key, slot.bundler = bundler := fun slot held => by
        simpa [EngineState.bundler, Option.mem_def.mp held] using found
      refine ⟨described.withSlot (List.subset_cons_self _ _) (fun slot held => ?_)
        fun slot held => ?_, fun slot held => ?_⟩
      · exact RunBundle.startUid_descriptor _ _ _ _ _ _ _
      · obtain rfl := same slot held
        exact (described.slots key slot held).declare uid stream objs
      · change slot ∈ (engine.withSlot key _).state.run key at held
        rw [run_withSlot, if_pos rfl] at held
        obtain ⟨earlier, was, rfl⟩ := Option.map_eq_some_iff.mp held
        have now : (earlier.bundler.declareStream uid stream objs).2.bundle.described stream = _ :=
          RunBundle.described_descriptor _ _ _ _ _ _ _ _
        simp [now]

/-- Broadcasting a Descriptor settles what was pending of it. -/
theorem Described.announce {engine : RunEngine} {descriptor : EventDescriptor}
    (described : Described (descriptor :: pending) engine) :
    Described pending (engine.record (.broadcast (.descriptor descriptor))) := by
  have kept : RunsKept engine (engine.record (.broadcast (.descriptor descriptor))) :=
    .of_same rfl (.cons rfl _)
  have all := described.kept kept ⟨trivial, described.backed⟩
  refine ⟨fun key slot held => ?_, all.starts, all.backed⟩
  refine { all.slots key slot held with known := fun stream current declared => ?_ }
  rcases (all.slots key slot held).known stream current declared with member | sent
  · rcases List.mem_cons.mp member with rfl | member
    · exact .inr (by simp [announced, RunEngine.record, Entry.announces])
    · exact .inl member
  · exact .inr sent

theorem announce_triple (env : Env) (descriptor : EventDescriptor)
    (framed : ∀ before after, RunsKept before after → holds before → holds after) :
    Triple (fun engine => Described (descriptor :: pending) engine ∧ holds engine)
      (broadcast env (.descriptor descriptor))
      (fun _ engine => Described pending engine ∧ holds engine ∧
        announced descriptor.runStart descriptor.uid engine.log = true)
      (fun _ => Described pending) := by
  have recorded : Triple (fun engine => Described (descriptor :: pending) engine ∧ holds engine)
      (record (.broadcast (.descriptor descriptor)))
      (fun _ engine => Described pending engine ∧ holds engine ∧
        announced descriptor.runStart descriptor.uid engine.log = true)
      (fun _ => Described pending) := by
    refine Triple.modify fun engine held => ⟨held.1.announce, ?_, ?_⟩
    · exact framed engine _ (.of_same rfl (.cons rfl _)) held.2
    · simp [announced, RunEngine.record, Entry.announces]
  refine Triple.bind recorded fun _ => Triple.bind (plain_triple (plain_body (await_effects env)) ?_)
    fun _ => Triple.pure _ fun _ held => held
  exact fun before after kept held => ⟨framed before after kept held.1, kept.announced _ _ held.2⟩

/-- An Event whose Descriptor is on the wire is sent out. -/
theorem emit_triple (env : Env) (key : RunKey) (stream : String) (source : Source) (event : Event) :
    Triple (fun engine => Described pending engine ∧ Announced key event engine.log)
      (emit env key stream source event) (fun _ => Described pending) (fun _ => Described pending) := by
  have sent : Triple (fun engine => Described pending engine ∧ Announced key event engine.log)
      (record (.emitted key stream source event)) (fun _ => Described pending)
      (fun _ => Described pending) :=
    Triple.modify fun engine held =>
      held.1.kept (.of_same rfl (.cons rfl _)) ⟨held.2, held.1.backed⟩
  exact Triple.bind sent fun _ => Triple.bind (plain_stable (plain_body (await_effects env)))
    fun _ => Triple.pure _ fun _ held => held

end

end Bsrs.Engine
