import Bsrs.Engine.Described

namespace Bsrs.Engine

open Bsrs.Library (Table Action Grows Always)
open Bsrs.Library.Action
open Bsrs.EventModel
open Bsrs.Core
open Relation (ReflTransGen)

/-! ## Checks on the wire -/

/-- A Descriptor is broadcast for the first time. -/
def FirstTime : Entry → List Entry → Prop
  | .broadcast (.descriptor doc), rest => announced doc.runStart doc.uid rest = false
  | _, _ => True

instance : ∀ entry rest, Decidable (FirstTime entry rest) := by
  rintro (_ | _) rest
  case broadcast doc => rcases doc with _ | _ <;> dsimp only [FirstTime] <;> infer_instance
  all_goals
    dsimp only [FirstTime]
    infer_instance

/-- The data and the timestamps of an Event have the keys the Descriptor gives. -/
def Fits (descriptor : EventDescriptor) (data timestamps : Table String Value) : Prop :=
  data.keys.Perm descriptor.dataKeys.keys ∧ timestamps.keys.Perm descriptor.dataKeys.keys

instance (descriptor : EventDescriptor) (data timestamps : Table String Value) :
    Decidable (Fits descriptor data timestamps) :=
  inferInstanceAs (Decidable (List.Perm _ _ ∧ List.Perm _ _))

/-- If the entry broadcasts the Descriptor the Event names, the Event fits it. -/
def Conforms (event : Event) : Entry → Prop
  | .broadcast (.descriptor doc) => doc.uid = event.descriptor → Fits doc event.data event.timestamps
  | _ => True

instance (event : Event) : ∀ entry, Decidable (Conforms event entry) := by
  intro entry
  unfold Conforms
  split <;> infer_instance

/-- An Event the engine sends out fits the Descriptor it names. -/
def Schematic : Entry → List Entry → Prop
  | .emitted _ _ _ event, rest => ∀ entry ∈ rest, Conforms event entry
  | _, _ => True

instance : ∀ entry rest, Decidable (Schematic entry rest) := by
  rintro (_ | _) rest <;> dsimp only [Schematic] <;> infer_instance

/-! ## The Descriptors the engine knows -/

/-- Some open run has the Descriptor in its cache. -/
def Cached (engine : RunEngine) (descriptor : EventDescriptor) : Prop :=
  ∃ key, ∃ slot ∈ engine.state.run key, ∃ stream,
    descriptor ∈ slot.bundler.bundle.described stream

/-- The Descriptor is about to be broadcast, in a cache, or has been broadcast. -/
def Known (pending : List EventDescriptor) (engine : RunEngine) (descriptor : EventDescriptor) :
    Prop :=
  descriptor ∈ pending ∨ Cached engine descriptor ∨
    Entry.broadcast (.descriptor descriptor) ∈ engine.log

/-- The two caches of one open run agree, on Descriptors of its own. -/
structure SlotFiled (slot : RunSlot) : Prop where
  synced : ∀ stream, slot.bundler.descriptorUid stream =
    (slot.bundler.bundle.described stream).map EventDescriptor.uid
  named : ∀ stream, ∀ descriptor ∈ slot.bundler.bundle.described stream,
    descriptor.name = some stream
  owned : ∀ stream, ∀ descriptor ∈ slot.bundler.bundle.described stream,
    descriptor.runStart = slot.bundler.bundle.startUid

/-- What the streams that pumps feed carry, and what has been sent out. -/
structure Schema (engine : RunEngine) : Prop where
  fed : ∀ key, ∀ slot ∈ engine.state.run key, ∀ task ∈ slot.pumps,
    ∃ descriptor ∈ slot.bundler.bundle.described task.stream,
      descriptor.dataKeys.keys = [task.key]
  always : Always Schematic engine.log

/-- Pending Descriptors that nobody has heard of. -/
structure Unheard (pending : List EventDescriptor) (log : List Entry) : Prop where
  silent : ∀ descriptor ∈ pending, announced descriptor.runStart descriptor.uid log = false
  distinct : (pending.map EventDescriptor.uid).Nodup

/-- What is asked of a stretch of a call beyond what always holds: that no Descriptor is broadcast
twice, that Events fit, and that the Descriptors broadcast since `base` belong to runs at `home`. -/
structure Goals where
  once : Prop
  agree : Prop
  base : List Entry
  home : Uid → Prop

/-- Entries that broadcast no Descriptor. -/
def Entry.announcesNone : Entry → Bool
  | .broadcast (.descriptor _) => false
  | _ => true

/-- The Descriptors an engine knows, but for those `pending` all cached or on the wire. -/
structure Catalogued (goals : Goals) (pending : List EventDescriptor) (engine : RunEngine) :
    Prop where
  slots : ∀ key, ∀ slot ∈ engine.state.run key, SlotFiled slot
  starts : ∀ key, ∀ slot ∈ engine.state.run key,
    startOf key engine.log = some slot.bundler.bundle.startUid
  minted : ∀ descriptor, Known pending engine descriptor → descriptor.uid < engine.nextUid
  unique : ∀ descriptor other, Known pending engine descriptor → Known pending engine other →
    descriptor.uid = other.uid → descriptor = other
  homed : ∀ descriptor ∈ pending, goals.home descriptor.runStart
  trail : ∃ added, engine.log = added ++ goals.base ∧
    ∀ descriptor, Entry.broadcast (.descriptor descriptor) ∈ added → goals.home descriptor.runStart
  first : goals.once → Unheard pending engine.log ∧ Always FirstTime engine.log
  schema : goals.agree → Schema engine

/-- What is known is known whatever stretch of a call comes next. -/
theorem Catalogued.rebase {goals : Goals} {engine : RunEngine}
    (held : Catalogued goals [] engine) (home : Uid → Prop) :
    Catalogued ⟨False, False, engine.log, home⟩ [] engine :=
  ⟨held.slots, held.starts, held.minted, held.unique, fun _ => nofun, ⟨[], rfl, fun _ => nofun⟩,
    False.elim, False.elim⟩

/-- The runs open under `key` are at home. -/
def AtHome (goals : Goals) (key : RunKey) (engine : RunEngine) : Prop :=
  ∀ slot ∈ engine.state.run key, goals.home slot.bundler.bundle.startUid

/-- The Events that may go to `stream` of the run `key` fit its Descriptor. -/
def Suits (key : RunKey) (stream : String) (data timestamps : Table String Value)
    (engine : RunEngine) : Prop :=
  ∀ slot ∈ engine.state.run key, ∀ descriptor ∈ slot.bundler.bundle.described stream,
    Fits descriptor data timestamps

/-! ## Moves that compose no Descriptor -/

section

variable {goals : Goals} {pending : List EventDescriptor} {before after engine : RunEngine}

theorem AtHome.kept {key : RunKey} (home : AtHome goals key before)
    (kept : RunsKept before after) : AtHome goals key after := by
  intro slot held
  obtain ⟨earlier, found, same⟩ := kept.slots key slot held
  rw [same.startUid]
  exact home earlier found

theorem Suits.kept {key : RunKey} {stream : String} {data timestamps : Table String Value}
    (suits : Suits key stream data timestamps before) (kept : RunsKept before after) :
    Suits key stream data timestamps after := by
  intro slot held descriptor current
  obtain ⟨earlier, found, same⟩ := kept.slots key slot held
  exact suits earlier found descriptor (same.described stream ▸ current)

theorem Cached.of_kept {descriptor : EventDescriptor} (cached : Cached after descriptor)
    (kept : RunsKept before after) : Cached before descriptor := by
  obtain ⟨key, slot, held, stream, current⟩ := cached
  obtain ⟨earlier, found, same⟩ := kept.slots key slot held
  exact ⟨key, earlier, found, stream, same.described stream ▸ current⟩

private theorem heard_of_grows {known : Entry → Bool} {log later : List Entry}
    (skips : ∀ entry, known entry = true → entry.announcesNone = true)
    (grown : Grows known log later) {descriptor : EventDescriptor}
    (heard : Entry.broadcast (.descriptor descriptor) ∈ later) :
    Entry.broadcast (.descriptor descriptor) ∈ log := by
  obtain ⟨added, rfl, quiet⟩ := grown
  rcases List.mem_append.mp heard with recent | past
  · have silent := skips _ (quiet _ recent)
    cases silent
  · exact past

private theorem announced_skips {start uid : Uid} (entry : Entry) (rest : List Entry)
    (silent : entry.announcesNone = true) :
    announced start uid (entry :: rest) = announced start uid rest := by
  have deaf : entry.announces start uid = false := by
    cases entry with
    | broadcast doc =>
        cases doc with
        | descriptor doc => cases silent
        | _ => rfl
    | _ => rfl
  simp [announced, deaf]

private theorem firstTime_of_silent (entry : Entry) (rest : List Entry)
    (silent : entry.announcesNone = true) : FirstTime entry rest := by
  cases entry with
  | broadcast doc =>
      cases doc with
      | descriptor doc => cases silent
      | _ => trivial
  | _ => trivial

theorem Known.of_kept {descriptor : EventDescriptor} (known : Known pending after descriptor)
    (kept : RunsKept before after) (log : Grows Entry.announcesNone before.log after.log) :
    Known pending before descriptor := by
  rcases known with waiting | cached | heard
  · exact .inl waiting
  · exact .inr (.inl (cached.of_kept kept))
  · exact .inr (.inr (heard_of_grows (fun _ => id) log heard))

theorem Unheard.grows {log later : List Entry} (unheard : Unheard pending log)
    (grown : Grows Entry.announcesNone log later) : Unheard pending later where
  silent descriptor member :=
    (grown.reading announced_skips).trans (unheard.silent descriptor member)
  distinct := unheard.distinct

theorem Catalogued.kept (held : Catalogued goals pending before) (kept : RunsKept before after)
    (minted : before.nextUid ≤ after.nextUid)
    (log : Grows Entry.announcesNone before.log after.log)
    (schema : goals.agree → Schema after) : Catalogued goals pending after where
  slots key slot found := by
    obtain ⟨earlier, was, same⟩ := kept.slots key slot found
    have filed := held.slots key earlier was
    refine ⟨fun stream => ?_, fun stream descriptor current => ?_,
      fun stream descriptor current => ?_⟩
    · rw [same.described, ← filed.synced]
      unfold RunBundler.descriptorUid
      rw [same.descriptors]
    · exact filed.named stream descriptor (same.described stream ▸ current)
    · rw [same.startUid]
      exact filed.owned stream descriptor (same.described stream ▸ current)
  starts key slot found := by
    obtain ⟨earlier, was, same⟩ := kept.slots key slot found
    rw [kept.starts, same.startUid]
    exact held.starts key earlier was
  minted descriptor known :=
    (held.minted descriptor (known.of_kept kept log)).trans_le minted
  unique descriptor other known also :=
    held.unique descriptor other (known.of_kept kept log) (also.of_kept kept log)
  homed := held.homed
  trail := by
    obtain ⟨added, whole, home⟩ := held.trail
    obtain ⟨later, grown, silent⟩ := log
    refine ⟨later ++ added, by rw [grown, whole, List.append_assoc], fun descriptor member => ?_⟩
    rcases List.mem_append.mp member with recent | past
    · have deaf := silent _ recent
      cases deaf
    · exact home descriptor past
  first once := by
    obtain ⟨unheard, always⟩ := held.first once
    exact ⟨unheard.grows log, (Always.grows firstTime_of_silent log).mpr always⟩
  schema := schema

theorem Schema.kept (held : Schema before) (kept : RunsKept before after)
    (always : Always Schematic after.log) : Schema after where
  fed key slot found task running := by
    obtain ⟨earlier, was, same⟩ := kept.slots key slot found
    rw [same.described]
    exact held.fed key earlier was task (same.tasks task running)
  always := always

/-- An Event that fits the Descriptor in the cache fits the one of that uid on the wire. -/
theorem Catalogued.schematic (held : Catalogued goals pending engine) {key : RunKey}
    {slot : RunSlot} (found : slot ∈ engine.state.run key) {stream : String}
    {descriptor : EventDescriptor}
    (current : descriptor ∈ slot.bundler.bundle.described stream) {event : Event}
    (same : event.descriptor = descriptor.uid)
    (fits : Fits descriptor event.data event.timestamps) :
    ∀ entry ∈ engine.log, Conforms event entry := by
  intro entry member
  cases entry with
  | broadcast doc =>
      cases doc with
      | descriptor heard =>
          intro uid
          have cached : Known pending engine descriptor :=
            .inr (.inl ⟨key, slot, found, stream, current⟩)
          obtain rfl := held.unique heard descriptor (.inr (.inr member)) cached (uid.trans same)
          exact fits
      | _ => trivial
  | _ => trivial

theorem feed_silent (engine : RunEngine) (key : RunKey) (stream : String) (source : Source)
    (data timestamps : Table String Value) :
    let fed := engine.feed key stream source data timestamps
    engine.nextUid ≤ fed.nextUid ∧ Grows Entry.announcesNone engine.log fed.log ∧
      fed.recordInterruptions = engine.recordInterruptions := by
  unfold RunEngine.feed
  split
  · exact ⟨le_rfl, .refl _, rfl⟩
  · split
    · exact ⟨le_rfl, .refl _, rfl⟩
    · exact ⟨Nat.le_succ _, .cons rfl _, rfl⟩

/-- An Event composed where what it carries fits. -/
theorem feed_catalogued {key : RunKey} {stream : String} (source : Source)
    {data timestamps : Table String Value} (held : Catalogued goals pending engine)
    (suits : goals.agree → Suits key stream data timestamps engine) :
    Catalogued goals pending (engine.feed key stream source data timestamps) := by
  have kept := feed_kept engine key stream source data timestamps
  obtain ⟨minted, log, -⟩ := feed_silent engine key stream source data timestamps
  refine held.kept kept minted log fun agree => (held.schema agree).kept kept ?_
  have always := (held.schema agree).always
  unfold RunEngine.feed
  cases found : engine.state.bundler key with
  | none => exact always
  | some bundler =>
      dsimp only
      cases composed : (bundler.bundle.event engine.nextUid stream data timestamps).1 with
      | none => exact always
      | some event =>
          obtain ⟨slot, open_, rfl⟩ := run_of_bundler found
          obtain ⟨descriptor, current, same⟩ := RunBundle.event_descriptor composed
          have carried := RunBundle.event_content composed
          refine ⟨held.schematic open_ current same ?_, always⟩
          rw [carried.1, carried.2]
          exact suits agree slot open_ descriptor current

theorem pump_catalogued (held : Catalogued goals pending engine) (update : Update) :
    Catalogued goals pending (engine.pump update) := by
  unfold RunEngine.pump
  split
  · rename_i running
    obtain ⟨slot, open_, pumped⟩ := engine.hasPump_iff.mp running
    refine feed_catalogued .pump held fun agree other same descriptor current => ?_
    obtain rfl := Option.some.inj (open_.symm.trans same)
    obtain ⟨alone, declared, keys⟩ := (held.schema agree).fed _ slot open_ update.task pumped
    obtain rfl := Option.some.inj (declared.symm.trans current)
    unfold Fits
    rw [keys]
    exact ⟨.refl _, .refl _⟩
  · exact held

theorem pump_silent (engine : RunEngine) (update : Update) :
    engine.nextUid ≤ (engine.pump update).nextUid ∧
      Grows Entry.announcesNone engine.log (engine.pump update).log ∧
        (engine.pump update).recordInterruptions = engine.recordInterruptions := by
  unfold RunEngine.pump
  split
  · exact feed_silent _ _ _ _ _ _
  · exact ⟨le_rfl, .refl _, rfl⟩

/-- A move that composes no Descriptor and sends out only Events that fit. -/
structure Tame (before after : RunEngine) : Prop where
  kept : RunsKept before after
  minted : before.nextUid ≤ after.nextUid
  log : Grows Entry.announcesNone before.log after.log
  recording : after.recordInterruptions = before.recordInterruptions
  catalogued : ∀ goals pending, Catalogued goals pending before → Catalogued goals pending after

instance : Std.Refl Tame :=
  ⟨fun engine => ⟨.refl engine, le_rfl, .refl _, rfl, fun _ _ => id⟩⟩

instance : IsTrans RunEngine Tame :=
  ⟨fun _ _ _ head tail =>
    ⟨head.kept.trans tail.kept, head.minted.trans tail.minted, head.log.trans tail.log,
      tail.recording.trans head.recording,
      fun goals pending => tail.catalogued goals pending ∘ head.catalogued goals pending⟩⟩

theorem Tame.grown (tame : Tame before after) : before.log <:+ after.log := by
  obtain ⟨added, grown, -⟩ := tame.log
  exact ⟨added, grown.symm⟩

/-- Entries that broadcast no Descriptor and send no Event out. -/
def Entry.isMute : Entry → Bool
  | .broadcast (.descriptor _) | .emitted _ _ _ _ => false
  | _ => true

private theorem announcesNone_of_isMute (entry : Entry) (mute : entry.isMute = true) :
    entry.announcesNone = true := by
  cases entry with
  | broadcast doc => cases doc <;> first | rfl | cases mute
  | _ => rfl

private theorem schematic_of_isMute (entry : Entry) (rest : List Entry)
    (mute : entry.isMute = true) : Schematic entry rest := by
  cases entry <;> trivial

/-- Where nothing is sent out, the runs decide. -/
theorem Catalogued.of_mute (held : Catalogued goals pending before) (kept : RunsKept before after)
    (minted : before.nextUid ≤ after.nextUid) (log : Grows Entry.isMute before.log after.log) :
    Catalogued goals pending after := by
  refine held.kept kept minted (log.mono announcesNone_of_isMute) fun agree =>
    (held.schema agree).kept kept ?_
  exact (Always.grows schematic_of_isMute log).mpr (held.schema agree).always

theorem Tame.of_mute (kept : RunsKept before after) (minted : before.nextUid ≤ after.nextUid)
    (recording : after.recordInterruptions = before.recordInterruptions)
    (log : Grows Entry.isMute before.log after.log) : Tame before after :=
  ⟨kept, minted, log.mono announcesNone_of_isMute, recording,
    fun _ _ held => held.of_mute kept minted log⟩

theorem pump_tame (engine : RunEngine) (update : Update) : Tame engine (engine.pump update) := by
  obtain ⟨minted, log, recording⟩ := pump_silent engine update
  exact ⟨pump_kept engine update, minted, log, recording,
    fun _ _ held => pump_catalogued held update⟩

private theorem receive_mute (engine : RunEngine) (request : Request) :
    engine.nextUid ≤ (engine.receive request).nextUid ∧
      Grows Entry.isMute engine.log (engine.receive request).log := by
  cases request <;> exact ⟨le_rfl, .cons rfl _⟩

/-- No message switches the recording of interruptions. -/
private theorem receive_recording {msg : Msg} {request : Request} (requests : Requests msg request)
    (engine : RunEngine) :
    (engine.receive request).recordInterruptions = engine.recordInterruptions := by
  cases msg with
  | pause defer => cases defer <;> cases requests <;> rfl
  | resume =>
      cases requests
      rfl
  | _ => cases requests

theorem countWith_mute (engine : RunEngine) (key : RunKey) (stream : Option String)
    (update : RunBundler → RunBundler) :
    engine.nextUid ≤ (engine.countWith key stream update).nextUid ∧
      Grows Entry.isMute engine.log (engine.countWith key stream update).log ∧
        (engine.countWith key stream update).recordInterruptions =
          engine.recordInterruptions := by
  unfold RunEngine.countWith
  split
  · exact ⟨le_rfl, .cons rfl _, rfl⟩
  · exact ⟨le_rfl, .refl _, rfl⟩

variable {scope : Scope} {msg : Msg}

private theorem isMute_of_leaves (plain : ¬ Describes msg) {entry : Entry}
    (leaves : Leaves scope msg entry) : entry.isMute = true := by
  cases entry with
  | broadcast doc =>
      cases doc with
      | descriptor doc => exact absurd leaves plain
      | _ => rfl
  | emitted key stream source event => exact leaves.elim
  | _ => rfl

theorem tame_of_effect (plain : ¬ Describes msg) (effect : Effect scope msg before after) :
    Tame before after := by
  have kept := (plain_of_effect plain effect).kept
  cases effect with
  | pump update => exact pump_tame before update
  | interrupt content key own describes => exact absurd describes plain
  | sentOut key stream event own sends describes => exact absurd describes plain
  | mint count => exact .of_mute kept (Nat.le_add_right _ _) rfl (.refl _)
  | trace entry leaves =>
      exact .of_mute kept le_rfl rfl (.cons (isMute_of_leaves plain leaves) _)
  | count key stream update own uses =>
      obtain ⟨minted, log, recording⟩ := countWith_mute before key stream update
      exact .of_mute kept minted recording log
  | request request requests =>
      obtain ⟨minted, log⟩ := receive_mute before request
      exact .of_mute kept minted (receive_recording requests before) log
  | opened | closed | restart | clear | due => exact .of_mute kept le_rfl rfl (.cons rfl _)
  | _ => exact .of_mute kept le_rfl rfl (.refl _)

theorem tame_of_effects (plain : ¬ Describes msg) {body : EngineAction α}
    (effects : Keeps (Effects scope msg) body) : Keeps Tame body := by
  intro engine
  have moves := effects engine
  generalize (body engine).2 = reached at moves ⊢
  induction moves with
  | refl => exact refl_of Tame engine
  | tail _ effect ih => exact trans_of Tame ih (tame_of_effect plain effect)

/-- What composes no Descriptor for any message composes none at all. -/
theorem tame_body {body : EngineAction α} (effects : Keeps (Effects .all .null) body) :
    Keeps Tame body :=
  tame_of_effects id effects

end

/-! ## Composing, broadcasting and installing -/

section

variable {goals : Goals} {pending : List EventDescriptor} {engine : RunEngine}

/-- A uid no known Descriptor has. -/
structure Spare (uid : Uid) (pending : List EventDescriptor) (engine : RunEngine) : Prop where
  minted : uid < engine.nextUid
  unused : ∀ descriptor, Known pending engine descriptor → descriptor.uid ≠ uid

theorem announced_iff {start uid : Uid} {log : List Entry} :
    announced start uid log = true ↔
      ∃ descriptor : EventDescriptor, Entry.broadcast (.descriptor descriptor) ∈ log ∧
        descriptor.runStart = start ∧ descriptor.uid = uid := by
  unfold announced
  rw [List.any_eq_true]
  constructor
  · rintro ⟨entry, member, announces⟩
    cases entry with
    | broadcast doc =>
        cases doc with
        | descriptor doc => exact ⟨doc, member, of_decide_eq_true announces⟩
        | _ => cases announces
    | _ => cases announces
  · rintro ⟨descriptor, member, same⟩
    exact ⟨_, member, decide_eq_true same⟩

/-- A composed Descriptor is on its way: one known already, or one of a uid nobody has used. -/
theorem Catalogued.pend (held : Catalogued goals pending engine) {descriptor : EventDescriptor}
    (known : Known pending engine descriptor ∨ Spare descriptor.uid pending engine)
    (home : goals.home descriptor.runStart)
    (unheard : goals.once →
      announced descriptor.runStart descriptor.uid engine.log = false ∧
        descriptor.uid ∉ pending.map EventDescriptor.uid) :
    Catalogued goals (descriptor :: pending) engine := by
  have among : ∀ other, Known (descriptor :: pending) engine other →
      other = descriptor ∨ Known pending engine other := by
    rintro other (waiting | cached | heard)
    · rcases List.mem_cons.mp waiting with rfl | waiting
      · exact .inl rfl
      · exact .inr (.inl waiting)
    · exact .inr (.inr (.inl cached))
    · exact .inr (.inr (.inr heard))
  have apart : ∀ other, Known pending engine other → descriptor.uid = other.uid →
      descriptor = other := by
    intro other also same
    rcases known with known | spare
    · exact held.unique descriptor other known also same
    · exact absurd same.symm (spare.unused other also)
  refine { held with
    minted := fun other also => ?_
    unique := fun one other first second same => ?_
    homed := fun other member => ?_
    first := fun once => ⟨⟨fun other member => ?_, ?_⟩, (held.first once).2⟩ }
  · rcases among other also with rfl | also
    · rcases known with known | spare
      · exact held.minted other known
      · exact spare.minted
    · exact held.minted other also
  · rcases among one first with rfl | early
    · rcases among other second with rfl | late
      · rfl
      · exact apart other late same
    · rcases among other second with rfl | late
      · exact (apart one early same.symm).symm
      · exact held.unique one other early late same
  · rcases List.mem_cons.mp member with rfl | member
    · exact home
    · exact held.homed other member
  · rcases List.mem_cons.mp member with rfl | member
    · exact (unheard once).1
    · exact (held.first once).1.silent other member
  · exact List.nodup_cons.mpr ⟨(unheard once).2, (held.first once).1.distinct⟩

theorem Catalogued.fewer {less : List EventDescriptor} (held : Catalogued goals pending engine)
    (fewer : less.Subperm pending) : Catalogued goals less engine := by
  have known : ∀ descriptor, Known less engine descriptor → Known pending engine descriptor :=
    fun descriptor known => known.imp (fun member => fewer.subset member) id
  refine { held with
    minted := fun descriptor also => held.minted descriptor (known descriptor also)
    unique := fun one other first second =>
      held.unique one other (known one first) (known other second)
    homed := fun descriptor member => held.homed descriptor (fewer.subset member)
    first := fun once => ⟨⟨fun descriptor member => ?_, ?_⟩, (held.first once).2⟩ }
  · exact (held.first once).1.silent descriptor (fewer.subset member)
  · obtain ⟨middle, same, sub⟩ := fewer
    have distinct := (sub.map EventDescriptor.uid).nodup (held.first once).1.distinct
    exact (same.map EventDescriptor.uid).nodup_iff.mp distinct

/-- Descriptors that will never be broadcast. -/
theorem Catalogued.forget (held : Catalogued goals pending engine) : Catalogued goals [] engine :=
  held.fewer List.nil_subperm

/-- A pending Descriptor goes out. -/
theorem Catalogued.announce {descriptor : EventDescriptor}
    (held : Catalogued goals (descriptor :: pending) engine) :
    Catalogued goals pending (engine.record (.broadcast (.descriptor descriptor))) := by
  have known : ∀ other, Known pending (engine.record (.broadcast (.descriptor descriptor))) other →
      Known (descriptor :: pending) engine other := by
    rintro other (waiting | cached | heard)
    · exact .inl (List.mem_cons_of_mem _ waiting)
    · exact .inr (.inl cached)
    · rcases List.mem_cons.mp heard with same | heard
      · cases same
        exact .inl (List.mem_cons_self ..)
      · exact .inr (.inr heard)
  refine ⟨held.slots, held.starts, fun other also => held.minted other (known other also),
    fun one other first second => held.unique one other (known one first) (known other second),
    fun other member => held.homed other (List.mem_cons_of_mem _ member), ?_, fun once => ?_,
    fun agree => ?_⟩
  · obtain ⟨added, whole, home⟩ := held.trail
    refine ⟨.broadcast (.descriptor descriptor) :: added,
      congrArg (List.cons _) whole, fun other member => ?_⟩
    rcases List.mem_cons.mp member with same | member
    · cases same
      exact held.homed descriptor (List.mem_cons_self ..)
    · exact home other member
  · obtain ⟨unheard, always⟩ := held.first once
    obtain ⟨new, distinct⟩ := List.nodup_cons.mp unheard.distinct
    refine ⟨⟨fun other member => ?_, distinct⟩, unheard.silent descriptor (List.mem_cons_self ..),
      always⟩
    have different : descriptor.uid ≠ other.uid := fun same =>
      new (same ▸ List.mem_map_of_mem member)
    have quiet := unheard.silent other (List.mem_cons_of_mem _ member)
    have deaf : (Entry.broadcast (.descriptor descriptor)).announces other.runStart other.uid =
        false := decide_eq_false fun both => different both.2
    unfold announced at quiet ⊢
    simp [RunEngine.record, deaf, quiet]
  · exact ⟨(held.schema agree).fed, trivial, (held.schema agree).always⟩

/-- Slots change only in ways that cache what is known already. -/
theorem Catalogued.file (held : Catalogued goals pending engine) {key : RunKey}
    {update : RunSlot → RunSlot}
    (filed : ∀ slot ∈ engine.state.run key, SlotFiled (update slot))
    (startUid : ∀ slot ∈ engine.state.run key,
      (update slot).bundler.bundle.startUid = slot.bundler.bundle.startUid)
    (known : ∀ slot ∈ engine.state.run key, ∀ stream,
      ∀ descriptor ∈ (update slot).bundler.bundle.described stream,
        Known pending engine descriptor)
    (schema : goals.agree → Schema (engine.withSlot key update)) :
    Catalogued goals pending (engine.withSlot key update) := by
  have among : ∀ other, ∀ slot ∈ (engine.withSlot key update).state.run other,
      slot ∈ engine.state.run other ∨
        other = key ∧ ∃ earlier ∈ engine.state.run key, update earlier = slot := by
    intro other slot found
    rw [run_withSlot] at found
    by_cases same : other = key
    · subst same
      rw [if_pos rfl] at found
      exact .inr ⟨rfl, Option.map_eq_some_iff.mp found⟩
    · rw [if_neg same] at found
      exact .inl found
  have already : ∀ descriptor, Known pending (engine.withSlot key update) descriptor →
      Known pending engine descriptor := by
    rintro descriptor (waiting | ⟨other, slot, found, stream, current⟩ | heard)
    · exact .inl waiting
    · rcases among other slot found with untouched | ⟨rfl, earlier, was, rfl⟩
      · exact .inr (.inl ⟨other, slot, untouched, stream, current⟩)
      · exact known earlier was stream descriptor current
    · exact .inr (.inr heard)
  refine ⟨fun other slot found => ?_, fun other slot found => ?_,
    fun descriptor also => held.minted descriptor (already descriptor also),
    fun one other first second =>
      held.unique one other (already one first) (already other second),
    held.homed, held.trail, held.first, schema⟩
  · rcases among other slot found with untouched | ⟨rfl, earlier, was, rfl⟩
    · exact held.slots other slot untouched
    · exact filed earlier was
  · rcases among other slot found with untouched | ⟨rfl, earlier, was, rfl⟩
    · exact held.starts other slot untouched
    · rw [startUid earlier was]
      exact held.starts other earlier was

/-- One stream's Descriptor is replaced in both caches. -/
theorem SlotFiled.replace {slot : RunSlot} (filed : SlotFiled slot) {bundler : RunBundler}
    {stream : String} {descriptor : EventDescriptor}
    (startUid : bundler.bundle.startUid = slot.bundler.bundle.startUid)
    (now : ∀ other, bundler.bundle.described other =
      if other = stream then some descriptor else slot.bundler.bundle.described other)
    (cached : bundler.descriptors = slot.bundler.descriptors.insert stream descriptor.uid)
    (named : descriptor.name = some stream)
    (owned : descriptor.runStart = slot.bundler.bundle.startUid) :
    SlotFiled { slot with bundler } := by
  have among : ∀ other, ∀ current ∈ bundler.bundle.described other,
      other = stream ∧ current = descriptor ∨ current ∈ slot.bundler.bundle.described other := by
    intro other current found
    rw [now] at found
    by_cases same : other = stream
    · rw [if_pos same] at found
      exact .inl ⟨same, (Option.some.inj found).symm⟩
    · rw [if_neg same] at found
      exact .inr found
  refine ⟨fun other => ?_, fun other current found => ?_, fun other current found => ?_⟩
  · dsimp only [RunBundler.descriptorUid]
    rw [now, cached]
    by_cases same : other = stream
    · subst same
      simp
    · rw [AList.lookup_insert_ne same, if_neg same]
      exact filed.synced other
  · rcases among other current found with ⟨rfl, rfl⟩ | had
    · exact named
    · exact filed.named other current had
  · dsimp only
    rw [startUid]
    rcases among other current found with ⟨rfl, rfl⟩ | had
    · exact owned
    · exact filed.owned other current had

/-- Slots change only in ways that keep the keys of what is declared, and a new pump feeds a stream
of its own key. -/
theorem Schema.withSlot (held : Schema engine) {key : RunKey} {update : RunSlot → RunSlot}
    (keys : ∀ slot ∈ engine.state.run key, ∀ stream,
      ∀ descriptor ∈ slot.bundler.bundle.described stream,
        ∃ current ∈ (update slot).bundler.bundle.described stream,
          current.dataKeys = descriptor.dataKeys)
    (tasks : ∀ slot ∈ engine.state.run key,
      ∀ task ∈ (update slot).pumps,
        task ∈ slot.pumps ∨
          ∃ descriptor ∈ slot.bundler.bundle.described task.stream,
            descriptor.dataKeys.keys = [task.key]) :
    Schema (engine.withSlot key update) := by
  have among : ∀ other, ∀ slot ∈ (engine.withSlot key update).state.run other,
      slot ∈ engine.state.run other ∨
        other = key ∧ ∃ earlier ∈ engine.state.run key, update earlier = slot := by
    intro other slot found
    rw [run_withSlot] at found
    by_cases same : other = key
    · subst same
      rw [if_pos rfl] at found
      exact .inr ⟨rfl, Option.map_eq_some_iff.mp found⟩
    · rw [if_neg same] at found
      exact .inl found
  refine ⟨fun other slot found task running => ?_, held.always⟩
  rcases among other slot found with untouched | ⟨rfl, earlier, was, rfl⟩
  · exact held.fed other slot untouched task running
  · have alone : ∃ descriptor ∈ earlier.bundler.bundle.described task.stream,
        descriptor.dataKeys.keys = [task.key] := by
      rcases tasks earlier was task running with same | alone
      · exact held.fed other earlier was task same
      · exact alone
    obtain ⟨descriptor, declared, alone⟩ := alone
    obtain ⟨current, now, same⟩ := keys earlier was _ descriptor declared
    exact ⟨current, now, same ▸ alone⟩

/-- What declaring a stream makes of the bundler's Descriptors. -/
theorem declareStream_cases (bundler : RunBundler) (uid : Uid) (stream : String)
    (objs : List StreamObject) :
    let descriptor := (bundler.declareStream uid stream objs).1
    bundler.bundle.described stream = some descriptor ∨
      bundler.bundle.described stream = none ∧ descriptor.uid = uid ∧
        descriptor.runStart = bundler.bundle.startUid ∧ descriptor.name = some stream ∧
          descriptor.dataKeys = (objs.foldl StreamShape.add .empty).dataKeys := by
  cases found : bundler.bundle.described stream with
  | some held =>
      refine .inl (congrArg some ?_)
      rcases RunBundle.descriptor_cases bundler.bundle uid stream _ _ _ _ with had | ⟨none, -⟩
      · exact Option.some.inj (found.symm.trans had)
      · rw [found] at none
        cases none
  | none =>
      have composed : (bundler.declareStream uid stream objs).1 = _ :=
        RunBundle.descriptor_new found uid _ _ _ _
      rw [composed]
      exact .inr ⟨rfl, rfl, rfl, rfl, rfl⟩

theorem declareStream_described (bundler : RunBundler) (uid : Uid) (stream other : String)
    (objs : List StreamObject) :
    (bundler.declareStream uid stream objs).2.bundle.described other =
      if other = stream then some (bundler.declareStream uid stream objs).1
      else bundler.bundle.described other :=
  RunBundle.described_descriptor _ _ _ _ _ _ _ _

theorem declareStream_startUid (bundler : RunBundler) (uid : Uid) (stream : String)
    (objs : List StreamObject) :
    (bundler.declareStream uid stream objs).2.bundle.startUid = bundler.bundle.startUid :=
  RunBundle.startUid_descriptor _ _ _ _ _ _ _

theorem SlotFiled.declare {slot : RunSlot} (filed : SlotFiled slot) (uid : Uid) (stream : String)
    (objs : List StreamObject) :
    SlotFiled { slot with bundler := (slot.bundler.declareStream uid stream objs).2 } ∧
      (slot.bundler.declareStream uid stream objs).1.runStart = slot.bundler.bundle.startUid := by
  have either := declareStream_cases slot.bundler uid stream objs
  have named : (slot.bundler.declareStream uid stream objs).1.name = some stream := by
    rcases either with had | ⟨-, -, -, name, -⟩
    · exact filed.named stream _ had
    · exact name
  have owned : (slot.bundler.declareStream uid stream objs).1.runStart =
      slot.bundler.bundle.startUid := by
    rcases either with had | ⟨-, -, owned, -⟩
    · exact filed.owned stream _ had
    · exact owned
  exact ⟨filed.replace (declareStream_startUid _ _ _ _)
    (fun other => declareStream_described _ _ _ other _) rfl named owned, owned⟩

/-- A stream is declared in both caches before its Descriptor goes out. -/
theorem Catalogued.declare (held : Catalogued goals pending engine) {key : RunKey}
    {bundler : RunBundler} (found : engine.state.bundler key = some bundler)
    (home : AtHome goals key engine) {uid : Uid} (stream : String) (objs : List StreamObject)
    (spare : Spare uid pending engine)
    (unheard : goals.once → ∀ descriptor ∈ bundler.bundle.described stream,
      announced descriptor.runStart descriptor.uid engine.log = false ∧
        descriptor.uid ∉ pending.map EventDescriptor.uid) :
    Catalogued goals ((bundler.declareStream uid stream objs).1 :: pending)
      (engine.withBundler key fun bundler => (bundler.declareStream uid stream objs).2) := by
  obtain ⟨slot, open_, rfl⟩ := run_of_bundler found
  have only : ∀ other ∈ engine.state.run key, other = slot := fun other also =>
    Option.some.inj ((Option.mem_def.mp also).symm.trans open_)
  have owned := ((held.slots key slot open_).declare uid stream objs).2
  have either := declareStream_cases slot.bundler uid stream objs
  have pended : Catalogued goals ((slot.bundler.declareStream uid stream objs).1 :: pending)
      engine := by
    refine held.pend ?_ (by rw [owned]; exact home slot open_) fun once => ?_
    · rcases either with had | ⟨-, new, -⟩
      · exact .inl (.inr (.inl ⟨key, slot, open_, stream, had⟩))
      · exact .inr (new.symm ▸ spare)
    · rcases either with had | ⟨-, new, -⟩
      · exact unheard once _ had
      · rw [new]
        refine ⟨?_, fun member => ?_⟩
        · refine Bool.eq_false_iff.mpr fun heard => ?_
          obtain ⟨other, member, -, same⟩ := announced_iff.mp heard
          exact spare.unused other (.inr (.inr member)) same
        · obtain ⟨other, waiting, same⟩ := List.mem_map.mp member
          exact spare.unused other (.inl waiting) same
  refine pended.file (fun other also => ?_) (fun other also => ?_)
    (fun other also name descriptor current => ?_) fun agree => ?_
  · exact ((held.slots key other also).declare uid stream objs).1
  · exact declareStream_startUid _ _ _ _
  · obtain rfl := only other also
    rw [Option.mem_def, declareStream_described] at current
    by_cases same : name = stream
    · rw [if_pos same] at current
      cases current
      exact .inl (List.mem_cons_self ..)
    · rw [if_neg same] at current
      exact .inr (.inl ⟨key, other, also, name, current⟩)
  · refine (held.schema agree).withSlot (fun other also name descriptor declared => ?_)
      fun _ _ _ running => .inl running
    obtain rfl := only other also
    dsimp only
    rw [declareStream_described]
    by_cases same : name = stream
    · subst same
      rw [if_pos rfl]
      rcases either with had | ⟨none, -⟩
      · exact ⟨_, rfl, congrArg EventDescriptor.dataKeys
          (Option.some.inj (had.symm.trans declared))⟩
      · rw [none] at declared
        cases declared
    · rw [if_neg same]
      exact ⟨descriptor, declared, rfl⟩

/-- The run `key` has not broadcast the Descriptor of `stream`, if it has one. -/
def Unsaid (key : RunKey) (stream : String) (pending : List EventDescriptor) (engine : RunEngine) :
    Prop :=
  ∀ slot ∈ engine.state.run key, ∀ descriptor ∈ slot.bundler.bundle.described stream,
    announced descriptor.runStart descriptor.uid engine.log = false ∧
      descriptor.uid ∉ pending.map EventDescriptor.uid

/-- The run `key` has not declared `stream`. -/
def Undeclared (key : RunKey) (stream : String) (engine : RunEngine) : Prop :=
  ∀ slot ∈ engine.state.run key, slot.bundler.bundle.described stream = none

/-- Whatever Descriptor an Event's uid names, the Event fits it. -/
def Suited (pending : List EventDescriptor) (event : Event) (engine : RunEngine) : Prop :=
  ∀ descriptor, Known pending engine descriptor → descriptor.uid = event.descriptor →
    Fits descriptor event.data event.timestamps

theorem Unsaid.kept {key : RunKey} {stream : String} {before after : RunEngine}
    (unsaid : Unsaid key stream pending before) (tame : Tame before after) :
    Unsaid key stream pending after := by
  intro slot held descriptor current
  obtain ⟨earlier, found, same⟩ := tame.kept.slots key slot held
  have silent := unsaid earlier found descriptor (same.described stream ▸ current)
  exact ⟨(tame.log.reading announced_skips).trans silent.1, silent.2⟩

theorem Undeclared.unsaid {key : RunKey} {stream : String}
    (undeclared : Undeclared key stream engine) : Unsaid key stream pending engine := by
  intro slot held descriptor current
  rw [undeclared slot held] at current
  cases current

theorem Suited.kept {event : Event} {before after : RunEngine}
    (suited : Suited pending event before) (tame : Tame before after) :
    Suited pending event after :=
  fun descriptor known => suited descriptor (known.of_kept tame.kept tame.log)

/-- The frame rule: a tame computation keeps the catalogue and whatever tame moves keep. -/
theorem tame_triple {body : EngineAction α} {holds : RunEngine → Prop} (tame : Keeps Tame body)
    (framed : ∀ before after, Tame before after → holds before → holds after) :
    Triple (fun engine => Catalogued goals pending engine ∧ holds engine) body
      (fun _ engine => Catalogued goals pending engine ∧ holds engine)
      (fun _ => Catalogued goals []) :=
  .of_keeps tame
    (fun before _ after held moved =>
      ⟨moved.catalogued goals pending held.1, framed before after moved held.2⟩)
    (fun _ _ _ held moved => (moved.catalogued goals pending held.1).forget)

theorem spare_minted (held : Catalogued goals pending engine) :
    Spare engine.nextUid pending { engine with nextUid := engine.nextUid + 1 } :=
  ⟨Nat.lt_succ_self _, fun descriptor known => (held.minted descriptor known).ne⟩

/-- Declaring a stream leaves its Descriptor to be broadcast; a stream that is new gets the keys its
objects give. -/
theorem declareInto_catalogued (key : RunKey) (missing : PlanError) (stream : String)
    (objs : List StreamObject) (fresh : List String) :
    Triple
      (fun engine => Catalogued goals pending engine ∧ AtHome goals key engine ∧
        (goals.once → Unsaid key stream pending engine) ∧
        ∀ name ∈ fresh, Undeclared key name engine)
      (declareInto key missing stream objs)
      (fun descriptor engine => Catalogued goals (descriptor :: pending) engine ∧
        AtHome goals key engine ∧
        (∀ name ∈ fresh, name ≠ stream → Undeclared key name engine) ∧
        (∀ slot ∈ engine.state.run key,
          slot.bundler.bundle.described stream = some descriptor) ∧
        (stream ∈ fresh → descriptor.dataKeys = (objs.foldl StreamShape.add .empty).dataKeys))
      (fun _ => Catalogued goals []) := by
  have minted : ∀ engine : RunEngine, Tame engine { engine with nextUid := engine.nextUid + 1 } :=
    fun engine => .of_mute (.of_same rfl (.refl _)) (Nat.le_succ _) rfl (.refl _)
  rintro engine ⟨held, home, unsaid, absent⟩
  have moved := minted engine
  have catalogued := moved.catalogued goals pending held
  have spare := spare_minted held
  have unsaid := fun once => (unsaid once).kept moved
  have home := home.kept moved.kept
  unfold declareInto mint
  rw [advance_bind, ask_bind]
  dsimp only
  cases found : engine.state.bundler key with
  | none => exact catalogued.forget
  | some bundler =>
      obtain ⟨slot, open_, rfl⟩ := run_of_bundler found
      have declared := catalogued.declare found home stream objs spare fun once =>
        unsaid once slot open_
      -- Of the slots open afterwards only the run's own matters.
      have own : ∀ now ∈ (RunEngine.withSlot { engine with nextUid := engine.nextUid + 1 } key
          fun slot => { slot with
            bundler := (slot.bundler.declareStream engine.nextUid stream objs).2 }).state.run key,
          now = { slot with
            bundler := (slot.bundler.declareStream engine.nextUid stream objs).2 } := by
        intro now also
        rw [run_withSlot, if_pos rfl] at also
        obtain ⟨earlier, was, rfl⟩ := Option.map_eq_some_iff.mp also
        obtain rfl : slot = earlier := Option.some.inj (open_.symm.trans was)
        rfl
      refine ⟨declared, fun now also => ?_, fun name member different now also => ?_,
        fun now also => ?_, fun isNew => ?_⟩
      · rw [own now also]
        dsimp only
        rw [declareStream_startUid]
        exact home slot open_
      · rw [own now also]
        dsimp only
        rw [declareStream_described, if_neg different]
        exact absent name member slot open_
      · rw [own now also]
        dsimp only
        rw [declareStream_described, if_pos rfl]
      · rcases declareStream_cases slot.bundler engine.nextUid stream objs with
          had | ⟨-, -, -, -, keys⟩
        · rw [absent stream isNew slot open_] at had
          cases had
        · exact keys

/-- A pending Descriptor goes out, and has been heard then. -/
theorem announce_catalogued {holds : RunEngine → Prop} (env : Env) (descriptor : EventDescriptor)
    (framed : ∀ before after, RunsKept before after → before.log <:+ after.log →
      holds before → holds after) :
    Triple (fun engine => Catalogued goals (descriptor :: pending) engine ∧ holds engine)
      (broadcast env (.descriptor descriptor))
      (fun _ engine => Catalogued goals pending engine ∧ holds engine ∧
        Entry.broadcast (.descriptor descriptor) ∈ engine.log)
      (fun _ => Catalogued goals []) := by
  have recorded : Triple (fun engine => Catalogued goals (descriptor :: pending) engine ∧ holds engine)
      (record (.broadcast (.descriptor descriptor)))
      (fun _ engine => Catalogued goals pending engine ∧ holds engine ∧
        Entry.broadcast (.descriptor descriptor) ∈ engine.log)
      (fun _ => Catalogued goals []) := by
    refine Triple.modify fun engine held => ⟨held.1.announce, ?_, List.mem_cons_self ..⟩
    exact framed engine _ (.of_same rfl (.cons rfl _)) (List.suffix_cons _ _) held.2
  refine Triple.bind recorded fun _ => Triple.bind (tame_triple (tame_body (await_effects env)) ?_)
    fun _ => Triple.pure _ fun _ held => held
  intro before after moved held
  have grown := moved.grown
  exact ⟨framed before after moved.kept grown held.1, grown.subset held.2⟩

/-- An Event that fits is sent out. -/
theorem emit_catalogued {holds : RunEngine → Prop} (env : Env) (key : RunKey) (stream : String)
    (source : Source) (event : Event)
    (framed : ∀ before after, RunsKept before after → before.log <:+ after.log →
      holds before → holds after) :
    Triple
      (fun engine => Catalogued goals [] engine ∧ holds engine ∧
        (goals.agree → Suited [] event engine))
      (emit env key stream source event)
      (fun _ engine => Catalogued goals [] engine ∧ holds engine) (fun _ => Catalogued goals []) := by
  have sent : Triple
      (fun engine => Catalogued goals [] engine ∧ holds engine ∧
        (goals.agree → Suited [] event engine))
      (record (.emitted key stream source event))
      (fun _ engine => Catalogued goals [] engine ∧ holds engine) (fun _ => Catalogued goals []) := by
    refine Triple.modify fun engine ⟨held, also, suited⟩ => ?_
    have kept : RunsKept engine (engine.record (.emitted key stream source event)) :=
      .of_same rfl (.cons rfl _)
    refine ⟨held.kept kept le_rfl (.cons rfl _) fun agree => ?_, framed engine _ kept (List.suffix_cons _ _) also⟩
    refine (held.schema agree).kept kept ⟨fun entry member => ?_, (held.schema agree).always⟩
    cases entry with
    | broadcast doc =>
        cases doc with
        | descriptor heard => exact suited agree heard (.inr (.inr member))
        | _ => trivial
    | _ => trivial
  refine Triple.bind sent fun _ => Triple.bind (tame_triple (tame_body (await_effects env)) ?_)
    fun _ => Triple.pure _ fun _ held => held
  exact fun before after moved also => framed before after moved.kept moved.grown also

end

end Bsrs.Engine
