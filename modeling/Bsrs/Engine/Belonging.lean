import Bsrs.Engine.Isolation

namespace Bsrs.Engine

open Bsrs.Library (Table Action Grows)
open Bsrs.Library.Action
open Bsrs.EventModel
open Bsrs.Core
open Relation (ReflTransGen)

/-! ## The documents of a message -/

/-- The asset documents the devices may supply. -/
def Env.Supplies (env : Env) (doc : Document) : Prop :=
  ∃ tick obj uid docs, (env.collectAssetDocs tick obj uid = .ok docs ∨
    env.collectStreamDocs tick obj uid = .ok docs) ∧ doc ∈ docs

/-- What the engine fills in on an asset document it broadcasts for the run `start`. -/
inductive FilledIn (start : Uid) : Document → Document → Prop
  | streamResource (doc : StreamResource) :
      FilledIn start (.streamResource doc)
        (.streamResource { doc with runStart := some (doc.runStart.getD start) })
  | streamDatum (doc : StreamDatum) (seqNums) :
      FilledIn start (.streamDatum doc) (.streamDatum { doc with seqNums })
  | other (doc : Document) (plain : ∀ resource, doc ≠ .streamResource resource) :
      FilledIn start doc doc

/-- The open run `key` has a Descriptor of the uid. -/
def Named (key : RunKey) (uid : Uid) (engine : RunEngine) : Prop :=
  ∃ slot ∈ engine.state.run key, ∃ stream, ∃ descriptor ∈ slot.bundler.bundle.described stream,
    descriptor.uid = uid

/-- Entries that are no documents of the message's own, but for Descriptors. -/
def Entry.isAside (msg : Msg) : Entry → Bool
  | .emitted _ _ source _ => source = .pump
  | .drained _ _ _ => false
  | .broadcast (.descriptor _) => true
  | .broadcast _ => false
  | .published doc => msg = .publish doc
  | _ => true

/-- What a message of the run `key` sends out: Events that name a Descriptor the run has, and asset
documents with the run's uid filled in. -/
def Belongs (env : Env) (msg : Msg) (key : RunKey) (start : Uid) (engine : RunEngine) :
    Entry → Prop
  | .emitted other _ source event => source = .pump ∨ other = key ∧ Named key event.descriptor engine
  | .drained other _ doc => other = key ∧ ∃ given, env.Supplies given ∧ FilledIn start given doc
  | entry => entry.isAside msg = true

/-- The message has sent out only what belongs to the run `start` it is routed to. -/
structure Within (env : Env) (msg : Msg) (key : RunKey) (start : Uid) (base : List Entry)
    (engine : RunEngine) : Prop where
  signed : ∀ slot ∈ engine.state.run key, slot.bundler.startUid = start
  trail : ∃ added, engine.log = added ++ base ∧
    ∀ entry ∈ added, Belongs env msg key start engine entry

/-- A move that leaves the run `key` open as it is, with the Descriptors it has. -/
structure Onward (msg : Msg) (key : RunKey) (before after : RunEngine) : Prop where
  slots : ∀ slot ∈ after.state.run key, ∃ earlier ∈ before.state.run key,
    slot.bundler.startUid = earlier.bundler.startUid
  named : ∀ uid, Named key uid before → Named key uid after
  log : Grows (Entry.isAside msg) before.log after.log

section

variable {env : Env} {scope : Scope} {msg : Msg} {key : RunKey} {start : Uid} {base : List Entry}
  {before after : RunEngine}

instance : Std.Refl (Onward msg key) :=
  ⟨fun _ => ⟨fun slot held => ⟨slot, held, rfl⟩, fun _ => id, .refl _⟩⟩

instance : IsTrans RunEngine (Onward msg key) where
  trans _ _ _ head tail := by
    refine ⟨fun slot held => ?_, fun uid named => tail.named uid (head.named uid named),
      head.log.trans tail.log⟩
    obtain ⟨middle, found, later⟩ := tail.slots slot held
    obtain ⟨earlier, was, sooner⟩ := head.slots middle found
    exact ⟨earlier, was, later.trans sooner⟩

theorem Within.onward (within : Within env msg key start base before)
    (onward : Onward msg key before after) : Within env msg key start base after := by
  constructor
  · intro slot held
    obtain ⟨earlier, was, same⟩ := onward.slots slot held
    exact same.trans (within.signed earlier was)
  · obtain ⟨added, whole, belongs⟩ := within.trail
    obtain ⟨later, grown, aside⟩ := onward.log
    refine ⟨later ++ added, by rw [grown, whole, List.append_assoc], fun entry member => ?_⟩
    rcases List.mem_append.mp member with recent | past
    · have known := aside entry recent
      cases entry with
      | emitted other stream source event => exact .inl (of_decide_eq_true known)
      | drained other stream doc => cases known
      | _ => exact known
    · have known := belongs entry past
      cases entry with
      | emitted other stream source event =>
          exact known.imp_right fun own => ⟨own.1, onward.named _ own.2⟩
      | _ => exact known

/-- Effects that leave the documents of the message alone. -/
structure Modest (scope : Scope) (msg : Msg) (key : RunKey) : Prop where
  alone : ∀ owned, scope.own owned → owned = key
  opens : ¬ scope.may .opens
  closes : ¬ scope.may .closes
  drains : ¬ scope.may .drains
  sends : ¬ scope.may .sends

/-- A scope of one run has not every run. -/
private theorem Modest.foreign (modest : Modest scope msg key) : ¬ ∀ owned, scope.own owned := by
  intro every
  have default := modest.alone none (every none)
  have other := modest.alone (some "") (every (some ""))
  rw [← default] at other
  cases other

private theorem feed_aside (engine : RunEngine) (key : RunKey) (stream : String)
    (data timestamps : Table String Value) :
    Grows (Entry.isAside msg) engine.log (engine.feed key stream .pump data timestamps).log := by
  unfold RunEngine.feed
  split
  · exact .refl _
  · split
    · exact .refl _
    · exact .cons rfl _

private theorem aside_of_effect (modest : Modest scope msg key)
    (effect : Effect scope msg before after) :
    Grows (Entry.isAside msg) before.log after.log := by
  cases effect with
  | pump update =>
      unfold RunEngine.pump
      split
      · exact feed_aside _ _ _ _ _
      · exact .refl _
  | interrupt content owned own describes => exact absurd own modest.foreign
  | trace entry leaves =>
      refine .cons ?_ _
      cases entry with
      | broadcast doc =>
          cases doc with
          | start doc => exact absurd leaves modest.opens
          | stop doc => exact absurd leaves modest.closes
          | descriptor doc => rfl
          | _ => exact leaves.elim
      | drained owned stream doc => exact absurd leaves.2 modest.drains
      | published doc => exact decide_eq_true leaves
      | emitted owned stream source event => exact leaves.elim
      | _ => rfl
  | sentOut owned stream event own sends describes => exact absurd sends modest.sends
  | count owned stream update own uses =>
      unfold RunEngine.countWith
      split
      · exact .cons rfl _
      · exact .refl _
  | request request requests => cases request <;> exact .cons rfl _
  | opened | closed | restart | clear | due => exact .cons rfl _
  | _ => exact .refl _

theorem aside_of_effects (modest : Modest scope msg key) (effects : Effects scope msg before after) :
    Grows (Entry.isAside msg) before.log after.log := by
  induction effects with
  | refl => exact .refl _
  | tail _ effect ih => exact ih.trans (aside_of_effect modest effect)

/-- The run stays the same run, with the Descriptors it has. -/
private structure SlotOnward (before after : RunSlot) : Prop where
  startUid : after.bundler.startUid = before.bundler.startUid
  described : ∀ stream, ∀ descriptor ∈ before.bundler.bundle.described stream,
    descriptor ∈ after.bundler.bundle.described stream

private theorem declare_described (bundler : RunBundler) (uid : Uid) (name : String)
    (objs : List StreamObject) (stream : String) (descriptor : EventDescriptor)
    (had : descriptor ∈ bundler.bundle.described stream) :
    descriptor ∈ (bundler.declareStream uid name objs).2.bundle.described stream := by
  rw [declareStream_described]
  by_cases same : stream = name
  · subst same
    rw [if_pos rfl]
    rcases declareStream_cases bundler uid stream objs with found | ⟨none, -⟩
    · exact found.symm.trans had
    · rw [none] at had
      cases had
  · rw [if_neg same]
    exact had

theorem save_startUid (bundler : RunBundler) (descriptorUid eventUid : Uid) :
    (bundler.save descriptorUid eventUid).2.startUid = bundler.startUid := by
  have sent : ∀ (prepared : RunBundler) (bundle : OpenBundle) (out : List Document),
      (prepared.saveEvent eventUid bundle out).2.startUid = prepared.startUid := by
    intro prepared bundle out
    unfold RunBundler.saveEvent
    split
    · rfl
    · rfl
  unfold RunBundler.save
  split
  · rfl
  · dsimp only
    split
    · rfl
    · split
      · exact sent _ _ _
      · exact sent _ _ _

private theorem save_described (bundler : RunBundler) (descriptorUid eventUid : Uid)
    (stream : String) (descriptor : EventDescriptor)
    (had : descriptor ∈ bundler.bundle.described stream) :
    descriptor ∈ (bundler.save descriptorUid eventUid).2.bundle.described stream := by
  have outcome := save_outcome bundler descriptorUid eventUid
  generalize (bundler.save descriptorUid eventUid).2 = left at outcome ⊢
  generalize (bundler.save descriptorUid eventUid).1 = result at outcome
  cases outcome with
  | rejected error same => exact same.described stream ▸ had
  | empty same => exact same.described stream ▸ had
  | again bundle event current opened read declared gives same => exact same.described stream ▸ had
  | first bundle event opened read uncached gives same =>
      rw [same.described]
      exact declare_described bundler descriptorUid _ _ stream descriptor had

private theorem slotOnward_of_slotMove (steady : ∀ obj args, msg ≠ .configure obj args)
    {slot next : RunSlot} (move : SlotMove scope msg key slot next) : SlotOnward slot next := by
  cases move with
  | changed own effect =>
      cases effect with
      | declare uid stream objs describes =>
          exact ⟨rfl, declare_described slot.bundler uid stream objs⟩
      | install descriptors configures =>
          obtain ⟨obj, args, rfl⟩ := configures
          exact absurd rfl (steady obj args)
      | _ => exact ⟨rfl, fun _ _ had => had⟩
  | counted stream bundler own counting =>
      cases counting with
      | compose uid stream data timestamps =>
          refine ⟨rfl, fun name descriptor had => ?_⟩
          simpa using had
      | advance stream count =>
          refine ⟨rfl, fun name descriptor had => ?_⟩
          simpa using had
      | save descriptorUid eventUid saves =>
          exact ⟨save_startUid slot.bundler _ _, save_described slot.bundler _ _⟩
  | pumped uid task value timestamp pumping =>
      refine ⟨rfl, fun name descriptor had => ?_⟩
      simpa [RunSlot.composed] using had
  | interrupted uid content own =>
      refine ⟨rfl, fun name descriptor had => ?_⟩
      simpa [RunSlot.composed] using had
  | _ => exact ⟨rfl, fun _ _ had => had⟩

/-- Messages whose handlers keep the Descriptors of their run: they open, close and configure
nothing. -/
structure Steady (msg : Msg) : Prop where
  opens : ∀ metadata, msg ≠ .openRun metadata
  closes : ∀ status reason, msg ≠ .closeRun status reason
  configures : ∀ obj args, msg ≠ .configure obj args

private theorem onward_of_effect (modest : Modest scope msg key) (steady : Steady msg)
    (effect : Effect scope msg before after) : Onward msg key before after := by
  have moved := runMove_of_effect effect key
  refine ⟨fun slot held => ?_, fun uid named => ?_, aside_of_effect modest effect⟩
  · rw [Option.mem_def.mp held] at moved
    generalize before.state.run key = first at moved
    cases moved with
    | stayed move => exact ⟨_, rfl, (slotOnward_of_slotMove steady.configures move).startUid⟩
    | opened first bundler own opens fresh opening =>
        obtain ⟨metadata, rfl⟩ := opens
        exact absurd rfl (steady.opens metadata)
  · obtain ⟨slot, held, stream, descriptor, had, same⟩ := named
    rw [Option.mem_def.mp held] at moved
    generalize found : after.state.run key = last at moved
    cases moved with
    | stayed move =>
        exact ⟨_, found, stream, descriptor,
          (slotOnward_of_slotMove steady.configures move).described stream descriptor had, same⟩
    | opened first bundler own opens fresh opening =>
        obtain ⟨metadata, rfl⟩ := opens
        exact absurd rfl (steady.opens metadata)
    | dropped first own closes =>
        obtain ⟨status, reason, rfl⟩ := closes
        exact absurd rfl (steady.closes status reason)

theorem onward_of_effects (modest : Modest scope msg key) (steady : Steady msg)
    {body : EngineAction α} (effects : Keeps (Effects scope msg) body) :
    Keeps (Onward msg key) body := by
  intro engine
  have moves := effects engine
  generalize (body engine).2 = reached at moves ⊢
  induction moves with
  | refl => exact refl_of (Onward msg key) engine
  | tail _ effect ih => exact trans_of (Onward msg key) ih (onward_of_effect modest steady effect)

/-- The frame rule: what leaves the run `key` as it is keeps what has been sent out. -/
private theorem within_triple {body : EngineAction α} {holds : RunEngine → Prop}
    (onward : Keeps (Onward msg key) body)
    (framed : ∀ before after, Onward msg key before after → holds before → holds after) :
    Triple (fun engine => Within env msg key start base engine ∧ holds engine) body
      (fun _ engine => Within env msg key start base engine ∧ holds engine)
      (fun _ => Within env msg key start base) :=
  .of_keeps onward
    (fun before _ after held moved =>
      ⟨held.1.onward moved, framed before after moved held.2⟩)
    fun _ _ _ held moved => held.1.onward moved

private theorem within_of_onward {body : EngineAction α} (onward : Keeps (Onward msg key) body) :
    Triple (Within env msg key start base) body (fun _ => Within env msg key start base)
      (fun _ => Within env msg key start base) :=
  .of_keeps onward (fun _ _ _ held moved => held.onward moved)
    fun _ _ _ held moved => held.onward moved

/-- The run's own scope, with the powers that leave documents alone. -/
private def quietScope (key : RunKey) : Scope where
  own owned := owned = key
  may power := power = .configures ∨ power = .collects

private theorem quietScope_modest (msg : Msg) (key : RunKey) : Modest (quietScope key) msg key where
  alone _ own := own
  opens := by rintro (opens | opens) <;> cases opens
  closes := by rintro (closes | closes) <;> cases closes
  drains := by rintro (drains | drains) <;> cases drains
  sends := by rintro (sends | sends) <;> cases sends

/-- What any message's handler may do leaves the documents of every message alone. -/
private theorem onward_of_plain {body : EngineAction α}
    (effects : Keeps (Effects (quietScope key) .null) body) : Keeps (Onward msg key) body := by
  have steady : Steady .null := ⟨fun _ => nofun, fun _ _ => nofun, fun _ _ => nofun⟩
  intro engine
  have moved := onward_of_effects (quietScope_modest .null key) steady effects engine
  refine ⟨moved.slots, moved.named, moved.log.mono fun entry aside => ?_⟩
  cases entry with
  | published doc => simp [Entry.isAside] at aside
  | broadcast doc => cases doc <;> exact aside
  | _ => exact aside

theorem await_onward (env : Env) : Keeps (Onward msg key) (await env) :=
  onward_of_plain (await_effects env)

private theorem Within.record {engine : RunEngine} (within : Within env msg key start base engine)
    {entry : Entry} (belongs : Belongs env msg key start engine entry) :
    Within env msg key start base (engine.record entry) := by
  refine ⟨within.signed, ?_⟩
  obtain ⟨added, whole, earlier⟩ := within.trail
  refine ⟨entry :: added, congrArg (List.cons entry) whole, fun other member => ?_⟩
  rcases List.mem_cons.mp member with rfl | past
  · cases other <;> exact belongs
  · have known := earlier other past
    cases other <;> exact known

/-! ## Assets -/

/-- An asset document a device supplied, as the engine sends it out. -/
private def Suppliable (env : Env) (start : Uid) (doc : Document) : Prop :=
  ∃ given, env.Supplies given ∧ FilledIn start given doc

private theorem add_filledIn {packing next : Packing} {nextSeq : Nat} {external : List String}
    {doc stamped : Document}
    (added : packing.add start nextSeq external doc = .ok (stamped, next)) :
    FilledIn start doc stamped := by
  unfold Packing.add at added
  split at added
  · split at added
    · cases added
    · split at added
      · cases added
      · cases added
        exact .streamResource _
  · split at added
    · cases added
    · split at added
      · cases added
      · dsimp only at added
        split at added
        · split at added
          · cases added
          · cases added
            exact .streamDatum _ _
        · cases added
          exact .streamDatum _ _
  · rename_i plain _
    cases added
    exact .other _ plain

private theorem addAll_filledIn {nextSeq : Nat} {external : List String} {docs : List Document} :
    ∀ {packing reached : Packing} {stamped : List Document},
      packing.addAll start nextSeq external docs = (.ok stamped, reached) →
      ∀ doc ∈ stamped, ∃ given ∈ docs, FilledIn start given doc := by
  induction docs with
  | nil =>
      intro packing reached stamped ran doc member
      cases ran
      cases member
  | cons first rest ih =>
      intro packing reached stamped ran doc member
      unfold Packing.addAll at ran
      split at ran
      · cases ran
      · rename_i one next added
        split at ran
        · cases ran
        · rename_i others left later
          cases ran
          rcases List.mem_cons.mp member with rfl | member
          · exact ⟨first, List.mem_cons_self .., add_filledIn added⟩
          · obtain ⟨given, supplied, filled⟩ := ih later doc member
            exact ⟨given, List.mem_cons_of_mem _ supplied, filled⟩

private theorem packExternalAssets_filledIn {docs stamped : List Document} {nextSeq width : Nat}
    {external : List String} {registry : Table String String}
    (packed : (packExternalAssets docs start nextSeq external registry).1 = .ok (stamped, width)) :
    ∀ doc ∈ stamped, ∃ given ∈ docs, FilledIn start given doc := by
  unfold packExternalAssets at packed
  split at packed
  · cases packed
  · rename_i others reached ran
    split at packed
    · cases packed
    · cases packed
      exact addAll_filledIn ran

private theorem registry_onward (registry : Table String String) :
    Keeps (Onward msg key) (Action.modify fun engine => engine.withBundler key fun bundler =>
      { bundler with streamResourceDataKeys := registry } : EngineAction Unit) := by
  intro engine
  constructor
  · intro slot held
    change slot ∈ (engine.withSlot key _).state.run key at held
    rw [run_withSlot, if_pos rfl] at held
    obtain ⟨earlier, was, rfl⟩ := Option.map_eq_some_iff.mp held
    exact ⟨earlier, was, rfl⟩
  · rintro uid ⟨slot, held, stream, descriptor, had, same⟩
    have found := (run_withSlot engine key key fun slot => { slot with bundler :=
      { slot.bundler with streamResourceDataKeys := registry } }).trans (if_pos rfl)
    exact ⟨_, found.trans (Option.map_eq_some_iff.mpr ⟨slot, held, rfl⟩), stream, descriptor, had,
      same⟩
  · exact .refl _

private theorem packInto_within (lost : PlanError) (stream : Option String) (nextSeq : Nat)
    {docs : List Document} (supplied : ∀ doc ∈ docs, env.Supplies doc) {holds : RunEngine → Prop}
    (framed : ∀ before after, Onward msg key before after → holds before → holds after) :
    Triple (fun engine => Within env msg key start base engine ∧ holds engine)
      (packInto key lost stream nextSeq docs)
      (fun packed engine => (Within env msg key start base engine ∧ holds engine) ∧
        ∀ doc ∈ packed.1, Suppliable env start doc)
      (fun _ => Within env msg key start base) := by
  refine Triple.ask_bind fun found => ?_
  cases found with
  | none => exact Triple.fail _ fun _ held => held.1.1
  | some bundler =>
      dsimp only
      generalize external : (stream.bind bundler.bundle.externalDataKeys).getD [] = keys
      generalize made : packExternalAssets docs bundler.startUid nextSeq keys
        bundler.streamResourceDataKeys = packed
      have mine : ∀ engine, (Within env msg key start base engine ∧ holds engine) ∧
          engine.state.bundler key = some bundler →
          Within env msg key start base engine ∧ holds engine ∧ bundler.startUid = start := by
        rintro engine ⟨⟨within, other⟩, open_⟩
        obtain ⟨slot, held, rfl⟩ := run_of_bundler open_
        exact ⟨within, other, within.signed slot held⟩
      have recorded : Triple
          (fun engine => Within env msg key start base engine ∧ holds engine ∧
            bundler.startUid = start)
          (Action.modify fun engine => engine.withBundler key fun bundler =>
            { bundler with streamResourceDataKeys := packed.2 } : EngineAction Unit)
          (fun _ engine => Within env msg key start base engine ∧ holds engine ∧
            bundler.startUid = start)
          (fun _ => Within env msg key start base) :=
        within_triple (registry_onward packed.2) fun before after moved both =>
          ⟨framed before after moved both.1, both.2⟩
      refine Triple.bind (recorded.weaken mine (fun _ _ held => held) fun _ _ held => held)
        fun _ => ?_
      cases result : packed.1 with
      | error error => exact Triple.fail _ fun _ held => held.1
      | ok drained =>
          refine Triple.pure _ fun engine held => ⟨⟨held.1, held.2.1⟩, fun doc member => ?_⟩
          rw [held.2.2] at made
          rw [← made] at result
          obtain ⟨given, among, filled⟩ := packExternalAssets_filledIn result doc member
          exact ⟨given, supplied given among, filled⟩

private theorem deliver_within (stream : String) {doc : Document} (suppliable : Suppliable env start doc)
    {holds : RunEngine → Prop}
    (framed : ∀ before after, Onward msg key before after → holds before → holds after)
    (recorded : ∀ engine entry, holds engine → holds (engine.record entry)) :
    Triple (fun engine => Within env msg key start base engine ∧ holds engine)
      (deliver env key stream doc)
      (fun _ engine => Within env msg key start base engine ∧ holds engine)
      (fun _ => Within env msg key start base) := by
  refine Triple.bind (Triple.modify fun engine held =>
    ⟨held.1.record ⟨rfl, suppliable⟩, recorded engine _ held.2⟩) fun _ =>
      Triple.bind (within_triple (await_onward env) framed) fun _ => Triple.pure _ fun _ held => held

private theorem deliverAll_within (stream : String) {docs : List Document}
    (suppliable : ∀ doc ∈ docs, Suppliable env start doc) {holds : RunEngine → Prop}
    (framed : ∀ before after, Onward msg key before after → holds before → holds after)
    (recorded : ∀ engine entry, holds engine → holds (engine.record entry)) :
    Triple (fun engine => Within env msg key start base engine ∧ holds engine)
      (Action.each (deliver env key stream) docs)
      (fun _ engine => Within env msg key start base engine ∧ holds engine)
      (fun _ => Within env msg key start base) := by
  induction docs with
  | nil => exact Triple.pure _ fun _ held => held
  | cons doc rest ih =>
      refine Triple.bind (deliver_within stream (suppliable doc (List.mem_cons_self ..)) framed
        recorded) fun _ => ih fun other member => suppliable other (List.mem_cons_of_mem _ member)

private theorem emit_within (stream : String) (event : Event) {holds : RunEngine → Prop}
    (framed : ∀ before after, Onward msg key before after → holds before → holds after)
    (recorded : ∀ engine entry, holds engine → holds (engine.record entry)) :
    Triple (fun engine => Within env msg key start base engine ∧ holds engine ∧
        Named key event.descriptor engine)
      (emit env key stream .bundle event)
      (fun _ engine => Within env msg key start base engine ∧ holds engine)
      (fun _ => Within env msg key start base) := by
  refine Triple.bind (Triple.modify fun engine held =>
    ⟨held.1.record (.inr ⟨rfl, held.2.2⟩), recorded engine _ held.2.1⟩) fun _ =>
      Triple.bind (within_triple (await_onward env) framed) fun _ => Triple.pure _ fun _ held => held

/-! ## Saving -/

private theorem save_steady : Steady .save :=
  ⟨fun _ => nofun, fun _ _ => nofun, fun _ _ => nofun⟩

private theorem collect_steady (obj : Obj) (streamName : Option String) :
    Steady (.collect obj streamName) :=
  ⟨fun _ => nofun, fun _ _ => nofun, fun _ _ => nofun⟩

/-- What a saved bundle has in hand: Descriptors, and Events that name Descriptors of the run. -/
private def Savable (key : RunKey) (docs : List Document) (engine : RunEngine) : Prop :=
  ∀ doc ∈ docs, (∃ descriptor, doc = .descriptor descriptor) ∨
    ∃ event, doc = .event event ∧ Named key event.descriptor engine

private theorem Savable.onward {docs : List Document} (savable : Savable key docs before)
    (onward : Onward msg key before after) : Savable key docs after := by
  intro doc member
  rcases savable doc member with described | ⟨event, same, named⟩
  · exact .inl described
  · exact .inr ⟨event, same, onward.named _ named⟩

private theorem countWith_own (engine : RunEngine) (key : RunKey) (stream : Option String)
    (update : RunBundler → RunBundler) :
    (engine.countWith key stream update).state.run key =
      (engine.state.run key).map fun slot => { slot with bundler := update slot.bundler } := by
  have updated : (engine.withBundler key update).state.run key =
      (engine.state.run key).map fun slot => { slot with bundler := update slot.bundler } :=
    (run_withSlot _ _ _ _).trans (if_pos rfl)
  unfold RunEngine.countWith
  split
  · rw [run_record, updated]
  · exact updated

private theorem save_savable {bundler : RunBundler} {descriptorUid eventUid : Uid}
    {docs : List Document} (made : (bundler.save descriptorUid eventUid).1 = .ok docs) :
    ∀ doc ∈ docs, (∃ descriptor, doc = .descriptor descriptor) ∨
      ∃ event, doc = .event event ∧ ∃ stream,
        ∃ descriptor ∈ (bundler.save descriptorUid eventUid).2.bundle.described stream,
          descriptor.uid = event.descriptor := by
  have outcome := save_outcome bundler descriptorUid eventUid
  rw [made] at outcome
  generalize (bundler.save descriptorUid eventUid).2 = left at outcome ⊢
  intro doc member
  cases outcome with
  | empty same => cases member
  | again bundle event current opened read declared gives same =>
      obtain rfl := List.mem_singleton.mp member
      refine .inr ⟨event, rfl, bundle.streamName, current, ?_, gives.descriptor.symm⟩
      rw [same.described]
      exact declared
  | first bundle event opened read uncached gives same =>
      rcases List.mem_cons.mp member with rfl | member
      · exact .inl ⟨_, rfl⟩
      · obtain rfl := List.mem_singleton.mp member
        refine .inr ⟨event, rfl, bundle.streamName, _, ?_, gives.descriptor.symm⟩
        rw [same.described, declareStream_described, if_pos rfl]
        rfl

private theorem composeSave_savable {saved : SavedBundle} {engine reached : RunEngine}
    (composed : composeSave key engine = (.ok saved, reached)) : Savable key saved.docs reached := by
  unfold composeSave at composed
  obtain ⟨descriptorUid, minted, -, composed⟩ := bind_cases composed
  obtain ⟨eventUid, again, -, composed⟩ := bind_cases composed
  rw [ask_bind] at composed
  cases found : again.state.run key with
  | none =>
      rw [found] at composed
      cases composed
  | some slot =>
      rw [found] at composed
      dsimp only at composed
      rw [modify_bind] at composed
      have counted := countWith_own again key slot.bundler.openStreamName
        fun bundler => (bundler.save descriptorUid eventUid).2
      rw [found] at counted
      cases made : (slot.bundler.save descriptorUid eventUid).1 with
      | error error =>
          rw [made] at composed
          cases composed
      | ok docs =>
          rw [made] at composed
          cases composed
          intro doc member
          rcases save_savable made doc member with described | ⟨event, same, stream, named⟩
          · exact .inl described
          · refine .inr ⟨event, same, { slot with
              bundler := (slot.bundler.save descriptorUid eventUid).2, bundleAssetObjs := [] }, ?_,
              stream, named⟩
            refine ((run_withSlot _ _ _ _).trans (if_pos rfl)).trans ?_
            rw [counted]
            rfl

private theorem composeSave_within :
    Triple (Within env .save key start base) (composeSave key)
      (fun saved engine => Within env .save key start base engine ∧ Savable key saved.docs engine)
      (fun _ => Within env .save key start base) := by
  intro engine within
  have onward : Onward .save key engine (composeSave key engine).2 :=
    onward_of_effects (quietScope_modest .save key) save_steady (composeSave_effects rfl) engine
  rcases ran : composeSave key engine with ⟨outcome, reached⟩
  rw [ran] at onward
  cases outcome with
  | ok saved => exact ⟨within.onward onward, composeSave_savable ran⟩
  | error failure => exact within.onward onward

private theorem drainAssets_within {holds : RunEngine → Prop}
    (framed : ∀ before after, Onward msg key before after → holds before → holds after)
    (objs : List Obj) (descriptor : Option Uid) :
    Triple (fun engine => Within env msg key start base engine ∧ holds engine)
      (drainAssets env objs descriptor)
      (fun docs engine => (Within env msg key start base engine ∧ holds engine) ∧
        ∀ doc ∈ docs, env.Supplies doc)
      (fun _ => Within env msg key start base) := by
  cases descriptor with
  | none => exact Triple.pure _ fun _ held => ⟨held, fun _ member => absurd member List.not_mem_nil⟩
  | some uid =>
      let supplied (drained : List (List Document)) (engine : RunEngine) : Prop :=
        (Within env msg key start base engine ∧ holds engine) ∧
          ∀ docs ∈ drained, ∀ doc ∈ docs, env.Supplies doc
      have turn : ∀ (obj : Obj) (rest : List Obj) (drained : List (List Document)),
          Triple (supplied drained)
            (do
              let tick ← await env
              lift (env.collectAssetDocs tick obj uid) : EngineAction (List Document))
            (fun docs => supplied (docs :: drained))
            (fun _ => Within env msg key start base) := by
        intro obj rest drained
        have waited : Triple (supplied drained) (await env) (fun _ => supplied drained)
            (fun _ => Within env msg key start base) := by
          refine .of_keeps (await_onward env) (fun before _ after held moved => ?_)
            fun _ _ _ held moved => held.1.1.onward moved
          exact ⟨⟨held.1.1.onward moved, framed before after moved held.1.2⟩, held.2⟩
        refine Triple.bind waited fun tick => Triple.lift (fun docs engine answered held => ?_)
          fun _ _ held => held.1.1
        refine ⟨held.1, fun others member doc among => ?_⟩
        rcases List.mem_cons.mp member with rfl | member
        · exact ⟨tick, obj, uid, others, .inl answered, among⟩
        · exact held.2 others member doc among
      have gathered := Triple.gather (fun _ drained => supplied drained) turn objs []
      refine Triple.bind (gathered.weaken (fun _ held => ⟨held, fun _ => nofun⟩)
        (fun _ _ held => held) fun _ _ held => held) fun drained => ?_
      refine Triple.pure _ fun engine held => ⟨held.1, fun doc member => ?_⟩
      obtain ⟨docs, among, inside⟩ := List.mem_flatten.mp member
      exact held.2 docs (by simpa using among) doc inside

private theorem packSaved_within (stream : String) (docs : List Document)
    {assets : List Document} (supplied : ∀ doc ∈ assets, env.Supplies doc) {holds : RunEngine → Prop}
    (framed : ∀ before after, Onward msg key before after → holds before → holds after) :
    Triple (fun engine => Within env msg key start base engine ∧ holds engine)
      (packSaved key stream docs assets)
      (fun packed engine => (Within env msg key start base engine ∧ holds engine) ∧
        ∀ doc ∈ packed, Suppliable env start doc)
      (fun _ => Within env msg key start base) := by
  unfold packSaved
  split
  · exact Triple.pure _ fun _ held => ⟨held, fun _ => nofun⟩
  · split
    · exact Triple.fail _ fun _ held => held.1
    · refine Triple.bind (packInto_within _ _ _ supplied framed) fun packed => ?_
      exact Triple.pure _ fun _ held => held

private theorem savedAssets_within (stream : String) (saved : SavedBundle) :
    Triple (fun engine => Within env msg key start base engine ∧ Savable key saved.docs engine)
      (savedAssets env key stream saved)
      (fun assets engine =>
        (Within env msg key start base engine ∧ Savable key saved.docs engine) ∧
          ∀ doc ∈ assets, Suppliable env start doc)
      (fun _ => Within env msg key start base) := by
  have framed : ∀ before after, Onward msg key before after → Savable key saved.docs before →
      Savable key saved.docs after := fun _ _ onward savable => savable.onward onward
  refine Triple.ask_bind fun descriptor => ?_
  refine Triple.bind ((drainAssets_within framed saved.assetObjs descriptor).weaken
    (fun _ held => held.1) (fun _ _ held => held) fun _ _ held => held) fun drained => ?_
  rintro engine ⟨held, supplied⟩
  exact packSaved_within stream saved.docs supplied framed engine held

private theorem emitSaved_within (stream : String) (docs : List Document)
    {assets : List Document} (suppliable : ∀ doc ∈ assets, Suppliable env start doc) :
    Triple (fun engine => Within env msg key start base engine ∧ Savable key docs engine)
      (emitSaved env key stream docs assets)
      (fun _ => Within env msg key start base) (fun _ => Within env msg key start base) := by
  have framed : ∀ before after, Onward msg key before after → Savable key docs before →
      Savable key docs after := fun _ _ onward savable => savable.onward onward
  have described : ∀ some : List Document, (∀ doc ∈ some, doc.isDescriptor = true) →
      Triple (fun engine => Within env msg key start base engine ∧ Savable key docs engine)
        (Action.each (broadcast env) some)
        (fun _ engine => Within env msg key start base engine ∧ Savable key docs engine)
        (fun _ => Within env msg key start base) := by
    intro some
    induction some with
    | nil => exact fun _ => Triple.pure _ fun _ held => held
    | cons doc rest ih =>
        intro all
        have first := all doc (List.mem_cons_self ..)
        have belongs : ∀ engine, Belongs env msg key start engine (.broadcast doc) := by
          intro engine
          cases doc with
          | descriptor doc => rfl
          | _ => cases first
        have sent : Triple
            (fun engine => Within env msg key start base engine ∧ Savable key docs engine)
            (broadcast env doc)
            (fun _ engine => Within env msg key start base engine ∧ Savable key docs engine)
            (fun _ => Within env msg key start base) := by
          have recorded : Triple
              (fun engine => Within env msg key start base engine ∧ Savable key docs engine)
              (record (.broadcast doc))
              (fun _ engine => Within env msg key start base engine ∧ Savable key docs engine)
              (fun _ => Within env msg key start base) :=
            Triple.modify fun engine held => ⟨held.1.record (belongs engine), held.2⟩
          exact Triple.bind recorded fun _ =>
            Triple.bind (within_triple (await_onward env) framed) fun _ =>
              Triple.pure _ fun _ held => held
        exact Triple.bind sent fun _ => ih fun other member =>
          all other (List.mem_cons_of_mem _ member)
  have emitted (send : Document → EngineAction Unit)
      (events : ∀ event, send (.event event) = emit env key stream .bundle event) :
      ∀ some : List Document, (∀ doc ∈ some, doc ∈ docs ∧ doc.isDescriptor = false) →
      Triple (fun engine => Within env msg key start base engine ∧ Savable key docs engine)
        (Action.each send some)
        (fun _ engine => Within env msg key start base engine ∧ Savable key docs engine)
        (fun _ => Within env msg key start base) := by
    intro some
    induction some with
    | nil => exact fun _ => Triple.pure _ fun _ held => held
    | cons doc rest ih =>
        intro all
        obtain ⟨among, plain⟩ := all doc (List.mem_cons_self ..)
        refine Triple.bind ?_ fun _ => ih fun other member =>
          all other (List.mem_cons_of_mem _ member)
        rintro engine ⟨within, savable⟩
        rcases savable doc among with ⟨descriptor, rfl⟩ | ⟨event, rfl, named⟩
        · cases plain
        · rw [events]
          exact emit_within stream event framed (fun _ _ held => held) engine
            ⟨within, savable, named⟩
  refine Triple.bind (described _ fun doc member => (List.mem_filter.mp member).2) fun _ => ?_
  refine Triple.bind (deliverAll_within stream suppliable framed fun _ _ held => held) fun _ => ?_
  refine (emitted _ (fun _ => rfl) _ fun doc member => ?_).weaken (fun _ held => held) (fun _ _ held => held.1)
    fun _ _ held => held
  obtain ⟨among, plain⟩ := List.mem_filter.mp member
  exact ⟨among, by simpa using plain⟩

theorem handleSave_within (env : Env) (key : RunKey) (start : Uid) (base : List Entry) :
    Triple (Within env .save key start base) (handleSave env key)
      (fun _ => Within env .save key start base) (fun _ => Within env .save key start base) := by
  refine Triple.bind composeSave_within fun saved => ?_
  cases saved.stream with
  | none => exact Triple.pure _ fun _ held => held.1
  | some stream =>
      refine Triple.bind (savedAssets_within stream saved) fun assets => ?_
      rintro engine ⟨held, suppliable⟩
      exact emitSaved_within stream saved.docs suppliable engine held

/-! ## Collecting -/

private theorem collectAssets_within (obj : Obj) (stream : String) (uid : Uid) :
    Triple (Within env msg key start base) (collectAssets env key obj stream uid)
      (fun _ => Within env msg key start base) (fun _ => Within env msg key start base) := by
  have framed : ∀ before after, Onward msg key before after → True → True := fun _ _ _ => id
  refine Triple.bind (within_of_onward (await_onward env)) fun tick => ?_
  have answered : Triple (Within env msg key start base) (lift (env.collectStreamDocs tick obj uid))
      (fun docs engine => Within env msg key start base engine ∧
        ∀ doc ∈ docs, env.Supplies doc) (fun _ => Within env msg key start base) := by
    refine Triple.lift (fun docs engine supplied within => ⟨within, fun doc member => ?_⟩)
      fun _ _ within => within
    exact ⟨tick, obj, uid, docs, .inr supplied, member⟩
  refine Triple.bind answered fun docs => ?_
  rintro engine ⟨within, supplied⟩
  have delivered : ∀ packed : List Document, Triple
      (fun engine => Within env msg key start base engine ∧ ∀ doc ∈ packed, Suppliable env start doc)
      (Action.each (deliver env key stream) packed)
      (fun _ => Within env msg key start base) (fun _ => Within env msg key start base) := by
    rintro packed engine ⟨within, suppliable⟩
    exact (deliverAll_within stream suppliable framed fun _ _ => id).weaken
      (fun _ held => ⟨held, trivial⟩) (fun _ _ held => held.1) (fun _ _ held => held) engine within
  refine (?_ : Triple (Within env msg key start base) _ (fun _ => Within env msg key start base)
    (fun _ => Within env msg key start base)) engine within
  split
  · exact Triple.pure _ fun _ held => held
  · refine Triple.ask_bind fun found => ?_
    cases found with
    | none => exact Triple.fail _ fun _ held => held.1
    | some bundler =>
        dsimp only
        split
        · exact Triple.fail _ fun _ held => held.1
        · refine Triple.bind ((packInto_within _ _ _ supplied framed).weaken
            (fun _ held => ⟨held.1, trivial⟩) (fun _ _ held => held) fun _ _ held => held)
            fun packed => ?_
          split
          · refine Triple.bind ?_ fun _ => delivered packed.1
            rintro engine ⟨held, suppliable⟩
            have advanced : Keeps (Effects (quietScope key) .null) (Action.modify fun engine =>
                engine.countWith key (some stream) fun bundler => { bundler with
                  bundle := bundler.bundle.advanceSeq stream packed.2 } : EngineAction Unit) :=
              count_effects rfl fun bundler => .advance bundler stream packed.2
            exact ⟨held.1.onward (onward_of_plain advanced engine), suppliable⟩
          · exact (delivered packed.1).weaken (fun _ held => ⟨held.1.1, held.2⟩)
              (fun _ _ held => held) fun _ _ held => held

private theorem drainCollected_within (obj : Obj) (stream : Option String) :
    Triple (Within env msg key start base) (drainCollected env key obj stream)
      (fun _ => Within env msg key start base) (fun _ => Within env msg key start base) := by
  refine Triple.ask_bind fun found => ?_
  cases found with
  | none => exact Triple.fail _ fun _ held => held.1
  | some bundler =>
      dsimp only
      split
      · exact (collectAssets_within obj _ _).weaken (fun _ held => held.1) (fun _ _ held => held)
          fun _ _ held => held
      · exact Triple.pure _ fun _ held => held.1

/-- An Event composed for a stream names the Descriptor its bundle has for it. -/
private theorem collectEvent_within (declared : Option String)
    (item : String × Table String Value × Table String Value) :
    Triple (Within env msg key start base) (collectEvent env key declared item)
      (fun _ => Within env msg key start base) (fun _ => Within env msg key start base) := by
  refine Triple.bind (within_of_onward (onward_of_plain mint_effects)) fun uid =>
    Triple.ask_bind fun found => ?_
  cases found with
  | none => exact Triple.fail _ fun _ held => held.1
  | some bundler =>
      rintro engine ⟨within, found⟩
      obtain ⟨slot, open_, rfl⟩ := run_of_bundler found
      have counting : Keeps (Effects (quietScope key) .null) (Action.modify fun engine =>
          engine.countWith key (some (declared.getD item.1)) fun bundler => { bundler with
            bundle := (bundler.bundle.event uid (declared.getD item.1) item.2.1 item.2.2).2 } :
          EngineAction Unit) :=
        count_effects rfl fun bundler => .compose bundler uid _ _ _
      have moved : Onward msg key engine _ := onward_of_plain counting engine
      dsimp only
      rw [modify_bind]
      dsimp only [modify_apply] at moved
      cases composed : (slot.bundler.bundle.event uid (declared.getD item.1) item.2.1 item.2.2).1 with
      | none => exact within.onward moved
      | some event =>
          obtain ⟨current, declares, names⟩ := RunBundle.event_descriptor composed
          have named : Named key event.descriptor engine :=
            ⟨slot, open_, _, current, declares, names.symm⟩
          have sent : Triple
              (fun engine => Within env msg key start base engine ∧ True ∧
                Named key event.descriptor engine)
              (emit env key (declared.getD item.1) .bundle event)
              (fun _ engine => Within env msg key start base engine ∧ True)
              (fun _ => Within env msg key start base) :=
            emit_within _ event (fun _ _ _ => id) fun _ _ => id
          have ended := sent.weaken (fun _ held => held) (fun _ _ held => held.1) fun _ _ held => held
          exact ended _ ⟨within.onward moved, trivial, moved.named _ named⟩

theorem collectObject_within (env : Env) (key : RunKey) (start : Uid) (base : List Entry) (obj : Obj)
    (streamName : Option String) :
    Triple (Within env (.collect obj streamName) key start base)
      (collectObject env key obj streamName)
      (fun _ => Within env (.collect obj streamName) key start base)
      (fun _ => Within env (.collect obj streamName) key start base) := by
  have steady := collect_steady obj streamName
  have quiet := quietScope_modest (.collect obj streamName) key
  have describes : Describes (.collect obj streamName) := trivial
  have marked : Keeps (Effects (quietScope key) .null) (record (.collecting key obj)) :=
    record_effects ⟨rfl, .inr rfl⟩
  refine Triple.bind (within_of_onward (onward_of_plain marked)) fun _ =>
    Triple.ask_bind fun found => ?_
  cases found with
  | none => exact Triple.fail _ fun _ held => held.1
  | some bundler =>
      have resolved : Triple (Within env (.collect obj streamName) key start base)
          (lift ((resolveCollectStream bundler obj streamName).mapError BsrsError.plan))
          (fun _ => Within env (.collect obj streamName) key start base)
          (fun _ => Within env (.collect obj streamName) key start base) :=
        Triple.lift (fun _ _ _ held => held) fun _ _ held => held
      refine Triple.bind (resolved.weaken (fun _ held => held.1) (fun _ _ held => held)
        fun _ _ held => held) fun declared => ?_
      have configures : (quietScope key).may .configures := .inl rfl
      have stream : Keeps (Effects (quietScope key) (.collect obj streamName))
          (collectStream env key obj declared) := by
        cases declared with
        | none => exact declareCollected_effects rfl configures describes env obj
        | some stream => exact Keeps.pure _
      refine Triple.bind (within_of_onward (onward_of_effects quiet steady stream)) fun name =>
        Triple.bind (drainCollected_within obj name) fun _ =>
          Triple.bind (within_of_onward (await_onward env)) fun tick => ?_
      have collected : Triple (Within env (.collect obj streamName) key start base)
          (lift (env.collect tick obj))
          (fun _ => Within env (.collect obj streamName) key start base)
          (fun _ => Within env (.collect obj streamName) key start base) :=
        Triple.lift (fun _ _ _ held => held) fun _ _ held => held
      refine Triple.bind collected fun events => ?_
      have sent := Triple.each
        (fun _ : List (String × Table String Value × Table String Value) =>
          Within env (.collect obj streamName) key start base)
        (fun item _ => collectEvent_within declared item) events
      refine Triple.bind sent fun _ => within_of_onward (onward_of_plain ?_)
      exact slot_effects rfl fun slot => .flyers slot _ (.inr (.inr rfl))

end

end Bsrs.Engine
