import Bsrs.Engine.AssetDrains
import Bsrs.Engine.SlotMove
import Bsrs.Library.Triple

/-! The resources that a run's asset documents name, over whole calls. -/

namespace Bsrs.Engine

open Bsrs.Library (Table Action Grows Always)
open Bsrs.Library.Action
open Bsrs.EventModel
open Bsrs.Core
open Relation (ReflTransGen)

/-! ## Resources in the log -/

/-- The resource an asset document is or refers to. -/
def resourceOf : Document → Option String
  | .streamResource doc => some doc.uid
  | .streamDatum doc => some doc.streamResource
  | _ => none

/-- The resources the run `key` has sent asset documents of, since it was opened. -/
def assetsIn (key : RunKey) : List Entry → List String
  | [] => []
  | .opened other _ :: rest => if other = key then [] else assetsIn key rest
  | .drained other _ doc :: rest =>
      if other = key then (resourceOf doc).toList ++ assetsIn key rest else assetsIn key rest
  | _ :: rest => assetsIn key rest

/-- A resource goes out before anything else of it does, and once. -/
def NewResource : Entry → List Entry → Prop
  | .drained key _ (.streamResource doc), rest => doc.uid ∉ assetsIn key rest
  | _, _ => True

/-- Every resource a run has sent documents of is in its registry, and was new when it was sent. -/
structure Registered (engine : RunEngine) : Prop where
  known : ∀ key, ∀ slot ∈ engine.state.run key, ∀ uid ∈ assetsIn key engine.log,
    uid ∈ slot.bundler.streamResourceDataKeys
  new : Always NewResource engine.log

/-- Entries of no asset and no opening. -/
def Entry.isDry : Entry → Bool
  | .drained _ _ _ | .opened _ _ => false
  | _ => true

private theorem assetsIn_dry (key : RunKey) (entry : Entry) (rest : List Entry)
    (dry : entry.isDry = true) : assetsIn key (entry :: rest) = assetsIn key rest := by
  cases entry <;> first | rfl | cases dry

private theorem newResource_dry (entry : Entry) (rest : List Entry) (dry : entry.isDry = true) :
    NewResource entry rest := by
  cases entry <;> trivial

/-- A move that sends no asset and leaves every registry as it is. -/
structure Dry (before after : RunEngine) : Prop where
  slots : ∀ key, ∀ slot ∈ after.state.run key, ∃ earlier ∈ before.state.run key,
    slot.bundler.streamResourceDataKeys = earlier.bundler.streamResourceDataKeys
  log : Grows Entry.isDry before.log after.log

instance : Std.Refl Dry :=
  ⟨fun _ => ⟨fun _ slot held => ⟨slot, held, rfl⟩, .refl _⟩⟩

instance : IsTrans RunEngine Dry where
  trans _ _ _ head tail := by
    refine ⟨fun key slot held => ?_, head.log.trans tail.log⟩
    obtain ⟨middle, found, later⟩ := tail.slots key slot held
    obtain ⟨earlier, was, sooner⟩ := head.slots key middle found
    exact ⟨earlier, was, later.trans sooner⟩

section

variable {scope : Scope} {msg : Msg} {key : RunKey} {before after engine : RunEngine}

theorem Registered.dry (held : Registered before) (dry : Dry before after) : Registered after where
  known := by
    intro key slot open_ uid named
    obtain ⟨earlier, was, same⟩ := dry.slots key slot open_
    rw [dry.log.reading (assetsIn_dry key)] at named
    rw [same]
    exact held.known key earlier was uid named
  new := (Always.grows newResource_dry dry.log).mpr held.new

/-! ## Effects -/

private theorem save_registry (bundler : RunBundler) (descriptorUid eventUid : Uid) :
    (bundler.save descriptorUid eventUid).2.streamResourceDataKeys =
      bundler.streamResourceDataKeys := by
  have sent : ∀ (prepared : RunBundler) (bundle : OpenBundle) (out : List Document),
      (prepared.saveEvent eventUid bundle out).2.streamResourceDataKeys =
        prepared.streamResourceDataKeys := by
    intro prepared bundle out
    unfold RunBundler.saveEvent
    split
    · rfl
    · rfl
  unfold RunBundler.save
  split
  · rfl
  · dsimp only
    split
    · rfl
    · split
      · exact sent _ _ _
      · exact sent _ _ _

private theorem installReconfigured_registry (descriptors : List EventDescriptor) :
    ∀ bundler : RunBundler, (bundler.installReconfigured descriptors).streamResourceDataKeys =
      bundler.streamResourceDataKeys := by
  induction descriptors with
  | nil => exact fun _ => rfl
  | cons descriptor rest ih =>
      intro bundler
      unfold RunBundler.installReconfigured
      split
      · exact ih _
      · exact ih _

private theorem slotMove_registry (drains : ¬ scope.may .drains) {slot next : RunSlot}
    (move : SlotMove scope msg key slot next) :
    next.bundler.streamResourceDataKeys = slot.bundler.streamResourceDataKeys := by
  cases move with
  | changed own effect =>
      cases effect with
      | registry registry allowed => exact absurd allowed drains
      | install descriptors configures => exact installReconfigured_registry descriptors slot.bundler
      | _ => rfl
  | counted stream bundler own counting =>
      cases counting with
      | save descriptorUid eventUid saves => exact save_registry _ _ _
      | _ => rfl
  | _ => rfl

private theorem feed_dry (engine : RunEngine) (key : RunKey) (stream : String) (source : Source)
    (data timestamps : Table String Value) :
    Grows Entry.isDry engine.log (engine.feed key stream source data timestamps).log := by
  unfold RunEngine.feed
  split
  · exact .refl _
  · split
    · exact .refl _
    · exact .cons rfl _

/-- An effect that drains nothing leaves no asset in the log, and opens runs one at a time. -/
private theorem log_of_effect (drains : ¬ scope.may .drains) (effect : Effect scope msg before after) :
    Grows Entry.isDry before.log after.log ∨
      (∃ metadata, msg = .openRun metadata) ∧
        ∃ owned start, after.log = .opened owned start :: before.log := by
  cases effect with
  | opened owned bundler own opens fresh => exact .inr ⟨opens, owned, bundler.startUid, rfl⟩
  | pump update =>
      unfold RunEngine.pump
      split
      · exact .inl (feed_dry _ _ _ _ _ _)
      · exact .inl (.refl _)
  | interrupt content owned own describes => exact .inl (feed_dry _ _ _ _ _ _)
  | trace entry leaves =>
      refine .inl (.cons ?_ _)
      cases entry with
      | drained owned stream doc => exact absurd leaves.2 drains
      | opened owned start => exact leaves.elim
      | _ => rfl
  | count owned stream update own uses =>
      unfold RunEngine.countWith
      split
      · exact .inl (.cons rfl _)
      · exact .inl (.refl _)
  | request request requests => cases request <;> exact .inl (.cons rfl _)
  | sentOut | closed | restart | clear | due => exact .inl (.cons rfl _)
  | _ => exact .inl (.refl _)

/-- Where nothing is drained, the resources stay registered; a run that is opened has sent none. -/
theorem registered_of_effect (drains : ¬ scope.may .drains) (effect : Effect scope msg before after)
    (held : Registered before) : Registered after := by
  have log := log_of_effect drains effect
  constructor
  · intro key slot open_ uid named
    have moved := runMove_of_effect effect key
    have known := held.known key
    generalize before.state.run key = first at moved known
    rw [Option.mem_def.mp open_] at moved
    cases moved with
    | opened first bundler own opens fresh opening =>
        rw [opening, assetsIn, if_pos rfl] at named
        cases named
    | stayed move =>
        rw [slotMove_registry drains move]
        refine known _ rfl uid ?_
        rcases log with dry | ⟨-, owned, start, grown⟩
        · rwa [dry.reading (assetsIn_dry key)] at named
        · rw [grown, assetsIn] at named
          split at named
          · cases named
          · exact named
  · rcases log with dry | ⟨-, owned, start, grown⟩
    · exact (Always.grows newResource_dry dry).mpr held.new
    · rw [grown]
      exact ⟨trivial, held.new⟩

theorem registered_of_effects (drains : ¬ scope.may .drains) {body : EngineAction α}
    (effects : Keeps (Effects scope msg) body) (held : Registered engine) :
    Registered (body engine).2 := by
  have moves := effects engine
  generalize (body engine).2 = reached at moves ⊢
  induction moves with
  | refl => exact held
  | tail _ effect ih => exact registered_of_effect drains effect ih

private theorem dry_of_effect (drains : ¬ scope.may .drains) (opens : ∀ metadata, msg ≠ .openRun metadata)
    (effect : Effect scope msg before after) : Dry before after := by
  constructor
  · intro key slot open_
    have moved := runMove_of_effect effect key
    generalize before.state.run key = first at moved ⊢
    rw [Option.mem_def.mp open_] at moved
    cases moved with
    | opened first bundler own opening fresh grown =>
        obtain ⟨metadata, same⟩ := opening
        exact absurd same (opens metadata)
    | stayed move => exact ⟨_, rfl, slotMove_registry drains move⟩
  · rcases log_of_effect drains effect with dry | ⟨⟨metadata, same⟩, -⟩
    · exact dry
    · exact absurd same (opens metadata)

/-- The own runs of a message, with every power but to drain, to open and to close. -/
def dryScope (key : RunKey) : Scope where
  own owned := owned = key
  may power := power ≠ .drains ∧ power ≠ .opens ∧ power ≠ .closes

theorem dry_of_effects (opens : ∀ metadata, msg ≠ .openRun metadata) {body : EngineAction α}
    (effects : Keeps (Effects (dryScope key) msg) body) : Keeps Dry body := by
  have drains : ¬ (dryScope key).may .drains := fun may => may.1 rfl
  refine effects.mono fun before after moves => ?_
  induction moves with
  | refl => exact refl_of Dry before
  | tail _ effect ih => exact trans_of Dry ih (dry_of_effect drains opens effect)

/-! ## Asset documents on their way out -/

/-- The resources among the documents are new behind those `seen` and those named before them. -/
def Unannounced (seen : List String) : List Document → Prop
  | [] => True
  | doc :: rest => (∀ resource, doc = .streamResource resource → resource.uid ∉ seen) ∧
      Unannounced ((resourceOf doc).toList ++ seen) rest

/-- Asset documents that can go out for the run `key`, in their order. -/
structure Pending (key : RunKey) (docs : List Document) (engine : RunEngine) : Prop where
  known : ∀ slot ∈ engine.state.run key, ∀ doc ∈ docs, ∀ uid ∈ resourceOf doc,
    uid ∈ slot.bundler.streamResourceDataKeys
  fresh : Unannounced (assetsIn key engine.log) docs

theorem Pending.dry {docs : List Document} (pending : Pending key docs before) (dry : Dry before after) :
    Pending key docs after where
  known := by
    intro slot open_
    obtain ⟨earlier, was, same⟩ := dry.slots key slot open_
    rw [same]
    exact pending.known earlier was
  fresh := by
    rw [dry.log.reading (assetsIn_dry key)]
    exact pending.fresh

/-- A drain in order, with everything seen registered, goes out in its order. -/
private theorem unannounced_of_inOrder {external : List String} {docs : List Document}
    {runStart : Uid} {nextSeq : Nat} :
    ∀ {packing : Packing} {seen : List String},
      InOrder external packing.registry packing.width docs → (∀ uid ∈ seen, uid ∈ packing.registry) →
      Unannounced seen (docs.map (stamp runStart nextSeq)) := by
  induction docs with
  | nil => exact fun _ _ => trivial
  | cons doc rest ih =>
      intro packing seen order registered
      obtain ⟨passes, later⟩ := Packing.inOrder_cons.mp order
      refine ⟨?_, ih later ?_⟩
      · intro resource same
        cases doc with
        | streamResource doc =>
            cases same
            exact fun known => passes.1 (registered _ known)
        | _ => cases same
      · intro uid member
        refine Table.mem_insertAll.mpr ?_
        rcases List.mem_append.mp member with own | before
        · cases doc with
          | streamResource doc =>
              rw [List.mem_singleton.mp own]
              exact .inr (List.mem_singleton_self _)
          | streamDatum doc =>
              rw [List.mem_singleton.mp own]
              exact .inl passes.2.1
          | _ => cases own
        · exact .inl (registered uid before)

/-- Every resource a drain in order names is registered past it. -/
private theorem named_of_inOrder {external : List String} {registry : Table String String}
    {width : Option Nat} {docs : List Document} {runStart : Uid} {nextSeq : Nat}
    (order : InOrder external registry width docs) :
    ∀ doc ∈ docs.map (stamp runStart nextSeq), ∀ uid ∈ resourceOf doc,
      uid ∈ registry.insertAll (resourceEntries docs) := by
  intro doc member uid names
  obtain ⟨given, inside, rfl⟩ := List.mem_map.mp member
  obtain ⟨earlier, later, rfl⟩ := List.append_of_mem inside
  have split : resourceEntries (earlier ++ given :: later) =
      resourceEntries earlier ++ resourceEntries (given :: later) := List.filterMap_append
  rw [split, Table.insertAll_append, Table.mem_insertAll]
  cases given with
  | streamResource doc =>
      cases names
      exact .inr (List.mem_cons_self ..)
  | streamDatum doc =>
      cases names
      exact .inl (order.datums earlier doc later rfl).2.1
  | _ => cases names

/-! ## Packing and delivering -/

private theorem registered_of_dry {body : EngineAction α} (dry : Keeps Dry body) :
    Triple Registered body (fun _ => Registered) (fun _ => Registered) :=
  .of_keeps dry (fun _ _ _ held moved => held.dry moved) fun _ _ _ held moved => held.dry moved

private theorem registered_ask {view : RunEngine → α} {next : α → EngineAction β}
    (turn : ∀ value, Triple Registered (next value) (fun _ => Registered) (fun _ => Registered)) :
    Triple Registered (ask view >>= next) (fun _ => Registered) (fun _ => Registered) :=
  Triple.ask_bind fun value =>
    (turn value).weaken (fun _ held => held.1) (fun _ _ held => held) fun _ _ held => held

private theorem pending_of_dry {docs : List Document} {body : EngineAction α} (dry : Keeps Dry body) :
    Triple (fun engine => Registered engine ∧ Pending key docs engine) body
      (fun _ engine => Registered engine ∧ Pending key docs engine) (fun _ => Registered) :=
  .of_keeps dry (fun _ _ _ held moved => ⟨held.1.dry moved, held.2.dry moved⟩)
    fun _ _ _ held moved => held.1.dry moved

private theorem await_dry (env : Env) : Keeps Dry (await env) := by
  have effects : Keeps (Effects (dryScope none) .null) (await env) := await_effects env
  have opens : ∀ metadata, Msg.null ≠ .openRun metadata := fun _ => nofun
  exact dry_of_effects opens effects

/-- A drain that is accepted, or not, once its outcome is in the registry. -/
private theorem packed_registered {bundler : RunBundler} {external : List String} {nextSeq : Nat}
    {docs : List Document}
    {packed : Except PlanError (List Document × Nat) × Table String String}
    (made : packExternalAssets docs bundler.startUid nextSeq external
      bundler.streamResourceDataKeys = packed)
    (held : Registered engine) (found : engine.state.bundler key = some bundler) :
    Registered (engine.withBundler key fun bundler =>
        { bundler with streamResourceDataKeys := packed.2 }) ∧
      ∀ drained, packed.1 = .ok drained → Pending key drained.1 (engine.withBundler key fun bundler =>
        { bundler with streamResourceDataKeys := packed.2 }) := by
  have now : ∀ other, (engine.withBundler key fun bundler =>
      { bundler with streamResourceDataKeys := packed.2 }).state.run other = _ :=
    fun other => run_withSlot engine other key _
  obtain ⟨own, open_, rfl⟩ := Option.map_eq_some_iff.mp found
  constructor
  · refine ⟨fun other slot held_ uid named => ?_, held.new⟩
    rw [now] at held_
    by_cases same : other = key
    · subst same
      rw [if_pos rfl] at held_
      obtain ⟨earlier, was, rfl⟩ := Option.map_eq_some_iff.mp held_
      have before := held.known other earlier was uid named
      rw [open_] at was
      cases was
      rw [← made]
      exact mem_packed before
    · rw [if_neg same] at held_
      exact held.known other slot held_ uid named
  · rintro ⟨stamped, width⟩ accepted
    obtain ⟨outcome, reached⟩ := packed
    obtain rfl : outcome = _ := accepted
    obtain ⟨order, rfl, rfl⟩ := inOrder_of_packed made
    constructor
    · intro slot held_
      rw [now, if_pos rfl] at held_
      obtain ⟨earlier, was, rfl⟩ := Option.map_eq_some_iff.mp held_
      exact named_of_inOrder order
    · let packing : Packing := ⟨own.bundler.streamResourceDataKeys, [], none⟩
      have fresh : InOrder external packing.registry packing.width docs := order
      exact unannounced_of_inOrder fresh (held.known key own open_)

private theorem packInto_registered (lost : PlanError) (stream : Option String) (nextSeq : Nat)
    (docs : List Document) :
    Triple Registered (packInto key lost stream nextSeq docs)
      (fun packed engine => Registered engine ∧ Pending key packed.1 engine)
      (fun _ => Registered) := by
  refine Triple.ask_bind fun found => ?_
  cases found with
  | none => exact Triple.fail _ fun _ held => held.1
  | some bundler =>
      dsimp only
      generalize (stream.bind bundler.bundle.externalDataKeys).getD [] = external
      generalize made : packExternalAssets docs bundler.startUid nextSeq external
        bundler.streamResourceDataKeys = packed
      have recorded : Triple
          (fun engine => Registered engine ∧ engine.state.bundler key = some bundler)
          (Action.modify fun engine => engine.withBundler key fun bundler =>
            { bundler with streamResourceDataKeys := packed.2 } : EngineAction Unit)
          (fun _ engine => Registered engine ∧
            ∀ drained, packed.1 = .ok drained → Pending key drained.1 engine)
          (fun _ => Registered) :=
        Triple.modify fun engine held => packed_registered made held.1 held.2
      refine Triple.bind recorded fun _ => ?_
      cases packed.1 with
      | error error => exact Triple.fail _ fun _ held => held.1
      | ok drained => exact Triple.pure _ fun _ held => ⟨held.1, held.2 drained rfl⟩

private theorem deliver_registered (env : Env) (stream : String) (doc : Document)
    (rest : List Document) :
    Triple (fun engine => Registered engine ∧ Pending key (doc :: rest) engine)
      (deliver env key stream doc)
      (fun _ engine => Registered engine ∧ Pending key rest engine) (fun _ => Registered) := by
  have recorded : Triple (fun engine => Registered engine ∧ Pending key (doc :: rest) engine)
      (record (.drained key stream doc))
      (fun _ engine => Registered engine ∧ Pending key rest engine) (fun _ => Registered) := by
    refine Triple.modify fun engine held => ?_
    obtain ⟨registered, pending⟩ := held
    have names : assetsIn key (.drained key stream doc :: engine.log) =
        (resourceOf doc).toList ++ assetsIn key engine.log := if_pos rfl
    refine ⟨⟨fun other slot open_ uid named => ?_, ?_, registered.new⟩, ?_, ?_⟩
    · by_cases same : key = other
      · subst same
        rw [RunEngine.record, names] at named
        rcases List.mem_append.mp named with own | before
        · exact pending.known slot open_ doc (List.mem_cons_self ..) uid
            (Option.mem_toList.mp own)
        · exact registered.known key slot open_ uid before
      · have apart : assetsIn other (.drained key stream doc :: engine.log) =
            assetsIn other engine.log := if_neg same
        rw [RunEngine.record, apart] at named
        exact registered.known other slot open_ uid named
    · cases doc with
      | streamResource resource => exact pending.fresh.1 resource rfl
      | _ => trivial
    · intro slot open_ other member
      exact pending.known slot open_ other (List.mem_cons_of_mem _ member)
    · rw [RunEngine.record, names]
      exact pending.fresh.2
  exact Triple.bind recorded fun _ => Triple.bind (pending_of_dry (await_dry env)) fun _ =>
    Triple.pure _ fun _ held => held

private theorem deliverAll_registered (env : Env) (stream : String) (docs : List Document) :
    Triple (fun engine => Registered engine ∧ Pending key docs engine)
      (Action.each (deliver env key stream) docs) (fun _ => Registered) (fun _ => Registered) := by
  have all := Triple.each (fun docs engine => Registered engine ∧ Pending key docs engine)
    (fun doc rest => deliver_registered env stream doc rest) docs
  exact all.weaken (fun _ held => held) (fun _ _ held => held.1) fun _ _ held => held

/-! ## Saving and collecting -/

/-- What drains, opens and closes nothing for the run `key` keeps the resources registered. -/
private theorem registered_of_plain {body : EngineAction α} {msg : Msg}
    (effects : Keeps (Effects (dryScope key) msg) body) (opens : ∀ metadata, msg ≠ .openRun metadata) :
    Triple Registered body (fun _ => Registered) (fun _ => Registered) :=
  registered_of_dry (dry_of_effects opens effects)

private theorem packSaved_registered (stream : String) (docs assets : List Document) :
    Triple Registered (packSaved key stream docs assets)
      (fun packed engine => Registered engine ∧ Pending key packed engine) (fun _ => Registered) := by
  unfold packSaved
  split
  · exact Triple.pure _ fun _ held => ⟨held, fun _ _ _ => nofun, trivial⟩
  · split
    · exact Triple.fail _ fun _ held => held
    · exact Triple.bind (packInto_registered _ _ _ _) fun packed => Triple.pure _ fun _ held => held

private theorem save_opens (metadata : RunMetadata) : Msg.save ≠ .openRun metadata := by
  intro same
  cases same

private theorem emitSaved_registered (env : Env) (stream : String) {docs : List Document}
    (bundled : Bundled docs) (assets : List Document) :
    Triple (fun engine => Registered engine ∧ Pending key assets engine)
      (emitSaved env key stream docs assets) (fun _ => Registered) (fun _ => Registered) := by
  have opens := save_opens
  have sends : (dryScope key).may .sends := by simp [dryScope]
  have announced : Keeps (Effects (dryScope key) .save)
      (Action.each (broadcast env) (docs.filter Document.isDescriptor)) := by
    rcases bundled with rfl | ⟨event, rfl⟩ | ⟨descriptor, event, rfl⟩
    · exact Keeps.pure _
    · exact Keeps.pure _
    · exact Keeps.bind (broadcast_effects env describes_save) fun _ => Keeps.pure _
  -- past its descriptor, a bundle holds nothing but its event
  have sent : ∀ send : Document → EngineAction Unit,
      (∀ event, Keeps (Effects (dryScope key) .save) (send (.event event))) →
        Keeps (Effects (dryScope key) .save)
          (Action.each send (docs.filter fun doc => !doc.isDescriptor)) := by
    intro send one
    rcases bundled with rfl | ⟨event, rfl⟩ | ⟨descriptor, event, rfl⟩
    · exact Keeps.pure _
    · exact Keeps.bind (one event) fun _ => Keeps.pure _
    · exact Keeps.bind (one event) fun _ => Keeps.pure _
  exact Triple.bind (pending_of_dry (dry_of_effects opens announced)) fun _ =>
    Triple.bind (deliverAll_registered env stream assets) fun _ =>
      registered_of_plain (sent _ (emit_effects rfl sends describes_save env stream)) opens

theorem handleSave_registered (env : Env) (key : RunKey) :
    Triple Registered (handleSave env key) (fun _ => Registered) (fun _ => Registered) := by
  have opens := save_opens
  have effects : Keeps (Effects (dryScope key) .save) (composeSave key) := composeSave_effects rfl
  have composed : Triple Registered (composeSave key)
      (fun saved engine => Registered engine ∧ Bundled saved.docs) (fun _ => Registered) := by
    intro engine held
    have moved := held.dry (dry_of_effects opens effects engine)
    rcases ran : composeSave key engine with ⟨outcome, reached⟩
    rw [ran] at moved
    cases outcome with
    | ok saved => exact ⟨moved, composeSave_bundled ran⟩
    | error failure => exact moved
  refine Triple.bind composed fun saved => ?_
  cases saved.stream with
  | none => exact Triple.pure _ fun _ held => held.1
  | some stream =>
      rintro engine ⟨held, bundled⟩
      have drained : ∀ descriptor, Keeps (Effects (dryScope key) .save)
          (drainAssets env saved.assetObjs descriptor) := drainAssets_effects env _
      have assets : Triple Registered (savedAssets env key stream saved)
          (fun assets engine => Registered engine ∧ Pending key assets engine)
          (fun _ => Registered) := by
        refine Triple.ask_bind fun descriptor => ?_
        refine Triple.bind ((registered_of_plain (drained descriptor) opens).weaken
          (fun _ held => held.1) (fun _ _ held => held) fun _ _ held => held) fun docs => ?_
        exact packSaved_registered stream saved.docs docs
      exact Triple.bind assets (fun docs => emitSaved_registered env stream bundled docs) engine held

private theorem collectAssets_registered (env : Env) (obj : Obj) (stream : String) (uid : Uid) :
    Triple Registered (collectAssets env key obj stream uid) (fun _ => Registered)
      (fun _ => Registered) := by
  refine Triple.bind (registered_of_dry (await_dry env)) fun tick =>
    Triple.bind (registered_of_dry (Keeps.lift _)) fun docs => ?_
  split
  · exact Triple.pure _ fun _ held => held
  · refine registered_ask fun found => ?_
    cases found with
    | none => exact Triple.fail _ fun _ held => held
    | some bundler =>
        dsimp only
        split
        · exact Triple.fail _ fun _ held => held
        · rename_i nextSeq _
          refine Triple.bind (packInto_registered _ _ nextSeq docs) fun packed => ?_
          split
          · have advanced : Keeps (Effects (dryScope key) .null) (Action.modify fun engine =>
                engine.countWith key (some stream) fun bundler => { bundler with
                  bundle := bundler.bundle.advanceSeq stream packed.2 } : EngineAction Unit) :=
              count_effects rfl fun bundler => .advance bundler stream packed.2
            have opens : ∀ metadata, Msg.null ≠ .openRun metadata := fun _ => nofun
            exact Triple.bind (pending_of_dry (dry_of_effects opens advanced)) fun _ =>
              deliverAll_registered env stream packed.1
          · exact deliverAll_registered env stream packed.1

theorem collectObject_registered (env : Env) (key : RunKey) (obj : Obj)
    (streamName : Option String) :
    Triple Registered (collectObject env key obj streamName) (fun _ => Registered)
      (fun _ => Registered) := by
  have opens : ∀ metadata, Msg.collect obj streamName ≠ .openRun metadata := by
    intro _ same
    cases same
  have describes : Describes (.collect obj streamName) := trivial
  have sends : (dryScope key).may .sends := by simp [dryScope]
  have collects : (dryScope key).may .collects := by simp [dryScope]
  have configures : (dryScope key).may .configures := by simp [dryScope]
  have plain : ∀ {α : Type} {body : EngineAction α},
      Keeps (Effects (dryScope key) (.collect obj streamName)) body →
        Triple Registered body (fun _ => Registered) (fun _ => Registered) :=
    fun effects => registered_of_plain effects opens
  refine Triple.bind (plain (record_effects ⟨rfl, collects⟩)) fun _ => registered_ask fun found => ?_
  cases found with
  | none => exact Triple.fail _ fun _ held => held
  | some bundler =>
      refine Triple.bind (plain (Keeps.lift _)) fun declared => ?_
      have stream : Keeps (Effects (dryScope key) (.collect obj streamName))
          (collectStream env key obj declared) := by
        cases declared with
        | none => exact declareCollected_effects rfl configures describes env obj
        | some stream => exact Keeps.pure _
      refine Triple.bind (plain stream) fun name => ?_
      have drained : Triple Registered (drainCollected env key obj name) (fun _ => Registered)
          (fun _ => Registered) := by
        refine registered_ask fun found => ?_
        cases found with
        | none => exact Triple.fail _ fun _ held => held
        | some bundler =>
            dsimp only
            split
            · exact collectAssets_registered env obj _ _
            · exact Triple.pure _ fun _ held => held
      refine Triple.bind drained fun _ => Triple.bind (plain (await_effects env)) fun tick =>
        Triple.bind (plain (Keeps.lift _)) fun events => ?_
      exact Triple.bind (plain (Keeps.each fun item _ =>
        collectEvent_effects rfl sends describes env declared item)) fun _ =>
          plain (slot_effects rfl fun slot => .flyers slot _ (.inr collects))

/-! ## Whole calls -/

private theorem handle_registered (env : Env) (msg : Msg) (held : Registered engine) :
    Registered (handle env msg engine).2 := by
  have plain : ¬ powers (route msg).2 .drains → Registered (handle env msg engine).2 :=
    fun drains => registered_of_effects drains (handle_effects env msg) held
  have unit : ∀ {body : EngineAction Unit}, Registered (body engine).2 →
      Registered ((do body; return none : EngineAction (Option Uid)) engine).2 := by
    intro body ended
    rw [bind_pure_snd]
    exact ended
  unfold handle at plain ⊢
  rcases routed : route msg with ⟨key, inner⟩
  rw [routed] at plain
  dsimp only at plain ⊢
  cases inner with
  | save => exact unit ((Triple.to_keeps (handleSave_registered env key)) engine held)
  | collect obj streamName =>
      exact unit ((Triple.to_keeps (collectObject_registered env key obj streamName)) engine held)
  | _ => exact plain (by simp [powers])

private theorem drainAndClose_registered (env : Env) (status : String) (reason : Option String) :
    Triple Registered (drainAndClose env status reason) (fun _ => Registered)
      (fun _ => Registered) := by
  have collected : Triple Registered (backstopCollect env) (fun _ => Registered)
      (fun _ => Registered) := by
    refine registered_ask fun pending => Triple.each (fun _ => Registered) (fun entry rest => ?_) pending
    exact Triple.bind (Triple.attempt (collectObject_registered env entry.1 entry.2 none)) fun _ =>
      Triple.pure _ fun _ held => held
  refine Triple.bind collected fun _ => registered_ask fun keys =>
    Triple.each (fun _ => Registered) (fun key rest => ?_) keys
  have drains : ¬ (Scope.of key (.closeRun "" none)).may .drains := nofun
  have closing : Keeps (Effects (.of key (.closeRun "" none)) (.closeRun "" none))
      (closeRunIfOpen env key status reason) :=
    closeRunIfOpen_effects rfl rfl env status "" reason none
  exact Triple.of_end fun engine held => registered_of_effects drains closing held

theorem registered_of_loopMove {going : Prop} (move : LoopMove going AnyDeed before after)
    (held : Registered before) : Registered after := by
  have drains : ¬ Scope.gate.may .drains := nofun
  have runs : ∀ {next : RunEngine}, next.state.runs = before.state.runs →
      Grows Entry.isDry before.log next.log → Registered next := by
    intro next same log
    refine held.dry ⟨fun key slot open_ => ⟨slot, ?_, rfl⟩, log⟩
    rw [EngineState.run, same] at open_
    exact open_
  cases move with
  | handled env msg taken => exact handle_registered env msg held
  | pauseEntered env interruption taken =>
      exact registered_of_effects drains (onPauseEnter_effects describes_save env interruption) held
  | restored env taken =>
      exact registered_of_effects drains (restoreMonitors_effects describes_save env) held
  | resumed env taken =>
      rw [onResume_eq]
      refine registered_of_effects drains (afterRearm_effects describes_save env) ?_
      refine held.dry ⟨fun key slot open_ => ?_, .cons rfl _⟩
      rcases run_armReplay before key with same | rolled
      · rw [same] at open_
        exact ⟨slot, open_, rfl⟩
      · rw [rolled] at open_
        obtain ⟨earlier, was, rfl⟩ := Option.map_eq_some_iff.mp open_
        refine ⟨earlier, was, ?_⟩
        unfold RunBundler.rewind
        split
        · rfl
        · rfl
  | closed env status reason taken =>
      exact (Triple.to_keeps (drainAndClose_registered env status reason)) before held
  | pump update =>
      have pumped : Effect .gate .save before (before.pump update) := .pump before update
      exact registered_of_effect drains pumped held
  | receive request => cases request <;> exact runs rfl (.cons rfl _)
  | mark entry plain =>
      have dry : entry.isDry = true := by
        cases entry <;> first | rfl | cases plain
      exact runs rfl (.cons dry _)
  | throw caught =>
      unfold RunEngine.throwIntoPlan at caught
      split at caught
      · cases caught
      · cases caught
        exact runs rfl (.cons rfl _)
  | answered | control | share => exact runs rfl (.refl _)
  | _ => exact runs rfl (.cons rfl _)

/-- In every call, whatever drains fail and are recovered from: a run sends out each resource once,
and before any datum of it; and every resource it has sent documents of is in its registry. -/
theorem resources_sent_once {plans : PlanStream σ} (idle : engine.Idle)
    (trace : run plans (Config.start engine plan) labels = some reached) :
    Always NewResource reached.engine.log ∧
      ∀ key, ∀ slot ∈ reached.engine.state.run key, ∀ uid ∈ assetsIn key reached.engine.log,
        uid ∈ slot.bundler.streamResourceDataKeys := by
  have held : Registered reached.engine := by
    refine Bsrs.Library.exec_invariant (fun config => Registered config.engine) ?_ trace ?_
    · intro before label after stepped held
      have moves : LoopMoves True AnyDeed before.engine after.engine :=
        step_moves stepped fun _ _ _ => trivial
      exact loopMoves_invariant Registered (fun _ _ => registered_of_loopMove) moves held
    · refine ⟨fun key slot open_ => ?_, trivial⟩
      simp [Config.start, RunEngine.begin, EngineState.run, idle.runs] at open_
  exact ⟨held.new, held.known⟩

end

/-- A detector that writes its frames to a file. -/
private def frameDetector : Obj :=
  { ptr := 0, name := "det", hintFields := none, configurable := false, collectable := false,
    writesExternalAssets := true }

/-- The detector reports its file and one frame in it, whenever it is asked. -/
private def framed : Env :=
  { Env.calm with
    describe := fun _ _ => .ok (AList.singleton "img" ⟨"array", some "STREAM:", some "det"⟩)
    collectAssetDocs := fun _ _ uid => .ok [.streamResource ⟨"file", "img", none⟩,
      .streamDatum ⟨"frame", "file", uid, ⟨0, 1⟩, ⟨0, 0⟩⟩] }

private def oneFrame : List PlanItem :=
  [.openRun ⟨none, ∅, none⟩, .create "primary", .read frameDetector, .save].map .bare

theorem resources_sent_once_oneFrame :
    ∃ reached ∈ run planItems (Config.start .new oneFrame) (loops framed 12),
      Always NewResource reached.engine.log ∧
        assetsIn none reached.engine.log = ["file", "file"] := by
  have ends : ((run planItems (Config.start .new oneFrame) (loops framed 12)).map fun reached =>
      assetsIn none reached.engine.log) = some ["file", "file"] := by decide +kernel
  obtain ⟨reached, trace, sent⟩ := Option.map_eq_some_iff.mp ends
  exact ⟨reached, trace, (resources_sent_once new_idle trace).1, sent⟩

end Bsrs.Engine
