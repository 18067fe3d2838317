import Bsrs.Engine.Declaring

namespace Bsrs.Engine

open Bsrs.Library (Table Action Grows Always)
open Bsrs.Library.Action
open Bsrs.EventModel
open Bsrs.Core

variable {goals : Goals} {key : RunKey}

/-! ## Collecting -/

/-- The streams still to be declared are new, and different. -/
private structure Missing (key : RunKey) (rest : List (String × Table String DataKey))
    (engine : RunEngine) : Prop where
  undeclared : ∀ entry ∈ rest, Undeclared key entry.1 engine
  distinct : (rest.map Prod.fst).Nodup

private theorem declareAll_catalogued (obj : Obj) (configuration : Configuration)
    (fresh : List (String × Table String DataKey)) :
    Triple
      (fun engine => Catalogued goals [] engine ∧ AtHome goals key engine ∧ Missing key fresh engine)
      (gather (fun entry => declareInto key .collectDescriptorLost entry.1
        [{ object := some obj.name
           dataKeys := entry.2
           hintFields := obj.hintFields
           configuration }]) fresh)
      (fun descriptors engine => Catalogued goals descriptors engine ∧ AtHome goals key engine)
      (fun _ => Catalogued goals []) := by
  have turn : ∀ (entry : String × Table String DataKey) (rest : List (String × Table String DataKey))
      (results : List EventDescriptor), Triple
        (fun engine => Catalogued goals results engine ∧ AtHome goals key engine ∧
          Missing key (entry :: rest) engine)
        (declareInto key .collectDescriptorLost entry.1
          [{ object := some obj.name
             dataKeys := entry.2
             hintFields := obj.hintFields
             configuration }])
        (fun descriptor engine => Catalogued goals (descriptor :: results) engine ∧
          AtHome goals key engine ∧ Missing key rest engine)
        (fun _ => Catalogued goals []) := by
    intro entry rest results
    rintro engine ⟨held, home, missing⟩
    obtain ⟨new, distinct⟩ := List.nodup_cons.mp missing.distinct
    have absent := missing.undeclared entry (List.mem_cons_self ..)
    have declared := declareInto_catalogued key .collectDescriptorLost entry.1
      [{ object := some obj.name
         dataKeys := entry.2
         hintFields := obj.hintFields
         configuration }] (rest.map Prod.fst) engine ⟨held, home, fun _ => absent.unsaid,
        fun name member => by
          obtain ⟨other, listed, rfl⟩ := List.mem_map.mp member
          exact missing.undeclared other (List.mem_cons_of_mem _ listed)⟩
    rcases ran : declareInto key .collectDescriptorLost entry.1
      [{ object := some obj.name
         dataKeys := entry.2
         hintFields := obj.hintFields
         configuration }] engine with ⟨outcome, reached⟩
    rw [ran] at declared
    cases outcome with
    | error failure => exact declared
    | ok descriptor =>
        obtain ⟨filed, home, others, -⟩ := declared
        refine ⟨filed, home, fun other listed => ?_, distinct⟩
        have member : other.1 ∈ rest.map Prod.fst := List.mem_map_of_mem listed
        exact others other.1 member fun same => new (same ▸ member)
  have all := Triple.gather (fun rest results engine => Catalogued goals results engine ∧
    AtHome goals key engine ∧ Missing key rest engine) turn fresh []
  refine all.weaken (fun _ held => held) (fun descriptors engine held => ⟨?_, held.2.1⟩)
    fun _ _ held => held
  refine held.1.fewer ?_
  rw [List.append_nil]
  exact (List.reverse_perm descriptors).symm.subperm

theorem declareCollected_files (env : Env) (obj : Obj) :
    Files goals key (declareCollected env key obj) := by
  refine Triple.bind (files_of_tame (tame_body (await_effects env))) fun tick =>
    Triple.bind (files_of_tame (tame_body (Keeps.lift _))) fun described =>
      Triple.bind (files_of_tame (tame_body
        (ensureObjectConfiguration_effects trivial trivial env obj))) fun configuration =>
          files_ask fun isOpen => ?_
  split
  · refine Triple.ask_bind fun fresh => ?_
    refine Triple.bind ((declareAll_catalogued obj configuration fresh).weaken ?_ (fun _ _ => id)
      fun _ _ => id) fun descriptors => ?_
    · rintro engine ⟨⟨held, home⟩, rfl⟩
      refine ⟨held, home, fun entry listed slot open_ => ?_, ?_⟩
      · have absent := (List.mem_filter.mp listed).2
        have found : engine.state.bundler key = some slot.bundler :=
          Option.map_eq_some_iff.mpr ⟨slot, open_, rfl⟩
        rw [found] at absent
        have uncached : slot.bundler.descriptorUid entry.1 = none :=
          Option.isNone_iff_eq_none.mp absent
        have synced := (held.slots key slot open_).synced entry.1
        rw [uncached] at synced
        exact Option.map_eq_none_iff.mp synced.symm
      · exact (List.filter_sublist.map Prod.fst).nodup described.nodup_pairs
    · refine Triple.bind ((announceAll_catalogued env (fun _ _ kept _ home => home.kept kept)
        descriptors).weaken (fun _ held => held) (fun _ _ held => ⟨held.1, held.2.1⟩)
          fun _ _ held => held) fun _ => Triple.pure _ fun _ held => held
  · exact files_of_tame (tame_body (reject_effects _))

private theorem drainCollected_tame (env : Env) (obj : Obj) (stream : Option String) :
    Keeps Tame (drainCollected env key obj stream) :=
  tame_body (drainCollected_effects trivial trivial env obj stream)

/-- What a collect does before it sends anything out: the stream of its Events, as far as one is
declared for the object, and the Events. -/
def gatherCollected (env : Env) (key : RunKey) (obj : Obj) (streamName : Option String) :
    EngineAction (Option String × List (String × Table String Value × Table String Value)) := do
  record (.collecting key obj)
  match ← ask fun engine => engine.state.bundler key with
  | none => reject .collectNoOpenRun
  | some bundler =>
      let declared ← lift ((resolveCollectStream bundler obj streamName).mapError .plan)
      let stream ← collectStream env key obj declared
      drainCollected env key obj stream
      let tick ← await env
      let events ← lift (env.collect tick obj)
      pure (declared, events)

theorem collectObject_eq (env : Env) (key : RunKey) (obj : Obj) (streamName : Option String) :
    collectObject env key obj streamName = (do
      let gathered ← gatherCollected env key obj streamName
      each (collectEvent env key gathered.1) gathered.2
      Action.modify fun engine => engine.withSlot key fun slot =>
        { slot with uncollected := slot.uncollected.erase obj.name }) := by
  unfold collectObject gatherCollected
  rw [bind_assoc]
  refine congrArg _ (funext fun _ => ?_)
  rw [bind_assoc]
  refine congrArg _ (funext fun found => ?_)
  cases found with
  | none => rfl
  | some bundler =>
      dsimp only
      rw [bind_assoc]
      refine congrArg _ (funext fun declared => ?_)
      rw [bind_assoc]
      refine congrArg _ (funext fun stream => ?_)
      rw [bind_assoc]
      refine congrArg _ (funext fun _ => ?_)
      rw [bind_assoc]
      refine congrArg _ (funext fun tick => ?_)
      rw [bind_assoc]
      rfl

theorem gatherCollected_files (env : Env) (obj : Obj) (streamName : Option String) :
    Files goals key (gatherCollected env key obj streamName) := by
  refine Triple.bind (files_of_tame (tame_body (record_effects ⟨trivial, trivial⟩))) fun _ =>
    files_ask fun found => ?_
  cases found with
  | none => exact files_of_tame (tame_body (reject_effects _))
  | some bundler =>
      refine Triple.bind (files_of_tame (tame_body (Keeps.lift _))) fun declared => ?_
      have stream : Files goals key (collectStream env key obj declared) := by
        cases declared with
        | none => exact declareCollected_files env obj
        | some stream => exact Triple.pure _ fun _ held => held
      exact Triple.bind stream fun name =>
        Triple.bind (files_of_tame (drainCollected_tame env obj name)) fun _ =>
          Triple.bind (files_of_tame (tame_body (await_effects env))) fun tick =>
            Triple.bind (files_of_tame (tame_body (Keeps.lift _))) fun events =>
              Triple.pure _ fun _ held => held

/-- The Events left of a collect fit the streams they go to. -/
private def Fitting (key : RunKey) (declared : Option String)
    (rest : List (String × Table String Value × Table String Value)) (engine : RunEngine) : Prop :=
  ∀ item ∈ rest, Suits key (declared.getD item.1) item.2.1 item.2.2 engine

private theorem collectEvent_catalogued (env : Env) (declared : Option String)
    (item : String × Table String Value × Table String Value)
    (rest : List (String × Table String Value × Table String Value)) :
    Triple
      (fun engine => Catalogued goals [] engine ∧ AtHome goals key engine ∧
        (goals.agree → Fitting key declared (item :: rest) engine))
      (collectEvent env key declared item)
      (fun _ engine => Catalogued goals [] engine ∧ AtHome goals key engine ∧
        (goals.agree → Fitting key declared rest engine))
      (fun _ => Catalogued goals []) := by
  have framed : ∀ before after, RunsKept before after →
      AtHome goals key before ∧ (goals.agree → Fitting key declared (item :: rest) before) →
      AtHome goals key after ∧ (goals.agree → Fitting key declared (item :: rest) after) :=
    fun before after kept both => ⟨both.1.kept kept, fun agree other member =>
      (both.2 agree other member).kept kept⟩
  refine Triple.bind (tame_triple (tame_body mint_effects) fun before after tame =>
    framed before after tame.kept) fun uid => Triple.ask_bind fun found => ?_
  cases found with
  | none => exact Triple.fail _ fun _ held => held.1.1
  | some bundler =>
      rintro engine ⟨⟨held, home, fitting⟩, found⟩
      obtain ⟨slot, open_, rfl⟩ := run_of_bundler found
      have counting : Keeps Tame (Action.modify fun engine =>
          engine.countWith key (some (declared.getD item.1)) fun bundler => { bundler with
            bundle := (bundler.bundle.event uid (declared.getD item.1) item.2.1 item.2.2).2 } :
          EngineAction Unit) :=
        tame_body (count_effects trivial fun bundler => .compose bundler uid _ _ _)
      have moved := counting engine
      dsimp only
      rw [modify_bind]
      dsimp only [modify_apply] at moved
      cases composed : (slot.bundler.bundle.event uid (declared.getD item.1) item.2.1 item.2.2).1 with
      | none => exact (moved.catalogued goals [] held)
      | some event =>
          have suited : goals.agree → Suited [] event engine := by
            intro agree descriptor known same
            obtain ⟨current, declares, names⟩ := RunBundle.event_descriptor composed
            have carried := RunBundle.event_content composed
            have cached : Known [] engine current := .inr (.inl ⟨key, slot, open_, _, declares⟩)
            obtain rfl := held.unique descriptor current known cached (same.trans names)
            rw [carried.1, carried.2]
            exact fitting agree item (List.mem_cons_self ..) slot open_ descriptor declares
          have emitted : Triple
              (fun engine => Catalogued goals [] engine ∧
                (AtHome goals key engine ∧ (goals.agree → Fitting key declared (item :: rest) engine)) ∧
                (goals.agree → Suited [] event engine))
              (emit env key (declared.getD item.1) .bundle event)
              (fun _ engine => Catalogued goals [] engine ∧ AtHome goals key engine ∧
                (goals.agree → Fitting key declared rest engine))
              (fun _ => Catalogued goals []) :=
            (emit_catalogued env key _ .bundle event fun before after kept _ =>
              framed before after kept).weaken (fun _ held => held)
              (fun _ _ held => ⟨held.1, held.2.1, fun agree other member =>
                held.2.2 agree other (List.mem_cons_of_mem _ member)⟩) fun _ _ held => held
          exact emitted _ ⟨moved.catalogued goals [] held,
            framed engine _ moved.kept ⟨home, fitting⟩, fun agree => (suited agree).kept moved⟩

/-- The Events a collect is about to send out fit the streams they go to. -/
def collectsFitting (env : Env) (key : RunKey) (obj : Obj) (streamName : Option String)
    (engine : RunEngine) : Bool :=
  match gatherCollected env key obj streamName engine with
  | (.error _, _) => true
  | (.ok (declared, events), reached) =>
      events.all fun item =>
        ((reached.state.bundler key).bind (·.bundle.described (declared.getD item.1))).all
          fun descriptor => Fits descriptor item.2.1 item.2.2

theorem collectObject_catalogued {env : Env} {obj : Obj} {streamName : Option String}
    {engine : RunEngine} (held : Catalogued goals [] engine) (home : AtHome goals key engine)
    (fits : goals.agree → collectsFitting env key obj streamName engine = true) :
    Catalogued goals [] (collectObject env key obj streamName engine).2 := by
  have ended := gatherCollected_files env obj streamName engine ⟨held, home⟩
  unfold collectsFitting at fits
  rw [collectObject_eq, bind_apply]
  rcases ran : gatherCollected env key obj streamName engine with ⟨outcome, reached⟩
  rw [ran] at ended fits
  cases outcome with
  | error failure => exact ended
  | ok gathered =>
      obtain ⟨filed, home⟩ := ended
      dsimp only at fits ⊢
      have fitting : goals.agree → Fitting key gathered.1 gathered.2 reached := by
        intro agree item member slot open_ descriptor current
        have found : reached.state.bundler key = some slot.bundler :=
          Option.map_eq_some_iff.mpr ⟨slot, open_, rfl⟩
        have all := List.all_eq_true.mp (fits agree) item member
        rw [found] at all
        exact of_decide_eq_true ((Option.all_eq_true ..).mp all descriptor current)
      have sent := Triple.each (fun rest engine => Catalogued goals [] engine ∧
        AtHome goals key engine ∧ (goals.agree → Fitting key gathered.1 rest engine))
        (collectEvent_catalogued env gathered.1) gathered.2
      have forgotten : Keeps Tame (Action.modify fun engine => engine.withSlot key fun slot =>
          { slot with uncollected := slot.uncollected.erase obj.name } : EngineAction Unit) :=
        tame_body (slot_effects trivial fun slot => .flyers slot _ (.inl trivial))
      have whole : Triple (fun engine => Catalogued goals [] engine ∧ AtHome goals key engine ∧
          (goals.agree → Fitting key gathered.1 gathered.2 engine))
          (do
            each (collectEvent env key gathered.1) gathered.2
            Action.modify fun engine => engine.withSlot key fun slot =>
              { slot with uncollected := slot.uncollected.erase obj.name } : EngineAction Unit)
          (fun _ => Catalogued goals []) (fun _ => Catalogued goals []) :=
        Triple.bind sent fun _ => .of_keeps forgotten
          (fun _ _ _ held tame => tame.catalogued goals [] held.1)
          fun _ _ _ held tame => tame.catalogued goals [] held.1
      exact (Triple.to_keeps whole) reached ⟨filed, home, fitting⟩

/-! ## Saving -/

/-- The bundler's Descriptors are as they were. -/
structure RunBundler.Undescribed (before after : RunBundler) : Prop where
  startUid : after.bundle.startUid = before.bundle.startUid
  described : ∀ stream, after.bundle.described stream = before.bundle.described stream
  descriptors : after.descriptors = before.descriptors

/-- The Event carries what the bundle read, and names `descriptor`. -/
structure OpenBundle.Gives (bundle : OpenBundle) (descriptor : EventDescriptor) (event : Event) :
    Prop where
  descriptor : event.descriptor = descriptor.uid
  data : event.data = bundle.readings.mapValues fun _ reading => reading.value
  timestamps : event.timestamps = bundle.readings.mapValues fun _ reading => reading.timestamp

/-- What saving a bundle comes to. -/
inductive SaveOutcome (bundler : RunBundler) (uid : Uid) :
    Except PlanError (List Document) → RunBundler → Prop
  | rejected {after} (error) (same : bundler.Undescribed after) :
      SaveOutcome bundler uid (.error error) after
  | empty {after} (same : bundler.Undescribed after) : SaveOutcome bundler uid (.ok []) after
  | again {after} (bundle event current) (opened : bundler.openBundle = some bundle)
      (read : bundle.objs.isEmpty = false)
      (declared : bundler.bundle.described bundle.streamName = some current)
      (gives : bundle.Gives current event) (same : bundler.Undescribed after) :
      SaveOutcome bundler uid (.ok [.event event]) after
  | first {after} (bundle event) (opened : bundler.openBundle = some bundle)
      (read : bundle.objs.isEmpty = false)
      (uncached : bundler.descriptorUid bundle.streamName = none)
      (gives : bundle.Gives (bundler.declareStream uid bundle.streamName bundle.objs).1 event)
      (same : (bundler.declareStream uid bundle.streamName bundle.objs).2.Undescribed after) :
      SaveOutcome bundler uid
        (.ok [.descriptor (bundler.declareStream uid bundle.streamName bundle.objs).1,
          .event event]) after

private theorem saveEvent_cases (bundler : RunBundler) (uid : Uid) (bundle : OpenBundle)
    (out : List Document) :
    bundler.Undescribed (bundler.saveEvent uid bundle out).2 ∧
      ((bundler.bundle.described bundle.streamName = none ∧
          (bundler.saveEvent uid bundle out).1 = .error .saveUnknownStream) ∨
        ∃ current event, bundler.bundle.described bundle.streamName = some current ∧
          bundle.Gives current event ∧
          (bundler.saveEvent uid bundle out).1 = .ok (out ++ [.event event])) := by
  unfold RunBundler.saveEvent
  rcases ran : bundler.bundle.event uid bundle.streamName
    (bundle.readings.mapValues fun _ reading => reading.value)
    (bundle.readings.mapValues fun _ reading => reading.timestamp) with ⟨event, advanced⟩
  have after : advanced = (bundler.bundle.event uid bundle.streamName
    (bundle.readings.mapValues fun _ reading => reading.value)
    (bundle.readings.mapValues fun _ reading => reading.timestamp)).2 := by rw [ran]
  cases event with
  | none =>
      refine ⟨⟨rfl, fun _ => rfl, rfl⟩, .inl ⟨?_, rfl⟩⟩
      cases declared : bundler.bundle.described bundle.streamName with
      | none => rfl
      | some current =>
          obtain ⟨stream, found, -⟩ := Option.map_eq_some_iff.mp declared
          simp [RunBundle.event, found] at ran
  | some event =>
      have composed : (bundler.bundle.event uid bundle.streamName
        (bundle.readings.mapValues fun _ reading => reading.value)
        (bundle.readings.mapValues fun _ reading => reading.timestamp)).1 = some event := by
        rw [ran]
      obtain ⟨current, declared, names⟩ := RunBundle.event_descriptor composed
      obtain ⟨data, timestamps⟩ := RunBundle.event_content composed
      subst after
      exact ⟨⟨by simp, by simp, rfl⟩, .inr ⟨current, event, declared, ⟨names, data, timestamps⟩, rfl⟩⟩

theorem save_outcome (bundler : RunBundler) (descriptorUid eventUid : Uid) :
    SaveOutcome bundler descriptorUid (bundler.save descriptorUid eventUid).1
      (bundler.save descriptorUid eventUid).2 := by
  unfold RunBundler.save
  cases opened : bundler.openBundle with
  | none => exact .rejected _ ⟨rfl, fun _ => rfl, rfl⟩
  | some bundle =>
      dsimp only
      cases read : bundle.objs.isEmpty with
      | true => exact .empty ⟨rfl, fun _ => rfl, rfl⟩
      | false =>
          rw [if_neg (by simp)]
          cases cached : { bundler with openBundle := none }.descriptorUid bundle.streamName with
          | some uid =>
              obtain ⟨same, outcome⟩ :=
                saveEvent_cases { bundler with openBundle := none } eventUid bundle []
              rcases outcome with ⟨-, failed⟩ | ⟨current, event, declared, gives, made⟩
              · dsimp only
                rw [failed]
                exact .rejected _ ⟨same.startUid, same.described, same.descriptors⟩
              · dsimp only
                rw [made]
                exact .again bundle event current opened read declared gives
                  ⟨same.startUid, same.described, same.descriptors⟩
          | none =>
              have current := declareStream_described bundler descriptorUid bundle.streamName
                bundle.streamName bundle.objs
              rw [if_pos rfl] at current
              dsimp only
              generalize prepares : { bundler with openBundle := none }.prepareStream descriptorUid
                bundle.streamName bundle.objs = prepared
              have composed : (bundler.declareStream descriptorUid bundle.streamName bundle.objs).1 =
                  prepared.1 := by
                rw [← prepares]
                rfl
              have into : (bundler.declareStream descriptorUid bundle.streamName
                  bundle.objs).2.Undescribed prepared.2 := by
                rw [← prepares]
                exact ⟨rfl, fun _ => rfl, rfl⟩
              obtain ⟨same, outcome⟩ :=
                saveEvent_cases prepared.2 eventUid bundle [.descriptor prepared.1]
              rw [composed, ← into.described] at current
              rcases outcome with ⟨none, -⟩ | ⟨held, event, declared, gives, made⟩
              · exact absurd (current.symm.trans none) nofun
              · obtain rfl : prepared.1 = held := Option.some.inj (current.symm.trans declared)
                have first := SaveOutcome.first bundle event opened read cached
                  (composed ▸ gives) ⟨same.startUid.trans into.startUid, fun stream =>
                    (same.described stream).trans (into.described stream),
                    same.descriptors.trans into.descriptors⟩
                rw [composed] at first
                rw [made]
                exact first

/-- The data keys saving the open bundle gives its Event are those its stream has or gets. -/
def savesFitting (bundler : RunBundler) : Bool :=
  match bundler.openBundle with
  | none => true
  | some bundle =>
      bundle.objs.isEmpty ||
        decide (bundle.readings.keys.Perm
          (match bundler.bundle.described bundle.streamName with
            | some descriptor => descriptor.dataKeys
            | none => (bundle.objs.foldl StreamShape.add .empty).dataKeys).keys)

/-- The documents of a saved bundle with the Descriptors still to be broadcast among them. -/
private inductive Sendable (goals : Goals) (engine : RunEngine) :
    List Document → List EventDescriptor → Prop
  | empty : Sendable goals engine [] []
  | event (event : Event) (suited : goals.agree → Suited [] event engine) :
      Sendable goals engine [.event event] []
  | first (descriptor : EventDescriptor) (event : Event)
      (suited : goals.agree → Suited [descriptor] event engine) :
      Sendable goals engine [.descriptor descriptor, .event event] [descriptor]

private theorem Sendable.kept {before after : RunEngine} {docs : List Document}
    {pending : List EventDescriptor} (sendable : Sendable goals before docs pending)
    (tame : Tame before after) : Sendable goals after docs pending := by
  cases sendable with
  | empty => exact .empty
  | event event suited => exact .event event fun agree => (suited agree).kept tame
  | first descriptor event suited =>
      exact .first descriptor event fun agree => (suited agree).kept tame

private theorem OpenBundle.Gives.fits {bundle : OpenBundle} {descriptor : EventDescriptor}
    {event : Event} (gives : bundle.Gives descriptor event) {given : EventDescriptor}
    (keys : bundle.readings.keys.Perm given.dataKeys.keys) :
    Fits given event.data event.timestamps := by
  unfold Fits
  rw [gives.data, gives.timestamps, Table.keys_mapValues, Table.keys_mapValues]
  exact ⟨keys, keys⟩

private theorem slotKept_of_undescribed {slot : RunSlot} {bundler : RunBundler}
    (same : slot.bundler.Undescribed bundler) : SlotKept slot { slot with bundler } :=
  ⟨same.startUid, same.described, same.descriptors, fun _ => id⟩

/-- Saving changes the open bundle and a counter, and may declare the bundle's stream. -/
private theorem countSaved_catalogued {engine : RunEngine} {slot : RunSlot}
    (held : Catalogued goals [] engine) (home : AtHome goals key engine)
    (open_ : engine.state.run key = some slot) {descriptorUid : Uid} (eventUid : Uid)
    (spare : Spare descriptorUid [] engine)
    (fits : goals.agree → savesFitting slot.bundler = true) :
    let counted := engine.countWith key slot.bundler.openStreamName fun bundler =>
      (bundler.save descriptorUid eventUid).2
    ∃ pending, Catalogued goals pending counted ∧ AtHome goals key counted ∧
      ∀ docs, (slot.bundler.save descriptorUid eventUid).1 = .ok docs →
        Sendable goals counted docs pending := by
  intro counted
  have only : ∀ other ∈ engine.state.run key, other = slot := fun other also =>
    Option.some.inj ((Option.mem_def.mp also).symm.trans open_)
  have found : engine.state.bundler key = some slot.bundler :=
    Option.map_eq_some_iff.mpr ⟨slot, open_, rfl⟩
  have outcome := save_outcome slot.bundler descriptorUid eventUid
  have settled : slot.bundler.Undescribed (slot.bundler.save descriptorUid eventUid).2 →
      Tame engine counted := by
    intro same
    obtain ⟨minted, log, recording⟩ := countWith_mute engine key slot.bundler.openStreamName
      fun bundler => (bundler.save descriptorUid eventUid).2
    refine .of_mute (countWith_kept engine key _ fun other also => ?_) minted recording log
    obtain rfl := only other also
    exact slotKept_of_undescribed same
  generalize made : (slot.bundler.save descriptorUid eventUid).1 = result at outcome ⊢
  generalize left : (slot.bundler.save descriptorUid eventUid).2 = after at outcome settled
  cases outcome with
  | rejected error same =>
      have tame := settled same
      exact ⟨[], tame.catalogued goals [] held, home.kept tame.kept, fun _ => nofun⟩
  | empty same =>
      have tame := settled same
      refine ⟨[], tame.catalogued goals [] held, home.kept tame.kept, fun docs saved => ?_⟩
      cases saved
      exact .empty
  | again bundle event current opened read declared gives same =>
      have tame := settled same
      refine ⟨[], tame.catalogued goals [] held, home.kept tame.kept, fun docs saved => ?_⟩
      cases saved
      refine .event event fun agree => Suited.kept (fun descriptor known uid => ?_) tame
      have cached : Known [] engine current := .inr (.inl ⟨key, slot, open_, _, declared⟩)
      obtain rfl := held.unique descriptor current known cached (uid.trans gives.descriptor)
      have keys := fits agree
      simp only [savesFitting, opened, read, declared, Bool.false_or, decide_eq_true_eq] at keys
      exact gives.fits keys
  | first bundle event opened read uncached gives same =>
      have synced := (held.slots key slot open_).synced bundle.streamName
      rw [uncached] at synced
      have absent := Option.map_eq_none_iff.mp synced.symm
      have declared := held.declare found home bundle.streamName bundle.objs spare fun _ _ => by
        rw [absent]
        exact nofun
      have tame : Tame (engine.withBundler key fun bundler =>
          (bundler.declareStream descriptorUid bundle.streamName bundle.objs).2) counted := by
        obtain ⟨minted, log, recording⟩ := countWith_mute engine key slot.bundler.openStreamName
          fun bundler => (bundler.save descriptorUid eventUid).2
        have opensNone : Grows Entry.opensNone engine.log counted.log := by
          unfold counted RunEngine.countWith
          split
          · exact .cons rfl _
          · exact .refl _
        refine .of_mute (.of_log (fun other now also => ?_) opensNone) minted recording log
        have states : counted.state = (engine.withBundler key fun bundler =>
            (bundler.save descriptorUid eventUid).2).state := by
          unfold counted RunEngine.countWith
          split <;> rfl
        rw [states] at also
        change now ∈ (engine.withSlot key _).state.run other at also
        change ∃ earlier ∈ (engine.withSlot key _).state.run other, SlotKept earlier now
        rw [run_withSlot] at also ⊢
        by_cases here : other = key
        · subst here
          rw [if_pos rfl, open_] at also ⊢
          cases also
          refine ⟨_, rfl, ?_⟩
          dsimp only
          rw [left]
          exact slotKept_of_undescribed same
        · rw [if_neg here] at also ⊢
          exact ⟨now, also, .refl now⟩
      have home : AtHome goals key (engine.withBundler key fun bundler =>
          (bundler.declareStream descriptorUid bundle.streamName bundle.objs).2) := by
        intro now also
        change now ∈ (engine.withSlot key _).state.run key at also
        rw [run_withSlot, if_pos rfl, open_] at also
        cases also
        dsimp only
        rw [declareStream_startUid]
        exact home slot open_
      refine ⟨_, tame.catalogued goals _ declared, home.kept tame.kept, fun docs saved => ?_⟩
      cases saved
      refine .first _ event fun agree => Suited.kept (fun descriptor known uid => ?_) tame
      obtain rfl := declared.unique descriptor _ known (.inl (List.mem_cons_self ..))
        (uid.trans gives.descriptor)
      have keys := fits agree
      simp only [savesFitting, opened, read, absent, Bool.false_or, decide_eq_true_eq] at keys
      refine gives.fits ?_
      rcases declareStream_cases slot.bundler descriptorUid bundle.streamName bundle.objs with
        had | ⟨-, -, -, -, given⟩
      · rw [absent] at had
        cases had
      · rw [given]
        exact keys

/-- What a saved bundle has in hand once it is composed. -/
private def Saving (goals : Goals) (key : RunKey) (docs : List Document) (engine : RunEngine) :
    Prop :=
  ∃ pending, Catalogued goals pending engine ∧ AtHome goals key engine ∧
    Sendable goals engine docs pending

private theorem Saving.kept {docs : List Document} {before after : RunEngine}
    (saving : Saving goals key docs before) (tame : Tame before after) :
    Saving goals key docs after := by
  obtain ⟨pending, held, home, sendable⟩ := saving
  exact ⟨pending, tame.catalogued goals pending held, home.kept tame.kept, sendable.kept tame⟩

private theorem Saving.forget {docs : List Document} {engine : RunEngine}
    (saving : Saving goals key docs engine) : Catalogued goals [] engine := by
  obtain ⟨pending, held, -⟩ := saving
  exact held.forget

private theorem saving_triple {body : EngineAction α} (tame : Keeps Tame body) (docs : List Document) :
    Triple (Saving goals key docs) body (fun _ => Saving goals key docs)
      (fun _ => Catalogued goals []) :=
  .of_keeps tame (fun _ _ _ saving moved => saving.kept moved)
    fun _ _ _ saving moved => (saving.kept moved).forget

private theorem composeSave_catalogued {engine : RunEngine} (held : Catalogued goals [] engine)
    (home : AtHome goals key engine)
    (fits : goals.agree → ∀ bundler ∈ engine.state.bundler key, savesFitting bundler = true) :
    match composeSave key engine with
    | (.ok saved, reached) => Saving goals key saved.docs reached
    | (.error _, reached) => Catalogued goals [] reached := by
  have minted : Tame engine { engine with nextUid := engine.nextUid + 1 + 1 } :=
    .of_mute (.of_same rfl (.refl _)) (Nat.le_add_right _ 2) rfl (.refl _)
  have filed := minted.catalogued goals [] held
  have home := home.kept minted.kept
  have spare : Spare engine.nextUid [] { engine with nextUid := engine.nextUid + 1 + 1 } := by
    refine ⟨Nat.lt_add_of_pos_right Nat.two_pos, fun descriptor known => ?_⟩
    exact (held.minted descriptor (known.of_kept minted.kept minted.log)).ne
  unfold composeSave mint
  rw [advance_bind, advance_bind, ask_bind]
  dsimp only
  cases open_ : engine.state.run key with
  | none => exact filed
  | some slot =>
      have found : engine.state.bundler key = some slot.bundler :=
        Option.map_eq_some_iff.mpr ⟨slot, open_, rfl⟩
      obtain ⟨pending, counted, home, sendable⟩ := countSaved_catalogued filed home open_
        (engine.nextUid + 1) spare fun agree => fits agree slot.bundler found
      dsimp only
      rw [modify_bind]
      cases made : (slot.bundler.save engine.nextUid (engine.nextUid + 1)).1 with
      | error error => exact counted.forget
      | ok docs =>
          have taken : Keeps Tame (Action.modify fun engine => engine.withSlot key fun slot =>
              { slot with bundleAssetObjs := [] } : EngineAction Unit) :=
            tame_body (slot_effects trivial fun slot => .assets slot [])
          have saving : Saving goals key docs _ := ⟨pending, counted, home, sendable docs made⟩
          exact saving.kept (taken _)

private theorem emitSaved_catalogued (env : Env) (stream : String) (docs assets : List Document) :
    Triple (Saving goals key docs) (emitSaved env key stream docs assets)
      (fun _ => Catalogued goals []) (fun _ => Catalogued goals []) := by
  rintro engine ⟨pending, held, home, sendable⟩
  have delivered : Keeps Tame (each (deliver env key stream) assets) :=
    tame_body (Keeps.each fun _ _ => deliver_effects trivial trivial env _ _)
  have framed : ∀ before after, RunsKept before after → before.log <:+ after.log →
      True → True := fun _ _ _ _ => id
  have sendEvent : ∀ event, Triple
      (fun engine => Catalogued goals [] engine ∧ (goals.agree → Suited [] event engine))
      (do
        each (deliver env key stream) assets
        emit env key stream .bundle event
        pure () : EngineAction Unit)
      (fun _ => Catalogued goals []) (fun _ => Catalogued goals []) := by
    intro event
    refine Triple.bind (tame_triple delivered fun _ _ tame suited agree =>
      (suited agree).kept tame) fun _ => ?_
    refine Triple.bind ((emit_catalogued env key stream .bundle event framed).weaken
      (fun _ held => ⟨held.1, trivial, held.2⟩) (fun _ _ held => held.1) fun _ _ held => held)
      fun _ => Triple.pure _ fun _ held => held
  cases sendable with
  | empty =>
      have nothing : Triple (Catalogued goals []) (emitSaved env key stream [] assets)
          (fun _ => Catalogued goals []) (fun _ => Catalogued goals []) :=
        Triple.bind (Triple.pure _ fun _ held => held) fun _ =>
          Triple.bind (.of_keeps delivered (fun _ _ _ held tame => tame.catalogued goals [] held)
            fun _ _ _ held tame => tame.catalogued goals [] held) fun _ =>
              Triple.pure _ fun _ held => held
      exact nothing engine held
  | event event suited => exact sendEvent event engine ⟨held, suited⟩
  | first descriptor event suited =>
      have announced : Triple
          (fun engine => Catalogued goals [descriptor] engine ∧
            (goals.agree → Suited [descriptor] event engine))
          (broadcast env (.descriptor descriptor))
          (fun _ engine => Catalogued goals [] engine ∧ (goals.agree → Suited [] event engine))
          (fun _ => Catalogued goals []) := by
        have recorded : Triple
            (fun engine => Catalogued goals [descriptor] engine ∧
              (goals.agree → Suited [descriptor] event engine))
            (record (.broadcast (.descriptor descriptor)))
            (fun _ engine => Catalogued goals [] engine ∧ (goals.agree → Suited [] event engine))
            (fun _ => Catalogued goals []) := by
          refine Triple.modify fun engine both => ⟨both.1.announce, fun agree other known => ?_⟩
          refine both.2 agree other ?_
          rcases known with waiting | cached | heard
          · cases waiting
          · exact .inr (.inl cached)
          · rcases List.mem_cons.mp heard with same | heard
            · cases same
              exact .inl (List.mem_cons_self ..)
            · exact .inr (.inr heard)
        exact Triple.bind recorded fun _ => Triple.bind (tame_triple (tame_body (await_effects env))
          fun _ _ tame suited agree => (suited agree).kept tame) fun _ =>
            Triple.pure _ fun _ held => held
      have whole : Triple
          (fun engine => Catalogued goals [descriptor] engine ∧
            (goals.agree → Suited [descriptor] event engine))
          (emitSaved env key stream [.descriptor descriptor, .event event] assets)
          (fun _ => Catalogued goals []) (fun _ => Catalogued goals []) :=
        Triple.bind (Triple.bind announced fun _ => Triple.pure _ fun _ held => held) fun _ =>
          sendEvent event
      exact whole engine ⟨held, suited⟩

theorem handleSave_catalogued {env : Env} {engine : RunEngine} (held : Catalogued goals [] engine)
    (home : AtHome goals key engine)
    (fits : goals.agree → ∀ bundler ∈ engine.state.bundler key, savesFitting bundler = true) :
    Catalogued goals [] (handleSave env key engine).2 := by
  have composing := composeSave_catalogued held home fits
  unfold handleSave
  rw [bind_apply]
  rcases ran : composeSave key engine with ⟨outcome, reached⟩
  rw [ran] at composing
  cases outcome with
  | error error => exact composing
  | ok saved =>
      dsimp only at composing ⊢
      cases saved.stream with
      | none => exact composing.forget
      | some stream =>
          have sent : Triple (Saving goals key saved.docs)
              (do
                let assets ← savedAssets env key stream saved
                emitSaved env key stream saved.docs assets : EngineAction Unit)
              (fun _ => Catalogued goals []) (fun _ => Catalogued goals []) :=
            Triple.bind (saving_triple (tame_body
              (savedAssets_effects trivial trivial env stream saved)) saved.docs) fun assets =>
                emitSaved_catalogued env stream saved.docs assets
          exact (Triple.to_keeps sent) reached composing

end Bsrs.Engine
