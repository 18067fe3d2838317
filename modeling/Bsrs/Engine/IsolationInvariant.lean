import Bsrs.Engine.Belonging

namespace Bsrs.Engine

open Bsrs.Library (Table Action Grows Throughout)
open Bsrs.Library.Action
open Bsrs.EventModel
open Bsrs.Core

/-- `start` is the run a message routed to `key` is for: the one open there, or, for an `OpenRun`,
the one it opens. -/
def Owns (key : RunKey) (msg : Msg) (before after : RunEngine) (start : Uid) : Prop :=
  (∃ slot ∈ before.state.run key, slot.bundler.startUid = start) ∨
    (∃ metadata, msg = .openRun metadata) ∧ startOf key after.log = some start

/-- The document carries the uid of the run `start` or of one of its Descriptors. -/
def Carries (start : Uid) (named : Uid → Prop) : Document → Prop
  | .start doc => doc.uid = start
  | .descriptor doc => doc.runStart = start
  | .stop doc => doc.runStart = start
  | .event doc => named doc.descriptor
  | .eventPage doc => named doc.descriptor
  | .streamResource doc => doc.runStart = some start
  | .streamDatum doc => named doc.descriptor
  | .resource _ | .datum _ | .datumPage _ => True

/-- The entry sends out nothing but what belongs to the run the message is for, what other runs'
pumps composed, and what the plan itself supplied. -/
def OfRun (env : Env) (key : RunKey) (msg : Msg) (before after : RunEngine) : Entry → Prop
  | .broadcast doc => ∃ start, Owns key msg before after start ∧
      Carries start (fun uid => Named key uid after) doc
  | .emitted other _ source event => source = .pump ∨ other = key ∧ Named key event.descriptor after
  | .drained other _ doc => other = key ∧
      ∃ start, Owns key msg before after start ∧ ∃ given, env.Supplies given ∧ FilledIn start given doc
  | .published doc => msg = .publish doc
  | _ => True

/-- As `OfRun`, with the Descriptors left out. -/
private def NearlyOfRun (env : Env) (key : RunKey) (msg : Msg) (before after : RunEngine) :
    Entry → Prop
  | .broadcast (.descriptor _) => True
  | entry => OfRun env key msg before after entry

section

variable {env : Env} {key : RunKey} {msg : Msg} {start : Uid} {before after : RunEngine}

private theorem nearly_of_aside {entry : Entry} (aside : entry.isAside msg = true) :
    NearlyOfRun env key msg before after entry := by
  cases entry with
  | broadcast doc =>
      cases doc with
      | descriptor doc => trivial
      | _ => cases aside
  | emitted other stream source event => exact .inl (of_decide_eq_true aside)
  | drained other stream doc => cases aside
  | published doc =>
      have supplied : msg = .publish doc := of_decide_eq_true aside
      exact supplied
  | _ => trivial

private theorem nearly_of_belongs {entry : Entry} (owns : Owns key msg before after start)
    (belongs : Belongs env msg key start after entry) :
    NearlyOfRun env key msg before after entry := by
  cases entry with
  | emitted other stream source event => exact belongs
  | drained other stream doc => exact ⟨belongs.1, start, owns, belongs.2⟩
  | _ => exact nearly_of_aside belongs

/-- What the message leaves belongs to its run, but for Descriptors. -/
private def NearlyOwn (env : Env) (key : RunKey) (msg : Msg) (before after : RunEngine) : Prop :=
  ∃ added, after.log = added ++ before.log ∧
    ∀ entry ∈ added, NearlyOfRun env key msg before after entry

private theorem nearlyOwn_of_grows (grown : Grows (Entry.isAside msg) before.log after.log) :
    NearlyOwn env key msg before after := by
  obtain ⟨added, whole, aside⟩ := grown
  exact ⟨added, whole, fun entry member => nearly_of_aside (aside entry member)⟩

/-! ## Opening and closing -/

private theorem await_starts (env : Env) (engine : RunEngine) (key : RunKey) :
    startOf key (await env engine).2.log = startOf key engine.log :=
  (plain_body (await_effects env) engine).kept.starts key

private theorem await_aside (env : Env) (msg : Msg) (engine : RunEngine) :
    Grows (Entry.isAside msg) engine.log (await env engine).2.log := by
  have onward : Keeps (Onward msg none) (await env) := await_onward env
  exact (onward engine).log

/-- Installing a run opens it. -/
private theorem installRun_opens (env : Env) (msg : Msg) (key : RunKey) (start : RunStart)
    (engine : RunEngine) :
    startOf key (installRun env key start engine).2.log = some start.uid ∧
      Grows (Entry.isAside msg) engine.log (installRun env key start engine).2.log := by
  unfold installRun mint
  rw [advance_bind, ask_bind]
  dsimp only
  split
  · rw [modify_bind]
    generalize (RunBundler.new (RunBundle.open start)).declareStream engine.nextUid
      "interruptions" [.objectless interruptionKeys] = declared
    let opened : RunEngine := ((RunEngine.withState { engine with nextUid := engine.nextUid + 1 }
      fun state => { state with runs := state.runs.insert key (.new declared.2) }).record
        (.opened key start.uid)).record (.broadcast (.descriptor declared.1))
    have starts : startOf key opened.log = some start.uid := if_pos rfl
    have log : Grows (Entry.isAside msg) engine.log opened.log :=
      (Grows.cons rfl engine.log).trans (.cons rfl _)
    exact ⟨(await_starts env opened key).trans starts, log.trans (await_aside env msg opened)⟩
  · exact ⟨if_pos rfl, .cons rfl _⟩

/-- Opening a run leaves no trace, or a run of the next uid whose RunStart it has broadcast. -/
private theorem openRun_nearlyOwn (env : Env) (key : RunKey) (metadata : RunMetadata)
    (engine : RunEngine) :
    (openRun env key metadata engine).2.log = engine.log ∨
      startOf key (openRun env key metadata engine).2.log = some engine.nextUid ∧
        NearlyOwn env key (.openRun metadata) engine (openRun env key metadata engine).2 := by
  have opening := openRun_opening env key metadata engine
  generalize (openRun env key metadata engine).2 = reached at opening ⊢
  generalize (openRun env key metadata engine).1 = outcome at opening
  cases opening with
  | refused failure after log state minted => exact .inl log
  | opened sent start closed log state minted uid =>
      let begun : RunEngine := sent.record (.broadcast (.start start))
      have waited : Grows (Entry.isAside (.openRun metadata)) begun.log (await env begun).2.log :=
        await_aside env (.openRun metadata) begun
      obtain ⟨starts, installed⟩ :=
        installRun_opens env (.openRun metadata) key start (await env begun).2
      rw [uid] at starts
      obtain ⟨added, whole, aside⟩ := waited.trans installed
      refine .inr ⟨starts, added ++ [.broadcast (.start start)], ?_, fun entry member => ?_⟩
      · rw [whole, List.append_assoc]
        exact congrArg (fun log => added ++ .broadcast (.start start) :: log) log
      · rcases List.mem_append.mp member with past | last
        · exact nearly_of_aside (aside entry past)
        · rw [List.mem_singleton.mp last]
          exact ⟨engine.nextUid, .inr ⟨⟨metadata, rfl⟩, starts⟩, uid⟩

/-- Closing a run broadcasts its RunStop, if anything. -/
private theorem closeRunIfOpen_nearlyOwn (signed : ∀ slot ∈ before.state.run key,
      slot.bundler.startUid = slot.bundler.bundle.startUid)
    (status : String) (reason : Option String) :
    NearlyOwn env key msg before (closeRunIfOpen env key status reason before).2 := by
  have closing := closeRunIfOpen_closing env key status reason before
  generalize (closeRunIfOpen env key status reason before).2 = reached at closing ⊢
  generalize (closeRunIfOpen env key status reason before).1 = outcome at closing
  cases closing with
  | absent closed => exact nearlyOwn_of_grows (.refl _)
  | lost slot open_ illegal => exact nearlyOwn_of_grows (.refl _)
  | stopped slot exit cause stop open_ legal stops =>
      have names := RunBundle.stop_runStart stops
      let sent : RunEngine := RunEngine.record ((RunEngine.dropRun
        { before with nextUid := before.nextUid + 1 } key).record (.closed key stop))
        (.broadcast (.stop stop))
      have waited : Grows (Entry.isAside msg) sent.log (await env sent).2.log :=
        await_aside env msg sent
      obtain ⟨added, whole, aside⟩ := waited
      refine ⟨added ++ [.broadcast (.stop stop), .closed key stop], ?_, fun entry member => ?_⟩
      · change (await env sent).2.log = _
        rw [whole, List.append_assoc]
        rfl
      · rcases List.mem_append.mp member with past | last
        · exact nearly_of_aside (aside entry past)
        · rcases List.mem_pair.mp last with rfl | rfl
          · exact ⟨_, .inl ⟨slot, open_, signed slot open_⟩, names⟩
          · trivial

/-! ## Every message -/

/-- The bundler of a run knows the uid of its RunStart. -/
def RunSlot.Signed (slot : RunSlot) : Prop :=
  slot.bundler.startUid = slot.bundler.bundle.startUid

private theorem installReconfigured_startUid (bundler : RunBundler)
    (descriptors : List EventDescriptor) :
    (bundler.installReconfigured descriptors).startUid = bundler.startUid ∧
      (bundler.installReconfigured descriptors).bundle.startUid = bundler.bundle.startUid := by
  induction descriptors generalizing bundler with
  | nil => exact ⟨rfl, rfl⟩
  | cons descriptor rest ih =>
      unfold RunBundler.installReconfigured
      split
      · exact ih bundler
      · exact ih _

private theorem save_bundle_startUid (bundler : RunBundler) (descriptorUid eventUid : Uid) :
    (bundler.save descriptorUid eventUid).2.bundle.startUid = bundler.bundle.startUid := by
  have outcome := save_outcome bundler descriptorUid eventUid
  generalize (bundler.save descriptorUid eventUid).2 = left at outcome ⊢
  generalize (bundler.save descriptorUid eventUid).1 = result at outcome
  cases outcome with
  | rejected error same => exact same.startUid
  | empty same => exact same.startUid
  | again bundle event current opened read declared gives same => exact same.startUid
  | first bundle event opened read uncached gives same =>
      exact same.startUid.trans (declareStream_startUid bundler descriptorUid _ _)

/-- Whatever becomes of an open run, it stays the same run. -/
theorem startUids_of_slotMove {scope : Scope} {slot next : RunSlot}
    (move : SlotMove scope msg key slot next) :
    next.bundler.startUid = slot.bundler.startUid ∧
      next.bundler.bundle.startUid = slot.bundler.bundle.startUid := by
  cases move with
  | changed own effect =>
      cases effect with
      | declare uid stream objs describes =>
          exact ⟨rfl, declareStream_startUid slot.bundler uid stream objs⟩
      | install descriptors configures => exact installReconfigured_startUid slot.bundler descriptors
      | _ => exact ⟨rfl, rfl⟩
  | counted stream bundler own counting =>
      cases counting with
      | compose uid stream data timestamps => exact ⟨rfl, RunBundle.startUid_event _ _ _ _ _⟩
      | advance stream count => exact ⟨rfl, rfl⟩
      | save descriptorUid eventUid saves =>
          exact ⟨save_startUid slot.bundler _ _, save_bundle_startUid slot.bundler _ _⟩
  | pumped uid task value timestamp pumping =>
      exact ⟨rfl, RunBundle.startUid_event _ _ _ _ _⟩
  | interrupted uid content own => exact ⟨rfl, RunBundle.startUid_event _ _ _ _ _⟩
  | _ => exact ⟨rfl, rfl⟩

private theorem signed_of_slotMove {scope : Scope} {slot next : RunSlot}
    (move : SlotMove scope msg key slot next) (signed : slot.Signed) : next.Signed := by
  obtain ⟨same, bundled⟩ := startUids_of_slotMove move
  exact same.trans (signed.trans bundled.symm)

theorem run_signed {plans : PlanStream σ} (idle : engine.Idle)
    (trace : run plans (Config.start engine plan) labels = some reached) :
    ∀ key, ∀ slot ∈ reached.engine.state.run key, slot.Signed := by
  refine run_slots_invariant (fun _ slot => slot.Signed) ?_ ?_ ?_ idle trace
  · exact fun _ bundler fresh => fresh.startUid
  · exact fun _ slot next move signed => signed_of_slotMove move signed
  · intro key slot signed
    show slot.bundler.rewind.startUid = slot.bundler.rewind.bundle.startUid
    unfold RunBundler.rewind
    split
    · exact signed
    · exact signed

/-- Messages whose handlers have no documents of their own, but for Descriptors. -/
private theorem modest_of_powers (opens : ¬ powers msg .opens) (closes : ¬ powers msg .closes)
    (drains : ¬ powers msg .drains) (sends : ¬ powers msg .sends) :
    Modest (Scope.of key msg) msg key :=
  ⟨fun _ own => own, opens, closes, drains, sends⟩

private theorem nearlyOwn_of_within {body : EngineAction Unit}
    (silent : before.state.run key = none → NearlyOwn env key msg before (body before).2)
    (within : ∀ start, Triple (Within env msg key start before.log) body
      (fun _ => Within env msg key start before.log)
      (fun _ => Within env msg key start before.log)) :
    NearlyOwn env key msg before (body before).2 := by
  cases found : before.state.run key with
  | none => exact silent found
  | some slot =>
      have initial : Within env msg key slot.bundler.startUid before.log before := by
        refine ⟨fun other held => ?_, [], rfl, fun _ => nofun⟩
        obtain rfl : slot = other := Option.some.inj (found.symm.trans held)
        rfl
      have reached := (Triple.to_keeps (within slot.bundler.startUid)) before initial
      obtain ⟨added, whole, belongs⟩ := reached.trail
      have owns : Owns key msg before (body before).2 slot.bundler.startUid :=
        .inl ⟨slot, found, rfl⟩
      exact ⟨added, whole, fun entry member => nearly_of_belongs owns (belongs entry member)⟩

/-- With no run to save into, nothing is left but the uids. -/
theorem handleSave_closed (gone : before.state.run key = none) :
    (handleSave env key before).2 = { before with nextUid := before.nextUid + 1 + 1 } := by
  unfold handleSave composeSave mint
  simp [bind_apply, gone, reject]

/-- With no run to collect into, nothing is collected. -/
theorem collectObject_closed {obj : Obj} {streamName : Option String}
    (gone : before.state.run key = none) :
    (collectObject env key obj streamName before).2 = before.record (.collecting key obj) := by
  have missing : (before.record (.collecting key obj)).state.bundler key = none := by
    simp [EngineState.bundler, run_record, gone]
  unfold collectObject record
  rw [modify_bind, ask_bind, missing]
  rfl

private theorem handleRouted_nearlyOwn (signed : ∀ slot ∈ before.state.run key, slot.Signed)
    (msg : Msg) : NearlyOwn env key msg before (handleRouted env key msg before).2 := by
  have unit : ∀ {body : EngineAction Unit}, NearlyOwn env key msg before (body before).2 →
      NearlyOwn env key msg before
        ((do body; return none : EngineAction (Option Uid)) before).2 := by
    intro body ended
    rw [bind_pure_snd]
    exact ended
  have plain : ¬ powers msg .opens → ¬ powers msg .closes → ¬ powers msg .drains →
      ¬ powers msg .sends → NearlyOwn env key msg before (handleRouted env key msg before).2 :=
    fun opens closes drains sends => nearlyOwn_of_grows <|
      aside_of_effects (modest_of_powers opens closes drains sends)
        (handleRouted_effects env key msg before)
  cases msg with
  | openRun metadata =>
      have opening := openRun_nearlyOwn env key metadata before
      rcases opened : openRun env key metadata before with ⟨outcome, reached⟩
      rw [opened] at opening
      have ran : NearlyOwn env key (.openRun metadata) before reached := by
        rcases opening with same | ⟨-, own⟩
        · exact ⟨[], same, fun _ => nofun⟩
        · exact own
      unfold handleRouted
      dsimp only
      rw [bind_apply, opened]
      cases outcome with
      | ok uid => exact ran
      | error failure => exact ran
  | closeRun status reason =>
      refine unit ?_
      unfold handleCloseRun
      rw [ask_bind]
      split
      · have closing : NearlyOwn env key (.closeRun status reason) before
            (closeRunIfOpen env key status reason before).2 :=
          closeRunIfOpen_nearlyOwn signed status reason
        rcases closed : closeRunIfOpen env key status reason before with ⟨outcome, reached⟩
        rw [closed] at closing
        rw [bind_apply, closed]
        cases outcome with
        | ok done => exact closing
        | error failure => exact closing
      · exact nearlyOwn_of_grows (.refl _)
  | save =>
      refine unit (nearlyOwn_of_within (fun gone => nearlyOwn_of_grows ?_)
        fun start => handleSave_within env key start before.log)
      rw [handleSave_closed gone]
      exact .refl _
  | collect obj streamName =>
      refine unit (nearlyOwn_of_within (fun gone => nearlyOwn_of_grows ?_)
        fun start => collectObject_within env key start before.log obj streamName)
      rw [collectObject_closed gone]
      exact .cons rfl _
  | _ => exact plain (by simp [powers]) (by simp [powers]) (by simp [powers]) (by simp [powers])

/-- An `OpenRun` leaves no trace, or opens a run of the next uid. -/
private theorem handle_opens (env : Env) (msg : Msg) (before : RunEngine) {metadata : RunMetadata}
    (opens : (route msg).2 = .openRun metadata) :
    (handle env msg before).2.log = before.log ∨
      startOf (route msg).1 (handle env msg before).2.log = some before.nextUid := by
  have opening := openRun_nearlyOwn env (route msg).1 metadata before
  unfold handle
  rw [opens]
  rcases opened : openRun env (route msg).1 metadata before with ⟨outcome, reached⟩
  rw [opened] at opening
  have ran : reached.log = before.log ∨ startOf (route msg).1 reached.log = some before.nextUid :=
    opening.imp_right And.left
  unfold handleRouted
  dsimp only
  rw [bind_apply, opened]
  cases outcome with
  | ok uid => exact ran
  | error failure => exact ran

/-- The Descriptors a message broadcasts name its run. -/
private theorem handle_names (env : Env) (msg : Msg) (signed : ∀ slot ∈ before.state.run (route msg).1,
      slot.Signed)
    (filed : Catalogued ⟨False, False, [], fun _ => True⟩ [] before) :
    ∃ added, (handle env msg before).2.log = added ++ before.log ∧
      ∀ descriptor, Entry.broadcast (.descriptor descriptor) ∈ added →
        (∃ slot ∈ before.state.run (route msg).1,
          slot.bundler.startUid = descriptor.runStart) ∨
        (∃ metadata, (route msg).2 = .openRun metadata) ∧
          descriptor.runStart = before.nextUid := by
  let goals : Goals := ⟨False, False, before.log, fun start =>
    (∃ slot ∈ before.state.run (route msg).1, slot.bundler.startUid = start) ∨
      (∃ metadata, (route msg).2 = .openRun metadata) ∧ start = before.nextUid⟩
  have rebased : Catalogued goals [] before := filed.rebase goals.home
  have home : AtHome goals (route msg).1 before := fun slot held => .inl ⟨slot, held, signed slot held⟩
  have handled : Catalogued goals [] (handle env msg before).2 := handle_catalogued rebased home
    (fun metadata opens => .inr ⟨⟨metadata, opens⟩, rfl⟩) False.elim False.elim
  exact handled.trail

end

/-- The default run and a named one, open. -/
private def twoRuns : List PlanItem :=
  [.bare (.openRun ⟨none, ∅, none⟩), .bare (.inRun "b" (.openRun ⟨none, ∅, none⟩))]

end Bsrs.Engine
