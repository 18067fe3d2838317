import Bsrs.Engine.Sending

namespace Bsrs.Engine

open Bsrs.Library (Table Action Grows Always Throughout)
open Bsrs.Library.Action
open Bsrs.EventModel
open Bsrs.Core

variable {goals : Goals} {key : RunKey}

/-! ## Opening a run -/

/-- A run opens with what is in its caches known already. -/
theorem Catalogued.opened {pending : List EventDescriptor} {engine : RunEngine}
    (held : Catalogued goals pending engine) (key : RunKey) {bundler : RunBundler} {start : Uid}
    (filed : SlotFiled (.new bundler)) (own : bundler.bundle.startUid = start)
    (known : ∀ stream, ∀ descriptor ∈ bundler.bundle.described stream,
      Known pending engine descriptor) :
    Catalogued goals pending ((engine.withState fun state =>
      { state with runs := state.runs.insert key (.new bundler) }).record (.opened key start)) := by
  have among : ∀ other, ∀ slot ∈ (engine.state.runs.insert key (.new bundler)).lookup other,
      other = key ∧ slot = .new bundler ∨ other ≠ key ∧ slot ∈ engine.state.run other := by
    intro other slot found
    by_cases same : other = key
    · subst same
      rw [AList.lookup_insert] at found
      exact .inl ⟨rfl, (Option.some.inj found).symm⟩
    · rw [AList.lookup_insert_ne same] at found
      exact .inr ⟨same, found⟩
  have already : ∀ descriptor, Known pending ((engine.withState fun state =>
      { state with runs := state.runs.insert key (.new bundler) }).record (.opened key start))
      descriptor → Known pending engine descriptor := by
    rintro descriptor (waiting | ⟨other, slot, found, stream, current⟩ | heard)
    · exact .inl waiting
    · rcases among other slot found with ⟨rfl, rfl⟩ | ⟨-, was⟩
      · exact known stream descriptor current
      · exact .inr (.inl ⟨other, slot, was, stream, current⟩)
    · rcases List.mem_cons.mp heard with marked | heard
      · cases marked
      · exact .inr (.inr heard)
  constructor
  · intro other slot found
    rcases among other slot found with ⟨rfl, rfl⟩ | ⟨-, was⟩
    · exact filed
    · exact held.slots other slot was
  · intro other slot found
    rcases among other slot found with ⟨rfl, rfl⟩ | ⟨different, was⟩
    · exact (if_pos rfl).trans (congrArg some own.symm)
    · exact (if_neg (Ne.symm different)).trans (held.starts other slot was)
  · exact fun descriptor also => held.minted descriptor (already descriptor also)
  · exact fun one other first second =>
      held.unique one other (already one first) (already other second)
  · exact held.homed
  · obtain ⟨added, whole, home⟩ := held.trail
    refine ⟨.opened key start :: added, congrArg (List.cons _) whole, fun descriptor member => ?_⟩
    rcases List.mem_cons.mp member with marked | member
    · cases marked
    · exact home descriptor member
  · intro once
    obtain ⟨unheard, always⟩ := held.first once
    exact ⟨unheard.grows (.cons rfl _), trivial, always⟩
  · intro agree
    constructor
    · intro other slot found task running
      rcases among other slot found with ⟨rfl, rfl⟩ | ⟨-, was⟩
      · cases running
      · exact (held.schema agree).fed other slot was task running
    · exact ⟨trivial, (held.schema agree).always⟩

private theorem new_filed (start : RunStart) :
    SlotFiled (.new (RunBundler.new (RunBundle.open start))) := by
  constructor
  · intro stream
    rfl
  · intro stream descriptor current
    cases current
  · intro stream descriptor current
    cases current

/-- What declaring the interruptions of a fresh run makes of it. -/
private structure Recording (start uid : Uid) (declared : EventDescriptor × RunBundler) : Prop where
  filed : SlotFiled (.new declared.2)
  startUid : declared.2.bundle.startUid = start
  owned : declared.1.runStart = start
  uid : declared.1.uid = uid
  described : ∀ stream, declared.2.bundle.described stream =
    if stream = "interruptions" then some declared.1 else none

private theorem recording (start : RunStart) (uid : Uid) :
    Recording start.uid uid ((RunBundler.new (RunBundle.open start)).declareStream uid
      "interruptions" [.objectless interruptionKeys]) := by
  obtain ⟨filed, owned⟩ :=
    (new_filed start).declare uid "interruptions" [.objectless interruptionKeys]
  constructor
  · exact filed
  · exact declareStream_startUid _ _ _ _
  · exact owned
  · rcases declareStream_cases (RunBundler.new (RunBundle.open start)) uid "interruptions"
      [.objectless interruptionKeys] with had | ⟨-, new, -⟩
    · cases had
    · exact new
  · intro stream
    exact declareStream_described _ _ _ _ _

theorem installRun_catalogued {env : Env} {start : RunStart} {engine : RunEngine}
    (held : Catalogued goals [] engine) (home : goals.home start.uid) :
    Catalogued goals [] (installRun env key start engine).2 := by
  have moved : Tame engine { engine with nextUid := engine.nextUid + 1 } :=
    .of_mute (.of_same rfl (.refl _)) (Nat.le_succ _) rfl (.refl _)
  have filed := moved.catalogued goals [] held
  unfold installRun mint
  rw [advance_bind, ask_bind]
  dsimp only
  split
  · have recording := recording start engine.nextUid
    generalize (RunBundler.new (RunBundle.open start)).declareStream engine.nextUid
      "interruptions" [.objectless interruptionKeys] = declared at recording ⊢
    have spare : Spare declared.1.uid [] { engine with nextUid := engine.nextUid + 1 } := by
      rw [recording.uid]
      exact spare_minted held
    have pended := filed.pend (.inr spare) (recording.owned ▸ home) fun _ =>
      ⟨spare_unannounced spare, List.not_mem_nil⟩
    have known : ∀ stream, ∀ descriptor ∈ declared.2.bundle.described stream,
        descriptor = declared.1 := by
      intro stream descriptor current
      rw [recording.described] at current
      by_cases same : stream = "interruptions"
      · rw [if_pos same] at current
        exact (Option.some.inj current).symm
      · rw [if_neg same] at current
        cases current
    have opened := pended.opened key recording.filed recording.startUid
      fun stream descriptor current => .inl (by simp [known stream descriptor current])
    rw [modify_bind]
    have sent : Triple (Catalogued goals [declared.1]) (broadcast env (.descriptor declared.1))
        (fun _ => Catalogued goals []) (fun _ => Catalogued goals []) :=
      (announce_catalogued env declared.1 fun _ _ _ _ => id).weaken
        (fun _ held => ⟨held, trivial⟩) (fun _ _ held => held.1) fun _ _ held => held
    exact (Triple.to_keeps sent) _ opened
  · refine filed.opened key (new_filed start) rfl fun stream descriptor current => ?_
    cases current

theorem openRun_catalogued {env : Env} {metadata : RunMetadata} {engine : RunEngine}
    (held : Catalogued goals [] engine) (home : goals.home engine.nextUid) :
    Catalogued goals [] (openRun env key metadata engine).2 := by
  unfold openRun
  rw [ask_bind]
  split
  · exact held
  · rw [ask_bind, bind_apply]
    have moved : Tame engine (resolveScanId env metadata (mergedMetadata engine metadata) engine).2 :=
      tame_body (resolveScanId_effects env metadata _) engine
    have minted := (resolveScanId_unseen env metadata (mergedMetadata engine metadata) engine).1
    rcases ran : resolveScanId env metadata (mergedMetadata engine metadata) engine with
      ⟨outcome, reached⟩
    rw [ran] at moved minted
    have filed := moved.catalogued goals [] held
    cases outcome with
    | error error => exact filed
    | ok scanId =>
        have rest : Triple (fun engine => Catalogued goals [] engine ∧ goals.home engine.nextUid)
            (do
              let merged := if ((mergedMetadata engine metadata).lookup "scan_id").isSome then
                  mergedMetadata engine metadata
                else (mergedMetadata engine metadata).insert "scan_id" (toString scanId)
              Action.modify fun engine =>
                { engine with md := engine.md.insert "scan_id" (toString scanId) }
              let uid ← mint
              let extra ← lift (checkMetadata env merged)
              let start : RunStart := { uid, scanId := some scanId, extra }
              broadcast env (.start start)
              installRun env key start
              pure uid : EngineAction Uid)
            (fun _ => Catalogued goals []) (fun _ => Catalogued goals []) := by
          have persisted : Triple
              (fun engine => Catalogued goals [] engine ∧ goals.home engine.nextUid)
              (Action.modify fun engine =>
                { engine with md := engine.md.insert "scan_id" (toString scanId) } :
                EngineAction Unit)
              (fun _ engine => Catalogued goals [] engine ∧ goals.home engine.nextUid)
              (fun _ => Catalogued goals []) := by
            refine Triple.modify fun engine both => ⟨Tame.catalogued ?_ goals [] both.1, both.2⟩
            exact .of_mute (.of_same rfl (.refl _)) le_rfl rfl (.refl _)
          have issued : Triple
              (fun engine => Catalogued goals [] engine ∧ goals.home engine.nextUid) mint
              (fun uid engine => Catalogued goals [] engine ∧ goals.home uid)
              (fun _ => Catalogued goals []) := by
            intro engine both
            have tame : Keeps Tame mint := tame_body mint_effects
            exact ⟨(tame engine).catalogued goals [] both.1, both.2⟩
          refine Triple.bind persisted fun _ => Triple.bind issued fun uid => ?_
          have homed : ∀ before after, Tame before after → goals.home uid → goals.home uid :=
            fun _ _ _ home => home
          refine Triple.bind (tame_triple (tame_body (Keeps.lift _)) homed) fun extra =>
            Triple.bind (tame_triple (tame_body (broadcast_effects env trivial)) homed) fun _ => ?_
          have installed : Triple (fun engine => Catalogued goals [] engine ∧ goals.home uid)
              (installRun env key { uid, scanId := some scanId, extra })
              (fun _ => Catalogued goals []) (fun _ => Catalogued goals []) :=
            .of_end fun engine both => installRun_catalogued both.1 both.2
          exact Triple.bind installed fun _ => Triple.pure _ fun _ held => held
        exact (Triple.to_keeps rest) reached ⟨filed, minted ▸ home⟩

/-! ## Every message -/

/-- The run `key` has broadcast no Descriptor of `stream`. -/
def unsaid (key : RunKey) (stream : String) (engine : RunEngine) : Bool :=
  ((engine.state.bundler key).bind (·.bundle.described stream)).all fun descriptor =>
    !announced descriptor.runStart descriptor.uid engine.log

/-- A stream that is declared, once its objects are described, is one whose Descriptor its run has
not broadcast. -/
def declaresAfresh (env : Env) (msg : Msg) (engine : RunEngine) : Bool :=
  match route msg with
  | (key, .declareStream streamName objs) =>
      !(describeStreamObjs env key streamName objs engine).1.isOk || unsaid key streamName engine
  | _ => true

/-- The Events a message sends out or has sent out later fit the streams they go to. -/
def handlesFitting (env : Env) (msg : Msg) (engine : RunEngine) : Bool :=
  match route msg with
  | (key, .save) => (engine.state.bundler key).all savesFitting
  | (key, .collect obj streamName) => collectsFitting env key obj streamName engine
  | (key, .monitor obj name) => monitorsAlone env key obj name engine
  | _ => true

private theorem unsaid_of_afresh {stream : String} {engine : RunEngine}
    (afresh : unsaid key stream engine = true) : Unsaid key stream [] engine := by
  intro slot open_ descriptor current
  have found : engine.state.bundler key = some slot.bundler :=
    Option.map_eq_some_iff.mpr ⟨slot, open_, rfl⟩
  simp only [unsaid, found, Option.bind_some, Option.mem_def.mp current, Option.all_some,
    Bool.not_eq_true'] at afresh
  exact ⟨afresh, List.not_mem_nil⟩

theorem handle_catalogued {env : Env} {msg : Msg} {engine : RunEngine}
    (held : Catalogued goals [] engine) (home : AtHome goals (route msg).1 engine)
    (opens : ∀ metadata, (route msg).2 = .openRun metadata → goals.home engine.nextUid)
    (once : goals.once → declaresAfresh env msg engine = true)
    (agree : goals.agree → handlesFitting env msg engine = true) :
    Catalogued goals [] (handle env msg engine).2 := by
  have plain : ¬ Describes (route msg).2 → Catalogued goals [] (handle env msg engine).2 :=
    fun plain => (tame_of_effects plain (handle_effects env msg) engine).catalogued goals [] held
  have unit : ∀ {body : EngineAction Unit}, Catalogued goals [] (body engine).2 →
      Catalogued goals [] ((do body; return none : EngineAction (Option Uid)) engine).2 := by
    intro body ended
    rw [bind_pure_snd]
    exact ended
  unfold handle at plain ⊢
  unfold declaresAfresh at once
  unfold handlesFitting at agree
  rcases routed : route msg with ⟨key, inner⟩
  rw [routed] at home opens once agree plain
  dsimp only at home opens once agree plain ⊢
  cases inner with
  | openRun metadata =>
      have opened : Triple (fun engine => Catalogued goals [] engine ∧ goals.home engine.nextUid)
          (handleRouted env key (.openRun metadata)) (fun _ => Catalogued goals [])
          (fun _ => Catalogued goals []) := by
        refine Triple.bind (.of_end fun engine both => openRun_catalogued both.1 both.2) fun uid => ?_
        refine Triple.bind (.of_keeps (tame_body (setMsgResult_effects _)) ?_ ?_) fun _ =>
          Triple.pure _ fun _ held => held
        · exact fun _ _ _ held tame => tame.catalogued goals [] held
        · exact fun _ _ _ held tame => tame.catalogued goals [] held
      exact (Triple.to_keeps opened) engine ⟨held, opens metadata rfl⟩
  | save =>
      refine unit (handleSave_catalogued held home fun fits bundler found => ?_)
      exact (Option.all_eq_true ..).mp (agree fits) bundler found
  | declareStream streamName objs =>
      refine unit (handleDeclareStream_catalogued held home fun again described => ?_)
      have afresh := once again
      dsimp only at afresh
      rw [described] at afresh
      exact unsaid_of_afresh afresh
  | collect obj streamName => exact unit (collectObject_catalogued held home agree)
  | configure obj args => exact unit ((handleConfigure_files env obj args).after held home)
  | monitor obj name => exact unit (handleMonitor_catalogued held home agree)
  | _ => exact plain id

/-! ## The engine's own work -/

/-- A stream of the interruptions that an open run has declared has their key alone. -/
def RunEngine.recordsAlone (engine : RunEngine) : Bool :=
  !engine.recordInterruptions || engine.state.runs.values.all fun slot =>
    (slot.bundler.bundle.described "interruptions").all fun descriptor =>
      descriptor.dataKeys.keys = ["interruption"]

/-- While recording is on, a stream of the interruptions has their key alone. -/
def RecordsAlone (engine : RunEngine) : Prop :=
  engine.recordInterruptions = true → ∀ key, ∀ slot ∈ engine.state.run key,
    ∀ descriptor ∈ slot.bundler.bundle.described "interruptions",
      descriptor.dataKeys.keys = ["interruption"]

theorem recordsAlone_iff {engine : RunEngine} :
    engine.recordsAlone = true ↔ RecordsAlone engine := by
  simp only [RunEngine.recordsAlone, RecordsAlone, Bool.or_eq_true, Bool.not_eq_true',
    List.all_eq_true, Table.mem_values, Option.all_eq_true, decide_eq_true_eq]
  constructor
  · intro alone on key slot found
    exact (alone.resolve_left (by simp [on])) slot ⟨key, found⟩
  · intro alone
    cases on : engine.recordInterruptions with
    | false => exact .inl rfl
    | true => exact .inr fun slot ⟨key, found⟩ => alone on key slot found

theorem RecordsAlone.kept {before after : RunEngine} (alone : RecordsAlone before)
    (kept : RunsKept before after)
    (recording : after.recordInterruptions = before.recordInterruptions) : RecordsAlone after := by
  intro on key slot found
  obtain ⟨earlier, was, same⟩ := kept.slots key slot found
  rw [same.described]
  exact alone (recording ▸ on) key earlier was

/-- Interruption records go to streams of their own key. -/
theorem recordInterruption_catalogued (env : Env) (content : String) :
    Triple (fun engine => Catalogued goals [] engine ∧ (goals.agree → RecordsAlone engine))
      (recordInterruption env content) (fun _ => Catalogued goals [])
      (fun _ => Catalogued goals []) := by
  let recording (engine : RunEngine) : Prop :=
    (goals.agree → RecordsAlone engine) ∧ engine.recordInterruptions = true
  have framed : ∀ before after, Tame before after → recording before → recording after :=
    fun before after tame held =>
      ⟨fun agree => (held.1 agree).kept tame.kept tame.recording, tame.recording.trans held.2⟩
  refine Triple.ask_bind fun on => ?_
  cases on with
  | false => exact Triple.pure _ fun _ held => held.1.1
  | true =>
      refine Triple.ask_bind fun keys => ?_
      have each : Triple (fun engine => Catalogued goals [] engine ∧ recording engine)
          (Action.each (fun key => do
            Action.modify fun engine => engine.interrupt content key
            let _ ← await env) keys)
          (fun _ engine => Catalogued goals [] engine ∧ recording engine)
          (fun _ => Catalogued goals []) := by
        refine Triple.each (fun _ engine => Catalogued goals [] engine ∧ recording engine)
          (fun key rest => ?_) keys
        refine Triple.bind (Triple.modify fun engine both => ?_) fun _ =>
          Triple.bind (tame_triple (tame_body (await_effects env)) framed) fun _ =>
            Triple.pure _ fun _ held => held
        have silent := (feed_silent engine key "interruptions" .interruption
          (AList.singleton "interruption" content) (AList.singleton "interruption" "now")).2.2
        refine ⟨?_, fun agree => (both.2.1 agree).kept (feed_kept ..) silent, silent.trans both.2.2⟩
        refine feed_catalogued .interruption both.1 fun agree slot open_ descriptor current => ?_
        unfold Fits
        rw [both.2.1 agree both.2.2 key slot open_ descriptor current]
        exact ⟨.refl _, .refl _⟩
      exact each.weaken (fun _ held => ⟨held.1.1.1, held.1.1.2, held.1.2⟩) (fun _ _ held => held.1)
        fun _ _ held => held

theorem notifyAll_tame (env : Env) (request : Obj → Call) (objs : List Obj) :
    Keeps Tame (Action.each (fun obj => notify env (request obj)) objs) :=
  tame_body (Keeps.each fun _ _ => notify_effects env _)

private theorem filed_of_tame {body : EngineAction α} (tame : Keeps Tame body) :
    Triple (Catalogued goals []) body (fun _ => Catalogued goals []) (fun _ => Catalogued goals []) :=
  .of_keeps tame (fun _ _ _ held moved => moved.catalogued goals [] held)
    fun _ _ _ held moved => moved.catalogued goals [] held

private theorem filed_ask {view : RunEngine → α} {next : α → EngineAction β}
    (files : ∀ value, Triple (Catalogued goals []) (next value) (fun _ => Catalogued goals [])
      (fun _ => Catalogued goals [])) :
    Triple (Catalogued goals []) (ask view >>= next) (fun _ => Catalogued goals [])
      (fun _ => Catalogued goals []) :=
  Triple.ask_bind fun value =>
    (files value).weaken (fun _ held => held.1) (fun _ _ held => held) fun _ _ held => held

theorem onPauseEnter_catalogued (env : Env) (interruption : String) :
    Triple (fun engine => Catalogued goals [] engine ∧ (goals.agree → RecordsAlone engine))
      (onPauseEnter env interruption) (fun _ => Catalogued goals [])
      (fun _ => Catalogued goals []) := by
  have framed : ∀ before after, Tame before after → (goals.agree → RecordsAlone before) →
      goals.agree → RecordsAlone after :=
    fun before after tame alone agree => (alone agree).kept tame.kept tame.recording
  have ask : ∀ {α : Type} {view : RunEngine → α} {next : α → EngineAction Unit},
      (∀ value, Triple (fun engine => Catalogued goals [] engine ∧
        (goals.agree → RecordsAlone engine)) (next value) (fun _ => Catalogued goals [])
        (fun _ => Catalogued goals [])) →
      Triple (fun engine => Catalogued goals [] engine ∧ (goals.agree → RecordsAlone engine))
        (ask view >>= next) (fun _ => Catalogued goals []) (fun _ => Catalogued goals []) :=
    fun files => Triple.ask_bind fun value =>
      (files value).weaken (fun _ held => held.1) (fun _ _ held => held) fun _ _ held => held
  have quiesced : Keeps Tame (Action.modify fun engine => engine.withState fun state =>
      { state with runs := state.runs.mapValues fun _ slot => slot.clearTasks } :
      EngineAction Unit) :=
    tame_body (Keeps.modify fun engine => .single (.quiesce engine fun _ => trivial))
  refine Triple.bind (tame_triple quiesced framed) fun _ => ask fun movables => ?_
  refine Triple.bind (tame_triple (notifyAll_tame env _ movables) framed) fun _ =>
    ask fun flyables => ?_
  refine Triple.bind (tame_triple (notifyAll_tame env _ flyables) framed) fun _ =>
    ask fun pausables => ?_
  exact Triple.bind (tame_triple (notifyAll_tame env _ pausables) framed) fun _ =>
    recordInterruption_catalogued env _

/-- The engine as the monitors are restored on a resume. -/
def RunEngine.rearmed (engine : RunEngine) (env : Env) : RunEngine :=
  (Action.each (fun obj => notify env (.resume obj)) engine.armReplay.state.pausables.values
    engine.armReplay).2

/-- The engine as a resume is recorded. -/
def RunEngine.restored (engine : RunEngine) (env : Env) : RunEngine :=
  (restoreMonitors env (engine.rearmed env)).2

/-- A rewind rolls counters back, not descriptors. -/
theorem armReplay_tame : Keeps Tame (Action.modify RunEngine.armReplay : EngineAction Unit) := by
  intro engine
  refine .of_mute ?_ le_rfl rfl (.cons rfl _)
  cases empty : engine.state.msgCache.isEmpty with
  | true => exact .of_same (if_pos empty) (.cons rfl _)
  | false =>
      refine .mapValues (fun slot => { slot with
        bundler := slot.bundler.rewind, bundleAssetObjs := [] }) (if_neg (by simp [empty]))
        (fun slot => ?_) (.cons rfl _)
      unfold RunBundler.rewind
      split
      · exact ⟨rfl, fun _ => rfl, rfl, fun _ => id⟩
      · exact ⟨rfl, by simp, rfl, fun _ => id⟩

theorem onResume_catalogued {env : Env} {engine : RunEngine} (held : Catalogued goals [] engine)
    (everywhere : ∀ start, goals.home start)
    (alone : goals.agree →
      restoresAlone env (engine.rearmed env).monitorSpecs (engine.rearmed env) = true)
    (records : goals.agree → RecordsAlone (engine.restored env)) :
    Catalogued goals [] (onResume env engine).2 := by
  have armed := (armReplay_tame engine).catalogued goals [] held
  have told := notifyAll_tame env .resume engine.armReplay.state.pausables.values engine.armReplay
  have filed : Catalogued goals [] (engine.rearmed env) := told.catalogued goals [] armed
  unfold onResume
  rw [modify_bind, ask_bind, bind_apply]
  unfold RunEngine.restored at records
  unfold RunEngine.rearmed at filed alone records
  rcases ran : Action.each (fun obj => notify env (.resume obj))
    engine.armReplay.state.pausables.values engine.armReplay with ⟨outcome, reached⟩
  rw [ran] at filed alone records
  cases outcome with
  | error failure => exact filed
  | ok done =>
      have restored := restoreMonitors_catalogued filed everywhere alone
      dsimp only
      rw [bind_apply]
      rcases went : restoreMonitors env reached with ⟨outcome, left⟩
      rw [went] at restored records
      cases outcome with
      | error failure => exact restored
      | ok done =>
          exact (Triple.to_keeps (recordInterruption_catalogued env "resume")) left
            ⟨restored, records⟩

/-- The Events of every flyer the backstop collects fit the streams they go to. -/
def backstopFitting (env : Env) : List (RunKey × Obj) → RunEngine → Bool
  | [], _ => true
  | entry :: rest, engine =>
      collectsFitting env entry.1 entry.2 none engine &&
        backstopFitting env rest (collectObject env entry.1 entry.2 none engine).2

theorem drainAndClose_catalogued {env : Env} {status : String} {reason : Option String}
    {engine : RunEngine} (held : Catalogued goals [] engine)
    (everywhere : ∀ start, goals.home start)
    (fits : goals.agree → backstopFitting env engine.owedFlyers engine = true) :
    Catalogued goals [] (drainAndClose env status reason engine).2 := by
  have all : ∀ (owed : List (RunKey × Obj)) (engine : RunEngine),
      Catalogued goals [] engine → (goals.agree → backstopFitting env owed engine = true) →
      Catalogued goals [] (Action.each (fun entry => do
        let _ ← attempt (collectObject env entry.1 entry.2 none)) owed engine).2 := by
    intro owed
    induction owed with
    | nil => exact fun _ held _ => held
    | cons entry rest ih =>
        intro engine held fits
        have both := fun agree => (Bool.and_eq_true _ _).mp (fits agree)
        have home : AtHome goals entry.1 engine := fun _ _ => everywhere _
        have collected := collectObject_catalogued held home fun agree => (both agree).1
        exact ih _ collected fun agree => (both agree).2
  have drained : Catalogued goals [] (backstopCollect env engine).2 := all _ engine held fits
  have closing : Triple (Catalogued goals [])
      (do
        let openKeys ← ask fun engine => engine.state.runs.keys
        Action.each (fun key => closeRunIfOpen env key status reason) openKeys : EngineAction Unit)
      (fun _ => Catalogued goals []) (fun _ => Catalogued goals []) := by
    refine filed_ask fun openKeys => Triple.each (fun _ => Catalogued goals []) ?_ openKeys
    intro key rest
    exact filed_of_tame (tame_of_effects id (closeOpenRun_effects env key status reason))
  unfold drainAndClose
  rw [bind_apply]
  rcases ran : backstopCollect env engine with ⟨outcome, reached⟩
  rw [ran] at drained
  cases outcome with
  | error failure => exact drained
  | ok done => exact (Triple.to_keeps closing) reached drained

/-! ## Whole calls -/

/-- No stream is declared whose Descriptor its run has broadcast. -/
def Deed.afresh (env : Env) (deed : Deed) (engine : RunEngine) : Bool :=
  match deed with
  | .handle msg => declaresAfresh env msg engine
  | _ => true

/-- Every Event sent out, now or by a pump that starts now, fits the stream it goes to. -/
def Deed.fitting (env : Env) (deed : Deed) (engine : RunEngine) : Bool :=
  match deed with
  | .handle msg => handlesFitting env msg engine
  | .enterPause _ => engine.recordsAlone
  | .restore => restoresAlone env engine.monitorSpecs engine
  | .resume => restoresAlone env (engine.rearmed env).monitorSpecs (engine.rearmed env) &&
      (engine.restored env).recordsAlone
  | .closeOut _ _ => backstopFitting env engine.owedFlyers engine

/-- A deed meets what the goals ask for. -/
abbrev Goals.Allow (goals : Goals) (env : Env) (deed : Deed) (engine : RunEngine) : Prop :=
  (goals.once → deed.afresh env engine = true) ∧ (goals.agree → deed.fitting env engine = true)

theorem catalogued_of_loopMove {going : Prop} {before after : RunEngine}
    (everywhere : ∀ start, goals.home start) (move : LoopMove going goals.Allow before after)
    (held : Catalogued goals [] before) : Catalogued goals [] after := by
  have still : after.state.runs = before.state.runs → after.nextUid = before.nextUid →
      Grows Entry.isMute before.log after.log → Grows Entry.opensNone before.log after.log →
      Catalogued goals [] after := fun runs minted mute opensNone =>
    held.of_mute (.of_same runs opensNone) minted.ge mute
  cases move with
  | handled env msg taken =>
      exact handle_catalogued held (fun _ _ => everywhere _) (fun _ _ => everywhere _) taken.1 taken.2
  | pauseEntered env interruption taken =>
      exact (Triple.to_keeps (onPauseEnter_catalogued env interruption)) before
        ⟨held, fun agree => recordsAlone_iff.mp (taken.2 agree)⟩
  | restored env taken => exact restoreMonitors_catalogued held everywhere taken.2
  | resumed env taken =>
      have both := fun agree => (Bool.and_eq_true _ _).mp (taken.2 agree)
      exact onResume_catalogued held everywhere (fun agree => (both agree).1)
        fun agree => recordsAlone_iff.mp (both agree).2
  | closed env status reason taken => exact drainAndClose_catalogued held everywhere taken.2
  | pump update => exact pump_catalogued held update
  | receive request => cases request <;> exact still rfl rfl (.cons rfl _) (.cons rfl _)
  | mark entry plain =>
      have mute : entry.isMute = true := by
        cases entry <;> first | rfl | cases plain
      have opensNone : entry.opensNone = true := by
        cases entry <;> first | rfl | cases plain
      exact still rfl rfl (.cons mute _) (.cons opensNone _)
  | throw caught =>
      unfold RunEngine.throwIntoPlan at caught
      split at caught
      · cases caught
      · cases caught
        exact still rfl rfl (.cons rfl _) (.cons rfl _)
  | answered | control | share => exact still rfl rfl (.refl _) (.refl _)
  | _ => exact still rfl rfl (.cons rfl _) (.cons rfl _)

/-- A call begins with nothing declared. -/
theorem start_catalogued {engine : RunEngine} {plan : σ} (idle : engine.Idle)
    (fresh : goals.base = []) : Catalogued goals [] (Config.start engine plan).engine := by
  have none : ∀ key, ∀ slot, slot ∉ (Config.start engine plan).engine.state.run key := by
    intro key slot held
    simp [Config.start, RunEngine.begin, EngineState.run, idle.runs] at held
  have unknown : ∀ descriptor, ¬ Known [] (Config.start engine plan).engine descriptor := by
    rintro descriptor (waiting | ⟨key, slot, held, -⟩ | heard)
    · cases waiting
    · exact none key slot held
    · cases heard
  constructor
  · exact fun key slot held => absurd held (none key slot)
  · exact fun key slot held => absurd held (none key slot)
  · exact fun descriptor known => absurd known (unknown descriptor)
  · exact fun descriptor other known => absurd known (unknown descriptor)
  · exact fun descriptor waiting => absurd waiting List.not_mem_nil
  · refine ⟨[], ?_, fun descriptor heard => absurd heard List.not_mem_nil⟩
    rw [fresh]
    rfl
  · exact fun _ => ⟨⟨(by intros; contradiction), List.nodup_nil⟩, trivial⟩
  · exact fun _ => ⟨fun key slot held => absurd held (none key slot), trivial⟩

/-- What a deed has to pass for the catalogue to meet its goals. -/
theorem run_catalogued {plans : PlanStream σ} {engine : RunEngine} {plan : σ}
    {labels : List Label} {reached : Config σ} {check : Env → Deed → RunEngine → Bool}
    (idle : engine.Idle) (fresh : goals.base = []) (everywhere : ∀ start, goals.home start)
    (allow : ∀ env deed engine, check env deed engine = true → goals.Allow env deed engine)
    (trace : run plans (Config.start engine plan) labels = some reached)
    (checked : Throughout (step plans) (Config.Does check) (Config.start engine plan) labels) :
    Catalogued goals [] reached.engine := by
  refine Bsrs.Library.exec_invariant_throughout (fun config => Catalogued goals [] config.engine) ?_
    trace checked (start_catalogued idle fresh)
  intro before label after stepped allowed held
  have moves : LoopMoves True goals.Allow before.engine after.engine :=
    step_moves stepped fun env deed does => allow env deed _ (allowed (env, deed) does)
  exact loopMoves_invariant (Catalogued goals []) (fun _ _ => catalogued_of_loopMove everywhere)
    moves held

end Bsrs.Engine
