import Bsrs.Engine.Envelope
import Bsrs.Engine.HandedOut

namespace Bsrs.Engine

open Bsrs.Library (Table Action Grows Always Throughout)
open Bsrs.Library.Action
open Bsrs.EventModel
open Bsrs.Core

/-- The Descriptors of an engine are filed, with nothing asked beyond. -/
abbrev Filed (engine : RunEngine) : Prop :=
  Catalogued ⟨False, False, [], fun _ => True⟩ [] engine

/-- The runs are wrapped, and their Descriptors filed. -/
structure Sound (engine : RunEngine) : Prop where
  wrapped : Wrapped none engine
  filed : Filed engine

section

variable {env : Env} {key : RunKey} {before after : RunEngine} {opening : Option Uid}

/-! ## Work within runs -/

/-- Whatever the goals without checks are, the computation keeps the catalogue. -/
def Describing (before after : RunEngine) : Prop :=
  ∀ goals : Goals, ¬ goals.once → ¬ goals.agree → (∀ key, AtHome goals key before) →
    Catalogued goals [] before → Catalogued goals [] after

private theorem describing_of_tame (tame : Tame before after) : Describing before after :=
  fun goals _ _ _ held => tame.catalogued goals [] held

theorem Describing.ascribed (describing : Describing before after) (filed : Filed before) :
    Ascribed before after := by
  let home (start : Uid) : Prop := ∃ key, ∃ slot ∈ before.state.run key, slot.start = start
  have homes : ∀ key, AtHome ⟨False, False, before.log, home⟩ key before :=
    fun key slot held => ⟨key, slot, held, rfl⟩
  exact (describing ⟨False, False, before.log, home⟩ id id homes (filed.rebase home)).trail

theorem Describing.filed (describing : Describing before after) (filed : Filed before) :
    Filed after :=
  describing _ id id (fun _ _ _ => trivial) filed

/-- Work within the open runs leaves them sound. -/
theorem Sound.aired (sound : Sound before) (aired : Aired (IsOpen before) before after)
    (describing : Describing before after) : Sound after :=
  ⟨sound.wrapped.aired aired (describing.ascribed sound.filed), describing.filed sound.filed⟩

private theorem ascribed_of_tame (tame : Tame before after) : Ascribed before after := by
  obtain ⟨added, whole, silent⟩ := tame.log
  refine ⟨added, whole, fun descriptor member => ?_⟩
  cases silent _ member

/-- The engine's other registers do not matter. -/
theorem Wrapped.of_same (wrapped : Wrapped opening before) (runs : after.state = before.state)
    (minted : before.nextUid ≤ after.nextUid) (log : after.log = before.log) :
    Wrapped opening after := by
  refine ⟨fun start started => ?_, ?_, ?_, ?_, ?_, log ▸ wrapped.always⟩
  · exact (wrapped.minted start (log ▸ started)).trans_le minted
  · rw [log, runs]
    exact wrapped.current
  · rw [runs]
    exact wrapped.apart
  · rw [log, runs]
    exact wrapped.pending
  · rw [log, runs]
    exact wrapped.ended

/-- An await between two documents. -/
theorem Wrapped.waited (wrapped : Wrapped opening before) (env : Env) :
    Wrapped opening (await env before).2 := by
  have stages : Stages (IsOpen before) .gate .save := by
    refine ⟨fun _ => nofun, fun _ _ => nofun, nofun, nofun, ?_⟩
    rintro key own (drains | sends)
    · cases drains
    · cases sends
  have waits : Keeps (Effects .gate .save) (await env) := await_effects env
  have tame : Keeps Tame (await env) := tame_body (await_effects env)
  exact wrapped.aired (aired_of_effects stages (fun _ => id) (waits before))
    (ascribed_of_tame (tame before))

/-! ## Opening a run -/

/-- A RunStart goes out for a uid that no document has named. -/
theorem Wrapped.begun (wrapped : Wrapped none before) {sent : RunEngine} {start : RunStart}
    (log : sent.log = before.log) (state : sent.state = before.state)
    (minted : sent.nextUid = before.nextUid + 1) (uid : start.uid = before.nextUid) :
    Wrapped (some start.uid) (sent.record (.broadcast (.start start))) := by
  have fresh : startedIn start.uid before.log = false := by
    refine Bool.eq_false_iff.mpr fun started => ?_
    have below := wrapped.minted start.uid started
    rw [uid] at below
    exact Nat.lt_irrefl _ below
  have unstopped : stoppedIn start.uid before.log = false := by
    refine Bool.eq_false_iff.mpr fun stopped => ?_
    rw [started_of_stopped wrapped.always stopped] at fresh
    cases fresh
  have started : ∀ other, startedIn other (sent.record (.broadcast (.start start))).log =
      (decide (start.uid = other) || startedIn other before.log) := by
    intro other
    rw [← log]
    rfl
  have stopped : ∀ other, stoppedIn other (sent.record (.broadcast (.start start))).log =
      stoppedIn other before.log := by
    intro other
    rw [← log]
    rfl
  have running : ∀ other, Running other before.log →
      Running other (sent.record (.broadcast (.start start))).log := by
    intro other still
    unfold Running
    rw [started, stopped, still.1, Bool.or_true]
    exact ⟨rfl, still.2⟩
  have opens : ∀ key, startOf key (sent.record (.broadcast (.start start))).log =
      startOf key before.log := by
    intro key
    rw [← log]
    rfl
  have runs : ∀ key, (sent.record (.broadcast (.start start))).state.run key =
      before.state.run key := fun key => congrArg (EngineState.run · key) state
  constructor
  · intro other known
    rw [started, Bool.or_eq_true, decide_eq_true_eq] at known
    have next : (sent.record (.broadcast (.start start))).nextUid = before.nextUid + 1 := minted
    rw [next]
    rcases known with rfl | known
    · exact uid ▸ Nat.lt_succ_self _
    · exact (wrapped.minted other known).trans (Nat.lt_succ_self _)
  · intro key slot held
    rw [runs] at held
    obtain ⟨current, still⟩ := wrapped.current key slot held
    exact ⟨(opens key).trans current, running _ still⟩
  · intro key other slot held found also
    rw [runs] at held also
    exact wrapped.apart key other slot held found also
  · intro other waiting
    obtain rfl := Option.some.inj waiting
    refine ⟨⟨?_, (stopped _).trans unstopped⟩, fun key slot held same => ?_⟩
    · rw [started, decide_eq_true rfl, Bool.true_or]
    · rw [runs] at held
      rw [← same, (wrapped.current key slot held).2.1] at fresh
      cases fresh
  · intro other known
    rw [started, Bool.or_eq_true, decide_eq_true_eq] at known
    rw [stopped]
    rcases known with rfl | known
    · exact .inr (.inr rfl)
    · refine (wrapped.ended other known).imp_right (Or.imp (fun open_ => ?_) nofun)
      obtain ⟨key, slot, held, same⟩ := open_
      exact ⟨key, slot, (runs key).trans held, same⟩
  · have always : Always Enveloped sent.log := log ▸ wrapped.always
    exact ⟨⟨log ▸ fresh, log ▸ unstopped⟩, always⟩

/-- A run is installed once its RunStart is out. -/
theorem Wrapped.opened {start : Uid} (wrapped : Wrapped (some start) before)
    (closed : before.state.run key = none) {bundler : RunBundler}
    (named : bundler.bundle.startUid = start) :
    Wrapped none ((before.withState fun state =>
      { state with runs := state.runs.insert key (.new bundler) }).record (.opened key start)) := by
  obtain ⟨running, others⟩ := wrapped.pending start rfl
  have among : ∀ other, ∀ slot ∈ (before.state.runs.insert key (.new bundler)).lookup other,
      other = key ∧ slot.start = start ∨ other ≠ key ∧ slot ∈ before.state.run other := by
    intro other slot found
    by_cases same : other = key
    · subst same
      rw [AList.lookup_insert] at found
      obtain rfl := Option.some.inj found
      exact .inl ⟨rfl, named⟩
    · rw [AList.lookup_insert_ne same] at found
      exact .inr ⟨same, found⟩
  constructor
  · exact wrapped.minted
  · intro other slot found
    rcases among other slot found with ⟨rfl, own⟩ | ⟨different, held⟩
    · rw [own]
      exact ⟨if_pos rfl, running⟩
    · obtain ⟨current, still⟩ := wrapped.current other slot held
      exact ⟨(if_neg (Ne.symm different)).trans current, still⟩
  · intro one other slot found also known same
    rcases among one slot found with ⟨rfl, own⟩ | ⟨-, held⟩
    · rcases among other also known with ⟨rfl, -⟩ | ⟨-, second⟩
      · rfl
      · exact absurd (same.symm.trans own) (others other also second)
    · rcases among other also known with ⟨rfl, also_own⟩ | ⟨-, second⟩
      · exact absurd (same.trans also_own) (others one slot held)
      · exact wrapped.apart one other slot held also second same
  · exact fun _ => nofun
  · intro other known
    rcases wrapped.ended other known with stopped | ⟨place, slot, held, rfl⟩ | waiting
    · exact .inl stopped
    · have different : place ≠ key := by
        rintro rfl
        rw [closed] at held
        cases held
      exact .inr (.inl ⟨place, slot, (AList.lookup_insert_ne different).trans held, rfl⟩)
    · obtain rfl := Option.some.inj waiting
      exact .inr (.inl ⟨key, .new bundler, AList.lookup_insert _, named⟩)
  · exact ⟨trivial, wrapped.always⟩

/-- A Descriptor of an open run goes out. -/
theorem Wrapped.described (wrapped : Wrapped none before) {slot : RunSlot}
    (open_ : slot ∈ before.state.run key) {descriptor : EventDescriptor}
    (owned : descriptor.runStart = slot.start) :
    Wrapped none (before.record (.broadcast (.descriptor descriptor))) := by
  refine wrapped.aired ⟨fun _ => rfl, le_rfl, [.broadcast (.descriptor descriptor)], rfl, ?_⟩
    ⟨[.broadcast (.descriptor descriptor)], rfl, ?_⟩
  · intro entry member
    rw [List.mem_singleton.mp member]
    exact rfl
  · intro other member
    cases List.mem_singleton.mp member
    exact ⟨key, slot, open_, owned.symm⟩

private theorem installRun_wrapped {start : RunStart} (wrapped : Wrapped (some start.uid) before)
    (closed : before.state.run key = none) :
    Wrapped none (installRun env key start before).2 := by
  have minted : Wrapped (some start.uid) { before with nextUid := before.nextUid + 1 } :=
    wrapped.of_same rfl (Nat.le_succ _) rfl
  unfold installRun mint
  rw [advance_bind, ask_bind]
  dsimp only
  split
  · rw [modify_bind]
    have owned := declareStream_cases (RunBundler.new (RunBundle.open start)) before.nextUid
      "interruptions" [.objectless interruptionKeys]
    have named := declareStream_startUid (RunBundler.new (RunBundle.open start)) before.nextUid
      "interruptions" [.objectless interruptionKeys]
    generalize (RunBundler.new (RunBundle.open start)).declareStream before.nextUid
      "interruptions" [.objectless interruptionKeys] = declared at owned named
    rcases owned with had | ⟨-, -, owned, -⟩
    · cases had
    · have installed := minted.opened closed named
      exact (installed.described (AList.lookup_insert _) (owned.trans named.symm)).waited env
  · exact minted.opened closed rfl

theorem openRun_wrapped (wrapped : Wrapped none before) (env : Env) (key : RunKey)
    (metadata : RunMetadata) : Wrapped none (openRun env key metadata before).2 := by
  have opening := openRun_opening env key metadata before
  generalize (openRun env key metadata before).2 = reached at opening ⊢
  generalize (openRun env key metadata before).1 = outcome at opening
  cases opening with
  | refused failure after log state minted => exact wrapped.of_same state minted log
  | opened sent start closed log state minted uid =>
      have begun := wrapped.begun log state minted uid
      have waits : Keeps Tame (await env) := tame_body (await_effects env)
      refine installRun_wrapped (begun.waited env) ?_
      refine Option.eq_none_iff_forall_not_mem.mpr fun slot held => ?_
      obtain ⟨earlier, found, -⟩ :=
        (waits (sent.record (.broadcast (.start start)))).kept.slots key slot held
      have gone : (sent.record (.broadcast (.start start))).state.run key = none := by
        rw [← closed, ← state]
        rfl
      rw [gone] at found
      cases found

/-! ## Closing a run -/

/-- A run is closed, and its RunStop goes out. -/
theorem Wrapped.stopped (wrapped : Wrapped none before) {slot : RunSlot}
    (open_ : slot ∈ before.state.run key) {stop : RunStop} (own : stop.runStart = slot.start) :
    Wrapped none (((RunEngine.dropRun { before with nextUid := before.nextUid + 1 } key).record
      (.closed key stop)).record (.broadcast (.stop stop))) := by
  obtain ⟨-, running⟩ := wrapped.current key slot open_
  have among : ∀ other, ∀ held ∈ (before.state.runs.erase key).lookup other,
      other ≠ key ∧ held ∈ before.state.run other := by
    intro other held found
    by_cases same : other = key
    · subst same
      rw [AList.lookup_erase] at found
      cases found
    · rw [AList.lookup_erase_ne same] at found
      exact ⟨same, found⟩
  have stopped : ∀ other, stoppedIn other
      (.broadcast (.stop stop) :: .closed key stop :: before.log) =
        (decide (stop.runStart = other) || stoppedIn other before.log) := fun _ => rfl
  constructor
  · exact fun start started => (wrapped.minted start started).trans (Nat.lt_succ_self _)
  · intro other held found
    obtain ⟨different, was⟩ := among other held found
    obtain ⟨current, still⟩ := wrapped.current other held was
    refine ⟨current, still.1, (stopped _).trans ?_⟩
    have apart : stop.runStart ≠ held.start := fun same =>
      different (wrapped.apart other key held was slot open_ (own.symm.trans same).symm)
    rw [decide_eq_false apart, still.2]
    rfl
  · intro one other held found also known
    exact wrapped.apart one other held (among one held found).2 also (among other also known).2
  · exact fun _ => nofun
  · intro start started
    have ends : stop.runStart = start ∨ stoppedIn start before.log = true →
        stoppedIn start (.broadcast (.stop stop) :: .closed key stop :: before.log) = true := by
      rw [stopped, Bool.or_eq_true, decide_eq_true_eq]
      exact id
    rcases wrapped.ended start started with already | ⟨place, held, found, rfl⟩ | waiting
    · exact .inl (ends (.inr already))
    · by_cases same : place = key
      · subst same
        obtain rfl := Option.some.inj ((Option.mem_def.mp open_).symm.trans found)
        exact .inl (ends (.inl own))
      · exact .inr (.inl ⟨place, held, (AList.lookup_erase_ne same).trans found, rfl⟩)
    · cases waiting
  · have named : Running stop.runStart before.log := own ▸ running
    exact ⟨named, trivial, wrapped.always⟩

theorem closeRunIfOpen_sound (sound : Sound before) (env : Env) (key : RunKey) {status : String}
    (legal : before.state.run key = none ∨ isStopStatus status = true) (reason : Option String) :
    Sound (closeRunIfOpen env key status reason before).2 := by
  have tame : Tame before (closeRunIfOpen env key status reason before).2 :=
    tame_of_effects id (closeOpenRun_effects env key status reason) before
  refine ⟨?_, tame.catalogued _ _ sound.filed⟩
  have closing := closeRunIfOpen_closing env key status reason before
  generalize (closeRunIfOpen env key status reason before).2 = reached at closing ⊢
  generalize (closeRunIfOpen env key status reason before).1 = outcome at closing
  cases closing with
  | absent closed => exact sound.wrapped.of_same rfl (Nat.le_succ _) rfl
  | lost slot open_ illegal =>
      rcases legal with closed | legal
      · rw [closed] at open_
        cases open_
      · rw [illegal] at legal
        cases legal
  | stopped slot exit cause stop open_ fits stops =>
      exact (sound.wrapped.stopped open_ (RunBundle.stop_runStart stops)).waited env

/-! ## Every message -/

/-- A message that opens and closes nothing works within its own run. -/
private theorem stages_of {msg : Msg} (opens : ∀ metadata, msg ≠ .openRun metadata)
    (closes : ∀ status reason, msg ≠ .closeRun status reason)
    (sends : powers msg .drains ∨ powers msg .sends → IsOpen before key) :
    Stages (IsOpen before) (.of key msg) msg := by
  refine ⟨opens, closes, ?_, ?_, ?_⟩
  · cases msg with
    | openRun metadata => exact absurd rfl (opens metadata)
    | _ => simp [Scope.of, powers]
  · cases msg with
    | closeRun status reason => exact absurd rfl (closes status reason)
    | _ => simp [Scope.of, powers]
  · rintro other rfl may
    exact sends may

private theorem handleRouted_aired {msg : Msg} (opens : ∀ metadata, msg ≠ .openRun metadata)
    (closes : ∀ status reason, msg ≠ .closeRun status reason)
    (sends : powers msg .drains ∨ powers msg .sends → IsOpen before key) :
    Aired (IsOpen before) before (handleRouted env key msg before).2 :=
  aired_of_effects (stages_of opens closes sends) (fun _ => id)
    (handleRouted_effects env key msg before)

/-- What is collected goes out for its own run, if that is open. -/
theorem collectObject_aired (env : Env) (key : RunKey) (obj : Obj) (streamName : Option String)
    (before : RunEngine) :
    Aired (IsOpen before) before (collectObject env key obj streamName before).2 := by
  cases found : before.state.run key with
  | none =>
      rw [collectObject_closed found]
      refine ⟨fun _ => rfl, le_rfl, [.collecting key obj], rfl, fun entry member => ?_⟩
      rw [List.mem_singleton.mp member]
      exact rfl
  | some slot =>
      have aired : Aired (IsOpen before) before
          (handleRouted env key (.collect obj streamName) before).2 :=
        handleRouted_aired (fun _ => nofun) (fun _ _ => nofun) fun _ => ⟨slot, found⟩
      have same : (handleRouted env key (.collect obj streamName) before).2 =
          (collectObject env key obj streamName before).2 := bind_pure_snd _ _ _
      exact same ▸ aired

private theorem handleSave_aired (env : Env) (key : RunKey) (before : RunEngine) :
    Aired (IsOpen before) before (handleRouted env key .save before).2 := by
  cases found : before.state.run key with
  | none =>
      have same : (handleRouted env key .save before).2 = (handleSave env key before).2 :=
        bind_pure_snd _ _ _
      rw [same, handleSave_closed found]
      exact ⟨fun _ => rfl, Nat.le_add_right _ 2, [], rfl, fun _ => nofun⟩
  | some slot => exact handleRouted_aired (fun _ => nofun) (fun _ _ => nofun) fun _ => ⟨slot, found⟩

private theorem handle_wrapped (sound : Sound before) (env : Env) (msg : Msg)
    (legal : ∀ status reason, (route msg).2 = .closeRun status reason →
      before.state.run (route msg).1 = none ∨ isStopStatus status = true) :
    Wrapped none (handle env msg before).2 := by
  -- A message that opens and closes nothing describes streams of open runs only.
  have within : (∀ metadata, (route msg).2 ≠ .openRun metadata) →
      Aired (IsOpen before) before (handle env msg before).2 →
      Wrapped none (handle env msg before).2 := by
    intro opens aired
    refine sound.wrapped.aired aired (Describing.ascribed (fun goals once agree homes held => ?_)
      sound.filed)
    exact handle_catalogued held (homes _) (fun metadata opening => absurd opening (opens metadata))
      (fun asked => absurd asked once) fun asked => absurd asked agree
  unfold handle at within ⊢
  rcases routed : route msg with ⟨key, inner⟩
  rw [routed] at legal within
  dsimp only at legal within ⊢
  have plain : (∀ metadata, inner ≠ .openRun metadata) →
      (∀ status reason, inner ≠ .closeRun status reason) →
      ¬ (powers inner .drains ∨ powers inner .sends) →
      Wrapped none (handleRouted env key inner before).2 := fun opens closes sends =>
    within opens (handleRouted_aired opens closes fun may => absurd may sends)
  cases inner with
  | openRun metadata =>
      have opened := openRun_wrapped sound.wrapped env key metadata
      rcases ran : openRun env key metadata before with ⟨outcome, reached⟩
      rw [ran] at opened
      unfold handleRouted
      dsimp only
      rw [bind_apply, ran]
      cases outcome with
      | ok uid => exact opened.of_same rfl le_rfl rfl
      | error failure => exact opened
  | closeRun status reason =>
      have closed := closeRunIfOpen_sound sound env key (legal status reason rfl) reason
      have same : (handleRouted env key (.closeRun status reason) before).2 =
          (handleCloseRun env key status reason before).2 := bind_pure_snd _ _ _
      rw [same]
      unfold handleCloseRun
      rw [ask_bind]
      split
      · rcases ran : closeRunIfOpen env key status reason before with ⟨outcome, reached⟩
        rw [ran] at closed
        rw [bind_apply, ran]
        cases outcome with
        | ok done => exact closed.wrapped.of_same rfl le_rfl rfl
        | error failure => exact closed.wrapped
      · exact sound.wrapped
  | save => exact within (by rintro _ ⟨⟩) (handleSave_aired env key before)
  | collect obj streamName =>
      have same : (handleRouted env key (.collect obj streamName) before).2 =
          (collectObject env key obj streamName before).2 := bind_pure_snd _ _ _
      exact within (by rintro _ ⟨⟩) (same ▸ collectObject_aired env key obj streamName before)
  | _ => exact plain (by rintro _ ⟨⟩) (by rintro _ _ ⟨⟩) (by simp [powers])

theorem handle_sound (sound : Sound before) (env : Env) (msg : Msg)
    (legal : ∀ status reason, (route msg).2 = .closeRun status reason →
      before.state.run (route msg).1 = none ∨ isStopStatus status = true) :
    Sound (handle env msg before).2 :=
  ⟨handle_wrapped sound env msg legal, handle_catalogued sound.filed (fun _ _ => trivial)
    (fun _ _ => trivial) False.elim False.elim⟩

/-! ## The engine's own work -/

/-- Work of the pause gate. -/
private theorem gate_aired {body : EngineAction α} (effects : Keeps (Effects .gate .save) body)
    (before : RunEngine) : Aired (IsOpen before) before (body before).2 := by
  have stages : Stages (IsOpen before) .gate .save := by
    refine ⟨fun _ => nofun, fun _ _ => nofun, nofun, nofun, ?_⟩
    rintro key own (drains | sends)
    · cases drains
    · cases sends
  exact aired_of_effects stages (fun _ => id) (effects before)

private theorem gate_stable {body : EngineAction α} (effects : Keeps (Effects .gate .save) body)
    (describing : ∀ engine, Describing engine (body engine).2) : Stable Sound body :=
  fun engine sound => sound.aired (gate_aired effects engine) (describing engine)

private theorem notifyAll_stable (env : Env) (request : Obj → Call) (objs : List Obj) :
    Stable Sound (Action.each (fun obj => notify env (request obj)) objs) := by
  have tame : Keeps Tame (Action.each (fun obj => notify env (request obj)) objs) :=
    notifyAll_tame env request objs
  exact gate_stable (Keeps.each fun _ _ => notify_effects env _)
    fun engine => describing_of_tame (tame engine)

private theorem save_describes : Describes .save :=
  trivial

private theorem recordInterruption_stable (env : Env) (content : String) :
    Stable Sound (recordInterruption env content) :=
  gate_stable (recordInterruption_effects save_describes env content) fun engine _ _ agree _ held =>
    (Triple.to_keeps (recordInterruption_catalogued env content)) engine
      ⟨held, fun asked => absurd asked agree⟩

theorem pump_sound (sound : Sound before) (update : Update) : Sound (before.pump update) := by
  have pumps : Keeps (Effects .gate .save) (Action.modify fun engine => engine.pump update :
      EngineAction Unit) :=
    Keeps.modify fun engine => .single (.pump engine update)
  exact sound.aired (gate_aired pumps before) (describing_of_tame (pump_tame before update))

theorem onPauseEnter_stable (env : Env) (interruption : String) :
    Stable Sound (onPauseEnter env interruption) :=
  gate_stable (onPauseEnter_effects save_describes env interruption) fun engine _ _ agree _ held =>
    (Triple.to_keeps (onPauseEnter_catalogued env interruption)) engine
      ⟨held, fun asked => absurd asked agree⟩

theorem restoreMonitors_stable (env : Env) : Stable Sound (restoreMonitors env) := by
  refine Keeps.bind (Keeps.ask _) fun specs => Keeps.each fun entry _ => ?_
  refine Keeps.bind (Keeps.attempt ?_) fun _ => Keeps.pure _
  exact gate_stable (startMonitor_effects trivial rfl save_describes env _ _)
    fun engine _ _ agree homes held =>
      (startMonitor_catalogued held (homes _) fun asked => absurd asked agree).1

private theorem afterRearm_stable (env : Env) : Stable Sound (afterRearm env) :=
  Keeps.bind (Keeps.ask _) fun _ => Keeps.bind (notifyAll_stable env _ _) fun _ =>
    Keeps.bind (restoreMonitors_stable env) fun _ => recordInterruption_stable env "resume"

private theorem armReplay_sound (sound : Sound before) : Sound before.armReplay := by
  refine sound.aired ⟨fun key => ?_, le_rfl, [.resumed before.state.msgCache], rfl, ?_⟩
    (describing_of_tame (armReplay_tame before))
  · rcases run_armReplay before key with same | rolled
    · rw [same]
    · rw [rolled, Option.map_map]
      refine congrFun (congrArg Option.map (funext fun slot => ?_)) _
      show slot.bundler.rewind.bundle.startUid = slot.bundler.bundle.startUid
      unfold RunBundler.rewind
      split
      · rfl
      · rfl
  · intro entry member
    rw [List.mem_singleton.mp member]
    exact rfl

theorem onResume_stable (env : Env) : Stable Sound (onResume env) := by
  intro engine sound
  rw [onResume_eq]
  exact afterRearm_stable env _ (armReplay_sound sound)

/-! ## Closing out -/

/-- What `drain_and_close` has in hand while it drains. -/
private structure Draining (going : RunKey → Prop) (engine : RunEngine) : Prop where
  sound : Sound engine
  levelled : Levelled (fun _ => True) engine
  runs : ∀ key, IsOpen engine key → going key

private theorem collectObject_draining {going : RunKey → Prop} (env : Env) (key : RunKey) (obj : Obj)
    (draining : Draining going before) :
    Draining going (collectObject env key obj none before).2 := by
  have aired := collectObject_aired env key obj none before
  refine ⟨draining.sound.aired aired fun goals _ agree homes held => ?_, ?_,
    fun other open_ => draining.runs other (aired.isOpen open_)⟩
  · exact collectObject_catalogued held (homes key) fun asked => absurd asked agree
  · have effects : Effects .all .save before (collectObject env key obj none before).2 :=
      collectObject_effects trivial trivial trivial trivial trivial save_describes env obj none before
    have saves : ∀ status reason, Msg.save ≠ .closeRun status reason := fun _ _ => nofun
    exact levelled_of_effects saves effects draining.levelled

private theorem backstopCollect_draining (env : Env) (going : RunKey → Prop) :
    Triple (Draining going) (backstopCollect env) (fun _ => Draining going)
      (fun _ _ => False) := by
  refine Triple.ask_bind fun owed => ?_
  have collected : Triple (Draining going) (Action.each (fun entry => do
      let _ ← attempt (collectObject env entry.1 entry.2 none) : RunKey × Obj → EngineAction Unit)
      owed) (fun _ => Draining going) (fun _ _ => False) := by
    refine Triple.each (fun _ => Draining going) (fun entry rest => ?_) owed
    have one : Triple (Draining going) (collectObject env entry.1 entry.2 none)
        (fun _ => Draining going) (fun _ => Draining going) :=
      .of_end fun engine draining => collectObject_draining env entry.1 entry.2 draining
    exact Triple.bind (Triple.attempt one) fun _ => Triple.pure _ fun _ held => held
  exact collected.weaken (fun _ held => held.1) (fun _ _ held => held) fun _ _ held => held

private theorem closeRunIfOpen_draining (env : Env) {status : String}
    (legal : isStopStatus status = true) (reason : Option String) (key : RunKey)
    (rest : List RunKey) :
    Triple (Draining (· ∈ key :: rest)) (closeRunIfOpen env key status reason)
      (fun _ => Draining (· ∈ rest)) (fun _ _ => False) := by
  intro engine draining
  have sound := closeRunIfOpen_sound draining.sound env key (.inr legal) reason
  have levelled := closeRunIfOpen_levelled env status reason draining.levelled
    fun _ => draining.levelled.level key trivial
  have closing := closeRunIfOpen_closing env key status reason engine
  rcases ran : closeRunIfOpen env key status reason engine with ⟨outcome, reached⟩
  rw [ran] at sound levelled closing
  have others : (∀ other, IsOpen reached other → IsOpen engine other ∧ other ≠ key) →
      Draining (· ∈ rest) reached := by
    refine fun kept => ⟨sound, levelled, fun other open_ => ?_⟩
    obtain ⟨was, different⟩ := kept other open_
    exact (List.mem_cons.mp (draining.runs other was)).resolve_left different
  dsimp only at closing
  cases closing with
  | absent closed =>
      refine others fun other open_ => ⟨open_, ?_⟩
      rintro rfl
      obtain ⟨slot, held⟩ := open_
      rw [Option.mem_def, show EngineState.run _ other = none from closed] at held
      cases held
  | lost slot open_ illegal =>
      rw [illegal] at legal
      cases legal
  | stopped slot exit cause stop open_ fits stops =>
      have waits : Keeps Tame (await env) := tame_body (await_effects env)
      refine others ?_
      rintro other ⟨now, held⟩
      obtain ⟨earlier, found, -⟩ := (waits _).kept.slots other now held
      change earlier ∈ (engine.state.runs.erase key).lookup other at found
      by_cases same : other = key
      · subst same
        rw [AList.lookup_erase] at found
        cases found
      · rw [AList.lookup_erase_ne same] at found
        exact ⟨⟨earlier, found⟩, same⟩

/-- What is closed out at a legal status is summed up, and nothing stays open. -/
theorem drainAndClose_sound (sound : Sound before) (levelled : Levelled (fun _ => True) before)
    (env : Env) {status : String}
    (legal : (∀ key, before.state.run key = none) ∨ isStopStatus status = true)
    (reason : Option String) :
    let closed := drainAndClose env status reason before
    closed.1 = .ok () ∧ Sound closed.2 ∧ Always Summed closed.2.log ∧
      ∀ key, closed.2.state.run key = none := by
  have listed : ∀ (engine : RunEngine) key, IsOpen engine key → key ∈ engine.state.runs.keys := by
    rintro engine key ⟨slot, held⟩
    exact AList.lookup_isSome.mp (Option.isSome_iff_exists.mpr ⟨slot, held⟩)
  have closing : Triple (Draining (IsOpen before)) (do
      let openKeys ← ask fun engine => engine.state.runs.keys
      Action.each (fun key => closeRunIfOpen env key status reason) openKeys : EngineAction Unit)
      (fun _ => Draining (· ∈ [])) (fun _ _ => False) := by
    refine Triple.ask_bind fun openKeys => ?_
    rcases legal with none | legal
    · rintro engine ⟨draining, rfl⟩
      have empty : engine.state.runs.keys = [] := by
        refine List.eq_nil_iff_forall_not_mem.mpr fun key member => ?_
        obtain ⟨slot, held⟩ := Option.isSome_iff_exists.mp (AList.lookup_isSome.mpr member)
        obtain ⟨earlier, was⟩ := draining.runs key ⟨slot, held⟩
        rw [none key] at was
        cases was
      rw [empty]
      exact ⟨draining.sound, draining.levelled, fun key open_ => empty ▸ listed engine key open_⟩
    · refine (Triple.each (fun rest => Draining (· ∈ rest))
        (closeRunIfOpen_draining env legal reason) openKeys).weaken ?_ (fun _ _ held => held)
        fun _ _ held => held
      rintro engine ⟨draining, rfl⟩
      exact ⟨draining.sound, draining.levelled, listed engine⟩
  have whole : Triple (Draining (IsOpen before)) (drainAndClose env status reason)
      (fun _ => Draining (· ∈ [])) (fun _ _ => False) :=
    Triple.bind (backstopCollect_draining env _) fun _ => closing
  have ended := whole before ⟨sound, levelled, fun _ => id⟩
  dsimp only
  rcases ran : drainAndClose env status reason before with ⟨outcome, reached⟩
  rw [ran] at ended
  cases outcome with
  | error failure => exact ended.elim
  | ok done =>
      refine ⟨rfl, ended.sound, ended.levelled.summed, fun key => ?_⟩
      refine Option.eq_none_iff_forall_not_mem.mpr fun slot held => ?_
      cases ended.runs key ⟨slot, held⟩

end

end Bsrs.Engine
