import Bsrs.Engine.Relay
import Bsrs.Engine.Enclosing

namespace Bsrs.Engine

open Bsrs.Library (Mark Delivery Carry exec Table Action Grows Always Throughout)
open Bsrs.Library.Action
open Bsrs.EventModel
open Bsrs.Core

/-! ## The trace of the runs -/

/-- What an entry of the log shows of a run, given the entries before it. -/
def Entry.mark (rest : List Entry) : Entry → Option (Mark Uid)
  | .broadcast (.start doc) => some (.opens doc.uid)
  | .broadcast (.stop doc) => some (.closes doc.runStart)
  | .broadcast (.descriptor doc) => some (.within doc.runStart)
  | .closed _ stop => some (.settles stop.runStart)
  | .emitted key _ _ _ | .drained key _ _ => (startOf key rest).map .within
  | _ => none

/-- The documents of the runs as the engine composes and broadcasts them, newest first. -/
def marks : List Entry → List (Mark Uid)
  | [] => []
  | entry :: rest => (entry.mark rest).toList ++ marks rest

theorem opens_mem_marks {start : Uid} {log : List Entry} :
    .opens start ∈ marks log ↔ startedIn start log = true := by
  induction log with
  | nil => simp [marks, startedIn]
  | cons entry rest ih =>
      cases entry with
      | broadcast doc =>
          cases doc with
          | start doc =>
              have reads : startedIn start (.broadcast (.start doc) :: rest) =
                  (decide (doc.uid = start) || startedIn start rest) := rfl
              rw [reads, Bool.or_eq_true, decide_eq_true_eq, ← ih, eq_comm]
              simp [marks, Entry.mark]
          | _ => exact Iff.trans (by simp [marks, Entry.mark]) ih
      | _ => exact Iff.trans (by simp [marks, Entry.mark]) ih

theorem closes_mem_marks {start : Uid} {log : List Entry} :
    .closes start ∈ marks log ↔ stoppedIn start log = true := by
  induction log with
  | nil => simp [marks, stoppedIn]
  | cons entry rest ih =>
      cases entry with
      | broadcast doc =>
          cases doc with
          | stop doc =>
              have reads : stoppedIn start (.broadcast (.stop doc) :: rest) =
                  (decide (doc.runStart = start) || stoppedIn start rest) := rfl
              rw [reads, Bool.or_eq_true, decide_eq_true_eq, ← ih, eq_comm]
              simp [marks, Entry.mark]
          | _ => exact Iff.trans (by simp [marks, Entry.mark]) ih
      | _ => exact Iff.trans (by simp [marks, Entry.mark]) ih

/-- Enveloped runs make a nested trace. -/
theorem nested_marks {log : List Entry} (always : Always Enveloped log) :
    Always Mark.Nested (marks log) := by
  induction log with
  | nil => trivial
  | cons entry rest ih =>
      have later := ih always.2
      have running : ∀ {start}, Running start rest →
          .opens start ∈ marks rest ∧ .closes start ∉ marks rest := by
        rintro start ⟨started, unstopped⟩
        refine ⟨opens_mem_marks.mpr started, fun closed => ?_⟩
        rw [closes_mem_marks.mp closed] at unstopped
        cases unstopped
      have sent : ∀ {key}, (∃ start ∈ startOf key rest, Running start rest) →
          Always Mark.Nested (((startOf key rest).map .within).toList ++ marks rest) := by
        rintro key ⟨start, opened, still⟩
        rw [Option.mem_def.mp opened]
        exact ⟨running still, later⟩
      have known := always.1
      cases entry with
      | broadcast doc =>
          cases doc with
          | start doc =>
              obtain ⟨unstarted, unstopped⟩ := known
              refine ⟨⟨fun opened => ?_, fun closed => ?_⟩, later⟩
              · rw [opens_mem_marks.mp opened] at unstarted
                cases unstarted
              · rw [closes_mem_marks.mp closed] at unstopped
                cases unstopped
          | stop doc => exact ⟨running known, later⟩
          | descriptor doc => exact ⟨running known, later⟩
          | _ => exact later
      | emitted key stream source event => exact sent known
      | drained key stream doc => exact sent known
      | closed key stop => exact ⟨trivial, later⟩
      | _ => exact later

/-! ## What closes runs -/

/-- A run is closed at a legal status, with its counters level. -/
def Seals (_ : Env) (deed : Deed) (engine : RunEngine) : Prop :=
  match deed with
  | .handle msg => ∀ status reason, (route msg).2 = .closeRun status reason →
      engine.state.run (route msg).1 = none ∨
        isStopStatus status = true ∧ engine.isLevel (route msg).1 = true
  | .closeOut status _ =>
      ((∀ key, engine.state.run key = none) ∨ isStopStatus status = true) ∧
        ∀ key, engine.isLevel key = true
  | _ => True

/-- What the envelope of the runs rests on. -/
structure Orderly (engine : RunEngine) : Prop where
  sound : Sound engine
  peaks : ∀ key stream, PeakInvariant key stream engine
  summed : Always Summed engine.log

/-- Entries by which the loop reports, outside any run. -/
def Entry.isAloof : Entry → Bool
  | .asked _ | .pulled _ | .ended | .replayed _ | .handled _ _ | .injected _ _ | .cut _ | .wentOn
  | .thrown _ _ | .escaped _ | .noted _ => true
  | _ => false

section

variable {before after : RunEngine}

private theorem handle_summed (orderly : Orderly before) (env : Env) (msg : Msg)
    (seals : Seals env (.handle msg) before) : Always Summed (handle env msg before).2.log := by
  by_cases closes : ∃ status reason, (route msg).2 = .closeRun status reason
  · obtain ⟨status, reason, closing⟩ := closes
    have same : (handle env msg before).2 =
        (handleCloseRun env (route msg).1 status reason before).2 := by
      unfold handle
      rw [closing]
      exact bind_pure_snd _ _ _
    rw [same]
    unfold handleCloseRun
    rw [ask_bind]
    split
    · rename_i isOpen
      rcases seals status reason closing with closed | ⟨-, level⟩
      · rw [EngineState.runOpen, closed] at isOpen
        cases isOpen
      · have levelled : Levelled (· = (route msg).1) before := by
          refine ⟨orderly.summed, ?_⟩
          rintro key rfl stream
          exact level_of_isLevel (orderly.peaks _ stream) level
        have closed := closeRunIfOpen_levelled env status reason levelled
          fun _ => levelled.level _ rfl
        rcases ran : closeRunIfOpen env (route msg).1 status reason before with ⟨outcome, reached⟩
        rw [ran] at closed
        rw [bind_apply, ran]
        cases outcome with
        | ok done => exact closed.summed
        | error failure => exact closed.summed
    · exact orderly.summed
  · have levelled : Levelled (fun _ => False) before := ⟨orderly.summed, fun _ => False.elim⟩
    have stays : ∀ status reason, (route msg).2 ≠ .closeRun status reason :=
      fun status reason same => closes ⟨status, reason, same⟩
    exact (levelled_of_effects stays (handle_effects env msg before) levelled).summed

private theorem gate_summed {scope : Scope} (summed : Always Summed before.log)
    (effects : Effects scope .save before after) : Always Summed after.log := by
  have levelled : Levelled (fun _ => False) before := ⟨summed, fun _ => False.elim⟩
  have saves : ∀ status reason, Msg.save ≠ .closeRun status reason := fun _ _ => nofun
  exact (levelled_of_effects saves effects levelled).summed

/-- The loop's own moves do nothing to the runs. -/
private theorem orderly_aloof (orderly : Orderly before) (runs : after.state.runs = before.state.runs)
    (minted : after.nextUid = before.nextUid)
    (log : Grows Entry.isAloof before.log after.log) :
    Sound after ∧ Always Summed after.log := by
  have mute : Grows Entry.isMute before.log after.log :=
    log.mono fun entry aloof => by cases entry <;> first | rfl | cases aloof
  have opensNone : Grows Entry.opensNone before.log after.log :=
    log.mono fun entry aloof => by cases entry <;> first | rfl | cases aloof
  obtain ⟨added, whole, aloof⟩ := log
  constructor
  · refine orderly.sound.aired ⟨fun key => ?_, minted.ge, added, whole, fun entry member => ?_⟩
      (fun goals _ _ _ held => held.of_mute (.of_same runs opensNone) minted.ge mute)
    · unfold EngineState.run
      rw [runs]
    · have known := aloof entry member
      cases entry <;> first | rfl | cases known
  · refine (Always.grows (fun entry rest known => ?_) ⟨added, whole, aloof⟩).mpr orderly.summed
    cases entry <;> trivial

theorem orderly_of_loopMove (move : LoopMove True Seals before after) (orderly : Orderly before) :
    Orderly after := by
  have peaks : ∀ key stream, PeakInvariant key stream after := fun key stream =>
    engineSteps_invariant (PeakInvariant key stream)
      (fun _ _ step => peakInvariant_step (streamStep_of_engineStep step))
      (engineSteps_of_loopMove move) (orderly.peaks key stream)
  suffices both : Sound after ∧ Always Summed after.log from ⟨both.1, peaks, both.2⟩
  have describes : Describes .save := trivial
  cases move with
  | handled env msg taken =>
      exact ⟨handle_sound orderly.sound env msg fun status reason closes =>
        (taken status reason closes).imp_right And.left, handle_summed orderly env msg taken⟩
  | pauseEntered env interruption taken =>
      exact ⟨onPauseEnter_stable env interruption before orderly.sound,
        gate_summed orderly.summed (onPauseEnter_effects describes env interruption before)⟩
  | restored env taken =>
      exact ⟨restoreMonitors_stable env before orderly.sound,
        gate_summed orderly.summed (restoreMonitors_effects describes env before)⟩
  | resumed env taken =>
      have armed : Always Summed before.armReplay.log := ⟨trivial, orderly.summed⟩
      exact ⟨onResume_stable env before orderly.sound,
        gate_summed armed (afterRearm_effects describes env before.armReplay)⟩
  | closed env status reason taken =>
      have levelled : Levelled (fun _ => True) before :=
        ⟨orderly.summed, fun key _ stream =>
          level_of_isLevel (orderly.peaks key stream) (taken.2 key)⟩
      have closed := drainAndClose_sound orderly.sound levelled env taken.1 reason
      exact ⟨closed.2.1, closed.2.2.1⟩
  | pump update =>
      have effects : Effects .gate .save before (before.pump update) := .single (.pump before update)
      exact ⟨pump_sound orderly.sound update, gate_summed orderly.summed effects⟩
  | receive request =>
      cases request <;> exact orderly_aloof orderly rfl rfl (.cons rfl _)
  | mark entry plain =>
      refine orderly_aloof orderly rfl rfl (.cons ?_ _)
      cases entry <;> first | rfl | cases plain
  | throw caught =>
      unfold RunEngine.throwIntoPlan at caught
      split at caught
      · cases caught
      · cases caught
        exact orderly_aloof orderly rfl rfl (.cons rfl _)
  | answered | control | share => exact orderly_aloof orderly rfl rfl (.refl _)
  | _ => exact orderly_aloof orderly rfl rfl (.cons rfl _)

end

/-! ## Where the loop ends -/

/-- The call has returned. -/
def Pc.isDone : Pc → Bool
  | .done _ => true
  | _ => false

/-- Where the loop may go on its own: on, or to close out at a legal status. -/
def Pc.isReady : Pc → Bool
  | .closing status _ _ => isStopStatus status
  | .done _ => false
  | _ => true

namespace Config

variable {σ : Type}

/-- The loop closes out at a legal status or with no run open, and leaves none open. -/
def Ready (config : Config σ) : Prop :=
  match config.pc with
  | .closing status _ _ =>
      (∀ key, config.engine.state.run key = none) ∨ isStopStatus status = true
  | .done _ => ∀ key, config.engine.state.run key = none
  | _ => True

theorem ready_of_isReady {config : Config σ} (isReady : config.pc.isReady = true) :
    config.Ready := by
  unfold Ready
  split
  · rename_i status reason exception closing
    rw [closing] at isReady
    exact .inr isReady
  · rename_i result done
    rw [done] at isReady
    cases isReady
  · trivial

/-- What opens no run leaves the loop ready where it stands. -/
theorem Ready.kept {config next : Config σ} (ready : config.Ready) (pc : next.pc = config.pc)
    (runs : ∀ key, config.engine.state.run key = none → next.engine.state.run key = none) :
    next.Ready := by
  unfold Ready at ready ⊢
  rw [pc]
  split at ready
  · exact ready.imp_left fun closed key => runs key (closed key)
  · exact fun key => runs key (ready key)
  · trivial

private theorem throw_isReady (config : Config σ) (thrown : Thrown) :
    (config.throw thrown).pc.isReady = true := by
  have success : isStopStatus "success" = true := by decide +kernel
  have abort : isStopStatus "abort" = true := by decide +kernel
  have fail : isStopStatus "fail" = true := by decide +kernel
  unfold throw
  split
  · rfl
  · cases thrown with
    | error failure => exact fail
    | interrupt kind reason =>
        cases kind with
        | stop => exact success
        | abort => exact abort

private theorem act_isReady (config : Config σ) {otherwise : Config σ → Config σ}
    (ready : (otherwise config).pc.isReady = true) : (config.act otherwise).pc.isReady = true := by
  have halt : isStopStatus "halt" = true := by decide +kernel
  unfold act takeInterrupt
  by_cases same : config.engine.interruptSeq = config.thrownSeq
  · rw [if_pos same]
    exact ready
  · rw [if_neg same]
    cases config.engine.interruptRequest with
    | halt => exact halt
    | throw kind => exact throw_isReady _ _

private theorem goOn_isReady (config : Config σ) : config.goOn.pc.isReady = true :=
  act_isReady config rfl

private theorem leaveGate_isReady (config : Config σ) (suspension : Option Suspension) :
    (config.leaveGate suspension).pc.isReady = true := by
  unfold leaveGate
  dsimp only
  split
  · rfl
  · rfl

private theorem perform_isReady (config : Config σ) {body : EngineAction α} {next : α → Pc}
    (each : ∀ value, (next value).isReady = true) : (config.perform body next).pc.isReady = true :=
  config.perform_pc (fun pc => pc.isReady = true) rfl each

private theorem settle_isReady (plans : PlanStream σ) (config : Config σ) (msg : Msg)
    (origin : Origin) (outcome : Except BsrsError (Option Uid)) :
    (config.settle plans msg origin outcome).pc.isReady = true := by
  unfold settle
  split
  · rfl
  · rfl
  · refine act_isReady _ ?_
    split
    · rfl
    · exact throw_isReady _ _
  · exact throw_isReady _ _

private theorem handleMsg_isReady (plans : PlanStream σ) (config : Config σ) (env : Env) (msg : Msg)
    (origin : Origin) : (config.handleMsg plans env msg origin).pc.isReady = true := by
  unfold handleMsg
  split
  · exact throw_isReady _ _
  · exact settle_isReady plans _ _ origin _

/-- With nothing open there is no run. -/
private theorem run_of_noneOpen {state : EngineState} (closed : state.anyRunOpen = false)
    (key : RunKey) : state.run key = none := by
  have empty : state.runs.entries = [] := by
    simpa [EngineState.anyRunOpen] using closed
  simp [EngineState.run, AList.lookup, empty]

private theorem pullMsg_ready (plans : PlanStream σ) (config : Config σ) (input : Value) :
    (config.pullMsg plans input).Ready := by
  have success : isStopStatus "success" = true := by decide +kernel
  unfold pullMsg
  split
  · exact ready_of_isReady rfl
  · dsimp only
    split
    · generalize List.foldl (fun engine note => RunEngine.record engine (.noted note))
        { config.engine with sinks := (plans.next config.plan config.engine.sinks input).sinks }
        (plans.next config.plan config.engine.sinks input).notes = engine
      by_cases closed : engine.state.anyRunOpen = false ∧ config.runUids = []
      · rw [if_pos closed]
        exact .inl fun key => run_of_noneOpen closed.1 key
      · rw [if_neg closed]
        exact ready_of_isReady success
    · exact ready_of_isReady rfl
    · exact ready_of_isReady rfl

end Config

private theorem receive_state (engine : RunEngine) (request : Request) :
    (engine.receive request).state = engine.state := by
  cases request <;> rfl

theorem ready_of_step {plans : PlanStream σ} {config next : Config σ} {label : Label}
    (stepped : step plans config label = some next) (ready : config.Ready)
    (closes : ∀ env status reason, config.does label = some (env, .closeOut status reason) →
      ∀ key, (drainAndClose env status reason config.engine).2.state.run key = none) :
    next.Ready := by
  cases label with
  | request request =>
      cases stepped
      refine ready.kept rfl fun key closed => ?_
      show (config.engine.receive request).state.run key = none
      rw [receive_state]
      exact closed
  | update update =>
      cases stepped
      refine ready.kept rfl fun key closed => ?_
      refine Option.eq_none_iff_forall_not_mem.mpr fun slot held => ?_
      obtain ⟨earlier, found, -⟩ := (pump_kept config.engine update).slots key slot held
      rw [closed] at found
      cases found
  | loop env =>
      simp only [step, loopStep] at stepped
      split at stepped
      · cases stepped
        split
        · exact Config.ready_of_isReady rfl
        · exact Config.ready_of_isReady (Config.goOn_isReady config)
      · cases stepped
        refine Config.ready_of_isReady (Config.perform_isReady config fun _ => ?_)
        split <;> rfl
      · cases stepped
        refine Config.ready_of_isReady (Config.perform_isReady config fun more => ?_)
        split <;> rfl
      · cases stepped
        split
        · exact Config.ready_of_isReady rfl
        · exact Config.ready_of_isReady (Config.leaveGate_isReady config _)
      · split at stepped
        · cases stepped
          exact Config.ready_of_isReady (Config.leaveGate_isReady config _)
        · cases stepped
      · cases stepped
        exact Config.ready_of_isReady (Config.perform_isReady config fun _ => rfl)
      · cases stepped
        exact Config.ready_of_isReady (Config.goOn_isReady config)
      · cases stepped
        refine Config.ready_of_isReady (Config.perform_isReady config fun _ => ?_)
        split <;> rfl
      · cases stepped
        refine Config.ready_of_isReady (Config.perform_isReady config fun more => ?_)
        split <;> rfl
      · cases stepped
        exact Config.pullMsg_ready plans config _
      · cases stepped
        exact Config.ready_of_isReady (Config.handleMsg_isReady plans config env _ _)
      · rename_i status reason exception closing
        cases stepped
        have closed := closes env status reason (by simp only [Config.does, closing])
        have engine : (config.perform (drainAndClose env status reason) fun _ => .top).engine =
            (drainAndClose env status reason config.engine).2 := by
          unfold Config.perform
          dsimp only
          split <;> rfl
        unfold Config.closeOut
        dsimp only
        split
        · rename_i panicked
          exact Config.ready_of_isReady (by rw [panicked]; rfl)
        · intro key
          exact (congrArg (EngineState.run ·.state key) engine).trans (closed key)
      all_goals cases stepped

/-! ## Whole calls -/

/-- The runs the deed closes are closed at a legal status, and once the replay of every rewind has
brought their counters back to where they stood. -/
def Deed.seals (_ : Env) (deed : Deed) (engine : RunEngine) : Bool :=
  match deed with
  | .handle msg =>
      match route msg with
      | (key, .closeRun status _) =>
          !engine.state.runOpen key || isStopStatus status && engine.isLevel key
      | _ => true
  | .closeOut _ _ => engine.state.runs.keys.all engine.isLevel
  | _ => true

/-- The outcome is no panic. -/
def returns : Except BsrsError α → Bool
  | .error .panicked => false
  | _ => true

/-- Whatever closes runs, a `CloseRun` or the end of the call, does not panic. -/
def Deed.returns (env : Env) (deed : Deed) (engine : RunEngine) : Bool :=
  match deed with
  | .handle msg =>
      match route msg with
      | (key, .closeRun status reason) =>
          Engine.returns (handleCloseRun env key status reason engine).1
      | _ => true
  | .closeOut status reason => Engine.returns (drainAndClose env status reason engine).1
  | _ => true

/-- The runs of a call in progress. -/
structure EnvelopeInvariant (config : Config σ) : Prop where
  orderly : Orderly config.engine
  ready : config.Ready

section

variable {plans : PlanStream σ} {config next : Config σ} {label : Label}

private theorem closing_of_does {env : Env} {status : String} {reason : Option String}
    (does : config.does label = some (env, .closeOut status reason)) :
    ∃ exception, config.pc = .closing status reason exception := by
  cases label with
  | request request => cases does
  | update update => cases does
  | loop other =>
      cases place : config.pc with
      | closing held cause exception =>
          simp only [Config.does, place, Option.some.injEq, Prod.mk.injEq, Deed.closeOut.injEq] at does
          obtain ⟨-, rfl, rfl⟩ := does
          exact ⟨exception, rfl⟩
      | _ => simp [Config.does, place] at does

private theorem seals_of_does (invariant : EnvelopeInvariant config)
    (sealed : Config.Does Deed.seals config label) {env : Env} {deed : Deed}
    (does : config.does label = some (env, deed)) : Seals env deed config.engine := by
  have checked : deed.seals env config.engine = true := sealed (env, deed) does
  cases deed with
  | handle msg =>
      intro status reason closes
      simp only [Deed.seals] at checked
      rcases routed : route msg with ⟨key, inner⟩
      rw [routed] at checked closes
      dsimp only at checked closes
      subst closes
      rw [Bool.or_eq_true, Bool.and_eq_true] at checked
      refine checked.imp_left fun closed => ?_
      simpa [EngineState.runOpen] using closed
  | closeOut status reason =>
      obtain ⟨exception, closing⟩ := closing_of_does does
      have ready := invariant.ready
      unfold Config.Ready at ready
      rw [closing] at ready
      refine ⟨ready, fun key => ?_⟩
      cases found : config.engine.state.run key with
      | none => simp [RunEngine.isLevel, EngineState.bundler, found]
      | some slot =>
          have listed : key ∈ config.engine.state.runs.keys :=
            AList.lookup_isSome.mp (Option.isSome_iff_exists.mpr ⟨slot, found⟩)
          exact List.all_eq_true.mp checked key listed
  | enterPause | restore | resume => trivial

private theorem closed_of_seals (orderly : Orderly config.engine) {env : Env} {status : String}
    {reason : Option String} (seals : Seals env (.closeOut status reason) config.engine) :
    let closed := drainAndClose env status reason config.engine
    closed.1 = .ok () ∧ ∀ key, closed.2.state.run key = none := by
  have levelled : Levelled (fun _ => True) config.engine :=
    ⟨orderly.summed, fun key _ stream =>
      level_of_isLevel (orderly.peaks key stream) (seals.2 key)⟩
  have closed := drainAndClose_sound orderly.sound levelled env seals.1 reason
  exact ⟨closed.1, closed.2.2.2⟩

theorem envelopeInvariant_step (stepped : step plans config label = some next)
    (sealed : Config.Does Deed.seals config label) (invariant : EnvelopeInvariant config) :
    EnvelopeInvariant next := by
  have moves : LoopMoves True Seals config.engine next.engine :=
    step_moves stepped fun env deed does => seals_of_does invariant sealed does
  refine ⟨loopMoves_invariant Orderly (fun _ _ => orderly_of_loopMove) moves invariant.orderly, ?_⟩
  refine ready_of_step stepped invariant.ready fun env status reason does => ?_
  exact (closed_of_seals invariant.orderly (seals_of_does invariant sealed does)).2

/-- A run that is closed at a legal status is closed without a panic. -/
private theorem handleCloseRun_returns {env : Env} {key : RunKey} {status : String}
    {reason : Option String} {engine : RunEngine}
    (legal : engine.state.run key = none ∨ isStopStatus status = true) :
    returns (handleCloseRun env key status reason engine).1 = true := by
  unfold handleCloseRun
  rw [ask_bind]
  split
  · rename_i isOpen
    have closing := closeRunIfOpen_closing env key status reason engine
    rcases ran : closeRunIfOpen env key status reason engine with ⟨outcome, reached⟩
    rw [ran] at closing
    dsimp only at closing
    cases closing with
    | absent closed =>
        rw [bind_ok ran]
        rfl
    | lost slot open_ illegal =>
        rcases legal with closed | legal
        · rw [closed] at open_
          cases open_
        · rw [illegal] at legal
          cases legal
    | stopped slot exit cause stop open_ fits stops =>
        rw [bind_ok ran]
        rfl
  · rfl

private theorem returns_of_invariant (sealed : Config.Does Deed.seals config label)
    (invariant : EnvelopeInvariant config) : Config.Does Deed.returns config label := by
  rintro ⟨env, deed⟩ does
  have seals := seals_of_does invariant sealed does
  cases deed with
  | handle msg =>
      simp only [Deed.returns]
      rcases routed : route msg with ⟨key, inner⟩
      cases inner with
      | closeRun status reason =>
          have legal := seals status reason (by rw [routed])
          rw [routed] at legal
          exact handleCloseRun_returns (legal.imp_right And.left)
      | _ => rfl
  | closeOut status reason =>
      have closed := (closed_of_seals invariant.orderly seals).1
      simp only [Deed.returns, closed]
      rfl
  | enterPause | restore | resume => rfl

end

private theorem start_envelopeInvariant (idle : engine.Idle) (plan : σ) :
    EnvelopeInvariant (Config.start engine plan) := by
  have none : ∀ key slot, slot ∉ (Config.start engine plan).engine.state.run key := by
    intro key slot held
    simp [Config.start, RunEngine.begin, EngineState.run, idle.runs] at held
  have wrapped : Wrapped Option.none (Config.start engine plan).engine := by
    refine ⟨(by intros; contradiction), fun key slot held => absurd held (none key slot),
      fun key _ slot held => absurd held (none key slot), (by intros; contradiction), (by intros; contradiction), trivial⟩
  refine ⟨⟨⟨wrapped, start_catalogued idle rfl⟩, fun key stream gauge found => ?_, trivial⟩, trivial⟩
  obtain ⟨bundler, held, -⟩ := Option.map_eq_some_iff.mp found
  obtain ⟨slot, open_, -⟩ := run_of_bundler held
  exact absurd open_ (none key slot)

/-- A monitored run, paused and resumed between two updates. -/
private def monitoredLabels : List Label :=
  loops signalling 8 ++ signalUpdated :: pausedWhileParked ++ signalUpdated :: loops signalling 4

/-- The pump of a monitored run passes on one Event and loses the next. -/
private def lossy : List (Carry Uid (Mark Uid)) :=
  [.sends (.opens 0), .sends (.within 0), .takes 0, .makes 0 (.within 0), .passes 0 (.within 0),
    .takes 0, .makes 0 (.within 0), .loses 0 (.within 0), .sends (.settles 0), .sends (.closes 0)]

private def closingAs (status : String) : List PlanItem :=
  [.bare (.openRun ⟨none, ∅, none⟩), .bare (.closeRun status none)]

/-- The pump passes its Event on when the RunStop is out. -/
private def belated : List (Carry Uid (Mark Uid)) :=
  [.sends (.opens 0), .sends (.within 0), .takes 0, .makes 0 (.within 0), .sends (.settles 0),
    .sends (.closes 0), .passes 0 (.within 0)]

end Bsrs.Engine
