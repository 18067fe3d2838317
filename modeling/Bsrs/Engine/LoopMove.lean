import Bsrs.Engine.EngineStep

namespace Bsrs.Engine

open Bsrs.Library (exec)
open Bsrs.Library.Action
open Bsrs.EventModel
open Bsrs.Core
open Relation (ReflTransGen)

/-- What a step of the loop carries out in one piece. -/
inductive Deed where
  | handle (msg : Msg)
  | enterPause (interruption : String)
  | restore
  | resume
  | closeOut (status : String) (reason : Option String)

/-- The moves of the engine over one step of a call, each deed in one piece: the loop goes on to
a message only where `going` holds, and does what `takes` allows. -/
inductive LoopMove (going : Prop) (takes : Env → Deed → RunEngine → Prop) :
    RunEngine → RunEngine → Prop
  | handled (engine env msg) (taken : takes env (.handle msg) engine) :
      LoopMove going takes engine (handle env msg engine).2
  | pauseEntered (engine env interruption) (taken : takes env (.enterPause interruption) engine) :
      LoopMove going takes engine (onPauseEnter env interruption engine).2
  | restored (engine env) (taken : takes env .restore engine) :
      LoopMove going takes engine (restoreMonitors env engine).2
  | resumed (engine env) (taken : takes env .resume engine) :
      LoopMove going takes engine (onResume env engine).2
  | closed (engine env status reason) (taken : takes env (.closeOut status reason) engine) :
      LoopMove going takes engine (drainAndClose env status reason engine).2
  | receive (engine : RunEngine) (request) : LoopMove going takes engine (engine.receive request)
  | pump (engine : RunEngine) (update) : LoopMove going takes engine (engine.pump update)
  | answered (engine : RunEngine) : LoopMove going takes engine { engine with lastMsgResult := .none }
  | control (engine : RunEngine) (permit cancelled pendingSuspend) :
      LoopMove going takes engine { engine with
        ctl := { engine.ctl with permit, cancelled, pendingSuspend } }
  | share (engine : RunEngine) (sinks) : LoopMove going takes engine { engine with sinks }
  | mark (engine : RunEngine) (entry) (plain : entry.isMark = true) :
      LoopMove going takes engine (engine.record entry)
  | goOn (engine : RunEngine) (goes : going) : LoopMove going takes engine (engine.record .wentOn)
  | cut (engine : RunEngine) (msg) : LoopMove going takes engine (engine.record (.cut msg))
  | throw {engine thrown next} (caught : engine.throwIntoPlan thrown = some next) :
      LoopMove going takes engine next
  | replayed (engine : RunEngine) (msg rest) (queued : engine.state.replayQueue = msg :: rest) :
      LoopMove going takes engine ((engine.withState fun state =>
        { state with replayQueue := rest }).record (.replayed msg))
  | ended (engine : RunEngine) (idle : engine.state.replayQueue = []) :
      LoopMove going takes engine (engine.record .ended)
  | responding (engine : RunEngine) (msg) (idle : engine.state.replayQueue = []) :
      LoopMove going takes engine (engine.record (.pulled (.respond msg)))
  | pulled (engine : RunEngine) (msg) (idle : engine.state.replayQueue = []) :
      LoopMove going takes engine ((engine.withState fun state =>
        { state with
          msgCache := if state.rewindable ∧ msg.isCacheable then state.msgCache ++ [msg]
            else state.msgCache }).record (.pulled (.bare msg)))

/-- No restriction on what is done. -/
abbrev AnyDeed : Env → Deed → RunEngine → Prop :=
  fun _ _ _ => True

abbrev LoopMoves (going : Prop) (takes : Env → Deed → RunEngine → Prop) :
    RunEngine → RunEngine → Prop :=
  ReflTransGen (LoopMove going takes)

variable {going : Prop} {takes : Env → Deed → RunEngine → Prop}

theorem LoopMove.mono {wider : Prop} {looser : Env → Deed → RunEngine → Prop} (wide : going → wider)
    (loose : ∀ env deed engine, takes env deed engine → looser env deed engine)
    {before after : RunEngine} (move : LoopMove going takes before after) :
    LoopMove wider looser before after := by
  cases move with
  | goOn goes => exact .goOn before (wide goes)
  | handled env msg taken => exact .handled before env msg (loose env _ before taken)
  | pauseEntered env interruption taken =>
      exact .pauseEntered before env interruption (loose env _ before taken)
  | restored env taken => exact .restored before env (loose env _ before taken)
  | resumed env taken => exact .resumed before env (loose env _ before taken)
  | closed env status reason taken =>
      exact .closed before env status reason (loose env _ before taken)
  | receive request => exact .receive before request
  | pump update => exact .pump before update
  | answered => exact .answered before
  | control permit cancelled pendingSuspend =>
      exact .control before permit cancelled pendingSuspend
  | share sinks => exact .share before sinks
  | mark entry plain => exact .mark before entry plain
  | cut msg => exact .cut before msg
  | throw caught => exact .throw caught
  | replayed msg rest queued => exact .replayed before msg rest queued
  | ended idle => exact .ended before idle
  | responding msg idle => exact .responding before msg idle
  | pulled msg idle => exact .pulled before msg idle

/-- Every move is a sequence of elementary ones. -/
theorem engineSteps_of_loopMove {before after : RunEngine}
    (move : LoopMove going takes before after) : EngineSteps going before after := by
  cases move with
  | handled env msg taken => exact engineSteps_of_effects (handle_effects env msg before)
  | pauseEntered env interruption taken => exact onPauseEnter_moves env interruption before
  | restored env taken => exact restoreMonitors_moves env before
  | resumed env taken => exact onResume_moves env before
  | closed env status reason taken => exact drainAndClose_moves env status reason before
  | receive request => exact .single (.receive before request)
  | pump update => exact engineSteps_of_pump before update
  | answered => exact engineSteps_of_result before .none
  | control permit cancelled pendingSuspend =>
      exact .single (.control before permit cancelled pendingSuspend)
  | share sinks => exact .single (.share before sinks)
  | mark entry plain => exact .single (.mark before entry plain)
  | goOn goes => exact .single (.goOn before goes)
  | cut msg => exact .single (.cut before msg)
  | throw caught => exact .single (.throw caught)
  | replayed msg rest queued => exact .single (.replayed before msg rest queued)
  | ended idle => exact .single (.ended before idle)
  | responding msg idle => exact .single (.responding before msg idle)
  | pulled msg idle => exact .single (.pulled before msg idle)

theorem engineSteps_of_loopMoves {before after : RunEngine}
    (moves : LoopMoves going takes before after) : EngineSteps going before after := by
  induction moves with
  | refl => exact .refl
  | tail _ move ih => exact ih.trans (engineSteps_of_loopMove move)

theorem loopMoves_invariant (holds : RunEngine → Prop)
    (preserved : ∀ before after, LoopMove going takes before after → holds before → holds after)
    {before after : RunEngine} (moves : LoopMoves going takes before after)
    (initial : holds before) : holds after := by
  induction moves with
  | refl => exact initial
  | tail _ move ih => exact preserved _ _ move ih

private theorem noted_moves (engine : RunEngine) (notes : List Note) :
    LoopMoves going takes engine
      (notes.foldl (fun engine note => engine.record (.noted note)) engine) := by
  induction notes generalizing engine with
  | nil => exact .refl
  | cons note rest ih => exact (ReflTransGen.single (.mark engine _ rfl)).trans (ih _)

/-- The loop waits to act on the interrupt that woke the gate. -/
def Pc.isTaking : Pc → Bool
  | .restoring | .taking => true
  | _ => false

/-- A step of the run loop outside the pause gate. -/
structure Config.Moves {σ : Type} (going : Prop) (takes : Env → Deed → RunEngine → Prop)
    (before after : Config σ) : Prop where
  engine : LoopMoves going takes before.engine after.engine
  pauseSeen : after.pauseSeen = before.pauseSeen
  thrownSeq : before.thrownSeq ≤ before.engine.interruptSeq →
    after.thrownSeq ≤ after.engine.interruptSeq

/-- The same, past whatever interrupt woke the gate. -/
structure Config.Turns {σ : Type} (going : Prop) (takes : Env → Deed → RunEngine → Prop)
    (before after : Config σ) : Prop extends Config.Moves going takes before after where
  aside : after.pc.isTaking = false

namespace Config

variable {σ : Type}

theorem Moves.trans {first second third : Config σ} (head : Moves going takes first second)
    (tail : Moves going takes second third) : Moves going takes first third :=
  ⟨head.engine.trans tail.engine, tail.pauseSeen.trans head.pauseSeen,
    tail.thrownSeq ∘ head.thrownSeq⟩

/-- Only the engine moves, and the loop counts on from the interrupts it has acted on. -/
theorem Moves.of_engine {before after : Config σ}
    (engine : LoopMoves going takes before.engine after.engine)
    (pauseSeen : after.pauseSeen = before.pauseSeen)
    (thrownSeq : after.thrownSeq = before.thrownSeq) : Moves going takes before after :=
  ⟨engine, pauseSeen, fun bound => thrownSeq ▸ bound.trans
    (interruptSeq_mono (engineSteps_of_loopMoves engine))⟩

theorem Moves.turns {first second third : Config σ} (head : Moves going takes first second)
    (tail : Turns going takes second third) : Turns going takes first third :=
  ⟨head.trans tail.toMoves, tail.aside⟩

private theorem throw_turns (config : Config σ) (thrown : Thrown) :
    Turns going takes config (config.throw thrown) := by
  unfold throw
  split
  · rename_i engine caught
    exact ⟨.of_engine (.single (.throw caught)) rfl rfl, rfl⟩
  · cases thrown with
    | interrupt kind reason =>
        exact ⟨.of_engine (.single (.mark config.engine _ rfl)) rfl rfl, rfl⟩
    | error failure => exact ⟨.of_engine (.single (.mark config.engine _ rfl)) rfl rfl, rfl⟩

private theorem renewed_moves (config : Config σ) : Moves going takes config config.renewed :=
  ⟨.single (.control config.engine _ _ _), rfl, fun _ => le_rfl⟩

/-- `act`, where the case without an interrupt is known. -/
private theorem act_turns (config : Config σ) {otherwise : Config σ → Config σ}
    (moves : config.engine.interruptSeq = config.thrownSeq →
      Turns going takes config (otherwise config)) :
    Turns going takes config (config.act otherwise) := by
  unfold act takeInterrupt
  by_cases same : config.engine.interruptSeq = config.thrownSeq
  · rw [if_pos same]
    exact moves same
  · rw [if_neg same]
    have renewing : Moves going takes config config.renewed := renewed_moves config
    cases config.engine.interruptRequest with
    | halt =>
        have closing : Moves going takes config.renewed (config.renewed.goTo
            (.closing "halt" config.renewed.engine.stopReason none)) := .of_engine .refl rfl rfl
        exact ⟨renewing.trans closing, rfl⟩
    | throw kind => exact renewing.turns (throw_turns config.renewed _)

theorem goOn_turns (config : Config σ) :
    Turns (config.engine.interruptSeq = config.thrownSeq) takes config config.goOn :=
  act_turns config fun same =>
    ⟨.of_engine (.single (.goOn config.engine same)) rfl rfl, rfl⟩

private theorem pulling_moves (plans : PlanStream σ) (config : Config σ) (input : Value) :
    LoopMoves going takes config.engine (config.pullMsg plans input).engine := by
  unfold pullMsg
  split
  · rename_i msg rest queued
    exact .single (.replayed config.engine msg rest queued)
  · rename_i idle
    have shared : LoopMoves going takes config.engine
        { config.engine with sinks := (plans.next config.plan config.engine.sinks input).sinks } :=
      .single (.share config.engine _)
    have noted := shared.trans
      (noted_moves _ (plans.next config.plan config.engine.sinks input).notes)
    have still : ∀ (notes : List Note) (engine : RunEngine), engine.state.replayQueue = [] →
        (notes.foldl (fun engine note => engine.record (.noted note)) engine).state.replayQueue
          = [] := by
      intro notes
      induction notes with
      | nil => exact fun _ empty => empty
      | cons note rest ih => exact fun engine empty => ih _ empty
    have quiet := still (plans.next config.plan config.engine.sinks input).notes
      { config.engine with sinks := (plans.next config.plan config.engine.sinks input).sinks } idle
    dsimp only
    split
    · exact noted.tail (.ended _ quiet)
    · exact noted.tail (.responding _ _ quiet)
    · exact noted.tail (.pulled _ _ quiet)

theorem pullMsg_turns (plans : PlanStream σ) (config : Config σ) (input : Value) :
    Turns going takes config (config.pullMsg plans input) := by
  have kept : (config.pullMsg plans input).pauseSeen = config.pauseSeen ∧
      (config.pullMsg plans input).thrownSeq = config.thrownSeq ∧
      (config.pullMsg plans input).pc.isTaking = false := by
    unfold pullMsg
    split
    · exact ⟨rfl, rfl, rfl⟩
    · dsimp only
      split
      · refine ⟨rfl, rfl, ?_⟩
        dsimp only [goTo]
        split <;> rfl
      · exact ⟨rfl, rfl, rfl⟩
      · exact ⟨rfl, rfl, rfl⟩
  exact ⟨.of_engine (pulling_moves plans config input) kept.1 kept.2.1, kept.2.2⟩

private theorem dropResponder_moves (plans : PlanStream σ) (config : Config σ) (origin : Origin) :
    Moves going takes config (config.dropResponder plans origin) := by
  unfold dropResponder
  split
  · exact .of_engine .refl rfl rfl
  · exact .of_engine .refl rfl rfl

private theorem answer_moves (plans : PlanStream σ) (config : Config σ) (origin : Origin) :
    Moves going takes config (config.answer plans origin) := by
  unfold answer
  split
  · exact .of_engine (.single (.answered config.engine)) rfl rfl
  · exact .of_engine .refl rfl rfl

private theorem marked_moves (config : Config σ) {entry : Entry} (plain : entry.isMark = true) :
    Moves going takes config (config.withEngine (config.engine.record entry)) :=
  .of_engine (.single (.mark config.engine entry plain)) rfl rfl

private theorem settle_turns (plans : PlanStream σ) (config : Config σ) (msg : Msg)
    (origin : Origin) (outcome : Except BsrsError (Option Uid)) :
    Turns going takes config (config.settle plans msg origin outcome) := by
  have reported : ∀ failure, Moves going takes config
      ((config.withEngine (config.engine.record (.handled msg failure))).dropResponder plans origin) :=
    fun failure => (marked_moves config rfl).trans (dropResponder_moves plans _ origin)
  unfold settle
  split
  · rename_i uid
    have counted : Moves going takes config
        ({ config with runUids := config.runUids ++ uid.toList }.withEngine
          (config.engine.record (.handled msg none))) :=
      .of_engine (.single (.mark config.engine _ rfl)) rfl rfl
    have answered := counted.trans (answer_moves plans _ origin)
    exact ⟨⟨answered.engine, answered.pauseSeen, answered.thrownSeq⟩, rfl⟩
  · exact ⟨.of_engine .refl rfl rfl, rfl⟩
  · refine (reported _).turns (act_turns _ fun _ => ?_)
    split
    · exact ⟨.of_engine (.single (.cut _ msg)) rfl rfl, rfl⟩
    · exact throw_turns _ _
  · exact (reported _).turns (throw_turns _ _)

theorem handleMsg_turns (plans : PlanStream σ) (config : Config σ) (env : Env) (msg : Msg)
    (origin : Origin) (taken : takes env (.handle msg) config.engine) :
    Turns going takes config (config.handleMsg plans env msg origin) := by
  unfold handleMsg
  split
  · exact (dropResponder_moves plans config origin).turns (throw_turns _ _)
  · have handled : Moves going takes config (config.withEngine (handle env msg config.engine).2) :=
      .of_engine (.single (.handled config.engine env msg taken)) rfl rfl
    exact handled.turns (settle_turns plans _ msg origin _)

theorem perform_moves (config : Config σ) {body : EngineAction α} {next : α → Pc}
    (moves : LoopMoves going takes config.engine (body config.engine).2) :
    Moves going takes config (config.perform body next) := by
  unfold perform
  dsimp only
  split
  · exact .of_engine moves rfl rfl
  · exact .of_engine moves rfl rfl

theorem perform_pc (config : Config σ) {body : EngineAction α} {next : α → Pc} (among : Pc → Prop)
    (panicked : among .panicked) (each : ∀ value, among (next value)) :
    among (config.perform body next).pc := by
  unfold perform
  dsimp only
  split
  · exact each _
  · exact panicked

end Config

private theorem handleInjected_moves (env : Env) (item : PlanItem) (engine : RunEngine)
    (taken : takes env (.handle item.msg) engine) :
    LoopMoves going takes engine (handleInjected env item engine).2 := by
  have handled : LoopMoves going takes engine (handle env item.msg engine).2 :=
    .single (.handled engine env item.msg taken)
  unfold handleInjected
  rw [attempt_bind]
  generalize (handle env item.msg engine).2 = reached at handled ⊢
  cases (handle env item.msg engine).1 with
  | error failure =>
      cases failure with
      | panicked => exact handled
      | _ => exact handled.tail (.mark _ _ rfl)
  | ok uid =>
      have marked := handled.tail (.mark _ (.injected item.msg none) rfl)
      cases item with
      | bare _ => exact marked
      | respond _ => exact marked.tail (.answered _)

/-- The message a turn of an injected plan handles, if it handles one. -/
def RunEngine.injects (engine : RunEngine) (env : Env) : Option Msg :=
  if engine.isAborting then none
  else (env.injectedItem.map PlanItem.msg).filter fun msg => !msg.isRaise

/-- A turn of an injected plan handles its next item, if it has one. -/
theorem injectedStep_moves (env : Env) (engine : RunEngine)
    (taken : ∀ msg ∈ engine.injects env, takes env (.handle msg) engine) :
    LoopMoves going takes engine (injectedStep env engine).2 := by
  unfold injectedStep
  rw [ask_bind]
  split
  · exact .refl
  · rename_i running
    cases next : env.injectedItem with
    | none => exact .refl
    | some item =>
        dsimp only
        split
        · exact .refl
        · rename_i plain
          refine handleInjected_moves env item engine (taken item.msg ?_)
          simp [RunEngine.injects, running, next, plain]

namespace Config

variable {σ : Type}

theorem enterGate_moves (config : Config σ) :
    LoopMoves going takes config.engine config.enterGate.engine := by
  unfold enterGate ackPause RunControl.ackPause RunControl.arm
  dsimp only [withEngine, goTo]
  split
  · exact .single (.control config.engine _ _ _)
  · exact .single (.control config.engine _ _ _)

theorem leaveGate_moves (config : Config σ) (suspension : Option Suspension) :
    LoopMoves going takes config.engine (config.leaveGate suspension).engine := by
  have moved : LoopMoves going takes config.engine
      (config.ackPause.withEngine
        { config.ackPause.engine with ctl := config.ackPause.engine.ctl.disarm }).engine := by
    unfold ackPause RunControl.ackPause RunControl.disarm
    dsimp only [withEngine]
    split
    · exact .single (.control config.engine _ _ _)
    · exact .single (.control config.engine _ _ _)
  unfold leaveGate
  dsimp only
  split
  · exact moved
  · exact moved

theorem closeOut_turns (config : Config σ) (env : Env) (status : String) (reason : Option String)
    (exception : Option BsrsError) (taken : takes env (.closeOut status reason) config.engine) :
    Turns going takes config (config.closeOut env status reason exception) := by
  have moved : Moves going takes config
      (config.perform (drainAndClose env status reason) fun _ => .top) :=
    perform_moves config (.single (.closed config.engine env status reason taken))
  unfold closeOut
  dsimp only
  split
  · rename_i panicked
    exact ⟨moved, by rw [panicked]; rfl⟩
  · exact ⟨⟨moved.engine, moved.pauseSeen, moved.thrownSeq⟩, rfl⟩

end Config

/-- The message a step handles, if it handles one. -/
def Config.handles {σ : Type} (config : Config σ) : Label → Option (Env × Msg)
  | .loop env =>
      match config.pc with
      | .handling msg _ => some (env, msg)
      | .prePlan _ | .postPlan => env.injectedItem.map fun item => (env, item.msg)
      | _ => none
  | _ => none

/-- What a step carries out, if it is more than a move of the loop's own. -/
def Config.does {σ : Type} (config : Config σ) : Label → Option (Env × Deed)
  | .loop env =>
      match config.pc with
      | .entering suspension => some (env,
          .enterPause ((suspension.map Suspension.justification).getD "pause"))
      | .handling msg _ => some (env, .handle msg)
      | .prePlan _ | .postPlan => (config.engine.injects env).map fun msg => (env, .handle msg)
      | .restoring => some (env, .restore)
      | .resuming _ => some (env, .resume)
      | .closing status reason _ => some (env, .closeOut status reason)
      | _ => none
  | _ => none

/-- What a step carries out, if anything, passes the check. -/
def Config.Does {σ : Type} (check : Env → Deed → RunEngine → Bool) (config : Config σ)
    (label : Label) : Prop :=
  ∀ done ∈ config.does label, check done.1 done.2 config.engine = true

instance {σ : Type} (check : Env → Deed → RunEngine → Bool) (config : Config σ) (label : Label) :
    Decidable (Config.Does check config label) :=
  inferInstanceAs (Decidable (∀ done ∈ config.does label, _))

theorem Config.handles_of_does {σ : Type} {config : Config σ} {label : Label} {env : Env}
    {msg : Msg} (does : config.does label = some (env, .handle msg)) :
    config.handles label = some (env, msg) := by
  have injected : ∀ other, (config.engine.injects other).map (fun msg => (other, Deed.handle msg)) =
      some (env, .handle msg) →
      (other.injectedItem.map fun item => (other, item.msg)) = some (env, msg) := by
    intro other injects
    obtain ⟨handled, found, same⟩ := Option.map_eq_some_iff.mp injects
    cases same
    unfold RunEngine.injects at found
    split at found
    · cases found
    · obtain ⟨item, next, rfl⟩ := Option.map_eq_some_iff.mp (Option.mem_filter_iff.mp found).1
      simp [next]
  cases label with
  | request request => cases does
  | update update => cases does
  | loop other =>
      cases place : config.pc with
      | handling handled origin =>
          simp only [Config.does, place] at does
          cases does
          simp only [Config.handles, place]
      | prePlan suspension =>
          simp only [Config.does, place] at does
          simp only [Config.handles, place]
          exact injected other does
      | postPlan =>
          simp only [Config.does, place] at does
          simp only [Config.handles, place]
          exact injected other does
      | _ => simp [Config.does, place] at does

/-- Every step of a call is a sequence of moves, which carry out the step's own deed. -/
theorem step_moves {plans : PlanStream σ} {config next : Config σ} {label : Label}
    (stepped : step plans config label = some next)
    (taken : ∀ env deed, config.does label = some (env, deed) → takes env deed config.engine) :
    LoopMoves True takes config.engine next.engine := by
  cases label with
  | request request =>
      cases stepped
      exact .single (.receive config.engine request)
  | update update =>
      cases stepped
      exact .single (.pump config.engine update)
  | loop env =>
      have going : LoopMoves True takes config.engine config.goOn.engine :=
        ReflTransGen.mono (fun _ _ move => move.mono (fun _ => trivial) fun _ _ _ => id) _ _
          (Config.goOn_turns config).engine
      have injecting : ∀ {driven : Config σ}, driven.engine = config.engine →
          (∀ msg ∈ config.engine.injects env, takes env (.handle msg) config.engine) →
          LoopMoves True takes config.engine (injectedStep env driven.engine).2 := by
        intro driven same allowed
        rw [same]
        exact injectedStep_moves env config.engine allowed
      simp only [step, loopStep] at stepped
      split at stepped
      · cases stepped
        split
        · exact Config.enterGate_moves config
        · exact going
      · rename_i suspension entering
        cases stepped
        have allowed := taken env _ (by simp only [Config.does, entering]; rfl)
        exact (Config.perform_moves config (.single
          (.pauseEntered config.engine env _ allowed))).engine
      · rename_i driving
        cases stepped
        refine (Config.perform_moves config (injecting rfl fun msg injects => ?_)).engine
        exact taken env _ (by simp [Config.does, driving, Option.mem_def.mp injects])
      · cases stepped
        split
        · exact .refl
        · exact Config.leaveGate_moves config _
      · split at stepped
        · cases stepped
          exact Config.leaveGate_moves config _
        · cases stepped
      · rename_i restoring
        cases stepped
        have allowed := taken env _ (by simp only [Config.does, restoring]; rfl)
        exact (Config.perform_moves config (.single (.restored config.engine env allowed))).engine
      · cases stepped
        exact going
      · rename_i resuming
        cases stepped
        have allowed := taken env _ (by simp only [Config.does, resuming]; rfl)
        exact (Config.perform_moves config (.single (.resumed config.engine env allowed))).engine
      · rename_i driving
        cases stepped
        refine (Config.perform_moves config (injecting rfl fun msg injects => ?_)).engine
        exact taken env _ (by simp [Config.does, driving, Option.mem_def.mp injects])
      · cases stepped
        exact (Config.pullMsg_turns plans config _).engine
      · rename_i msg origin handling
        cases stepped
        have allowed := taken env _ (by simp only [Config.does, handling]; rfl)
        exact (Config.handleMsg_turns plans config env msg origin allowed).engine
      · rename_i closing
        cases stepped
        have allowed := taken env _ (by simp only [Config.does, closing]; rfl)
        exact (Config.closeOut_turns config env _ _ _ allowed).engine
      all_goals cases stepped

/-- An engine property that every elementary move preserves holds all along a call. -/
theorem run_engine_invariant {plans : PlanStream σ} (holds : RunEngine → Prop)
    (preserved : ∀ before after, EngineStep True before after → holds before → holds after)
    {labels : List Label} {config reached : Config σ}
    (trace : run plans config labels = some reached) (initial : holds config.engine) :
    holds reached.engine := by
  refine Bsrs.Library.exec_invariant (fun config => holds config.engine) ?_ trace initial
  intro before label after stepped held
  have moves : LoopMoves True AnyDeed before.engine after.engine :=
    step_moves stepped fun _ _ _ => trivial
  exact engineSteps_invariant holds preserved (engineSteps_of_loopMoves moves) held

end Bsrs.Engine
