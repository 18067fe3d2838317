import Bsrs.Engine.PauseInvariant
import Bsrs.Engine.Registers

namespace Bsrs.Engine

open Bsrs.Library (Grows Throughout exec)
open Bsrs.Library.Action
open Bsrs.EventModel
open Bsrs.Core

/-! ## The state an engine reports -/

/-- `EngineRunState`. -/
inductive EngineRunState where
  | idle
  | running
  | paused
  | halting
  | aborting
  deriving Repr, DecidableEq

/-- `RunEngine::state`. -/
def RunEngine.runState (engine : RunEngine) : EngineRunState :=
  if engine.isHalting then .halting
  else if engine.isAborting then .aborting
  else if engine.ctl.isPaused then .paused
  else if engine.ctl.isRunning then .running
  else .idle

/-- `env_close` of the queue server, on its environment and its worker slot. -/
def envClose (environment : Option RunEngine) (queueActive : Bool) : Except String Unit :=
  match environment with
  | none => .error "no environment"
  | some engine =>
      if engine.runState ≠ .idle ∨ queueActive = true then
        .error ("cannot close the environment while a plan or the queue is running " ++
          "(use environment_destroy to force)")
      else
        .ok ()

theorem runState_idle_iff (engine : RunEngine) :
    engine.runState = .idle ↔ engine.isHalting = false ∧ engine.isAborting = false ∧
      engine.ctl.isPaused = false ∧ engine.ctl.isRunning = false := by
  unfold RunEngine.runState
  cases engine.isHalting <;> cases engine.isAborting <;> cases engine.ctl.isPaused <;>
    cases engine.ctl.isRunning <;> simp

theorem envClose_ok_iff (engine : RunEngine) (queueActive : Bool) :
    envClose (some engine) queueActive = .ok () ↔
      engine.runState = .idle ∧ queueActive = false := by
  unfold envClose
  dsimp only
  by_cases refused : engine.runState ≠ .idle ∨ queueActive = true
  · rw [if_pos refused]
    constructor
    · exact nofun
    · rintro ⟨idle, free⟩
      rcases refused with busy | active
      · exact absurd idle busy
      · exact absurd (active.symm.trans free) (by simp)
  · rw [if_neg refused]
    simpa [not_or] using refused

/-! ## One engine over many calls -/

/-- An engine between two calls of `run_async`, or with one in progress. -/
inductive Session (σ : Type) where
  | resting (engine : RunEngine)
  | calling (config : Config σ)

def Session.engine {σ : Type} : Session σ → RunEngine
  | .resting engine => engine
  | .calling config => config.engine

def Session.isCalling {σ : Type} : Session σ → Bool
  | .resting _ => false
  | .calling _ => true

/-- What can happen to the engine: a call, a step of the call, its end, its end by the loop timeout,
its loss (a panic unwinds it, or its future is dropped), or a request between calls. -/
inductive SessionLabel (σ : Type) where
  | call (plan : σ)
  | step (label : Label)
  | finish (env : Env)
  | expire (env : Env)
  | lost
  | request (request : Request)

def RunEngine.withCtl (engine : RunEngine) (update : RunControl → RunControl) : RunEngine :=
  { engine with ctl := update engine.ctl }

/-- `run_async` claims the engine, and is rejected without side effects while it is claimed. -/
def sessionStep {σ : Type} (plans : PlanStream σ) : Session σ → SessionLabel σ → Option (Session σ)
  | .resting engine, .call plan =>
      some (if engine.ctl.isRunning then .resting engine else .calling (.start engine plan))
  | .calling config, .call _ => some (.calling config)
  | .calling config, .step label => (step plans config label).map .calling
  | .calling config, .finish env =>
      match config.pc with
      | .done _ => some (.resting (finish env config.engine).2)
      | _ => none
  | .calling config, .expire env =>
      match config.pc with
      | .done _ | .panicked => none
      | _ => some (.resting (finish env (config.engine.withCtl fun ctl =>
          { ctl with cancelled := true })).2)
  | .calling config, .lost => some (.resting config.engine)
  | .resting engine, .request request => some (.resting (engine.receive request))
  | _, _ => none

def Entry.isInterrupt : Entry → Bool
  | .asked .stop | .asked (.abort _) | .asked (.halt _) => true
  | _ => false

/-- A stop, an abort or a halt was requested. -/
def interrupted (log : List Entry) : Bool :=
  log.any Entry.isInterrupt

/-- Requests that ask nothing of an engine at rest. -/
def Request.isHarmless : Request → Bool
  | .deferPause | .resume | .release _ => true
  | _ => false

/-- A call ends with no interrupt requested in it and no pause in force, and is never lost; between
calls only resumes, releases and deferred pauses are requested. -/
def Settles {σ : Type} : Session σ → SessionLabel σ → Prop
  | .calling config, .finish _ | .calling config, .expire _ =>
      interrupted config.engine.log = false ∧
        (ledger config.engine.ctl.runGen config.engine.log).waiting = false
  | .calling _, .lost => False
  | .resting _, .request request => request.isHarmless = true
  | _, _ => True

instance {σ : Type} : ∀ (session : Session σ) (label : SessionLabel σ),
    Decidable (Settles session label)
  | .calling config, .finish _ | .calling config, .expire _ => inferInstanceAs (Decidable
      (interrupted config.engine.log = false ∧
        (ledger config.engine.ctl.runGen config.engine.log).waiting = false))
  | .calling _, .lost => isFalse id
  | .resting _, .request request => inferInstanceAs (Decidable (request.isHarmless = true))
  | .resting _, .call _ | .resting _, .step _ | .resting _, .finish _ | .resting _, .expire _
  | .resting _, .lost
  | .calling _, .call _ | .calling _, .step _ | .calling _, .request _ => isTrue trivial

/-- The engine tells whether a call is in progress, and the queue server closes its environment
exactly when neither a call nor its worker is; what is requested of an engine at rest is not
observed, neither in its state nor in the next call. -/
structure StateTold {σ : Type} (session : Session σ) : Prop where
  told : session.engine.runState = .idle ↔ session.isCalling = false
  closes : ∀ queueActive, envClose (some session.engine) queueActive = .ok () ↔
    session.isCalling = false ∧ queueActive = false
  unobserved : session.isCalling = false → ∀ request : Request, request.isHarmless = true →
    (session.engine.receive request).runState = session.engine.runState ∧
      (session.engine.receive request).begin = session.engine.begin

/-! ## The invariant -/

/-- A call keeps the engine claimed, and its interrupts and pauses are as the log tells. -/
structure CallInvariant {σ : Type} (config : Config σ) : Prop where
  running : config.engine.ctl.isRunning = true
  aborting : config.engine.isAborting = interrupted config.engine.log
  halting : config.engine.isHalting = true → config.engine.isAborting = true
  synced : config.engine.ctl.ledger = ledger config.engine.ctl.runGen config.engine.log

/-- An engine at rest carries no flag. -/
def SessionInvariant {σ : Type} : Session σ → Prop
  | .resting engine => engine.runState = .idle
  | .calling config => CallInvariant config

section

variable {σ : Type} {plans : PlanStream σ} {config next : Config σ}

private theorem interrupted_inside (entry : Entry) (rest : List Entry)
    (inside : entry.isInside = true) : interrupted (entry :: rest) = interrupted rest := by
  cases entry with
  | asked request => cases request <;> first | rfl | cases inside
  | _ => rfl

theorem callInvariant_start {engine : RunEngine} (plan : σ) :
    CallInvariant (Config.start engine plan) :=
  ⟨rfl, rfl, nofun, rfl⟩

private theorem CallInvariant.proceeds (invariant : CallInvariant config)
    (synced : next.engine.ctl.ledger = ledger next.engine.ctl.runGen next.engine.log)
    (isRunning : next.engine.ctl.isRunning = config.engine.ctl.isRunning)
    (isAborting : next.engine.isAborting = config.engine.isAborting)
    (isHalting : next.engine.isHalting = config.engine.isHalting)
    (log : Grows Entry.isInside config.engine.log next.engine.log) : CallInvariant next where
  running := isRunning.trans invariant.running
  aborting := by
    rw [isAborting, log.reading interrupted_inside]
    exact invariant.aborting
  halting := by
    rw [isHalting, isAborting]
    exact invariant.halting
  synced := synced

/-- The control plane is what the requests amount to. -/
theorem ledger_step {before after : RunEngine} (move : EngineStep True before after)
    (synced : before.ctl.ledger = ledger before.ctl.runGen before.log) :
    after.ctl.ledger = ledger after.ctl.runGen after.log := by
  rcases move.still with still | rfl
  · have heeds := engineSteps_heed (.single still)
    rw [heeds.runGen]
    exact heeds.synced synced
  · exact synced

theorem ledger_of_step {config next : Config σ} (stepped : step plans config label = some next)
    (synced : config.engine.ctl.ledger = ledger config.engine.ctl.runGen config.engine.log) :
    next.engine.ctl.ledger = ledger next.engine.ctl.runGen next.engine.log := by
  have moves : LoopMoves True AnyDeed config.engine next.engine :=
    step_moves stepped fun _ _ _ => trivial
  exact engineSteps_invariant (fun engine => engine.ctl.ledger = ledger engine.ctl.runGen engine.log)
    (fun _ _ => ledger_step) (engineSteps_of_loopMoves moves) synced

theorem callInvariant_step {label : Label} (stepped : step plans config label = some next)
    (invariant : CallInvariant config) : CallInvariant next := by
  have synced := ledger_of_step stepped invariant.synced
  cases label with
  | request request =>
      cases stepped
      have running := invariant.running
      have aborting := invariant.aborting
      have halting := invariant.halting
      cases request with
      | release gen =>
          refine ⟨?_, aborting, halting, synced⟩
          change (config.engine.ctl.release gen).isRunning = true
          rw [← running]
          unfold RunControl.release
          split
          · rfl
          · dsimp only
            split <;> rfl
      | stop | abort _ | halt _ => exact ⟨running, rfl, fun _ => rfl, synced⟩
      | _ => exact ⟨running, aborting, halting, synced⟩
  | update update =>
      cases stepped
      have works := pump_works config.engine update
      exact invariant.proceeds synced (congrArg Registers.isRunning works.registers)
        (congrArg Registers.isAborting works.registers)
        (congrArg Registers.isHalting works.registers) works.proceeds.log
  | loop env =>
      rcases loopStep_proceeds stepped with ⟨-, rfl⟩ | proceeds
      · obtain ⟨registers, log, -⟩ := config.enterGate_eq
        exact invariant.proceeds synced (congrArg Registers.isRunning registers)
          (congrArg Registers.isAborting registers) (congrArg Registers.isHalting registers)
          (by rw [log]; exact .refl _)
      · exact invariant.proceeds synced (congrArg Registers.isRunning proceeds.registers)
          (congrArg Registers.isAborting proceeds.registers)
          (congrArg Registers.isHalting proceeds.registers) proceeds.log

private theorem quiet_null {before after : RunEngine} (move : CoreStep .null before after) :
    Quiet before after := by
  cases move with
  | quiet quiet => exact quiet
  | restart on restarts => cases restarts
  | clear clears => cases clears
  | due checkpoint => cases checkpoint
  | request request requests => cases requests
  | push sink pushes => cases pushes
  | pop pops => cases pops

/-- The end of a call gives the engine free and leaves its flags. -/
theorem finish_core (env : Env) (engine : RunEngine) :
    (finish env engine).2.core = engine.cleared.core := by
  have quiet : ∀ (request : Obj → Call) (objs : List Obj), Keeps (Effects .all .null)
      (each (fun obj => notify env (request obj)) objs) :=
    fun request objs => Keeps.each fun obj _ => notify_effects env (request obj)
  have devices : Keeps (Effects .all .null) (do
      each (fun obj => notify env (.stopOnPause obj)) engine.state.movableObjsTouched.values
      each (fun obj => notify env (.stopOnPause obj)) engine.state.flyableObjsTouched.values
      each (fun obj => notify env (.unstage obj)) engine.state.staged) :=
    Keeps.bind (quiet _ _) fun _ => Keeps.bind (quiet _ _) fun _ => quiet _ _
  exact (quiet_of_effects (devices engine.cleared) fun _ _ => quiet_null).core

theorem receive_harmless {engine : RunEngine} {request : Request}
    (harmless : request.isHarmless = true) (idle : engine.runState = .idle) :
    (engine.receive request).runState = .idle ∧
      (engine.receive request).begin = engine.begin := by
  obtain ⟨halting, aborting, paused, running⟩ := (runState_idle_iff engine).mp idle
  rw [runState_idle_iff]
  cases request with
  | deferPause => exact ⟨⟨halting, aborting, paused, running⟩, rfl⟩
  | resume => exact ⟨⟨halting, aborting, rfl, running⟩, rfl⟩
  | release gen =>
      unfold RunEngine.receive RunEngine.release RunControl.release
      dsimp only
      split
      · exact ⟨⟨halting, aborting, paused, running⟩, rfl⟩
      · split
        · exact ⟨⟨halting, aborting, rfl, running⟩, rfl⟩
        · exact ⟨⟨halting, aborting, paused, running⟩, rfl⟩
  | _ => cases harmless

/-- A call that settled leaves the engine idle. -/
private theorem finish_rests (env : Env) (engine : RunEngine) (call : CallInvariant config)
    (settled : interrupted config.engine.log = false ∧
      (ledger config.engine.ctl.runGen config.engine.log).waiting = false)
    (isHalting : engine.isHalting = config.engine.isHalting)
    (isAborting : engine.isAborting = config.engine.isAborting)
    (isPaused : engine.ctl.isPaused = config.engine.ctl.isPaused) :
    (finish env engine).2.runState = .idle := by
  have core := finish_core env engine
  have ctl : (finish env engine).2.ctl = { engine.ctl with isRunning := false } :=
    congrArg Core.ctl core
  have aborting : config.engine.isAborting = false := call.aborting.trans settled.1
  refine (runState_idle_iff _).mpr ⟨?_, ?_, ?_, ?_⟩
  · refine (congrArg Core.isHalting core).trans (isHalting.trans ?_)
    cases halting : config.engine.isHalting with
    | false => rfl
    | true => exact absurd ((call.halting halting).symm.trans aborting) (by simp)
  · exact (congrArg Core.isAborting core).trans (isAborting.trans aborting)
  · rw [ctl]
    exact isPaused.trans ((congrArg Ledger.waiting call.synced).trans settled.2)
  · rw [ctl]

theorem sessionInvariant_step {session after : Session σ} {label : SessionLabel σ}
    (stepped : sessionStep plans session label = some after) (settles : Settles session label)
    (invariant : SessionInvariant session) : SessionInvariant after := by
  cases session with
  | resting engine =>
      cases label with
      | call plan =>
          cases stepped
          split
          · exact invariant
          · exact callInvariant_start plan
      | request request =>
          cases stepped
          exact (receive_harmless settles invariant).1
      | _ => cases stepped
  | calling config =>
      cases label with
      | call plan =>
          cases stepped
          exact invariant
      | step label =>
          obtain ⟨next, moved, rfl⟩ := Option.map_eq_some_iff.mp stepped
          exact callInvariant_step moved invariant
      | finish env =>
          simp only [sessionStep] at stepped
          split at stepped
          · cases stepped
            exact finish_rests env config.engine invariant settles rfl rfl rfl
          · cases stepped
      | expire env =>
          simp only [sessionStep] at stepped
          split at stepped
          · cases stepped
          · cases stepped
          · cases stepped
            exact finish_rests env _ invariant settles rfl rfl rfl
      | lost => exact settles.elim
      | request request => cases stepped

theorem SessionInvariant.told {session : Session σ} (invariant : SessionInvariant session) :
    StateTold session := by
  have told : session.engine.runState = .idle ↔ session.isCalling = false := by
    cases session with
    | resting engine => exact ⟨fun _ => rfl, fun _ => invariant⟩
    | calling config =>
        have call : CallInvariant config := invariant
        refine ⟨fun idle => ?_, nofun⟩
        have running := ((runState_idle_iff _).mp idle).2.2.2
        exact absurd (call.running.symm.trans running) (by simp)
  refine ⟨told, fun queueActive => ?_, fun resting request harmless => ?_⟩
  · rw [envClose_ok_iff, told]
  · have idle := told.mpr resting
    obtain ⟨state, next⟩ := receive_harmless harmless idle
    exact ⟨state.trans idle.symm, next⟩

end

/-- While calls settle, an engine that starts out idle tells whether one is in progress. -/
theorem stateTold_of_settles {plans : PlanStream σ} (idle : engine.runState = .idle)
    (trace : exec (sessionStep plans) (.resting engine) labels = some reached)
    (settles : Throughout (sessionStep plans) Settles (.resting engine) labels) :
    StateTold reached := by
  have held : SessionInvariant reached :=
    Bsrs.Library.exec_invariant_throughout SessionInvariant
      (fun _ _ _ stepped settles held => sessionInvariant_step stepped settles held) trace settles idle
  exact held.told

/-- A call of a plan without items, with `requests` made at its start, driven to its end. -/
private def shortCall (requests : List Request) (turns : Nat) :
    List (SessionLabel (List PlanItem)) :=
  .call [] :: (requests.map Label.request ++ loops .calm turns).map .step ++ [.finish .calm]

/-- Two calls, the second paused and resumed before its first message. -/
private def twoCalls : List (SessionLabel (List PlanItem)) :=
  shortCall [] 3 ++ .request .resume :: shortCall [.pause, .resume] 7

theorem stateTold_twoCalls :
    ∃ reached ∈ exec (sessionStep planItems) (.resting .new) twoCalls, StateTold reached := by
  have settles : Throughout (sessionStep planItems) Settles (.resting .new) twoCalls := by
    decide +kernel
  have arrives : ∃ reached, exec (sessionStep planItems) (.resting .new) twoCalls = some reached :=
    Option.isSome_iff_exists.mp (by decide +kernel)
  obtain ⟨reached, trace⟩ := arrives
  exact ⟨reached, trace, stateTold_of_settles rfl trace settles⟩

/-- After a call that was aborted the engine at rest reports itself as aborting, and its environment
cannot be closed. -/
theorem stateTold_fails_abortedCall :
    ∃ reached ∈ exec (sessionStep planItems) (.resting .new) (shortCall [.abort ""] 2),
      reached.isCalling = false ∧ reached.engine.runState = .aborting ∧ ¬ StateTold reached := by
  have ends : ∃ reached ∈ exec (sessionStep planItems) (.resting .new) (shortCall [.abort ""] 2),
      reached.isCalling = false ∧ reached.engine.runState = .aborting := by
    decide +kernel
  obtain ⟨reached, trace, resting, aborting⟩ := ends
  refine ⟨reached, trace, resting, aborting, fun held => ?_⟩
  have idle := held.told.mpr resting
  rw [aborting] at idle
  cases idle

end Bsrs.Engine
