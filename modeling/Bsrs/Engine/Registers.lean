import Bsrs.Engine.LoopMove

namespace Bsrs.Engine

open Bsrs.Library (Grows)
open Bsrs.Library.Action
open Bsrs.EventModel
open Bsrs.Core

/-! ## The registers no message writes -/

/-- The registers that only requests from outside and the run loop's own turns write. -/
structure Registers where
  isAborting : Bool
  isHalting : Bool
  isStopping : Bool
  interruptSeq : Nat
  interruptReason : String
  isRunning : Bool
  runGen : Nat
  holds : Nat
  pendingSuspend : Option Suspension
  deriving DecidableEq

def RunEngine.registers (engine : RunEngine) : Registers where
  isAborting := engine.isAborting
  isHalting := engine.isHalting
  isStopping := engine.isStopping
  interruptSeq := engine.interruptSeq
  interruptReason := engine.interruptReason
  isRunning := engine.ctl.isRunning
  runGen := engine.ctl.runGen
  holds := engine.ctl.holds
  pendingSuspend := engine.ctl.pendingSuspend

/-- The requests messages make. -/
def Request.isOwn : Request → Bool
  | .pause | .deferPause | .resume => true
  | _ => false

/-- Entries that handlers and the engine's own work leave. -/
def Entry.isWork : Entry → Bool
  | .asked request => request.isOwn
  | .restarted _ _ | .resumed _ => true
  | entry => entry.isRoutine

theorem Entry.isWork_of_isRoutine (entry : Entry) (routine : entry.isRoutine = true) :
    entry.isWork = true := by
  cases entry <;> simp_all [Entry.isWork, Entry.isRoutine]

/-- What handlers and the engine's own work do to the engine: none of these registers changes. -/
structure Works (before after : RunEngine) : Prop where
  registers : after.registers = before.registers
  log : Grows Entry.isWork before.log after.log

instance : Std.Refl Works :=
  ⟨fun engine => ⟨rfl, .refl engine.log⟩⟩

instance : IsTrans RunEngine Works :=
  ⟨fun _ _ _ head tail => ⟨tail.registers.trans head.registers, head.log.trans tail.log⟩⟩

theorem Works.of_same {before after : RunEngine} (registers : after.registers = before.registers)
    (log : after.log = before.log) : Works before after :=
  ⟨registers, by rw [log]; exact .refl before.log⟩

theorem receive_works (engine : RunEngine) {request : Request} (own : request.isOwn = true) :
    Works engine (engine.receive request) := by
  cases request with
  | pause | deferPause | resume => exact ⟨rfl, .cons rfl engine.log⟩
  | _ => cases own

theorem isOwn_of_requests {msg : Msg} {request : Request} (requests : Requests msg request) :
    request.isOwn = true := by
  cases msg with
  | pause defer => cases defer <;> cases requests <;> rfl
  | resume =>
      cases requests
      rfl
  | _ => cases requests

private theorem coreStep_works {msg : Msg} {before after : RunEngine}
    (handled : CoreStep msg before after) : Works before after := by
  cases handled with
  | quiet quiet =>
      have ctl : after.ctl = before.ctl := congrArg Core.ctl quiet.core
      refine ⟨?_, quiet.log.mono Entry.isWork_of_isRoutine⟩
      unfold RunEngine.registers
      rw [ctl, show after.isAborting = before.isAborting from congrArg Core.isAborting quiet.core,
        show after.isHalting = before.isHalting from congrArg Core.isHalting quiet.core,
        show after.isStopping = before.isStopping from congrArg Core.isStopping quiet.core,
        show after.interruptSeq = before.interruptSeq from congrArg Core.interruptSeq quiet.core,
        show after.interruptReason = before.interruptReason from
          congrArg Core.interruptReason quiet.core]
  | restart on restarts => exact ⟨rfl, .cons rfl before.log⟩
  | clear clears => exact ⟨rfl, .cons rfl before.log⟩
  | due checkpoint => exact ⟨rfl, .cons rfl before.log⟩
  | request request requests => exact receive_works before (isOwn_of_requests requests)
  | push sink pushes => exact .of_same rfl rfl
  | pop pops => exact .of_same rfl rfl

/-- A message's handler works, and so does what is made of handlers' steps. -/
theorem works_of_effects {scope : Scope} {msg : Msg} {body : EngineAction α}
    (effects : Keeps (Effects scope msg) body) :
    Keeps Works body := by
  intro engine
  have moves := effects engine
  generalize (body engine).2 = reached at moves ⊢
  induction moves with
  | refl => exact refl_of Works engine
  | tail _ effect ih => exact trans_of Works ih (coreStep_works (coreStep_of_effect effect))

theorem handle_works (env : Env) (msg : Msg) : Keeps Works (handle env msg) :=
  works_of_effects (handle_effects env msg)

theorem onPauseEnter_works (env : Env) (interruption : String) :
    Keeps Works (onPauseEnter env interruption) :=
  works_of_effects (onPauseEnter_effects describes_save env interruption)

theorem restoreMonitors_works (env : Env) : Keeps Works (restoreMonitors env) :=
  works_of_effects (restoreMonitors_effects describes_save env)

theorem onResume_works (env : Env) : Keeps Works (onResume env) := by
  intro engine
  have armed : Works engine engine.armReplay := ⟨rfl, .cons rfl engine.log⟩
  exact trans_of Works armed
    (works_of_effects (afterRearm_effects describes_save env) engine.armReplay)

theorem drainAndClose_works (env : Env) (status : String) (reason : Option String) :
    Keeps Works (drainAndClose env status reason) :=
  Keeps.bind (works_of_effects (backstopCollect_effects describes_save env)) fun _ =>
    Keeps.bind (Keeps.ask _) fun _ => Keeps.each fun _ _ =>
      works_of_effects (closeOpenRun_effects env _ _ _)

theorem pump_works (engine : RunEngine) (update : Update) : Works engine (engine.pump update) := by
  have quiet := pump_quiet engine update
  have still : CoreStep .null engine (engine.pump update) := .quiet quiet
  exact coreStep_works still

/-! ## What the run loop does to them -/

/-- Entries the run loop and the handlers leave, requests from outside set apart. -/
def Entry.isInside : Entry → Bool
  | .asked request => request.isOwn
  | _ => true

theorem Entry.isInside_of_isWork (entry : Entry) (work : entry.isWork = true) :
    entry.isInside = true := by
  cases entry <;> first | rfl | exact work

/-- What a turn of the run loop does to the engine, the pause gate's entry apart. -/
structure Proceeds (before after : RunEngine) : Prop where
  registers : after.registers = before.registers
  log : Grows Entry.isInside before.log after.log

theorem Proceeds.refl (engine : RunEngine) : Proceeds engine engine :=
  ⟨rfl, .refl engine.log⟩

theorem Proceeds.trans {first second third : RunEngine} (head : Proceeds first second)
    (tail : Proceeds second third) : Proceeds first third :=
  ⟨tail.registers.trans head.registers, head.log.trans tail.log⟩

instance : Std.Refl Proceeds :=
  ⟨Proceeds.refl⟩

instance : IsTrans RunEngine Proceeds :=
  ⟨fun _ _ _ => Proceeds.trans⟩

theorem Proceeds.record (engine : RunEngine) {entry : Entry} (inside : entry.isInside = true) :
    Proceeds engine (engine.record entry) :=
  ⟨rfl, .cons inside engine.log⟩

theorem Works.proceeds {before after : RunEngine} (works : Works before after) :
    Proceeds before after :=
  ⟨works.registers, works.log.mono Entry.isInside_of_isWork⟩

theorem proceeds_of_works {body : EngineAction α} (works : Keeps Works body) :
    Keeps Proceeds body :=
  works.mono fun _ _ => Works.proceeds

/-- An injected plan's turn does nothing once an interrupt was requested; else it handles its item
and reports what became of it. -/
theorem injectedStep_cases (env : Env) (engine : RunEngine) :
    (injectedStep env engine).2 = engine ∨
      engine.isAborting = false ∧ ∃ reached, Works engine reached ∧
        (injectedStep env engine).2.registers = reached.registers ∧
        ((injectedStep env engine).2.log = reached.log ∨
          ∃ msg failure, (injectedStep env engine).2.log = .injected msg failure :: reached.log) := by
  unfold injectedStep
  rw [ask_bind]
  cases aborting : engine.isAborting with
  | true => exact .inl rfl
  | false =>
      cases next : env.injectedItem with
      | none => exact .inl rfl
      | some item =>
          dsimp only
          split
          · rename_i impossible
            cases impossible
          · split
            · exact .inl rfl
            · refine .inr ⟨rfl, (handle env item.msg engine).2, handle_works env item.msg engine, ?_⟩
              unfold handleInjected
              rw [attempt_bind]
              generalize (handle env item.msg engine).2 = reached
              cases (handle env item.msg engine).1 with
              | error failure =>
                  cases failure with
                  | panicked => exact ⟨rfl, .inl rfl⟩
                  | _ => exact ⟨rfl, .inr ⟨_, _, rfl⟩⟩
              | ok uid => cases item <;> exact ⟨rfl, .inr ⟨_, _, rfl⟩⟩

theorem injectedStep_proceeds (env : Env) : Keeps Proceeds (injectedStep env) := by
  intro engine
  rcases injectedStep_cases env engine with same | ⟨-, reached, works, registers, log⟩
  · rw [same]
    exact .refl engine
  · have worked : Proceeds engine reached := works.proceeds
    refine worked.trans ⟨registers, ?_⟩
    rcases log with same | ⟨msg, failure, reported⟩
    · rw [same]
      exact .refl _
    · rw [reported]
      exact .cons rfl _

theorem throwIntoPlan_proceeds {engine next : RunEngine} {thrown : Thrown}
    (caught : engine.throwIntoPlan thrown = some next) : Proceeds engine next := by
  unfold RunEngine.throwIntoPlan at caught
  split at caught
  · cases caught
  · cases caught
    exact ⟨rfl, .cons rfl engine.log⟩

namespace Config

variable {σ : Type}

theorem throw_proceeds (config : Config σ) (thrown : Thrown) :
    Proceeds config.engine (config.throw thrown).engine := by
  unfold throw
  split
  · rename_i engine caught
    exact throwIntoPlan_proceeds caught
  · exact .record config.engine rfl

/-- Acting on an interrupt changes nothing of what was requested. -/
theorem act_proceeds (config : Config σ) {otherwise : Config σ → Config σ}
    (proceeds : Proceeds config.engine (otherwise config).engine) :
    Proceeds config.engine (config.act otherwise).engine := by
  have renewed : Proceeds config.engine config.renewed.engine := ⟨rfl, .refl _⟩
  unfold act takeInterrupt
  by_cases same : config.engine.interruptSeq = config.thrownSeq
  · rw [if_pos same]
    exact proceeds
  · rw [if_neg same]
    cases config.engine.interruptRequest with
    | halt => exact renewed
    | throw kind => exact renewed.trans (throw_proceeds config.renewed _)

theorem goOn_proceeds (config : Config σ) : Proceeds config.engine config.goOn.engine :=
  act_proceeds config (.record config.engine rfl)

private theorem ackPause_proceeds (config : Config σ) :
    Proceeds config.engine config.ackPause.engine := by
  unfold ackPause RunControl.ackPause
  dsimp only
  split
  · exact ⟨rfl, .refl _⟩
  · exact .refl _

/-- Entering the gate takes the pending suspension. -/
theorem enterGate_eq (config : Config σ) :
    config.enterGate.engine.registers =
        { config.engine.registers with pendingSuspend := none } ∧
      config.enterGate.engine.log = config.engine.log ∧
      config.enterGate.pc = .entering config.engine.ctl.pendingSuspend := by
  unfold enterGate ackPause RunControl.ackPause
  dsimp only
  split
  · exact ⟨rfl, rfl, rfl⟩
  · exact ⟨rfl, rfl, rfl⟩

theorem leaveGate_proceeds (config : Config σ) (suspension : Option Suspension) :
    Proceeds config.engine (config.leaveGate suspension).engine := by
  have acked := ackPause_proceeds config
  unfold leaveGate
  dsimp only
  split
  · exact ⟨acked.registers, acked.log⟩
  · exact ⟨acked.registers, acked.log⟩

private theorem noted_proceeds (notes : List Note) (engine : RunEngine) :
    Proceeds engine (notes.foldl (fun engine note => engine.record (.noted note)) engine) := by
  induction notes generalizing engine with
  | nil => exact .refl engine
  | cons note rest ih => exact (Proceeds.record engine rfl).trans (ih _)

theorem pullMsg_proceeds (plans : PlanStream σ) (config : Config σ) (input : Value) :
    Proceeds config.engine (config.pullMsg plans input).engine := by
  unfold pullMsg
  split
  · exact ⟨rfl, .cons rfl _⟩
  · have shared : Proceeds config.engine
        { config.engine with sinks := (plans.next config.plan config.engine.sinks input).sinks } :=
      ⟨rfl, .refl _⟩
    have noted := shared.trans (noted_proceeds (plans.next config.plan config.engine.sinks input).notes _)
    dsimp only
    split
    · exact noted.trans (.record _ rfl)
    · exact noted.trans (.record _ rfl)
    · exact noted.trans ⟨rfl, .cons rfl _⟩

private theorem dropResponder_engine (plans : PlanStream σ) (config : Config σ) (origin : Origin) :
    (config.dropResponder plans origin).engine = config.engine := by
  unfold dropResponder
  split <;> rfl

theorem settle_proceeds (plans : PlanStream σ) (config : Config σ) (msg : Msg) (origin : Origin)
    (outcome : Except BsrsError (Option Uid)) :
    Proceeds config.engine (config.settle plans msg origin outcome).engine := by
  have dropped : ∀ failure, Proceeds config.engine ((config.withEngine
      (config.engine.record (.handled msg failure))).dropResponder plans origin).engine := by
    intro failure
    rw [dropResponder_engine]
    exact .record config.engine rfl
  unfold settle
  split
  · unfold answer
    split
    · exact ⟨rfl, .cons rfl _⟩
    · exact .record config.engine rfl
  · exact .refl _
  · refine (dropped _).trans (act_proceeds _ ?_)
    split
    · exact .record _ rfl
    · exact throw_proceeds _ _
  · exact (dropped _).trans (throw_proceeds _ _)

theorem handleMsg_proceeds (plans : PlanStream σ) (config : Config σ) (env : Env) (msg : Msg)
    (origin : Origin) : Proceeds config.engine (config.handleMsg plans env msg origin).engine := by
  unfold handleMsg
  split
  · have thrown := throw_proceeds (config.dropResponder plans origin)
    rw [dropResponder_engine] at thrown
    exact thrown _
  · dsimp only
    exact (handle_works env _ config.engine).proceeds.trans
      (settle_proceeds plans (config.withEngine (handle env _ config.engine).2) _ origin _)

theorem perform_engine (config : Config σ) (body : EngineAction α) (next : α → Pc) :
    (config.perform body next).engine = (body config.engine).2 := by
  unfold perform
  dsimp only
  split <;> rfl

theorem perform_proceeds (config : Config σ) {body : EngineAction α} (next : α → Pc)
    (proceeds : Keeps Proceeds body) :
    Proceeds config.engine (config.perform body next).engine := by
  rw [perform_engine]
  exact proceeds config.engine

theorem closeOut_engine (config : Config σ) (env : Env) (status : String) (reason : Option String)
    (exception : Option BsrsError) :
    (config.closeOut env status reason exception).engine =
      (drainAndClose env status reason config.engine).2 := by
  unfold closeOut
  dsimp only
  split
  · exact perform_engine _ _ _
  · exact perform_engine _ _ _

end Config

/-- A step of the run loop, the gate's entry apart, leaves the registers alone and makes no
request from outside. -/
theorem loopStep_proceeds {σ : Type} {plans : PlanStream σ} {config next : Config σ} {env : Env}
    (stepped : loopStep plans config env = some next) :
    config.pc = .top ∧ next = config.enterGate ∨ Proceeds config.engine next.engine := by
  unfold loopStep at stepped
  split at stepped
  · rename_i top
    cases stepped
    split
    · exact .inl ⟨top, rfl⟩
    · exact .inr (Config.goOn_proceeds config)
  · cases stepped
    exact .inr (Config.perform_proceeds config _ (proceeds_of_works (onPauseEnter_works env _)))
  · cases stepped
    exact .inr (Config.perform_proceeds config _ (injectedStep_proceeds env))
  · cases stepped
    split
    · exact .inr (.refl _)
    · exact .inr (Config.leaveGate_proceeds config _)
  · split at stepped
    · cases stepped
      exact .inr (Config.leaveGate_proceeds config _)
    · cases stepped
  · cases stepped
    exact .inr (Config.perform_proceeds config _ (proceeds_of_works (restoreMonitors_works env)))
  · cases stepped
    exact .inr (Config.goOn_proceeds config)
  · cases stepped
    exact .inr (Config.perform_proceeds config _ (proceeds_of_works (onResume_works env)))
  · cases stepped
    exact .inr (Config.perform_proceeds config _ (injectedStep_proceeds env))
  · cases stepped
    exact .inr (Config.pullMsg_proceeds plans config _)
  · cases stepped
    exact .inr (Config.handleMsg_proceeds plans config env _ _)
  · cases stepped
    refine .inr ?_
    rw [Config.closeOut_engine]
    exact (drainAndClose_works env _ _ config.engine).proceeds
  all_goals cases stepped

end Bsrs.Engine
