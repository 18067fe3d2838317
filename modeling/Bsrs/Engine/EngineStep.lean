import Bsrs.Engine.Quiet

namespace Bsrs.Engine

open Bsrs.Library (exec)
open Bsrs.Library.Action
open Bsrs.EventModel
open Bsrs.Core
open Relation (ReflTransGen)

/-- Entries by which the run loop itself reports, other than the ones with a rule of their own. -/
def Entry.isMark : Entry → Bool
  | .handled _ _ | .injected _ _ | .escaped _ | .noted _ => true
  | _ => false

/-- The elementary moves of the engine over a whole call: handlers, requests, and what the run
loop does between them. The loop goes on to a message only where `going` holds. -/
inductive EngineStep (going : Prop) : RunEngine → RunEngine → Prop
  | handled {scope msg before after} (effect : Effect scope msg before after) :
      EngineStep going before after
  | receive (engine : RunEngine) (request) : EngineStep going engine (engine.receive request)
  | control (engine : RunEngine) (permit cancelled pendingSuspend) :
      EngineStep going engine { engine with
        ctl := { engine.ctl with permit, cancelled, pendingSuspend } }
  | share (engine : RunEngine) (sinks) : EngineStep going engine { engine with sinks }
  | mark (engine : RunEngine) (entry) (plain : entry.isMark = true) :
      EngineStep going engine (engine.record entry)
  | goOn (engine : RunEngine) (goes : going) : EngineStep going engine (engine.record .wentOn)
  | cut (engine : RunEngine) (msg) : EngineStep going engine (engine.record (.cut msg))
  | arm (engine : RunEngine) : EngineStep going engine engine.armReplay
  | throw {engine thrown next} (caught : engine.throwIntoPlan thrown = some next) :
      EngineStep going engine next
  | replayed (engine : RunEngine) (msg rest) (queued : engine.state.replayQueue = msg :: rest) :
      EngineStep going engine ((engine.withState fun state =>
        { state with replayQueue := rest }).record (.replayed msg))
  | ended (engine : RunEngine) (idle : engine.state.replayQueue = []) :
      EngineStep going engine (engine.record .ended)
  | responding (engine : RunEngine) (msg) (idle : engine.state.replayQueue = []) :
      EngineStep going engine (engine.record (.pulled (.respond msg)))
  | pulled (engine : RunEngine) (msg) (idle : engine.state.replayQueue = []) :
      EngineStep going engine ((engine.withState fun state =>
        { state with
          msgCache := if state.rewindable ∧ msg.isCacheable then state.msgCache ++ [msg]
            else state.msgCache }).record (.pulled (.bare msg)))

/-- A sequence of moves. -/
abbrev EngineSteps (going : Prop) : RunEngine → RunEngine → Prop :=
  ReflTransGen (EngineStep going)

variable {going : Prop}

/-- Every move but going on is one that never goes on. -/
theorem EngineStep.still {before after : RunEngine} (move : EngineStep going before after) :
    EngineStep False before after ∨ after = before.record .wentOn := by
  cases move with
  | handled effect => exact .inl (.handled effect)
  | receive _ request => exact .inl (.receive before request)
  | control _ permit cancelled pendingSuspend =>
      exact .inl (.control before permit cancelled pendingSuspend)
  | share _ sinks => exact .inl (.share before sinks)
  | mark _ entry plain => exact .inl (.mark before entry plain)
  | goOn _ goes => exact .inr rfl
  | cut _ msg => exact .inl (.cut before msg)
  | arm _ => exact .inl (.arm before)
  | throw caught => exact .inl (.throw caught)
  | replayed _ msg rest queued => exact .inl (.replayed before msg rest queued)
  | ended _ idle => exact .inl (.ended before idle)
  | responding _ msg idle => exact .inl (.responding before msg idle)
  | pulled _ msg idle => exact .inl (.pulled before msg idle)

theorem engineSteps_of_effects {scope : Scope} {msg : Msg} {before after : RunEngine}
    (effects : Effects scope msg before after) : EngineSteps going before after := by
  induction effects with
  | refl => exact .refl
  | tail _ effect ih => exact ih.tail (.handled effect)

theorem engineSteps_of_pump (engine : RunEngine) (update : Update) :
    EngineSteps going engine (engine.pump update) := by
  have pumped : Effect .all .null engine (engine.pump update) := .pump engine update
  exact .single (.handled pumped)

theorem engineSteps_of_result (engine : RunEngine) (lastMsgResult : MsgResult) :
    EngineSteps going engine { engine with lastMsgResult } := by
  have answered : Effect .all .null engine { engine with lastMsgResult } := .result engine lastMsgResult
  exact .single (.handled answered)

theorem engineSteps_invariant (holds : RunEngine → Prop)
    (preserved : ∀ before after, EngineStep going before after → holds before → holds after)
    {before after : RunEngine} (moves : EngineSteps going before after) (initial : holds before) :
    holds after := by
  induction moves with
  | refl => exact initial
  | tail _ move ih => exact preserved _ _ move ih

private theorem receive_interruptSeq (engine : RunEngine) (request : Request) :
    engine.interruptSeq ≤ (engine.receive request).interruptSeq := by
  cases request with
  | stop | abort _ | halt _ => exact Nat.le_succ _
  | _ => exact le_rfl

private theorem core_interruptSeq {msg : Msg} {before after : RunEngine}
    (handled : CoreStep msg before after) : before.interruptSeq ≤ after.interruptSeq := by
  cases handled with
  | quiet quiet => exact (congrArg Core.interruptSeq quiet.core).ge
  | request request requests => exact receive_interruptSeq before request
  | _ => exact le_rfl

/-- Interrupt requests are only ever counted up. -/
theorem interruptSeq_mono {before after : RunEngine} (moves : EngineSteps going before after) :
    before.interruptSeq ≤ after.interruptSeq := by
  refine engineSteps_invariant (fun engine => before.interruptSeq ≤ engine.interruptSeq) ?_ moves
    le_rfl
  intro earlier later move bound
  refine bound.trans ?_
  cases move with
  | handled effect => exact core_interruptSeq (coreStep_of_effect effect)
  | receive _ request => exact receive_interruptSeq earlier request
  | throw caught =>
      unfold RunEngine.throwIntoPlan at caught
      split at caught
      · cases caught
      · cases caught
        exact le_rfl
  | _ => exact le_rfl

private theorem moves_of_effects {scope : Scope} {msg : Msg} {body : EngineAction α}
    (effects : Keeps (Effects scope msg) body) : Keeps (EngineSteps going) body :=
  effects.mono fun _ _ => engineSteps_of_effects

/-- The engine's own records and collections send Events out as a message of the plan would. -/
theorem onPauseEnter_moves (env : Env) (interruption : String) :
    Keeps (EngineSteps going) (onPauseEnter env interruption) :=
  moves_of_effects (onPauseEnter_effects describes_save env interruption)

theorem restoreMonitors_moves (env : Env) : Keeps (EngineSteps going) (restoreMonitors env) :=
  moves_of_effects (restoreMonitors_effects describes_save env)

theorem onResume_moves (env : Env) : Keeps (EngineSteps going) (onResume env) := fun engine =>
  (ReflTransGen.single (.arm engine)).trans 
    (moves_of_effects (afterRearm_effects describes_save env) engine.armReplay)

theorem drainAndClose_moves (env : Env) (status : String) (reason : Option String) :
    Keeps (EngineSteps going) (drainAndClose env status reason) :=
  Keeps.bind (moves_of_effects (backstopCollect_effects describes_save env)) fun _ =>
    Keeps.bind (Keeps.ask _) fun _ => Keeps.each fun _ _ =>
      moves_of_effects (closeOpenRun_effects env _ _ _)

end Bsrs.Engine
