import Bsrs.Engine.LoopMove

namespace Bsrs.Engine

open Bsrs.Library (Grows Always Throughout)
open Bsrs.Library.Action
open Bsrs.EventModel
open Bsrs.Core

/-! ## The requests so far, as the log tells them -/

/-- What the requests of a call amount to: whether one of them is still to be lifted, whether a
manual pause is in force, and how many holds are outstanding. -/
structure Ledger where
  waiting : Bool
  manual : Bool
  holds : Nat
  deriving DecidableEq

namespace Ledger

/-- A resume or an interrupt lifts every request; a release lifts them once no hold is outstanding
and no manual pause is in force. -/
def receive (gen : Nat) (ledger : Ledger) : Request → Ledger
  | .pause => { ledger with waiting := true, manual := true }
  | .deferPause | .recordInterruptions _ => ledger
  | .suspend _ => { ledger with waiting := true, holds := ledger.holds + 1 }
  | .resume => { ledger with waiting := false, manual := false }
  | .release of =>
      if of ≠ gen then ledger
      else { ledger with
        holds := ledger.holds - 1
        waiting := if ledger.holds ≤ 1 ∧ ledger.manual = false then false else ledger.waiting }
  | .stop | .abort _ | .halt _ => { ledger with waiting := false }

end Ledger

/-- The ledger of the call of generation `gen`. -/
def ledger (gen : Nat) : List Entry → Ledger
  | [] => ⟨false, false, 0⟩
  | .asked request :: rest => (ledger gen rest).receive gen request
  | _ :: rest => ledger gen rest

/-- The loop goes on to a message only while no request waits to be lifted. -/
def GoesOnUnpaused (gen : Nat) : Entry → List Entry → Prop
  | .wentOn, rest => (ledger gen rest).waiting = false
  | _, _ => True

instance (gen : Nat) : ∀ entry rest, Decidable (GoesOnUnpaused gen entry rest) := by
  intro entry rest
  unfold GoesOnUnpaused
  split <;> infer_instance

def Pc.isParked : Pc → Bool
  | .parked _ => true
  | _ => false

/-- When the parked gate is woken and acknowledges a second time, no request has come since the
wake-up. -/
def WakesUnpaused {σ : Type} (config : Config σ) : Label → Prop
  | .loop _ =>
      config.pc.isParked = true → config.engine.ctl.permit = .notified →
        config.engine.ctl.isPaused = false
  | _ => True

instance {σ : Type} (config : Config σ) : ∀ label, Decidable (WakesUnpaused config label) := by
  intro label
  unfold WakesUnpaused
  split <;> infer_instance

/-! ## The control plane keeps the ledger -/

def RunControl.ledger (ctl : RunControl) : Ledger :=
  ⟨ctl.isPaused, ctl.manualPause, ctl.holds⟩

/-- What happens to the control plane outside the gate's own acknowledgements. -/
structure Heeds (before after : RunEngine) : Prop where
  runGen : after.ctl.runGen = before.ctl.runGen
  counted : before.ctl.pauseSeq ≤ after.ctl.pauseSeq
  paused : after.ctl.isPaused = true →
    before.ctl.isPaused = true ∨ before.ctl.pauseSeq < after.ctl.pauseSeq
  synced : before.ctl.ledger = ledger before.ctl.runGen before.log →
    after.ctl.ledger = ledger before.ctl.runGen after.log
  heeded : Always (GoesOnUnpaused before.ctl.runGen) before.log →
    Always (GoesOnUnpaused before.ctl.runGen) after.log

theorem Heeds.refl (engine : RunEngine) : Heeds engine engine :=
  ⟨rfl, le_rfl, .inl, id, id⟩

theorem Heeds.trans {first second third : RunEngine} (head : Heeds first second)
    (tail : Heeds second third) : Heeds first third where
  runGen := tail.runGen.trans head.runGen
  counted := head.counted.trans tail.counted
  paused := by
    intro again
    have bound := head.counted
    have further := tail.counted
    rcases tail.paused again with still | more
    · rcases head.paused still with already | sooner
      · exact .inl already
      · exact .inr (by omega)
    · exact .inr (by omega)
  synced := by
    have tail := tail.synced
    rw [head.runGen] at tail
    exact tail ∘ head.synced
  heeded := by
    have tail := tail.heeded
    rw [head.runGen] at tail
    exact tail ∘ head.heeded

/-- Entries the ledger does not look at. -/
def Entry.isUnasked : Entry → Bool
  | .asked _ | .wentOn => false
  | _ => true

private theorem ledger_skips (gen : Nat) (entry : Entry) (rest : List Entry)
    (unasked : entry.isUnasked = true) : ledger gen (entry :: rest) = ledger gen rest := by
  cases entry <;> first | rfl | cases unasked

private theorem goesOn_unasked (gen : Nat) (entry : Entry) (rest : List Entry)
    (unasked : entry.isUnasked = true) : GoesOnUnpaused gen entry rest := by
  cases entry <;> trivial

theorem Heeds.unasked {before after : RunEngine} (runGen : after.ctl.runGen = before.ctl.runGen)
    (pauseSeq : after.ctl.pauseSeq = before.ctl.pauseSeq)
    (kept : after.ctl.ledger = before.ctl.ledger)
    (log : Grows Entry.isUnasked before.log after.log) : Heeds before after where
  runGen
  counted := pauseSeq.ge
  paused := by
    intro again
    have same : after.ctl.isPaused = before.ctl.isPaused := congrArg Ledger.waiting kept
    exact .inl (same ▸ again)
  synced := by
    rw [kept, log.reading (ledger_skips _)]
    exact id
  heeded := (Always.grows (goesOn_unasked _) log).mpr

/-- A request is entered in the ledger as it takes effect; a pause is also counted. -/
theorem receive_heeds (engine : RunEngine) (request : Request) :
    Heeds engine (engine.receive request) := by
  have synced : ∀ {next : RunEngine}, next.ctl.ledger =
      engine.ctl.ledger.receive engine.ctl.runGen request →
      next.log = .asked request :: engine.log →
      engine.ctl.ledger = ledger engine.ctl.runGen engine.log →
      next.ctl.ledger = ledger engine.ctl.runGen next.log := by
    intro next effect log inStep
    rw [effect, log, inStep]
    rfl
  have heeded : ∀ {next : RunEngine}, next.log = .asked request :: engine.log →
      Always (GoesOnUnpaused engine.ctl.runGen) engine.log →
      Always (GoesOnUnpaused engine.ctl.runGen) next.log := by
    intro next log before
    rw [log]
    exact ⟨trivial, before⟩
  cases request with
  | pause => exact ⟨rfl, Nat.le_succ _, fun _ => .inr (Nat.lt_succ_self _), synced rfl rfl, heeded rfl⟩
  | suspend suspension =>
      exact ⟨rfl, Nat.le_succ _, fun _ => .inr (Nat.lt_succ_self _), synced rfl rfl, heeded rfl⟩
  | deferPause | recordInterruptions _ => exact ⟨rfl, le_rfl, .inl, synced rfl rfl, heeded rfl⟩
  | resume | stop | abort _ | halt _ =>
      exact ⟨rfl, le_rfl, nofun, synced rfl rfl, heeded rfl⟩
  | release gen =>
      have effect : (engine.ctl.release gen).ledger =
          engine.ctl.ledger.receive engine.ctl.runGen (.release gen) := by
        unfold RunControl.release Ledger.receive RunControl.ledger RunControl.wake
        dsimp only
        split
        · rfl
        · split
          · rfl
          · rfl
      have kept : (engine.ctl.release gen).runGen = engine.ctl.runGen ∧
          (engine.ctl.release gen).pauseSeq = engine.ctl.pauseSeq ∧
          ((engine.ctl.release gen).isPaused = true → engine.ctl.isPaused = true) := by
        unfold RunControl.release RunControl.wake
        dsimp only
        split
        · exact ⟨rfl, rfl, id⟩
        · split
          · exact ⟨rfl, rfl, nofun⟩
          · exact ⟨rfl, rfl, id⟩
      exact ⟨kept.1, kept.2.1.ge, fun again => .inl (kept.2.2 again), synced effect rfl, heeded rfl⟩

theorem Entry.isUnasked_of_isRoutine (entry : Entry) (routine : entry.isRoutine = true) :
    entry.isUnasked = true := by
  cases entry <;> simp_all [Entry.isUnasked, Entry.isRoutine]

private theorem core_heeds {msg : Msg} {before after : RunEngine}
    (handled : CoreStep msg before after) : Heeds before after := by
  cases handled with
  | quiet quiet =>
      have ctl : after.ctl = before.ctl := congrArg Core.ctl quiet.core
      exact .unasked (congrArg RunControl.runGen ctl) (congrArg RunControl.pauseSeq ctl)
        (congrArg RunControl.ledger ctl) (quiet.log.mono Entry.isUnasked_of_isRoutine)
  | restart on restarts => exact .unasked rfl rfl rfl (.cons rfl _)
  | clear clears => exact .unasked rfl rfl rfl (.cons rfl _)
  | due checkpoint =>
      have cleared : Heeds before { before with deferredPause := false } :=
        .unasked rfl rfl rfl (.refl _)
      exact cleared.trans (receive_heeds { before with deferredPause := false } .pause)
  | request request requests => exact receive_heeds before request
  | push sink pushes => exact .unasked rfl rfl rfl (.refl _)
  | pop pops => exact .unasked rfl rfl rfl (.refl _)

private theorem engineStep_heeds {before after : RunEngine} (move : EngineStep False before after) :
    Heeds before after := by
  cases move with
  | handled effect => exact core_heeds (coreStep_of_effect effect)
  | receive _ request => exact receive_heeds before request
  | control _ permit cancelled pendingSuspend => exact .unasked rfl rfl rfl (.refl _)
  | share _ sinks => exact .unasked rfl rfl rfl (.refl _)
  | mark _ entry plain =>
      have unasked : entry.isUnasked = true := by
        cases entry <;> simp_all [Entry.isUnasked, Entry.isMark]
      exact .unasked rfl rfl rfl (.cons unasked _)
  | goOn _ goes => exact goes.elim
  | throw caught =>
      unfold RunEngine.throwIntoPlan at caught
      split at caught
      · cases caught
      · cases caught
        exact .unasked rfl rfl rfl (.cons rfl _)
  | _ => exact .unasked rfl rfl rfl (.cons rfl _)

theorem engineSteps_heed {before after : RunEngine} (moves : EngineSteps False before after) :
    Heeds before after := by
  induction moves with
  | refl => exact .refl before
  | tail _ move ih => exact ih.trans (engineStep_heeds move)

/-! ## The loop goes on only once every request is lifted -/

/-- Inside the pause gate, up to its second acknowledgement, or stopped by a panic. -/
def Pc.isGated : Pc → Bool
  | .entering _ | .prePlan _ | .checking _ | .parked _ | .panicked => true
  | _ => false

/-- Outside the gate a request in force is one the gate has not acknowledged. -/
structure PauseInvariant {σ : Type} (config : Config σ) : Prop where
  synced : config.engine.ctl.ledger = ledger config.engine.ctl.runGen config.engine.log
  heeded : Always (GoesOnUnpaused config.engine.ctl.runGen) config.engine.log
  seen : config.pauseSeen ≤ config.engine.ctl.pauseSeq
  thrown : config.thrownSeq ≤ config.engine.interruptSeq
  unpaused : config.pc.isGated = false → config.engine.ctl.isPaused = true →
    config.pauseSeen < config.engine.ctl.pauseSeq
  taking : config.pc.isTaking = true → config.thrownSeq < config.engine.interruptSeq

section

variable {σ : Type} {config next : Config σ}

theorem PauseInvariant.moves (invariant : PauseInvariant config)
    (moves : Config.Moves False AnyDeed config next)
    (gated : next.pc.isGated = false → config.pc.isGated = false)
    (taking : next.pc.isTaking = true → next.thrownSeq < next.engine.interruptSeq) :
    PauseInvariant next := by
  have heeds := engineSteps_heed (engineSteps_of_loopMoves moves.engine)
  refine ⟨?_, ?_, ?_, moves.thrownSeq invariant.thrown, ?_, taking⟩
  · rw [heeds.runGen]
    exact heeds.synced invariant.synced
  · rw [heeds.runGen]
    exact heeds.heeded invariant.heeded
  · rw [moves.pauseSeen]
    exact invariant.seen.trans heeds.counted
  · intro free again
    rw [moves.pauseSeen]
    rcases heeds.paused again with still | more
    · exact (invariant.unpaused (gated free) still).trans_le heeds.counted
    · exact invariant.seen.trans_lt more

theorem PauseInvariant.turns (invariant : PauseInvariant config)
    (turns : Config.Turns False AnyDeed config next) (free : config.pc.isGated = false) :
    PauseInvariant next :=
  invariant.moves turns.toMoves (fun _ => free) fun taking => by
    rw [turns.aside] at taking
    cases taking

/-- Acknowledging the requests so far: none counts as unseen. -/
private theorem ackPause_seen (config : Config σ) :
    config.ackPause.pauseSeen = config.engine.ctl.pauseSeq ∧
      config.ackPause.engine.ctl.pauseSeq = config.engine.ctl.pauseSeq ∧
      config.ackPause.engine.ctl.isPaused = config.engine.ctl.isPaused := by
  unfold Config.ackPause RunControl.ackPause
  dsimp only
  split
  · exact ⟨rfl, rfl, rfl⟩
  · rename_i same
    exact ⟨(not_ne_iff.mp same).symm, rfl, rfl⟩

theorem PauseInvariant.enterGate (invariant : PauseInvariant config) :
    PauseInvariant config.enterGate := by
  have moves : LoopMoves False AnyDeed config.engine config.enterGate.engine :=
    Config.enterGate_moves config
  have heeds := engineSteps_heed (engineSteps_of_loopMoves moves)
  have acked := ackPause_seen (config.withEngine
    { config.engine with ctl := config.engine.ctl.arm })
  refine ⟨?_, ?_, ?_, invariant.thrown, nofun, nofun⟩
  · rw [heeds.runGen]
    exact heeds.synced invariant.synced
  · rw [heeds.runGen]
    exact heeds.heeded invariant.heeded
  · exact (acked.1.trans acked.2.1.symm).le

/-- The second acknowledgement, with no request in force. -/
theorem PauseInvariant.leaveGate (invariant : PauseInvariant config)
    (lifted : config.engine.ctl.isPaused = false) (suspension : Option Suspension) :
    PauseInvariant (config.leaveGate suspension) := by
  have moves : LoopMoves False AnyDeed config.engine (config.leaveGate suspension).engine :=
    Config.leaveGate_moves config suspension
  have heeds := engineSteps_heed (engineSteps_of_loopMoves moves)
  have acked := ackPause_seen config
  have synced := heeds.synced invariant.synced
  have heeded := heeds.heeded invariant.heeded
  rw [← heeds.runGen] at synced heeded
  have still : config.ackPause.engine.ctl.isPaused ≠ true := by simp [acked.2.2, lifted]
  have seen := (acked.1.trans acked.2.1.symm).le
  unfold Config.leaveGate at synced heeded ⊢
  dsimp only at synced heeded ⊢
  split at synced
  · rename_i woken
    rw [if_pos woken] at heeded ⊢
    have bound : config.thrownSeq < config.engine.interruptSeq :=
      lt_of_le_of_ne invariant.thrown fun same => woken same.symm
    exact ⟨synced, heeded, seen, invariant.thrown, fun _ again => absurd again still, fun _ => bound⟩
  · rename_i calm
    rw [if_neg calm] at heeded ⊢
    exact ⟨synced, heeded, seen, invariant.thrown, fun _ again => absurd again still, nofun⟩

/-- An engine computation inside the gate, which stays inside. -/
theorem PauseInvariant.within (invariant : PauseInvariant config) {body : EngineAction α}
    {next : α → Pc} (moves : LoopMoves False AnyDeed config.engine (body config.engine).2)
    (stays : ∀ value, (next value).isGated = true ∧ (next value).isTaking = false) :
    PauseInvariant (config.perform body next) := by
  have pc : (config.perform body next).pc.isGated = true ∧
      (config.perform body next).pc.isTaking = false :=
    config.perform_pc (fun pc => pc.isGated = true ∧ pc.isTaking = false) ⟨rfl, rfl⟩ stays
  exact invariant.moves (Config.perform_moves config moves)
    (fun free => absurd free (by simp [pc.1])) (fun taking => absurd taking (by simp [pc.2]))

/-- An engine computation outside the gate. -/
theorem PauseInvariant.outside (invariant : PauseInvariant config)
    (free : config.pc.isGated = false) {body : EngineAction α}
    {next : α → Pc} (moves : LoopMoves False AnyDeed config.engine (body config.engine).2)
    (aside : ∀ value, (next value).isTaking = false) :
    PauseInvariant (config.perform body next) := by
  have pc : (config.perform body next).pc.isTaking = false :=
    config.perform_pc (fun pc => pc.isTaking = false) rfl aside
  exact invariant.turns ⟨Config.perform_moves config moves, pc⟩ free

/-- With an interrupt to act on, the loop does not go on. -/
theorem PauseInvariant.interrupted (invariant : PauseInvariant config)
    (free : config.pc.isGated = false) (outstanding : config.engine.interruptSeq ≠ config.thrownSeq) :
    PauseInvariant config.goOn := by
  have turns : Config.Turns (config.engine.interruptSeq = config.thrownSeq) AnyDeed config
      config.goOn := Config.goOn_turns config
  have engine : LoopMoves False AnyDeed config.engine config.goOn.engine :=
    Relation.ReflTransGen.mono (fun _ _ move =>
      move.mono (fun same => outstanding same) fun _ _ _ => id) _ _
      turns.engine
  exact invariant.turns ⟨⟨engine, turns.pauseSeen, turns.thrownSeq⟩, turns.aside⟩ free

theorem PauseInvariant.goOn (invariant : PauseInvariant config) (free : config.pc.isGated = false)
    (acked : config.engine.ctl.pauseSeq = config.pauseSeen) : PauseInvariant config.goOn := by
  by_cases same : config.engine.interruptSeq = config.thrownSeq
  · have lifted : config.engine.ctl.isPaused = false := by
      cases paused : config.engine.ctl.isPaused with
      | false => rfl
      | true => exact absurd acked (invariant.unpaused free paused).ne'
    have clear : (ledger config.engine.ctl.runGen config.engine.log).waiting = false := by
      rw [← invariant.synced]
      exact lifted
    have goes : config.goOn =
        (config.withEngine (config.engine.record .wentOn)).goTo .pull := by
      unfold Config.goOn Config.act Config.takeInterrupt
      rw [if_pos same]
    rw [goes]
    exact ⟨invariant.synced, ⟨clear, invariant.heeded⟩, invariant.seen, invariant.thrown,
      fun _ => invariant.unpaused free, nofun⟩
  · exact invariant.interrupted free same

theorem pauseInvariant_step {plans : PlanStream σ} {label : Label}
    (stepped : step plans config label = some next) (wakes : WakesUnpaused config label)
    (invariant : PauseInvariant config) : PauseInvariant next := by
  cases label with
  | request request =>
      cases stepped
      have moves : Config.Moves False AnyDeed config
          (config.withEngine (config.engine.receive request)) :=
        .of_engine (.single (.receive config.engine request)) rfl rfl
      exact invariant.moves moves id fun taking =>
        (invariant.taking taking).trans_le (interruptSeq_mono (engineSteps_of_loopMoves moves.engine))
  | update update =>
      cases stepped
      have moves : Config.Moves False AnyDeed config (config.withEngine (config.engine.pump update)) :=
        .of_engine (.single (.pump config.engine update)) rfl rfl
      exact invariant.moves moves id fun taking =>
        (invariant.taking taking).trans_le (interruptSeq_mono (engineSteps_of_loopMoves moves.engine))
  | loop env =>
      simp only [step, loopStep] at stepped
      split at stepped
      · rename_i top
        cases stepped
        split
        · exact invariant.enterGate
        · rename_i acked
          exact invariant.goOn (by rw [top]; rfl) (not_ne_iff.mp acked)
      · cases stepped
        refine invariant.within (.single (.pauseEntered config.engine env _ trivial)) fun _ => ?_
        split
        · exact ⟨rfl, rfl⟩
        · exact ⟨rfl, rfl⟩
      · cases stepped
        refine invariant.within (injectedStep_moves env config.engine fun _ _ => trivial) fun more => ?_
        cases more with
        | true => exact ⟨rfl, rfl⟩
        | false => exact ⟨rfl, rfl⟩
      · cases stepped
        split
        · exact invariant.moves (.of_engine .refl rfl rfl) (by intros; contradiction) (by intros; contradiction)
        · rename_i lifted
          exact invariant.leaveGate (Bool.eq_false_iff.mpr lifted) _
      · rename_i parked
        split at stepped
        · rename_i woken
          cases stepped
          exact invariant.leaveGate (wakes (by rw [parked]; rfl) woken) _
        · cases stepped
      · rename_i restoring
        cases stepped
        have moves : Config.Moves False AnyDeed config
            (config.perform (restoreMonitors env) fun _ => .taking) :=
          Config.perform_moves config (.single (.restored config.engine env trivial))
        have outstanding := invariant.taking (by rw [restoring]; rfl)
        have kept : (config.perform (restoreMonitors env) fun _ => Pc.taking).thrownSeq =
            config.thrownSeq := by
          unfold Config.perform
          dsimp only
          split <;> rfl
        refine invariant.moves moves (fun _ => by rw [restoring]; rfl) fun _ => ?_
        rw [kept]
        exact outstanding.trans_le (interruptSeq_mono (engineSteps_of_loopMoves moves.engine))
      · rename_i taking
        cases stepped
        exact invariant.interrupted (by rw [taking]; rfl)
          (invariant.taking (by rw [taking]; rfl)).ne'
      · rename_i resuming
        cases stepped
        refine invariant.outside (by rw [resuming]; rfl) (.single (.resumed config.engine env trivial)) fun _ => ?_
        split
        · rfl
        · rfl
      · rename_i resuming
        cases stepped
        refine invariant.outside (by rw [resuming]; rfl)
          (injectedStep_moves env config.engine fun _ _ => trivial) fun more => ?_
        cases more with
        | true => rfl
        | false => rfl
      · rename_i pulling
        cases stepped
        exact invariant.turns (Config.pullMsg_turns plans config _) (by rw [pulling]; rfl)
      · rename_i handling
        cases stepped
        exact invariant.turns (Config.handleMsg_turns plans config env _ _ trivial) (by rw [handling]; rfl)
      · rename_i closing
        cases stepped
        exact invariant.turns (Config.closeOut_turns config env _ _ _ trivial) (by rw [closing]; rfl)
      all_goals cases stepped

end

/-- A run whose gate is never woken and paused again before its second acknowledgement goes on to
no message while a request is in force. -/
theorem goesOnUnpaused_of_wakesUnpaused {plans : PlanStream σ}
    (trace : run plans (Config.start engine plan) labels = some reached)
    (wakes : Throughout (step plans) WakesUnpaused (Config.start engine plan) labels) :
    Always (GoesOnUnpaused reached.engine.ctl.runGen) reached.engine.log := by
  have initial : PauseInvariant (Config.start engine plan) :=
    ⟨rfl, trivial, le_rfl, le_rfl, nofun, nofun⟩
  have held : PauseInvariant reached :=
    Bsrs.Library.exec_invariant_throughout PauseInvariant
      (fun _ _ _ stepped wakes held => pauseInvariant_step stepped wakes held) trace wakes initial
  exact held.heeded

/-- The loop pauses before the plan's first item, parks, and is resumed by `wake`. -/
private def pausedAtStart (wake : List Request) : List Label :=
  .request .pause :: loops .calm 3 ++ wake.map .request ++ loops .calm 3

/-- Paused and resumed, the loop goes on with no request in force. -/
theorem goesOnUnpaused_pausedOnce :
    ∃ reached ∈ run planItems (Config.start .new [.bare .null]) (pausedAtStart [.resume]),
      Always (GoesOnUnpaused reached.engine.ctl.runGen) reached.engine.log := by
  have wakes : Throughout (step planItems) WakesUnpaused (Config.start .new [.bare .null])
      (pausedAtStart [.resume]) := by decide +kernel
  have arrives : ∃ reached, run planItems (Config.start .new [.bare .null])
      (pausedAtStart [.resume]) = some reached :=
    Option.isSome_iff_exists.mp (by decide +kernel)
  obtain ⟨reached, trace⟩ := arrives
  exact ⟨reached, trace, goesOnUnpaused_of_wakesUnpaused trace wakes⟩

/-- Resumed and paused again before the loop has left the gate, it goes on all the same. -/
theorem goesOnUnpaused_fails_pausedAgain :
    ∃ reached ∈ run planItems (Config.start .new [.bare .null]) (pausedAtStart [.resume, .pause]),
      ¬ Always (GoesOnUnpaused reached.engine.ctl.runGen) reached.engine.log := by
  decide +kernel

end Bsrs.Engine
