import Bsrs.Engine.LoopMove

namespace Bsrs.Engine

open Bsrs.Library (Grows)
open Bsrs.EventModel
open Bsrs.Core

/-! ## The rewindable region, as the log tells it -/

/-- Entries that say nothing about the region. -/
def Entry.isSilent : Entry → Bool
  | .asked _ | .handled _ _ | .injected _ _ | .wentOn | .escaped _ | .noted _ => true
  | entry => entry.isRoutine

theorem Entry.isSilent_of_isRoutine (entry : Entry) (routine : entry.isRoutine = true) :
    entry.isSilent = true := by
  cases entry <;> simp_all [Entry.isSilent, Entry.isRoutine]

/-- Whether the region is rewindable: what the latest restart said. -/
def rewindableNow : List Entry → Bool
  | [] => false
  | .restarted on _ :: _ => on
  | _ :: rest => rewindableNow rest

theorem rewindableNow_skips (entry : Entry) (rest : List Entry) (silent : entry.isSilent = true) :
    rewindableNow (entry :: rest) = rewindableNow rest := by
  cases entry <;> first | rfl | cases silent

/-- Whether the region has restarted in this call. -/
def everRestarted : List Entry → Bool
  | [] => false
  | .restarted _ _ :: _ => true
  | _ :: rest => everRestarted rest

theorem everRestarted_skips (entry : Entry) (rest : List Entry) (silent : entry.isSilent = true) :
    everRestarted (entry :: rest) = everRestarted rest := by
  cases entry <;> first | rfl | cases silent

theorem everRestarted_of_rewindableNow {log : List Entry} (region : rewindableNow log = true) :
    everRestarted log = true := by
  induction log with
  | nil => cases region
  | cons entry rest ih =>
      cases entry with
      | restarted on bundling => rfl
      | _ => exact ih region

/-! ## What a move does to the region -/

/-- What an engine move amounts to for the rewindable region. -/
inductive RegionStep : RunEngine → RunEngine → Prop
  | same {before after : RunEngine} (log : Grows Entry.isSilent before.log after.log)
      (msgCache : after.state.msgCache = before.state.msgCache)
      (replayQueue : after.state.replayQueue = before.state.replayQueue)
      (rewindable : after.state.rewindable = before.state.rewindable) : RegionStep before after
  | restart {before after : RunEngine} (on bundling)
      (log : after.log = .restarted on bundling :: before.log)
      (msgCache : after.state.msgCache = [])
      (replayQueue : after.state.replayQueue = before.state.replayQueue)
      (rewindable : after.state.rewindable = on) : RegionStep before after
  | cut (engine : RunEngine) (msg) : RegionStep engine (engine.record (.cut msg))
  | arm (engine : RunEngine) : RegionStep engine engine.armReplay
  | throw {before after : RunEngine} (sink thrown)
      (log : after.log = .thrown sink thrown :: before.log)
      (msgCache : after.state.msgCache = before.state.msgCache)
      (replayQueue : after.state.replayQueue = [])
      (rewindable : after.state.rewindable = before.state.rewindable) : RegionStep before after
  | replayed (engine : RunEngine) (msg rest) (queued : engine.state.replayQueue = msg :: rest) :
      RegionStep engine ((engine.withState fun state =>
        { state with replayQueue := rest }).record (.replayed msg))
  | next (engine : RunEngine) (entry) (next : entry = .ended ∨ ∃ msg, entry = .pulled (.respond msg))
      (idle : engine.state.replayQueue = []) : RegionStep engine (engine.record entry)
  | pulled (engine : RunEngine) (msg) (idle : engine.state.replayQueue = []) :
      RegionStep engine ((engine.withState fun state =>
        { state with
          msgCache := if state.rewindable ∧ msg.isCacheable then state.msgCache ++ [msg]
            else state.msgCache }).record (.pulled (.bare msg)))

private theorem regionStep_receive (engine : RunEngine) (request : Request) :
    RegionStep engine (engine.receive request) := by
  have asked : ∀ request, Grows Entry.isSilent engine.log (.asked request :: engine.log) :=
    fun request => .cons rfl engine.log
  cases request with
  | pause => exact .same (asked .pause) rfl rfl rfl
  | deferPause => exact .same (asked .deferPause) rfl rfl rfl
  | resume => exact .same (asked .resume) rfl rfl rfl
  | suspend suspension => exact .same (asked (.suspend suspension)) rfl rfl rfl
  | release gen => exact .same (asked (.release gen)) rfl rfl rfl
  | stop => exact .same (asked .stop) rfl rfl rfl
  | abort reason => exact .same (asked (.abort reason)) rfl rfl rfl
  | halt reason => exact .same (asked (.halt reason)) rfl rfl rfl
  | recordInterruptions on => exact .same (asked (.recordInterruptions on)) rfl rfl rfl

private theorem regionStep_core {msg : Msg} {before after : RunEngine}
    (handled : CoreStep msg before after) : RegionStep before after := by
  cases handled with
  | quiet quiet =>
      exact .same (quiet.log.mono Entry.isSilent_of_isRoutine) (congrArg Core.msgCache quiet.core)
        (congrArg Core.replayQueue quiet.core) (congrArg Core.rewindable quiet.core)
  | restart on restarts => exact .restart on _ rfl rfl rfl rfl
  | clear clears => exact .restart false _ rfl rfl rfl rfl
  | due checkpoint => exact .same (.cons rfl _) rfl rfl rfl
  | request request requests => exact regionStep_receive before request
  | push sink pushes => exact .same (.refl _) rfl rfl rfl
  | pop pops => exact .same (.refl _) rfl rfl rfl

theorem regionStep_of_engineStep {before after : RunEngine} (move : EngineStep going before after) :
    RegionStep before after := by
  cases move with
  | handled effect => exact regionStep_core (coreStep_of_effect effect)
  | receive _ request => exact regionStep_receive before request
  | control _ ctl => exact .same (.refl _) rfl rfl rfl
  | share _ sinks => exact .same (.refl _) rfl rfl rfl
  | mark _ entry plain =>
      have silent : entry.isSilent = true := by
        cases entry <;> simp_all [Entry.isSilent, Entry.isMark]
      exact .same (.cons silent before.log) rfl rfl rfl
  | goOn _ goes => exact .same (.cons rfl before.log) rfl rfl rfl
  | cut _ msg => exact .cut before msg
  | arm _ => exact .arm before
  | throw caught =>
      unfold RunEngine.throwIntoPlan at caught
      split at caught
      · cases caught
      · cases caught
        exact .throw _ _ rfl rfl rfl rfl
  | replayed _ msg rest queued => exact .replayed before msg rest queued
  | ended _ idle => exact .next before .ended (.inl rfl) idle
  | responding _ msg idle => exact .next before _ (.inr ⟨msg, rfl⟩) idle
  | pulled _ msg idle => exact .pulled before msg idle

end Bsrs.Engine
