import Bsrs.Engine.RegionStep

namespace Bsrs.Engine

open Bsrs.Library (Grows Always)
open Bsrs.EventModel
open Bsrs.Core

/-! ## Rewinds, as the log tells them -/

/-- Whether the run was resumed since the region last restarted: what is replayed then is the
region's own. -/
def resumedHere : List Entry → Bool
  | [] => false
  | .restarted _ _ :: _ => false
  | .resumed _ :: _ => true
  | _ :: rest => resumedHere rest

/-- The cacheable messages issued since the region last restarted, oldest first: those of the plan,
and those that were left of an earlier region's replay. -/
def issued : List Entry → List Msg
  | [] => []
  | .restarted _ _ :: _ => []
  | .pulled (.bare msg) :: rest => if msg.isCacheable then issued rest ++ [msg] else issued rest
  | .replayed msg :: rest => if resumedHere rest then issued rest else issued rest ++ [msg]
  | _ :: rest => issued rest

/-- Whether a resume since the region last restarted found messages to replay. -/
def rewound : List Entry → Bool
  | [] => false
  | .restarted _ _ :: _ => false
  | .resumed _ :: rest => !(issued rest).isEmpty || rewound rest
  | _ :: rest => rewound rest

/-- Whether a message has left a replay since the region last restarted, handled or given up for a
thrown value. -/
def spent : List Entry → Bool
  | [] => false
  | .restarted _ _ :: _ => false
  | .replayed _ :: _ => true
  | .thrown _ _ :: rest => spent rest || rewound rest
  | _ :: rest => spent rest

/-- The message in hand, where a rewind is to bring it back: a cacheable item of the plan or a
replayed message, of a rewindable region that has not restarted since. -/
def handling : List Entry → Option Msg
  | [] => none
  | .pulled (.bare msg) :: rest => if rewindableNow rest ∧ msg.isCacheable then some msg else none
  | .replayed msg :: rest => if rewindableNow rest then some msg else none
  | .pulled (.respond _) :: _ | .ended :: _ | .restarted _ _ :: _ | .thrown _ _ :: _ => none
  | _ :: rest => handling rest

/-- The message whose handling the pause that is under way cut short. -/
def cutShort : List Entry → Option Msg
  | [] => none
  | .cut _ :: rest => handling rest
  | .pulled _ :: _ | .replayed _ :: _ | .ended :: _ | .thrown _ _ :: _ | .resumed _ :: _ => none
  | _ :: rest => cutShort rest

/-- The replay the latest resume owes, and what the loop has handled of it since. A thrown value
ends a replay by design. -/
def pending : List Entry → Option (List Msg × List Msg)
  | [] => none
  | .resumed _ :: rest => if rewindableNow rest then some (issued rest, []) else pending rest
  | .replayed msg :: rest => (pending rest).map fun replay => (replay.1, replay.2 ++ [msg])
  | .pulled _ :: _ | .ended :: _ | .thrown _ _ :: _ => none
  | _ :: rest => pending rest

/-- The latest replay has been played out. -/
def PlayedOut (log : List Entry) : Prop :=
  ∀ replay ∈ pending log, replay.2 = replay.1

instance (log : List Entry) : Decidable (PlayedOut log) :=
  inferInstanceAs (Decidable (∀ replay ∈ pending log, replay.2 = replay.1))

/-- The next item of the plan waits for the latest replay, and what a resume in a rewindable region
replays includes the message that the pause cut short. -/
def PullsInTurn : Entry → List Entry → Prop
  | .pulled _, rest | .ended, rest => PlayedOut rest
  | .resumed _, rest => rewindableNow rest = true → ∀ msg ∈ cutShort rest, msg ∈ issued rest
  | _, _ => True

instance : ∀ entry rest, Decidable (PullsInTurn entry rest) := by
  rintro (_ | _) rest <;> dsimp only [PullsInTurn] <;> infer_instance

/-- Between a resume and the next item of the plan, the loop handles exactly the messages issued
since the last checkpoint reset, in their order, the one that the pause cut short among them. -/
abbrev RewindComplete : List Entry → Prop :=
  Always PullsInTurn

/-- Whether only this call can have queued what is queued: a pull or a throw finds or leaves the
queue empty, and before the region first restarts a resume may queue what an earlier call cached. -/
def ownQueue : List Entry → Bool
  | [] => false
  | .pulled _ :: _ | .ended :: _ | .thrown _ _ :: _ => true
  | .resumed _ :: rest => everRestarted rest && ownQueue rest
  | _ :: rest => ownQueue rest

/-- The first rewind of a region waits for the replay of any earlier one; no message has left a
replay since the region restarted; and it does not restart between a cut and the resume. -/
def RewindsOnce : Entry → List Entry → Prop
  | .resumed _, rest =>
      rewindableNow rest = true →
        spent rest = false ∧ (rewound rest = false → ownQueue rest = true ∧ PlayedOut rest)
  | .restarted _ _, rest => cutShort rest = none
  | _, _ => True

instance : ∀ entry rest, Decidable (RewindsOnce entry rest) := by
  rintro (_ | _) rest <;> dsimp only [RewindsOnce] <;> infer_instance

section Skips

variable (entry : Entry) (rest : List Entry) (silent : entry.isSilent = true)
include silent

private theorem issued_skips : issued (entry :: rest) = issued rest := by
  cases entry <;> first | rfl | cases silent

private theorem rewound_skips : rewound (entry :: rest) = rewound rest := by
  cases entry <;> first | rfl | cases silent

private theorem spent_skips : spent (entry :: rest) = spent rest := by
  cases entry <;> first | rfl | cases silent

private theorem pending_skips : pending (entry :: rest) = pending rest := by
  cases entry <;> first | rfl | cases silent

private theorem ownQueue_skips : ownQueue (entry :: rest) = ownQueue rest := by
  cases entry <;> first | rfl | cases silent

private theorem pullsInTurn_silent : PullsInTurn entry rest := by
  cases entry <;> trivial

private theorem rewindsOnce_silent : RewindsOnce entry rest := by
  cases entry <;> trivial

end Skips

private theorem handling_issued {log : List Entry} (held : handling log = some msg)
    (unspent : spent log = false) : msg ∈ issued log := by
  induction log with
  | nil => cases held
  | cons entry rest ih =>
      cases entry with
      | pulled item =>
          cases item with
          | bare other =>
              simp only [handling, Option.ite_none_right_eq_some, Option.some.injEq] at held
              obtain ⟨⟨-, cacheable⟩, rfl⟩ := held
              rw [issued, if_pos cacheable]
              exact List.mem_append_right _ (List.mem_singleton_self _)
          | respond other => cases held
      | replayed other => cases unspent
      | ended | restarted _ _ | thrown _ _ => cases held
      | _ => exact ih held unspent

/-- The message a pause cut short is one of those issued since the region restarted. -/
private theorem cutShort_issued {log : List Entry} (once : Always RewindsOnce log)
    (cut : cutShort log = some msg) (unspent : spent log = false) : msg ∈ issued log := by
  induction log with
  | nil => cases cut
  | cons entry rest ih =>
      cases entry with
      | cut other => exact handling_issued cut unspent
      | restarted on bundling =>
          have none : cutShort rest = Option.none := once.1
          exact absurd (none.symm.trans cut) (by simp)
      | pulled _ | replayed _ | ended | thrown _ _ | resumed _ => cases cut
      | _ => exact ih once.2 cut unspent

private theorem everRestarted_of_pending {log : List Entry} (armed : pending log = some replay) :
    everRestarted log = true := by
  induction log generalizing replay with
  | nil => cases armed
  | cons entry rest ih =>
      cases entry with
      | restarted on bundling => rfl
      | resumed cache =>
          cases region : rewindableNow rest with
          | true => exact everRestarted_of_rewindableNow region
          | false => exact ih (by simpa [pending, region] using armed)
      | replayed msg =>
          obtain ⟨earlier, was, -⟩ := Option.map_eq_some_iff.mp armed
          exact ih was
      | pulled _ | ended | thrown _ _ => cases armed
      | _ => exact ih armed

/-! ## The cache and the replay queue are what the log says -/

structure RewindInvariant (engine : RunEngine) : Prop where
  rewindable : everRestarted engine.log = true →
    engine.state.rewindable = rewindableNow engine.log
  cacheOff : everRestarted engine.log = true → rewindableNow engine.log = false →
    engine.state.msgCache = []
  cached : rewindableNow engine.log = true → rewound engine.log = false →
    spent engine.log = false → engine.state.msgCache = issued engine.log
  requeued : rewindableNow engine.log = true → rewound engine.log = true →
    spent engine.log = false → engine.state.msgCache = [] ∧
      engine.state.replayQueue = issued engine.log ∧ issued engine.log ≠ []
  idle : pending engine.log = none → ownQueue engine.log = true → engine.state.replayQueue = []
  replaying : ∀ want got, pending engine.log = some (want, got) →
    want = got ++ engine.state.replayQueue
  complete : RewindComplete engine.log

theorem RewindInvariant.same {before after : RunEngine} (invariant : RewindInvariant before)
    (log : Grows Entry.isSilent before.log after.log)
    (msgCache : after.state.msgCache = before.state.msgCache)
    (replayQueue : after.state.replayQueue = before.state.replayQueue)
    (rewindable : after.state.rewindable = before.state.rewindable) : RewindInvariant after where
  rewindable := by
    rw [rewindable, log.reading rewindableNow_skips, log.reading everRestarted_skips]
    exact invariant.rewindable
  cacheOff := by
    rw [msgCache, log.reading rewindableNow_skips, log.reading everRestarted_skips]
    exact invariant.cacheOff
  cached := by
    rw [msgCache, log.reading rewindableNow_skips, log.reading rewound_skips,
      log.reading spent_skips, log.reading issued_skips]
    exact invariant.cached
  requeued := by
    rw [msgCache, replayQueue, log.reading rewindableNow_skips, log.reading rewound_skips,
      log.reading spent_skips, log.reading issued_skips]
    exact invariant.requeued
  idle := by
    rw [replayQueue, log.reading pending_skips, log.reading ownQueue_skips]
    exact invariant.idle
  replaying := by
    rw [replayQueue, log.reading pending_skips]
    exact invariant.replaying
  complete := (Always.grows pullsInTurn_silent log).mpr invariant.complete

/-- With nothing queued, the latest replay is played out. -/
theorem RewindInvariant.playedOut {engine : RunEngine} (invariant : RewindInvariant engine)
    (idle : engine.state.replayQueue = []) : PlayedOut engine.log := by
  intro replay armed
  have split := invariant.replaying replay.1 replay.2 armed
  rw [idle, List.append_nil] at split
  exact split.symm

/-- A replay that is played out leaves nothing queued. -/
theorem RewindInvariant.drained {engine : RunEngine} (invariant : RewindInvariant engine)
    (own : ownQueue engine.log = true) (playedOut : PlayedOut engine.log) :
    engine.state.replayQueue = [] := by
  cases armed : pending engine.log with
  | none => exact invariant.idle armed own
  | some replay =>
      have split := invariant.replaying replay.1 replay.2 armed
      rw [playedOut replay armed] at split
      exact List.append_right_eq_self.mp split.symm

/-- An idle engine has not rewound its region, or has spent that replay. -/
theorem RewindInvariant.not_requeued {engine : RunEngine} (invariant : RewindInvariant engine)
    (idle : engine.state.replayQueue = []) (region : rewindableNow engine.log = true)
    (again : rewound engine.log = true) : spent engine.log = true := by
  cases unspent : spent engine.log with
  | true => rfl
  | false =>
      obtain ⟨-, queue, owed⟩ := invariant.requeued region again unspent
      rw [idle] at queue
      exact absurd queue.symm owed

theorem RewindInvariant.restart {before after : RunEngine} (invariant : RewindInvariant before)
    (log : after.log = .restarted on bundling :: before.log) (msgCache : after.state.msgCache = [])
    (replayQueue : after.state.replayQueue = before.state.replayQueue)
    (rewindable : after.state.rewindable = on) : RewindInvariant after where
  rewindable := by
    rw [rewindable, log]
    exact fun _ => rfl
  cacheOff := fun _ _ => msgCache
  cached := by
    rw [msgCache, log]
    exact fun _ _ _ => rfl
  requeued := by
    intro _ again
    rw [log] at again
    cases again
  idle := by
    rw [replayQueue, log]
    exact invariant.idle
  replaying := by
    rw [replayQueue, log]
    exact invariant.replaying
  complete := by
    rw [log]
    exact ⟨trivial, invariant.complete⟩

/-- What is queued after a resume in a rewindable region: the messages issued since it restarted,
whether this resume rewinds it or an earlier one did. -/
theorem RewindInvariant.rearmed {engine : RunEngine} (invariant : RewindInvariant engine)
    (region : rewindableNow engine.log = true) (unspent : spent engine.log = false)
    (first : rewound engine.log = false → ownQueue engine.log = true ∧ PlayedOut engine.log) :
    engine.state.replayQueue ++ engine.state.msgCache = issued engine.log := by
  cases again : rewound engine.log with
  | false =>
      rw [invariant.drained (first again).1 (first again).2, invariant.cached region again unspent]
      rfl
  | true =>
      obtain ⟨empty, queue, -⟩ := invariant.requeued region again unspent
      rw [empty, queue, List.append_nil]

theorem RewindInvariant.arm {engine : RunEngine} (invariant : RewindInvariant engine)
    (earlier : Always RewindsOnce engine.log)
    (once : rewindableNow engine.log = true → spent engine.log = false ∧
      (rewound engine.log = false → ownQueue engine.log = true ∧ PlayedOut engine.log)) :
    RewindInvariant engine.armReplay := by
  have complete : RewindComplete engine.armReplay.log :=
    ⟨fun region _ cut => cutShort_issued earlier cut (once region).1, invariant.complete⟩
  have log : engine.armReplay.log = .resumed engine.state.msgCache :: engine.log := rfl
  have queue : engine.armReplay.state.replayQueue =
    engine.state.replayQueue ++ engine.state.msgCache := rfl
  cases region : rewindableNow engine.log with
  | false =>
      have off : rewindableNow engine.armReplay.log = false := region
      refine ⟨invariant.rewindable, fun _ _ => rfl, ?_, ?_, ?_, ?_, complete⟩
      · exact fun on => absurd on (by simp [off])
      · exact fun on => absurd on (by simp [off])
      · intro none own
        have both : everRestarted engine.log = true ∧ ownQueue engine.log = true :=
          Bool.and_eq_true_iff.mp own
        have still : pending engine.log = Option.none := by
          simpa [log, pending, region] using none
        rw [queue, invariant.idle still both.2, invariant.cacheOff both.1 region]
        rfl
      · intro want got armed
        have still : pending engine.log = some (want, got) := by
          simpa [log, pending, region] using armed
        rw [queue, invariant.cacheOff (everRestarted_of_pending still) region, List.append_nil]
        exact invariant.replaying want got still
  | true =>
      obtain ⟨unspent, first⟩ := once region
      have owed := invariant.rearmed region unspent first
      refine ⟨invariant.rewindable, fun _ _ => rfl, ?_, ?_, ?_, ?_, complete⟩
      · -- the region counts as rewound only once there was something to replay
        intro _ never _
        rw [log] at never ⊢
        simp only [rewound, Bool.or_eq_false_iff, Bool.not_eq_eq_eq_not, Bool.not_false,
          List.isEmpty_iff] at never
        simp only [issued, never.1]
        rfl
      · intro _ again _
        rw [log] at again
        refine ⟨rfl, queue.trans owed, ?_⟩
        rcases Bool.or_eq_true_iff.mp again with some | already
        · simpa [issued, log] using some
        · exact (invariant.requeued region already unspent).2.2
      · intro armed _
        rw [log] at armed
        simp [pending, region] at armed
      · intro want got armed
        rw [log] at armed
        simp only [pending, region, if_true, Option.some.injEq, Prod.mk.injEq] at armed
        obtain ⟨rfl, rfl⟩ := armed
        exact (queue.trans owed).symm

theorem RewindInvariant.throw {before after : RunEngine} (invariant : RewindInvariant before)
    (log : after.log = .thrown sink thrown :: before.log)
    (msgCache : after.state.msgCache = before.state.msgCache)
    (replayQueue : after.state.replayQueue = [])
    (rewindable : after.state.rewindable = before.state.rewindable) : RewindInvariant after where
  rewindable := by
    rw [rewindable, log]
    exact invariant.rewindable
  cacheOff := by
    rw [msgCache, log]
    exact invariant.cacheOff
  cached := by
    rw [msgCache, log]
    exact fun on first unspent => invariant.cached on first (Bool.or_eq_false_iff.mp unspent).1
  requeued := by
    rw [log]
    intro _ again unspent
    have gone : rewound before.log = false := (Bool.or_eq_false_iff.mp unspent).2
    exact absurd again (by simp [rewound, gone])
  idle := fun _ _ => replayQueue
  replaying := by
    intro want got armed
    rw [log] at armed
    cases armed
  complete := by
    rw [log]
    exact ⟨trivial, invariant.complete⟩

theorem RewindInvariant.replayed {engine : RunEngine} (invariant : RewindInvariant engine)
    (queued : engine.state.replayQueue = msg :: rest) :
    RewindInvariant ((engine.withState fun state =>
      { state with replayQueue := rest }).record (.replayed msg)) := by
  refine ⟨invariant.rewindable, invariant.cacheOff, (fun _ _ => nofun), fun _ _ => nofun, ?_, ?_,
    ⟨trivial, invariant.complete⟩⟩
  · intro none own
    have idle : pending engine.log = Option.none := by
      simpa [RunEngine.record, RunEngine.withState, pending] using none
    rw [invariant.idle idle own] at queued
    cases queued
  · intro want got armed
    have before : ∃ earlier, pending engine.log = some (want, earlier) ∧ earlier ++ [msg] = got := by
      simpa [RunEngine.record, RunEngine.withState, pending] using armed
    obtain ⟨earlier, was, rfl⟩ := before
    have split := invariant.replaying want earlier was
    rw [queued] at split
    simpa [RunEngine.record, RunEngine.withState] using split

/-- The plan's end, or an item that is never cached. -/
theorem RewindInvariant.next {engine : RunEngine} (invariant : RewindInvariant engine)
    (next : entry = .ended ∨ ∃ msg, entry = .pulled (.respond msg))
    (idle : engine.state.replayQueue = []) : RewindInvariant (engine.record entry) := by
  have requeued : ∀ _ : rewindableNow engine.log = true, ∀ _ : rewound engine.log = true,
      ∀ _ : spent engine.log = false, engine.state.msgCache = [] ∧
        engine.state.replayQueue = issued engine.log ∧ issued engine.log ≠ [] := invariant.requeued
  rcases next with rfl | ⟨msg, rfl⟩
  · exact ⟨invariant.rewindable, invariant.cacheOff, invariant.cached, requeued, fun _ _ => idle,
      nofun, ⟨invariant.playedOut idle, invariant.complete⟩⟩
  · exact ⟨invariant.rewindable, invariant.cacheOff, invariant.cached, requeued, fun _ _ => idle,
      nofun, ⟨invariant.playedOut idle, invariant.complete⟩⟩

theorem RewindInvariant.pulled {engine : RunEngine} (invariant : RewindInvariant engine) (msg : Msg)
    (idle : engine.state.replayQueue = []) :
    RewindInvariant ((engine.withState fun state =>
      { state with
        msgCache := if state.rewindable ∧ msg.isCacheable then state.msgCache ++ [msg]
          else state.msgCache }).record (.pulled (.bare msg))) := by
  refine ⟨invariant.rewindable, ?_, ?_, ?_, fun _ _ => idle, nofun,
    ⟨invariant.playedOut idle, invariant.complete⟩⟩
  · intro ever off
    have still : engine.state.rewindable = false := (invariant.rewindable ever).trans off
    simpa [RunEngine.record, RunEngine.withState, still] using invariant.cacheOff ever off
  · intro on first unspent
    have still : engine.state.rewindable = true :=
      (invariant.rewindable (everRestarted_of_rewindableNow on)).trans on
    have cache := invariant.cached on first unspent
    by_cases cacheable : msg.isCacheable = true
    · simp [RunEngine.record, RunEngine.withState, still, cacheable, issued, cache]
    · simp [RunEngine.record, RunEngine.withState, still, cacheable, issued, cache]
  · intro on again unspent
    have gone : spent engine.log = true := invariant.not_requeued idle on again
    exact absurd unspent (by simp [RunEngine.record, RunEngine.withState, spent, gone])

/-- One move keeps the invariant as long as no replay is spent and wanted again. -/
theorem rewindInvariant_step {before after : RunEngine} (move : RegionStep before after)
    (invariant : Always RewindsOnce before.log → RewindInvariant before) (once : Always RewindsOnce after.log) :
    RewindInvariant after := by
  cases move with
  | same log msgCache replayQueue rewindable =>
      have known := (Always.grows rewindsOnce_silent log).mp once
      exact (invariant known).same log msgCache replayQueue rewindable
  | restart on bundling log msgCache replayQueue rewindable =>
      rw [log] at once
      exact (invariant once.2).restart log msgCache replayQueue rewindable
  | cut msg =>
      have held := invariant once.2
      exact ⟨held.rewindable, held.cacheOff, held.cached, held.requeued, held.idle,
        held.replaying, ⟨trivial, held.complete⟩⟩
  | arm => exact (invariant once.2).arm once.2 once.1
  | throw sink thrown log msgCache replayQueue rewindable =>
      rw [log] at once
      exact (invariant once.2).throw log msgCache replayQueue rewindable
  | replayed msg rest queued => exact (invariant once.2).replayed queued
  | next entry next idle => exact (invariant once.2).next next idle
  | pulled msg idle => exact (invariant once.2).pulled msg idle

private theorem rewindInvariant_start (engine : RunEngine) (plan : σ) :
    RewindInvariant (Config.start engine plan).engine :=
  ⟨nofun, nofun, nofun, nofun, nofun, nofun, trivial⟩

private def sleepingPlan : List PlanItem :=
  [.bare .checkpoint, .bare (.sleep "1")]

end Bsrs.Engine
