import Bsrs.Engine.RegionStep

namespace Bsrs.Engine

open Bsrs.Library (Grows Always)
open Bsrs.EventModel
open Bsrs.Core

/-! ## Messages a pause cuts short -/

/-- The message in hand, when a rewind would bring it back: pulled `Bare` in a rewindable region
that has not restarted since. -/
def inHand : List Entry → Option Msg
  | [] => none
  | .pulled (.bare msg) :: rest => if rewindableNow rest ∧ msg.isCacheable then some msg else none
  | .pulled (.respond _) :: _ | .ended :: _ | .replayed _ :: _ | .restarted _ _ :: _
  | .resumed _ :: _ | .cut _ :: _ => none
  | _ :: rest => inHand rest

/-- What the cache holds of a rewindable region: the cacheable messages pulled since it last
restarted or the run was last resumed, oldest first. -/
def region : List Entry → List Msg
  | [] => []
  | .restarted _ _ :: _ | .resumed _ :: _ => []
  | .pulled (.bare msg) :: rest => if msg.isCacheable then region rest ++ [msg] else region rest
  | _ :: rest => region rest

/-- The group a message's status joins. -/
def groupOf (msg : Msg) : Option GroupId :=
  match (route msg).2 with
  | .set _ _ group | .trigger _ group | .kickoff _ group | .complete _ group
  | .prepare _ _ group => group
  | _ => none

/-- The messages that issued a status into the group, the latest first; `none` is one of a
suspender's plan. -/
def issuers (group : GroupId) : List Entry → List (Option Msg)
  | [] => []
  | .handled msg none :: rest =>
      if groupOf msg = some group then some msg :: issuers group rest else issuers group rest
  | .injected msg none :: rest =>
      if groupOf msg = some group then none :: issuers group rest else issuers group rest
  | _ :: rest => issuers group rest

/-- How many statuses the latest Wait on the group took out of it. -/
def waitedFor (group : GroupId) : List Entry → Nat
  | [] => 0
  | .awaited other members :: rest => if other = group then members.length else waitedFor group rest
  | _ :: rest => waitedFor group rest

/-- What issued the statuses a Wait on the group took, oldest first: a Wait takes all there are, so
these are the latest. `none` is what no message of this call's plan issued. -/
def covered (group : GroupId) (log : List Entry) : List (Option Msg) :=
  ((issuers group log ++ List.replicate (waitedFor group log) none).take (waitedFor group log)).reverse

/-- What has to be issued again for `msg`, cut short, to complete when it is handled again. -/
def covers (msg : Msg) (log : List Entry) : List (Option Msg) :=
  match (route msg).2 with
  | .wait group _ _ => covered group log
  | _ => []

/-- A message cut short and not handled again: `copies` counts the equal messages to replay up to
and including it, `covers` what is to be issued before it, and `resumed` tells whether the run was
resumed since. -/
structure Owed where
  msg : Msg
  copies : Nat
  covers : List (Option Msg)
  resumed : Bool
  deriving DecidableEq

/-- What is owed of `owed` once `msg` was handled in a replay. A Wait handled with a status it
covered not issued again stays owed. -/
def Owed.replayed (owed : Owed) (msg : Msg) : Option Owed :=
  if owed.resumed = false then
    some owed
  else if owed.msg = msg ∧ owed.copies ≤ 1 ∧ owed.covers = [] then
    none
  else
    some { owed with
      copies := if owed.msg = msg then owed.copies - 1 else owed.copies
      covers := if owed.covers.head? = some (some msg) then owed.covers.tail else owed.covers }

/-- The messages cut short and not handled again. A value thrown before the resume ends the pause
instead. -/
def owed : List Entry → List Owed
  | [] => []
  | .cut msg :: rest =>
      ⟨msg, max 1 ((region rest).count msg), covers msg rest, false⟩ :: owed rest
  | .resumed _ :: rest => (owed rest).map fun item => { item with resumed := true }
  | .replayed msg :: rest => (owed rest).filterMap fun item => item.replayed msg
  | .thrown _ _ :: rest => (owed rest).filter Owed.resumed
  | .pulled _ :: _ | .ended :: _ => []
  | _ :: rest => owed rest

/-- An item is pulled from the plan only once a resumed run owes nothing. -/
def PullsUnowing : Entry → List Entry → Prop
  | .pulled _, rest | .ended, rest => ∀ item ∈ owed rest, item.resumed = false
  | _, _ => True

/-- Only messages a rewind brings back are cut short, a Wait with all that issued the statuses it
was waiting for; no region restarts between the cut and the resume, and no value is thrown before
the message is handled again. -/
def CutsCached : Entry → List Entry → Prop
  | .cut msg, rest => inHand rest = some msg ∧
      (covers msg rest).Sublist ((region rest).dropLast.map some)
  | .restarted _ _, rest => ∀ item ∈ owed rest, item.resumed = true
  | .thrown _ _, rest => ∀ item ∈ owed rest, item.resumed = false
  | _, _ => True

instance : ∀ entry rest, Decidable (PullsUnowing entry rest) := by
  rintro (_ | _) rest <;> dsimp only [PullsUnowing] <;> infer_instance

instance : ∀ entry rest, Decidable (CutsCached entry rest) := by
  rintro (_ | _) rest <;> dsimp only [CutsCached] <;> infer_instance

section Skips

variable (entry : Entry) (rest : List Entry) (silent : entry.isSilent = true)
include silent

private theorem owed_skips : owed (entry :: rest) = owed rest := by
  cases entry <;> first | rfl | cases silent

private theorem region_skips : region (entry :: rest) = region rest := by
  cases entry <;> first | rfl | cases silent

private theorem inHand_skips : inHand (entry :: rest) = inHand rest := by
  cases entry <;> first | rfl | cases silent

private theorem pullsUnowing_silent : PullsUnowing entry rest := by
  cases entry <;> trivial

private theorem cutsCached_silent : CutsCached entry rest := by
  cases entry <;> trivial

end Skips

/-- A message in hand that a rewind brings back is the last one of the region. -/
theorem inHand_cached {log : List Entry} (held : inHand log = some msg) :
    rewindableNow log = true ∧ ∃ front, region log = front ++ [msg] := by
  induction log with
  | nil => cases held
  | cons entry rest ih =>
      cases entry with
      | pulled item =>
          cases item with
          | bare other =>
              simp only [inHand, Option.ite_none_right_eq_some, Option.some.injEq] at held
              obtain ⟨⟨on, cacheable⟩, rfl⟩ := held
              exact ⟨on, region rest, by rw [region, if_pos cacheable]⟩
          | respond other => cases held
      | ended | replayed _ | restarted _ _ | resumed _ | cut _ => cases held
      | _ => exact ih held

/-- The messages to come hold what is owed: the issuers it covers, in their order, and the owed
message behind them. -/
def Owed.Within (owed : Owed) (coming : List Msg) : Prop :=
  ∃ front back, coming = front ++ owed.msg :: back ∧ owed.copies = front.count owed.msg + 1 ∧
    owed.covers.Sublist (front.map some)

theorem Owed.Within.append {owed : Owed} {coming : List Msg} (within : owed.Within coming)
    (more : List Msg) : owed.Within (coming ++ more) := by
  obtain ⟨front, back, rfl, copies, covers⟩ := within
  exact ⟨front, back ++ more, by simp, copies, covers⟩

private theorem sublist_of_cons {short long : List (Option Msg)}
    (sub : short.Sublist (some msg :: long)) :
    (if short.head? = some (some msg) then short.tail else short).Sublist long := by
  cases sub with
  | cons _ later =>
      split
      · exact short.tail_sublist.trans later
      · exact later
  | cons_cons _ later => simpa using later

/-- What is left of an owed message once one of the messages that hold it was handled. -/
theorem Owed.Within.replayed {before after : Owed} {msg : Msg} {rest : List Msg}
    (within : before.Within (msg :: rest)) (again : before.resumed = true)
    (left : before.replayed msg = some after) : after.Within rest := by
  obtain ⟨front, back, split, copies, covers⟩ := within
  rw [Owed.replayed, if_neg (by simp [again])] at left
  cases front with
  | nil =>
      -- the owed message itself comes first, with nothing it covers left before it
      obtain ⟨rfl, rfl⟩ := List.cons.inj split
      have none : before.covers = [] := List.sublist_nil.mp covers
      rw [if_pos ⟨rfl, by simp [copies], none⟩] at left
      cases left
  | cons first front =>
      obtain ⟨rfl, rfl⟩ := List.cons.inj split
      split at left
      · cases left
      · cases left
        refine ⟨front, back, rfl, ?_, sublist_of_cons covers⟩
        by_cases same : before.msg = msg
        · simp [copies, same]
        · simp [copies, same, Ne.symm same]

theorem Owed.replayed_resumed {before after : Owed} {msg : Msg}
    (left : before.replayed msg = some after) : after.resumed = before.resumed := by
  unfold replayed at left
  split at left
  · cases left
    rfl
  · split at left
    · cases left
    · cases left
      rfl

/-! ## What is owed is in the cache, then in the replay -/

structure CutInvariant (engine : RunEngine) : Prop where
  rewindable : everRestarted engine.log = true →
    engine.state.rewindable = rewindableNow engine.log
  cached : rewindableNow engine.log = true → engine.state.msgCache = region engine.log
  handed : (inHand engine.log).isSome = true → engine.state.replayQueue = []
  waiting : ∀ item ∈ owed engine.log, item.resumed = false →
    item.Within engine.state.msgCache ∧ engine.state.replayQueue = []
  replaying : ∀ item ∈ owed engine.log, item.resumed = true →
    item.Within engine.state.replayQueue
  complete : Always PullsUnowing engine.log

/-- With nothing queued, a resumed run owes nothing. -/
theorem CutInvariant.unowing {engine : RunEngine} (invariant : CutInvariant engine)
    (idle : engine.state.replayQueue = []) : ∀ item ∈ owed engine.log, item.resumed = false := by
  intro item member
  cases again : item.resumed with
  | false => rfl
  | true =>
      obtain ⟨front, back, queued, -⟩ := invariant.replaying item member again
      simp [idle] at queued

theorem CutInvariant.same {before after : RunEngine} (invariant : CutInvariant before)
    (log : Grows Entry.isSilent before.log after.log)
    (msgCache : after.state.msgCache = before.state.msgCache)
    (replayQueue : after.state.replayQueue = before.state.replayQueue)
    (rewindable : after.state.rewindable = before.state.rewindable) : CutInvariant after where
  rewindable := by
    rw [rewindable, log.reading rewindableNow_skips, log.reading everRestarted_skips]
    exact invariant.rewindable
  cached := by
    rw [msgCache, log.reading rewindableNow_skips, log.reading region_skips]
    exact invariant.cached
  handed := by
    rw [replayQueue, log.reading inHand_skips]
    exact invariant.handed
  waiting := by
    rw [msgCache, replayQueue, log.reading owed_skips]
    exact invariant.waiting
  replaying := by
    rw [replayQueue, log.reading owed_skips]
    exact invariant.replaying
  complete := (Always.grows pullsUnowing_silent log).mpr invariant.complete

theorem CutInvariant.restart {before after : RunEngine} (invariant : CutInvariant before)
    (resumed : ∀ item ∈ owed before.log, item.resumed = true)
    (log : after.log = .restarted on bundling :: before.log) (msgCache : after.state.msgCache = [])
    (replayQueue : after.state.replayQueue = before.state.replayQueue)
    (rewindable : after.state.rewindable = on) : CutInvariant after where
  rewindable := by
    rw [rewindable, log]
    exact fun _ => rfl
  cached := by
    rw [msgCache, log]
    exact fun _ => rfl
  handed := by
    rw [log]
    exact nofun
  waiting := by
    intro item member never
    rw [log] at member
    exact absurd (resumed item member) (by simp [never])
  replaying := by
    rw [replayQueue, log]
    exact invariant.replaying
  complete := by
    rw [log]
    exact ⟨trivial, invariant.complete⟩

theorem CutInvariant.cut {engine : RunEngine} (invariant : CutInvariant engine)
    (held : inHand engine.log = some msg)
    (covered : (covers msg engine.log).Sublist ((region engine.log).dropLast.map some)) :
    CutInvariant (engine.record (.cut msg)) := by
  obtain ⟨on, front, last⟩ := inHand_cached held
  have idle : engine.state.replayQueue = [] := invariant.handed (by rw [held]; rfl)
  refine ⟨invariant.rewindable, invariant.cached, nofun, ?_, ?_, ⟨trivial, invariant.complete⟩⟩
  · intro item member waits
    rcases List.mem_cons.mp member with rfl | earlier
    · rw [last, List.dropLast_concat] at covered
      refine ⟨⟨front, [], ?_, ?_, covered⟩, idle⟩
      · exact (invariant.cached on).trans last
      · simp [last]
    · exact invariant.waiting item earlier waits
  · intro item member again
    rcases List.mem_cons.mp member with rfl | earlier
    · cases again
    · exact invariant.replaying item earlier again

/-- A resume moves what is owed from the cache to the replay. -/
theorem CutInvariant.arm {engine : RunEngine} (invariant : CutInvariant engine) :
    CutInvariant engine.armReplay := by
  refine ⟨invariant.rewindable, fun _ => rfl, nofun, ?_, ?_, ⟨trivial, invariant.complete⟩⟩
  · intro item member waits
    obtain ⟨before, earlier, rfl⟩ := List.mem_map.mp member
    cases waits
  · intro item member again
    obtain ⟨before, earlier, rfl⟩ := List.mem_map.mp member
    have queue : engine.armReplay.state.replayQueue =
        engine.state.replayQueue ++ engine.state.msgCache := rfl
    rw [queue]
    cases already : before.resumed with
    | true => exact (invariant.replaying before earlier already).append _
    | false =>
        obtain ⟨cached, idle⟩ := invariant.waiting before earlier already
        rw [idle]
        exact cached

theorem CutInvariant.throw {before after : RunEngine} (invariant : CutInvariant before)
    (waits : ∀ item ∈ owed before.log, item.resumed = false)
    (log : after.log = .thrown sink thrown :: before.log)
    (msgCache : after.state.msgCache = before.state.msgCache)
    (replayQueue : after.state.replayQueue = [])
    (rewindable : after.state.rewindable = before.state.rewindable) : CutInvariant after := by
  have none : ∀ item, item ∉ owed after.log := by
    intro item member
    rw [log] at member
    obtain ⟨earlier, again⟩ := List.mem_filter.mp member
    exact absurd again (by simp [waits item earlier])
  refine ⟨?_, ?_, fun _ => replayQueue, fun item member => absurd member (none item),
    fun item member => absurd member (none item), ?_⟩
  · rw [rewindable, log]
    exact invariant.rewindable
  · rw [msgCache, log]
    exact invariant.cached
  · rw [log]
    exact ⟨trivial, invariant.complete⟩

theorem CutInvariant.replayed {engine : RunEngine} (invariant : CutInvariant engine)
    (queued : engine.state.replayQueue = msg :: rest) :
    CutInvariant ((engine.withState fun state =>
      { state with replayQueue := rest }).record (.replayed msg)) := by
  refine ⟨invariant.rewindable, invariant.cached, nofun, ?_, ?_, ⟨trivial, invariant.complete⟩⟩
  · intro item member waits
    obtain ⟨before, earlier, left⟩ := List.mem_filterMap.mp member
    have idle := (invariant.waiting before earlier
      ((Owed.replayed_resumed left).symm.trans waits)).2
    rw [queued] at idle
    cases idle
  · intro item member again
    obtain ⟨before, earlier, left⟩ := List.mem_filterMap.mp member
    have resumed : before.resumed = true := (Owed.replayed_resumed left).symm.trans again
    have within := invariant.replaying before earlier resumed
    rw [queued] at within
    exact within.replayed resumed left

/-- The plan's end, or an item that is never cached. -/
theorem CutInvariant.next {engine : RunEngine} (invariant : CutInvariant engine)
    (next : entry = .ended ∨ ∃ msg, entry = .pulled (.respond msg))
    (idle : engine.state.replayQueue = []) : CutInvariant (engine.record entry) := by
  rcases next with rfl | ⟨msg, rfl⟩
  · exact ⟨invariant.rewindable, invariant.cached, nofun, nofun, nofun,
      ⟨invariant.unowing idle, invariant.complete⟩⟩
  · exact ⟨invariant.rewindable, invariant.cached, nofun, nofun, nofun,
      ⟨invariant.unowing idle, invariant.complete⟩⟩

theorem CutInvariant.pulled {engine : RunEngine} (invariant : CutInvariant engine) (msg : Msg)
    (idle : engine.state.replayQueue = []) :
    CutInvariant ((engine.withState fun state =>
      { state with
        msgCache := if state.rewindable ∧ msg.isCacheable then state.msgCache ++ [msg]
          else state.msgCache }).record (.pulled (.bare msg))) := by
  refine ⟨invariant.rewindable, ?_, fun _ => idle, nofun, nofun,
    ⟨invariant.unowing idle, invariant.complete⟩⟩
  intro on
  have still : engine.state.rewindable = true :=
    (invariant.rewindable (everRestarted_of_rewindableNow on)).trans on
  have cache := invariant.cached on
  by_cases cacheable : msg.isCacheable = true
  · simp [RunEngine.record, RunEngine.withState, still, cacheable, region, cache]
  · simp [RunEngine.record, RunEngine.withState, still, cacheable, region, cache]

/-- One move keeps the invariant as long as only cached messages are cut short. -/
theorem cutInvariant_step {before after : RunEngine} (move : RegionStep before after)
    (invariant : Always CutsCached before.log → CutInvariant before)
    (cached : Always CutsCached after.log) : CutInvariant after := by
  cases move with
  | same log msgCache replayQueue rewindable =>
      have known := (Always.grows cutsCached_silent log).mp cached
      exact (invariant known).same log msgCache replayQueue rewindable
  | restart on bundling log msgCache replayQueue rewindable =>
      rw [log] at cached
      exact (invariant cached.2).restart cached.1 log msgCache replayQueue rewindable
  | cut msg => exact (invariant cached.2).cut cached.1.1 cached.1.2
  | arm => exact (invariant cached.2).arm
  | throw sink thrown log msgCache replayQueue rewindable =>
      rw [log] at cached
      exact (invariant cached.2).throw cached.1 log msgCache replayQueue rewindable
  | replayed msg rest queued => exact (invariant cached.2).replayed queued
  | next entry next idle => exact (invariant cached.2).next next idle
  | pulled msg idle => exact (invariant cached.2).pulled msg idle

private def motor : Obj where
  ptr := 0
  name := "motor"
  hintFields := none
  configurable := false
  collectable := false
  writesExternalAssets := false

private def movedInto (group : GroupId) : PlanItem :=
  .bare (.set motor "1" (some group))

private def waited (group : GroupId) : PlanItem :=
  .bare (.wait group true none)

end Bsrs.Engine
