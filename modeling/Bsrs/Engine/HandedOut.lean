import Mathlib.Order.Interval.Finset.Nat
import Bsrs.Engine.SequenceInvariant

namespace Bsrs.Engine

open Bsrs.Library (Table Action Grows Always)
open Bsrs.Library.Action
open Bsrs.EventModel
open Bsrs.Core

/-- The sequence numbers handed out in a stream since its run was opened: those of the messages of
the plan as they use the counter, those of the engine's own Events as they go out. -/
def handedOut (key : RunKey) (stream : String) : List Entry → Finset Nat
  | [] => ∅
  | .opened other _ :: rest => if other = key then ∅ else handedOut key stream rest
  | .counted other name numbers :: rest =>
      if other = key ∧ name = stream then
        Finset.Ico numbers.start numbers.stop ∪ handedOut key stream rest
      else handedOut key stream rest
  | .emitted other name source event :: rest =>
      if other = key ∧ name = stream ∧ source ≠ .bundle then
        insert event.seqNum (handedOut key stream rest)
      else handedOut key stream rest
  | _ :: rest => handedOut key stream rest

/-- A RunStop gives, for every stream, how many sequence numbers were handed out in it. -/
def Summed : Entry → List Entry → Prop
  | .closed key stop, rest =>
      ∀ stream, (stop.numEvents.lookup stream).getD 0 = (handedOut key stream rest).card
  | _, _ => True

/-- The stream whose counter the entry is about. -/
def Entry.stream? : Entry → Option String
  | .counted _ name _ => some name
  | .emitted _ name _ _ => some name
  | _ => none

/-- No counter of the open run `key` stands below a number handed out in its stream. -/
def RunEngine.isLevel (engine : RunEngine) (key : RunKey) : Bool :=
  (engine.state.bundler key).all fun bundler => engine.log.all fun entry => entry.stream?.all fun name =>
    decide (∀ number ∈ handedOut key name engine.log, number ≤ bundler.bundle.seqNum name)

/-- What was handed out is an initial stretch of the numbers, which a rewind stays within. -/
structure Peaked (gauge : Gauge) (numbers : Finset Nat) (peak : Nat) : Prop where
  handed : numbers = Finset.Icc 1 peak
  count : gauge.count ≤ peak
  target : ∀ target ∈ gauge.target, target ≤ peak

section

variable {key : RunKey} {stream : String} {before after : RunEngine}

private theorem handedOut_skips (entry : Entry) (rest : List Entry)
    (beside : entry.isBeside key stream = true) :
    handedOut key stream (entry :: rest) = handedOut key stream rest := by
  cases entry <;> grind [handedOut, Entry.isBeside]

/-- A stream that handed a number out is named in the log. -/
private theorem named_of_handedOut {log : List Entry} {number : Nat}
    (member : number ∈ handedOut key stream log) : ∃ entry ∈ log, entry.stream? = some stream := by
  induction log with
  | nil => simp [handedOut] at member
  | cons entry rest ih =>
      have later : number ∈ handedOut key stream rest →
          ∃ other ∈ entry :: rest, other.stream? = some stream := by
        intro past
        obtain ⟨other, found, named⟩ := ih past
        exact ⟨other, List.mem_cons_of_mem _ found, named⟩
      cases entry with
      | counted other name numbers =>
          by_cases here : other = key ∧ name = stream
          · exact ⟨_, List.mem_cons_self .., congrArg some here.2⟩
          · rw [handedOut, if_neg here] at member
            exact later member
      | emitted other name source event =>
          by_cases here : other = key ∧ name = stream ∧ source ≠ .bundle
          · exact ⟨_, List.mem_cons_self .., congrArg some here.2.1⟩
          · rw [handedOut, if_neg here] at member
            exact later member
      | opened other start =>
          rw [handedOut] at member
          split at member
          · simp at member
          · exact later member
      | _ => exact later member

/-! ## The peak of a counter -/

/-- What a stream has handed out, whatever its counter was rolled back to since. -/
def PeakInvariant (key : RunKey) (stream : String) (engine : RunEngine) : Prop :=
  ∀ gauge ∈ engine.gauge key stream, ∃ peak, Peaked gauge (handedOut key stream engine.log) peak

private theorem handedOut_fed (log : List Entry) {source : Source} (engines : source ≠ .bundle)
    (event : Event) : handedOut key stream (.emitted key stream source event :: log) =
      insert event.seqNum (handedOut key stream log) :=
  if_pos ⟨rfl, rfl, engines⟩

private theorem handedOut_sentOut (log : List Entry) (event : Event) :
    handedOut key stream (.emitted key stream .bundle event :: log) = handedOut key stream log :=
  if_neg fun all => all.2.2 rfl

private theorem handedOut_counted (log : List Entry) (numbers : StreamRange) :
    handedOut key stream (.counted key stream numbers :: log) =
      Finset.Ico numbers.start numbers.stop ∪ handedOut key stream log :=
  if_pos ⟨rfl, rfl⟩

private theorem Ico_union_Icc {count peak reached : Nat} (below : count ≤ peak) :
    Finset.Ico (count + 1) (reached + 1) ∪ Finset.Icc 1 peak = Finset.Icc 1 (max peak reached) := by
  ext number
  simp only [Finset.mem_union, Finset.mem_Ico, Finset.mem_Icc]
  omega

private theorem insert_Icc {count peak : Nat} (below : count ≤ peak) :
    insert (count + 1) (Finset.Icc 1 peak) = Finset.Icc 1 (max peak (count + 1)) := by
  ext number
  simp only [Finset.mem_insert, Finset.mem_Icc]
  omega

theorem peakInvariant_step (move : StreamStep key stream before after)
    (held : PeakInvariant key stream before) : PeakInvariant key stream after := by
  intro current found
  cases move with
  | same gauge log =>
      rw [gauge] at found
      rw [log.reading handedOut_skips]
      exact held current found
  | fed gauge source event engines was now numbered log =>
      obtain rfl := Option.some.inj (now.symm.trans found)
      obtain ⟨peak, peaked⟩ := held gauge was
      rw [log, handedOut_fed _ engines, numbered, peaked.handed, insert_Icc peaked.count]
      exact ⟨_, rfl, le_max_right _ _, fun target some =>
        (peaked.target target some).trans (le_max_left _ _)⟩
  | sentOut event gauge log =>
      rw [gauge] at found
      rw [log, handedOut_sentOut]
      exact held current found
  | counted gauge count was now more log =>
      obtain rfl := Option.some.inj (now.symm.trans found)
      obtain ⟨peak, peaked⟩ := held gauge was
      rw [log, handedOut_counted, peaked.handed, Ico_union_Icc peaked.count]
      exact ⟨_, rfl, le_max_right _ _, fun target some =>
        (peaked.target target some).trans (le_max_left _ _)⟩
  | opened start gauge log =>
      obtain rfl := Option.some.inj (gauge.symm.trans found)
      have none : handedOut key stream after.log = ∅ := by
        rw [log]
        exact if_pos rfl
      exact ⟨0, none, le_rfl, nofun⟩
  | closed gauge stop was now number log =>
      rw [now] at found
      cases found
  | lost gauge log =>
      rw [gauge] at found
      cases found
  | restarted on bundling target recorded gauge log =>
      rw [gauge] at found
      obtain ⟨earlier, was, rfl⟩ := Option.map_eq_some_iff.mp found
      obtain ⟨peak, peaked⟩ := held earlier was
      rw [log]
      refine ⟨peak, peaked.handed, peaked.count, fun value some => ?_⟩
      rw [recorded earlier.count value some]
      exact peaked.count
  | resumed replay rolled log =>
      obtain ⟨earlier, was, back⟩ := rolled current found
      obtain ⟨peak, peaked⟩ := held earlier was
      rw [log]
      rcases back with rfl | ⟨-, target, some, rfl⟩
      · exact ⟨peak, peaked⟩
      · exact ⟨peak, peaked.handed, peaked.target target some, peaked.target⟩

/-! ## Level counters -/

/-- The counter of an open run's stream stands at the last number handed out. -/
def Level (key : RunKey) (stream : String) (engine : RunEngine) : Prop :=
  ∀ gauge ∈ engine.gauge key stream,
    handedOut key stream engine.log = Finset.Icc 1 gauge.count

theorem level_of_isLevel (held : PeakInvariant key stream after) (level : after.isLevel key = true) :
    Level key stream after := by
  intro gauge found
  obtain ⟨peak, peaked⟩ := held gauge found
  obtain ⟨bundler, open_, rfl⟩ := Option.map_eq_some_iff.mp found
  have reached : peak ≤ bundler.bundle.seqNum stream := by
    by_cases none : peak = 0
    · omega
    · have handed : peak ∈ handedOut key stream after.log := by
        rw [peaked.handed, Finset.mem_Icc]
        omega
      obtain ⟨entry, member, named⟩ := named_of_handedOut handed
      unfold RunEngine.isLevel at level
      rw [open_] at level
      have checked := List.all_eq_true.mp level entry member
      rw [named] at checked
      exact of_decide_eq_true checked peak handed
  have count : peak = bundler.bundle.seqNum stream := le_antisymm reached peaked.count
  rw [peaked.handed, count]
  rfl

/-- Only a rewind takes a counter below what it has handed out. -/
private theorem level_step (move : StreamStep key stream before after)
    (onward : ∀ replay, after.log ≠ .resumed replay :: before.log)
    (level : Level key stream before) : Level key stream after := by
  intro current found
  cases move with
  | same gauge log =>
      rw [gauge] at found
      rw [log.reading handedOut_skips]
      exact level current found
  | fed gauge source event engines was now numbered log =>
      obtain rfl := Option.some.inj (now.symm.trans found)
      rw [log, handedOut_fed _ engines, numbered, level gauge was, insert_Icc le_rfl]
      congr
      exact max_eq_right (Nat.le_succ _)
  | sentOut event gauge log =>
      rw [gauge] at found
      rw [log, handedOut_sentOut]
      exact level current found
  | counted gauge count was now more log =>
      obtain rfl := Option.some.inj (now.symm.trans found)
      rw [log, handedOut_counted, level gauge was, Ico_union_Icc le_rfl]
      congr
      exact max_eq_right more
  | opened start gauge log =>
      obtain rfl := Option.some.inj (gauge.symm.trans found)
      rw [log]
      exact if_pos rfl
  | closed gauge stop was now number log =>
      rw [now] at found
      cases found
  | lost gauge log =>
      rw [gauge] at found
      cases found
  | restarted on bundling target recorded gauge log =>
      rw [gauge] at found
      obtain ⟨earlier, was, rfl⟩ := Option.map_eq_some_iff.mp found
      rw [log]
      exact level earlier was
  | resumed replay rolled log => exact absurd log (onward replay)

/-- Entries that close no run and rewind nothing. -/
private def Entry.isOnward : Entry → Bool
  | .closed _ _ | .resumed _ => false
  | _ => true

private theorem summed_skips (entry : Entry) (rest : List Entry) (onward : entry.isOnward = true) :
    Summed entry rest := by
  cases entry with
  | closed key stop => cases onward
  | _ => trivial

private theorem not_resumed {log later : List Entry} (grown : Grows Entry.isOnward log later)
    (replay : List Msg) : later ≠ .resumed replay :: log := by
  rintro rfl
  obtain ⟨added, whole, onward⟩ := grown
  obtain rfl : added = [.resumed replay] :=
    List.append_cancel_right (whole.symm.trans (List.singleton_append ..).symm)
  cases onward _ (List.mem_singleton_self _)

private theorem feed_onward (engine : RunEngine) (other : RunKey) (name : String) (source : Source)
    (data timestamps : Table String Value) :
    Grows Entry.isOnward engine.log (engine.feed other name source data timestamps).log := by
  unfold RunEngine.feed
  split
  · exact .refl _
  · split
    · exact .refl _
    · exact .cons rfl _

private theorem effect_onward {scope : Scope} {msg : Msg} (closes : ∀ status reason, msg ≠ .closeRun status reason)
    (effect : Effect scope msg before after) : Grows Entry.isOnward before.log after.log := by
  cases effect with
  | pump update =>
      unfold RunEngine.pump
      split
      · exact feed_onward _ _ _ _ _ _
      · exact .refl _
  | interrupt content owned own describes => exact feed_onward _ _ _ _ _ _
  | trace entry leaves =>
      refine .cons ?_ _
      cases entry <;> first | rfl | exact leaves.elim
  | count owned stream update own uses =>
      unfold RunEngine.countWith
      split
      · exact .cons rfl _
      · exact .refl _
  | request request requests => cases request <;> exact .cons rfl _
  | closed owned bundler uid status reason stop own mayClose found stopped =>
      obtain ⟨status, reason, rfl⟩ := mayClose
      exact absurd rfl (closes status reason)
  | sentOut | opened | restart | clear | due => exact .cons rfl _
  | _ => exact .refl _

/-- The closed runs are summed up, and the counters of these open runs stand level. -/
structure Levelled (among : RunKey → Prop) (engine : RunEngine) : Prop where
  summed : Always Summed engine.log
  level : ∀ key, among key → ∀ stream, Level key stream engine

theorem levelled_of_effects {scope : Scope} {msg : Msg} {among : RunKey → Prop}
    (closes : ∀ status reason, msg ≠ .closeRun status reason)
    (effects : Effects scope msg before after) (held : Levelled among before) :
    Levelled among after := by
  induction effects with
  | refl => exact held
  | tail _ effect ih =>
      have onward := effect_onward closes effect
      refine ⟨(Always.grows summed_skips onward).mpr ih.summed, fun key member stream => ?_⟩
      exact level_step (streamStep_of_engineStep (.handled effect : EngineStep True _ _))
        (not_resumed onward) (ih.level key member stream)

/-- A run that closes level is summed up. -/
theorem closeRunIfOpen_levelled {among : RunKey → Prop} (env : Env) (status : String)
    (reason : Option String) (held : Levelled among before)
    (level : isStopStatus status = true → ∀ stream, Level key stream before) :
    Levelled among (closeRunIfOpen env key status reason before).2 := by
  have closing := closeRunIfOpen_closing env key status reason before
  generalize (closeRunIfOpen env key status reason before).2 = reached at closing ⊢
  generalize (closeRunIfOpen env key status reason before).1 = outcome at closing
  have dropped : ∀ other, among other → ∀ stream, ∀ gauge ∈ (RunEngine.dropRun
      { before with nextUid := before.nextUid + 1 } key).gauge other stream,
      handedOut other stream before.log = Finset.Icc 1 gauge.count := by
    intro other member stream gauge found
    by_cases same : key = other
    · subst same
      rw [gauge_dropRun_self] at found
      cases found
    · rw [gauge_dropRun_ne _ same] at found
      exact held.level other member stream gauge found
  cases closing with
  | absent closed => exact ⟨held.summed, held.level⟩
  | lost slot open_ illegal => exact ⟨held.summed, dropped⟩
  | stopped slot exit cause stop open_ legal stops =>
      let closed : RunEngine := (RunEngine.dropRun
        { before with nextUid := before.nextUid + 1 } key).record (.closed key stop)
      have summed : Summed (.closed key stop) before.log := by
        intro stream
        have count : before.gauge key stream = some (slot.bundler.gauge stream) := by
          simp [RunEngine.gauge, EngineState.bundler, open_]
        rw [RunBundle.stop_numEvents _ _ _ stream stops, level legal stream _ count]
        simp [RunBundler.gauge]
      have sent : Levelled among (closed.record (.broadcast (.stop stop))) :=
        ⟨⟨trivial, summed, held.summed⟩, dropped⟩
      have waits : Keeps (Effects .gate .save) (await env) := await_effects env
      have saves : ∀ status reason, Msg.save ≠ .closeRun status reason := by rintro _ _ ⟨⟩
      exact levelled_of_effects saves (waits _) sent

end

end Bsrs.Engine
