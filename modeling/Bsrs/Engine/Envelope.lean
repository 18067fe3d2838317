import Bsrs.Engine.IsolationInvariant

namespace Bsrs.Engine

open Bsrs.Library (Table Action Grows Always)
open Bsrs.Library.Action
open Bsrs.EventModel
open Bsrs.Core

/-! ## Starts and stops -/

/-- The engine has broadcast the RunStart. -/
def startedIn (start : Uid) (log : List Entry) : Bool :=
  log.any fun entry =>
    match entry with
    | .broadcast (.start doc) => doc.uid = start
    | _ => false

/-- The engine has broadcast a RunStop of the run. -/
def stoppedIn (start : Uid) (log : List Entry) : Bool :=
  log.any fun entry =>
    match entry with
    | .broadcast (.stop doc) => doc.runStart = start
    | _ => false

/-- The RunStart is out, the RunStop is not. -/
def Running (start : Uid) (log : List Entry) : Prop :=
  startedIn start log = true ∧ stoppedIn start log = false

/-- A run has one RunStart, then its other documents, then at most one RunStop. -/
def Enveloped : Entry → List Entry → Prop
  | .broadcast (.start doc), rest => startedIn doc.uid rest = false ∧ stoppedIn doc.uid rest = false
  | .broadcast (.descriptor doc), rest => Running doc.runStart rest
  | .broadcast (.stop doc), rest => Running doc.runStart rest
  | .emitted key _ _ _, rest | .drained key _ _, rest => ∃ start ∈ startOf key rest, Running start rest
  | _, _ => True

/-- The uid of the run in a slot. -/
def RunSlot.start (slot : RunSlot) : Uid :=
  slot.bundler.bundle.startUid

/-- Open runs are running, all others that were started are stopped, but for the one `opening`. -/
structure Wrapped (opening : Option Uid) (engine : RunEngine) : Prop where
  minted : ∀ start, startedIn start engine.log = true → start < engine.nextUid
  current : ∀ key, ∀ slot ∈ engine.state.run key,
    startOf key engine.log = some slot.start ∧ Running slot.start engine.log
  apart : ∀ key other, ∀ slot ∈ engine.state.run key, ∀ held ∈ engine.state.run other,
    slot.start = held.start → key = other
  pending : ∀ start ∈ opening, Running start engine.log ∧
    ∀ key, ∀ slot ∈ engine.state.run key, slot.start ≠ start
  ended : ∀ start, startedIn start engine.log = true → stoppedIn start engine.log = true ∨
    (∃ key, ∃ slot ∈ engine.state.run key, slot.start = start) ∨ start ∈ opening
  always : Always Enveloped engine.log

/-- Entries that start, open, close or stop no run. -/
def Entry.isMidway : Entry → Bool
  | .broadcast (.start _) | .broadcast (.stop _) | .opened _ _ | .closed _ _ => false
  | _ => true

section

variable {key : RunKey} {start : Uid} {log later : List Entry} {before after : RunEngine}

theorem startedIn_skips (entry : Entry) (rest : List Entry) (midway : entry.isMidway = true) :
    startedIn start (entry :: rest) = startedIn start rest := by
  unfold startedIn
  rw [List.any_cons]
  cases entry with
  | broadcast doc =>
      cases doc with
      | start doc => cases midway
      | _ => rfl
  | _ => rfl

theorem stoppedIn_skips (entry : Entry) (rest : List Entry) (midway : entry.isMidway = true) :
    stoppedIn start (entry :: rest) = stoppedIn start rest := by
  unfold stoppedIn
  rw [List.any_cons]
  cases entry with
  | broadcast doc =>
      cases doc with
      | stop doc => cases midway
      | _ => rfl
  | _ => rfl

theorem startOf_midway (entry : Entry) (rest : List Entry) (midway : entry.isMidway = true) :
    startOf key (entry :: rest) = startOf key rest := by
  cases entry with
  | opened => cases midway
  | _ => rfl

theorem running_grows (grown : Grows Entry.isMidway log later) :
    Running start later ↔ Running start log := by
  unfold Running
  rw [grown.reading startedIn_skips, grown.reading stoppedIn_skips]

/-- A RunStop comes after its RunStart. -/
theorem started_of_stopped (always : Always Enveloped log) (stopped : stoppedIn start log = true) :
    startedIn start log = true := by
  obtain ⟨entry, member, names⟩ := List.any_eq_true.mp stopped
  obtain ⟨earlier, rest, rfl⟩ := List.append_of_mem member
  have checked : Enveloped entry rest := (Always.append always).1
  cases entry with
  | broadcast doc =>
      cases doc with
      | stop doc =>
          obtain rfl : doc.runStart = start := of_decide_eq_true names
          obtain ⟨found, opened, same⟩ := List.any_eq_true.mp checked.1
          exact List.any_eq_true.mpr ⟨found, List.mem_append_right _ (List.mem_cons_of_mem _ opened), same⟩
      | _ => cases names
  | _ => cases names

/-! ## Moves that start and stop no run -/

/-- What goes out while the runs with `going` are open. -/
def Airs (going : RunKey → Prop) : Entry → Prop
  | .emitted key _ _ _ | .drained key _ _ => going key
  | entry => entry.isMidway = true

/-- A move that leaves the same runs open, and sends something out for these only. -/
structure Aired (going : RunKey → Prop) (before after : RunEngine) : Prop where
  slots : ∀ key, (after.state.run key).map RunSlot.start = (before.state.run key).map RunSlot.start
  minted : before.nextUid ≤ after.nextUid
  trail : ∃ added, after.log = added ++ before.log ∧ ∀ entry ∈ added, Airs going entry

theorem midway_of_airs {going : RunKey → Prop} {entry : Entry} (airs : Airs going entry) :
    entry.isMidway = true := by
  cases entry <;> first | rfl | exact airs

/-- The same runs are open afterwards. -/
theorem Aired.slot {going : RunKey → Prop} (aired : Aired going before after) {slot : RunSlot}
    (held : slot ∈ after.state.run key) : ∃ earlier ∈ before.state.run key, earlier.start = slot.start := by
  have same := aired.slots key
  rw [Option.mem_def.mp held] at same
  exact Option.map_eq_some_iff.mp same.symm

theorem Aired.slot_back {going : RunKey → Prop} (aired : Aired going before after) {slot : RunSlot}
    (held : slot ∈ before.state.run key) : ∃ next ∈ after.state.run key, next.start = slot.start := by
  have same := aired.slots key
  rw [Option.mem_def.mp held] at same
  exact Option.map_eq_some_iff.mp same

/-- What is sent out of running runs is enveloped. -/
private theorem enveloped_append {added : List Entry} (always : Always Enveloped log)
    (airs : ∀ entry ∈ added, Airs (fun key => ∃ start ∈ startOf key log, Running start log) entry)
    (names : ∀ descriptor, Entry.broadcast (.descriptor descriptor) ∈ added →
      Running descriptor.runStart log) : Always Enveloped (added ++ log) := by
  induction added with
  | nil => exact always
  | cons entry rest ih =>
      have recent : ∀ other ∈ rest, Airs (fun key => ∃ start ∈ startOf key log, Running start log) other :=
        fun other member => airs other (List.mem_cons_of_mem _ member)
      have grown : Grows Entry.isMidway log (rest ++ log) :=
        ⟨rest, rfl, fun other member => midway_of_airs (recent other member)⟩
      refine ⟨?_, ih recent fun descriptor member => names descriptor (List.mem_cons_of_mem _ member)⟩
      have known := airs entry (List.mem_cons_self ..)
      cases entry with
      | emitted key stream source event =>
          obtain ⟨start, opened, running⟩ := known
          exact ⟨start, (grown.reading startOf_midway).trans opened, (running_grows grown).mpr running⟩
      | drained key stream doc =>
          obtain ⟨start, opened, running⟩ := known
          exact ⟨start, (grown.reading startOf_midway).trans opened, (running_grows grown).mpr running⟩
      | broadcast doc =>
          cases doc with
          | start doc => cases known
          | stop doc => cases known
          | descriptor doc => exact (running_grows grown).mpr (names doc (List.mem_cons_self ..))
          | _ => trivial
      | _ => trivial

/-- A Descriptor that goes out is one of an open run. -/
def Ascribed (before after : RunEngine) : Prop :=
  ∃ added, after.log = added ++ before.log ∧
    ∀ descriptor, Entry.broadcast (.descriptor descriptor) ∈ added →
      ∃ key, ∃ slot ∈ before.state.run key, slot.start = descriptor.runStart

/-- The run is open. -/
def IsOpen (engine : RunEngine) (key : RunKey) : Prop :=
  ∃ slot, slot ∈ engine.state.run key

theorem Wrapped.aired {opening : Option Uid} (wrapped : Wrapped opening before)
    (aired : Aired (IsOpen before) before after) (ascribed : Ascribed before after) :
    Wrapped opening after := by
  obtain ⟨added, whole, airs⟩ := aired.trail
  obtain ⟨others, also, names⟩ := ascribed
  obtain rfl : others = added := List.append_cancel_right (also.symm.trans whole)
  have grown : Grows Entry.isMidway before.log after.log :=
    ⟨others, whole, fun entry member => midway_of_airs (airs entry member)⟩
  constructor
  · intro start started
    rw [grown.reading startedIn_skips] at started
    exact (wrapped.minted start started).trans_le aired.minted
  · intro key slot held
    obtain ⟨earlier, was, same⟩ := aired.slot held
    rw [← same, grown.reading startOf_midway, running_grows grown]
    exact wrapped.current key earlier was
  · intro key other slot held found open_ same
    obtain ⟨earlier, was, first⟩ := aired.slot held
    obtain ⟨also, open', second⟩ := aired.slot open_
    exact wrapped.apart key other earlier was also open' (first.trans (same.trans second.symm))
  · intro start waiting
    obtain ⟨running, others⟩ := wrapped.pending start waiting
    refine ⟨(running_grows grown).mpr running, fun key slot held => ?_⟩
    obtain ⟨earlier, was, same⟩ := aired.slot held
    rw [← same]
    exact others key earlier was
  · intro start started
    rw [grown.reading startedIn_skips] at started
    rw [grown.reading stoppedIn_skips]
    refine (wrapped.ended start started).imp_right (Or.imp_left ?_)
    rintro ⟨key, slot, held, rfl⟩
    obtain ⟨next, open_, same⟩ := aired.slot_back held
    exact ⟨key, next, open_, same⟩
  · rw [whole]
    refine enveloped_append wrapped.always (fun entry member => ?_) fun descriptor member => ?_
    · have known := airs entry member
      have running : ∀ {key}, IsOpen before key → ∃ start ∈ startOf key before.log,
          Running start before.log := by
        rintro key ⟨slot, held⟩
        exact ⟨slot.start, wrapped.current key slot held⟩
      cases entry with
      | emitted key stream source event => exact running known
      | drained key stream doc => exact running known
      | _ => exact known
    · obtain ⟨key, slot, held, same⟩ := names descriptor member
      rw [← same]
      exact (wrapped.current key slot held).2

/-! ## Effects that start and stop no run -/

/-- A handler that opens and closes nothing, and sends out for the runs with `going` only. -/
structure Stages (going : RunKey → Prop) (scope : Scope) (msg : Msg) : Prop where
  opens : ∀ metadata, msg ≠ .openRun metadata
  closes : ∀ status reason, msg ≠ .closeRun status reason
  starts : ¬ scope.may .opens
  stops : ¬ scope.may .closes
  sends : ∀ key, scope.own key → scope.may .drains ∨ scope.may .sends → going key

variable {going : RunKey → Prop} {scope : Scope} {msg : Msg}

private theorem feed_airs (engine : RunEngine) (key : RunKey) (stream : String) (source : Source)
    (data timestamps : Table String Value) (covers : ∀ key, IsOpen engine key → going key) :
    ∃ added, (engine.feed key stream source data timestamps).log = added ++ engine.log ∧
      ∀ entry ∈ added, Airs going entry := by
  unfold RunEngine.feed
  cases found : engine.state.bundler key with
  | none => exact ⟨[], rfl, fun _ => nofun⟩
  | some bundler =>
      obtain ⟨slot, open_, -⟩ := run_of_bundler found
      dsimp only
      split
      · exact ⟨[], rfl, fun _ => nofun⟩
      · refine ⟨[.emitted key stream source _], rfl, fun entry member => ?_⟩
        rw [List.mem_singleton.mp member]
        exact covers key ⟨slot, open_⟩

private theorem airs_one {entry : Entry} (airs : Airs going entry) (log : List Entry) :
    ∃ added, entry :: log = added ++ log ∧ ∀ other ∈ added, Airs going other := by
  refine ⟨[entry], rfl, fun other member => ?_⟩
  rw [List.mem_singleton.mp member]
  exact airs

private theorem airs_none (log : List Entry) :
    ∃ added, log = added ++ log ∧ ∀ other ∈ added, Airs going other :=
  ⟨[], rfl, fun _ => nofun⟩

private theorem airs_of_effect (stages : Stages going scope msg)
    (covers : ∀ key, IsOpen before key → going key) (effect : Effect scope msg before after) :
    ∃ added, after.log = added ++ before.log ∧ ∀ entry ∈ added, Airs going entry := by
  cases effect with
  | pump update =>
      unfold RunEngine.pump
      split
      · exact feed_airs _ _ _ _ _ _ covers
      · exact airs_none _
  | interrupt content owned own describes => exact feed_airs _ _ _ _ _ _ covers
  | trace entry leaves =>
      refine airs_one ?_ _
      cases entry with
      | broadcast doc =>
          cases doc with
          | start doc => exact absurd leaves stages.starts
          | stop doc => exact absurd leaves stages.stops
          | _ => rfl
      | drained key stream doc => exact stages.sends key leaves.1 (.inl leaves.2)
      | emitted key stream source event => exact leaves.elim
      | opened key start => exact leaves.elim
      | closed key stop => exact leaves.elim
      | _ => rfl
  | sentOut key stream event own sends describes =>
      refine airs_one ?_ _
      exact stages.sends key own (.inr sends)
  | count key stream update own uses =>
      unfold RunEngine.countWith
      split
      · refine airs_one ?_ _
        rfl
      · exact airs_none _
  | request request requests =>
      cases request <;>
      · refine airs_one ?_ _
        rfl
  | opened key bundler own opens fresh =>
      obtain ⟨metadata, rfl⟩ := opens
      exact absurd rfl (stages.opens metadata)
  | closed key bundler uid status reason stop own closes found stopped =>
      obtain ⟨status, reason, rfl⟩ := closes
      exact absurd rfl (stages.closes status reason)
  | restart | clear | due =>
      refine airs_one ?_ _
      rfl
  | _ => exact airs_none _

private theorem minted_of_effect (effect : Effect scope msg before after) :
    before.nextUid ≤ after.nextUid := by
  have fed : ∀ (engine : RunEngine) key stream source data timestamps,
      engine.nextUid ≤ (engine.feed key stream source data timestamps).nextUid := by
    intro engine key stream source data timestamps
    unfold RunEngine.feed
    split
    · exact le_rfl
    · split
      · exact le_rfl
      · exact Nat.le_succ _
  cases effect with
  | pump update =>
      unfold RunEngine.pump
      split
      · exact fed _ _ _ _ _ _
      · exact le_rfl
  | interrupt content owned own describes => exact fed _ _ _ _ _ _
  | mint count => exact Nat.le_add_right _ _
  | count key stream update own uses =>
      unfold RunEngine.countWith
      split
      · exact le_rfl
      · exact le_rfl
  | request request requests => cases request <;> exact le_rfl
  | _ => exact le_rfl

private theorem aired_of_effect (stages : Stages going scope msg)
    (covers : ∀ key, IsOpen before key → going key) (effect : Effect scope msg before after) :
    Aired going before after := by
  refine ⟨fun key => ?_, minted_of_effect effect, airs_of_effect stages covers effect⟩
  have moved := runMove_of_effect effect key
  generalize before.state.run key = first at moved
  generalize after.state.run key = last at moved
  cases moved with
  | none => rfl
  | stayed move => exact congrArg some (startUids_of_slotMove move).2
  | opened first bundler own opens fresh opening =>
      obtain ⟨metadata, rfl⟩ := opens
      exact absurd rfl (stages.opens metadata)
  | dropped first own closes =>
      obtain ⟨status, reason, rfl⟩ := closes
      exact absurd rfl (stages.closes status reason)

theorem Aired.refl (engine : RunEngine) : Aired going engine engine :=
  ⟨fun _ => rfl, le_rfl, airs_none _⟩

theorem Aired.trans {middle : RunEngine} (head : Aired going before middle)
    (tail : Aired going middle after) : Aired going before after := by
  refine ⟨fun key => (tail.slots key).trans (head.slots key), head.minted.trans tail.minted, ?_⟩
  obtain ⟨earlier, first, aired⟩ := head.trail
  obtain ⟨recent, second, also⟩ := tail.trail
  refine ⟨recent ++ earlier, by rw [second, first, List.append_assoc], fun entry member => ?_⟩
  rcases List.mem_append.mp member with new | old
  · exact also entry new
  · exact aired entry old

theorem Aired.isOpen (aired : Aired going before after) (open_ : IsOpen after key) :
    IsOpen before key := by
  obtain ⟨slot, held⟩ := open_
  obtain ⟨earlier, was, -⟩ := aired.slot held
  exact ⟨earlier, was⟩

theorem aired_of_effects (stages : Stages going scope msg)
    (covers : ∀ key, IsOpen before key → going key) (effects : Effects scope msg before after) :
    Aired going before after := by
  induction effects with
  | refl => exact .refl _
  | tail _ effect ih =>
      exact ih.trans (aired_of_effect stages (fun key open_ => covers key (ih.isOpen open_)) effect)

end

end Bsrs.Engine
