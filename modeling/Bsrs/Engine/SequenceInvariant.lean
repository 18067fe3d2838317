import Bsrs.Engine.Idle
import Bsrs.Engine.LoopMove

namespace Bsrs.Engine

open Bsrs.Library (Table Grows Always)
open Bsrs.EventModel
open Bsrs.Core

/-! ## The Events of one stream, as the log tells them -/

/-- The Events sent into the stream since its run was opened, newest first. -/
def sent (key : RunKey) (stream : String) : List Entry → List (Source × Event)
  | [] => []
  | .opened other _ :: rest => if other = key then [] else sent key stream rest
  | .emitted other name source event :: rest =>
      if other = key ∧ name = stream then (source, event) :: sent key stream rest
      else sent key stream rest
  | _ :: rest => sent key stream rest

/-- Whether a message of the plan has used the stream's counter since its run was opened. -/
def usedByPlan (key : RunKey) (stream : String) : List Entry → Bool
  | [] => false
  | .opened other _ :: rest => if other = key then false else usedByPlan key stream rest
  | .counted other name _ :: rest => (other = key ∧ name = stream) || usedByPlan key stream rest
  | .emitted other name source _ :: rest =>
      (other = key ∧ name = stream ∧ source = .bundle) || usedByPlan key stream rest
  | _ :: rest => usedByPlan key stream rest

/-- Whether the region has restarted since the run was opened, which records its counters. -/
def snapshotted (key : RunKey) : List Entry → Bool
  | [] => false
  | .opened other _ :: rest => if other = key then false else snapshotted key rest
  | .restarted _ _ :: _ => true
  | _ :: rest => snapshotted key rest

/-- Whether the stream's counter was used since a restart of the region recorded it. -/
def usedSince (key : RunKey) (stream : String) : List Entry → Bool
  | [] => false
  | .opened other _ :: rest => if other = key then false else usedSince key stream rest
  | .restarted _ _ :: _ => false
  | .counted other name _ :: rest | .emitted other name _ _ :: rest =>
      (other = key ∧ name = stream ∧ snapshotted key rest) || usedSince key stream rest
  | _ :: rest => usedSince key stream rest

/-- Events of the pumps and the interruption records are numbered past all earlier ones. -/
def NumberedOnward (key : RunKey) (stream : String) : Entry → List Entry → Prop
  | .emitted other name source event, rest =>
      other = key → name = stream → source ≠ .bundle →
        ∀ earlier ∈ sent key stream rest, earlier.1 ≠ .bundle → earlier.2.seqNum < event.seqNum
  | _, _ => True

/-- The RunStop counts the Events of a stream the plan itself does not use. -/
def Totalled (key : RunKey) (stream : String) : Entry → List Entry → Prop
  | .closed other stop, rest =>
      other = key → usedByPlan key stream rest = false →
        (stop.numEvents.lookup stream).getD 0 = (sent key stream rest).length
  | _, _ => True

/-- A resume with messages to replay comes while the stream's counter is where the last restart of
the region has recorded it. -/
def RewindsLevel (key : RunKey) (stream : String) : Entry → List Entry → Prop
  | .resumed replay, rest => replay ≠ [] → usedSince key stream rest = false
  | _, _ => True

instance (key : RunKey) (stream : String) :
    ∀ entry rest, Decidable (NumberedOnward key stream entry rest) := by
  rintro (_ | _) rest <;> dsimp only [NumberedOnward] <;> infer_instance

instance (key : RunKey) (stream : String) :
    ∀ entry rest, Decidable (Totalled key stream entry rest) := by
  rintro (_ | _) rest <;> dsimp only [Totalled] <;> infer_instance

instance (key : RunKey) (stream : String) :
    ∀ entry rest, Decidable (RewindsLevel key stream entry rest) := by
  rintro (_ | _) rest <;> dsimp only [RewindsLevel] <;> infer_instance

/-! ## The counter, and what a rewind would make of it -/

/-- A stream's counter with the value a rewind would restore, if any. -/
structure Gauge where
  count : Nat
  target : Option Nat

def RunBundler.gauge (bundler : RunBundler) (stream : String) : Gauge where
  count := bundler.bundle.seqNum stream
  target := bundler.seqSnapshot.map fun snapshot => (snapshot.lookup stream).getD 0

/-- The gauge of a stream of the open run `key`. -/
def RunEngine.gauge (engine : RunEngine) (key : RunKey) (stream : String) : Option Gauge :=
  (engine.state.bundler key).map fun bundler => bundler.gauge stream

/-- What the log and the gauge of a stream have to do with each other. -/
structure Tallied (key : RunKey) (stream : String) (gauge : Gauge) (log : List Entry) : Prop where
  recorded : ∀ target ∈ gauge.target, snapshotted key log = true
  level : usedSince key stream log = false → ∀ target ∈ gauge.target, gauge.count = target
  bound : ∀ event ∈ sent key stream log, event.1 ≠ .bundle → event.2.seqNum ≤ gauge.count
  total : usedByPlan key stream log = false → gauge.count = (sent key stream log).length

structure SequenceInvariant (key : RunKey) (stream : String) (engine : RunEngine) : Prop where
  tallied : ∀ gauge ∈ engine.gauge key stream, Tallied key stream gauge engine.log
  onward : Always (NumberedOnward key stream) engine.log
  totalled : Always (Totalled key stream) engine.log

/-- Entries that have nothing to do with the stream. -/
def Entry.isBeside (key : RunKey) (stream : String) : Entry → Bool
  | .opened other _ | .closed other _ => other ≠ key
  | .restarted _ _ | .resumed _ => false
  | .counted other name _ | .emitted other name _ _ => other ≠ key ∨ name ≠ stream
  | _ => true

/-- What a resume that replays `replay` can make of a gauge. -/
def RolledBack (replay : List Msg) (gauge current : Gauge) : Prop :=
  current = gauge ∨
    replay ≠ [] ∧ ∃ target ∈ gauge.target, current = { gauge with count := target }

/-- What a move does to one stream. -/
inductive StreamStep (key : RunKey) (stream : String) : RunEngine → RunEngine → Prop
  | same {before after : RunEngine}
      (gauge : after.gauge key stream = before.gauge key stream)
      (log : Grows (Entry.isBeside key stream) before.log after.log) : StreamStep key stream before after
  | fed {before after : RunEngine} (gauge source event) (engines : source ≠ .bundle)
      (was : before.gauge key stream = some gauge)
      (now : after.gauge key stream = some { gauge with count := gauge.count + 1 })
      (numbered : event.seqNum = gauge.count + 1)
      (log : after.log = .emitted key stream source event :: before.log) :
      StreamStep key stream before after
  | sentOut {before after : RunEngine} (event)
      (gauge : after.gauge key stream = before.gauge key stream)
      (log : after.log = .emitted key stream .bundle event :: before.log) :
      StreamStep key stream before after
  | counted {before after : RunEngine} (gauge count)
      (was : before.gauge key stream = some gauge)
      (now : after.gauge key stream = some { gauge with count }) (more : gauge.count ≤ count)
      (log : after.log = .counted key stream ⟨gauge.count + 1, count + 1⟩ :: before.log) :
      StreamStep key stream before after
  | opened {before after : RunEngine} (start)
      (gauge : after.gauge key stream = some ⟨0, none⟩)
      (log : after.log = .opened key start :: before.log) : StreamStep key stream before after
  | closed {before after : RunEngine} (gauge stop)
      (was : before.gauge key stream = some gauge) (now : after.gauge key stream = none)
      (number : (stop.numEvents.lookup stream).getD 0 = gauge.count)
      (log : after.log = .closed key stop :: before.log) : StreamStep key stream before after
  | lost {before after : RunEngine} (gauge : after.gauge key stream = none)
      (log : after.log = before.log) : StreamStep key stream before after
  | restarted {before after : RunEngine} (on bundling) (target : Nat → Option Nat)
      (recorded : ∀ count, ∀ value ∈ target count, value = count)
      (gauge : after.gauge key stream =
        (before.gauge key stream).map fun gauge => ⟨gauge.count, target gauge.count⟩)
      (log : after.log = .restarted on bundling :: before.log) : StreamStep key stream before after
  | resumed {before after : RunEngine} (replay)
      (rolled : ∀ current ∈ after.gauge key stream, ∃ gauge ∈ before.gauge key stream,
        RolledBack replay gauge current)
      (log : after.log = .resumed replay :: before.log) : StreamStep key stream before after

section

variable {key : RunKey} {stream : String}

section Skips

variable (entry : Entry) (rest : List Entry) (beside : entry.isBeside key stream = true)
include beside

private theorem sent_skips : sent key stream (entry :: rest) = sent key stream rest := by
  cases entry <;> grind [sent, Entry.isBeside]

private theorem usedByPlan_skips :
    usedByPlan key stream (entry :: rest) = usedByPlan key stream rest := by
  cases entry <;> grind [usedByPlan, Entry.isBeside]

private theorem snapshotted_skips : snapshotted key (entry :: rest) = snapshotted key rest := by
  cases entry <;> grind [snapshotted, Entry.isBeside]

private theorem usedSince_skips :
    usedSince key stream (entry :: rest) = usedSince key stream rest := by
  cases entry <;> grind [usedSince, Entry.isBeside]

private theorem numberedOnward_beside : NumberedOnward key stream entry rest := by
  cases entry <;> grind [NumberedOnward, Entry.isBeside]

private theorem totalled_beside : Totalled key stream entry rest := by
  cases entry <;> grind [Totalled, Entry.isBeside]

private theorem rewindsLevel_beside : RewindsLevel key stream entry rest := by
  cases entry <;> grind [RewindsLevel, Entry.isBeside]

end Skips

section Tallied

variable {gauge : Gauge} {log : List Entry}

theorem Tallied.beside {after : List Entry} (tallied : Tallied key stream gauge log)
    (grown : Grows (Entry.isBeside key stream) log after) : Tallied key stream gauge after where
  recorded := by
    rw [grown.reading snapshotted_skips]
    exact tallied.recorded
  level := by
    rw [grown.reading usedSince_skips]
    exact tallied.level
  bound := by
    rw [grown.reading sent_skips]
    exact tallied.bound
  total := by
    rw [grown.reading usedByPlan_skips, grown.reading sent_skips]
    exact tallied.total

theorem Tallied.fed (tallied : Tallied key stream gauge log) (source : Source) {event : Event}
    (numbered : event.seqNum = gauge.count + 1) :
    Tallied key stream { gauge with count := gauge.count + 1 }
      (.emitted key stream source event :: log) where
  recorded := by simpa [snapshotted] using tallied.recorded
  level := by
    intro unused target some
    have never := tallied.recorded target some
    simp [usedSince, never] at unused
  bound := by
    intro earlier member plain
    simp only [sent, and_self, if_true, List.mem_cons] at member
    rcases member with rfl | member
    · exact numbered.le
    · exact (tallied.bound earlier member plain).trans (Nat.le_succ _)
  total := by
    intro unused
    simp only [usedByPlan, Bool.or_eq_false_iff] at unused
    simp [sent, tallied.total unused.2]

/-- An Event of the plan; its counter was used before. -/
theorem Tallied.sentOut (tallied : Tallied key stream gauge log) (event : Event) :
    Tallied key stream gauge (.emitted key stream .bundle event :: log) where
  recorded := by simpa [snapshotted] using tallied.recorded
  level := by
    intro unused
    simp only [usedSince, Bool.or_eq_false_iff] at unused
    exact tallied.level unused.2
  bound := by
    intro earlier member plain
    simp only [sent, and_self, if_true, List.mem_cons] at member
    rcases member with rfl | member
    · exact absurd rfl plain
    · exact tallied.bound earlier member plain
  total := by
    intro unused
    simp [usedByPlan] at unused

theorem Tallied.counted (tallied : Tallied key stream gauge log) (more : gauge.count ≤ count) :
    Tallied key stream { gauge with count } (.counted key stream numbers :: log) where
  recorded := by simpa [snapshotted] using tallied.recorded
  level := by
    intro unused target some
    have never := tallied.recorded target some
    simp [usedSince, never] at unused
  bound := fun earlier member plain => (tallied.bound earlier member plain).trans more
  total := by
    intro unused
    simp [usedByPlan] at unused

theorem Tallied.restarted (tallied : Tallied key stream gauge log) (on bundling : Bool)
    {target : Option Nat} (recorded : ∀ value ∈ target, value = gauge.count) :
    Tallied key stream ⟨gauge.count, target⟩ (.restarted on bundling :: log) where
  recorded := fun _ _ => rfl
  level := fun _ value some => (recorded value some).symm
  bound := tallied.bound
  total := tallied.total

/-- A resume that finds the counter where the snapshot has it rolls nothing back. -/
theorem Tallied.resumed (tallied : Tallied key stream gauge log) {replay : List Msg}
    (levels : replay ≠ [] → usedSince key stream log = false)
    (rolled : RolledBack replay gauge current) :
    Tallied key stream current (.resumed replay :: log) := by
  have still : Tallied key stream gauge (.resumed replay :: log) :=
    ⟨tallied.recorded, tallied.level, tallied.bound, tallied.total⟩
  rcases rolled with rfl | ⟨some, target, found, rfl⟩
  · exact still
  · have same : gauge.count = target := tallied.level (levels some) target found
    subst same
    exact still

end Tallied

/-- The gauge of an open run, tallied anew when the run is still open. -/
theorem SequenceInvariant.moved {before after : RunEngine} (held : SequenceInvariant key stream before)
    {update : Gauge → Gauge}
    (gauge : after.gauge key stream = (before.gauge key stream).map update)
    (tallied : ∀ gauge, Tallied key stream gauge before.log →
      Tallied key stream (update gauge) after.log) :
    ∀ gauge ∈ after.gauge key stream, Tallied key stream gauge after.log := by
  intro current found
  rw [gauge] at found
  obtain ⟨earlier, was, rfl⟩ := Option.map_eq_some_iff.mp found
  exact tallied earlier (held.tallied earlier was)

/-- One move keeps the log and the gauge of a stream in step while resumes leave it level. -/
theorem sequenceInvariant_step {before after : RunEngine} (move : StreamStep key stream before after)
    (invariant : Always (RewindsLevel key stream) before.log →
      SequenceInvariant key stream before)
    (levels : Always (RewindsLevel key stream) after.log) :
    SequenceInvariant key stream after := by
  have kept : after.gauge key stream = before.gauge key stream →
      after.gauge key stream = (before.gauge key stream).map id := fun same => by simpa using same
  cases move with
  | same gauge log =>
      have held := invariant ((Always.grows rewindsLevel_beside log).mp levels)
      refine ⟨held.moved (kept gauge) fun _ tallied => tallied.beside log,
        (Always.grows numberedOnward_beside log).mpr held.onward,
        (Always.grows totalled_beside log).mpr held.totalled⟩
  | fed gauge source event engines was now numbered log =>
      rw [log] at levels
      have held := invariant levels.2
      have tallied := held.tallied gauge was
      refine ⟨?_, ?_, ?_⟩
      · intro current found
        obtain rfl := Option.some.inj (now.symm.trans found)
        rw [log]
        exact tallied.fed source numbered
      · rw [log]
        refine ⟨?_, held.onward⟩
        intro _ _ _ earlier member plain
        have below := tallied.bound earlier member plain
        omega
      · rw [log]
        exact ⟨trivial, held.totalled⟩
  | sentOut event gauge log =>
      rw [log] at levels
      have held := invariant levels.2
      refine ⟨?_, ?_, ?_⟩
      · refine held.moved (kept gauge) fun gauge tallied => ?_
        rw [log]
        exact tallied.sentOut event
      · rw [log]
        exact ⟨fun _ _ plain => absurd rfl plain, held.onward⟩
      · rw [log]
        exact ⟨trivial, held.totalled⟩
  | counted gauge count was now more log =>
      rw [log] at levels
      have held := invariant levels.2
      refine ⟨?_, ?_, ?_⟩
      · intro current found
        obtain rfl := Option.some.inj (now.symm.trans found)
        rw [log]
        exact (held.tallied gauge was).counted more
      · rw [log]
        exact ⟨trivial, held.onward⟩
      · rw [log]
        exact ⟨trivial, held.totalled⟩
  | opened start gauge log =>
      rw [log] at levels
      have held := invariant levels.2
      refine ⟨?_, ?_, ?_⟩
      · intro current found
        obtain rfl := Option.some.inj (gauge.symm.trans found)
        rw [log]
        exact ⟨nofun, fun _ => nofun, by simp [sent], by simp [sent]⟩
      · rw [log]
        exact ⟨trivial, held.onward⟩
      · rw [log]
        exact ⟨trivial, held.totalled⟩
  | closed gauge stop was now number log =>
      rw [log] at levels
      have held := invariant levels.2
      refine ⟨?_, ?_, ?_⟩
      · intro current found
        rw [now] at found
        cases found
      · rw [log]
        exact ⟨trivial, held.onward⟩
      · rw [log]
        exact ⟨fun _ unused => number.trans ((held.tallied gauge was).total unused), held.totalled⟩
  | lost gauge log =>
      rw [log] at levels
      have held := invariant levels
      refine ⟨?_, ?_, ?_⟩
      · intro current found
        rw [gauge] at found
        cases found
      · rw [log]
        exact held.onward
      · rw [log]
        exact held.totalled
  | restarted on bundling target recorded gauge log =>
      rw [log] at levels
      have held := invariant levels.2
      refine ⟨?_, ?_, ?_⟩
      · refine held.moved gauge fun gauge tallied => ?_
        rw [log]
        exact tallied.restarted on bundling (recorded gauge.count)
      · rw [log]
        exact ⟨trivial, held.onward⟩
      · rw [log]
        exact ⟨trivial, held.totalled⟩
  | resumed replay rolled log =>
      rw [log] at levels
      have held := invariant levels.2
      refine ⟨?_, ?_, ?_⟩
      · intro current found
        obtain ⟨gauge, was, rolled⟩ := rolled current found
        rw [log]
        exact (held.tallied gauge was).resumed levels.1 rolled
      · rw [log]
        exact ⟨trivial, held.onward⟩
      · rw [log]
        exact ⟨trivial, held.totalled⟩

end

/-! ## What every move of the engine does to a stream -/

section

variable {key : RunKey} {stream : String}

theorem bundler_withSlot (engine : RunEngine) (other : RunKey) (update : RunSlot → RunSlot) :
    (engine.withSlot other update).state.bundler key =
      if key = other then (engine.state.run other).map fun slot => (update slot).bundler
      else engine.state.bundler key := by
  unfold RunEngine.withSlot RunEngine.withState EngineState.bundler EngineState.run
  dsimp only
  rw [Table.lookup_modify]
  split
  · simp [Function.comp_def]
  · rfl

theorem gauge_withSlot (engine : RunEngine) (other : RunKey) {update : RunSlot → RunSlot}
    (same : other = key → ∀ slot, engine.state.run other = some slot →
      (update slot).bundler.gauge stream = slot.bundler.gauge stream) :
    (engine.withSlot other update).gauge key stream = engine.gauge key stream := by
  unfold RunEngine.gauge
  rw [bundler_withSlot]
  split
  · rename_i here
    subst here
    cases found : engine.state.run key with
    | none => simp [EngineState.bundler, found]
    | some slot => simp [EngineState.bundler, found, same rfl slot found]
  · rfl

theorem gauge_withBundler_self {engine : RunEngine} {bundler : RunBundler}
    (found : engine.state.bundler key = some bundler) (update : RunBundler → RunBundler) :
    (engine.withBundler key update).gauge key stream = some ((update bundler).gauge stream) := by
  unfold RunEngine.gauge RunEngine.withBundler
  rw [bundler_withSlot, if_pos rfl]
  obtain ⟨slot, held, rfl⟩ := Option.map_eq_some_iff.mp found
  simp [held]

/-- An Event sent out at once counts its stream up by one. -/
theorem feed_stream (engine : RunEngine) (other : RunKey) (name : String) {source : Source}
    (engines : source ≠ .bundle) (data timestamps : Table String Value) :
    StreamStep key stream engine (engine.feed other name source data timestamps) := by
  unfold RunEngine.feed
  cases found : engine.state.bundler other with
  | none => exact .same rfl (.refl _)
  | some bundler =>
      dsimp only
      cases composed : (bundler.bundle.event engine.nextUid name data timestamps).1 with
      | none => exact .same rfl (.refl _)
      | some event =>
          obtain ⟨numbered, advanced⟩ := RunBundle.event_seqNum _ _ _ _ composed
          dsimp only
          by_cases here : other = key ∧ name = stream
          · obtain ⟨rfl, rfl⟩ := here
            have was : engine.gauge other name = some (bundler.gauge name) := by
              simp [RunEngine.gauge, found]
            refine .fed (bundler.gauge name) source event engines was ?_ numbered rfl
            let composing (bundler : RunBundler) : RunBundler :=
              { bundler with
                bundle := (bundler.bundle.event engine.nextUid name data timestamps).2 }
            have now : ({ engine with nextUid := engine.nextUid + 1 }.withBundler other
                composing).gauge other name = some ((composing bundler).gauge name) :=
              gauge_withBundler_self found composing
            have count : (composing bundler).bundle.seqNum name =
                bundler.bundle.seqNum name + 1 := advanced
            have snapshot : (composing bundler).seqSnapshot = bundler.seqSnapshot := rfl
            refine now.trans ?_
            simp [RunBundler.gauge, count, snapshot]
          · have kept : ({ engine with nextUid := engine.nextUid + 1 }.withBundler other
                fun bundler => { bundler with
                  bundle := (bundler.bundle.event engine.nextUid name data timestamps).2 }).gauge
                key stream = engine.gauge key stream := by
              refine gauge_withSlot _ other fun same slot _ => ?_
              have elsewhere : stream ≠ name := fun equal => here ⟨same, equal.symm⟩
              simp [RunBundler.gauge, RunBundle.seqNum_event_ne _ _ _ _ elsewhere]
            refine .same kept (.cons ?_ _)
            exact decide_eq_true (not_and_or.mp here)

theorem slotEffect_gauge {scope : Scope} {msg : Msg} {before after : RunSlot}
    (effect : SlotEffect scope msg before after)
    (stream : String) : after.bundler.gauge stream = before.bundler.gauge stream := by
  cases effect with
  | declare uid name objs describes =>
      simp [RunBundler.gauge, RunBundler.declareStream, RunBundler.prepareStream]
  | install descriptors configures =>
      generalize before.bundler = bundler
      induction descriptors generalizing bundler with
      | nil => rfl
      | cons descriptor rest ih =>
          unfold RunBundler.installReconfigured
          cases descriptor.name with
          | none => exact ih bundler
          | some name =>
              refine (ih _).trans ?_
              simp [RunBundler.gauge]
  | _ => rfl

/-- A use of one stream's counter leaves the others alone and never counts down. -/
theorem counting_gauge {msg : Msg} {used : Option String} {before after : RunBundler}
    (counting : Counting msg used before after) (stream : String) :
    (used ≠ some stream → after.gauge stream = before.gauge stream) ∧
      ∃ count, before.bundle.seqNum stream ≤ count ∧
        after.gauge stream = { before.gauge stream with count } := by
  cases counting with
  | compose _ uid name data timestamps =>
      refine ⟨fun different => ?_, _, RunBundle.seqNum_le_event _ uid name stream data timestamps,
        rfl⟩
      have elsewhere : stream ≠ name := fun equal => different (by rw [equal])
      simp [RunBundler.gauge, RunBundle.seqNum_event_ne _ _ _ _ elsewhere]
  | advance _ name count =>
      refine ⟨fun different => ?_, _, RunBundle.seqNum_le_advanceSeq _ name stream count, rfl⟩
      have elsewhere : stream ≠ name := fun equal => different (by rw [equal])
      simp [RunBundler.gauge, RunBundle.seqNum_advanceSeq_ne _ _ elsewhere]
  | save _ descriptorUid eventUid saves =>
      have target := RunBundler.save_seqSnapshot before descriptorUid eventUid
      refine ⟨fun different => ?_, _,
        RunBundler.save_seqNum_le before descriptorUid eventUid stream, ?_⟩
      · simp [RunBundler.gauge, target, RunBundler.save_seqNum_ne _ _ _ different]
      · simp [RunBundler.gauge, target]

private theorem count_stream {msg : Msg} (engine : RunEngine) (other : RunKey)
    (used : Option String) {update : RunBundler → RunBundler}
    (uses : ∀ bundler, engine.state.bundler other = some bundler →
      Counting msg used bundler (update bundler)) :
    StreamStep key stream engine (engine.countWith other used update) := by
  have held : ∀ slot, engine.state.run other = some slot →
      engine.state.bundler other = some slot.bundler := fun slot found => by
    simp [EngineState.bundler, found]
  have aside : ¬ (other = key ∧ used = some stream) →
      (engine.withBundler other update).gauge key stream = engine.gauge key stream := fun elsewhere =>
    gauge_withSlot engine other fun same slot found =>
      (counting_gauge (uses slot.bundler (held slot found)) stream).1 fun equal =>
        elsewhere ⟨same, equal⟩
  cases found : engine.state.bundler other with
  | none =>
      have closed : engine.state.run other = none := by
        simpa [EngineState.bundler] using found
      have same : (engine.withBundler other update).gauge key stream = engine.gauge key stream :=
        gauge_withSlot engine other fun _ slot some => by simp [closed] at some
      simpa only [RunEngine.countWith, found] using .same same (.refl _)
  | some bundler =>
      cases used with
      | none => simpa only [RunEngine.countWith, found] using .same (aside (by rintro ⟨-, ⟨⟩⟩)) (.refl _)
      | some name =>
          simp only [RunEngine.countWith, found]
          by_cases here : other = key ∧ name = stream
          · obtain ⟨rfl, rfl⟩ := here
            obtain ⟨-, count, more, now⟩ := counting_gauge (uses bundler found) name
            have was : engine.gauge other name = some (bundler.gauge name) := by
              simp [RunEngine.gauge, found]
            have reached : count = (update bundler).bundle.seqNum name :=
              congrArg Gauge.count now.symm
            subst reached
            refine .counted (bundler.gauge name) _ was ?_ more rfl
            exact (gauge_withBundler_self found update).trans (congrArg some now)
          · refine .same (aside fun both => here ⟨both.1, Option.some.inj both.2⟩) (.cons ?_ _)
            exact decide_eq_true (not_and_or.mp here)

/-- An update of all open runs at once. -/
theorem gauge_mapValues {engine after : RunEngine} (slots : RunSlot → RunSlot)
    {update : Gauge → Gauge}
    (runs : after.state.runs = engine.state.runs.mapValues fun _ slot => slots slot)
    (gauges : ∀ slot, (slots slot).bundler.gauge stream = update (slot.bundler.gauge stream)) :
    after.gauge key stream = (engine.gauge key stream).map update := by
  unfold RunEngine.gauge EngineState.bundler EngineState.run
  rw [runs, Table.lookup_mapValues]
  cases engine.state.runs.lookup key with
  | none => rfl
  | some slot => simp [gauges]

theorem gauge_dropRun_self (engine : RunEngine) (key : RunKey) :
    (engine.dropRun key).gauge key stream = none := by
  simp [RunEngine.gauge, RunEngine.dropRun, RunEngine.withState, EngineState.bundler,
    EngineState.run]

theorem gauge_dropRun_ne (engine : RunEngine) (different : other ≠ key) :
    (engine.dropRun other).gauge key stream = engine.gauge key stream := by
  simp [RunEngine.gauge, RunEngine.dropRun, RunEngine.withState, EngineState.bundler,
    EngineState.run, AList.lookup_erase_ne different.symm]

private theorem receive_stream (engine : RunEngine) (request : Request) :
    StreamStep key stream engine (engine.receive request) := by
  cases request <;> exact .same rfl (.cons rfl _)

private theorem effect_stream {scope : Scope} {msg : Msg} {before after : RunEngine}
    (effect : Effect scope msg before after) :
    StreamStep key stream before after := by
  cases effect with
  | pump update =>
      unfold RunEngine.pump
      split
      · exact feed_stream _ _ _ (by decide) _ _
      · exact .same rfl (.refl _)
  | interrupt content other own describes => exact feed_stream _ _ _ (by decide) _ _
  | sentOut other name event own sends describes =>
      by_cases here : other = key ∧ name = stream
      · obtain ⟨rfl, rfl⟩ := here
        exact .sentOut event rfl rfl
      · refine .same rfl (.cons ?_ _)
        exact decide_eq_true (not_and_or.mp here)
  | trace entry leaves =>
      cases entry <;> first | exact .same rfl (.cons rfl _) | exact leaves.elim
  | slot other update own changes =>
      refine .same ?_ (.refl _)
      exact gauge_withSlot before other fun _ slot found =>
        slotEffect_gauge (changes slot found) stream
  | count other used update own uses => exact count_stream before other used uses
  | quiesce =>
      have kept : (before.withState fun state => { state with
          runs := state.runs.mapValues fun _ slot => slot.clearTasks }).gauge
            key stream = (before.gauge key stream).map id :=
        gauge_mapValues (fun slot => slot.clearTasks) rfl fun _ => rfl
      exact .same (by simpa using kept) (.refl _)
  | opened other bundler own opens fresh =>
      by_cases here : other = key
      · subst here
        refine .opened bundler.startUid ?_ rfl
        simp [RunEngine.gauge, RunEngine.record, RunEngine.withState, EngineState.bundler,
          EngineState.run, RunSlot.new, RunBundler.gauge, fresh.seqNum, fresh.seqSnapshot]
      · refine .same ?_ (.cons ?_ _)
        · simp [RunEngine.gauge, RunEngine.record, RunEngine.withState, EngineState.bundler,
            EngineState.run, AList.lookup_insert_ne (Ne.symm here)]
        · exact decide_eq_true here
  | closed other bundler uid status reason stop own closes found stopped =>
      by_cases here : other = key
      · subst here
        refine .closed (bundler.gauge stream) stop (by simp [RunEngine.gauge, found]) ?_
          (RunBundle.stop_numEvents uid status reason stream stopped) rfl
        exact gauge_dropRun_self before other
      · refine .same (gauge_dropRun_ne before here) (.cons ?_ _)
        exact decide_eq_true here
  | lost other own closes =>
      by_cases here : other = key
      · subst here
        exact .lost (gauge_dropRun_self before other) rfl
      · exact .same (gauge_dropRun_ne before here) (.refl _)
  | restart on restarts =>
      refine .restarted on _ some (fun _ _ same => (Option.some.inj same).symm) ?_ rfl
      refine gauge_mapValues (fun slot =>
        { slot with bundler := slot.bundler.resetCheckpointState }) rfl fun slot => ?_
      simp [RunBundler.gauge, RunBundler.resetCheckpointState]
  | clear clears =>
      refine .restarted false _ (fun _ => none) (by intros; contradiction) ?_ rfl
      exact gauge_mapValues (fun slot =>
        { slot with bundler := slot.bundler.clearCheckpoint }) rfl fun _ => rfl
  | due checkpoint => exact .same rfl (.cons rfl _)
  | request request requests => exact receive_stream before request
  | _ => exact .same rfl (.refl _)

/-- A rewind restores the counters its snapshot has. -/
private theorem rewind_gauge (bundler : RunBundler) {replay : List Msg} (some : replay ≠ []) :
    RolledBack replay (bundler.gauge stream) (bundler.rewind.gauge stream) := by
  unfold RunBundler.rewind
  cases found : bundler.seqSnapshot with
  | none => exact .inl (by simp [RunBundler.gauge, found])
  | some snapshot =>
      rcases RunBundle.seqNum_restoreSeqNums bundler.bundle snapshot stream with restored | same
      · exact .inr ⟨some, (snapshot.lookup stream).getD 0, by simp [RunBundler.gauge, found],
          by simp [RunBundler.gauge, found, restored]⟩
      · exact .inl (by simp [RunBundler.gauge, found, same])

private theorem arm_stream (engine : RunEngine) :
    StreamStep key stream engine engine.armReplay := by
  refine .resumed engine.state.msgCache (fun current found => ?_) rfl
  cases empty : engine.state.msgCache.isEmpty with
  | true =>
      refine ⟨current, ?_, .inl rfl⟩
      simpa [RunEngine.gauge, RunEngine.armReplay, RunEngine.record, RunEngine.withState,
        EngineState.bundler, EngineState.run, empty] using found
  | false =>
      have some : engine.state.msgCache ≠ [] := by
        rintro none
        simp [none] at empty
      have held : ∃ slot, engine.state.runs.lookup key = Option.some slot ∧
          slot.bundler.rewind.gauge stream = current := by
        simpa [RunEngine.gauge, RunEngine.armReplay, RunEngine.record, RunEngine.withState,
          EngineState.bundler, EngineState.run, empty] using found
      obtain ⟨slot, held, rfl⟩ := held
      refine ⟨slot.bundler.gauge stream, ?_, rewind_gauge slot.bundler some⟩
      simp [RunEngine.gauge, EngineState.bundler, EngineState.run, held]

theorem streamStep_of_engineStep {going : Prop} {before after : RunEngine}
    (move : EngineStep going before after) : StreamStep key stream before after := by
  cases move with
  | handled effect => exact effect_stream effect
  | receive _ request => exact receive_stream before request
  | control _ permit cancelled pendingSuspend => exact .same rfl (.refl _)
  | share _ sinks => exact .same rfl (.refl _)
  | mark _ entry plain =>
      refine .same rfl (.cons ?_ _)
      cases entry <;> first | rfl | cases plain
  | arm _ => exact arm_stream before
  | throw caught =>
      unfold RunEngine.throwIntoPlan at caught
      split at caught
      · cases caught
      · cases caught
        exact .same rfl (.cons rfl _)
  | _ => exact .same rfl (.cons rfl _)

/-- A stream that every resume with messages to replay finds level numbers the Events of its pumps
and interruption records onward as they are composed, and its RunStop counts them. -/
theorem sequenceInvariant_of_levels {plans : PlanStream σ} (idle : engine.Idle)
    (trace : run plans (Config.start engine plan) labels = some reached)
    (levels : Always (RewindsLevel key stream) reached.engine.log) :
    SequenceInvariant key stream reached.engine := by
  have closed : (Config.start engine plan).engine.gauge key stream = none := by
    simp [RunEngine.gauge, Config.start, RunEngine.begin, EngineState.bundler, EngineState.run,
      idle.runs]
  have initial : SequenceInvariant key stream (Config.start engine plan).engine :=
    ⟨by simp [closed], trivial, trivial⟩
  exact run_engine_invariant
    (fun engine => Always (RewindsLevel key stream) engine.log → SequenceInvariant key stream engine)
    (fun _ _ move held levels => sequenceInvariant_step (streamStep_of_engineStep move) held levels)
    trace (fun _ => initial) levels

end

end Bsrs.Engine
