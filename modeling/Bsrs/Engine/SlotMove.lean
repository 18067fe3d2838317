import Bsrs.Engine.Described

namespace Bsrs.Engine

open Bsrs.Library (Table Action)
open Bsrs.Library.Action
open Bsrs.EventModel
open Bsrs.Core
open Relation (ReflTransGen)

/-- An Event composed in a slot's bundle advances a counter there. -/
def RunSlot.composed (slot : RunSlot) (uid : Uid) (stream : String)
    (data timestamps : Table String Value) : RunSlot :=
  { slot with bundler := { slot.bundler with
    bundle := (slot.bundler.bundle.event uid stream data timestamps).2 } }

/-- What one effect makes of the run `key` while it stays open. -/
inductive SlotMove (scope : Scope) (msg : Msg) (key : RunKey) : RunSlot → RunSlot → Prop
  | same (slot : RunSlot) : SlotMove scope msg key slot slot
  | changed {before after} (own : scope.own key) (effect : SlotEffect scope msg before after) :
      SlotMove scope msg key before after
  | counted (slot : RunSlot) (stream bundler) (own : scope.own key)
      (counting : Counting msg stream slot.bundler bundler) :
      SlotMove scope msg key slot { slot with bundler }
  | pumped (slot : RunSlot) (uid task value timestamp) (pumping : task ∈ slot.pumps) :
      SlotMove scope msg key slot (slot.composed uid task.stream (AList.singleton task.key value)
        (AList.singleton task.key timestamp))
  | interrupted (slot : RunSlot) (uid content) (own : ∀ key, scope.own key) :
      SlotMove scope msg key slot (slot.composed uid "interruptions"
        (AList.singleton "interruption" content) (AList.singleton "interruption" "now"))
  | quiesced (slot : RunSlot) (own : ∀ key, scope.own key) :
      SlotMove scope msg key slot slot.clearTasks
  | restarted (slot : RunSlot) (restarts : ∃ before after, Restarts msg before after) :
      SlotMove scope msg key slot { slot with bundler := slot.bundler.resetCheckpointState }
  | cleared (slot : RunSlot) (clears : msg = .clearCheckpoint) :
      SlotMove scope msg key slot { slot with bundler := slot.bundler.clearCheckpoint }

/-- What one effect makes of the run `key`, open or not, while the log grows from `log` to `later`. -/
inductive RunMove (scope : Scope) (msg : Msg) (key : RunKey) (log later : List Entry) :
    Option RunSlot → Option RunSlot → Prop
  | none : RunMove scope msg key log later none none
  | stayed {before after} (move : SlotMove scope msg key before after) :
      RunMove scope msg key log later (some before) (some after)
  | opened (before bundler) (own : scope.own key) (opens : ∃ metadata, msg = .openRun metadata)
      (fresh : Fresh bundler) (opening : later = .opened key bundler.startUid :: log) :
      RunMove scope msg key log later before (some (.new bundler))
  | dropped (before) (own : scope.own key) (closes : ∃ status reason, msg = .closeRun status reason) :
      RunMove scope msg key log later before none

section

variable {scope : Scope} {msg : Msg} {log later : List Entry} {before after : RunEngine}

private theorem unmoved (key : RunKey) (slot : Option RunSlot) :
    RunMove scope msg key log later slot slot := by
  cases slot with
  | none => exact .none
  | some slot => exact .stayed (.same slot)

private theorem moved_to {key : RunKey} {first second target : Option RunSlot}
    (same : second = target) (move : RunMove scope msg key log later first target) :
    RunMove scope msg key log later first second := by
  rw [same]
  exact move

private theorem moved_of_eq {key : RunKey} {first second : Option RunSlot} (same : second = first) :
    RunMove scope msg key log later first second :=
  moved_to same (unmoved key first)

private theorem moved_of_map {key : RunKey} {update : RunSlot → RunSlot} (slot : Option RunSlot)
    (move : ∀ held, slot = some held → SlotMove scope msg key held (update held)) :
    RunMove scope msg key log later slot (slot.map update) := by
  cases slot with
  | none => exact .none
  | some slot => exact .stayed (move slot rfl)

theorem run_record (engine : RunEngine) (entry : Entry) (key : RunKey) :
    (engine.record entry).state.run key = engine.state.run key := rfl

/-- An Event composed for a run advances a counter of that run, if anything. -/
theorem feed_run (engine : RunEngine) (key other : RunKey) (stream : String)
    (source : Source) (data timestamps : Table String Value) :
    let fed := (engine.feed key stream source data timestamps).state.run other
    fed = engine.state.run other ∨ other = key ∧ fed = (engine.state.run key).map fun slot =>
      slot.composed engine.nextUid stream data timestamps := by
  unfold RunEngine.feed
  cases engine.state.bundler key with
  | none => exact .inl rfl
  | some bundler =>
      dsimp only
      cases (bundler.bundle.event engine.nextUid stream data timestamps).1 with
      | none => exact .inl rfl
      | some event =>
          dsimp only
          rw [run_record]
          unfold RunEngine.withBundler
          rw [run_withSlot]
          by_cases same : other = key
          · rw [if_pos same]
            exact .inr ⟨same, same ▸ rfl⟩
          · rw [if_neg same]
            exact .inl rfl

theorem pump_runMove (engine : RunEngine) (update : Update) (key : RunKey) :
    RunMove scope msg key log later (engine.state.run key) ((engine.pump update).state.run key) := by
  unfold RunEngine.pump
  split
  · rename_i running
    obtain ⟨slot, open_, pumping⟩ := engine.hasPump_iff.mp running
    rcases feed_run engine update.run key update.task.stream .pump
      (AList.singleton update.task.key update.value)
      (AList.singleton update.task.key update.timestamp) with same | ⟨rfl, fed⟩
    · exact moved_of_eq same
    · rw [fed]
      refine moved_of_map _ fun held also => ?_
      obtain rfl : slot = held := Option.some.inj (open_.symm.trans also)
      exact .pumped slot _ update.task _ _ pumping
  · exact unmoved key _

private theorem withSlot_runMove (engine : RunEngine) (owned key : RunKey)
    {update : RunSlot → RunSlot}
    (move : ∀ slot, engine.state.run owned = some slot →
      SlotMove scope msg owned slot (update slot)) :
    RunMove scope msg key log later (engine.state.run key)
      ((engine.withSlot owned update).state.run key) := by
  rw [run_withSlot]
  by_cases same : key = owned
  · subst same
    rw [if_pos rfl]
    exact moved_of_map _ move
  · rw [if_neg same]
    exact unmoved key _

private theorem dropRun_runMove (engine : RunEngine) (dropped key : RunKey)
    (own : scope.own dropped) (closes : ∃ status reason, msg = .closeRun status reason) :
    RunMove scope msg key log later (engine.state.run key)
      ((engine.dropRun dropped).state.run key) := by
  by_cases same : key = dropped
  · subst same
    have gone : (engine.dropRun key).state.run key = none := by
      simp [RunEngine.dropRun, RunEngine.withState, EngineState.run]
    rw [gone]
    exact .dropped _ own closes
  · apply moved_of_eq
    simp [RunEngine.dropRun, RunEngine.withState, EngineState.run, AList.lookup_erase_ne same]

theorem runMove_of_effect (effect : Effect scope msg before after) (key : RunKey) :
    RunMove scope msg key before.log after.log (before.state.run key) (after.state.run key) := by
  cases effect with
  | pump update => exact pump_runMove before update key
  | interrupt content owned own describes =>
      rcases feed_run before owned key "interruptions" .interruption
        (AList.singleton "interruption" content) (AList.singleton "interruption" "now") with
        same | ⟨rfl, fed⟩
      · exact moved_of_eq same
      · exact moved_to fed <| moved_of_map _ fun slot _ => .interrupted slot _ content own
  | slot owned update own changes =>
      exact withSlot_runMove before owned key fun slot found => .changed own (changes slot found)
  | count owned stream update own uses =>
      have counted : ∀ log later, RunMove scope msg key log later (before.state.run key)
          ((before.withBundler owned update).state.run key) := by
        intro log later
        refine withSlot_runMove before owned key fun slot found => ?_
        exact .counted slot stream _ own (uses slot.bundler (Option.map_eq_some_iff.mpr
          ⟨slot, found, rfl⟩))
      unfold RunEngine.countWith
      split
      · exact counted _ _
      · exact counted _ _
  | quiesce own =>
      have runs : (before.state.runs.mapValues fun _ slot => slot.clearTasks).lookup key =
          (before.state.run key).map fun slot => slot.clearTasks :=
        Table.lookup_mapValues _ _ _
      exact moved_to runs <| moved_of_map _ fun slot _ => .quiesced slot own
  | opened owned bundler own opens fresh =>
      by_cases same : key = owned
      · subst same
        have found : (before.state.runs.insert key (.new bundler)).lookup key =
          some (.new bundler) := AList.lookup_insert _
        exact moved_to found (.opened _ bundler own opens fresh rfl)
      · exact moved_of_eq (AList.lookup_insert_ne same)
  | closed owned bundler uid status reason stop own closes found stopped =>
      exact dropRun_runMove before owned key own closes
  | lost owned own closes => exact dropRun_runMove before owned key own closes
  | restart on restarts =>
      have runs : ((before.setRewindable on).resetCheckpointState).state.run key =
          (before.state.run key).map fun slot =>
            { slot with bundler := slot.bundler.resetCheckpointState } :=
        Table.lookup_mapValues _ _ _
      exact moved_to runs <| moved_of_map _ fun slot _ => .restarted slot ⟨_, _, restarts⟩
  | clear clears =>
      have runs : before.clearCheckpoint.state.run key = (before.state.run key).map fun slot =>
          { slot with bundler := slot.bundler.clearCheckpoint } :=
        Table.lookup_mapValues _ _ _
      exact moved_to runs <| moved_of_map _ fun slot _ => .cleared slot clears
  | request request requests => cases request <;> exact unmoved key _
  | _ => exact unmoved key _

/-- The invariant rule for what holds of every open run. -/
theorem slots_of_effect (holds : RunKey → RunSlot → Prop)
    (fresh : ∀ key bundler, Fresh bundler → holds key (.new bundler))
    (moves : ∀ key slot next, SlotMove scope msg key slot next → holds key slot → holds key next)
    (effect : Effect scope msg before after)
    (held : ∀ key, ∀ slot ∈ before.state.run key, holds key slot) :
    ∀ key, ∀ slot ∈ after.state.run key, holds key slot := by
  intro key slot found
  have moved := runMove_of_effect effect key
  have kept := held key
  generalize before.state.run key = first at moved kept
  rw [Option.mem_def] at found
  rw [found] at moved
  cases moved with
  | stayed move => exact moves key _ slot move (kept _ rfl)
  | opened first bundler own opens new opening => exact fresh key bundler new

end

/-- The engine between two moves of the loop's own has the same runs. -/
theorem run_armReplay (engine : RunEngine) (key : RunKey) :
    engine.armReplay.state.run key = engine.state.run key ∨
      engine.armReplay.state.run key = (engine.state.run key).map fun slot =>
        { slot with bundler := slot.bundler.rewind, bundleAssetObjs := [] } := by
  unfold RunEngine.armReplay RunEngine.withState RunEngine.record EngineState.run
  dsimp only
  split
  · exact .inl rfl
  · exact .inr (Table.lookup_mapValues _ _ _)

/-- The invariant rule over a whole call for what holds of every open run. -/
theorem run_slots_invariant {plans : PlanStream σ} (holds : RunKey → RunSlot → Prop)
    (fresh : ∀ key bundler, Fresh bundler → holds key (.new bundler))
    (moves : ∀ {scope msg} key slot next, SlotMove scope msg key slot next → holds key slot →
      holds key next)
    (rewound : ∀ key (slot : RunSlot), holds key slot →
      holds key { slot with bundler := slot.bundler.rewind, bundleAssetObjs := [] })
    (idle : engine.Idle) (trace : run plans (Config.start engine plan) labels = some reached) :
    ∀ key, ∀ slot ∈ reached.engine.state.run key, holds key slot := by
  refine run_engine_invariant (fun engine => ∀ key, ∀ slot ∈ engine.state.run key, holds key slot)
    ?_ trace ?_
  · intro before after move held
    cases move with
    | handled effect => exact slots_of_effect holds fresh (fun _ _ _ => moves _ _ _) effect held
    | receive _ request => cases request <;> exact held
    | arm _ =>
        intro key slot found
        rcases run_armReplay before key with same | rolled
        · rw [same] at found
          exact held key slot found
        · rw [rolled] at found
          obtain ⟨earlier, was, rfl⟩ := Option.map_eq_some_iff.mp found
          exact rewound key earlier (held key earlier was)
    | throw caught =>
        unfold RunEngine.throwIntoPlan at caught
        split at caught
        · cases caught
        · cases caught
          exact held
    | _ => exact held
  · intro key slot found
    simp [Config.start, RunEngine.begin, EngineState.run, idle.runs] at found

end Bsrs.Engine
