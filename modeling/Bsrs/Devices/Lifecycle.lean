import Bsrs.Devices.Detector

namespace Bsrs.Devices

open Library
open Bsrs.Core (BsrsError)
open EventModel (DataKey)

/-- The writer may be open: its most recent call is an open that did not fail. -/
def leftOpen : List LogicCall → Bool
  | .opened _ _ (.failed _) :: _ => false
  | .opened _ _ _ :: _ => true
  | _ => false

def leftStopped : List LogicCall → Bool
  | .stopped _ :: _ => true
  | _ => false

/-- The most recent open of a writer, closed since or not. -/
def lastOpen (calls : List LogicCall) : Option LogicCall :=
  calls.find? fun call => match call with | .opened .. => true | .stopped _ => false

/-- No open comes upon an open writer. -/
def OpenedOnce (calls : List LogicCall) : Prop :=
  Always (fun call earlier => match call with
    | .opened .. => leftOpen earlier = false
    | .stopped _ => True) calls

def asksForOne (info : TriggerInfo) : Prop :=
  info.numberOfEvents * info.collectionsPerEvent = 1

instance (info : TriggerInfo) : Decidable (asksForOne info) :=
  inferInstanceAs (Decidable (_ = _))

/-- The keys the writer's most recent open returned. -/
def DataLogic.returned (logic : DataLogic) : List (String × DataKey) :=
  (StandardDetector.keysOf (lastOpen logic.calls)).getD []

/-- The detector is prepared for `info`: each writer was last of all opened for its collections
per event, each single logic is set up iff it asks for one, and the data keys are the opens'. -/
def StandardDetector.ReadyFor (detector : StandardDetector) (info : TriggerInfo) : Prop :=
  ∃ ctx, detector.prepared = some ctx ∧ ctx.triggerInfo = info ∧
    (∀ writer ∈ detector.writers, writer.calls.head? =
      some (.opened (detector.datakeyName writer) info.collectionsPerEvent
        (.done writer.returned))) ∧
    ctx.dataKeys = collectKeys (detector.writers.flatMap DataLogic.returned) ∧
    ∀ logic ∈ detector.dataLogics, logic.kind = .single →
      (logic.id ∈ ctx.singles ↔ asksForOne info)

/-- The info a call prepares the detector for, should it get to that. -/
def StandardDetector.asked (detector : StandardDetector) (answers : Answers) :
    DetectorCall → Option TriggerInfo
  | .prepare info => if answers.prepare.isNone then some info else none
  | .trigger =>
      match detector.prepared with
      | none => if answers.prepare.isNone then some .byDefault else none
      | some ctx => if ctx.triggerInfo.numberOfEvents = 1 then some ctx.triggerInfo else none
  | _ => none

/-- Where the data logics may be prepared for `info`: none recorded, no writer may be open; one
recorded for the same collections per event, no writer was closed since and the single logics
stay as they are; and the wrapped product does not ask for one collection by mistake. -/
structure StandardDetector.Preparable (detector : StandardDetector)
    (info : TriggerInfo) : Prop where
  closed : detector.prepared = none → ∀ writer ∈ detector.writers, leftOpen writer.calls = false
  kept : ∀ ctx ∈ detector.prepared,
    ctx.triggerInfo.collectionsPerEvent = info.collectionsPerEvent →
      (∀ writer ∈ detector.writers, leftStopped writer.calls = false) ∧
      ∀ logic ∈ detector.dataLogics, logic.kind = .single →
        (ctx.triggerInfo.numberOfCollections = 1 ↔ info.numberOfCollections = 1)
  unwrapped : ∀ logic ∈ detector.dataLogics, logic.kind = .single →
    info.numberOfCollections = 1 → asksForOne info

instance (detector : StandardDetector) (info : TriggerInfo) :
    Decidable (detector.Preparable info) :=
  decidable_of_iff
    ((detector.prepared = none → ∀ writer ∈ detector.writers, leftOpen writer.calls = false) ∧
      (∀ ctx ∈ detector.prepared,
        ctx.triggerInfo.collectionsPerEvent = info.collectionsPerEvent →
          (∀ writer ∈ detector.writers, leftStopped writer.calls = false) ∧
          ∀ logic ∈ detector.dataLogics, logic.kind = .single →
            (ctx.triggerInfo.numberOfCollections = 1 ↔ info.numberOfCollections = 1)) ∧
      ∀ logic ∈ detector.dataLogics, logic.kind = .single →
        info.numberOfCollections = 1 → asksForOne info)
    ⟨fun all => ⟨all.1, all.2.1, all.2.2⟩, fun may => ⟨may.1, may.2, may.3⟩⟩

namespace StandardDetector

variable {detector : StandardDetector} {answers : Answers} {info : TriggerInfo}

/-- The data logics were set up for `info`, with these data keys and single logics. -/
structure Stands (detector : StandardDetector) (info : TriggerInfo)
    (dataKeys : Table String DataKey) (singles : List Nat) : Prop where
  opened : ∀ writer ∈ detector.writers, lastOpen writer.calls =
    some (.opened (detector.datakeyName writer) info.collectionsPerEvent (.done writer.returned))
  keys : dataKeys = collectKeys (detector.writers.flatMap DataLogic.returned)
  singles : ∀ logic ∈ detector.dataLogics, logic.kind = .single →
    (logic.id ∈ singles ↔ asksForOne info)
  unwrapped : ∀ logic ∈ detector.dataLogics, logic.kind = .single →
    info.numberOfCollections = 1 → asksForOne info

/-- What holds of a detector between two calls. -/
structure Kept (detector : StandardDetector) : Prop where
  once : ∀ writer ∈ detector.writers, OpenedOnce writer.calls
  stands : ∀ ctx ∈ detector.prepared, detector.Stands ctx.triggerInfo ctx.dataKeys ctx.singles

theorem mem_writers {logic : DataLogic} :
    logic ∈ detector.writers ↔ logic ∈ detector.dataLogics ∧ logic.kind = .unbounded := by
  simp [writers]

/-- The detector with `more` asked of each of its logics. -/
private def ask (detector : StandardDetector) (more : DataLogic → List LogicCall) :
    StandardDetector :=
  { detector with
    dataLogics := detector.dataLogics.map fun logic =>
      { logic with calls := more logic ++ logic.calls } }

private theorem writers_ask (more : DataLogic → List LogicCall) :
    (detector.ask more).writers =
      detector.writers.map fun logic => { logic with calls := more logic ++ logic.calls } := by
  simp only [writers, ask, List.filter_map]
  rfl

private theorem stop_asks :
    (detector.stopDataLogics answers).1 =
      detector.ask fun logic => [.stopped (answers.stop logic.id)] :=
  rfl

private theorem prepare_asks :
    (detector.prepareDataLogics answers info).1 =
      detector.ask fun logic => (detector.openCall answers info logic).toList :=
  rfl

/-- Stopping the logics leaves what they were set up for. -/
private theorem Stands.stopped {dataKeys : Table String DataKey} {singles : List Nat}
    (stands : detector.Stands info dataKeys singles) :
    (detector.stopDataLogics answers).1.Stands info dataKeys singles := by
  rw [stop_asks]
  refine ⟨?_, ?_, ?_, ?_⟩
  · intro writer member
    rw [writers_ask] at member
    obtain ⟨before, held, rfl⟩ := List.mem_map.mp member
    exact stands.opened before held
  · rw [writers_ask, List.flatMap_map]
    exact stands.keys
  · intro logic member single
    obtain ⟨before, held, rfl⟩ := List.mem_map.mp member
    exact stands.singles before held single
  · intro logic member single
    obtain ⟨before, held, rfl⟩ := List.mem_map.mp member
    exact stands.unwrapped before held single

private theorem once_stopped (answers : Answers) (detector : StandardDetector)
    (once : ∀ writer ∈ detector.writers, OpenedOnce writer.calls) :
    ∀ writer ∈ (detector.stopDataLogics answers).1.writers, OpenedOnce writer.calls := by
  intro writer member
  rw [stop_asks, writers_ask] at member
  obtain ⟨before, held, rfl⟩ := List.mem_map.mp member
  exact ⟨trivial, once before held⟩

private theorem closed_stopped (answers : Answers) (detector : StandardDetector) :
    ∀ writer ∈ (detector.stopDataLogics answers).1.writers, leftOpen writer.calls = false := by
  intro writer member
  rw [stop_asks, writers_ask] at member
  obtain ⟨before, held, rfl⟩ := List.mem_map.mp member
  rfl

private theorem openCall_opened {logic : DataLogic} {call : LogicCall}
    (asked : detector.openCall answers info logic = some call) :
    ∃ answer, call =
      .opened (detector.datakeyName logic) info.collectionsPerEvent answer := by
  unfold openCall at asked
  split at asked
  · cases asked
  · split at asked
    · cases asked
    · exact ⟨_, (Option.some.inj asked).symm⟩

/-- The calls of a prepare on closed writers open none twice. -/
private theorem once_prepared (answers : Answers) (info : TriggerInfo)
    (once : ∀ writer ∈ detector.writers, OpenedOnce writer.calls)
    (closed : ∀ writer ∈ detector.writers, leftOpen writer.calls = false) :
    ∀ writer ∈ (detector.prepareDataLogics answers info).1.writers,
      OpenedOnce writer.calls := by
  intro writer member
  rw [prepare_asks, writers_ask] at member
  obtain ⟨before, held, rfl⟩ := List.mem_map.mp member
  cases call : detector.openCall answers info before with
  | none => exact once before held
  | some made =>
      obtain ⟨answer, rfl⟩ := openCall_opened call
      exact ⟨closed before held, once before held⟩

private theorem openCall_done {logic : DataLogic}
    (done : (keysOf (detector.openCall answers info logic)).isSome = true) :
    ∃ keys, detector.openCall answers info logic =
      some (.opened (detector.datakeyName logic) info.collectionsPerEvent (.done keys)) := by
  unfold openCall at done ⊢
  split at done
  · cases done
  · rename_i asked
    rw [if_neg asked]
    cases answer : answers.opening logic.id with
    | done keys => exact ⟨keys, rfl⟩
    | failed error => simp [answer, keysOf] at done
    | dropped => simp [answer, keysOf] at done
    | unreached => simp [answer, keysOf] at done

private theorem numberOfCollections_one (one : asksForOne info) : info.numberOfCollections = 1 := by
  have below : 1 % 2 ^ 32 = 1 := Nat.mod_eq_of_lt (by decide)
  rw [TriggerInfo.numberOfCollections, show _ = 1 from one, below]

/-- A prepare of the data logics that succeeds leaves them set up, every writer just opened. -/
private theorem prepared_stands {dataKeys : Table String DataKey} {singles : List Nat}
    (result : (detector.prepareDataLogics answers info).2 = .ok (dataKeys, singles))
    (unwrapped : ∀ logic ∈ detector.dataLogics, logic.kind = .single →
      info.numberOfCollections = 1 → asksForOne info) :
    (detector.prepareDataLogics answers info).1.Stands info dataKeys singles ∧
      ∀ writer ∈ (detector.prepareDataLogics answers info).1.writers,
        leftStopped writer.calls = false := by
  simp only [prepareDataLogics] at result
  split at result
  · rename_i all
    obtain ⟨rfl, rfl⟩ := Prod.mk.inj (Except.ok.inj result)
    have done : ∀ writer ∈ detector.writers, ∃ keys, detector.openCall answers info writer =
        some (.opened (detector.datakeyName writer) info.collectionsPerEvent (.done keys)) := by
      intro writer member
      obtain ⟨held, kind⟩ := mem_writers.mp member
      exact openCall_done (List.all_eq_true.mp all writer
        (List.mem_filter.mpr ⟨held, by simp [kind]⟩))
    rw [prepare_asks]
    refine ⟨⟨?_, ?_, ?_, ?_⟩, ?_⟩
    · intro writer member
      rw [writers_ask] at member
      obtain ⟨before, held, rfl⟩ := List.mem_map.mp member
      obtain ⟨keys, call⟩ := done before held
      simp only [call, Option.toList_some, DataLogic.returned]
      rfl
    · rw [writers_ask, List.flatMap_map]
      refine congrArg collectKeys (List.flatMap_congr fun writer member => ?_)
      obtain ⟨keys, call⟩ := done writer member
      simp only [call, DataLogic.returned]
      rfl
    · intro logic member single
      obtain ⟨before, held, rfl⟩ := List.mem_map.mp member
      have single : before.kind = .single := single
      constructor
      · intro chosen
        split at chosen
        · rename_i one
          exact unwrapped before held single one
        · cases chosen
      · intro one
        rw [if_pos (numberOfCollections_one one)]
        exact List.mem_map.mpr ⟨before, List.mem_filter.mpr ⟨held, by simp [single]⟩, rfl⟩
    · intro logic member single
      obtain ⟨before, held, rfl⟩ := List.mem_map.mp member
      exact unwrapped before held single
    · intro writer member
      rw [writers_ask] at member
      obtain ⟨before, held, rfl⟩ := List.mem_map.mp member
      obtain ⟨keys, call⟩ := done before held
      simp only [call]
      rfl
  · cases result

/-- A recorded set-up with no writer closed since is what the detector is ready for. -/
private theorem Stands.ready {ctx : PrepareCtx} (prepared : detector.prepared = some ctx)
    (stands : detector.Stands ctx.triggerInfo ctx.dataKeys ctx.singles)
    (still : ∀ writer ∈ detector.writers, leftStopped writer.calls = false) :
    detector.ReadyFor ctx.triggerInfo := by
  refine ⟨ctx, prepared, rfl, ?_, stands.keys, stands.singles⟩
  intro writer member
  have opened := stands.opened writer member
  have last := still writer member
  cases calls : writer.calls with
  | nil =>
      rw [calls] at opened
      cases opened
  | cons call earlier =>
      rw [calls] at opened last
      cases call with
      | opened => exact opened
      | stopped => cases last

private theorem unwrapped_stopped (answers : Answers) (detector : StandardDetector)
    (unwrapped : ∀ logic ∈ detector.dataLogics, logic.kind = .single →
      info.numberOfCollections = 1 → asksForOne info) :
    ∀ logic ∈ (detector.stopDataLogics answers).1.dataLogics, logic.kind = .single →
      info.numberOfCollections = 1 → asksForOne info := by
  intro logic member single
  obtain ⟨before, held, rfl⟩ := List.mem_map.mp member
  exact unwrapped before held single

/-- What a whole `update_prepare_context` leaves: the detector as it should be, and ready for
what it was asked. -/
private structure Updates (info : TriggerInfo)
    (outcome : StandardDetector × Except BsrsError PrepareCtx) : Prop where
  kept : outcome.1.Kept
  ready : ∀ ctx, outcome.2 = .ok ctx → outcome.1.ReadyFor info

/-- The record of a set-up, or none if the writers disagree. -/
private theorem recordPrepare_updates {dataKeys : Table String DataKey} {singles : List Nat}
    (once : ∀ writer ∈ detector.writers, OpenedOnce writer.calls)
    (stands : detector.Stands info dataKeys singles)
    (still : ∀ writer ∈ detector.writers, leftStopped writer.calls = false)
    (unprepared : detector.prepared = none) :
    Updates info (detector.recordPrepare answers info dataKeys singles) := by
  unfold recordPrepare
  cases detector.collectionsWritten answers with
  | error error =>
      refine ⟨⟨once, ?_⟩, fun ctx result => nomatch result⟩
      intro ctx recorded
      rw [unprepared] at recorded
      cases recorded
  | ok written =>
      dsimp only
      generalize same : (PrepareCtx.mk info written dataKeys singles) = ctx
      have stands : Stands { detector with prepared := some ctx } ctx.triggerInfo ctx.dataKeys
          ctx.singles := by
        rw [← same]
        exact ⟨stands.opened, stands.keys, stands.singles, stands.unwrapped⟩
      refine ⟨⟨once, ?_⟩, fun other _ => ?_⟩
      · intro other recorded
        cases recorded
        exact stands
      · have ready := stands.ready rfl still
        rwa [← same] at ready ⊢

private theorem prepareAnew_updates
    (once : ∀ writer ∈ detector.writers, OpenedOnce writer.calls)
    (closed : ∀ writer ∈ detector.writers, leftOpen writer.calls = false)
    (unwrapped : ∀ logic ∈ detector.dataLogics, logic.kind = .single →
      info.numberOfCollections = 1 → asksForOne info)
    (unprepared : detector.prepared = none) :
    Updates info (detector.prepareAnew answers info) := by
  have opens := once_prepared answers info once closed
  have blank : (detector.prepareDataLogics answers info).1.prepared = none := unprepared
  unfold prepareAnew
  split
  · rename_i after error outcome
    rw [outcome] at opens blank
    refine ⟨⟨opens, ?_⟩, fun ctx result => nomatch result⟩
    intro ctx recorded
    rw [blank] at recorded
    cases recorded
  · rename_i after dataKeys singles outcome
    obtain ⟨stands, still⟩ := prepared_stands (congrArg Prod.snd outcome) unwrapped
    rw [outcome] at opens blank stands still
    exact recordPrepare_updates opens stands still blank

theorem updatePrepareContext_updates (answers : Answers) (kept : detector.Kept)
    (preparable : detector.Preparable info) :
    Updates info (detector.updatePrepareContext answers info) := by
  unfold updatePrepareContext
  cases recorded : detector.prepared with
  | none =>
      exact prepareAnew_updates kept.once (preparable.closed recorded) preparable.unwrapped rfl
  | some previous =>
      have stands := kept.stands previous recorded
      dsimp only
      split
      · rename_i same
        obtain ⟨still, chosen⟩ := preparable.kept previous recorded same
        refine recordPrepare_updates kept.once
          ⟨?_, stands.keys, ?_, preparable.unwrapped⟩ still rfl
        · rw [← same]
          exact stands.opened
        · intro logic member single
          have one := chosen logic member single
          rw [stands.singles logic member single]
          constructor
          · intro before
            exact preparable.unwrapped logic member single
              (one.mp (numberOfCollections_one before))
          · intro after
            exact stands.unwrapped logic member single (one.mpr (numberOfCollections_one after))
      · have once := once_stopped answers { detector with prepared := none } kept.once
        have closed := closed_stopped answers { detector with prepared := none }
        have single := unwrapped_stopped answers { detector with prepared := none }
          preparable.unwrapped
        have blank : (stopDataLogics { detector with prepared := none } answers).1.prepared = none :=
          rfl
        split
        · rename_i stopped error outcome
          rw [outcome] at once blank
          refine ⟨⟨once, ?_⟩, fun ctx result => nomatch result⟩
          intro ctx recorded
          rw [blank] at recorded
          cases recorded
        · rename_i stopped outcome
          rw [outcome] at once closed single blank
          exact prepareAnew_updates once closed single blank

theorem prepareFor_updates (answers : Answers) (kept : detector.Kept)
    (preparable : answers.prepare = none → detector.Preparable info) :
    Updates info (detector.prepareFor answers info) := by
  unfold prepareFor
  cases answered : answers.prepare with
  | some error => exact ⟨kept, fun ctx result => nomatch result⟩
  | none =>
      have updates := updatePrepareContext_updates answers kept (preparable answered)
      dsimp only
      split
      · rename_i after error outcome
        rw [outcome] at updates
        exact updates
      · rename_i after ctx outcome
        rw [outcome] at updates
        refine ⟨⟨updates.kept.once, fun other recorded => ?_⟩, fun other result => ?_⟩
        · have stands := updates.kept.stands other recorded
          exact ⟨stands.opened, stands.keys, stands.singles, stands.unwrapped⟩
        · exact updates.ready ctx rfl

private theorem stage_kept (answers : Answers) (kept : detector.Kept) :
    (detector.stage answers).1.Kept := by
  unfold stage
  cases answers.disarm with
  | some error => exact kept
  | none => exact ⟨once_stopped answers _ kept.once, fun ctx recorded => nomatch recorded⟩

private theorem unstage_kept (answers : Answers) (kept : detector.Kept) :
    (detector.unstage answers).1.Kept := by
  unfold unstage
  cases answers.disarm with
  | some error => exact kept
  | none =>
      exact ⟨once_stopped answers _ kept.once,
        fun ctx recorded => (kept.stands ctx recorded).stopped⟩

private theorem kickoffCtx_kept (answers : Answers) (kept : detector.Kept) :
    (detector.kickoffCtx answers).1.Kept := by
  have either : (detector.kickoffCtx answers).1 = detector ∨
      ∃ kickoff, (detector.kickoffCtx answers).1 = { detector with kickedOff := some kickoff } := by
    unfold kickoffCtx
    split
    · exact .inl rfl
    · split
      · exact .inl rfl
      · split
        · exact .inl rfl
        · dsimp only
          split
          · exact .inl rfl
          · exact .inr ⟨_, rfl⟩
  rcases either with same | ⟨kickoff, same⟩
  · rw [same]
    exact kept
  · rw [same]
    refine ⟨kept.once, fun ctx recorded => ?_⟩
    have stands := kept.stands ctx recorded
    exact ⟨stands.opened, stands.keys, stands.singles, stands.unwrapped⟩

private theorem triggerCtx_updates (answers : Answers) (kept : detector.Kept)
    (preparable : ∀ info, detector.asked answers .trigger = some info →
      detector.Preparable info) :
    (detector.triggerCtx answers).1.Kept ∧
      ∀ ctx info, (detector.triggerCtx answers).2 = .ok ctx →
        detector.asked answers .trigger = some info →
          (detector.triggerCtx answers).1.ReadyFor info := by
  unfold triggerCtx
  cases recorded : detector.prepared with
  | none =>
      have updates := prepareFor_updates answers kept fun answered =>
        preparable .byDefault (by simp [asked, recorded, answered])
      refine ⟨updates.kept, fun ctx info given wanted => ?_⟩
      obtain rfl : TriggerInfo.byDefault = info := by
        simp only [asked, recorded, Option.ite_none_right_eq_some, Option.some.injEq] at wanted
        exact wanted.2
      exact updates.ready ctx given
  | some previous =>
      dsimp only
      split
      · exact ⟨kept, fun ctx info given => nomatch given⟩
      · rename_i single
        have wanted : detector.asked answers .trigger = some previous.triggerInfo := by
          simp [asked, recorded, not_not.mp single]
        have updates := updatePrepareContext_updates answers kept (preparable _ wanted)
        refine ⟨updates.kept, fun ctx info given same => ?_⟩
        obtain rfl : previous.triggerInfo = info := Option.some.inj (wanted.symm.trans same)
        exact updates.ready ctx given

/-- One call, where a prepare it makes may be made, keeps the detector as it should be. -/
theorem Kept.perform (kept : detector.Kept) (call : DetectorCall)
    (preparable : ∀ info, detector.asked answers call = some info → detector.Preparable info) :
    (detector.perform answers call).detector.Kept ∧
      ∀ ctx info, (detector.perform answers call).ctx = some ctx →
        detector.asked answers call = some info →
          (detector.perform answers call).detector.ReadyFor info := by
  cases call with
  | stage => exact ⟨stage_kept answers kept, fun ctx info given => nomatch given⟩
  | unstage => exact ⟨unstage_kept answers kept, fun ctx info given => nomatch given⟩
  | prepare info =>
      have updates := prepareFor_updates answers kept fun answered =>
        preparable info (by simp [asked, answered])
      refine ⟨updates.kept, fun ctx other given wanted => ?_⟩
      obtain rfl : info = other := by
        simp only [asked, Option.ite_none_right_eq_some, Option.some.injEq] at wanted
        exact wanted.2
      refine updates.ready ctx ?_
      cases result : (detector.prepareFor answers info).2 with
      | error error => simp [StandardDetector.perform, result, Except.toOption] at given
      | ok found => simpa [StandardDetector.perform, result, Except.toOption] using given
  | trigger =>
      have updates := triggerCtx_updates answers kept preparable
      unfold StandardDetector.perform
      dsimp only
      split
      · rename_i after error outcome
        rw [outcome] at updates
        exact ⟨updates.1, fun ctx info given => nomatch given⟩
      · rename_i after found outcome
        rw [outcome] at updates
        exact ⟨updates.1, fun ctx info _ => updates.2 found info rfl⟩
  | kickoff =>
      have after := kickoffCtx_kept answers kept
      unfold StandardDetector.perform
      dsimp only
      split
      · rename_i ended error outcome
        rw [outcome] at after
        exact ⟨after, fun ctx info given => nomatch given⟩
      · rename_i ended found outcome
        rw [outcome] at after
        exact ⟨after, fun ctx info given => nomatch given⟩

end StandardDetector

/-- A detector under a sequence of calls, and what the last of them prepared it for, if it was a
prepare or a trigger that got past `update_prepare_context`. -/
structure Bench where
  detector : StandardDetector
  past : Option TriggerInfo
  deriving DecidableEq

def Bench.fresh (name : String) (logics : List (LogicKind × String)) : Bench :=
  { detector := .withDataLogics name logics, past := none }

def Bench.step (bench : Bench) (label : DetectorCall × Answers) : Option Bench :=
  let ended := bench.detector.perform label.2 label.1
  some
    { detector := ended.detector
      past := if ended.ctx.isSome then bench.detector.asked label.2 label.1 else none }

def Bench.Preparable (bench : Bench) (label : DetectorCall × Answers) : Prop :=
  ∀ info ∈ bench.detector.asked label.2 label.1, bench.detector.Preparable info

instance (bench : Bench) (label : DetectorCall × Answers) : Decidable (bench.Preparable label) :=
  inferInstanceAs (Decidable (∀ info ∈ _, _))

/-- No writer was opened twice without a close in between, and the detector is as the last
prepare or trigger asked. -/
def Bench.Orderly (bench : Bench) : Prop :=
  (∀ writer ∈ bench.detector.writers, OpenedOnce writer.calls) ∧
    ∀ info, bench.past = some info → bench.detector.ReadyFor info

theorem Bench.fresh_kept (name : String) (logics : List (LogicKind × String)) :
    (Bench.fresh name logics).detector.Kept := by
  refine ⟨fun writer member => ?_, fun ctx recorded => nomatch recorded⟩
  obtain ⟨held, _⟩ := StandardDetector.mem_writers.mp member
  obtain ⟨place, _, rfl⟩ := List.mem_mapIdx.mp held
  trivial

theorem lifecycle_orderly {name : String} {logics : List (LogicKind × String)}
    {calls : List (DetectorCall × Answers)} {bench : Bench}
    (reached : exec Bench.step (.fresh name logics) calls = some bench)
    (preparable : Throughout Bench.step Bench.Preparable (.fresh name logics) calls) :
    bench.Orderly := by
  have kept := exec_invariant_throughout
    (fun bench : Bench => bench.detector.Kept ∧ bench.Orderly)
    (fun before label after stepped may held => ?_) reached preparable
    ⟨Bench.fresh_kept name logics, (Bench.fresh_kept name logics).once,
      fun info past => nomatch past⟩
  · exact kept.2
  · cases stepped
    obtain ⟨kept, ready⟩ := held.1.perform label.1 may
    refine ⟨kept, kept.once, fun info past => ?_⟩
    dsimp only at past
    split at past
    · rename_i given
      obtain ⟨ctx, found⟩ := Option.isSome_iff_exists.mp given
      exact ready ctx info found past
    · cases past

private def obliging : Answers :=
  { prepare := none, disarm := none, arm := none, waited := none
    stop := fun _ => none
    opening := fun id => .done [("key" ++ toString id, ⟨"array", some "STREAM:", none⟩)]
    joinFailure := .cancelled
    written := fun _ => 0 }

private def infoOf (events perEvent : Nat) : TriggerInfo :=
  { TriggerInfo.byDefault with numberOfEvents := events, collectionsPerEvent := perEvent }

private def mixed : List (LogicKind × String) :=
  [(.unbounded, ""), (.single, "-sum")]

/-- A scan that prepares three times, then triggers. -/
private def threePrepares : List (DetectorCall × Answers) :=
  [(.stage, obliging), (.prepare (infoOf 2 2), obliging), (.prepare (infoOf 3 2), obliging),
    (.prepare (infoOf 1 1), obliging), (.trigger, obliging)]

theorem lifecycle_orderly_prepares :
    ∃ bench, exec Bench.step (.fresh "det" mixed) threePrepares = some bench ∧
      bench.Orderly := by
  have runs : (exec Bench.step (.fresh "det" mixed) threePrepares).isSome = true := by
    decide +kernel
  obtain ⟨bench, reached⟩ := Option.isSome_iff_exists.mp runs
  exact ⟨bench, reached, lifecycle_orderly reached (by decide +kernel)⟩

/-- A prepare after an unstage without a stage finds its record standing, and opens nothing. -/
theorem unstaged_prepare_opens_nothing :
    ∃ bench, exec Bench.step (.fresh "det" [(.unbounded, "")])
        [(.prepare (infoOf 1 1), obliging), (.unstage, obliging),
          (.prepare (infoOf 1 1), obliging)] = some bench ∧
      ¬ bench.Orderly := by
  refine ⟨_, rfl, fun orderly => ?_⟩
  obtain ⟨ctx, _, _, opened, _⟩ := orderly.2 (infoOf 1 1) rfl
  have last := opened _ (List.mem_singleton_self _)
  cases last

end Bsrs.Devices
