import Bsrs.Core.Error
import Bsrs.Library.Journal
import Bsrs.Library.Run
import Mathlib.Algebra.Group.Nat.Defs
import Mathlib.Data.List.Sort

/-! `StandardDetector`: its data logics, and the calls that open and close them. Every answer of
the control and of a logic, and every failure, comes with the call that meets it. -/

namespace Bsrs.Devices

open Library
open Bsrs.Core (BsrsError)
open EventModel (DataKey)

inductive DetectorTrigger where
  | internal
  | externalEdge
  | externalLevel
  deriving Repr, DecidableEq

/-- `TriggerInfo`, its durations in nanoseconds. -/
structure TriggerInfo where
  trigger : DetectorTrigger
  numberOfEvents : Nat
  livetime : Option Nat
  deadtime : Option Nat
  exposuresPerCollection : Nat
  collectionsPerEvent : Nat
  exposureTimeout : Option Nat
  deriving Repr, DecidableEq

/-- `TriggerInfo::default`. -/
def TriggerInfo.byDefault : TriggerInfo :=
  { trigger := .internal, numberOfEvents := 1, livetime := none, deadtime := none
    exposuresPerCollection := 1, collectionsPerEvent := 1, exposureTimeout := none }

/-- `number_of_collections`, a product of 32 bit numbers that wraps around. -/
def TriggerInfo.numberOfCollections (info : TriggerInfo) : Nat :=
  info.numberOfEvents * info.collectionsPerEvent % 2 ^ 32

def exposureTimeoutMargin : Nat := 10000000000

def TriggerInfo.effectiveExposureTimeout (info : TriggerInfo) : Nat :=
  info.exposureTimeout.getD (info.livetime.getD 0 + info.deadtime.getD 0 + exposureTimeoutMargin)

/-- What became of one logic's part of a prepare: it finished with its data keys, failed, was
begun and dropped when another failed, or was never begun. -/
inductive OpenAnswer where
  | done (keys : List (String × DataKey))
  | failed (error : BsrsError)
  | dropped
  | unreached
  deriving Repr, DecidableEq

/-- A call on a data logic: `open` or `prepare_single` under its name, and `close` or `stop`. -/
inductive LogicCall where
  | opened (datakeyName : String) (multiplier : Nat) (answer : OpenAnswer)
  | stopped (result : Option BsrsError)
  deriving Repr, DecidableEq

inductive LogicKind where
  | unbounded
  | single
  deriving Repr, DecidableEq

/-- One data logic and the calls on it, newest first. -/
structure DataLogic where
  id : Nat
  kind : LogicKind
  datakeySuffix : String
  calls : List LogicCall
  deriving Repr, DecidableEq

/-- `singles` are the single data logics set up, by their ids. -/
structure PrepareCtx where
  triggerInfo : TriggerInfo
  collectionsWritten : Nat
  dataKeys : Table String DataKey
  singles : List Nat
  deriving DecidableEq

structure KickoffCtx where
  collectionsWritten : Nat
  collectionsRequested : Nat
  exposureTimeout : Nat
  isLastKickoff : Bool
  deriving Repr, DecidableEq

structure StandardDetector where
  name : String
  dataLogics : List DataLogic
  prepared : Option PrepareCtx
  kickedOff : Option KickoffCtx
  eventsToKickoff : Nat
  deriving DecidableEq

/-- `with_data_logics`, over logics nothing was asked of yet. -/
def StandardDetector.withDataLogics (name : String) (logics : List (LogicKind × String)) :
    StandardDetector :=
  { name := name
    dataLogics := logics.mapIdx fun id (kind, suffix) => ⟨id, kind, suffix, []⟩
    prepared := none, kickedOff := none, eventsToKickoff := 0 }

/-- What the control and the logics answer within one call. `joinFailure` is the failure the
joined parts of a prepare end with; `waited` is the end of the wait for a written index. -/
structure Answers where
  prepare : Option BsrsError
  disarm : Option BsrsError
  arm : Option BsrsError
  waited : Option BsrsError
  stop : Nat → Option BsrsError
  opening : Nat → OpenAnswer
  joinFailure : BsrsError
  written : Nat → Nat

namespace StandardDetector

variable (detector : StandardDetector) (answers : Answers)

def writers : List DataLogic :=
  detector.dataLogics.filter fun logic => logic.kind = .unbounded

def datakeyName (logic : DataLogic) : String :=
  detector.name ++ logic.datakeySuffix

/-- What every writer has written, which must agree. -/
def collectionsWritten : Except BsrsError Nat :=
  match (detector.writers.map fun writer => answers.written writer.id).dedup with
  | [] => .ok 0
  | [written] => .ok written
  | several =>
      let texts := (several.insertionSort (· ≤ ·)).map toString
      .error (.other ("device state error: Detectors have written different numbers of " ++
        "collections: \x7b" ++ String.intercalate ", " texts ++ "\x7d"))

/-- Every logic is stopped, whether or not another one fails; the first failure by place. -/
def stopDataLogics : StandardDetector × Except BsrsError Unit :=
  ({ detector with
      dataLogics := detector.dataLogics.map fun logic =>
        { logic with calls := .stopped (answers.stop logic.id) :: logic.calls } },
    match detector.dataLogics.findSome? fun logic => answers.stop logic.id with
    | some error => .error error
    | none => .ok ())

/-- The call a prepare for `info` makes on a logic, if any. -/
def openCall (info : TriggerInfo) (logic : DataLogic) : Option LogicCall :=
  if logic.kind = .single ∧ info.numberOfCollections ≠ 1 then none
  else
    match answers.opening logic.id with
    | .unreached => none
    | answer => some (.opened (detector.datakeyName logic) info.collectionsPerEvent answer)

/-- The keys a call was answered with. -/
def keysOf : Option LogicCall → Option (List (String × DataKey))
  | some (.opened _ _ (.done keys)) => some keys
  | _ => none

def collectKeys (keys : List (String × DataKey)) : Table String DataKey :=
  keys.foldl (fun table (name, key) => table.insert name key) ∅

/-- Open each writer and set up each single logic if `info` is for one collection, all at once;
the first failure drops what is not finished. -/
def prepareDataLogics (info : TriggerInfo) :
    StandardDetector × Except BsrsError (Table String DataKey × List Nat) :=
  let asked := detector.dataLogics.filter fun logic =>
    logic.kind = .unbounded || info.numberOfCollections = 1
  let singles := if info.numberOfCollections = 1
    then (detector.dataLogics.filter fun logic => logic.kind = .single).map (·.id) else []
  ({ detector with
      dataLogics := detector.dataLogics.map fun logic =>
        { logic with calls := (detector.openCall answers info logic).toList ++ logic.calls } },
    if asked.all fun logic => (keysOf (detector.openCall answers info logic)).isSome then
      .ok (collectKeys (detector.writers.flatMap fun writer =>
        (keysOf (detector.openCall answers info writer)).getD []), singles)
    else .error answers.joinFailure)

/-- The end of `update_prepare_context`: the context, with what is written now. -/
def recordPrepare (info : TriggerInfo) (dataKeys : Table String DataKey) (singles : List Nat) :
    StandardDetector × Except BsrsError PrepareCtx :=
  match detector.collectionsWritten answers with
  | .error error => (detector, .error error)
  | .ok written =>
      let ctx : PrepareCtx :=
        { triggerInfo := info, collectionsWritten := written, dataKeys, singles }
      ({ detector with prepared := some ctx }, .ok ctx)

/-- The part of `update_prepare_context` that sets the data logics up. -/
def prepareAnew (info : TriggerInfo) : StandardDetector × Except BsrsError PrepareCtx :=
  match detector.prepareDataLogics answers info with
  | (detector, .error error) => (detector, .error error)
  | (detector, .ok (dataKeys, singles)) => detector.recordPrepare answers info dataKeys singles

/-- The recorded prepare is taken first: a failure on the way leaves none behind. -/
def updatePrepareContext (info : TriggerInfo) :
    StandardDetector × Except BsrsError PrepareCtx :=
  let taken := { detector with prepared := none }
  match detector.prepared with
  | none => taken.prepareAnew answers info
  | some previous =>
      if previous.triggerInfo.collectionsPerEvent = info.collectionsPerEvent then
        taken.recordPrepare answers info previous.dataKeys previous.singles
      else
        match taken.stopDataLogics answers with
        | (stopped, .error error) => (stopped, .error error)
        | (stopped, .ok ()) => stopped.prepareAnew answers info

def prepareFor (info : TriggerInfo) : StandardDetector × Except BsrsError PrepareCtx :=
  match answers.prepare with
  | some error => (detector, .error error)
  | none =>
      match detector.updatePrepareContext answers info with
      | (detector, .error error) => (detector, .error error)
      | (detector, .ok ctx) =>
          ({ detector with eventsToKickoff := ctx.triggerInfo.numberOfEvents }, .ok ctx)

/-- `trigger_one` up to the arming: the context it goes on with. -/
def triggerCtx : StandardDetector × Except BsrsError PrepareCtx :=
  match detector.prepared with
  | none => detector.prepareFor answers .byDefault
  | some ctx =>
      if ctx.triggerInfo.numberOfEvents ≠ 1 then
        (detector, .error (.plan (.planFailed
          ("trigger() is not supported for multiple events, the detector was prepared with " ++
            "number_of_events=" ++ toString ctx.triggerInfo.numberOfEvents ++ "."))))
      else detector.updatePrepareContext answers ctx.triggerInfo

def kickoffCtx : StandardDetector × Except BsrsError KickoffCtx :=
  match detector.prepared with
  | none => (detector, .error (.other "device state error: Prepare not called"))
  | some ctx =>
      if detector.writers = [] then
        (detector, .error (.other ("device state error: Detector " ++ detector.name ++
          " is not streamable, so cannot kickoff")))
      else
        match detector.collectionsWritten answers with
        | .error error => (detector, .error error)
        | .ok written =>
            let requested := detector.eventsToKickoff * ctx.triggerInfo.collectionsPerEvent
            let lastRequested := written + requested
            let lastExpected := ctx.collectionsWritten + ctx.triggerInfo.numberOfCollections
            if lastRequested > lastExpected then
              (detector, .error (.other ("device state error: Kickoff requested " ++
                toString written ++ ":" ++ toString lastRequested ++
                ", but detector was only prepared up to " ++ toString lastExpected)))
            else
              let kickoff : KickoffCtx :=
                { collectionsWritten := written
                  collectionsRequested := requested
                  exposureTimeout := ctx.triggerInfo.effectiveExposureTimeout
                  isLastKickoff := lastRequested = lastExpected }
              ({ detector with kickedOff := some kickoff }, .ok kickoff)

def stage : StandardDetector × Except BsrsError Unit :=
  match answers.disarm with
  | some error => (detector, .error error)
  | none =>
      { detector with prepared := none, kickedOff := none, eventsToKickoff := 0 }.stopDataLogics
        answers

def unstage : StandardDetector × Except BsrsError Unit :=
  match answers.disarm with
  | some error => (detector, .error error)
  | none => detector.stopDataLogics answers

end StandardDetector

inductive DetectorCall where
  | stage
  | unstage
  | prepare (info : TriggerInfo)
  | trigger
  | kickoff
  deriving Repr, DecidableEq

/-- How a call ended, and the context its `update_prepare_context` returned, if it got there. -/
structure CallEnd where
  detector : StandardDetector
  ctx : Option PrepareCtx
  result : Option BsrsError
  deriving DecidableEq

def failure : Except BsrsError α → Option BsrsError
  | .ok _ => none
  | .error error => some error

def StandardDetector.perform (detector : StandardDetector) (answers : Answers) :
    DetectorCall → CallEnd
  | .stage =>
      let (after, result) := detector.stage answers
      { detector := after, ctx := none, result := failure result }
  | .unstage =>
      let (after, result) := detector.unstage answers
      { detector := after, ctx := none, result := failure result }
  | .prepare info =>
      let (after, result) := detector.prepareFor answers info
      { detector := after, ctx := result.toOption, result := failure result }
  | .trigger =>
      match detector.triggerCtx answers with
      | (after, .error error) => { detector := after, ctx := none, result := some error }
      | (after, .ok ctx) =>
          { detector := after, ctx := some ctx, result := answers.arm.or answers.waited }
  | .kickoff =>
      match detector.kickoffCtx answers with
      | (after, .error error) => { detector := after, ctx := none, result := some error }
      | (after, .ok _) => { detector := after, ctx := none, result := answers.arm }

end Bsrs.Devices
