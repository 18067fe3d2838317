import Bsrs.Devices.Detector

/-! The arithmetic of `TriggerInfo`, `kickoff` and `complete`, in the integers and in the machine's
numbers of a build that panics on an overflow or wraps around. -/

namespace Bsrs.Devices

open Library
open Bsrs.Core (BsrsError)

/-- What a sum or a product comes to that is out of range. -/
inductive Overflow where
  | unbounded
  | panics
  | wraps
  deriving Repr, DecidableEq

/-- A value in so many bits; `none` is a panic. -/
def Overflow.keep (overflow : Overflow) (bits value : Nat) : Option Nat :=
  match overflow with
  | .unbounded => some value
  | .panics => if value < 2 ^ bits then some value else none
  | .wraps => some (value % 2 ^ bits)

theorem Overflow.keep_of_lt {bits value : Nat} (overflow : Overflow) (fits : value < 2 ^ bits) :
    overflow.keep bits value = some value := by
  cases overflow with
  | unbounded => rfl
  | panics => exact if_pos fits
  | wraps => exact congrArg some (Nat.mod_eq_of_lt fits)

theorem Overflow.lt_of_keep {bits value kept : Nat}
    (same : Overflow.panics.keep bits value = some kept) : value < 2 ^ bits ∧ kept = value := by
  by_cases fits : value < 2 ^ bits
  · rw [keep, if_pos fits] at same
    exact ⟨fits, (Option.some.inj same).symm⟩
  · rw [keep, if_neg fits] at same
    cases same

/-- A `Duration` in nanoseconds lies below this. -/
def durationLimit : Nat := 2 ^ 64 * 10 ^ 9

/-- The sum of two durations, which panics in every build. -/
def Overflow.addDurations (overflow : Overflow) (a b : Nat) : Option Nat :=
  match overflow with
  | .unbounded => some (a + b)
  | .panics | .wraps => if a + b < durationLimit then some (a + b) else none

theorem Overflow.addDurations_of_lt {a b : Nat} (overflow : Overflow)
    (fits : a + b < durationLimit) : overflow.addDurations a b = some (a + b) := by
  cases overflow with
  | unbounded => rfl
  | panics => exact if_pos fits
  | wraps => exact if_pos fits

theorem Overflow.lt_of_addDurations {a b sum : Nat}
    (same : Overflow.panics.addDurations a b = some sum) : a + b < durationLimit ∧ sum = a + b := by
  by_cases fits : a + b < durationLimit
  · rw [addDurations, if_pos fits] at same
    exact ⟨fits, (Option.some.inj same).symm⟩
  · rw [addDurations, if_neg fits] at same
    cases same

namespace Machine

variable (overflow : Overflow) (info : TriggerInfo)

def numberOfCollections : Option Nat :=
  overflow.keep 32 (info.numberOfEvents * info.collectionsPerEvent)

def numberOfExposures : Option Nat :=
  (numberOfCollections overflow info).bind fun collections =>
    overflow.keep 32 (collections * info.exposuresPerCollection)

def effectiveExposureTimeout : Option Nat :=
  match info.exposureTimeout with
  | some timeout => some timeout
  | none =>
      (overflow.addDurations (info.livetime.getD 0) (info.deadtime.getD 0)).bind fun sum =>
        overflow.addDurations sum exposureTimeoutMargin

variable (detector : StandardDetector) (answers : Answers)

/-- `prepare_data_logics` counts the collections before it opens anything. -/
def prepareAnew : Option (StandardDetector × Except BsrsError PrepareCtx) :=
  (numberOfCollections overflow info).map fun _ => detector.prepareAnew answers info

def updatePrepareContext : Option (StandardDetector × Except BsrsError PrepareCtx) :=
  let taken := { detector with prepared := none }
  match detector.prepared with
  | none => prepareAnew overflow info taken answers
  | some previous =>
      if previous.triggerInfo.collectionsPerEvent = info.collectionsPerEvent then
        some (taken.recordPrepare answers info previous.dataKeys previous.singles)
      else
        match taken.stopDataLogics answers with
        | (stopped, .error error) => some (stopped, .error error)
        | (stopped, .ok ()) => prepareAnew overflow info stopped answers

def prepareFor : Option (StandardDetector × Except BsrsError PrepareCtx) :=
  match answers.prepare with
  | some error => some (detector, .error error)
  | none =>
      (updatePrepareContext overflow info detector answers).map fun
        | (detector, .error error) => (detector, .error error)
        | (detector, .ok ctx) =>
            ({ detector with eventsToKickoff := ctx.triggerInfo.numberOfEvents }, .ok ctx)

/-- The end of `kickoff_ctx`, from the collections written now. -/
def kickoffFrom (ctx : PrepareCtx) (written : Nat) :
    Option (StandardDetector × Except BsrsError KickoffCtx) := do
  let requested ← overflow.keep 64 (detector.eventsToKickoff * ctx.triggerInfo.collectionsPerEvent)
  let lastRequested ← overflow.keep 64 (written + requested)
  let collections ← numberOfCollections overflow ctx.triggerInfo
  let lastExpected ← overflow.keep 64 (ctx.collectionsWritten + collections)
  if lastRequested > lastExpected then
    some (detector, .error (.other ("device state error: Kickoff requested " ++
      toString written ++ ":" ++ toString lastRequested ++
      ", but detector was only prepared up to " ++ toString lastExpected)))
  else do
    let exposureTimeout ← effectiveExposureTimeout overflow ctx.triggerInfo
    let kickoff : KickoffCtx :=
      { collectionsWritten := written
        collectionsRequested := requested
        exposureTimeout
        isLastKickoff := lastRequested = lastExpected }
    some ({ detector with kickedOff := some kickoff }, .ok kickoff)

def kickoffCtx : Option (StandardDetector × Except BsrsError KickoffCtx) :=
  match detector.prepared with
  | none => some (detector, .error (.other "device state error: Prepare not called"))
  | some ctx =>
      if detector.writers = [] then
        some (detector, .error (.other ("device state error: Detector " ++ detector.name ++
          " is not streamable, so cannot kickoff")))
      else
        match detector.collectionsWritten answers with
        | .error error => some (detector, .error error)
        | .ok written => kickoffFrom overflow detector ctx written

end Machine

/-- What the wait for an index meets: an update, a writer that is gone, or no update in time. -/
inductive WaitNext where
  | changed
  | closed
  | elapsed
  deriving Repr, DecidableEq

/-- One turn of the wait: what each writer has written, and what comes if that is not enough. -/
structure WaitRound where
  written : Nat → Nat
  next : WaitNext

inductive WaitEnd where
  | waiting
  | reached
  | writerClosed (written target : Nat)
  | timedOut
  deriving Repr, DecidableEq

/-- The loop of `wait_for_index`. -/
def StandardDetector.awaitWritten (detector : StandardDetector) (target : Nat) :
    List WaitRound → WaitEnd
  | [] => .waiting
  | round :: rest =>
      match (detector.writers.map fun writer => round.written writer.id).min? with
      | none => .reached
      | some written =>
          if target ≤ written then .reached
          else
            match round.next with
            | .changed => detector.awaitWritten target rest
            | .closed => .writerClosed written target
            | .elapsed => .timedOut

inductive CompleteEnd where
  | notKickedOff
  | waiting
  | failed (ended : WaitEnd) (exposureTimeout : Nat)
  | notIdle (error : BsrsError)
  | done
  deriving Repr, DecidableEq

/-- `complete`, which waits for the hardware to go idle after the last kickoff. -/
def Machine.complete (overflow : Overflow) (detector : StandardDetector) (rounds : List WaitRound)
    (idle : Option BsrsError) : Option CompleteEnd :=
  match detector.kickedOff with
  | none => some .notKickedOff
  | some kickoff =>
      (overflow.keep 64 (kickoff.collectionsWritten + kickoff.collectionsRequested)).map fun target =>
        match detector.awaitWritten target rounds with
        | .waiting => .waiting
        | .reached =>
            if kickoff.isLastKickoff then
              match idle with
              | some error => .notIdle error
              | none => .done
            else .done
        | ended => .failed ended kickoff.exposureTimeout

inductive FlyCall where
  | stage
  | unstage
  | setEventsToKickoff (events : Nat)
  | prepare (info : TriggerInfo)
  | kickoff
  | complete (rounds : List WaitRound) (idle : Option BsrsError)

/-- A detector, and the kickoffs since it was prepared. -/
structure Fly where
  detector : StandardDetector
  asked : List KickoffCtx
  deriving DecidableEq

def Fly.fresh (name : String) (logics : List (LogicKind × String)) : Fly :=
  { detector := .withDataLogics name logics, asked := [] }

/-- One call; `none` where it panics. -/
def Fly.step (overflow : Overflow) (fly : Fly) (label : FlyCall × Answers) : Option Fly :=
  match label.1 with
  | .stage => some { fly with detector := (fly.detector.stage label.2).1 }
  | .unstage => some { fly with detector := (fly.detector.unstage label.2).1 }
  | .setEventsToKickoff events =>
      some { fly with detector := { fly.detector with eventsToKickoff := events } }
  | .prepare info =>
      (Machine.prepareFor overflow info fly.detector label.2).map fun
        | (after, .ok _) => { detector := after, asked := [] }
        | (after, .error _) => { fly with detector := after }
  | .kickoff =>
      (Machine.kickoffCtx overflow fly.detector label.2).map fun
        | (after, .ok kickoff) => { detector := after, asked := kickoff :: fly.asked }
        | (after, .error _) => { fly with detector := after }
  | .complete rounds idle => (Machine.complete overflow fly.detector rounds idle).map fun _ => fly

/-- The end of what is prepared. -/
def PrepareCtx.lastExpected (ctx : PrepareCtx) : Nat :=
  ctx.collectionsWritten + ctx.triggerInfo.numberOfEvents * ctx.triggerInfo.collectionsPerEvent

/-- The end of what a kickoff asks for. -/
def KickoffCtx.lastRequested (kickoff : KickoffCtx) : Nat :=
  kickoff.collectionsWritten + kickoff.collectionsRequested

/-- No kickoff since the prepare asks for more than was prepared. -/
def Fly.Within (fly : Fly) : Prop :=
  ∀ ctx ∈ fly.detector.prepared, ∀ kickoff ∈ fly.asked, kickoff.lastRequested ≤ ctx.lastExpected

/-- The numbers of an info are what they are in the integers. -/
structure TriggerInfo.Exact (info : TriggerInfo) : Prop where
  collections : ∀ overflow, Machine.numberOfCollections overflow info =
    some (info.numberOfEvents * info.collectionsPerEvent)
  exposures : ∀ overflow, Machine.numberOfExposures overflow info =
    some (info.numberOfEvents * info.collectionsPerEvent * info.exposuresPerCollection)
  timeout : ∀ overflow, Machine.effectiveExposureTimeout overflow info =
    some info.effectiveExposureTimeout

/-- A kickoff computes the integers' numbers, succeeds exactly within the prepare, and is the last
exactly where it reaches the end. -/
structure StandardDetector.KicksOff (detector : StandardDetector) (answers : Answers) : Prop where
  exact : ∀ overflow, Machine.kickoffCtx overflow detector answers =
    Machine.kickoffCtx .unbounded detector answers
  succeeds : ∀ ctx written, detector.prepared = some ctx → detector.writers ≠ [] →
    detector.collectionsWritten answers = .ok written →
      ((∃ after kickoff, Machine.kickoffCtx .unbounded detector answers = some (after, .ok kickoff)) ↔
        written + detector.eventsToKickoff * ctx.triggerInfo.collectionsPerEvent ≤ ctx.lastExpected)
  last : ∀ after kickoff,
    Machine.kickoffCtx .unbounded detector answers = some (after, .ok kickoff) →
      ∃ ctx, detector.prepared = some ctx ∧
        (kickoff.isLastKickoff = true ↔ kickoff.lastRequested = ctx.lastExpected)

/-- A complete waits for the integers' target, and where it succeeds every writer has reached it. -/
structure StandardDetector.Completes (detector : StandardDetector) (rounds : List WaitRound)
    (idle : Option BsrsError) : Prop where
  exact : ∀ overflow, Machine.complete overflow detector rounds idle =
    Machine.complete .unbounded detector rounds idle
  reaches : Machine.complete .unbounded detector rounds idle = some .done →
    ∃ kickoff ∈ detector.kickedOff, ∃ round ∈ rounds, ∀ writer ∈ detector.writers,
      kickoff.lastRequested ≤ round.written writer.id

/-- What one call of the flyer promises. -/
structure Fly.Sound (overflow : Overflow) (fly : Fly) (label : FlyCall × Answers) : Prop where
  within : fly.Within ∧ ∀ after ∈ Fly.step overflow fly label, after.Within
  prepares : ∀ info, label.1 = .prepare info →
    info.Exact ∧ ∀ overflow, Machine.prepareFor overflow info fly.detector label.2 ≠ none
  kicksOff : label.1 = .kickoff → fly.detector.KicksOff label.2
  completes : ∀ rounds idle, label.1 = .complete rounds idle → fly.detector.Completes rounds idle

/-- The products of an info fit 32 bits, and its default timeout is a `Duration`. -/
structure TriggerInfo.Fits (info : TriggerInfo) : Prop where
  collections : info.numberOfEvents * info.collectionsPerEvent < 2 ^ 32
  exposures :
    info.numberOfEvents * info.collectionsPerEvent * info.exposuresPerCollection < 2 ^ 32
  timeout : info.exposureTimeout = none →
    info.livetime.getD 0 + info.deadtime.getD 0 + exposureTimeoutMargin < durationLimit

/-- What a kickoff from `written` computes is in range. -/
structure StandardDetector.KickoffFits (detector : StandardDetector) (ctx : PrepareCtx)
    (written : Nat) : Prop where
  requested : detector.eventsToKickoff * ctx.triggerInfo.collectionsPerEvent < 2 ^ 64
  lastRequested :
    written + detector.eventsToKickoff * ctx.triggerInfo.collectionsPerEvent < 2 ^ 64
  collections : ctx.triggerInfo.numberOfEvents * ctx.triggerInfo.collectionsPerEvent < 2 ^ 32
  lastExpected : ctx.lastExpected < 2 ^ 64
  timeout : written + detector.eventsToKickoff * ctx.triggerInfo.collectionsPerEvent ≤
    ctx.lastExpected → ctx.triggerInfo.exposureTimeout = none →
      ctx.triggerInfo.livetime.getD 0 + ctx.triggerInfo.deadtime.getD 0 + exposureTimeoutMargin <
        durationLimit

/-- No call computes a number out of range. -/
def Fly.Fits (fly : Fly) (label : FlyCall × Answers) : Prop :=
  match label.1 with
  | .prepare info => info.Fits
  | .kickoff => ∀ ctx written, fly.detector.prepared = some ctx → fly.detector.writers ≠ [] →
      fly.detector.collectionsWritten label.2 = .ok written → fly.detector.KickoffFits ctx written
  | .complete _ _ => ∀ kickoff ∈ fly.detector.kickedOff, kickoff.lastRequested < 2 ^ 64
  | _ => True

/-! ## The numbers of an info -/

theorem TriggerInfo.collections_of_fits {info : TriggerInfo} (overflow : Overflow)
    (fits : info.numberOfEvents * info.collectionsPerEvent < 2 ^ 32) :
    Machine.numberOfCollections overflow info =
      some (info.numberOfEvents * info.collectionsPerEvent) :=
  overflow.keep_of_lt fits

theorem TriggerInfo.timeout_of_fits {info : TriggerInfo} (overflow : Overflow)
    (fits : info.exposureTimeout = none →
      info.livetime.getD 0 + info.deadtime.getD 0 + exposureTimeoutMargin < durationLimit) :
    Machine.effectiveExposureTimeout overflow info = some info.effectiveExposureTimeout := by
  unfold Machine.effectiveExposureTimeout TriggerInfo.effectiveExposureTimeout
  cases given : info.exposureTimeout with
  | some timeout => rfl
  | none =>
      have total := fits given
      dsimp only
      rw [overflow.addDurations_of_lt (by omega), Option.bind_some, overflow.addDurations_of_lt total]
      rfl

theorem TriggerInfo.fits_of_timeout {info : TriggerInfo} {timeout : Nat}
    (same : Machine.effectiveExposureTimeout .panics info = some timeout)
    (given : info.exposureTimeout = none) :
    info.livetime.getD 0 + info.deadtime.getD 0 + exposureTimeoutMargin < durationLimit := by
  rw [Machine.effectiveExposureTimeout, given] at same
  obtain ⟨sum, first, second⟩ := Option.bind_eq_some_iff.mp same
  obtain ⟨-, rfl⟩ := Overflow.lt_of_addDurations first
  exact (Overflow.lt_of_addDurations second).1

/-- An info's numbers are the integers' exactly where they fit. -/
theorem TriggerInfo.exact_iff_fits {info : TriggerInfo} : info.Exact ↔ info.Fits := by
  constructor
  · intro exact
    have collections := (Overflow.lt_of_keep (exact.collections .panics)).1
    have exposures := exact.exposures .panics
    rw [Machine.numberOfExposures, exact.collections, Option.bind_some] at exposures
    exact ⟨collections, (Overflow.lt_of_keep exposures).1, fits_of_timeout (exact.timeout .panics)⟩
  · intro fits
    refine ⟨fun overflow => collections_of_fits overflow fits.collections, fun overflow => ?_,
      fun overflow => timeout_of_fits overflow fits.timeout⟩
    rw [Machine.numberOfExposures, collections_of_fits overflow fits.collections,
      Option.bind_some, overflow.keep_of_lt fits.exposures]

namespace StandardDetector

variable {detector : StandardDetector} {answers : Answers} {ctx : PrepareCtx} {written : Nat}

/-- A prepare for an info that fits does not panic. -/
theorem prepareFor_ne_none {info : TriggerInfo} (overflow : Overflow) (fits : info.Fits) :
    Machine.prepareFor overflow info detector answers ≠ none := by
  have counted := TriggerInfo.collections_of_fits overflow fits.collections
  unfold Machine.prepareFor Machine.updatePrepareContext Machine.prepareAnew
  rw [counted]
  cases answers.prepare with
  | some error => exact Option.some_ne_none _
  | none =>
      rw [Ne, Option.map_eq_none_iff]
      cases detector.prepared with
      | none => exact Option.some_ne_none _
      | some previous =>
          dsimp only
          split
          · exact Option.some_ne_none _
          · split <;> exact Option.some_ne_none _

/-! ## A kickoff -/

/-- A kickoff in the integers. -/
theorem kickoffFrom_unbounded : Machine.kickoffFrom .unbounded detector ctx written =
    if written + detector.eventsToKickoff * ctx.triggerInfo.collectionsPerEvent > ctx.lastExpected then
      some (detector, .error (.other ("device state error: Kickoff requested " ++
        toString written ++ ":" ++
        toString (written + detector.eventsToKickoff * ctx.triggerInfo.collectionsPerEvent) ++
        ", but detector was only prepared up to " ++ toString ctx.lastExpected)))
    else
      (Machine.effectiveExposureTimeout .unbounded ctx.triggerInfo).bind fun exposureTimeout =>
        let kickoff : KickoffCtx :=
          { collectionsWritten := written
            collectionsRequested :=
              detector.eventsToKickoff * ctx.triggerInfo.collectionsPerEvent
            exposureTimeout
            isLastKickoff := written +
              detector.eventsToKickoff * ctx.triggerInfo.collectionsPerEvent = ctx.lastExpected }
        some ({ detector with kickedOff := some kickoff }, .ok kickoff) :=
  rfl

theorem timeout_unbounded (info : TriggerInfo) :
    Machine.effectiveExposureTimeout .unbounded info = some info.effectiveExposureTimeout := by
  unfold Machine.effectiveExposureTimeout TriggerInfo.effectiveExposureTimeout
  cases info.exposureTimeout <;> rfl

/-- Where its numbers fit, a kickoff computes what it would in the integers. -/
theorem kickoffFrom_fits (overflow : Overflow) (fits : detector.KickoffFits ctx written) :
    Machine.kickoffFrom overflow detector ctx written =
      Machine.kickoffFrom .unbounded detector ctx written := by
  have lastExpected : ctx.collectionsWritten + ctx.triggerInfo.numberOfEvents *
    ctx.triggerInfo.collectionsPerEvent < 2 ^ 64 := fits.lastExpected
  rw [kickoffFrom_unbounded]
  unfold Machine.kickoffFrom
  simp only [overflow.keep_of_lt fits.requested, overflow.keep_of_lt fits.lastRequested,
    TriggerInfo.collections_of_fits overflow fits.collections, overflow.keep_of_lt lastExpected,
    Option.bind_eq_bind, Option.bind_some]
  by_cases more :
      written + detector.eventsToKickoff * ctx.triggerInfo.collectionsPerEvent > ctx.lastExpected
  · rw [if_pos more]
    exact if_pos more
  · rw [if_neg more, timeout_unbounded,
      ← TriggerInfo.timeout_of_fits overflow (fits.timeout (not_lt.mp more))]
    exact if_neg more

/-- A kickoff that computes what it would in the integers has numbers that fit. -/
theorem kickoffFits_of_exact
    (exact : Machine.kickoffFrom .panics detector ctx written =
      Machine.kickoffFrom .unbounded detector ctx written) : detector.KickoffFits ctx written := by
  have ends : Machine.kickoffFrom .unbounded detector ctx written ≠ none := by
    rw [kickoffFrom_unbounded, timeout_unbounded]
    split <;> exact Option.some_ne_none _
  obtain ⟨ended, same⟩ := Option.ne_none_iff_exists'.mp (exact.trans_ne ends)
  unfold Machine.kickoffFrom at same
  simp only [Option.bind_eq_bind, Option.bind_eq_some_iff] at same
  obtain ⟨requested, first, lastRequested, second, collections, third, lastExpected, fourth, rest⟩ :=
    same
  obtain ⟨requestedFits, rfl⟩ := Overflow.lt_of_keep first
  obtain ⟨lastRequestedFits, rfl⟩ := Overflow.lt_of_keep second
  obtain ⟨collectionsFits, rfl⟩ := Overflow.lt_of_keep third
  obtain ⟨lastExpectedFits, rfl⟩ := Overflow.lt_of_keep fourth
  refine ⟨requestedFits, lastRequestedFits, collectionsFits, lastExpectedFits, fun fewer given => ?_⟩
  have took := (if_neg (not_lt.mpr fewer)).symm.trans rest
  obtain ⟨timeout, taken, -⟩ := Option.bind_eq_some_iff.mp took
  exact TriggerInfo.fits_of_timeout taken given

/-- Where a kickoff gets to its arithmetic. -/
theorem kickoffCtx_from (overflow : Overflow) (recorded : detector.prepared = some ctx)
    (streamable : detector.writers ≠ []) (agreed : detector.collectionsWritten answers = .ok written) :
    Machine.kickoffCtx overflow detector answers = Machine.kickoffFrom overflow detector ctx written := by
  unfold Machine.kickoffCtx
  rw [recorded]
  dsimp only
  rw [if_neg streamable, agreed]

/-- And where it fails before. -/
theorem kickoffCtx_early (overflow : Overflow)
    (early : ∀ ctx written, detector.prepared = some ctx → detector.writers ≠ [] →
      detector.collectionsWritten answers ≠ .ok written) :
    ∃ error, Machine.kickoffCtx overflow detector answers = some (detector, .error error) := by
  unfold Machine.kickoffCtx
  cases recorded : detector.prepared with
  | none => exact ⟨_, rfl⟩
  | some ctx =>
      dsimp only
      split
      · exact ⟨_, rfl⟩
      · rename_i streamable
        cases agreed : detector.collectionsWritten answers with
        | error error => exact ⟨_, rfl⟩
        | ok written => exact absurd agreed (early ctx written recorded streamable)

/-- A kickoff that succeeded in the integers. -/
theorem kickoffCtx_ok {after : StandardDetector} {kickoff : KickoffCtx}
    (kicked : Machine.kickoffCtx .unbounded detector answers = some (after, .ok kickoff)) :
    ∃ ctx, detector.prepared = some ctx ∧ after.prepared = some ctx ∧
      kickoff.lastRequested ≤ ctx.lastExpected ∧
      (kickoff.isLastKickoff = true ↔ kickoff.lastRequested = ctx.lastExpected) := by
  by_cases early : ∀ ctx written, detector.prepared = some ctx → detector.writers ≠ [] →
      detector.collectionsWritten answers ≠ .ok written
  · obtain ⟨error, failed⟩ := kickoffCtx_early .unbounded early
    rw [failed] at kicked
    cases kicked
  · simp only [not_forall, not_not] at early
    obtain ⟨ctx, written, recorded, streamable, agreed⟩ := early
    rw [kickoffCtx_from .unbounded recorded streamable agreed, kickoffFrom_unbounded,
      timeout_unbounded] at kicked
    split at kicked
    · cases kicked
    · rename_i fewer
      cases kicked
      exact ⟨ctx, recorded, recorded, not_lt.mp fewer, decide_eq_true_iff⟩

/-- A kickoff that fails changes nothing. -/
theorem kickoffCtx_failed {after : StandardDetector} {error : BsrsError}
    (failed : Machine.kickoffCtx .unbounded detector answers = some (after, .error error)) :
    after.prepared = detector.prepared ∨ after.prepared = none := by
  left
  by_cases early : ∀ ctx written, detector.prepared = some ctx → detector.writers ≠ [] →
      detector.collectionsWritten answers ≠ .ok written
  · obtain ⟨error, same⟩ := kickoffCtx_early .unbounded early
    rw [same] at failed
    cases failed
    rfl
  · simp only [not_forall, not_not] at early
    obtain ⟨ctx, written, recorded, streamable, agreed⟩ := early
    rw [kickoffCtx_from .unbounded recorded streamable agreed, kickoffFrom_unbounded,
      timeout_unbounded] at failed
    split at failed
    · cases failed
      rfl
    · cases failed

theorem kicksOff_iff_fits : detector.KicksOff answers ↔
    ∀ ctx written, detector.prepared = some ctx → detector.writers ≠ [] →
      detector.collectionsWritten answers = .ok written → detector.KickoffFits ctx written := by
  constructor
  · intro kicksOff ctx written recorded streamable agreed
    have exact := kicksOff.exact .panics
    rw [kickoffCtx_from _ recorded streamable agreed, kickoffCtx_from _ recorded streamable agreed]
      at exact
    exact kickoffFits_of_exact exact
  · intro fits
    refine ⟨fun overflow => ?_, fun ctx written recorded streamable agreed => ?_,
      fun after kickoff kicked => ?_⟩
    · unfold Machine.kickoffCtx
      cases recorded : detector.prepared with
      | none => rfl
      | some ctx =>
          dsimp only
          split
          · rfl
          · rename_i streamable
            cases agreed : detector.collectionsWritten answers with
            | error error => rfl
            | ok written => exact kickoffFrom_fits overflow (fits ctx written recorded streamable agreed)
    · rw [kickoffCtx_from .unbounded recorded streamable agreed, kickoffFrom_unbounded,
        timeout_unbounded]
      split
      · rename_i more
        simp [not_le.mpr more]
      · rename_i fewer
        simp [not_lt.mp fewer]
    · obtain ⟨ctx, recorded, -, -, last⟩ := kickoffCtx_ok kicked
      exact ⟨ctx, recorded, last⟩

/-! ## A complete -/

/-- Where the wait is over, every writer has written what was asked. -/
theorem awaitWritten_reached {target : Nat} {rounds : List WaitRound}
    (reached : detector.awaitWritten target rounds = .reached) :
    ∃ round ∈ rounds, ∀ writer ∈ detector.writers, target ≤ round.written writer.id := by
  induction rounds with
  | nil => cases reached
  | cons round rest ih =>
      unfold awaitWritten at reached
      split at reached
      · rename_i none'
        have empty : detector.writers = [] := List.map_eq_nil_iff.mp (List.min?_eq_none_iff.mp none')
        exact ⟨round, List.mem_cons_self .., by simp [empty]⟩
      · rename_i written least
        have below := (List.min?_eq_some_iff.mp least).2
        split at reached
        · rename_i enough
          exact ⟨round, List.mem_cons_self .., fun writer member =>
            enough.trans (below _ (List.mem_map_of_mem member))⟩
        · split at reached
          · obtain ⟨later, member, all⟩ := ih reached
            exact ⟨later, List.mem_cons_of_mem _ member, all⟩
          · cases reached
          · cases reached

theorem completes_iff_fits {rounds : List WaitRound} {idle : Option BsrsError} :
    detector.Completes rounds idle ↔
      ∀ kickoff ∈ detector.kickedOff, kickoff.lastRequested < 2 ^ 64 := by
  constructor
  · intro completes kickoff kicked
    have exact := completes.exact .panics
    unfold Machine.complete at exact
    rw [Option.mem_def.mp kicked] at exact
    obtain ⟨target, kept, -⟩ := Option.map_eq_some_iff.mp exact
    exact (Overflow.lt_of_keep kept).1
  · intro fits
    refine ⟨fun overflow => ?_, fun done => ?_⟩
    · unfold Machine.complete
      cases kicked : detector.kickedOff with
      | none => rfl
      | some kickoff =>
          have fitting : kickoff.collectionsWritten + kickoff.collectionsRequested < 2 ^ 64 :=
            fits kickoff kicked
          dsimp only
          rw [overflow.keep_of_lt fitting]
          rfl
    · unfold Machine.complete at done
      cases kicked : detector.kickedOff with
      | none =>
          rw [kicked] at done
          cases done
      | some kickoff =>
          rw [kicked] at done
          obtain ⟨target, kept, ended⟩ := Option.map_eq_some_iff.mp done
          obtain rfl : kickoff.collectionsWritten + kickoff.collectionsRequested = target :=
            Option.some.inj kept
          refine ⟨kickoff, rfl, awaitWritten_reached ?_⟩
          cases waited : detector.awaitWritten
              (kickoff.collectionsWritten + kickoff.collectionsRequested) rounds with
          | reached => exact waited
          | waiting | writerClosed | timedOut =>
              rw [waited] at ended
              cases ended

/-! ## A run -/

/-- Setting the data logics up anew records a prepare or leaves none. -/
theorem prepareAnew_failed {info : TriggerInfo} {after : StandardDetector} {error : BsrsError}
    (empty : detector.prepared = none)
    (failed : detector.prepareAnew answers info = (after, .error error)) : after.prepared = none := by
  have kept : (detector.prepareDataLogics answers info).1.prepared = detector.prepared := rfl
  unfold prepareAnew at failed
  split at failed
  · rename_i outcome
    cases failed
    rw [outcome] at kept
    exact kept.trans empty
  · rename_i outcome
    rw [outcome] at kept
    unfold recordPrepare at failed
    split at failed
    · cases failed
      exact kept.trans empty
    · cases failed

/-- A prepare that fails leaves the record it found, or none. -/
theorem prepareFor_failed {overflow : Overflow} {info : TriggerInfo} {after : StandardDetector}
    {error : BsrsError}
    (failed : Machine.prepareFor overflow info detector answers = some (after, .error error)) :
    after.prepared = detector.prepared ∨ after.prepared = none := by
  unfold Machine.prepareFor at failed
  split at failed
  · cases failed
    exact .inl rfl
  · right
    obtain ⟨⟨ended, result⟩, updated, same⟩ := Option.map_eq_some_iff.mp failed
    cases result with
    | ok ctx => cases same
    | error error' =>
        cases same
        unfold Machine.updatePrepareContext at updated
        split at updated
        · obtain ⟨_, _, anew⟩ := Option.map_eq_some_iff.mp updated
          exact prepareAnew_failed rfl anew
        · split at updated
          · have recorded := Option.some.inj updated
            unfold recordPrepare at recorded
            split at recorded
            · cases recorded
              rfl
            · cases recorded
          · have stops : ({ detector with prepared := none }.stopDataLogics answers).1.prepared =
                none := rfl
            dsimp only at updated
            split at updated
            · rename_i outcome
              cases updated
              rw [outcome] at stops
              exact stops
            · rename_i outcome
              rw [outcome] at stops
              obtain ⟨_, _, anew⟩ := Option.map_eq_some_iff.mp updated
              exact prepareAnew_failed stops anew

end StandardDetector

namespace Fly

variable {overflow : Overflow} {fly after : Fly} {label : FlyCall × Answers}

/-- Where the record stays or goes, so do the kickoffs within it. -/
theorem Within.of_record {detector : StandardDetector} (within : fly.Within)
    (record : detector.prepared = fly.detector.prepared ∨ detector.prepared = none) :
    Fly.Within { fly with detector } := by
  rintro ctx recorded kickoff member
  rcases record with same | gone
  · exact within ctx (same.symm.trans recorded) kickoff member
  · exact absurd (gone.symm.trans recorded) (Option.some_ne_none ctx).symm

/-- A call leaves the kickoffs within the prepare. -/
theorem Within.step (within : fly.Within) (fits : fly.Fits label)
    (stepped : Fly.step overflow fly label = some after) : after.Within := by
  obtain ⟨call, answers⟩ := label
  cases call with
  | stage =>
      cases stepped
      refine within.of_record ?_
      unfold StandardDetector.stage
      split
      · exact .inl rfl
      · exact .inr rfl
  | unstage =>
      cases stepped
      refine within.of_record (.inl ?_)
      unfold StandardDetector.unstage
      split <;> rfl
  | setEventsToKickoff events =>
      cases stepped
      exact within.of_record (.inl rfl)
  | prepare info =>
      obtain ⟨⟨ended, result⟩, prepared, rfl⟩ := Option.map_eq_some_iff.mp stepped
      cases result with
      | ok ctx => exact fun ctx recorded kickoff member => absurd member List.not_mem_nil
      | error error => exact within.of_record (StandardDetector.prepareFor_failed prepared)
  | kickoff =>
      obtain ⟨⟨ended, result⟩, kicked, rfl⟩ := Option.map_eq_some_iff.mp stepped
      rw [(StandardDetector.kicksOff_iff_fits.mpr fits).exact overflow] at kicked
      cases result with
      | ok kickoff =>
          obtain ⟨ctx, recorded, kept, bounded, -⟩ := StandardDetector.kickoffCtx_ok kicked
          rintro other recorded' asked member
          obtain rfl : ctx = other := Option.some.inj (kept.symm.trans recorded')
          rcases List.mem_cons.mp member with rfl | earlier
          · exact bounded
          · exact within ctx recorded asked earlier
      | error error => exact within.of_record (StandardDetector.kickoffCtx_failed kicked)
  | complete rounds idle =>
      obtain ⟨_, _, rfl⟩ := Option.map_eq_some_iff.mp stepped
      exact within

/-- What a call claims holds exactly where its numbers fit. -/
theorem sound_iff_fits (within : fly.Within) :
    Fly.Sound overflow fly label ↔ fly.Fits label := by
  obtain ⟨call, answers⟩ := label
  constructor
  · intro sound
    cases call with
    | stage | unstage | setEventsToKickoff => trivial
    | prepare info => exact TriggerInfo.exact_iff_fits.mp (sound.prepares info rfl).1
    | kickoff => exact StandardDetector.kicksOff_iff_fits.mp (sound.kicksOff rfl)
    | complete rounds idle =>
        exact StandardDetector.completes_iff_fits.mp (sound.completes rounds idle rfl)
  · intro fits
    refine ⟨⟨within, fun after stepped => within.step fits stepped⟩, fun info same => ?_,
      fun same => ?_, fun rounds idle same => ?_⟩
    · obtain rfl : call = .prepare info := same
      exact ⟨TriggerInfo.exact_iff_fits.mpr fits, fun overflow =>
        StandardDetector.prepareFor_ne_none overflow fits⟩
    · obtain rfl : call = .kickoff := same
      exact StandardDetector.kicksOff_iff_fits.mpr fits
    · obtain rfl : call = .complete rounds idle := same
      exact StandardDetector.completes_iff_fits.mpr fits

end Fly

/-- Over every run, in every build, what is claimed of the calls holds exactly where no call computes
a number out of range. -/
theorem kickoff_arithmetic (overflow : Overflow) (name : String)
    (logics : List (LogicKind × String)) (calls : List (FlyCall × Answers)) :
    Throughout (Fly.step overflow) (Fly.Sound overflow) (.fresh name logics) calls ↔
      Throughout (Fly.step overflow) Fly.Fits (.fresh name logics) calls := by
  have initial : (Fly.fresh name logics).Within := fun ctx recorded => by cases recorded
  constructor
  · intro sound
    exact sound.of_invariant Fly.Within
      (fun before label after stepped sound _ => sound.within.2 after stepped)
      (fun fly label sound within => (Fly.sound_iff_fits within).mp sound) initial
  · intro fits
    exact fits.of_invariant Fly.Within
      (fun before label after stepped fits within => within.step fits stepped)
      (fun fly label fits within => (Fly.sound_iff_fits within).mpr fits) initial

private def agreeable : Answers :=
  { prepare := none, disarm := none, arm := none, waited := none, stop := fun _ => none
    opening := fun _ => .done [], joinFailure := .cancelled, written := fun _ => 0 }

/-- The product of 2^16 events and 2^16 collections for each is out of range. -/
theorem prepare_wraps :
    ¬ Throughout (Fly.step .wraps) (Fly.Sound .wraps) (.fresh "det" [(.unbounded, "")])
      [(.prepare { TriggerInfo.byDefault with
          numberOfEvents := 65536, collectionsPerEvent := 65536 }, agreeable)] := by
  intro sound
  have fits := (sound.1.prepares _ rfl).1.collections .wraps
  cases fits

end Bsrs.Devices
