import Bsrs.Plans.Adaptive
import Bsrs.Plans.Shifting

/-! `adaptive_scan` as the generator it is: it reads the detectors between two points. -/

namespace Bsrs.Plans

open Bsrs.Library (Table exec_invariant)
open Bsrs.EventModel (Value)
open Bsrs.Core
open Bsrs.Engine (PlanStream Yield)

variable {K : Type}

/-! ## Messages -/

def PlanArg.json (beamline : Beamline K) : PlanArg K → Json
  | .text value => .string value
  | .texts values => .array (values.map .string)
  | .position value => beamline.number value
  | .positions values => .array (values.map beamline.number)
  | .count value => countJson value
  | .flag value => .bool value

/-- `run_md_with_args`. -/
def runMdWithArgs (beamline : Beamline K) (planName : String) (planArgs : List (String × PlanArg K)) :
    RunMetadata where
  scanId := none
  extra := AList.singleton "plan_args"
    (beamline.json (.object (planArgs.map fun arg => (arg.1, arg.2.json beamline))))
  planName := some planName

def ScanMsg.msg (beamline : Beamline K) : ScanMsg K → Msg
  | .openRun planName planArgs => .openRun (runMdWithArgs beamline planName planArgs)
  | .checkpoint => .checkpoint
  | .set obj value group => .set obj (beamline.written value) group
  | .wait group => .wait group true none
  | .create streamName => .create streamName
  | .read obj => .read obj
  | .save => .save
  | .closeRun exitStatus => .closeRun exitStatus none
  | .fail reason => .fail reason

section Shift

variable [Add K] {beamline : Beamline K} {bias : Obj → K}

/-- The messages are shifted. -/
def ShiftedScan (beamline : Beamline K) (bias : Obj → K) (msg other : ScanMsg K) : Prop :=
  Shifted beamline bias (msg.msg beamline) (other.msg beamline)

theorem ShiftedScan.plain {msg : ScanMsg K} (still : msg.commanded = none)
    (opens : ∀ name args, msg ≠ .openRun name args) : ShiftedScan beamline bias msg msg := by
  refine Shifted.plain ?_ fun metadata => ?_
  · cases msg with
    | set obj value group => cases still
    | _ => rfl
  · cases msg with
    | openRun name args => exact absurd rfl (opens name args)
    | _ => simp [ScanMsg.msg]

theorem feedbackPoint_shifted (detectors : List Obj) (motor reader : Obj) (position : K) :
    List.Forall₂ (ShiftedScan beamline bias) (feedbackPoint detectors motor reader position)
      (feedbackPoint detectors motor reader (position + bias motor)) := by
  have plain : ∀ {msg : ScanMsg K}, msg.commanded = none → (∀ name args, msg ≠ .openRun name args) →
      ShiftedScan beamline bias msg msg := ShiftedScan.plain
  have reads : List.Forall₂ (ShiftedScan beamline bias) (detectors.map ScanMsg.read)
      (detectors.map ScanMsg.read) := by
    rw [List.forall₂_map_left_iff, List.forall₂_map_right_iff, List.forall₂_same]
    exact fun _ _ => plain rfl (by intros; simp)
  refine List.rel_append (List.rel_append ?_ reads) (.cons (plain rfl (by intros; simp)) .nil)
  exact .cons (plain rfl (by intros; simp)) (.cons (Shifted.set motor position _)
    (.cons (plain rfl (by intros; simp)) (.cons (plain rfl (by intros; simp))
      (.cons (plain rfl (by intros; simp)) .nil))))

theorem closeRun_shifted :
    List.Forall₂ (ShiftedScan beamline bias) [.closeRun "success"] [.closeRun "success"] :=
  .cons (.plain rfl (by intros; simp)) .nil

end Shift

/-! ## The generator -/

/-- Where the generator goes on once its messages are out: from the top, at the condition of its loop,
at the reading of the detectors, or nowhere. -/
inductive AdaptingPlace (K : Type) where
  | fresh
  | looping (left : Nat) (state : Adaptive K)
  | sampling (left : Nat) (state : Adaptive K)
  | exhausted

/-- The generator of `adaptive_scan`. -/
structure Adapting (K : Type) where
  args : AdaptiveArgs K
  pending : List (ScanMsg K)
  place : AdaptingPlace K

/-- What the plans meet outside: a reading's field, and how a number is shown. -/
structure Signals (K : Type) where
  reading : Value → Obj → String → Option K
  display : K → String

variable [Field K] [LinearOrder K]

namespace AdaptiveArgs

variable (args : AdaptiveArgs K)

/-- The signal at a poll. -/
def sample (signals : Signals K) (input : Value) : Option K :=
  args.detectors.findSome? fun detector => signals.reading input detector args.signalField

/-- The loop from its condition on. -/
def loop (left : Nat) (state : Adaptive K) : List (ScanMsg K) × AdaptingPlace K :=
  if state.pos * args.direction < args.stop * args.direction then
    match left with
    | 0 => ([.closeRun "success"], .exhausted)
    | left + 1 =>
        (feedbackPoint args.detectors args.motor args.motorReader state.pos, .sampling left state)
  else ([.closeRun "success"], .exhausted)

/-- What the generator does once its messages are out. -/
def resume (signals : Signals K) (input : Value) :
    AdaptingPlace K → List (ScanMsg K) × AdaptingPlace K
  | .fresh =>
      if ¬ (0 < args.minStep ∧ args.minStep < args.maxStep) then
        ([.fail ("adaptive_scan: require 0 < min_step < max_step, got min_step=" ++
          signals.display args.minStep ++ ", max_step=" ++ signals.display args.maxStep)], .exhausted)
      else ([.openRun "adaptive_scan" args.planArgs], .looping maxIters args.initial)
  | .looping left state => args.loop left state
  | .sampling left state => args.loop left (args.next state (args.sample signals input))
  | .exhausted => ([], .exhausted)

end AdaptiveArgs

/-- Hand out the first of the messages, if there is one. -/
def Adapting.yield (beamline : Beamline K) (args : AdaptiveArgs K)
    (resumed : List (ScanMsg K) × AdaptingPlace K) (sinks : List (Option Thrown)) :
    Yield (Adapting K) :=
  match resumed.1 with
  | msg :: rest => ⟨some (.bare (msg.msg beamline)), ⟨args, rest, resumed.2⟩, sinks, []⟩
  | [] => ⟨none, ⟨args, [], resumed.2⟩, sinks, []⟩

/-- `adaptive_scan`. -/
def adaptivePlans (beamline : Beamline K) (signals : Signals K) : PlanStream (Adapting K) where
  next plan sinks input :=
    match plan.pending with
    | [] => Adapting.yield beamline plan.args (plan.args.resume signals input plan.place) sinks
    | pending => Adapting.yield beamline plan.args (pending, plan.place) sinks
  respond plan _ := plan

/-- The generator before its first poll. -/
def AdaptiveArgs.plan (args : AdaptiveArgs K) : Adapting K :=
  ⟨args, [], .fresh⟩

/-! ## Shifted -/

section Shift

variable [IsStrictOrderedRing K] {beamline : Beamline K} {bias : Obj → K}

/-- The same scan between ends that are moved. -/
def AdaptiveArgs.shift (args : AdaptiveArgs K) (bias : K) : AdaptiveArgs K :=
  { args with start := args.start + bias, stop := args.stop + bias }

def Adaptive.shift (state : Adaptive K) (bias : K) : Adaptive K :=
  { state with pos := state.pos + bias }

def AdaptingPlace.shift (bias : K) : AdaptingPlace K → AdaptingPlace K
  | .fresh => .fresh
  | .looping left state => .looping left (state.shift bias)
  | .sampling left state => .sampling left (state.shift bias)
  | .exhausted => .exhausted

namespace AdaptiveArgs

variable (args : AdaptiveArgs K)

theorem direction_shift (bias : K) : (args.shift bias).direction = args.direction := by
  simp only [direction, shift, add_le_add_iff_right]

/-- The step to the next point does not depend on where the scan is. -/
theorem next_shift (bias : K) (state : Adaptive K) (curI : Option K) :
    (args.shift bias).next (state.shift bias) curI = (args.next state curI).shift bias := by
  have step : ∀ step p n, (args.shift bias).newStep step p n = args.newStep step p n :=
    fun _ _ _ => rfl
  simp only [next, Adaptive.shift, direction_shift, step]
  cases state.pastI with
  | none => exact congrArg (Adaptive.mk · curI state.step) (add_right_comm ..)
  | some p =>
      cases curI with
      | none => exact congrArg (Adaptive.mk · (some p) state.step) (add_right_comm ..)
      | some n =>
          by_cases back : args.backstep = true ∧
              args.newStep state.step p n < state.step * args.threshold
          · simp only [shift, if_pos back]
            refine (if_pos back).trans (congrArg (Adaptive.mk · (some p) _) ?_)
            ring
          · simp only [shift, if_neg back]
            exact (if_neg back).trans (congrArg (Adaptive.mk · (some n) _) (add_right_comm ..))

end AdaptiveArgs

namespace AdaptiveArgs

variable (args : AdaptiveArgs K)

/-- What the generator comes to, shifted. -/
structure ResumedAlike (beamline : Beamline K) (bias : Obj → K) (motor : Obj)
    (resumed other : List (ScanMsg K) × AdaptingPlace K) : Prop where
  msgs : List.Forall₂ (ShiftedScan beamline bias) resumed.1 other.1
  place : other.2 = resumed.2.shift (bias motor)

theorem loop_shifted (left : Nat) (state : Adaptive K) :
    ResumedAlike beamline bias args.motor (args.loop left state)
      ((args.shift (bias args.motor)).loop left (state.shift (bias args.motor))) := by
  have goes : (state.shift (bias args.motor)).pos * args.direction <
      (args.shift (bias args.motor)).stop * args.direction ↔
        state.pos * args.direction < args.stop * args.direction := by
    simp only [Adaptive.shift, shift, add_mul, add_lt_add_iff_right]
  simp only [loop, direction_shift, goes]
  split
  · cases left with
    | zero => exact ⟨closeRun_shifted, rfl⟩
    | succ left => exact ⟨feedbackPoint_shifted .., rfl⟩
  · exact ⟨closeRun_shifted, rfl⟩

theorem resume_shifted (signals : Signals K) (input : Value) (place : AdaptingPlace K) :
    ResumedAlike beamline bias args.motor (args.resume signals input place)
      ((args.shift (bias args.motor)).resume signals input (place.shift (bias args.motor))) := by
  cases place with
  | fresh =>
      have bounds : (0 < (args.shift (bias args.motor)).minStep ∧
          (args.shift (bias args.motor)).minStep < (args.shift (bias args.motor)).maxStep) =
            (0 < args.minStep ∧ args.minStep < args.maxStep) := rfl
      simp only [resume, AdaptingPlace.shift, bounds]
      split
      · exact ⟨.cons (ShiftedScan.plain rfl (by intros; simp)) .nil, rfl⟩
      · refine ⟨.cons (Shifted.openRun ⟨rfl, rfl, fun name other => ?_⟩) .nil, rfl⟩
        simp [runMdWithArgs, other]
  | looping left state => exact args.loop_shifted left state
  | sampling left state =>
      simp only [resume, AdaptingPlace.shift]
      rw [next_shift]
      exact args.loop_shifted left _
  | exhausted => exact ⟨.nil, rfl⟩

end AdaptiveArgs

/-- Generators of one scan and of the shifted one, at the same place. -/
structure AdaptingShifted (beamline : Beamline K) (bias : Obj → K) (plan other : Adapting K) :
    Prop where
  args : other.args = plan.args.shift (bias plan.args.motor)
  pending : List.Forall₂ (ShiftedScan beamline bias) plan.pending other.pending
  place : other.place = plan.place.shift (bias plan.args.motor)

omit [LinearOrder K] [IsStrictOrderedRing K] in
theorem yield_shifted (args : AdaptiveArgs K) {resumed other : List (ScanMsg K) × AdaptingPlace K}
    (alike : AdaptiveArgs.ResumedAlike beamline bias args.motor resumed other)
    (sinks : List (Option Thrown)) :
    Agree (AdaptingShifted beamline bias) (ShiftedItem beamline bias)
      (Adapting.yield beamline args resumed sinks)
      (Adapting.yield beamline (args.shift (bias args.motor)) other sinks) := by
  obtain ⟨msgs, place⟩ := resumed
  obtain ⟨others, goes⟩ := other
  obtain ⟨matched, rfl⟩ := alike
  cases matched with
  | nil => exact ⟨.none, ⟨rfl, .nil, rfl⟩, rfl⟩
  | cons first rest => exact ⟨.some first, ⟨rfl, rest, rfl⟩, rfl⟩

theorem adaptive_shifted (beamline : Beamline K) (bias : Obj → K) (signals : Signals K) :
    Simulates (adaptivePlans beamline signals) (adaptivePlans beamline signals)
      (AdaptingShifted beamline bias) (ShiftedItem beamline bias) where
  next := by
    rintro ⟨args, pending, place⟩ ⟨_, others, _⟩ ⟨rfl, matched, rfl⟩ sinks input
    cases matched with
    | nil => exact yield_shifted args (args.resume_shifted signals input place) sinks
    | @cons msg other pending others first rest =>
        have alike : AdaptiveArgs.ResumedAlike beamline bias args.motor (msg :: pending, place)
            (other :: others, place.shift (bias args.motor)) := ⟨.cons first rest, rfl⟩
        exact yield_shifted args alike sinks
  respond alike _ := alike

end Shift

end Bsrs.Plans
