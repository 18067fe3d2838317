import Bsrs.Plans.Adapting

/-! The relative scans: where the motors are is found out at the first poll, the absolute scan follows
from there, and the motors are reset behind it. -/

namespace Bsrs.Plans

open Bsrs.Library (Table exec exec_append exec_invariant exec_invariant_ahead Throughout)
open Bsrs.EventModel (Value)
open Bsrs.Core
open Bsrs.Engine (PlanStream Yield planItems)

variable {K : Type} {σ δ τ : Type}

/-! ## Setting out -/

/-- A generator that finds out at its first poll what to go on with. -/
inductive SetOut (σ : Type) where
  | fresh
  | under (inner : σ)
  | refused
  deriving DecidableEq

/-- The messages of an inner plan, without the kind of their items. -/
def forwardBare (yielded : Yield σ) : Yield (SetOut σ) :=
  ⟨yielded.item.map fun item => .bare item.msg, .under yielded.plan, yielded.sinks, yielded.notes⟩

/-- Set out with the plan that `depart` finds at the first poll, or fail for the reason it gives. -/
def setOut (depart : Value → Except String σ) (plans : PlanStream σ) : PlanStream (SetOut σ) where
  next
    | .fresh, sinks, input =>
        match depart input with
        | .ok inner => forwardBare (plans.next inner sinks input)
        | .error reason => ⟨some (.bare (.fail reason)), .refused, sinks, []⟩
    | .under inner, sinks, input => forwardBare (plans.next inner sinks input)
    | .refused, sinks, _ => ⟨none, .refused, sinks, []⟩
  respond
    | .under inner, answer => .under (plans.respond inner answer)
    | plan, _ => plan

/-- The items have the same message. -/
def SameMsg (item other : PlanItem) : Prop :=
  item.msg = other.msg

section SetOut

variable {depart : Value → Except String σ} {plans : PlanStream σ}

theorem forwardBare_agrees (yielded : Yield σ) :
    Agree (fun (plan : SetOut σ) inner => plan = .under inner) SameMsg (forwardBare yielded)
      yielded where
  item := by
    rw [forwardBare]
    cases yielded.item with
    | none => exact .none
    | some item => exact .some rfl
  plan := rfl
  sinks := rfl

/-- Once it has set out, the generator answers as the plan it found. -/
theorem setOut_simulates (depart : Value → Except String σ) (plans : PlanStream σ) :
    Simulates (setOut depart plans) plans (fun plan inner => plan = .under inner) SameMsg where
  next := by
    rintro _ inner rfl sinks input
    exact forwardBare_agrees _
  respond := by
    rintro _ inner rfl result
    rfl

/-- The first poll of the generator is the first poll of the plan it finds. -/
theorem setOut_departs {input : Value} {inner : σ} (found : depart input = .ok inner)
    (sinks : List (Option Thrown)) :
    (setOut depart plans).next .fresh sinks input = forwardBare (plans.next inner sinks input) := by
  simp only [setOut, found]

end SetOut

/-- What `reset_positions_wrapper` notes of an item, told by its message. -/
def captured (motion : Motion) (motors : List Obj) (memo : Moved) (input : Value) (msg : Msg) : Moved :=
  (captureMoves motion motors memo input (.bare msg)).memo

theorem captureMoves_passes (motion : Motion) (motors : List Obj) (memo : Moved) (input : Value)
    (item : PlanItem) :
    captureMoves motion motors memo input item =
      .pass (captured motion motors memo input item.msg) item := by
  unfold captured captureMoves
  simp only [PlanItem.msg]
  split
  · split
    · rfl
    · split
      · rfl
      · split <;> rfl
  · rfl

/-! ## The reset around a plan that sets out -/

/-- The wrappers around a generator that sets out, and around the plan it finds, in view of what their
polls will bring. -/
inductive Foreseen (depart : Value → Except String σ) (inner : σ) :
    List Value → Finalized (Through Moved (SetOut σ)) → Finalized (Through Moved σ) → Prop where
  | fresh {inputs} (memo) (finds : ∀ input ∈ inputs[1]?, depart input = .ok inner) :
      Foreseen depart inner inputs (.fresh (Through.start memo .fresh)) (.fresh (Through.start memo inner))
  | pushed {inputs} (sink memo) (finds : ∀ input ∈ inputs[0]?, depart input = .ok inner) :
      Foreseen depart inner inputs (.pushed sink (Through.start memo .fresh))
        (.pushed sink (Through.start memo inner))
  | departed {inputs first second}
      (alike : GuardedAlike (ThroughMatched SameMsg fun plan inner => plan = SetOut.under inner)
        (fun _ _ => True) (List.Forall₂ SameMsg) first second) :
      Foreseen depart inner inputs first second

section Reset

variable {motion : Motion} {motors : List Obj} {depart : Value → Except String σ}
  {plans : PlanStream σ} {inner : σ}

theorem reset_matched {others : PlanStream δ} {same : σ → δ → Prop}
    (simulates : Simulates plans others same SameMsg) (motion : Motion) (motors : List Obj) :
    Simulates (resetPositionsWrapper motion motors plans) (resetPositionsWrapper motion motors others)
      (GuardedAlike (ThroughMatched SameMsg same) (fun _ _ => True) (List.Forall₂ SameMsg)) SameMsg :=
  (simulates.passed (captureMoves_passes motion motors)
    fun memo input item other agreed => by rw [agreed]).finalize
      ⟨fun _ => rfl, rfl, fun _ => rfl⟩ fun _ _ alike => by
        rw [alike.memo]
        exact List.forall₂_same.mpr fun _ _ => rfl

/-- Polled alike, two plans are alike within the reset that was entered. -/
theorem reset_pushed_congr {first second : σ} {sinks : List (Option Thrown)} {input : Value}
    (same : plans.next first sinks input = plans.next second sinks input) (sink : SinkId)
    (memo : Moved) :
    (resetPositionsWrapper motion motors plans).next (.pushed sink (Through.start memo first)) sinks
        input =
      (resetPositionsWrapper motion motors plans).next (.pushed sink (Through.start memo second)) sinks
        input := by
  have polled : (through (captureMoves motion motors) plans).next (Through.start memo first) sinks input =
      (through (captureMoves motion motors) plans).next (Through.start memo second) sinks input := by
    simp only [through, Through.start, same, Bool.false_eq_true, if_false]
  simp only [resetPositionsWrapper, finalizeWrapper, contingencyWrapper, tryNext, polled]

/-- The reset around a plan that sets out comes to the reset around the plan it finds. -/
theorem reset_departs (motion : Motion) (motors : List Obj) (plans : PlanStream σ) (memo : Moved)
    {stimuli : List Stimulus}
    (finds : ∀ input ∈ (pollInputs stimuli)[1]?, depart input = .ok inner) :
    Option.Rel (RunsAgree SameMsg)
      (driveAll (resetPositionsWrapper motion motors (setOut depart plans))
        (.fresh (Through.start memo .fresh)) stimuli)
      (driveAll (resetPositionsWrapper motion motors plans) (.fresh (Through.start memo inner))
        stimuli) := by
  have matched := reset_matched (setOut_simulates depart plans) motion motors
  refine driven_alike (Foreseen depart inner) ?_ ?_ stimuli ⟨.nil, rfl⟩ fun _ => .fresh memo finds
  · intro first second sinks input later foreseen
    cases foreseen with
    | fresh memo finds => exact ⟨.some rfl, .pushed _ memo finds, rfl⟩
    | pushed sink memo finds =>
        have found : depart input = .ok inner := finds input rfl
        have polled : (setOut depart plans).next .fresh sinks input =
            (setOut depart plans).next (.under inner) sinks input := setOut_departs found sinks
        rw [reset_pushed_congr polled]
        have alike : ThroughMatched SameMsg (fun plan inner => plan = SetOut.under inner)
            (Through.start memo (.under inner)) (Through.start memo inner) := .start memo rfl
        have agree := matched.next (.pushed sink alike) sinks input
        exact ⟨agree.item, .departed agree.plan, agree.sinks⟩
    | departed alike =>
        have agree := matched.next alike sinks input
        exact ⟨agree.item, .departed agree.plan, agree.sinks⟩
  · intro first second inputs foreseen result
    cases foreseen with
    | fresh memo finds => exact .fresh memo finds
    | pushed sink memo finds => exact .pushed sink memo finds
    | departed alike => exact .departed (matched.respond alike result)

end Reset

/-! ## The plan within the reset -/

/-- The plan within ran alone as it did there. -/
structure RanWithin (plans : PlanStream σ) (plan : σ) (handed : List (Handed (Finalized (Through Moved σ))))
    (bare : Driven σ) : Prop where
  run : ∃ others, driveAll plans plan others = some bare
  trace : bare.trace = innerTrace handed

/-- The region was left with nothing thrown into it. -/
def LeftQuietly (handed : List (Handed (Finalized (Through Moved σ)))) : Prop :=
  ∃ entry ∈ handed, ∃ watched, entry.plan = .popped none watched

/-- The plan within, before its region is left. -/
def inRegion : Finalized τ → Option τ
  | .fresh inner | .pushed _ inner | .trying _ inner => some inner
  | .popped _ _ | .recovering _ _ _ | .finishing _ _ | .raised | .spent => none

theorem inRegion_of_forwarding {before : Finalized τ} {sinks : List (Option Thrown)} {inner : τ}
    (forwards : forwarding sinks before = some inner) : inRegion before = some inner := by
  cases before with
  | pushed sink inner => exact forwards
  | trying sink inner =>
      simp only [forwarding] at forwards
      split at forwards
      · exact forwards
      · cases forwards
  | _ => cases forwards

/-- Where `reset_positions_wrapper` can be, with the plan within at the place its items lead to. -/
inductive Forwarding (plans : PlanStream σ) (plan : σ)
    (handed : List (Handed (Finalized (Through Moved σ)))) : Finalized (Through Moved σ) → Prop where
  | within {before watched bare} (at_ : inRegion before = some watched) (pending : watched.pending = [])
      (going : watched.returned = false) (ran : RanWithin plans plan handed bare)
      (there : bare.plan = watched.inner) (running : bare.fate = .running)
      (inside : ¬ LeftQuietly handed) : Forwarding plans plan handed before
  | past {before bare} (out : inRegion before = none) (ran : RanWithin plans plan handed bare)
      (whole : LeftQuietly handed → bare.fate = .ended) : Forwarding plans plan handed before

section Within

variable {motion : Motion} {motors : List Obj} {plans : PlanStream σ} {plan : σ}
  {handed : List (Handed (Finalized (Through Moved σ)))} {entry : Handed (Finalized (Through Moved σ))}

theorem driveAll_concat {stimuli : List Stimulus} {driven next : Driven σ} {stimulus : Stimulus}
    (run : driveAll plans plan stimuli = some driven) (stepped : drive plans driven stimulus = some next) :
    driveAll plans plan (stimuli ++ [stimulus]) = some next := by
  rw [driveAll, exec_append, show exec (drive plans) (Driven.start plan) stimuli = some driven from run]
  simp [exec, stepped]

theorem RanWithin.other {bare : Driven σ} (ran : RanWithin plans plan handed bare)
    (outer : entry.isInner = false) : RanWithin plans plan (handed ++ [entry]) bare :=
  ⟨ran.run, by rw [innerTrace_other outer, ran.trace]⟩

theorem RanWithin.step {bare next : Driven σ} {stimulus : Stimulus}
    (ran : RanWithin plans plan handed bare) (stepped : drive plans bare stimulus = some next)
    (trace : next.trace = innerTrace (handed ++ [entry])) : RanWithin plans plan (handed ++ [entry]) next := by
  obtain ⟨others, runs⟩ := ran.run
  exact ⟨⟨others ++ [stimulus], driveAll_concat runs stepped⟩, trace⟩

theorem leftQuietly_concat :
    LeftQuietly (handed ++ [entry]) ↔
      LeftQuietly handed ∨ ∃ watched, entry.plan = .popped none watched := by
  simp [LeftQuietly, or_and_right, exists_or]

theorem LeftQuietly.before (quietly : LeftQuietly (handed ++ [entry]))
    (other : ∀ watched, entry.plan ≠ .popped none watched) : LeftQuietly handed := by
  rcases leftQuietly_concat.mp quietly with before | ⟨watched, popped⟩
  · exact before
  · exact absurd popped (other watched)

/-- In the region, the plan within is where its items lead to. -/
theorem Forwarding.inside {before : Finalized (Through Moved σ)} {watched : Through Moved σ}
    (place : Forwarding plans plan handed before) (at_ : inRegion before = some watched) :
    ∃ bare, (watched.pending = [] ∧ watched.returned = false) ∧ RanWithin plans plan handed bare ∧
      bare.plan = watched.inner ∧ bare.fate = .running ∧ ¬ LeftQuietly handed := by
  cases place with
  | past out => cases out.symm.trans at_
  | within same pending going ran there running inside =>
      cases same.symm.trans at_
      exact ⟨_, ⟨pending, going⟩, ran, there, running, inside⟩

/-- Past the region, the run of the plan within is settled. -/
theorem Forwarding.outside {before : Finalized (Through Moved σ)}
    (place : Forwarding plans plan handed before) (out : inRegion before = none) :
    ∃ bare, RanWithin plans plan handed bare ∧ (LeftQuietly handed → bare.fate = .ended) := by
  cases place with
  | past _ ran whole => exact ⟨_, ran, whole⟩
  | within at_ => cases at_.symm.trans out

theorem inRegion_of_remaining {before : Finalized τ} {final : τ → List PlanItem}
    {rest : Option Thrown × List PlanItem} (remains : remaining final before = some rest) :
    inRegion before = none := by
  cases before with
  | popped _ _ | finishing _ _ => rfl
  | _ => cases remains

/-- An item of the inner plan goes on as it is. -/
theorem Forwarding.forward {before : Finalized (Through Moved σ)} {watched : Through Moved σ}
    (place : Forwarding plans plan handed before) (at_ : inRegion before = some watched)
    {sinks : List (Option Thrown)} {input : Value} {item : PlanItem}
    (yields : ((through (captureMoves motion motors) plans).next watched sinks input).item = some item)
    (sink : SinkId) (handled : Bool) :
    let after : Finalized (Through Moved σ) :=
      .trying sink ((through (captureMoves motion motors) plans).next watched sinks input).plan
    Forwarding plans plan (handed ++ [⟨item, input, handled, after⟩]) after := by
  obtain ⟨bare, ⟨pending, going⟩, ran, there, running, inside⟩ := place.inside at_
  cases given : (plans.next watched.inner sinks input).item with
  | none =>
      rw [through_end pending going given] at yields
      cases yields
  | some raw =>
      rw [through_item pending going given, captureMoves_passes] at yields ⊢
      cases yields
      have stepped := drive_item running (there ▸ given) handled
      refine .within rfl rfl rfl (ran.step stepped ?_) (by rw [there]; rfl) running fun quietly =>
        inside (quietly.before (by intros; simp))
      rw [Driven.trace_hand, ran.trace, innerTrace_concat]
      rfl

/-- The inner plan has no more items. -/
theorem Forwarding.exhaust {before : Finalized (Through Moved σ)} {watched : Through Moved σ}
    (place : Forwarding plans plan handed before) (at_ : inRegion before = some watched)
    {sinks : List (Option Thrown)} {input : Value}
    (ends : ((through (captureMoves motion motors) plans).next watched sinks input).item = none)
    (outer : entry.isInner = false) :
    ∃ bare, RanWithin plans plan (handed ++ [entry]) bare ∧ bare.fate = .ended := by
  obtain ⟨bare, ⟨pending, going⟩, ran, there, running, inside⟩ := place.inside at_
  cases inner : (plans.next watched.inner sinks input).item with
  | some raw =>
      rw [through_item pending going inner] at ends
      cases ends
  | none =>
      have stepped := drive_end running (there ▸ inner) entry.handled
      exact ⟨_, ran.step stepped (by rw [innerTrace_other outer]; exact ran.trace), rfl⟩

theorem Forwarding.hand {before after : Finalized (Through Moved σ)} {sinks : List (Option Thrown)}
    {input : Value} {item : PlanItem} (place : Forwarding plans plan handed before)
    (step : FinalizeStep (through (captureMoves motion motors) plans)
      (fun watched => resetPlan watched.memo.moved) sinks input before (some item) after)
    (handled : Bool) : Forwarding plans plan (handed ++ [⟨item, input, handled, after⟩]) after := by
  generalize given : some item = yielded at step
  cases step with
  | entered inner =>
      obtain ⟨bare, ⟨pending, going⟩, ran, there, running, inside⟩ := place.inside rfl
      exact .within rfl pending going (ran.other rfl) there running fun quietly =>
        inside (quietly.before (by intros; simp))
  | forwarded sink forwards yields =>
      cases given
      exact place.forward (inRegion_of_forwarding forwards) yields sink handled
  | @exhausted _ watched forwards ends =>
      have outer : (⟨item, input, handled, .popped none
          ((through (captureMoves motion motors) plans).next watched sinks input).plan⟩ :
            Handed (Finalized (Through Moved σ))).isInner = false := rfl
      obtain ⟨bare, ran, ended⟩ := place.exhaust (inRegion_of_forwarding forwards) ends outer
      exact .past rfl ran fun _ => ended
  | caught armed =>
      obtain ⟨bare, _, ran, there, running, inside⟩ := place.inside rfl
      exact .past rfl (ran.other rfl) fun quietly =>
        absurd (quietly.before (by intros; simp)) inside
  | finished remains =>
      cases given
      obtain ⟨bare, ran, whole⟩ := place.outside (inRegion_of_remaining remains)
      exact .past rfl (ran.other rfl) fun quietly => whole (quietly.before (by intros; simp))
  | raised remains =>
      obtain ⟨bare, ran, whole⟩ := place.outside (inRegion_of_remaining remains)
      exact .past rfl (ran.other rfl) fun quietly => whole (quietly.before (by intros; simp))
  | ended remains => cases given
  | spent past => cases given

theorem Forwarding.ends {before after : Finalized (Through Moved σ)} {sinks : List (Option Thrown)}
    {input : Value} (place : Forwarding plans plan handed before)
    (step : FinalizeStep (through (captureMoves motion motors) plans)
      (fun watched => resetPlan watched.memo.moved) sinks input before none after) :
    Forwarding plans plan handed after := by
  generalize given : none = yielded at step
  cases step with
  | ended remains =>
      obtain ⟨bare, ran, whole⟩ := place.outside (inRegion_of_remaining remains)
      exact .past rfl ran whole
  | spent past =>
      have out : inRegion before = none := by rcases past with rfl | rfl <;> rfl
      obtain ⟨bare, ran, whole⟩ := place.outside out
      exact .past rfl ran whole
  | entered _ | forwarded _ _ _ | exhausted _ _ | caught _ | finished _ | raised _ => cases given

theorem Forwarding.answer {before : Finalized (Through Moved σ)}
    (place : Forwarding plans plan handed before) (result : Option MsgResult) :
    Forwarding plans plan handed
      ((resetPositionsWrapper motion motors plans).respond before result) := by
  cases before with
  | trying sink watched =>
      obtain ⟨bare, ⟨pending, going⟩, ⟨⟨others, runs⟩, trace⟩, there, running, inside⟩ :=
        place.inside rfl
      have answered : RanWithin plans plan handed { bare with plan := plans.respond bare.plan result } :=
        ⟨⟨others ++ [.answer result], driveAll_concat runs (drive_answer running result)⟩, trace⟩
      exact .within rfl pending going answered (by rw [there]; rfl) running inside
  | fresh _ | pushed _ _ | popped _ _ | recovering _ _ _ | finishing _ _ | raised | spent => exact place

theorem reset_forwarding (motion : Motion) (motors : List Obj) (plans : PlanStream σ) (plan : σ) :
    Rounds (resetPositionsWrapper motion motors plans) (fun _ _ => True) (Forwarding plans plan)
      (fun _ _ => True) (fun _ => True) where
  hand := by
    intro driven sinks input handled item place _ yields
    have step := finalize_step (through (captureMoves motion motors) plans)
      (fun watched => resetPlan watched.memo.moved) driven.plan sinks input
    rw [← resetPositionsWrapper, yields] at step
    exact ⟨place.hand step handled, trivial⟩
  ends := by
    intro driven sinks input place ends
    have step := finalize_step (through (captureMoves motion motors) plans)
      (fun watched => resetPlan watched.memo.moved) driven.plan sinks input
    rw [← resetPositionsWrapper, ends] at step
    exact ⟨place.ends step, trivial⟩
  respond place result := place.answer result
  drop _ _ := trivial

/-- `reset_positions_wrapper` hands out the items of the plan within as they are. -/
theorem reset_forwards {stimuli : List Stimulus} {driven : Driven (Finalized (Through Moved σ))}
    (trace : driveAll (resetPositionsWrapper motion motors plans) (.fresh (Through.start ⟨[], []⟩ plan))
      stimuli = some driven) :
    ∃ others bare, driveAll plans plan others = some bare ∧ bare.trace = innerTrace driven.handed ∧
      (LeftQuietly driven.handed → bare.fate = .ended) := by
  have initial : Forwarding plans plan [] (.fresh (Through.start ⟨[], []⟩ plan)) :=
    .within rfl rfl rfl ⟨⟨[], rfl⟩, rfl⟩ rfl rfl (by simp [LeftQuietly])
  obtain ⟨place, _⟩ := (reset_forwarding motion motors plans plan).run initial trace
    (.of_forall (fun _ _ => trivial) _ _)
  cases place with
  | past _ ran whole =>
      obtain ⟨others, runs⟩ := ran.run
      exact ⟨others, _, runs, ran.trace, whole⟩
  | within _ _ _ ran _ _ inside =>
      obtain ⟨others, runs⟩ := ran.run
      exact ⟨others, _, runs, ran.trace, fun quietly => absurd quietly inside⟩

end Within

/-! ## The relative scans -/

/-- What the relative scans meet outside, besides what the absolute ones do: where a motor is at a
poll, or why it cannot be told. -/
structure Surroundings (K : Type) extends Signals K where
  beamline : Beamline K
  locate : Value → Obj → Except BsrsError K

section Relative

variable [Field K]

namespace Surroundings

variable (surroundings : Surroundings K)

/-- What `reset_positions_wrapper` takes of them; it adds nothing up. -/
def motion : Motion where
  setpoint input motor := (surroundings.locate input motor).toOption.map surroundings.beamline.written
  plus value _ := value
  zero := surroundings.beamline.written 0

/-- `locate_dyn().await.map(setpoint).unwrap_or(0.0)`. -/
def bias (input : Value) (motor : Obj) : K :=
  (surroundings.locate input motor).toOption.getD 0

end Surroundings

/-- A relative scan: the motors it resets, the plan it sets out with, and the plans this is one of. -/
structure RelativeScan (σ : Type) where
  motors : List Obj
  depart : Value → Except String σ
  plans : PlanStream σ

namespace RelativeScan

variable (scan : RelativeScan σ)

def inner : PlanStream (SetOut σ) :=
  setOut scan.depart scan.plans

def stream (surroundings : Surroundings K) : PlanStream (Finalized (Through Moved (SetOut σ))) :=
  resetPositionsWrapper surroundings.motion scan.motors scan.inner

/-- The generator before its first poll. -/
def start : Finalized (Through Moved (SetOut σ)) :=
  .fresh (Through.start ⟨[], []⟩ .fresh)

end RelativeScan

/-- `rel_list_scan`. -/
def relListScan (surroundings : Surroundings K) (detectors : List Obj) (motor reader : Obj)
    (points : List K) : RelativeScan (Finalized (Through Unit (List PlanItem))) where
  motors := [motor]
  depart input := .ok (listScan surroundings.beamline detectors motor reader
    (points.map (· + surroundings.bias input motor))).plan
  plans := (listScan surroundings.beamline detectors motor reader points).plans

/-- `rel_grid_scan`. -/
def relGridScan (surroundings : Surroundings K) (detectors : List Obj) (slow fast : GridAxis K) :
    RelativeScan (Finalized (Through Unit (List PlanItem))) where
  motors := [slow.motor, fast.motor]
  depart input := .ok (gridScan surroundings.beamline detectors
    (slow.shift (surroundings.bias input slow.motor))
    (fast.shift (surroundings.bias input fast.motor))).plan
  plans := (gridScan surroundings.beamline detectors slow fast).plans

/-- Why `rel_adaptive_scan` fails where its motor cannot be located. -/
def unlocated (motor : Obj) (error : BsrsError) : String :=
  "rel_adaptive_scan(" ++ motor.name ++ "): locate_dyn failed: " ++ error.text

/-- `rel_adaptive_scan`. -/
def relAdaptiveScan [LinearOrder K] (surroundings : Surroundings K) (args : AdaptiveArgs K) :
    RelativeScan (Adapting K) where
  motors := [args.motor]
  depart input :=
    match surroundings.locate input args.motor with
    | .ok center => .ok (args.shift center).plan
    | .error error => .error (unlocated args.motor error)
  plans := adaptivePlans surroundings.beamline surroundings.toSignals

/-- A generator that forwards an inner plan and then hands out items of its own. -/
inductive Trailing (σ : Type) where
  | under (inner : σ)
  | trail (rest : List PlanItem)
  deriving DecidableEq

def trailing (plans : PlanStream σ) (tail : List PlanItem) : PlanStream (Trailing σ) where
  next
    | .under inner, sinks, input =>
        let yielded := plans.next inner sinks input
        match yielded.item with
        | some item => ⟨some (.bare item.msg), .under yielded.plan, yielded.sinks, yielded.notes⟩
        | none => ⟨tail.head?, .trail tail.tail, yielded.sinks, yielded.notes⟩
    | .trail rest, sinks, _ => ⟨rest.head?, .trail rest.tail, sinks, []⟩
  respond
    | .under inner, answer => .under (plans.respond inner answer)
    | plan, _ => plan

/-- What `rel_scan` does behind its scan: the motor back to where it was read to be. -/
def returnTo (beamline : Beamline K) (motor : Obj) (current : K) : List PlanItem :=
  [.bare (.set motor (beamline.written current) (some "reset")), .bare (.wait "reset" true none)]

/-- The scan within `rel_scan`. -/
def relScanned (beamline : Beamline K) (detectors : List Obj) (motor reader : Obj)
    (current start stop : K) (num : Nat) : StepScan :=
  scan1d beamline detectors motor reader (current + start) (current + stop) num

/-- `rel_scan`. -/
def relScan (beamline : Beamline K) (detectors : List Obj) (motor reader : Obj)
    (current start stop : K) (num : Nat) :
    PlanStream (Trailing (Finalized (Through Unit (List PlanItem)))) :=
  trailing (relScanned beamline detectors motor reader current start stop num).plans
    (returnTo beamline motor current)

/-! ## What the engine gets -/

/-- The motors were located there at the plan's start, behind its `PushContingency`. -/
def LocatedAt (surroundings : Surroundings K) (motors : List Obj) (bias : Obj → K)
    (stimuli : List Stimulus) : Prop :=
  ∀ input ∈ (pollInputs stimuli)[1]?, ∀ motor ∈ motors, surroundings.locate input motor = .ok (bias motor)

/-- A run of the relative scan, beside the run of `reset_positions_wrapper` around the shifted scan and
the run of the absolute one. -/
structure FollowsAbsolute (beamline : Beamline K) (bias : Obj → K)
    (driven : Driven (Finalized (Through Moved (SetOut σ)))) (reset : Driven (Finalized (Through Moved σ)))
    (absolute : Driven σ) : Prop where
  same : RunsAgree SameMsg driven reset
  shifted : List.Forall₂ (ShiftedItem beamline bias) absolute.items
    ((innerTrace reset.handed).map Prod.snd)
  whole : LeftQuietly reset.handed → absolute.fate = .ended

/-- The scan handed out the messages of the absolute one with every position shifted by where its motor
was, in the midst of those of the reset. -/
def RelativeScan.Followed (scan : RelativeScan σ) (surroundings : Surroundings K) (absolute : σ)
    (bias : Obj → K) (stimuli : List Stimulus)
    (driven : Driven (Finalized (Through Moved (SetOut σ)))) : Prop :=
  ∃ shifted reset others bare,
    driveAll (resetPositionsWrapper surroundings.motion scan.motors scan.plans)
      (.fresh (Through.start ⟨[], []⟩ shifted)) stimuli = some reset ∧
    driveAll scan.plans absolute others = some bare ∧
    FollowsAbsolute surroundings.beamline bias driven reset bare

/-- It does wherever its motors can be located at its start. -/
def RelativeScan.Follows (scan : RelativeScan σ) (surroundings : Surroundings K) (absolute : σ) : Prop :=
  ∀ (stimuli : List Stimulus) (bias : Obj → K) driven,
    LocatedAt surroundings scan.motors bias stimuli →
    driveAll (scan.stream surroundings) RelativeScan.start stimuli = some driven →
    scan.Followed surroundings absolute bias stimuli driven

theorem related_of_some {α β : Type} {related : α → β → Prop} {found : α} {other : Option β}
    (both : Option.Rel related (some found) other) : ∃ also, other = some also ∧ related found also := by
  cases both with
  | some agree => exact ⟨_, rfl, agree⟩

/-- A scan follows the absolute one, if from where its motors are it sets out with that one shifted. -/
theorem RelativeScan.follows {scan : RelativeScan σ} {surroundings : Surroundings K} {absolute : σ}
    (shifted : (Obj → K) → σ)
    (departs : ∀ bias input, (∀ motor ∈ scan.motors, surroundings.locate input motor = .ok (bias motor)) →
      scan.depart input = .ok (shifted bias))
    (shifts : ∀ bias others, Option.Rel (RunsAgree (ShiftedItem surroundings.beamline bias))
      (driveAll scan.plans absolute others) (driveAll scan.plans (shifted bias) others)) :
    scan.Follows surroundings absolute := by
  intro stimuli bias driven located trace
  have departed := reset_departs surroundings.motion scan.motors scan.plans ⟨[], []⟩ fun input member =>
    departs bias input (located input member)
  rw [show driveAll (resetPositionsWrapper surroundings.motion scan.motors (setOut scan.depart scan.plans))
    (.fresh (Through.start ⟨[], []⟩ .fresh)) stimuli = some driven from trace] at departed
  obtain ⟨reset, resets, same⟩ := related_of_some departed
  obtain ⟨others, within, ran, forwarded, whole⟩ := reset_forwards resets
  have both := shifts bias others
  rw [ran] at both
  obtain ⟨bare, runs, agree⟩ : ∃ bare, driveAll scan.plans absolute others = some bare ∧
      RunsAgree (ShiftedItem surroundings.beamline bias) bare within := by
    generalize driveAll scan.plans absolute others = found at both
    cases both with
    | some agree => exact ⟨_, rfl, agree⟩
  have items : within.items = (innerTrace reset.handed).map Prod.snd := by
    rw [← forwarded, Driven.trace, List.map_map]
    rfl
  exact ⟨_, reset, others, bare, resets, runs, same, items ▸ agree.items,
    fun quietly => agree.fate.trans (whole quietly)⟩

section Follows

variable (surroundings : Surroundings K) (detectors : List Obj)

/-- `locate` answered. -/
theorem Surroundings.bias_of_located {surroundings : Surroundings K} {input : Value} {motor : Obj}
    {position : K} (located : surroundings.locate input motor = .ok position) :
    surroundings.bias input motor = position := by
  rw [bias, located]
  rfl

theorem relListScan_follows (motor reader : Obj) (points : List K) :
    (relListScan surroundings detectors motor reader points).Follows surroundings
      (listScan surroundings.beamline detectors motor reader points).plan := by
  refine RelativeScan.follows (fun bias => (listScan surroundings.beamline detectors motor reader
    (points.map (· + bias motor))).plan) (fun bias input located => ?_) fun bias others => ?_
  · have known : surroundings.bias input motor = bias motor :=
      Surroundings.bias_of_located (located motor (List.mem_singleton_self motor))
    simp only [relListScan, known]
  · have msgs : List.Forall₂ (Shifted surroundings.beamline bias)
        (listScan surroundings.beamline detectors motor reader points).msgs
        (listScan surroundings.beamline detectors motor reader (points.map (· + bias motor))).msgs :=
      listScan_shifted detectors motor reader points
    exact StepScan.shifted (by rfl) msgs others

theorem relGridScan_follows (slow fast : GridAxis K) :
    (relGridScan surroundings detectors slow fast).Follows surroundings
      (gridScan surroundings.beamline detectors slow fast).plan := by
  refine RelativeScan.follows (fun bias => (gridScan surroundings.beamline detectors
    (slow.shift (bias slow.motor)) (fast.shift (bias fast.motor))).plan)
    (fun bias input located => ?_) fun bias others => ?_
  · have slowly : surroundings.bias input slow.motor = bias slow.motor :=
      Surroundings.bias_of_located (located slow.motor (by simp [relGridScan]))
    have fastly : surroundings.bias input fast.motor = bias fast.motor :=
      Surroundings.bias_of_located (located fast.motor (by simp [relGridScan]))
    simp only [relGridScan, slowly, fastly]
  · have msgs : List.Forall₂ (Shifted surroundings.beamline bias)
        (gridScan surroundings.beamline detectors slow fast).msgs
        (gridScan surroundings.beamline detectors (slow.shift (bias slow.motor))
          (fast.shift (bias fast.motor))).msgs := gridScanSnake_shifted detectors slow fast false
    exact StepScan.shifted (by rfl) msgs others

theorem relAdaptiveScan_follows [LinearOrder K] [IsStrictOrderedRing K] (args : AdaptiveArgs K) :
    (relAdaptiveScan surroundings args).Follows surroundings args.plan := by
  refine RelativeScan.follows (fun bias => (args.shift (bias args.motor)).plan)
    (fun bias input located => ?_) fun bias others => ?_
  · have known := located args.motor (List.mem_singleton_self args.motor)
    simp only [relAdaptiveScan, known]
  · have initial : AdaptingShifted surroundings.beamline bias args.plan
        (args.shift (bias args.motor)).plan := ⟨rfl, .nil, rfl⟩
    exact (adaptive_shifted surroundings.beamline bias surroundings.toSignals).run initial others

end Follows

/-! ## A start that fails -/

/-- What the reset hands out around a plan that fails at once. -/
def failing (sink : SinkId) (reason : String) : List PlanItem :=
  [.bare (.pushContingency sink), .bare (.fail reason), .bare .popContingency] ++ resetPlan []

def raising (thrown : Option Thrown) : List PlanItem :=
  thrown.toList.map fun thrown => .bare (.raise thrown)

/-- The items handed out so far, and where the reset is, around a plan that fails at its first poll. -/
inductive FailsAt (depart : Value → Except String σ) (reason : String) :
    List Value → List PlanItem → Finalized (Through Moved (SetOut σ)) → Prop where
  | fresh {inputs} (fails : ∀ input ∈ inputs[1]?, depart input = .error reason) :
      FailsAt depart reason inputs [] RelativeScan.start
  | pushed {inputs} (sink) (fails : ∀ input ∈ inputs[0]?, depart input = .error reason) :
      FailsAt depart reason inputs [.bare (.pushContingency sink)]
        (.pushed sink (Through.start ⟨[], []⟩ .fresh))
  | failed {inputs} (sink) :
      FailsAt depart reason inputs [.bare (.pushContingency sink), .bare (.fail reason)]
        (.trying sink (Through.start ⟨[], []⟩ .refused))
  | popped {inputs} (sink thrown watched) (still : watched.memo.moved = []) :
      FailsAt depart reason inputs ((failing sink reason).take 3) (.popped thrown watched)
  | reset {inputs} (sink thrown) :
      FailsAt depart reason inputs (failing sink reason) (.finishing thrown [])
  | past {inputs} (sink thrown place) (closed : place = .raised ∨ place = .spent) :
      FailsAt depart reason inputs (failing sink reason ++ raising thrown) place

/-- No item of the failing plan moves a motor, and it fails by its second item. -/
structure FailsAtOnce (reason : String) (driven : Driven (Finalized (Through Moved (SetOut σ)))) : Prop where
  still : ∀ item ∈ driven.items, setIn item.msg = none
  fails : ∀ item ∈ driven.items[1]?, item = .bare (.fail reason)
  ended : driven.fate = .ended → 1 < driven.items.length

section Failing

variable {depart : Value → Except String σ} {plans : PlanStream σ} {reason : String}
  {motion : Motion} {motors : List Obj} {inputs : List Value}

theorem FailsAt.isPrefix {items : List PlanItem} {place : Finalized (Through Moved (SetOut σ))}
    (at_ : FailsAt depart reason inputs items place) :
    ∃ sink thrown, items <+: failing sink reason ++ raising thrown := by
  cases at_ with
  | fresh fails => exact ⟨0, none, List.nil_prefix⟩
  | pushed sink fails => exact ⟨sink, none, ⟨_, rfl⟩⟩
  | failed sink => exact ⟨sink, none, ⟨_, rfl⟩⟩
  | popped sink thrown watched still => exact ⟨sink, none, ⟨_, rfl⟩⟩
  | reset sink thrown => exact ⟨sink, none, List.prefix_append ..⟩
  | past sink thrown place closed => exact ⟨sink, thrown, List.prefix_rfl⟩

theorem failing_still (sink : SinkId) (reason : String) (thrown : Option Thrown) :
    ∀ item ∈ failing sink reason ++ raising thrown, setIn item.msg = none := by
  cases thrown <;> simp [failing, raising, resetPlan, setIn, PlanItem.msg]

theorem FailsAt.atOnce {driven : Driven (Finalized (Through Moved (SetOut σ)))}
    (at_ : FailsAt depart reason inputs driven.items driven.plan)
    (done : driven.fate = .ended → driven.plan = .spent) : FailsAtOnce reason driven := by
  obtain ⟨sink, thrown, within⟩ := at_.isPrefix
  refine ⟨fun item member => failing_still sink reason thrown item (within.subset member),
    fun item second => ?_, fun ended => ?_⟩
  · obtain ⟨rest, whole⟩ := within
    have short := (List.getElem?_eq_some_iff.mp second).1
    have place : (failing sink reason ++ raising thrown)[1]? = some item := by
      rw [← whole, List.getElem?_append_left short]
      exact second
    cases place
    rfl
  · rw [done ended] at at_
    generalize driven.items = items at at_
    cases at_ with
    | past sink thrown place closed => simp [failing]

/-- What the reset does at the poll around a plan that fails at once. -/
theorem FailsAt.poll {items : List PlanItem} {place : Finalized (Through Moved (SetOut σ))}
    {input : Value} {later : List Value} (at_ : FailsAt depart reason (input :: later) items place)
    (sinks : List (Option Thrown)) :
    let yielded := (resetPositionsWrapper motion motors (setOut depart plans)).next place sinks input
    FailsAt depart reason later (items ++ yielded.item.toList) yielded.plan ∧
      (yielded.item = none → yielded.plan = .spent) := by
  cases at_ with
  | fresh fails => exact ⟨.pushed _ fails, by rintro ⟨⟩⟩
  | pushed sink fails =>
      have refused : (setOut depart plans).next .fresh sinks input =
          ⟨some (.bare (.fail reason)), .refused, sinks, []⟩ := by
        simp only [setOut, fails input rfl]
      have polled : (through (captureMoves motion motors) (setOut depart plans)).next
          (Through.start ⟨[], []⟩ .fresh) sinks input =
            ⟨some (.bare (.fail reason)), Through.start ⟨[], []⟩ .refused, sinks, []⟩ := by
        rw [through_item rfl rfl (by rw [Through.start, refused])]
        simp only [Through.start, refused]
        rfl
      simp only [resetPositionsWrapper, finalizeWrapper, contingencyWrapper, tryNext, polled]
      exact ⟨.failed sink, by rintro ⟨⟩⟩
  | failed sink =>
      have polled : (through (captureMoves motion motors) (setOut depart plans)).next
          (Through.start ⟨[], []⟩ .refused) sinks input =
            ⟨none, (Through.start ⟨[], []⟩ .refused).finish, sinks, []⟩ :=
        through_end rfl rfl rfl
      simp only [resetPositionsWrapper, finalizeWrapper, contingencyWrapper, tryNext, polled]
      cases armed : sinks.getD sink none with
      | some thrown => exact ⟨.popped sink _ _ rfl, by rintro ⟨⟩⟩
      | none => exact ⟨.popped sink _ _ rfl, by rintro ⟨⟩⟩
  | popped sink thrown watched still =>
      cases thrown with
      | none =>
          simp only [resetPositionsWrapper, finalizeWrapper, contingencyWrapper, afterPop, finallyNext, still]
          exact ⟨.reset sink none, by rintro ⟨⟩⟩
      | some thrown =>
          simp only [resetPositionsWrapper, finalizeWrapper, contingencyWrapper, afterPop, finallyNext, still]
          exact ⟨.reset sink (some thrown), by rintro ⟨⟩⟩
  | reset sink thrown =>
      cases thrown with
      | none => exact ⟨.past sink none _ (.inr rfl), fun _ => rfl⟩
      | some thrown => exact ⟨.past sink (some thrown) _ (.inl rfl), by rintro ⟨⟩⟩
  | past sink thrown place place_over =>
      have closed : FailsAt depart reason later (failing sink reason ++ raising thrown ++ []) .spent := by
        rw [List.append_nil]
        exact .past sink thrown _ (.inr rfl)
      rcases place_over with rfl | rfl
      · exact ⟨closed, fun _ => rfl⟩
      · exact ⟨closed, fun _ => rfl⟩

theorem FailsAt.answer {items : List PlanItem} {place : Finalized (Through Moved (SetOut σ))}
    (at_ : FailsAt depart reason inputs items place) (result : Option MsgResult) :
    FailsAt depart reason inputs items
      ((resetPositionsWrapper motion motors (setOut depart plans)).respond place result) := by
  cases at_ with
  | fresh fails => exact .fresh fails
  | pushed sink fails => exact .pushed sink fails
  | failed sink => exact .failed sink
  | popped sink thrown watched still => exact .popped sink thrown watched still
  | reset sink thrown => exact .reset sink thrown
  | past sink thrown place closed => 
      rcases closed with rfl | rfl
      · exact .past sink thrown _ (.inl rfl)
      · exact .past sink thrown _ (.inr rfl)

/-- Where the start fails, nothing is moved. -/
theorem reset_fails {stimuli : List Stimulus} {driven : Driven (Finalized (Through Moved (SetOut σ)))}
    (fails : ∀ input ∈ (pollInputs stimuli)[1]?, depart input = .error reason)
    (trace : driveAll (resetPositionsWrapper motion motors (setOut depart plans)) RelativeScan.start
      stimuli = some driven) : FailsAtOnce reason driven := by
  let holds (labels : List Stimulus) (driven : Driven (Finalized (Through Moved (SetOut σ)))) : Prop :=
    FailsAt depart reason (pollInputs labels) driven.items driven.plan ∧
      (driven.fate = .ended → driven.plan = .spent)
  have foreseen : holds [] driven := by
    refine exec_invariant_ahead holds ?_ trace ⟨.fresh fails, by rintro ⟨⟩⟩
    rintro before stimulus rest after stepped ⟨at_, done⟩
    obtain ⟨running, move⟩ := drive_cases stepped
    cases move with
    | @handed sinks input handled item yields =>
        obtain ⟨onward, _⟩ := FailsAt.poll at_ sinks
        rw [yields] at onward
        refine ⟨?_, fun ended => absurd (running.symm.trans ended) (by decide)⟩
        rw [Driven.items_hand]
        exact onward
    | @ended sinks input handled ends =>
        obtain ⟨onward, spent⟩ := FailsAt.poll at_ sinks
        rw [ends, Option.toList_none, List.append_nil] at onward
        exact ⟨onward, fun _ => spent ends⟩
    | answered => exact ⟨at_.answer _, fun ended => absurd (running.symm.trans ended) (by decide)⟩
    | dropped => exact ⟨at_, by rintro ⟨⟩⟩
  exact foreseen.1.atOnce foreseen.2

end Failing

/-! ## The motor returned -/

/-- The items' messages. -/
def Driven.msgs (driven : Driven σ) : List Msg :=
  driven.items.map PlanItem.msg

/-- The plan's messages and the tail's behind them, so far, with what is left of the tail once the plan
is over. -/
inductive TrailsAt (plans : PlanStream σ) (plan : σ) (tail : List PlanItem) (driven : Driven (Trailing σ)) :
    Trailing σ → Prop where
  | under {others bare} (run : driveAll plans plan others = some bare) (running : bare.fate = .running)
      (same : driven.msgs = bare.msgs) (going : driven.fate ≠ .ended) :
      TrailsAt plans plan tail driven (.under bare.plan)
  | trail {others bare rest} (run : driveAll plans plan others = some bare) (ended : bare.fate = .ended)
      (same : driven.msgs ++ rest.map PlanItem.msg = bare.msgs ++ tail.map PlanItem.msg)
      (done : driven.fate = .ended → rest = []) : TrailsAt plans plan tail driven (.trail rest)

section Trailing

variable {plans : PlanStream σ} {plan : σ} {tail : List PlanItem}

theorem Driven.msgs_hand (driven : Driven σ) (plan : σ) (item : PlanItem) (input : Value) (handled : Bool) :
    (driven.hand plan item input handled).msgs = driven.msgs ++ [item.msg] := by
  simp [Driven.msgs, Driven.items_hand]

/-- Past the plan, the tail goes on. -/
theorem TrailsAt.onward {before after : Driven (Trailing σ)} {bare : Driven σ} {others : List Stimulus}
    {rest : List PlanItem} {sinks : List (Option Thrown)} {input : Value} {handled : Bool}
    (stepped : drive (trailing plans tail) before (.poll sinks input handled) = some after)
    (running : before.fate = .running)
    (yields : ((trailing plans tail).next before.plan sinks input).item = rest.head?)
    (goes : ((trailing plans tail).next before.plan sinks input).plan = .trail rest.tail)
    (run : driveAll plans plan others = some bare) (ended : bare.fate = .ended)
    (same : before.msgs ++ rest.map PlanItem.msg = bare.msgs ++ tail.map PlanItem.msg) :
    TrailsAt plans plan tail after after.plan := by
  cases rest with
  | nil =>
      cases stepped.symm.trans (drive_end running yields handled)
      rw [goes]
      exact .trail run ended same fun _ => rfl
  | cons item rest =>
      cases stepped.symm.trans (drive_item running yields handled)
      rw [goes]
      refine .trail run ended ?_ fun ended => absurd (running.symm.trans ended) (by decide)
      rw [Driven.msgs_hand, List.append_assoc]
      exact same

theorem TrailsAt.step {before after : Driven (Trailing σ)} {stimulus : Stimulus}
    (stepped : drive (trailing plans tail) before stimulus = some after)
    (at_ : TrailsAt plans plan tail before before.plan) : TrailsAt plans plan tail after after.plan := by
  obtain ⟨running, _⟩ := drive_cases stepped
  obtain ⟨place, handed, fate⟩ := before
  cases at_ with
  | @under others bare run alive same going =>
      cases stimulus with
      | poll sinks input handled =>
          cases yields : (plans.next bare.plan sinks input).item with
          | some item =>
              have polled : (trailing plans tail).next (.under bare.plan) sinks input =
                  ⟨some (.bare item.msg), .under (plans.next bare.plan sinks input).plan,
                    (plans.next bare.plan sinks input).sinks, (plans.next bare.plan sinks input).notes⟩ := by
                simp only [trailing, yields]
              cases stepped.symm.trans (drive_item running (by rw [polled]) handled)
              rw [polled]
              refine .under (driveAll_concat run (drive_item alive yields handled)) alive ?_ going
              rw [Driven.msgs_hand, Driven.msgs_hand, same]
              rfl
          | none =>
              have polled : (trailing plans tail).next (.under bare.plan) sinks input =
                  ⟨tail.head?, .trail tail.tail, (plans.next bare.plan sinks input).sinks,
                    (plans.next bare.plan sinks input).notes⟩ := by
                simp only [trailing, yields]
              exact .onward stepped running (by rw [polled]) (by rw [polled])
                (driveAll_concat run (drive_end alive yields handled)) rfl (by rw [same]; rfl)
      | answer result =>
          cases stepped.symm.trans (drive_answer running result)
          exact .under (driveAll_concat run (drive_answer alive result)) alive same going
      | drop =>
          obtain ⟨_, move⟩ := drive_cases stepped
          cases move
          exact .under run alive same (by rintro ⟨⟩)
  | @trail others bare rest run ended same done =>
      cases stimulus with
      | poll sinks input handled => exact .onward stepped running rfl rfl run ended same
      | answer result =>
          cases stepped.symm.trans (drive_answer running result)
          exact .trail run ended same done
      | drop =>
          obtain ⟨_, move⟩ := drive_cases stepped
          cases move
          exact .trail run ended same (by rintro ⟨⟩)

/-- Once the generator is over, it handed out the messages of its plan, all of them, and its tail. -/
theorem trailing_returns {stimuli : List Stimulus} {driven : Driven (Trailing σ)}
    (trace : driveAll (trailing plans tail) (.under plan) stimuli = some driven)
    (closed : driven.fate = .ended) :
    ∃ others bare, driveAll plans plan others = some bare ∧ bare.fate = .ended ∧
      driven.msgs = bare.msgs ++ tail.map PlanItem.msg := by
  have at_ : TrailsAt plans plan tail driven driven.plan :=
    exec_invariant (fun driven => TrailsAt plans plan tail driven driven.plan)
      (fun _ _ _ stepped at_ => at_.step stepped) trace
      (.under (show driveAll plans plan [] = _ from rfl) rfl rfl (by rintro ⟨⟩))
  generalize driven.plan = place at at_
  cases at_ with
  | under _ _ _ going => exact absurd closed going
  | trail run ended same done =>
      rw [done closed, List.map_nil, List.append_nil] at same
      exact ⟨_, _, run, ended, same⟩

end Trailing

/-- In every run the reset copes with, the motors moved are set back. -/
def RelativeScan.Resets (scan : RelativeScan σ) (surroundings : Surroundings K) : Prop :=
  ∀ stimuli driven, driveAll (scan.stream surroundings) RelativeScan.start stimuli = some driven →
    Throughout (drive (scan.stream surroundings)) (ResetStep surroundings.motion scan.motors scan.inner)
      (Driven.start RelativeScan.start) stimuli →
    ∃ positions, Restores surroundings.motion scan.motors driven positions

theorem RelativeScan.resets (scan : RelativeScan σ) (surroundings : Surroundings K) :
    scan.Resets surroundings := by
  intro stimuli driven trace orderly
  exact reset_restores trace orderly

/-- Without its motor located at its start, the scan fails and moves nothing. -/
def RelativeScan.FailsUnlocated (scan : RelativeScan σ) (surroundings : Surroundings K) (motor : Obj) :
    Prop :=
  ∀ stimuli error driven,
    (∀ input ∈ (pollInputs stimuli)[1]?, surroundings.locate input motor = .error error) →
    driveAll (scan.stream surroundings) RelativeScan.start stimuli = some driven →
    FailsAtOnce (unlocated motor error) driven

theorem relAdaptiveScan_fails [LinearOrder K] (surroundings : Surroundings K) (args : AdaptiveArgs K) :
    (relAdaptiveScan surroundings args).FailsUnlocated surroundings args.motor := by
  intro stimuli error driven unlocatable trace
  refine reset_fails (fun input member => ?_) trace
  simp only [relAdaptiveScan, unlocatable input member]

/-- Once the scan with this tail is over, the tail was handed out behind the messages of the scan. -/
def Returned (scan : StepScan) (tail : List PlanItem) : Prop :=
  ∀ stimuli driven, driveAll (trailing scan.plans tail) (.under scan.plan) stimuli = some driven →
    driven.fate = .ended →
    ∃ others bare, driveAll scan.plans scan.plan others = some bare ∧ bare.fate = .ended ∧
      driven.msgs = bare.msgs ++ tail.map PlanItem.msg

/-- The relative scans follow the absolute ones and reset their motors; `rel_adaptive_scan` fails where
it cannot set out, and `rel_scan` returns its motor by its end. -/
theorem relative_scans [LinearOrder K] [IsStrictOrderedRing K] (surroundings : Surroundings K)
    (detectors : List Obj) :
    (∀ motor reader points,
      (relListScan surroundings detectors motor reader points).Follows surroundings
          (listScan surroundings.beamline detectors motor reader points).plan ∧
        (relListScan surroundings detectors motor reader points).Resets surroundings) ∧
    (∀ slow fast,
      (relGridScan surroundings detectors slow fast).Follows surroundings
          (gridScan surroundings.beamline detectors slow fast).plan ∧
        (relGridScan surroundings detectors slow fast).Resets surroundings) ∧
    (∀ args : AdaptiveArgs K,
      (relAdaptiveScan surroundings args).Follows surroundings args.plan ∧
        (relAdaptiveScan surroundings args).Resets surroundings ∧
        (relAdaptiveScan surroundings args).FailsUnlocated surroundings args.motor) ∧
    ∀ motor reader current start stop num,
      Returned (relScanned surroundings.beamline detectors motor reader current start stop num)
        (returnTo surroundings.beamline motor current) :=
  ⟨fun motor reader points => ⟨relListScan_follows surroundings detectors motor reader points,
      RelativeScan.resets _ surroundings⟩,
    fun slow fast => ⟨relGridScan_follows surroundings detectors slow fast,
      RelativeScan.resets _ surroundings⟩,
    fun args => ⟨relAdaptiveScan_follows surroundings args, RelativeScan.resets _ surroundings,
      relAdaptiveScan_fails surroundings args⟩,
    fun _ _ _ _ _ _ _ _ trace closed => trailing_returns trace closed⟩

/-- Motors at four, if they can be located at all. -/
private def atFour (located : Bool) : Surroundings ℚ where
  reading _ _ _ := none
  display value := toString value.num
  beamline := ⟨Json.print, fun value => .number (.float (toString value.num ++ ".0")), fun _ => none⟩
  locate _ _ := if located then .ok 4 else .error .cancelled

private def slide : Obj := ⟨0, "slide", none, false, false, false⟩

/-- Polls with nothing thrown. -/
private def calmPolls (polls : Nat) : List Stimulus :=
  .poll [] "" true :: List.replicate polls (.poll [none] "" true)

private def oneOffset (located : Bool) : RelativeScan (Finalized (Through Unit (List PlanItem))) :=
  relListScan (atFour located) [] slide slide [1]

private def slideWithin : AdaptiveArgs ℚ :=
  ⟨[], "", slide, slide, 0, 1, 1, 2, 1, false, 1⟩

private def oneStep : StepScan :=
  relScanned (atFour true).beamline [] slide slide 4 1 1 1

theorem relative_scans_at_four :
    (∃ driven, driveAll ((oneOffset true).stream (atFour true)) RelativeScan.start (calmPolls 14) =
        some driven ∧
      (oneOffset true).Followed (atFour true)
        (listScan (atFour true).beamline [] slide slide [1]).plan (fun _ => 4) (calmPolls 14) driven ∧
      ∃ positions, Restores (atFour true).motion [slide] driven positions) ∧
    (∃ driven, driveAll ((relAdaptiveScan (atFour false) slideWithin).stream (atFour false))
        RelativeScan.start (calmPolls 4) = some driven ∧
      FailsAtOnce (unlocated slide .cancelled) driven) ∧
    ∃ driven, driveAll (relScan (atFour true).beamline [] slide slide 4 1 1 1) (.under oneStep.plan)
        (calmPolls 12) = some driven ∧
      ∃ others bare, driveAll oneStep.plans oneStep.plan others = some bare ∧
        driven.msgs = bare.msgs ++ (returnTo (atFour true).beamline slide 4).map PlanItem.msg := by
  obtain ⟨lists, _, _, returns⟩ := relative_scans (atFour true) []
  obtain ⟨_, _, adapts, _⟩ := relative_scans (atFour false) []
  obtain ⟨follows, resets⟩ := lists slide slide [1]
  obtain ⟨_, _, fails⟩ := adapts slideWithin
  have listed : ((driveAll ((oneOffset true).stream (atFour true)) RelativeScan.start
      (calmPolls 14))).isSome = true := by decide +kernel
  have adapted : (driveAll ((relAdaptiveScan (atFour false) slideWithin).stream (atFour false))
      RelativeScan.start (calmPolls 4)).isSome = true := by decide +kernel
  have stepped : ∃ driven, driveAll (relScan (atFour true).beamline [] slide slide 4 1 1 1)
      (.under oneStep.plan) (calmPolls 12) = some driven ∧ driven.fate = .ended := by
    have ended : (driveAll (relScan (atFour true).beamline [] slide slide 4 1 1 1)
      (.under oneStep.plan) (calmPolls 12)).map Driven.fate = some .ended := by decide +kernel
    simpa using ended
  obtain ⟨offset, offsets⟩ := Option.isSome_iff_exists.mp listed
  obtain ⟨adapting, trace⟩ := Option.isSome_iff_exists.mp adapted
  obtain ⟨driven, moves, ended⟩ := stepped
  obtain ⟨others, bare, run, _, msgs⟩ := returns slide slide 4 1 1 1 (calmPolls 12) driven moves ended
  refine ⟨⟨offset, offsets, follows _ _ offset (fun _ _ _ _ => rfl) offsets,
    resets _ offset offsets (by decide +kernel)⟩, ⟨adapting, trace, fails _ _ adapting (fun _ _ => rfl) trace⟩,
    driven, moves, others, bare, run, msgs⟩

/-- The reason a message fails for. -/
private def failureIn : Msg → Option String
  | .fail reason => some reason
  | _ => none

/-- A scan around a motor that cannot be located moves it as if it stood at zero and does not fail, and
a `rel_scan` dropped behind its move returns its motor nowhere. -/
theorem relative_scans_move_unlocated :
    (∃ driven, driveAll ((oneOffset false).stream (atFour false)) RelativeScan.start (calmPolls 13) =
        some driven ∧ driven.fate = .ended ∧ driven.msgs.filterMap setIn = [(slide, "1.0")] ∧
      driven.msgs.filterMap failureIn = []) ∧
    ∃ driven, driveAll (relScan (atFour true).beamline [] slide slide 4 1 1 1) (.under oneStep.plan)
        (calmPolls 4 ++ [.drop]) = some driven ∧ driven.fate = .dropped ∧
      driven.msgs.filterMap setIn = [(slide, "5.0")] := by
  have unlocated : (driveAll ((oneOffset false).stream (atFour false)) RelativeScan.start
      (calmPolls 13)).map (fun driven => (driven.fate, driven.msgs.filterMap setIn,
        driven.msgs.filterMap failureIn)) = some (.ended, [(slide, "1.0")], []) := by decide +kernel
  have dropped : (driveAll (relScan (atFour true).beamline [] slide slide 4 1 1 1) (.under oneStep.plan)
      (calmPolls 4 ++ [.drop])).map (fun driven => (driven.fate, driven.msgs.filterMap setIn)) =
        some (.dropped, [(slide, "5.0")]) := by decide +kernel
  constructor
  · simpa using unlocated
  · simpa using dropped

end Relative

end Bsrs.Plans
