import Bsrs.Plans.Scanning
import Mathlib.Algebra.BigOperators.Ring.Finset
import Mathlib.Algebra.Order.Archimedean.Basic
import Mathlib.Algebra.Order.BigOperators.Group.Finset
import Mathlib.Algebra.Order.Group.MinMax
import Mathlib.Algebra.Order.Ring.Rat

/-! `tune_centroid`, in exact arithmetic: every pass re-centres a narrower window on the centroid of
the signal it saw. -/

namespace Bsrs.Plans

open Bsrs.Core (Obj)

variable {K : Type} [Field K] [LinearOrder K]

structure TuneArgs (K : Type) where
  detectors : List Obj
  signalField : String
  motor : Obj
  motorReader : Obj
  start : K
  stop : K
  minStep : K
  num : Nat
  stepFactor : K
  snake : Bool

/-- The variables of the loop. -/
structure Tuning (K : Type) where
  passStart : K
  passStop : K
  nextPos : K
  step : K
  peakPosition : Option K
  sumI : K
  sumXi : K
  deriving Repr, DecidableEq

namespace TuneArgs

variable (args : TuneArgs K)

def span (a b : K) : K :=
  if 1 < args.num then (b - a) / (args.num - 1) else 0

def lowLimit : K :=
  min args.start args.stop

def highLimit : K :=
  max args.start args.stop

/-- Into the global bounds. -/
def clamped (pos : K) : K :=
  max args.lowLimit (min args.highLimit pos)

/-- The variables as a pass over a window begins. -/
def begun (peakPosition : Option K) (passStart passStop : K) : Tuning K :=
  { passStart, passStop, nextPos := passStart, step := args.span passStart passStop, peakPosition,
    sumI := 0, sumXi := 0 }

local instance two_atLeastTwo : Nat.AtLeastTwo 2 :=
  inferInstance

/-- The window after the one from `passStart` to `passStop`, around a centroid. -/
def window (passStart passStop centroid : K) : K × K :=
  let newRange := (passStop - passStart) / args.stepFactor
  let low := args.clamped (centroid - newRange / 2)
  let high := args.clamped (centroid + newRange / 2)
  if args.snake then (high, low) else (low, high)

/-- The rest of an iteration, once the signal is sampled; `none` gives up on a pass without
signal. -/
def turn (state : Tuning K) (curI : Option K) : Option (Tuning K) :=
  let y := curI.getD 0
  let sumI := state.sumI + y
  let sumXi := state.sumXi + state.nextPos * y
  let nextPos := state.nextPos + state.step
  if min state.passStart state.passStop ≤ nextPos ∧
      nextPos ≤ max state.passStart state.passStop then
    some { state with nextPos, sumI, sumXi }
  else if sumI = 0 then none
  else
    let centroid := sumXi / sumI
    let next := args.window state.passStart state.passStop centroid
    some (args.begun (some centroid) next.1 next.2)

/-- The condition of the loop. -/
def going (state : Tuning K) : Prop :=
  args.minStep ≤ |state.step| ∧ args.lowLimit ≤ state.nextPos ∧ state.nextPos ≤ args.highLimit

instance (state : Tuning K) : Decidable (args.going state) :=
  inferInstanceAs (Decidable (_ ∧ _))

/-- The loop, for so many iterations at most: the variables at each point it visits, and where the
motor goes at the end. -/
def tune (signal : Nat → Option K) : Nat → Nat → Tuning K → Option (List (Tuning K) × Option K)
  | turns, point, state =>
      if args.going state then
        match turns with
        | 0 => none
        | turns + 1 =>
            match args.turn state (signal point) with
            | none => some ([state], none)
            | some next =>
                (tune signal turns (point + 1) next).map fun rest => (state :: rest.1, rest.2)
      else some ([], state.peakPosition)

variable (answers : Nat → Obj → Option K)

/-- The points the plan visits, and where the motor goes at the end. -/
def tuned (turns : Nat) : Option (List (Tuning K) × Option K) :=
  args.tune (sampled args.detectors answers) turns 0 (args.begun none args.start args.stop)

def planArgs : List (String × PlanArg K) :=
  [("detectors", .texts (args.detectors.map Obj.name)), ("signal", .text args.signalField),
    ("motor", .text args.motor.name), ("start", .position args.start),
    ("stop", .position args.stop), ("min_step", .position args.minStep), ("num", .count args.num),
    ("step_factor", .position args.stepFactor), ("snake", .flag args.snake)]

/-- The trailing move to the centroid. -/
def centre (peakPosition : Option K) : List (ScanMsg K) :=
  match peakPosition with
  | some peak => [.set args.motor peak (some "center"), .wait "center"]
  | none => []

/-- `tune_centroid`, its loop for so many iterations at most. -/
def tuneCentroid (turns : Nat) : Option (List (ScanMsg K)) :=
  if args.minStep ≤ 0 then some [.fail "tune_centroid: min_step must be positive"]
  else if args.stepFactor ≤ 1 then
    some [.fail "tune_centroid: step_factor must be greater than 1.0"]
  else
    (args.tuned answers turns).map fun ran =>
      [.openRun "tune_centroid" args.planArgs] ++
        (ran.1.flatMap fun state =>
          feedbackPoint args.detectors args.motor args.motorReader state.nextPos) ++
        args.centre ran.2 ++ [.closeRun "success"]

/-- A point is the last of its pass. -/
def endsPass (state : Tuning K) : Prop :=
  ¬ (min state.passStart state.passStop ≤ state.nextPos + state.step ∧
    state.nextPos + state.step ≤ max state.passStart state.passStop)

instance (state : Tuning K) : Decidable (endsPass state) :=
  inferInstanceAs (Decidable (¬ _))

/-- The visited points, pass by pass. -/
def passes : List (Tuning K) → List (List (Tuning K))
  | [] => []
  | state :: rest =>
      if endsPass state then [state] :: passes rest
      else
        match passes rest with
        | [] => [[state]]
        | pass :: more => (state :: pass) :: more

/-- A pass goes over `num` evenly spaced points of one window. -/
def Sweeps (pass : List (Tuning K)) : Prop :=
  pass.length = args.num ∧ ∃ passStart passStop, ∀ (k : Nat) (state), pass[k]? = some state →
    state.passStart = passStart ∧ state.passStop = passStop ∧
      state.step = args.span passStart passStop ∧
      state.nextPos = passStart + k * args.span passStart passStop ∧
      min passStart passStop ≤ state.nextPos ∧ state.nextPos ≤ max passStart passStop

/-- The step of the later pass is smaller by the step factor at least. -/
def Shrinks (earlier later : List (Tuning K)) : Prop :=
  ∀ before ∈ earlier, ∀ after ∈ later, |after.step| * args.stepFactor ≤ |before.step|

/-- The scan ends, moves inside its bounds only, and its passes are whole and shrink. -/
structure Tunes : Prop where
  ends : ∃ turns, ∀ more, args.tuned answers (turns + more) = args.tuned answers turns ∧
    (args.tuneCentroid answers (turns + more)).isSome
  within : ∀ turns msgs, args.tuneCentroid answers turns = some msgs →
    ∀ pos ∈ commanded msgs, min args.start args.stop ≤ pos ∧ pos ≤ max args.start args.stop
  whole : ∀ turns ran, args.tuned answers turns = some ran →
    ∀ pass ∈ passes ran.1, args.Sweeps pass
  shrinks : ∀ turns ran, args.tuned answers turns = some ran →
    (passes ran.1).IsChain args.Shrinks

/-- No pass sees readings of both signs, a missing one counting as zero: of each `num` in a row none
is negative, or none is positive. -/
def OneSigned : Prop :=
  ∀ pass, (∀ k < args.num, 0 ≤ (sampled args.detectors answers (pass * args.num + k)).getD 0) ∨
    ∀ k < args.num, (sampled args.detectors answers (pass * args.num + k)).getD 0 ≤ 0

/-! ## One pass -/

/-- The variables at the `k`-th point of a pass, whose first reading is the one at `point`. -/
def inPass (signal : Nat → Option K) (point : Nat) (peakPosition : Option K)
    (passStart passStop : K) (k : Nat) : Tuning K :=
  { passStart, passStop, nextPos := passStart + k * args.span passStart passStop,
    step := args.span passStart passStop, peakPosition,
    sumI := ∑ j ∈ Finset.range k, (signal (point + j)).getD 0,
    sumXi := ∑ j ∈ Finset.range k,
      (passStart + j * args.span passStart passStop) * (signal (point + j)).getD 0 }

/-- All its points. -/
def sweep (signal : Nat → Option K) (point : Nat) (peakPosition : Option K)
    (passStart passStop : K) : List (Tuning K) :=
  (List.range args.num).map (args.inPass signal point peakPosition passStart passStop)

/-- The two sums over a whole pass. -/
def totals (signal : Nat → Option K) (point : Nat) (passStart passStop : K) : K × K :=
  let state := args.inPass signal point none passStart passStop args.num
  (state.sumI, state.sumXi)

variable {args} [IsStrictOrderedRing K] {signal : Nat → Option K} {point : Nat}
  {peakPosition : Option K} {passStart passStop : K}

omit [LinearOrder K] [IsStrictOrderedRing K] in
theorem inPass_zero : args.inPass signal point peakPosition passStart passStop 0 =
    args.begun peakPosition passStart passStop := by
  simp [inPass, begun]

theorem many_of_wide (positive : 0 < args.minStep)
    (wide : args.minStep ≤ |args.span passStart passStop|) : 1 < args.num := by
  by_contra few
  rw [span, if_neg few, abs_zero] at wide
  exact wide.not_gt positive

theorem span_end (passStart passStop : K) (many : 1 < args.num) :
    passStart + (args.num - 1) * args.span passStart passStop = passStop := by
  have some : (args.num : K) - 1 ≠ 0 := sub_ne_zero.mpr (Nat.cast_ne_one.mpr (by omega))
  rw [span, if_pos many, mul_div_cancel₀ _ some]
  ring

theorem inPass_within {k : Nat} (passStart passStop : K) (many : 1 < args.num)
    (early : k < args.num) :
    min passStart passStop ≤ passStart + k * args.span passStart passStop ∧
      passStart + k * args.span passStart passStop ≤ max passStart passStop := by
  have ending := span_end passStart passStop many
  have below : (k : K) ≤ args.num - 1 := by
    rw [le_sub_iff_add_le]
    exact_mod_cast early
  have from' : (0 : K) ≤ k := Nat.cast_nonneg k
  rcases le_total 0 (args.span passStart passStop) with forward | backward
  · have lower := mul_nonneg from' forward
    have upper := mul_le_mul_of_nonneg_right below forward
    exact ⟨min_le_of_left_le (by linarith), le_max_of_le_right (by linarith)⟩
  · have lower := mul_nonpos_of_nonneg_of_nonpos from' backward
    have upper := mul_le_mul_of_nonpos_right below backward
    exact ⟨min_le_of_right_le (by linarith), le_max_of_le_left (by linarith)⟩

/-- The position after the last point has left the window. -/
theorem inPass_past (passStart passStop : K) (many : 1 < args.num)
    (moves : args.span passStart passStop ≠ 0) :
    ¬ (min passStart passStop ≤ passStart + args.num * args.span passStart passStop ∧
      passStart + args.num * args.span passStart passStop ≤ max passStart passStop) := by
  have ending := span_end passStart passStop many
  have count : (1 : K) < args.num := by exact_mod_cast many
  rintro ⟨low, high⟩
  rcases lt_or_gt_of_ne moves with backward | forward
  · have steps := mul_neg_of_pos_of_neg (sub_pos.mpr count) backward
    rcases min_le_iff.mp low with from' | from' <;> linarith
  · have steps := mul_pos (sub_pos.mpr count) forward
    rcases le_max_iff.mp high with upTo | upTo <;> linarith

omit [IsStrictOrderedRing K] in
theorem turn_stays {state : Tuning K} (curI : Option K)
    (stays : min state.passStart state.passStop ≤ state.nextPos + state.step ∧
      state.nextPos + state.step ≤ max state.passStart state.passStop) :
    args.turn state curI =
      some { state with
        nextPos := state.nextPos + state.step, sumI := state.sumI + curI.getD 0,
        sumXi := state.sumXi + state.nextPos * curI.getD 0 } :=
  if_pos stays

omit [IsStrictOrderedRing K] in
theorem turn_leaves {state : Tuning K} (curI : Option K) (leaves : endsPass state) :
    args.turn state curI =
      if state.sumI + curI.getD 0 = 0 then none
      else
        let centroid := (state.sumXi + state.nextPos * curI.getD 0) / (state.sumI + curI.getD 0)
        let next := args.window state.passStart state.passStop centroid
        some (args.begun (some centroid) next.1 next.2) :=
  if_neg leaves

/-- Within a pass, an iteration goes on to the next point. -/
theorem turn_within {k : Nat} (many : 1 < args.num) (early : k + 1 < args.num) :
    args.turn (args.inPass signal point peakPosition passStart passStop k) (signal (point + k)) =
      some (args.inPass signal point peakPosition passStart passStop (k + 1)) := by
  have stays := inPass_within passStart passStop many early
  have next : passStart + k * args.span passStart passStop + args.span passStart passStop =
      passStart + (k + 1 : Nat) * args.span passStart passStop := by
    push_cast
    ring
  rw [turn_stays _ (by rw [inPass, next]; exact stays)]
  simp only [inPass, next, Finset.sum_range_succ]

/-- Its last point is where it leaves the window. -/
theorem inPass_leaves {k : Nat} (many : 1 < args.num)
    (moves : args.span passStart passStop ≠ 0) (last : k + 1 = args.num) :
    endsPass (args.inPass signal point peakPosition passStart passStop k) := by
  have leaves := inPass_past passStart passStop many moves
  have next : passStart + k * args.span passStart passStop + args.span passStart passStop =
      passStart + args.num * args.span passStart passStop := by
    rw [← last]
    push_cast
    ring
  rw [endsPass, inPass, next]
  exact leaves

/-- At its last point, to the next pass, if there was a signal. -/
theorem turn_last {k : Nat} (many : 1 < args.num) (moves : args.span passStart passStop ≠ 0)
    (last : k + 1 = args.num) :
    args.turn (args.inPass signal point peakPosition passStart passStop k) (signal (point + k)) =
      let sums := args.totals signal point passStart passStop
      if sums.1 = 0 then none
      else
        let next := args.window passStart passStop (sums.2 / sums.1)
        some (args.begun (some (sums.2 / sums.1)) next.1 next.2) := by
  have sumI : (args.inPass signal point peakPosition passStart passStop k).sumI +
      (signal (point + k)).getD 0 = (args.totals signal point passStart passStop).1 := by
    simp only [totals, ← last, inPass, Finset.sum_range_succ]
  have sumXi : (args.inPass signal point peakPosition passStart passStop k).sumXi +
      (args.inPass signal point peakPosition passStart passStop k).nextPos *
        (signal (point + k)).getD 0 = (args.totals signal point passStart passStop).2 := by
    simp only [totals, ← last, inPass, Finset.sum_range_succ]
  rw [turn_leaves _ (inPass_leaves many moves last), sumI, sumXi]
  rfl

/-- The bounds of a window. -/
def Bounded (args : TuneArgs K) (passStart passStop : K) : Prop :=
  (args.lowLimit ≤ passStart ∧ passStart ≤ args.highLimit) ∧
    args.lowLimit ≤ passStop ∧ passStop ≤ args.highLimit

theorem inPass_bounded {k : Nat} (many : 1 < args.num) (early : k < args.num)
    (bounded : Bounded args passStart passStop) :
    args.lowLimit ≤ passStart + k * args.span passStart passStop ∧
      passStart + k * args.span passStart passStop ≤ args.highLimit := by
  obtain ⟨low, high⟩ := inPass_within passStart passStop many early
  exact ⟨(le_min bounded.1.1 bounded.2.1).trans low, high.trans (max_le bounded.1.2 bounded.2.2)⟩

omit [IsStrictOrderedRing K] in
theorem tune_gives_up {turns : Nat} {state : Tuning K} (going : args.going state)
    (none' : args.turn state (signal point) = none) :
    args.tune signal (turns + 1) point state = some ([state], none) := by
  rw [tune, if_pos going, none']

omit [IsStrictOrderedRing K] in
theorem tune_goes_on {turns : Nat} {state next : Tuning K} (going : args.going state)
    (goes : args.turn state (signal point) = some next) :
    args.tune signal (turns + 1) point state =
      (args.tune signal turns (point + 1) next).map fun rest => (state :: rest.1, rest.2) := by
  rw [tune, if_pos going, goes]

/-- A pass runs over all its points, and then goes on or gives up. -/
theorem tune_pass {k : Nat} (turns : Nat) (many : 1 < args.num)
    (wide : args.minStep ≤ |args.span passStart passStop|)
    (moves : args.span passStart passStop ≠ 0) (bounded : Bounded args passStart passStop)
    (left : Nat) (count : k + (left + 1) = args.num) :
    args.tune signal (left + 1 + turns) (point + k)
        (args.inPass signal point peakPosition passStart passStop k) =
      let sums := args.totals signal point passStart passStop
      let next := args.window passStart passStop (sums.2 / sums.1)
      let after := if sums.1 = 0 then some ([], none)
        else args.tune signal turns (point + args.num)
          (args.begun (some (sums.2 / sums.1)) next.1 next.2)
      after.map fun ran =>
        ((List.range' k (left + 1)).map
          (args.inPass signal point peakPosition passStart passStop) ++ ran.1, ran.2) := by
  have going : args.going (args.inPass signal point peakPosition passStart passStop k) :=
    ⟨wide, inPass_bounded many (by omega) bounded⟩
  induction left generalizing k with
  | zero =>
      have last : args.turn (args.inPass signal point peakPosition passStart passStop k)
          (signal (point + k)) = _ := turn_last many moves (by omega)
      rw [show 0 + 1 + turns = turns + 1 by omega]
      dsimp only at last ⊢
      split
      · rename_i silent
        rw [if_pos silent] at last
        rw [tune_gives_up going last]
        simp
      · rename_i heard
        rw [if_neg heard] at last
        rw [tune_goes_on going last, show point + k + 1 = point + args.num by omega]
        simp
  | succ left ih =>
      have onward := @ih (k + 1) (by omega)
        ⟨wide, inPass_bounded many (by omega) bounded⟩
      rw [show left + 1 + 1 + turns = left + 1 + turns + 1 by omega,
        tune_goes_on going (turn_within many (by omega)), Nat.add_assoc point, onward]
      dsimp only
      rw [Option.map_map, List.range'_succ]
      rfl

/-! ## From pass to pass -/

omit [IsStrictOrderedRing K] in
/-- A pass is read back as one. -/
theorem passes_append {within : List (Tuning K)} {last : Tuning K} (rest : List (Tuning K))
    (stay : ∀ state ∈ within, ¬ endsPass state) (leaves : endsPass last) :
    passes (within ++ last :: rest) = (within ++ [last]) :: passes rest := by
  induction within with
  | nil => rw [List.nil_append, passes, if_pos leaves]; rfl
  | cons state within ih =>
      rw [List.cons_append, passes, if_neg (stay state (List.mem_cons_self ..)),
        ih fun later member => stay later (List.mem_cons_of_mem _ member)]
      rfl

theorem passes_sweep (rest : List (Tuning K)) (many : 1 < args.num)
    (moves : args.span passStart passStop ≠ 0) :
    passes (args.sweep signal point peakPosition passStart passStop ++ rest) =
      args.sweep signal point peakPosition passStart passStop :: passes rest := by
  obtain ⟨k, count⟩ := Nat.exists_eq_succ_of_ne_zero (by omega : args.num ≠ 0)
  have split : args.sweep signal point peakPosition passStart passStop =
      (List.range k).map (args.inPass signal point peakPosition passStart passStop) ++
        [args.inPass signal point peakPosition passStart passStop k] := by
    rw [sweep, count, List.range_succ, List.map_append]
    rfl
  rw [split, List.append_assoc]
  refine passes_append rest (fun state member => ?_) (inPass_leaves many moves count.symm)
  obtain ⟨j, early, rfl⟩ := List.mem_map.mp member
  have stays := inPass_within passStart passStop many
    (show j + 1 < args.num by have := List.mem_range.mp early; omega)
  have next : passStart + j * args.span passStart passStop + args.span passStart passStop =
      passStart + (j + 1 : Nat) * args.span passStart passStop := by
    push_cast
    ring
  rw [endsPass, inPass, next]
  exact not_not.mpr stays

theorem sweep_sweeps (many : 1 < args.num) :
    args.Sweeps (args.sweep signal point peakPosition passStart passStop) := by
  refine ⟨by simp [sweep], passStart, passStop, fun k state at' => ?_⟩
  rw [sweep, List.getElem?_map, Option.map_eq_some_iff] at at'
  obtain ⟨j, here, rfl⟩ := at'
  obtain ⟨early, rfl⟩ := List.getElem?_eq_some_iff.mp here
  rw [List.length_range] at early
  rw [List.getElem_range]
  exact ⟨rfl, rfl, rfl, rfl, inPass_within _ _ many early⟩

omit [Field K] [IsStrictOrderedRing K] in
theorem clamped_bounds (pos : K) :
    args.lowLimit ≤ args.clamped pos ∧ args.clamped pos ≤ args.highLimit :=
  ⟨le_max_left _ _, max_le (min_le_max) (min_le_left _ _)⟩

theorem clamped_near (args : TuneArgs K) (p q : K) : |args.clamped p - args.clamped q| ≤ |p - q| := by
  have above := abs_max_sub_max_le_max args.lowLimit (min args.highLimit p) args.lowLimit
    (min args.highLimit q)
  have below := abs_min_sub_min_le_max args.highLimit p args.highLimit q
  rw [sub_self, abs_zero] at above below
  exact above.trans (max_le (abs_nonneg _) (below.trans (max_le (abs_nonneg _) le_rfl)))

/-- The next window lies in the bounds, and is narrower by the step factor. -/
theorem window_narrower (passStart passStop : K) (factor : 1 < args.stepFactor) (centroid : K) :
    Bounded args (args.window passStart passStop centroid).1
        (args.window passStart passStop centroid).2 ∧
      |(args.window passStart passStop centroid).2 - (args.window passStart passStop centroid).1| *
        args.stepFactor ≤ |passStop - passStart| := by
  have positive : 0 < args.stepFactor := zero_lt_one.trans factor
  have near := clamped_near args
    (centroid + (passStop - passStart) / args.stepFactor / 2)
    (centroid - (passStop - passStart) / args.stepFactor / 2)
  have width : centroid + (passStop - passStart) / args.stepFactor / 2 -
      (centroid - (passStop - passStart) / args.stepFactor / 2) =
        (passStop - passStart) / args.stepFactor := by ring
  rw [width, abs_div, abs_of_pos positive, le_div_iff₀ positive] at near
  unfold window
  dsimp only
  split
  · rw [abs_sub_comm]
    exact ⟨⟨clamped_bounds _, clamped_bounds _⟩, near⟩
  · exact ⟨⟨clamped_bounds _, clamped_bounds _⟩, near⟩

theorem span_narrower {nextStart nextStop : K}
    (narrower : |nextStop - nextStart| * args.stepFactor ≤ |passStop - passStart|) :
    |args.span nextStart nextStop| * args.stepFactor ≤ |args.span passStart passStop| := by
  unfold span
  split
  · rename_i many
    have count : (0 : K) < args.num - 1 := sub_pos.mpr (by exact_mod_cast many)
    rw [abs_div, abs_div, div_mul_eq_mul_div]
    exact div_le_div_of_nonneg_right narrower (abs_nonneg _)
  · simp

/-- What a run from the beginning of a pass comes to. -/
structure Ran (args : TuneArgs K) (signal : Nat → Option K) (point : Nat) (peakPosition : Option K)
    (passStart passStop : K) (ran : List (Tuning K) × Option K) : Prop where
  within : ∀ state ∈ ran.1, args.lowLimit ≤ state.nextPos ∧ state.nextPos ≤ args.highLimit
  whole : ∀ pass ∈ passes ran.1, args.Sweeps pass
  shrinks : (passes ran.1).IsChain args.Shrinks
  first : ∀ pass ∈ (passes ran.1).head?, ∀ state ∈ pass, state.step = args.span passStart passStop
  final : ∀ peak, ran.2 = some peak → ran.1 = [] ∧ peakPosition = some peak ∨
    ∃ pass lastStart lastStop, 1 < args.num ∧ Bounded args lastStart lastStop ∧
      (args.totals signal (point + pass * args.num) lastStart lastStop).1 ≠ 0 ∧
      peak = (args.totals signal (point + pass * args.num) lastStart lastStop).2 /
        (args.totals signal (point + pass * args.num) lastStart lastStop).1

omit [IsStrictOrderedRing K] in
theorem Ran.nothing : Ran args signal point peakPosition passStart passStop ([], peakPosition) where
  within := by simp
  whole := by simp [passes]
  shrinks := by simp [passes]
  first := by simp [passes]
  final := fun peak same => .inl ⟨rfl, same⟩

theorem sweep_within (many : 1 < args.num) (bounded : Bounded args passStart passStop) :
    ∀ state ∈ args.sweep signal point peakPosition passStart passStop,
      args.lowLimit ≤ state.nextPos ∧ state.nextPos ≤ args.highLimit := by
  intro state member
  obtain ⟨k, early, rfl⟩ := List.mem_map.mp member
  exact inPass_bounded many (List.mem_range.mp early) bounded

omit [LinearOrder K] [IsStrictOrderedRing K] in
theorem sweep_step : ∀ state ∈ args.sweep signal point peakPosition passStart passStop,
    state.step = args.span passStart passStop := by
  intro state member
  obtain ⟨k, early, rfl⟩ := List.mem_map.mp member
  rfl

/-- A pass without signal is the last. -/
theorem Ran.silent (many : 1 < args.num) (moves : args.span passStart passStop ≠ 0)
    (bounded : Bounded args passStart passStop) :
    Ran args signal point peakPosition passStart passStop
      (args.sweep signal point peakPosition passStart passStop, none) := by
  have whole : passes (args.sweep signal point peakPosition passStart passStop ++ []) = _ :=
    passes_sweep [] many moves
  rw [List.append_nil] at whole
  refine ⟨sweep_within many bounded, ?_, ?_, ?_, by simp⟩
  · rw [whole]
    simpa [passes] using sweep_sweeps many
  · rw [whole]
    simp [passes]
  · rw [whole]
    simpa [passes] using sweep_step

/-- A pass with signal comes before the run over the next window. -/
theorem Ran.heard {ran : List (Tuning K) × Option K} {nextStart nextStop : K}
    (many : 1 < args.num) (moves : args.span passStart passStop ≠ 0)
    (bounded : Bounded args passStart passStop)
    (some' : (args.totals signal point passStart passStop).1 ≠ 0)
    (narrower : |args.span nextStart nextStop| * args.stepFactor ≤ |args.span passStart passStop|)
    (rest : Ran args signal (point + args.num)
      (some ((args.totals signal point passStart passStop).2 /
        (args.totals signal point passStart passStop).1)) nextStart nextStop ran) :
    Ran args signal point peakPosition passStart passStop
      (args.sweep signal point peakPosition passStart passStop ++ ran.1, ran.2) := by
  have whole : passes (args.sweep signal point peakPosition passStart passStop ++ ran.1) = _ :=
    passes_sweep ran.1 many moves
  have count : (args.sweep signal point peakPosition passStart passStop).length = args.num := by
    simp [sweep]
  constructor
  · intro state member
    rcases List.mem_append.mp member with here | later
    · exact sweep_within many bounded state here
    · exact rest.within state later
  · rw [whole]
    intro pass member
    rcases List.mem_cons.mp member with rfl | later
    · exact sweep_sweeps many
    · exact rest.whole pass later
  · rw [whole]
    refine List.isChain_cons.mpr ⟨fun pass ending before here after there => ?_, rest.shrinks⟩
    rw [sweep_step before here, rest.first pass ending after there]
    exact narrower
  · rw [whole]
    rintro pass same
    obtain rfl : args.sweep signal point peakPosition passStart passStop = pass := by
      simpa using same
    exact sweep_step
  · intro peak same
    right
    rcases rest.final peak same with
      ⟨-, last⟩ | ⟨pass, lastStart, lastStop, several, inside, heard, at'⟩
    · refine ⟨0, passStart, passStop, many, bounded, ?_, ?_⟩ <;> rw [Nat.zero_mul, Nat.add_zero]
      · exact some'
      · exact (Option.some.inj last).symm
    · have later : point + args.num + pass * args.num = point + (pass + 1) * args.num := by ring
      rw [later] at heard at'
      exact ⟨pass + 1, lastStart, lastStop, several, inside, heard, at'⟩

/-! ## The whole run -/

/-- A pass from its beginning. -/
theorem tune_sweep (turns : Nat) (many : 1 < args.num)
    (wide : args.minStep ≤ |args.span passStart passStop|)
    (moves : args.span passStart passStop ≠ 0) (bounded : Bounded args passStart passStop) :
    args.tune signal (args.num + turns) point (args.begun peakPosition passStart passStop) =
      let sums := args.totals signal point passStart passStop
      let next := args.window passStart passStop (sums.2 / sums.1)
      let after := if sums.1 = 0 then some ([], none)
        else args.tune signal turns (point + args.num)
          (args.begun (some (sums.2 / sums.1)) next.1 next.2)
      after.map fun ran =>
        (args.sweep signal point peakPosition passStart passStop ++ ran.1, ran.2) := by
  have pass : args.tune signal (args.num - 1 + 1 + turns) (point + 0)
      (args.inPass signal point peakPosition passStart passStop 0) = _ :=
    tune_pass turns many wide moves bounded (args.num - 1) (by omega)
  rw [show args.num - 1 + 1 = args.num by omega, inPass_zero, ← List.range_eq_range'] at pass
  exact pass

/-- Every run from the beginning of a pass ends: the step has to fall below the smallest. -/
theorem tune_runs (positive : 0 < args.minStep) (factor : 1 < args.stepFactor) (passes : Nat)
    (few : |args.span passStart passStop| < args.minStep * args.stepFactor ^ passes)
    (bounded : Bounded args passStart passStop) :
    ∃ turns ran, (∀ more, args.tune signal (turns + more) point
        (args.begun peakPosition passStart passStop) = some ran) ∧
      Ran args signal point peakPosition passStart passStop ran := by
  induction passes generalizing point peakPosition passStart passStop with
  | zero =>
      rw [pow_zero, mul_one] at few
      refine ⟨0, ([], peakPosition), fun more => ?_, .nothing⟩
      unfold tune
      exact if_neg fun going => few.not_ge going.1
  | succ passes ih =>
      by_cases wide : args.minStep ≤ |args.span passStart passStop|
      · have many := many_of_wide positive wide
        have moves : args.span passStart passStop ≠ 0 := abs_pos.mp (positive.trans_le wide)
        by_cases silent : (args.totals signal point passStart passStop).1 = 0
        · refine ⟨args.num, _, fun more => ?_, .silent many moves bounded⟩
          rw [tune_sweep more many wide moves bounded]
          dsimp only
          rw [if_pos silent, Option.map_some, List.append_nil]
        · obtain ⟨inside, narrower⟩ := window_narrower passStart passStop factor
            ((args.totals signal point passStart passStop).2 /
              (args.totals signal point passStart passStop).1)
          have smaller := span_narrower narrower
          have most : |args.span passStart passStop| <
              args.minStep * args.stepFactor ^ passes * args.stepFactor := by
            rwa [mul_assoc, ← pow_succ]
          have fewer := lt_of_mul_lt_mul_right (smaller.trans_lt most) (zero_lt_one.trans factor).le
          obtain ⟨turns, ran, ended, rest⟩ := @ih (point + args.num) (some _) _ _ fewer
            inside
          refine ⟨args.num + turns, _, fun more => ?_, .heard many moves bounded silent smaller rest⟩
          rw [Nat.add_assoc, tune_sweep _ many wide moves bounded]
          dsimp only
          rw [if_neg silent, ended more, Option.map_some]
      · refine ⟨0, ([], peakPosition), fun more => ?_, .nothing⟩
        unfold tune
        exact if_neg fun going => wide going.1

omit [IsStrictOrderedRing K] in
/-- More iterations change nothing once the loop has ended. -/
theorem tune_more {turns : Nat} {state : Tuning K} {ran : List (Tuning K) × Option K}
    (ended : args.tune signal turns point state = some ran) (more : Nat) :
    args.tune signal (turns + more) point state = some ran := by
  induction turns generalizing point state ran with
  | zero =>
      unfold tune at ended ⊢
      split at ended
      · cases ended
      · rename_i out
        rw [if_neg out]
        exact ended
  | succ turns ih =>
      rw [show turns + 1 + more = turns + more + 1 by omega]
      unfold tune at ended ⊢
      split at ended
      · rename_i going
        rw [if_pos going]
        cases goes : args.turn state (signal point) with
        | none => simpa [goes] using ended
        | some next =>
            rw [goes] at ended
            obtain ⟨rest, following, rfl⟩ := Option.map_eq_some_iff.mp ended
            dsimp only
            rw [ih following]
            rfl
      · rename_i out
        rw [if_neg out]
        exact ended

variable {answers : Nat → Obj → Option K} [Archimedean K]

omit [Field K] [IsStrictOrderedRing K] [Archimedean K] in
theorem limits_bounded : Bounded args args.start args.stop :=
  ⟨⟨min_le_left _ _, le_max_left _ _⟩, min_le_right _ _, le_max_right _ _⟩

/-- The plan's loop ends, and comes to the same whatever more it is allowed. -/
theorem tuned_runs (args : TuneArgs K) (answers : Nat → Obj → Option K)
    (positive : 0 < args.minStep) (factor : 1 < args.stepFactor) :
    ∃ turns ran, (∀ more, args.tuned answers (turns + more) = some ran) ∧
      Ran args (sampled args.detectors answers) 0 none args.start args.stop ran := by
  obtain ⟨passes, few⟩ := pow_unbounded_of_one_lt (|args.span args.start args.stop| / args.minStep)
    factor
  rw [div_lt_iff₀' positive] at few
  exact tune_runs positive factor passes few limits_bounded

/-- Every finished run of the plan. -/
theorem tuned_ran (positive : 0 < args.minStep) (factor : 1 < args.stepFactor) {turns : Nat}
    {ran : List (Tuning K) × Option K} (ended : args.tuned answers turns = some ran) :
    Ran args (sampled args.detectors answers) 0 none args.start args.stop ran := by
  obtain ⟨enough, same, finished, runs⟩ := tuned_runs args answers positive factor
  have later := tune_more ended enough
  have other := finished turns
  rw [Nat.add_comm, tuned, later] at other
  rwa [Option.some.inj other]

omit [IsStrictOrderedRing K] [Archimedean K] in
/-- The positions a finished plan commands. -/
theorem tuneCentroid_commanded {turns : Nat} {msgs : List (ScanMsg K)}
    (positive : 0 < args.minStep) (factor : 1 < args.stepFactor)
    (plan : args.tuneCentroid answers turns = some msgs) :
    ∃ ran, args.tuned answers turns = some ran ∧
      commanded msgs = ran.1.map Tuning.nextPos ++ ran.2.toList := by
  rw [tuneCentroid, if_neg positive.not_ge, if_neg factor.not_ge] at plan
  obtain ⟨ran, ended, rfl⟩ := Option.map_eq_some_iff.mp plan
  refine ⟨ran, ended, ?_⟩
  have centring : commanded (args.centre ran.2) = ran.2.toList := by
    cases ran.2 <;> rfl
  rw [commanded_append, commanded_append, commanded_append, commanded_points, centring]
  exact List.append_nil _

omit [Archimedean K] in
/-- A centroid lies between two bounds where its moments about them have not the same sign. -/
theorem centroid_within {low high total weighted : K} (ordered : low ≤ high) (some' : total ≠ 0) :
    low ≤ weighted / total ∧ weighted / total ≤ high ↔
      (weighted - low * total) * (weighted - high * total) ≤ 0 := by
  have square : 0 < total * total := mul_self_pos.mpr some'
  have factored : (weighted - low * total) * (weighted - high * total) =
      (weighted / total - low) * (weighted / total - high) * (total * total) := by
    field_simp
  generalize weighted / total = centroid at factored ⊢
  rw [factored]
  constructor
  · rintro ⟨above, below⟩
    have signs := mul_nonpos_of_nonneg_of_nonpos (sub_nonneg.mpr above) (sub_nonpos.mpr below)
    exact mul_nonpos_of_nonpos_of_nonneg signs square.le
  · intro signs
    have apart : ¬ 0 < (centroid - low) * (centroid - high) := fun same =>
      (mul_pos same square).not_ge signs
    refine ⟨not_lt.mp fun under => apart ?_, not_lt.mp fun past => apart ?_⟩
    · exact mul_pos_of_neg_of_neg (sub_neg.mpr under) (sub_neg.mpr (under.trans_le ordered))
    · exact mul_pos (sub_pos.mpr (ordered.trans_lt past)) (sub_pos.mpr past)

omit [LinearOrder K] [IsStrictOrderedRing K] [Archimedean K] in
/-- The moment of a pass about `pivot`. -/
theorem totals_moment (pivot : K) :
    (args.totals signal point passStart passStop).2 -
        pivot * (args.totals signal point passStart passStop).1 =
      ∑ k ∈ Finset.range args.num,
        (passStart + k * args.span passStart passStop - pivot) * (signal (point + k)).getD 0 := by
  rw [totals]
  dsimp only [inPass]
  rw [Finset.mul_sum, ← Finset.sum_sub_distrib]
  exact Finset.sum_congr rfl fun k _ => (sub_mul _ _ _).symm

omit [Archimedean K] in
/-- Readings of one sign weigh to opposite sides of the two bounds. -/
theorem centroid_of_oneSigned (many : 1 < args.num) (bounded : Bounded args passStart passStop)
    (heard : (args.totals signal point passStart passStop).1 ≠ 0)
    (signed : (∀ k < args.num, 0 ≤ (signal (point + k)).getD 0) ∨
      ∀ k < args.num, (signal (point + k)).getD 0 ≤ 0) :
    args.lowLimit ≤ (args.totals signal point passStart passStop).2 /
        (args.totals signal point passStart passStop).1 ∧
      (args.totals signal point passStart passStop).2 /
        (args.totals signal point passStart passStop).1 ≤ args.highLimit := by
  have ordered : args.lowLimit ≤ args.highLimit := min_le_max
  rw [centroid_within ordered heard, totals_moment, totals_moment]
  have above {k : Nat} (early : k < args.num) :
      0 ≤ passStart + k * args.span passStart passStop - args.lowLimit :=
    sub_nonneg.mpr (inPass_bounded many early bounded).1
  have below {k : Nat} (early : k < args.num) :
      passStart + k * args.span passStart passStop - args.highLimit ≤ 0 :=
    sub_nonpos.mpr (inPass_bounded many early bounded).2
  rcases signed with nonneg | nonpos
  · refine mul_nonpos_of_nonneg_of_nonpos (Finset.sum_nonneg fun k member => ?_)
      (Finset.sum_nonpos fun k member => ?_) <;> have early := Finset.mem_range.mp member
    · exact mul_nonneg (above early) (nonneg k early)
    · exact mul_nonpos_of_nonpos_of_nonneg (below early) (nonneg k early)
  · refine mul_nonpos_of_nonpos_of_nonneg (Finset.sum_nonpos fun k member => ?_)
      (Finset.sum_nonneg fun k member => ?_) <;> have early := Finset.mem_range.mp member
    · exact mul_nonpos_of_nonneg_of_nonpos (above early) (nonpos k early)
    · exact mul_nonneg_of_nonpos_of_nonpos (below early) (nonpos k early)

/-- Whatever the readings are, nothing but the move to the centroid can break a bound. -/
theorem tunes_iff_centre (positive : 0 < args.minStep) (factor : 1 < args.stepFactor) :
    args.Tunes answers ↔ ∀ turns visited peak, args.tuned answers turns = some (visited, some peak) →
      args.lowLimit ≤ peak ∧ peak ≤ args.highLimit := by
  constructor
  · intro tunes turns visited peak ended
    have plan : args.tuneCentroid answers turns ≠ none := by
      rw [tuneCentroid, if_neg positive.not_ge, if_neg factor.not_ge, ended]
      exact Option.some_ne_none _
    obtain ⟨msgs, plan⟩ := Option.ne_none_iff_exists'.mp plan
    obtain ⟨ran, same, moves⟩ := tuneCentroid_commanded positive factor plan
    obtain rfl : (visited, some peak) = ran := Option.some.inj (ended.symm.trans same)
    exact tunes.within turns msgs plan peak (by rw [moves]; simp)
  · intro centred
    refine ⟨?_, ?_, fun turns ran ended => (tuned_ran positive factor ended).whole,
      fun turns ran ended => (tuned_ran positive factor ended).shrinks⟩
    · obtain ⟨turns, ran, ended, -⟩ := tuned_runs args answers positive factor
      refine ⟨turns, fun more => ⟨(ended more).trans (ended 0).symm, ?_⟩⟩
      rw [tuneCentroid, if_neg positive.not_ge, if_neg factor.not_ge, ended more]
      rfl
    · intro turns msgs plan pos member
      obtain ⟨ran, ended, moves⟩ := tuneCentroid_commanded positive factor plan
      rw [moves] at member
      rcases List.mem_append.mp member with visits | final
      · obtain ⟨state, visited, rfl⟩ := List.mem_map.mp visits
        exact (tuned_ran positive factor ended).within state visited
      · obtain ⟨visited, peak⟩ := ran
        obtain rfl : peak = some pos := by simpa using final
        exact centred turns visited pos ended

/-- A centroid scan whose passes each see readings of one sign ends, in whole and shrinking passes,
and keeps the motor in its bounds. -/
theorem tune_centroid_tunes (args : TuneArgs K) (answers : Nat → Obj → Option K)
    (positive : 0 < args.minStep) (factor : 1 < args.stepFactor)
    (signed : args.OneSigned answers) : args.Tunes answers := by
  rw [tunes_iff_centre positive factor]
  intro turns visited peak ended
  rcases (tuned_ran positive factor ended).final peak rfl with
    ⟨-, absent⟩ | ⟨pass, lastStart, lastStop, many, bounded, heard, rfl⟩
  · cases absent
  · rw [Nat.zero_add] at heard ⊢
    exact centroid_of_oneSigned many bounded heard (signed pass)

/-- One pass over two points. -/
def twoPoints : TuneArgs ℚ :=
  { detectors := [⟨0, "det", none, false, false, false⟩], signalField := "det",
    motor := ⟨1, "motor", none, false, false, false⟩,
    motorReader := ⟨1, "motor", none, false, false, false⟩, start := 0, stop := 1, minStep := 1,
    num := 2, stepFactor := 2, snake := false }

/-- Two passes: one over readings below zero, and one over readings above. -/
theorem tune_centroid_tunes_crossing :
    { twoPoints with minStep := 1 / 2 }.Tunes fun point _ => some (if point < 2 then -1 else point) := by
  refine tune_centroid_tunes _ _ (by norm_num) (by norm_num [twoPoints]) fun pass => ?_
  have reading (point : Nat) : (sampled twoPoints.detectors (fun point _ =>
      some (if point < 2 then -1 else (point : ℚ))) point).getD 0 =
        if point < 2 then -1 else (point : ℚ) :=
    rfl
  simp only [reading]
  rcases pass with _ | pass
  · refine .inr fun k early => ?_
    have early : k < 2 := early
    rw [Nat.zero_mul, Nat.zero_add, if_pos early]
    norm_num
  · refine .inl fun k _ => ?_
    have later : ¬ (pass + 1) * twoPoints.num + k < 2 := by
      show ¬ (pass + 1) * 2 + k < 2
      omega
    rw [if_neg later]
    exact Nat.cast_nonneg _

/-- Against a negative reading the centroid, and with it the motor, leaves the bounds. -/
theorem tune_centroid_leaves : ¬ twoPoints.Tunes fun point _ => some (if point = 0 then -1 else 2) := by
  have plan : (twoPoints.tuneCentroid (fun point _ => some (if point = 0 then -1 else 2)) 2).map
      commanded = some [0, 1, 2] := by decide +kernel
  obtain ⟨msgs, built, moves⟩ := Option.map_eq_some_iff.mp plan
  intro tunes
  have within := tunes.within 2 msgs built 2 (by rw [moves]; simp)
  norm_num [twoPoints] at within

end TuneArgs

end Bsrs.Plans
