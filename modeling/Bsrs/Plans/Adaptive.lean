import Bsrs.Plans.Scanning
import Mathlib.Algebra.Order.Ring.Rat

/-! `adaptive_scan`, in exact arithmetic: the signal at each point sets the step to the next. -/

namespace Bsrs.Plans

open Bsrs.Core (Obj)

variable {K : Type} [Field K] [LinearOrder K]

structure AdaptiveArgs (K : Type) where
  detectors : List Obj
  signalField : String
  motor : Obj
  motorReader : Obj
  start : K
  stop : K
  minStep : K
  maxStep : K
  targetDelta : K
  backstep : Bool
  threshold : K

/-- The variables of the loop. -/
structure Adaptive (K : Type) where
  pos : K
  pastI : Option K
  step : K
  deriving Repr, DecidableEq

namespace AdaptiveArgs

variable (args : AdaptiveArgs K)

local instance ten_atLeastTwo : Nat.AtLeastTwo 10 :=
  inferInstance

def direction : K :=
  if args.start ≤ args.stop then 1 else -1

/-- `new_step`, from the signal at the reference and at this point. -/
def newStep (step p n : K) : K :=
  let slope := |n - p| / step
  if slope ≠ 0 then max args.minStep (min args.maxStep (args.targetDelta / slope))
  else min (step * (11 / 10)) args.maxStep

/-- The rest of an iteration, once the signal is sampled. -/
def next (state : Adaptive K) (curI : Option K) : Adaptive K :=
  match state.pastI with
  | none => { state with pastI := curI, pos := state.pos + state.step * args.direction }
  | some p =>
      match curI with
      | none => { state with pos := state.pos + state.step * args.direction }
      | some n =>
          let newStep := args.newStep state.step p n
          if args.backstep = true ∧ newStep < state.step * args.threshold then
            -- back by a step whatever the direction is
            { state with
              pos := state.pos - state.step + newStep * args.direction, step := newStep }
          else
            let step := 2 / 10 * newStep + 8 / 10 * state.step
            { pos := state.pos + step * args.direction, pastI := some n, step }

def maxIters : Nat := 10000

/-- The loop with so many iterations left: the variables at each point it visits, and whether it is
the cap that ends it. -/
def visit (signal : Nat → Option K) : Nat → Nat → Adaptive K → List (Adaptive K) × Bool
  | left, point, state =>
      if state.pos * args.direction < args.stop * args.direction then
        match left with
        | 0 => ([], true)
        | left + 1 =>
            let rest := visit signal left (point + 1) (args.next state (signal point))
            (state :: rest.1, rest.2)
      else ([], false)

def initial : Adaptive K :=
  { pos := args.start, pastI := none, step := (args.maxStep - args.minStep) / 2 }

variable (answers : Nat → Obj → Option K)

/-- The variables at each visited point, and whether the cap was hit. -/
def visited : List (Adaptive K) × Bool :=
  args.visit (sampled args.detectors answers) maxIters 0 args.initial

def planArgs : List (String × PlanArg K) :=
  [("detectors", .texts (args.detectors.map Obj.name)), ("target_field", .text args.signalField),
    ("motor", .text args.motor.name), ("start", .position args.start),
    ("stop", .position args.stop), ("min_step", .position args.minStep),
    ("max_step", .position args.maxStep), ("target_delta", .position args.targetDelta),
    ("backstep", .flag args.backstep), ("threshold", .position args.threshold)]

/-- `adaptive_scan`; `display` writes a number in the text of its failure. -/
def adaptiveScan (display : K → String) : List (ScanMsg K) :=
  if ¬ (0 < args.minStep ∧ args.minStep < args.maxStep) then
    [.fail ("adaptive_scan: require 0 < min_step < max_step, got min_step=" ++
      display args.minStep ++ ", max_step=" ++ display args.maxStep)]
  else
    [.openRun "adaptive_scan" args.planArgs] ++
      ((args.visited answers).1.flatMap fun state =>
        feedbackPoint args.detectors args.motor args.motorReader state.pos) ++
      [.closeRun "success"]

def positions : List K :=
  (args.visited answers).1.map Adaptive.pos

/-- The scan from `-start` to `-stop`. -/
def mirror : AdaptiveArgs K :=
  { args with start := -args.start, stop := -args.stop }

/-- The one of the two mirrored scans that goes upward. -/
def upward : AdaptiveArgs K :=
  if args.start ≤ args.stop then args else args.mirror

/-- The branch that steps back is taken. -/
def backsteps (state : Adaptive K) (curI : Option K) : Prop :=
  args.backstep = true ∧ ∃ p ∈ state.pastI, ∃ n ∈ curI,
    args.newStep state.step p n < state.step * args.threshold

/-- The scan divides by no zero and ends, stays between its ends, leaves no gap wider than the
largest step unless the cap ended it, and mirrors the scan the other way. -/
structure Covers : Prop where
  divides : ∀ state ∈ (args.visited answers).1, state.step ≠ 0
  ends : ∀ display, (args.adaptiveScan answers display).getLast? = some (.closeRun "success")
  within : ∀ pos ∈ commanded (args.adaptiveScan answers fun _ => ""),
    min args.start args.stop ≤ pos ∧ pos ≤ max args.start args.stop
  spaced : (args.visited answers).2 = false → Spaced args.maxStep (args.positions answers)
  reaches : (args.visited answers).2 = false →
    ∀ last ∈ (args.positions answers).getLast?, |args.stop - last| ≤ args.maxStep
  mirrored : args.mirror.positions answers = (args.positions answers).map (- ·)

/-- The branch that steps back is taken at no point that the upward scan goes on from. A downward
scan that takes it as it meets the cap has to end within reach of its stop. -/
def Steady : Prop :=
  ∀ point state, (args.upward.visited answers).1[point]? = some state →
    args.upward.backsteps state (sampled args.detectors answers point) →
      point + 1 = (args.upward.visited answers).1.length ∧
      (args.stop < args.start →
        (args.upward.next state (sampled args.detectors answers point)).pos < args.upward.stop →
        args.upward.stop ≤ (args.next { state with pos := -state.pos }
          (sampled args.detectors answers point)).pos * -1 →
        args.upward.stop - state.pos ≤ args.maxStep)

/-! ## The variables of the loop -/

variable {args} {answers} [IsStrictOrderedRing K]

theorem newStep_bounds {step p n : K} (smaller : 0 < args.minStep)
    (larger : args.minStep < args.maxStep) (positive : 0 < step) :
    0 < args.newStep step p n ∧ args.newStep step p n ≤ args.maxStep := by
  have most : 0 < args.maxStep := smaller.trans larger
  unfold newStep
  dsimp only
  split
  · exact ⟨lt_max_of_lt_left smaller, max_le larger.le (min_le_left _ _)⟩
  · exact ⟨lt_min (by linarith) most, min_le_right _ _⟩

/-- What an iteration makes of the variables. -/
inductive Moves (args : AdaptiveArgs K) (state : Adaptive K) (curI : Option K) : Adaptive K → Prop
  | keeps (pastI : Option K) (steady : ¬ args.backsteps state curI) :
      Moves args state curI { state with pastI, pos := state.pos + state.step * args.direction }
  | back (p : K) (new : K) (past : state.pastI = some p) (positive : 0 < new)
      (bound : new ≤ args.maxStep) (backs : args.backsteps state curI) :
      Moves args state curI
        { state with pos := state.pos - state.step + new * args.direction, step := new }
  | advance (n new : K) (positive : 0 < new) (bound : new ≤ args.maxStep)
      (steady : ¬ args.backsteps state curI) :
      Moves args state curI { pos := state.pos + new * args.direction, pastI := some n, step := new }

theorem next_moves {state : Adaptive K} (smaller : 0 < args.minStep)
    (larger : args.minStep < args.maxStep) (positive : 0 < state.step)
    (bound : state.step ≤ args.maxStep) (curI : Option K) :
    Moves args state curI (args.next state curI) := by
  obtain ⟨pos, pastI, step⟩ := state
  unfold next
  cases pastI with
  | none => exact .keeps curI (by simp [backsteps])
  | some p =>
      cases curI with
      | none => exact .keeps (some p) (by simp [backsteps])
      | some n =>
          obtain ⟨new, most⟩ := newStep_bounds (p := p) (n := n) smaller larger positive
          have taken : args.backsteps ⟨pos, some p, step⟩ (some n) ↔ args.backstep = true ∧
              args.newStep step p n < step * args.threshold := by
            simp [backsteps]
          dsimp only at *
          split
          · rename_i back
            exact .back p _ rfl new most (taken.mpr back)
          · rename_i steady
            exact .advance n _ (by linarith) (by linarith) fun back => steady (taken.mp back)

/-- The step stays positive and at most the largest. -/
def StepWithin (args : AdaptiveArgs K) (state : Adaptive K) : Prop :=
  0 < state.step ∧ state.step ≤ args.maxStep

theorem StepWithin.next {state : Adaptive K} (smaller : 0 < args.minStep)
    (larger : args.minStep < args.maxStep) (step : StepWithin args state) (curI : Option K) :
    StepWithin args (args.next state curI) := by
  have moves := next_moves smaller larger step.1 step.2 curI
  generalize args.next state curI = after at moves ⊢
  cases moves with
  | keeps => exact step
  | back p new past positive bound => exact ⟨positive, bound⟩
  | advance n new positive bound => exact ⟨positive, bound⟩

omit [IsStrictOrderedRing K] in
/-- What holds at the start of the loop and after an iteration holds at every visited point. -/
theorem visit_invariant {signal : Nat → Option K} (holds : Adaptive K → Prop)
    (preserved : ∀ state curI, state.pos * args.direction < args.stop * args.direction →
      holds state → holds (args.next state curI))
    (left point : Nat) (state : Adaptive K) (initial : holds state) :
    ∀ seen ∈ (args.visit signal left point state).1,
      seen.pos * args.direction < args.stop * args.direction ∧ holds seen := by
  induction left generalizing point state with
  | zero =>
      intro seen member
      unfold visit at member
      split at member <;> cases member
  | succ left ih =>
      intro seen member
      unfold visit at member
      split at member
      · rename_i before
        rcases List.mem_cons.mp member with rfl | later
        · exact ⟨before, initial⟩
        · exact ih _ _ (preserved state _ before initial) seen later
      · cases member

/-- What holds of an upward scan that has visited `trail` and is about to look at the next point. -/
structure Trail (args : AdaptiveArgs K) (trail : List K) (state : Adaptive K) : Prop where
  step : StepWithin args state
  begins : trail = [] → state.pos = args.start ∧ state.pastI = none
  base : trail ≠ [] → ∃ base ∈ trail, state.pos = base + state.step
  near : ∀ last ∈ trail.getLast?, state.pos ≤ last + args.maxStep
  spaced : Spaced args.maxStep trail
  within : ∀ pos ∈ trail, args.start ≤ pos ∧ pos < args.stop

theorem Trail.initial (smaller : 0 < args.minStep) (larger : args.minStep < args.maxStep) :
    Trail args [] args.initial where
  step := by
    have narrower : args.maxStep - args.minStep ≤ args.maxStep := by linarith
    exact ⟨half_pos (by linarith), by rw [AdaptiveArgs.initial]; linarith⟩
  begins := fun _ => ⟨rfl, rfl⟩
  base := fun some => absurd rfl some
  near := by simp
  spaced := by
    intro a inA
    cases inA
  within := by simp

theorem Trail.next {trail : List K} {state : Adaptive K} (held : Trail args trail state)
    (smaller : 0 < args.minStep) (larger : args.minStep < args.maxStep)
    (upward : args.direction = 1) (before : state.pos < args.stop) (curI : Option K) :
    Trail args (trail ++ [state.pos]) (args.next state curI) := by
  have most : 0 < args.maxStep := smaller.trans larger
  have spaced : Spaced args.maxStep (trail ++ [state.pos]) := by
    by_cases first : trail = []
    · rw [first]
      exact .single _
    · obtain ⟨base, visited, same⟩ := held.base first
      exact held.spaced.concat visited (by linarith [held.step.1]) (by linarith [held.step.2])
  have within : ∀ pos ∈ trail ++ [state.pos], args.start ≤ pos ∧ pos < args.stop := by
    intro pos member
    rcases List.mem_append.mp member with earlier | here
    · exact held.within pos earlier
    · obtain rfl := List.mem_singleton.mp here
      refine ⟨?_, before⟩
      by_cases first : trail = []
      · exact (held.begins first).1.ge
      · obtain ⟨base, visited, same⟩ := held.base first
        linarith [(held.within base visited).1, held.step.1]
  have step := held.step.next smaller larger curI
  have moves := next_moves smaller larger held.step.1 held.step.2 curI
  generalize args.next state curI = after at moves step ⊢
  have same : ∀ last ∈ (trail ++ [state.pos]).getLast?, last = state.pos := by simp
  cases moves with
  | keeps =>
      refine ⟨step, by simp, fun _ => ⟨state.pos, by simp, by rw [upward, mul_one]⟩, ?_, spaced,
        within⟩
      intro last ending
      rw [same last ending, upward, mul_one]
      exact add_le_add_right held.step.2 _
  | back p new past positive bound =>
      have visits : trail ≠ [] := fun first => by
        rw [(held.begins first).2] at past
        cases past
      obtain ⟨base, visited, from'⟩ := held.base visits
      refine ⟨step, by simp, fun _ => ⟨base, by simp [visited], ?_⟩, ?_, spaced, within⟩
      · rw [upward, mul_one, from', add_sub_cancel_right]
      · intro last ending
        rw [same last ending, upward, mul_one]
        linarith [held.step.1]
  | advance n new positive bound =>
      refine ⟨step, by simp, fun _ => ⟨state.pos, by simp, by rw [upward, mul_one]⟩, ?_, spaced,
        within⟩
      intro last ending
      rw [same last ending, upward, mul_one]
      exact add_le_add_right bound _

/-- Along an upward scan. -/
theorem Trail.visit {trail : List K} {state : Adaptive K} (held : Trail args trail state)
    (smaller : 0 < args.minStep) (larger : args.minStep < args.maxStep)
    (upward : args.direction = 1) (signal : Nat → Option K) (left point : Nat) :
    Spaced args.maxStep
        (trail ++ (args.visit signal left point state).1.map Adaptive.pos) ∧
      (∀ pos ∈ trail ++ (args.visit signal left point state).1.map Adaptive.pos,
        args.start ≤ pos ∧ pos < args.stop) ∧
      ((args.visit signal left point state).2 = false →
        ∀ last ∈ (trail ++ (args.visit signal left point state).1.map Adaptive.pos).getLast?,
          args.stop ≤ last + args.maxStep) := by
  induction left generalizing point state trail with
  | zero =>
      unfold AdaptiveArgs.visit
      rw [upward, mul_one, mul_one]
      split
      · simpa using ⟨held.spaced, held.within⟩
      · rename_i past
        refine ⟨by simpa using held.spaced, by simpa using held.within, fun _ last ending => ?_⟩
        exact (not_lt.mp past).trans (held.near last (by simpa using ending))
  | succ left ih =>
      unfold AdaptiveArgs.visit
      rw [upward, mul_one, mul_one]
      split
      · rename_i before
        have onward := ih (held.next smaller larger upward before (signal point)) (point + 1)
        simpa [List.append_assoc] using onward
      · rename_i past
        refine ⟨by simpa using held.spaced, by simpa using held.within, fun _ last ending => ?_⟩
        exact (not_lt.mp past).trans (held.near last (by simpa using ending))

/-! ## The mirror image -/

/-- The branch that steps back is taken at no point but the last. -/
def Quiet (args : AdaptiveArgs K) (signal : Nat → Option K) (point : Nat)
    (visited : List (Adaptive K)) : Prop :=
  ∀ k state, visited[k]? = some state → args.backsteps state (signal (point + k)) →
    k + 1 = visited.length

omit [IsStrictOrderedRing K] in
theorem quiet_cons {signal : Nat → Option K} {point : Nat} {state : Adaptive K}
    {rest : List (Adaptive K)} :
    Quiet args signal point (state :: rest) ↔
      (args.backsteps state (signal point) → rest = []) ∧ Quiet args signal (point + 1) rest := by
  constructor
  · intro quiet
    refine ⟨fun backs => ?_, fun k later at' backs => ?_⟩
    · have last := quiet 0 state rfl backs
      rw [List.length_cons] at last
      exact List.length_eq_zero_iff.mp (by omega)
    · have last := quiet (k + 1) later at' (by rwa [show point + (k + 1) = point + 1 + k by omega])
      rw [List.length_cons] at last
      omega
  · rintro ⟨first, others⟩ k later at' backs
    cases k with
    | zero =>
        obtain rfl : state = later := Option.some.inj at'
        rw [first backs]
        rfl
    | succ k =>
        have last := others k later at' (by rwa [show point + 1 + k = point + (k + 1) by omega])
        rw [List.length_cons, last]

end AdaptiveArgs

/-- The variables with the position mirrored. -/
def Adaptive.flip (state : Adaptive K) : Adaptive K :=
  { state with pos := -state.pos }

namespace AdaptiveArgs

variable {args : AdaptiveArgs K} [IsStrictOrderedRing K]

theorem mirror_direction (ordered : args.start < args.stop) :
    args.direction = 1 ∧ args.mirror.direction = -1 := by
  have back : ¬ -args.start ≤ -args.stop := not_le.mpr (neg_lt_neg ordered)
  exact ⟨if_pos ordered.le, if_neg back⟩

omit [LinearOrder K] [IsStrictOrderedRing K] in
theorem mirror_mirror (args : AdaptiveArgs K) : args.mirror.mirror = args := by
  simp [mirror]

omit [IsStrictOrderedRing K] in
/-- Where it steps back. -/
theorem next_of_backsteps (args : AdaptiveArgs K) {pos step p n : K}
    (shrinks : args.backstep = true ∧ args.newStep step p n < step * args.threshold) :
    args.next ⟨pos, some p, step⟩ (some n) =
      ⟨pos - step + args.newStep step p n * args.direction, some p, args.newStep step p n⟩ :=
  if_pos shrinks

omit [IsStrictOrderedRing K] in
/-- Where it advances. -/
theorem next_of_steady (args : AdaptiveArgs K) {pos step p n : K}
    (steady : ¬ (args.backstep = true ∧ args.newStep step p n < step * args.threshold)) :
    args.next ⟨pos, some p, step⟩ (some n) =
      ⟨pos + (2 / 10 * args.newStep step p n + 8 / 10 * step) * args.direction, some n,
        2 / 10 * args.newStep step p n + 8 / 10 * step⟩ :=
  if_neg steady

/-- Where it does not step back, an iteration of the mirrored scan mirrors this one's. -/
theorem next_mirror {state : Adaptive K} {curI : Option K} (ordered : args.start < args.stop)
    (steady : ¬ args.backsteps state curI) :
    args.mirror.next state.flip curI = (args.next state curI).flip := by
  obtain ⟨up, down⟩ := mirror_direction ordered
  obtain ⟨pos, pastI, step⟩ := state
  cases pastI with
  | none =>
      simp only [next, up, down, Adaptive.flip, Adaptive.mk.injEq, and_self, and_true]
      ring
  | some p =>
      cases curI with
      | none =>
          simp only [next, up, down, Adaptive.flip, Adaptive.mk.injEq, and_self, and_true]
          ring
      | some n =>
          have kept : ¬ (args.backstep = true ∧ args.newStep step p n < step * args.threshold) := by
            simpa [backsteps] using steady
          have same : args.mirror.newStep step p n = args.newStep step p n := rfl
          rw [next_of_steady args kept, Adaptive.flip, next_of_steady args.mirror kept, up, down,
            same]
          simp only [Adaptive.flip, Adaptive.mk.injEq, and_self, and_true]
          ring

/-- Where it steps back, the mirrored scan goes on instead. -/
theorem next_back {state : Adaptive K} {curI : Option K} (ordered : args.start < args.stop)
    (positive : 0 < state.step) (backs : args.backsteps state curI) :
    (args.next state curI).pos < -(args.mirror.next state.flip curI).pos := by
  obtain ⟨up, down⟩ := mirror_direction ordered
  obtain ⟨pos, pastI, step⟩ := state
  obtain ⟨allowed, p, past, n, now, shrinks⟩ := backs
  obtain rfl : pastI = some p := past
  obtain rfl : curI = some n := now
  have taken : args.backstep = true ∧ args.newStep step p n < step * args.threshold :=
    ⟨allowed, shrinks⟩
  have same : args.mirror.newStep step p n = args.newStep step p n := rfl
  rw [next_of_backsteps args taken, Adaptive.flip, next_of_backsteps args.mirror taken, up, down,
    same]
  dsimp only at positive ⊢
  linarith

omit [IsStrictOrderedRing K] in
theorem visit_past {signal : Nat → Option K} {left point : Nat} {state : Adaptive K}
    (past : ¬ state.pos * args.direction < args.stop * args.direction) :
    args.visit signal left point state = ([], false) := by
  unfold visit
  exact if_neg past

omit [IsStrictOrderedRing K] in
theorem visit_out {signal : Nat → Option K} {point : Nat} {state : Adaptive K}
    (before : state.pos * args.direction < args.stop * args.direction) :
    args.visit signal 0 point state = ([], true) := by
  unfold visit
  exact if_pos before

omit [IsStrictOrderedRing K] in
theorem visit_before {signal : Nat → Option K} {left point : Nat} {state : Adaptive K}
    (before : state.pos * args.direction < args.stop * args.direction) :
    args.visit signal (left + 1) point state =
      (state :: (args.visit signal left (point + 1) (args.next state (signal point))).1,
        (args.visit signal left (point + 1) (args.next state (signal point))).2) := by
  rw [visit, if_pos before]

omit [IsStrictOrderedRing K] in
/-- When the loop visits nothing. -/
theorem visit_nil {signal : Nat → Option K} {left point : Nat} {state : Adaptive K} :
    (args.visit signal left point state).1 = [] ↔
      left = 0 ∨ ¬ state.pos * args.direction < args.stop * args.direction := by
  by_cases before : state.pos * args.direction < args.stop * args.direction
  · cases left with
    | zero => simp [visit_out before]
    | succ left => simp [visit_before before, before]
  · simp [visit_past before, not_lt.mp before]

omit [IsStrictOrderedRing K] in
/-- It is the cap that ends the loop where the position after the last point is short of the stop. -/
theorem visit_capped {signal : Nat → Option K} {left point k : Nat} {state last : Adaptive K}
    (at' : (args.visit signal left point state).1[k]? = some last)
    (ending : k + 1 = (args.visit signal left point state).1.length) :
    (args.visit signal left point state).2 = true ↔
      (args.next last (signal (point + k))).pos * args.direction < args.stop * args.direction := by
  induction left generalizing point state k with
  | zero =>
      rw [visit_nil.mpr (.inl rfl)] at at'
      cases at'
  | succ left ih =>
      by_cases before : state.pos * args.direction < args.stop * args.direction
      · rw [visit_before before] at at' ending ⊢
        cases k with
        | zero =>
            obtain rfl : state = last := Option.some.inj at'
            have none := List.length_eq_zero_iff.mp (Nat.succ.inj ending).symm
            by_cases short : (args.next state (signal point)).pos * args.direction <
                args.stop * args.direction
            · obtain rfl := (visit_nil.mp none).resolve_right (not_not.mpr short)
              simp [visit_out short, short]
            · simp [visit_past short, short]
        | succ k =>
            rw [List.getElem?_cons_succ] at at'
            have onward := ih at' (Nat.succ.inj ending)
            rwa [show point + 1 + k = point + (k + 1) by omega] at onward
      · rw [visit_past before] at at'
        cases at'

theorem stop_mirror (ordered : args.start < args.stop) (seen : Adaptive K) :
    seen.flip.pos * args.mirror.direction < args.mirror.stop * args.mirror.direction ↔
      seen.pos * args.direction < args.stop * args.direction := by
  obtain ⟨up, down⟩ := mirror_direction ordered
  rw [up, down]
  simp [Adaptive.flip, mirror]

/-- The two scans mirror one another where the upward one steps back at no point but its last. -/
theorem visit_mirror {signal : Nat → Option K} {left point : Nat} {state : Adaptive K}
    (ordered : args.start < args.stop) (smaller : 0 < args.minStep)
    (larger : args.minStep < args.maxStep) (step : StepWithin args state)
    (quiet : Quiet args signal point (args.visit signal left point state).1) :
    (args.mirror.visit signal left point state.flip).1 =
      (args.visit signal left point state).1.map Adaptive.flip := by
  obtain ⟨up, down⟩ := mirror_direction ordered
  induction left generalizing point state with
  | zero => rw [visit_nil.mpr (.inl rfl), visit_nil.mpr (.inl rfl)]; rfl
  | succ left ih =>
      by_cases before : state.pos * args.direction < args.stop * args.direction
      · rw [visit_before before] at quiet ⊢
        rw [visit_before ((stop_mirror ordered state).mpr before), List.map_cons]
        obtain ⟨last, others⟩ := quiet_cons.mp quiet
        dsimp only
        congr 1
        by_cases backs : args.backsteps state (signal point)
        · -- the upward scan ends here, and the mirrored one is further still
          rw [last backs]
          refine visit_nil.mpr ((visit_nil.mp (last backs)).imp_right fun past => ?_)
          have further := next_back ordered step.1 backs
          rw [up, mul_one, mul_one, not_lt] at past
          rw [down, mul_neg_one, mul_neg_one, mirror, neg_neg, not_lt]
          exact (past.trans_lt further).le
        · rw [next_mirror ordered backs]
          exact ih (step.next smaller larger _) others
      · rw [visit_past before, visit_past ((stop_mirror ordered state).not.mpr before)]
        rfl

/-- And only there. -/
theorem quiet_of_mirrored {signal : Nat → Option K} {left point : Nat} {state : Adaptive K}
    (ordered : args.start < args.stop) (smaller : 0 < args.minStep)
    (larger : args.minStep < args.maxStep) (step : StepWithin args state)
    (mirrored : (args.mirror.visit signal left point state.flip).1.map Adaptive.pos =
      ((args.visit signal left point state).1.map Adaptive.pos).map (- ·)) :
    Quiet args signal point (args.visit signal left point state).1 := by
  have empty (point : Nat) : Quiet args signal point [] := by
    intro k seen at'
    cases at'
  induction left generalizing point state with
  | zero => rw [visit_nil.mpr (.inl rfl)]; exact empty point
  | succ left ih =>
      by_cases before : state.pos * args.direction < args.stop * args.direction
      · rw [visit_before before, visit_before ((stop_mirror ordered state).mpr before)] at mirrored
        rw [visit_before before, quiet_cons]
        obtain ⟨-, onward⟩ := List.cons.inj mirrored
        by_cases backs : args.backsteps state (signal point)
        · -- a point after the step back is not where the mirrored scan has one
          have last : (args.visit signal left (point + 1) (args.next state (signal point))).1 = [] := by
            by_contra more
            have there : (args.mirror.visit signal left (point + 1)
                (args.mirror.next state.flip (signal point))).1 ≠ [] := fun none => more
              (List.map_eq_nil_iff.mp (List.map_eq_nil_iff.mp (onward.symm.trans (by rw [none]; rfl))))
            obtain ⟨some, short⟩ := not_or.mp (visit_nil.not.mp more)
            obtain ⟨-, further⟩ := not_or.mp (visit_nil.not.mp there)
            obtain ⟨left, rfl⟩ := Nat.exists_eq_succ_of_ne_zero some
            rw [visit_before (not_not.mp short), visit_before (not_not.mp further)] at onward
            have same := (List.cons.inj onward).1
            have apart := next_back ordered step.1 backs
            rw [same, neg_neg] at apart
            exact lt_irrefl _ apart
          rw [last]
          exact ⟨fun _ => rfl, empty _⟩
        · rw [next_mirror ordered backs] at onward
          exact ⟨fun taken => absurd taken backs, ih (step.next smaller larger _) onward⟩
      · rw [visit_past before]
        exact empty point

/-! ## The whole scan -/

variable {answers : Nat → Obj → Option K}

theorem initial_within (smaller : 0 < args.minStep) (larger : args.minStep < args.maxStep) :
    StepWithin args args.initial :=
  (Trail.initial smaller larger).step

/-- Whatever the direction is, the step stays positive. -/
theorem visited_divides (smaller : 0 < args.minStep) (larger : args.minStep < args.maxStep) :
    ∀ state ∈ (args.visited answers).1, state.step ≠ 0 := by
  intro state member
  have held := visit_invariant (StepWithin args)
    (fun _ curI _ step => step.next smaller larger curI) _ _ _ (initial_within smaller larger)
    state member
  exact held.2.1.ne'

omit [IsStrictOrderedRing K] in
theorem scan_commanded (args : AdaptiveArgs K) (smaller : 0 < args.minStep)
    (larger : args.minStep < args.maxStep) (display : K → String) :
    commanded (args.adaptiveScan answers display) = args.positions answers := by
  rw [adaptiveScan, if_neg (not_not.mpr ⟨smaller, larger⟩), commanded_append, commanded_append,
    commanded_points, positions]
  exact List.append_nil _

omit [IsStrictOrderedRing K] in
theorem scan_ends (smaller : 0 < args.minStep) (larger : args.minStep < args.maxStep)
    (display : K → String) :
    (args.adaptiveScan answers display).getLast? = some (.closeRun "success") := by
  rw [adaptiveScan, if_neg (not_not.mpr ⟨smaller, larger⟩), List.getLast?_concat]

/-- An upward scan, whatever the readings are. -/
theorem visited_upward (args : AdaptiveArgs K) (answers : Nat → Obj → Option K)
    (smaller : 0 < args.minStep) (larger : args.minStep < args.maxStep) (upward : args.direction = 1) :
    Spaced args.maxStep (args.positions answers) ∧
      (∀ pos ∈ args.positions answers, args.start ≤ pos ∧ pos < args.stop) ∧
      ((args.visited answers).2 = false → ∀ last ∈ (args.positions answers).getLast?,
        args.stop ≤ last + args.maxStep) := by
  simpa [positions, visited] using (Trail.initial smaller larger).visit smaller larger upward
    (sampled args.detectors answers) maxIters 0

omit [IsStrictOrderedRing K] in
theorem positions_at {k : Nat} {state : Adaptive K}
    (at' : (args.visited answers).1[k]? = some state)
    (ending : k + 1 = (args.visited answers).1.length) :
    (args.positions answers).getLast? = some state.pos := by
  rw [List.getLast?_eq_getElem?, positions, List.length_map, ← ending, Nat.add_sub_cancel,
    List.getElem?_map, at']
  rfl

/-- The mirrored scan of an upward one that does not step back. -/
theorem visited_mirror (ordered : args.start < args.stop) (smaller : 0 < args.minStep)
    (larger : args.minStep < args.maxStep) :
    args.mirror.positions answers = (args.positions answers).map (- ·) ↔
      Quiet args (sampled args.detectors answers) 0 (args.visited answers).1 := by
  constructor
  · exact fun mirrored => quiet_of_mirrored ordered smaller larger
      (initial_within smaller larger) mirrored
  · intro quiet
    have same : (args.mirror.visited answers).1 = (args.visited answers).1.map Adaptive.flip :=
      visit_mirror ordered smaller larger (initial_within smaller larger) quiet
    rw [positions, positions, same, List.map_map, List.map_map]
    rfl

omit [IsStrictOrderedRing K] in
/-- Between equal ends nothing is visited. -/
theorem positions_of_eq (args : AdaptiveArgs K) (same : args.start = args.stop)
    (answers : Nat → Obj → Option K) :
    args.visited answers = ([], false) :=
  visit_past (by rw [initial, same]; exact lt_irrefl _)

/-- The scan upward covers its range, and is mirrored where it does not step back. -/
theorem covers_upward (ordered : args.start < args.stop) (smaller : 0 < args.minStep)
    (larger : args.minStep < args.maxStep) :
    args.Covers answers ↔
      Quiet args (sampled args.detectors answers) 0 (args.visited answers).1 := by
  refine ⟨fun covers => (visited_mirror ordered smaller larger).mp covers.mirrored, fun quiet => ?_⟩
  obtain ⟨spaced, within, near⟩ := visited_upward args answers smaller larger
    (mirror_direction ordered).1
  refine ⟨visited_divides smaller larger, scan_ends smaller larger, ?_, fun _ => spaced, ?_,
    (visited_mirror ordered smaller larger).mpr quiet⟩
  · rw [scan_commanded args smaller larger, min_eq_left ordered.le, max_eq_right ordered.le]
    exact fun pos member => ⟨(within pos member).1, (within pos member).2.le⟩
  · intro uncapped last ending
    have short := (within last (List.mem_of_getLast? ending)).2
    rw [abs_of_pos (sub_pos.mpr short), sub_le_iff_le_add']
    exact near uncapped last ending

/-- And so is the scan downward, where the end is in reach. -/
theorem covers_downward (args : AdaptiveArgs K) (answers : Nat → Obj → Option K)
    (ordered : args.start < args.stop) (smaller : 0 < args.minStep)
    (larger : args.minStep < args.maxStep) :
    args.mirror.Covers answers ↔
      Quiet args (sampled args.detectors answers) 0 (args.visited answers).1 ∧
        ((args.mirror.visited answers).2 = false →
          ∀ last ∈ (args.positions answers).getLast?, args.stop ≤ last + args.maxStep) := by
  have turned : args.mirror.mirror.positions answers = (args.mirror.positions answers).map (- ·) ↔
      args.mirror.positions answers = (args.positions answers).map (- ·) := by
    rw [mirror_mirror]
    constructor <;> intro same <;> rw [same, List.map_map] <;> simp
  obtain ⟨spaced, within, near⟩ := visited_upward args answers smaller larger
    (mirror_direction ordered).1
  have shape (quiet : Quiet args (sampled args.detectors answers) 0 (args.visited answers).1) :
      args.mirror.positions answers = (args.positions answers).map (- ·) :=
    (visited_mirror ordered smaller larger).mpr quiet
  have reach (quiet : Quiet args (sampled args.detectors answers) 0 (args.visited answers).1) :
      (∀ last ∈ (args.mirror.positions answers).getLast?,
          |args.mirror.stop - last| ≤ args.mirror.maxStep) ↔
        ∀ last ∈ (args.positions answers).getLast?, args.stop ≤ last + args.maxStep := by
    rw [shape quiet, List.getLast?_map]
    simp only [Option.mem_def, Option.map_eq_some_iff, forall_exists_index, and_imp,
      forall_apply_eq_imp_iff₂]
    refine forall₂_congr fun last ending => ?_
    have short := (within last (List.mem_of_getLast? ending)).2
    rw [mirror, ← neg_sub_neg, neg_neg, neg_neg, abs_sub_comm, abs_of_pos (sub_pos.mpr short),
      sub_le_iff_le_add']
  constructor
  · intro covers
    have quiet := (visited_mirror ordered smaller larger).mp (turned.mp covers.mirrored)
    exact ⟨quiet, fun uncapped => (reach quiet).mp (covers.reaches uncapped)⟩
  · rintro ⟨quiet, ending⟩
    refine ⟨visited_divides smaller larger, scan_ends smaller larger, ?_, fun _ => ?_,
      fun uncapped => (reach quiet).mpr (ending uncapped), turned.mpr (shape quiet)⟩
    · rw [scan_commanded args.mirror smaller larger, shape quiet, mirror]
      dsimp only
      rw [min_eq_right (neg_le_neg ordered.le), max_eq_left (neg_le_neg ordered.le)]
      intro pos member
      obtain ⟨seen, visited, rfl⟩ := List.mem_map.mp member
      exact ⟨neg_le_neg (within seen visited).2.le, neg_le_neg (within seen visited).1⟩
    · rw [shape quiet]
      exact spaced.neg

/-- The cap on the mirrored scan, at its last point. -/
theorem mirror_capped {k : Nat} {state : Adaptive K} (ordered : args.start < args.stop)
    (smaller : 0 < args.minStep) (larger : args.minStep < args.maxStep)
    (quiet : Quiet args (sampled args.detectors answers) 0 (args.visited answers).1)
    (at' : (args.visited answers).1[k]? = some state)
    (ending : k + 1 = (args.visited answers).1.length) :
    (args.mirror.visited answers).2 = true ↔
      (args.mirror.next state.flip (sampled args.detectors answers k)).pos * -1 < args.stop := by
  have same : (args.mirror.visited answers).1 = (args.visited answers).1.map Adaptive.flip :=
    visit_mirror ordered smaller larger (initial_within smaller larger) quiet
  have there : (args.mirror.visited answers).1[k]? = some state.flip := by
    rw [same, List.getElem?_map, at']
    rfl
  have capped := visit_capped there (by rw [← visited, same, List.length_map, ending])
  rw [Nat.zero_add, (mirror_direction ordered).2, mul_neg_one args.mirror.stop, mirror, neg_neg]
    at capped
  exact capped

/-- An adaptive scan covers its range exactly where it does not step back before its end. -/
theorem adaptive_scan_covers (args : AdaptiveArgs K) (answers : Nat → Obj → Option K)
    (smaller : 0 < args.minStep) (larger : args.minStep < args.maxStep) :
    args.Covers answers ↔ args.Steady answers := by
  rcases lt_trichotomy args.start args.stop with ordered | same | ordered
  · have up : args.upward = args := if_pos ordered.le
    rw [covers_upward ordered smaller larger, Steady, up]
    refine ⟨fun quiet k state at' backs => ?_, fun steady k state at' backs => ?_⟩
    · rw [← Nat.zero_add k] at backs
      exact ⟨quiet k state at' backs, fun downward => absurd downward ordered.not_gt⟩
    · rw [Nat.zero_add] at backs
      exact (steady k state at' backs).1
  · have up : args.upward = args := if_pos same.le
    have here := positions_of_eq args same answers
    have there := positions_of_eq args.mirror (congrArg (- ·) same) answers
    constructor
    · intro _ k state at'
      rw [up, here] at at'
      cases at'
    · intro _
      refine ⟨visited_divides smaller larger, scan_ends smaller larger, ?_, fun _ => ?_, ?_, ?_⟩
      · rw [scan_commanded args smaller larger, positions, here]
        simp
      · rw [positions, here]
        intro a inA
        cases inA
      · rw [positions, here]
        simp
      · rw [positions, positions, here, there]
        rfl
  · have up : args.upward = args.mirror := if_neg ordered.not_ge
    have turned : args.mirror.start < args.mirror.stop := neg_lt_neg ordered
    have down := covers_downward args.mirror answers turned smaller larger
    rw [mirror_mirror] at down
    rw [down, Steady, up]
    constructor
    · rintro ⟨quiet, reach⟩ k state at' backs
      have last := quiet k state at' (by rwa [Nat.zero_add])
      refine ⟨last, fun _ _ past => ?_⟩
      have capped := mirror_capped turned smaller larger quiet at' last
      rw [mirror_mirror] at capped
      have uncapped := Bool.eq_false_iff.mpr (capped.not.mpr past.not_gt)
      exact sub_le_iff_le_add'.mpr (reach uncapped _ (positions_at at' last))
    · intro steady
      have quiet : Quiet args.mirror (sampled args.mirror.detectors answers) 0
          (args.mirror.visited answers).1 := by
        intro k state at' backs
        rw [Nat.zero_add] at backs
        exact (steady k state at' backs).1
      refine ⟨quiet, fun uncapped last ending => ?_⟩
      cases upCapped : (args.mirror.visited answers).2 with
      | false =>
          exact (visited_upward args.mirror answers smaller larger
            (mirror_direction turned).1).2.2 upCapped last ending
      | true =>
          -- the cap ends one of the two scans only, so its last point is where they part
          have visits : 0 < (args.mirror.visited answers).1.length := by
            have nonempty := List.length_pos_of_mem (List.mem_of_getLast? ending)
            rwa [positions, List.length_map] at nonempty
          obtain ⟨k, count⟩ := Nat.exists_eq_succ_of_ne_zero visits.ne'
          have at' := List.getElem?_eq_getElem (show k < (args.mirror.visited answers).1.length by
            omega)
          generalize (args.mirror.visited answers).1[k] = state at at'
          have capped := mirror_capped turned smaller larger quiet at' count.symm
          rw [mirror_mirror] at capped
          have short := (visit_capped at' (by rw [← visited]; exact count.symm)).mp upCapped
          rw [(mirror_direction turned).1, mul_one, mul_one, Nat.zero_add] at short
          have past := not_lt.mp (capped.not.mp (Bool.eq_false_iff.mp uncapped))
          obtain rfl : last = state.pos :=
            Option.some.inj (ending.symm.trans (positions_at at' count.symm))
          by_cases backs : args.mirror.backsteps state (sampled args.mirror.detectors answers k)
          · exact sub_le_iff_le_add'.mp ((steady k state at' backs).2 ordered short past)
          · have same := next_mirror turned backs
            rw [mirror_mirror] at same
            rw [same, Adaptive.flip, mul_neg_one, neg_neg] at past
            exact absurd short past.not_gt

/-- A downward scan whose signal jumps at its third point. -/
def overshooting : AdaptiveArgs ℚ :=
  let detector : Obj := ⟨0, "det", none, false, false, false⟩
  let motor : Obj := ⟨1, "motor", none, false, false, false⟩
  { detectors := [detector], signalField := "det", motor, motorReader := motor, start := 10,
    stop := 5, minStep := 1 / 10, maxStep := 2, targetDelta := 11 / 10, backstep := true,
    threshold := 1 }

def jumping : Nat → Obj → Option ℚ :=
  fun point _ => [0, 19 / 200, 251 / 200][point]?

theorem adaptive_scan_covers_quietly :
    { overshooting with backstep := false }.Covers jumping :=
  (adaptive_scan_covers { overshooting with backstep := false } jumping
    (by norm_num [overshooting]) (by norm_num [overshooting])).mpr
    fun _ _ _ backs => Bool.noConfusion backs.1

/-- Stepping back goes forward there, and leaves a gap wider than the largest step. -/
theorem adaptive_scan_skips : ¬ overshooting.Covers jumping := by
  have at' : overshooting.positions jumping = [10, 181 / 20, 789 / 100, 563 / 100] := by
    decide +kernel
  have uncapped : (overshooting.visited jumping).2 = false := by decide +kernel
  intro covers
  have gap := covers.spaced uncapped (563 / 100) (by rw [at']; simp) (789 / 100)
    (by rw [at']; simp) (by norm_num) (by rw [at']; norm_num)
  norm_num [overshooting] at gap

end AdaptiveArgs

end Bsrs.Plans
