import Bsrs.Core.Msg
import Mathlib.Algebra.Order.Field.Basic
import Mathlib.Algebra.Order.Group.Abs
import Mathlib.Data.Finset.Max
import Mathlib.Tactic.Linarith
import Mathlib.Tactic.Ring

namespace Bsrs.Plans

open Bsrs.Core (Obj GroupId)

/-- An entry of the `plan_args` of a run's metadata. -/
inductive PlanArg (K : Type) where
  | text (value : String)
  | texts (values : List String)
  | position (value : K)
  | positions (values : List K)
  | count (value : Nat)
  | flag (value : Bool)
  deriving Repr, DecidableEq

/-- The messages a step scan is made of, with positions in exact arithmetic. -/
inductive ScanMsg (K : Type) where
  | openRun (planName : String) (planArgs : List (String × PlanArg K))
  | checkpoint
  | set (obj : Obj) (value : K) (group : Option GroupId)
  | wait (group : GroupId)
  | create (streamName : String)
  | read (obj : Obj)
  | save
  | closeRun (exitStatus : String)
  | fail (reason : String)
  deriving Repr, DecidableEq

variable {K : Type}

/-- The position a message commands. -/
def ScanMsg.commanded : ScanMsg K → Option K
  | .set _ value _ => some value
  | _ => none

/-- The positions a plan commands, in their order. -/
def commanded (msgs : List (ScanMsg K)) : List K :=
  msgs.filterMap ScanMsg.commanded

/-- One point of a feedback scan: move, wait, and read into `primary`. -/
def feedbackPoint (detectors : List Obj) (motor motorReader : Obj) (position : K) :
    List (ScanMsg K) :=
  [.checkpoint, .set motor position (some "set"), .wait "set", .create "primary",
    .read motorReader] ++ detectors.map .read ++ [.save]

/-- The signal at a point: from the first detector whose reading carries it. -/
def sampled (detectors : List Obj) (answers : Nat → Obj → Option K) (point : Nat) : Option K :=
  detectors.findSome? (answers point)

@[simp] theorem commanded_append (before after : List (ScanMsg K)) :
    commanded (before ++ after) = commanded before ++ commanded after := by
  simp [commanded]

@[simp] theorem commanded_feedbackPoint (detectors : List Obj) (motor motorReader : Obj)
    (position : K) :
    commanded (feedbackPoint detectors motor motorReader position) = [position] := by
  have reads : (detectors.map ScanMsg.read).filterMap (ScanMsg.commanded (K := K)) = [] := by
    induction detectors with
    | nil => rfl
    | cons detector rest ih => exact ih
  simp [commanded, feedbackPoint, List.filterMap_cons, ScanMsg.commanded, reads]

/-- A scan commands the positions of its points. -/
theorem commanded_points {γ : Type} (detectors : List Obj) (motor motorReader : Obj)
    (place : γ → K) (visited : List γ) :
    commanded (visited.flatMap fun point =>
      feedbackPoint detectors motor motorReader (place point)) = visited.map place := by
  induction visited with
  | nil => rfl
  | cons point rest ih => rw [List.flatMap_cons, commanded_append, commanded_feedbackPoint, ih]; rfl

/-- No two neighbouring positions lie further apart than `most`. -/
def Spaced [LinearOrder K] [Sub K] (most : K) (positions : List K) : Prop :=
  ∀ a ∈ positions, ∀ b ∈ positions, a < b → (∀ c ∈ positions, ¬ (a < c ∧ c < b)) → b - a ≤ most

/-- One more position, past one that is there and near it. -/
theorem Spaced.concat [Field K] [LinearOrder K] [IsStrictOrderedRing K] {most base position : K}
    {positions : List K} (spaced : Spaced most positions) (held : base ∈ positions)
    (past : base < position) (near : position ≤ base + most) :
    Spaced most (positions ++ [position]) := by
  intro a inA b inB less between
  have among : ∀ c ∈ positions, ¬ (a < c ∧ c < b) := fun c member =>
    between c (List.mem_append_left _ member)
  rcases List.mem_append.mp inA with oldA | newA
  · rcases List.mem_append.mp inB with oldB | newB
    · exact spaced a oldA b oldB less among
    · obtain rfl := List.mem_singleton.mp newB
      have low : base ≤ a := not_lt.mp fun below => among base held ⟨below, past⟩
      linarith
  · obtain rfl := List.mem_singleton.mp newA
    rcases List.mem_append.mp inB with oldB | newB
    · -- the greatest position below `b` is its neighbour among the old ones
      let below := positions.toFinset.filter (· < b)
      have some : below.Nonempty := ⟨base, by simp [below, held, past.trans less]⟩
      obtain ⟨member, under⟩ := Finset.mem_filter.mp (below.max'_mem some)
      have gap := spaced _ (List.mem_toFinset.mp member) b oldB under fun c inC strictly =>
        strictly.1.not_ge (below.le_max' c (by simp [below, inC, strictly.2]))
      have upTo : below.max' some ≤ a := not_lt.mp fun above =>
        among _ (List.mem_toFinset.mp member) ⟨above, under⟩
      linarith
    · obtain rfl := List.mem_singleton.mp newB
      exact absurd less (lt_irrefl _)

theorem Spaced.single [LinearOrder K] [Sub K] {most : K} (position : K) :
    Spaced most [position] := by
  intro a inA b inB less
  rw [List.mem_singleton.mp inA, List.mem_singleton.mp inB] at less
  exact absurd less (lt_irrefl _)

/-- The mirror image has the same gaps. -/
theorem Spaced.neg [Field K] [LinearOrder K] [IsStrictOrderedRing K] {most : K}
    {positions : List K} (spaced : Spaced most positions) :
    Spaced most (positions.map (- ·)) := by
  intro a inA b inB less between
  obtain ⟨x, inX, rfl⟩ := List.mem_map.mp inA
  obtain ⟨y, inY, rfl⟩ := List.mem_map.mp inB
  have gap := spaced y inY x inX (neg_lt_neg_iff.mp less) fun c inC strictly =>
    between (-c) (List.mem_map.mpr ⟨c, inC, rfl⟩)
      ⟨neg_lt_neg strictly.2, neg_lt_neg strictly.1⟩
  linarith

end Bsrs.Plans
