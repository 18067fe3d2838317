import Mathlib.Algebra.Order.Field.Basic
import Mathlib.Algebra.Order.Ring.Int
import Mathlib.Data.List.Nodup
import Mathlib.Data.List.ProdSigma
import Mathlib.Tactic.FieldSimp
import Mathlib.Tactic.Linarith
import Mathlib.Tactic.Ring

namespace Bsrs.Plans

variable {K : Type} [Field K] [LinearOrder K] [IsStrictOrderedRing K]

/-- The rows of a side walked towards the negative end, `(-i_ring + 1..=i_ring - 2).rev()`. -/
def down (iRing : Int) : List Int :=
  (List.range (2 * iRing - 2).toNat).map fun n : Nat => iRing - 2 - n

/-- The rows of a side walked towards the positive end, `-i_ring + 2..i_ring`. -/
def up (iRing : Int) : List Int :=
  (List.range (2 * iRing - 2).toNat).map fun n : Nat => -iRing + 2 + n

/-- The distance of two neighbours on an axis. -/
def gridStep (range : K) (num : Nat) : K :=
  if 1 < num then range / ((num : K) - 1) else 0

/-- What `spiral_square_pattern` computes before its loop. -/
structure SquareSpiral (K : Type) where
  xCenter : K
  yCenter : K
  xDelta : K
  yDelta : K
  xOffset : K
  yOffset : K
  xHalf : K
  yHalf : K

namespace SquareSpiral

variable (spiral : SquareSpiral K)

local instance two_atLeastTwo : Nat.AtLeastTwo 2 :=
  inferInstance

def of (xCenter yCenter xRange yRange : K) (xNum yNum : Nat) : SquareSpiral K where
  xCenter := xCenter
  yCenter := yCenter
  xDelta := gridStep xRange xNum
  yDelta := gridStep yRange yNum
  xOffset := if xNum % 2 = 0 then 1 / 2 else 0
  yOffset := if yNum % 2 = 0 then -(1 / 2) else 0
  xHalf := xNum / 2
  yHalf := yNum / 2

def xAt (n : Int) : K :=
  spiral.xCenter - spiral.xDelta * spiral.xOffset + spiral.xDelta * n

def yAt (n : Int) : K :=
  spiral.yCenter - spiral.yDelta * spiral.yOffset + spiral.yDelta * n

/-- One side of a ring: its clip test, the clip test of its cells, and the cap of both. -/
def side (total : Nat) (reached : Bool) (keep : Int → Bool) (point : Int → K × K)
    (rows : List Int) (out : List (K × K)) : List (K × K) :=
  if reached && decide (out.length < total) then
    rows.foldl (fun out n =>
      if keep n && decide (out.length < total) then out ++ [point n] else out) out
  else out

/-- The right, the bottom, the left and the top side of a ring. -/
def ring (total : Nat) (out : List (K × K)) (iRing : Int) : List (K × K) :=
  let edge := iRing - 1
  let out := side total (|(edge : K) - spiral.xOffset| ≤ spiral.xHalf)
    (fun n => |(n : K) - spiral.yOffset| < spiral.yHalf)
    (fun n => (spiral.xAt edge, spiral.yAt n)) (down iRing) out
  let out := side total (|((-edge : Int) : K) - spiral.yOffset| < spiral.yHalf)
    (fun n => |(n : K) - spiral.xOffset| < spiral.xHalf)
    (fun n => (spiral.xAt n, spiral.yAt (-edge))) (down iRing) out
  let out := side total (|((-edge : Int) : K) - spiral.xOffset| < spiral.xHalf)
    (fun n => |(n : K) - spiral.yOffset| < spiral.yHalf)
    (fun n => (spiral.xAt (-edge), spiral.yAt n)) (up iRing) out
  side total (|(edge : K) - spiral.yOffset| < spiral.yHalf)
    (fun n => |(n : K) - spiral.xOffset| < spiral.xHalf)
    (fun n => (spiral.xAt n, spiral.yAt edge)) (up iRing) out

end SquareSpiral

/-- The rings `2..=num_ring`. -/
def rings (numRing : Nat) : List Int :=
  (List.range (numRing - 1)).map fun n : Nat => (n : Int) + 2

/-- `spiral_square_pattern` with the cap on its output length left to the caller. -/
def spiralSquareCapped (total : Nat) (xCenter yCenter xRange yRange : K) (xNum yNum : Nat) :
    List (K × K) :=
  if xNum = 0 ∨ yNum = 0 then []
  else
    let spiral := SquareSpiral.of xCenter yCenter xRange yRange xNum yNum
    (rings (max xNum yNum)).foldl (spiral.ring total)
      [(xCenter - spiral.xDelta * spiral.xOffset, yCenter - spiral.yDelta * spiral.yOffset)]

def spiralSquarePattern (xCenter yCenter xRange yRange : K) (xNum yNum : Nat) : List (K × K) :=
  spiralSquareCapped (xNum * yNum) xCenter yCenter xRange yRange xNum yNum

/-! ## The cells of the walk -/

/-- The cells of a ring, sides clipped by nothing. -/
def ringCells (iRing : Int) : List (Int × Int) :=
  (down iRing).map (fun n => (iRing - 1, n)) ++ (down iRing).map (fun n => (n, -(iRing - 1))) ++
    (up iRing).map (fun n => (-(iRing - 1), n)) ++ (up iRing).map fun n => (n, iRing - 1)

theorem mem_down {iRing n : Int} : n ∈ down iRing ↔ -iRing + 1 ≤ n ∧ n ≤ iRing - 2 := by
  simp only [down, List.mem_map, List.mem_range]
  constructor
  · rintro ⟨row, bound, rfl⟩
    omega
  · intro bounds
    exact ⟨(iRing - 2 - n).toNat, by omega, by omega⟩

theorem mem_up {iRing n : Int} : n ∈ up iRing ↔ -iRing + 2 ≤ n ∧ n < iRing := by
  simp only [up, List.mem_map, List.mem_range]
  constructor
  · rintro ⟨row, bound, rfl⟩
    omega
  · intro bounds
    exact ⟨(n + iRing - 2).toNat, by omega, by omega⟩

theorem down_nodup (iRing : Int) : (down iRing).Nodup :=
  List.nodup_range.map fun n m same => by simpa using same

theorem up_nodup (iRing : Int) : (up iRing).Nodup :=
  List.nodup_range.map fun n m same => by simpa using same

/-- A ring is the cells at its distance from the centre. -/
theorem mem_ringCells {iRing : Int} (positive : 2 ≤ iRing) {cell : Int × Int} :
    cell ∈ ringCells iRing ↔ (max cell.1.natAbs cell.2.natAbs : Nat) = iRing - 1 := by
  obtain ⟨x, y⟩ := cell
  simp only [ringCells, List.mem_append, List.mem_map, mem_down, mem_up, Prod.mk.injEq]
  constructor
  · rintro (((⟨n, bounds, rfl, rfl⟩ | ⟨n, bounds, rfl, rfl⟩) | ⟨n, bounds, rfl, rfl⟩) |
      ⟨n, bounds, rfl, rfl⟩) <;>
      omega
  · intro distance
    by_cases right : x = iRing - 1 ∧ y ≤ iRing - 2
    · exact .inl (.inl (.inl ⟨y, by omega, right.1.symm, rfl⟩))
    by_cases bottom : y = -(iRing - 1)
    · exact .inl (.inl (.inr ⟨x, by omega, rfl, bottom.symm⟩))
    by_cases left : x = -(iRing - 1)
    · exact .inl (.inr ⟨y, by omega, left.symm, rfl⟩)
    · exact .inr ⟨x, by omega, rfl, by omega⟩

theorem ringCells_nodup {iRing : Int} (positive : 2 ≤ iRing) : (ringCells iRing).Nodup := by
  have row : ∀ {ns : List Int} (x : Int), ns.Nodup → (ns.map fun n => (x, n)).Nodup :=
    fun x distinct => distinct.map fun n m same => (Prod.mk.inj same).2
  have column : ∀ {ns : List Int} (y : Int), ns.Nodup → (ns.map fun n => (n, y)).Nodup :=
    fun y distinct => distinct.map fun n m same => (Prod.mk.inj same).1
  refine ((((row _ (down_nodup iRing)).append (column _ (down_nodup iRing)) ?_).append
    (row _ (up_nodup iRing)) ?_).append (column _ (up_nodup iRing)) ?_)
  all_goals
    intro cell earlier later
    obtain ⟨x, y⟩ := cell
    simp only [List.mem_append, List.mem_map, mem_down, mem_up, Prod.mk.injEq] at earlier later
    grind

/-! ## The cap -/

section Cap

variable {total : Nat} {inside : Int × Int → Bool}

omit [Field K] [LinearOrder K] [IsStrictOrderedRing K] in
theorem push_capped (place : Int × Int → K × K) (walked : List (Int × Int)) (cell : Int × Int) :
    (if inside cell && decide (((walked.take total).map place).length < total)
      then (walked.take total).map place ++ [place cell] else (walked.take total).map place) =
      ((walked ++ [cell].filter inside).take total).map place := by
  cases kept : inside cell
  · simp [kept]
  · by_cases room : walked.length < total
    · have whole : total - walked.length = total - walked.length - 1 + 1 := by omega
      rw [List.filter_cons_of_pos kept, List.filter_nil, List.take_append,
        List.take_of_length_le (Nat.le_of_lt room), whole]
      simp [room]
    · have full : total ≤ walked.length := Nat.le_of_not_lt room
      rw [List.take_append_of_le_length full]
      simp [room]

omit [Field K] [LinearOrder K] [IsStrictOrderedRing K] in
theorem foldl_capped (place : Int × Int → K × K) {keep : Int → Bool} (cell : Int → Int × Int)
    (agrees : ∀ n, inside (cell n) = keep n) (rows : List Int) (walked : List (Int × Int)) :
    rows.foldl (fun out n =>
        if keep n && decide (out.length < total) then out ++ [place (cell n)] else out)
        ((walked.take total).map place) =
      ((walked ++ (rows.map cell).filter inside).take total).map place := by
  induction rows generalizing walked with
  | nil => simp
  | cons n rows ih =>
    rw [List.foldl_cons, ← agrees, push_capped, ih, List.append_assoc, ← List.filter_append]
    rfl

omit [Field K] [LinearOrder K] [IsStrictOrderedRing K] in
/-- A side adds the cells of its rows that lie inside, as far as the cap lets it. -/
theorem side_capped (place : Int × Int → K × K) {reached : Bool} {keep : Int → Bool}
    (cell : Int → Int × Int)
    (agrees : ∀ n, inside (cell n) = (reached && keep n)) (rows : List Int)
    (walked : List (Int × Int)) :
    SquareSpiral.side total reached keep (fun n => place (cell n)) rows
        ((walked.take total).map place) =
      ((walked ++ (rows.map cell).filter inside).take total).map place := by
  unfold SquareSpiral.side
  cases reach : reached
  · have none : (rows.map cell).filter inside = [] := by
      rw [List.filter_eq_nil_iff]
      intro member listed
      obtain ⟨n, -, rfl⟩ := List.mem_map.mp listed
      simp [agrees, reach]
    simp [none]
  · by_cases room : walked.length < total
    · rw [if_pos (by simp [room])]
      exact foldl_capped place cell (fun n => by rw [agrees, reach, Bool.true_and]) rows walked
    · have full : total ≤ walked.length := Nat.le_of_not_lt room
      rw [if_neg (by simp [full]), List.take_append_of_le_length full]

end Cap

namespace SquareSpiral

/-- Where a cell lies. -/
def point (spiral : SquareSpiral K) (cell : Int × Int) : K × K :=
  (spiral.xAt cell.1, spiral.yAt cell.2)

/-- The clip tests of both axes. -/
def inside (spiral : SquareSpiral K) (cell : Int × Int) : Bool :=
  decide (|(cell.1 : K) - spiral.xOffset| < spiral.xHalf) &&
    decide (|(cell.2 : K) - spiral.yOffset| < spiral.yHalf)

variable {spiral : SquareSpiral K}

omit [IsStrictOrderedRing K] in
/-- A side of one column. -/
theorem column_capped (total : Nat) (x : Int) (rows : List Int) (walked : List (Int × Int)) :
    side total (|(x : K) - spiral.xOffset| < spiral.xHalf)
        (fun n => |(n : K) - spiral.yOffset| < spiral.yHalf)
        (fun n => (spiral.xAt x, spiral.yAt n)) rows ((walked.take total).map spiral.point) =
      ((walked ++ (rows.map fun n => (x, n)).filter spiral.inside).take total).map spiral.point :=
  side_capped spiral.point (fun n => (x, n)) (fun _ => rfl) rows walked

omit [IsStrictOrderedRing K] in
/-- A side of one row. -/
theorem row_capped (total : Nat) (y : Int) (rows : List Int) (walked : List (Int × Int)) :
    side total (|(y : K) - spiral.yOffset| < spiral.yHalf)
        (fun n => |(n : K) - spiral.xOffset| < spiral.xHalf)
        (fun n => (spiral.xAt n, spiral.yAt y)) rows ((walked.take total).map spiral.point) =
      ((walked ++ (rows.map fun n => (n, y)).filter spiral.inside).take total).map spiral.point :=
  side_capped spiral.point (fun n => (n, y)) (fun _ => Bool.and_comm ..) rows walked

omit [IsStrictOrderedRing K] in
theorem ring_capped (strict : ∀ n : Int, |(n : K) - spiral.xOffset| ≠ spiral.xHalf) (total : Nat)
    (walked : List (Int × Int)) (iRing : Int) :
    spiral.ring total ((walked.take total).map spiral.point) iRing =
      ((walked ++ (ringCells iRing).filter spiral.inside).take total).map spiral.point := by
  have right : (decide (|((iRing - 1 : Int) : K) - spiral.xOffset| ≤ spiral.xHalf)) =
      decide (|((iRing - 1 : Int) : K) - spiral.xOffset| < spiral.xHalf) := by
    rw [decide_eq_decide]
    exact ⟨fun reach => lt_of_le_of_ne reach (strict _), le_of_lt⟩
  simp only [ring, right]
  rw [column_capped, row_capped, column_capped, row_capped]
  simp [ringCells]

omit [IsStrictOrderedRing K] in
/-- The walk over the rings, as far as the cap lets it. -/
theorem rings_capped (strict : ∀ n : Int, |(n : K) - spiral.xOffset| ≠ spiral.xHalf) (total : Nat)
    (rings : List Int) (walked : List (Int × Int)) :
    rings.foldl (spiral.ring total) ((walked.take total).map spiral.point) =
      ((walked ++ (rings.flatMap ringCells).filter spiral.inside).take total).map
        spiral.point := by
  induction rings generalizing walked with
  | nil => simp
  | cons iRing rings ih =>
    rw [List.foldl_cons, ring_capped strict, ih, List.flatMap_cons, List.filter_append,
      List.append_assoc]

end SquareSpiral

/-! ## The grid -/

theorem abs_half_lt {a b : Int} : |(a : K) / 2| < (b : K) / 2 ↔ |a| < b := by
  rw [abs_div, abs_two, div_lt_div_iff_of_pos_right two_pos, ← Int.cast_abs, Int.cast_lt]

theorem abs_half_ne {a b : Int} (differs : |a| ≠ b) : |(a : K) / 2| ≠ (b : K) / 2 := by
  intro same
  rw [abs_div, abs_two, div_left_inj' two_ne_zero, ← Int.cast_abs, Int.cast_inj] at same
  exact differs same

theorem even_or_odd {num : Nat} (positive : 1 ≤ num) :
    (∃ m, num = 2 * m + 2) ∨ ∃ m, num = 2 * m + 1 := by
  rcases Nat.mod_two_eq_zero_or_one num with even | odd
  · exact .inl ⟨num / 2 - 1, by omega⟩
  · exact .inr ⟨num / 2, by omega⟩

/-- The clip test of the x axis, its offset and its half width in whole half steps. -/
theorem x_clip (xNum : Nat) (n : Int) :
    ((n : K) - (if xNum % 2 = 0 then 1 / 2 else 0) =
        ((2 * n - (if xNum % 2 = 0 then 1 else 0) : Int) : K) / 2) ∧
      ((xNum : K) / 2 = ((xNum : Int) : K) / 2) := by
  refine ⟨?_, by simp⟩
  split <;> (push_cast; ring)

theorem y_clip (yNum : Nat) (n : Int) :
    ((n : K) - (if yNum % 2 = 0 then -(1 / 2) else 0) =
        ((2 * n + (if yNum % 2 = 0 then 1 else 0) : Int) : K) / 2) ∧
      ((yNum : K) / 2 = ((yNum : Int) : K) / 2) := by
  refine ⟨?_, by simp⟩
  split <;> (push_cast; ring)

/-- The cell of a place in the grid, both counted from the lower corner. -/
def cellAt (xNum yNum : Nat) (place : Nat × Nat) : Int × Int :=
  ((place.1 : Int) - ((xNum - 1) / 2 : Nat), (place.2 : Int) - (yNum / 2 : Nat))

/-- The places of the grid. -/
def gridPlaces (xNum yNum : Nat) : List (Nat × Nat) :=
  List.range xNum ×ˢ List.range yNum

section Coordinate

local instance coordinate_atLeastTwo : Nat.AtLeastTwo 2 :=
  inferInstance

/-- The coordinate of a place on an axis that spans `range` about its centre: on the way from the one
end to the other, in equal parts. A single place is the centre. -/
def gridCoordinate (center range : K) (num place : Nat) : K :=
  if num = 1 then center
  else
    let part := (place : K) / ((num : K) - 1)
    (1 - part) * (center - range / 2) + part * (center + range / 2)

omit [LinearOrder K] [IsStrictOrderedRing K] in
theorem gridCoordinate_first (center range : K) {num : Nat} (several : 1 < num) :
    gridCoordinate center range num 0 = center - range / 2 := by
  simp [gridCoordinate, several.ne']

theorem gridCoordinate_last (center range : K) {num : Nat} (several : 1 < num) :
    gridCoordinate center range num (num - 1) = center + range / 2 := by
  have bound : (1 : K) < num := by exact_mod_cast several
  have whole : ((num - 1 : Nat) : K) / ((num : K) - 1) = 1 := by
    rw [Nat.cast_sub several.le, Nat.cast_one, div_self (sub_ne_zero.mpr bound.ne')]
  rw [gridCoordinate, if_neg several.ne', whole]
  ring

/-- The walk counts in steps from the centre. -/
theorem gridCoordinate_eq (center range : K) {num : Nat} (positive : 1 ≤ num) (place : Nat) :
    gridCoordinate center range num place =
      center + gridStep range num * ((place : K) - ((num : K) - 1) / 2) := by
  rcases positive.eq_or_lt with rfl | several
  · simp [gridCoordinate, gridStep]
  · have bound : (1 : K) < num := by exact_mod_cast several
    have nonzero : (num : K) - 1 ≠ 0 := sub_ne_zero.mpr bound.ne'
    rw [gridCoordinate, if_neg several.ne', gridStep, if_pos several]
    field_simp
    ring

end Coordinate

section Grid

variable {xCenter yCenter xRange yRange : K} {xNum yNum : Nat}

theorem of_strict (n : Int) :
    |(n : K) - (SquareSpiral.of xCenter yCenter xRange yRange xNum yNum).xOffset| ≠
      (SquareSpiral.of xCenter yCenter xRange yRange xNum yNum).xHalf := by
  obtain ⟨offset, half⟩ := x_clip (K := K) xNum n
  simp only [SquareSpiral.of]
  rw [offset, half]
  apply abs_half_ne
  grind

theorem inside_of (xPositive : 1 ≤ xNum) (yPositive : 1 ≤ yNum) (cell : Int × Int) :
    (SquareSpiral.of xCenter yCenter xRange yRange xNum yNum).inside cell = true ↔
      ∃ place ∈ gridPlaces xNum yNum, cellAt xNum yNum place = cell := by
  obtain ⟨x, y⟩ := cell
  obtain ⟨xOffset, xHalf⟩ := x_clip (K := K) xNum x
  obtain ⟨yOffset, yHalf⟩ := y_clip (K := K) yNum y
  simp only [SquareSpiral.inside, Bool.and_eq_true, decide_eq_true_eq]
  simp only [SquareSpiral.of]
  rw [xOffset, xHalf, yOffset, yHalf, abs_half_lt, abs_half_lt, abs_lt, abs_lt]
  simp only [gridPlaces, cellAt, List.mem_product, List.mem_range, Prod.mk.injEq, Prod.exists]
  constructor
  · rintro ⟨inX, inY⟩
    refine ⟨(x + ((xNum - 1) / 2 : Nat)).toNat, (y + (yNum / 2 : Nat)).toNat, ⟨?_, ?_⟩, ?_, ?_⟩ <;>
      grind
  · rintro ⟨i, j, ⟨inX, inY⟩, rfl, rfl⟩
    grind

theorem gridPlaces_nodup (xNum yNum : Nat) : (gridPlaces xNum yNum).Nodup :=
  List.nodup_range.product List.nodup_range

theorem gridPlaces_row (xNum : Nat) : gridPlaces xNum 1 = (List.range xNum).map fun i => (i, 0) := by
  rw [List.map_eq_flatMap]
  rfl

theorem gridPlaces_column (yNum : Nat) :
    gridPlaces 1 yNum = (List.range yNum).map fun j => (0, j) := by
  simp [gridPlaces]

theorem cellAt_injective (xNum yNum : Nat) : Function.Injective (cellAt xNum yNum) := by
  rintro ⟨i, j⟩ ⟨i', j'⟩ same
  simp only [cellAt, Prod.mk.injEq] at same
  simp only [Prod.mk.injEq]
  omega

theorem mem_rings {numRing : Nat} {iRing : Int} :
    iRing ∈ rings numRing ↔ 2 ≤ iRing ∧ iRing ≤ numRing := by
  simp only [rings, List.mem_map, List.mem_range]
  constructor
  · rintro ⟨n, bound, rfl⟩
    omega
  · intro bounds
    exact ⟨(iRing - 2).toNat, by omega, by omega⟩

theorem rings_nodup (numRing : Nat) : (rings numRing).Nodup :=
  List.nodup_range.map fun n m same => by simpa using same

theorem mem_walk {numRing : Nat} {cell : Int × Int} :
    cell ∈ (rings numRing).flatMap ringCells ↔
      1 ≤ max cell.1.natAbs cell.2.natAbs ∧ max cell.1.natAbs cell.2.natAbs + 1 ≤ numRing := by
  simp only [List.mem_flatMap, mem_rings]
  constructor
  · rintro ⟨iRing, ⟨lower, upper⟩, member⟩
    have distance := (mem_ringCells lower).mp member
    omega
  · intro bounds
    refine ⟨(max cell.1.natAbs cell.2.natAbs : Nat) + 1, by omega, ?_⟩
    rw [mem_ringCells (by omega)]
    omega

theorem walk_nodup (numRing : Nat) : ((rings numRing).flatMap ringCells).Nodup := by
  rw [List.nodup_flatMap]
  refine ⟨fun iRing member => ringCells_nodup (mem_rings.mp member).1, ?_⟩
  refine (rings_nodup numRing).imp_of_mem fun {iRing later} member memberLater differs => ?_
  intro cell here there
  rw [mem_ringCells (mem_rings.mp member).1] at here
  rw [mem_ringCells (mem_rings.mp memberLater).1] at there
  omega

/-- The cells of the whole walk, cut by nothing but the clip tests. -/
def spiralCells (spiral : SquareSpiral K) (numRing : Nat) : List (Int × Int) :=
  (0, 0) :: ((rings numRing).flatMap ringCells).filter spiral.inside

theorem spiralCells_perm (xPositive : 1 ≤ xNum) (yPositive : 1 ≤ yNum) :
    (spiralCells (SquareSpiral.of xCenter yCenter xRange yRange xNum yNum)
      (max xNum yNum)).Perm ((gridPlaces xNum yNum).map (cellAt xNum yNum)) := by
  have distinct : (spiralCells (SquareSpiral.of xCenter yCenter xRange yRange xNum yNum)
      (max xNum yNum)).Nodup := by
    rw [spiralCells, List.nodup_cons]
    refine ⟨fun member => ?_, (walk_nodup _).filter _⟩
    have away := (mem_walk.mp (List.mem_of_mem_filter member)).1
    simp at away
  rw [List.perm_ext_iff_of_nodup distinct
    ((gridPlaces_nodup xNum yNum).map (cellAt_injective xNum yNum))]
  intro cell
  rw [spiralCells, List.mem_cons, List.mem_filter, inside_of xPositive yPositive, mem_walk,
    List.mem_map]
  constructor
  · rintro (rfl | ⟨-, inside⟩)
    · refine ⟨((xNum - 1) / 2, yNum / 2), ?_, by simp [cellAt]⟩
      simp only [gridPlaces, List.mem_product, List.mem_range]
      omega
    · exact inside
  · rintro ⟨⟨i, j⟩, member, rfl⟩
    by_cases centre : cellAt xNum yNum (i, j) = (0, 0)
    · exact .inl centre
    · refine .inr ⟨?_, (i, j), member, rfl⟩
      simp only [gridPlaces, List.mem_product, List.mem_range] at member
      simp only [cellAt, Prod.mk.injEq] at centre ⊢
      omega

theorem spiralCells_length (xPositive : 1 ≤ xNum) (yPositive : 1 ≤ yNum)
    (spiral : SquareSpiral K)
    (computed : spiral = SquareSpiral.of xCenter yCenter xRange yRange xNum yNum) :
    (spiralCells spiral (max xNum yNum)).length = xNum * yNum := by
  rw [computed, (spiralCells_perm xPositive yPositive).length_eq]
  rw [List.length_map, gridPlaces, List.length_product, List.length_range, List.length_range]

/-- Whatever cap of at least the grid's size is given, the walk is whole. -/
theorem spiralSquareCapped_eq (xPositive : 1 ≤ xNum) (yPositive : 1 ≤ yNum) {total : Nat}
    (room : xNum * yNum ≤ total) :
    spiralSquareCapped total xCenter yCenter xRange yRange xNum yNum =
      (spiralCells (SquareSpiral.of xCenter yCenter xRange yRange xNum yNum)
        (max xNum yNum)).map (SquareSpiral.of xCenter yCenter xRange yRange xNum yNum).point := by
  have cells := spiralCells_length xPositive yPositive
    (SquareSpiral.of xCenter yCenter xRange yRange xNum yNum) rfl
  have nonzero : 1 ≤ total := Nat.le_trans (Nat.mul_pos xPositive yPositive) room
  unfold spiralSquareCapped
  rw [if_neg (by omega)]
  generalize spiral_of : SquareSpiral.of xCenter yCenter xRange yRange xNum yNum = spiral at cells ⊢
  have centre : [(xCenter - spiral.xDelta * spiral.xOffset,
      yCenter - spiral.yDelta * spiral.yOffset)] =
      (([(0, 0)] : List (Int × Int)).take total).map spiral.point := by
    rw [List.take_of_length_le nonzero]
    subst spiral_of
    simp [SquareSpiral.point, SquareSpiral.xAt, SquareSpiral.yAt, SquareSpiral.of]
  have strict : ∀ n : Int, |(n : K) - spiral.xOffset| ≠ spiral.xHalf := by
    subst spiral_of
    exact of_strict
  simp only [centre]
  rw [SquareSpiral.rings_capped strict, List.take_of_length_le]
  · rfl
  · exact cells.trans_le room

theorem point_cellAt (xPositive : 1 ≤ xNum) (yPositive : 1 ≤ yNum) (place : Nat × Nat) :
    (SquareSpiral.of xCenter yCenter xRange yRange xNum yNum).point (cellAt xNum yNum place) =
      (gridCoordinate xCenter xRange xNum place.1, gridCoordinate yCenter yRange yNum place.2) := by
  obtain ⟨i, j⟩ := place
  simp only [SquareSpiral.point, SquareSpiral.xAt, SquareSpiral.yAt, cellAt,
    gridCoordinate_eq _ _ xPositive, gridCoordinate_eq _ _ yPositive, Prod.mk.injEq]
  simp only [SquareSpiral.of]
  constructor
  · rcases even_or_odd xPositive with ⟨m, rfl⟩ | ⟨m, rfl⟩
    · have middle : (2 * m + 2 - 1) / 2 = m := by omega
      rw [middle, if_pos (by omega)]
      push_cast
      ring
    · have middle : (2 * m + 1 - 1) / 2 = m := by omega
      rw [middle, if_neg (by omega)]
      push_cast
      ring
  · rcases even_or_odd yPositive with ⟨m, rfl⟩ | ⟨m, rfl⟩
    · have middle : (2 * m + 2) / 2 = m + 1 := by omega
      rw [middle, if_pos (by omega)]
      push_cast
      ring
    · have middle : (2 * m + 1) / 2 = m := by omega
      rw [middle, if_neg (by omega)]
      push_cast
      ring

theorem gridStep_ne_zero {range : K} {num : Nat} (several : 1 < num) (nonzero : range ≠ 0) :
    gridStep range num ≠ 0 := by
  rw [gridStep, if_pos several]
  have bound : (1 : K) < num := by exact_mod_cast several
  exact div_ne_zero nonzero (sub_ne_zero.mpr bound.ne')

/-- With a step that is not zero, or a single place, the places of an axis lie apart. -/
theorem gridCoordinate_injOn {center range : K} {num i j : Nat} (steps : 1 < num → range ≠ 0)
    (bound : i < num) (bound' : j < num)
    (same : gridCoordinate center range num i = gridCoordinate center range num j) : i = j := by
  by_cases several : 1 < num
  · rw [gridCoordinate_eq _ _ several.le, gridCoordinate_eq _ _ several.le] at same
    have places := mul_left_cancel₀ (gridStep_ne_zero several (steps several))
      (add_left_cancel same)
    exact_mod_cast sub_left_injective places
  · omega

omit [LinearOrder K] [IsStrictOrderedRing K] in
theorem gridCoordinate_single (center range : K) (place : Nat) :
    gridCoordinate center range 1 place = center := by
  simp [gridCoordinate]

/-- The point of a place of the grid. -/
def gridPoint (xCenter yCenter xRange yRange : K) (xNum yNum : Nat) (place : Nat × Nat) : K × K :=
  (gridCoordinate xCenter xRange xNum place.1, gridCoordinate yCenter yRange yNum place.2)

/-- The square spiral visits every cell of the grid once, from the central one on; its cap cuts
nothing, and a grid of one column or one row is the centred line. -/
theorem spiral_square_covers (xCenter yCenter xRange yRange : K) (xNum yNum : Nat)
    (xPositive : 1 ≤ xNum) (yPositive : 1 ≤ yNum) :
    (spiralSquarePattern xCenter yCenter xRange yRange xNum yNum).Perm
        ((gridPlaces xNum yNum).map (gridPoint xCenter yCenter xRange yRange xNum yNum)) ∧
      (spiralSquarePattern xCenter yCenter xRange yRange xNum yNum).head? =
        some (gridPoint xCenter yCenter xRange yRange xNum yNum ((xNum - 1) / 2, yNum / 2)) ∧
      (∀ total, xNum * yNum ≤ total →
        spiralSquareCapped total xCenter yCenter xRange yRange xNum yNum =
          spiralSquarePattern xCenter yCenter xRange yRange xNum yNum) ∧
      ((1 < xNum → xRange ≠ 0) → (1 < yNum → yRange ≠ 0) →
        (spiralSquarePattern xCenter yCenter xRange yRange xNum yNum).Nodup) ∧
      (xNum = 1 → (spiralSquarePattern xCenter yCenter xRange yRange xNum yNum).Perm
        ((List.range yNum).map fun place => (xCenter, gridCoordinate yCenter yRange yNum place))) ∧
      (yNum = 1 → (spiralSquarePattern xCenter yCenter xRange yRange xNum yNum).Perm
        ((List.range xNum).map fun place => (gridCoordinate xCenter xRange xNum place, yCenter))) := by
  have whole : spiralSquarePattern xCenter yCenter xRange yRange xNum yNum =
      (spiralCells (SquareSpiral.of xCenter yCenter xRange yRange xNum yNum)
        (max xNum yNum)).map (SquareSpiral.of xCenter yCenter xRange yRange xNum yNum).point :=
    spiralSquareCapped_eq xPositive yPositive le_rfl
  have covers : (spiralSquarePattern xCenter yCenter xRange yRange xNum yNum).Perm
      ((gridPlaces xNum yNum).map (gridPoint xCenter yCenter xRange yRange xNum yNum)) := by
    rw [whole]
    refine ((spiralCells_perm xPositive yPositive).map _).trans ?_
    rw [List.map_map]
    exact .of_eq (List.map_congr_left fun place _ => point_cellAt xPositive yPositive place)
  refine ⟨covers, ?_, ?_, ?_, ?_, ?_⟩
  · have centre : (0, 0) = cellAt xNum yNum ((xNum - 1) / 2, yNum / 2) := by simp [cellAt]
    rw [whole, spiralCells, List.map_cons, List.head?_cons, centre,
      point_cellAt xPositive yPositive, gridPoint]
  · intro total room
    rw [whole, spiralSquareCapped_eq xPositive yPositive room]
  · intro xSteps ySteps
    rw [covers.nodup_iff]
    refine (gridPlaces_nodup xNum yNum).map_on ?_
    rintro ⟨i, j⟩ member ⟨i', j'⟩ member' same
    simp only [gridPlaces, List.mem_product, List.mem_range] at member member'
    simp only [gridPoint, Prod.mk.injEq] at same
    rw [gridCoordinate_injOn xSteps member.1 member'.1 same.1,
      gridCoordinate_injOn ySteps member.2 member'.2 same.2]
  · rintro rfl
    rw [gridPlaces_column, List.map_map] at covers
    simpa [gridPoint, gridCoordinate_single, Function.comp_def] using covers
  · rintro rfl
    rw [gridPlaces_row, List.map_map] at covers
    simpa [gridPoint, gridCoordinate_single, Function.comp_def] using covers

theorem spiral_square_covers_example :
    (spiralSquarePattern (0 : ℚ) 0 4 1 5 2).Nodup :=
  (spiral_square_covers (0 : ℚ) 0 4 1 5 2 (by decide) (by decide)).2.2.2.1
    (fun _ => by decide) (fun _ => by decide)

end Grid

end Bsrs.Plans
