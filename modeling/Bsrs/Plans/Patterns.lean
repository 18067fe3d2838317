import Mathlib.Algebra.BigOperators.Group.List.Basic
import Mathlib.Algebra.Field.Basic
import Mathlib.Data.List.Forall2
import Mathlib.Data.Set.Function
import Mathlib.Tactic.Ring

namespace Bsrs.Plans

variable {K : Type} [Field K]

/-- `suffix_repeats`: how many consecutive rows each axis holds one value, filled from the last
axis back. -/
def suffixRepeats : List Nat → List Nat
  | [] => []
  | [_] => [1]
  | _ :: next :: rest =>
      let filled := suffixRepeats (next :: rest)
      (filled.headD 1 * next) :: filled

/-- `axis_index`: the position of an axis at row `k`. -/
def axisIndex (k numRepeats l : Nat) (snaked : Bool) : Nat :=
  let snaked := snaked && decide (1 < l)
  let period := if snaked then 2 * l else l
  let m := k / numRepeats % period
  if !snaked || decide (m < l) then m else 2 * l - 1 - m

/-- The positions of all the axes at row `k`. -/
def gridCell (lengths : List Nat) (snaking : List Bool) (k : Nat) : List Nat :=
  lengths.mapIdx fun i l =>
    axisIndex k ((suffixRepeats lengths).getD i 1) l (snaking.getD i false)

/-- Where an axis, as its start, its stop and its count, stands at a position. -/
def linspaced (axis : K × K × Nat) (vi : Nat) : K :=
  axis.1 + (axis.2.1 - axis.1) *
    if 1 < axis.2.2 then (vi : K) / ((axis.2.2 : K) - 1) else 0

theorem linspaced_first (axis : K × K × Nat) : linspaced axis 0 = axis.1 := by
  simp [linspaced]

theorem linspaced_last [CharZero K] (axis : K × K × Nat) (several : 1 < axis.2.2) :
    linspaced axis (axis.2.2 - 1) = axis.2.1 := by
  have apart : (axis.2.2 : K) - 1 ≠ 0 := sub_ne_zero.mpr (Nat.cast_ne_one.mpr several.ne')
  have whole : ((axis.2.2 - 1 : Nat) : K) / ((axis.2.2 : K) - 1) = 1 := by
    rw [Nat.cast_sub several.le, Nat.cast_one, div_self apart]
  rw [linspaced, if_pos several, whole]
  ring

def outerProductSnake (axes : List (K × K × Nat)) (snaking : List Bool) : List (List K) :=
  if axes.isEmpty || axes.any (fun axis => axis.2.2 == 0) then []
  else
    let lengths := axes.map fun axis => axis.2.2
    (List.range lengths.prod).map fun k =>
      axes.mapIdx fun i axis =>
        linspaced axis
          (axisIndex k ((suffixRepeats lengths).getD i 1) axis.2.2 (snaking.getD i false))

def outerProduct (axes : List (K × K × Nat)) : List (List K) :=
  outerProductSnake axes []

/-- `outer_list_product_snake`, where an index beyond its list would read zero. -/
def outerListProductSnake (axes : List (List K)) (snaking : List Bool) : List (List K) :=
  if axes.isEmpty || axes.any List.isEmpty then []
  else
    let lengths := axes.map List.length
    (List.range lengths.prod).map fun k =>
      axes.mapIdx fun i axis =>
        axis.getD (axisIndex k ((suffixRepeats lengths).getD i 1) (lengths.getD i 0)
          (snaking.getD i false)) 0

def outerListProduct (axes : List (List K)) : List (List K) :=
  outerListProductSnake axes []

/-- The list of positions of an axis. -/
def linspacedList (axis : K × K × Nat) : List K :=
  (List.range axis.2.2).map (linspaced axis)

/-- Two cells that differ by one step in one axis. -/
inductive OneStep : List Nat → List Nat → Prop
  | here {a b : Nat} {rest : List Nat} (step : b = a + 1 ∨ a = b + 1) :
      OneStep (a :: rest) (b :: rest)
  | there {a : Nat} {cell next : List Nat} (step : OneStep cell next) :
      OneStep (a :: cell) (a :: next)

/-- A digit read on a pass: an odd pass of a snaked axis runs backwards. -/
def turned (snaked : Bool) (l pass digit : Nat) : Nat :=
  if snaked && pass % 2 == 1 then l - 1 - digit else digit

theorem turned_lt {snaked : Bool} {l pass digit : Nat} (bound : digit < l) :
    turned snaked l pass digit < l := by
  unfold turned
  split <;> omega

theorem turned_turned {snaked : Bool} {l pass digit : Nat} (bound : digit < l) :
    turned snaked l pass (turned snaked l pass digit) = digit := by
  unfold turned
  split <;> omega

theorem turned_first (snaked : Bool) (l digit : Nat) : turned snaked l 0 digit = digit := by
  simp [turned]

/-- On one pass the digit moves by one, forwards or backwards. -/
theorem turned_succ_digit {snaked : Bool} {l row : Nat} (positive : 0 < l)
    (passes : (row + 1) / l = row / l) :
    turned snaked l (row / l) ((row + 1) % l) = turned snaked l (row / l) (row % l) + 1 ∨
      turned snaked l (row / l) (row % l) = turned snaked l (row / l) ((row + 1) % l) + 1 := by
  have before := Nat.div_add_mod row l
  have after := Nat.div_add_mod (row + 1) l
  have bound : (row + 1) % l < l := Nat.mod_lt _ positive
  rw [passes] at after
  unfold turned
  split <;> omega

/-- A snaked axis turns where its pass ends. -/
theorem turned_succ_pass {l row : Nat} (positive : 0 < l) (passes : (row + 1) / l ≠ row / l) :
    turned true l ((row + 1) / l) ((row + 1) % l) = turned true l (row / l) (row % l) := by
  rw [Nat.succ_div] at passes
  split at passes
  · rename_i divides
    obtain ⟨count, whole⟩ := divides
    obtain _ | pass := count
    · omega
    · have last : row = l * pass + (l - 1) := by
        rw [Nat.mul_succ] at whole
        omega
      have digit : row % l = l - 1 := by
        rw [last, Nat.mul_add_mod, Nat.mod_eq_of_lt (by omega)]
      have here : row / l = pass := by
        rw [last, Nat.mul_add_div positive, Nat.div_eq_of_lt (by omega), Nat.add_zero]
      rw [whole, Nat.mul_div_cancel_left _ positive, Nat.mul_mod_right, digit, here]
      unfold turned
      rcases Nat.mod_two_eq_zero_or_one pass with even | odd
      · have next : (pass + 1) % 2 = 1 := by omega
        simp [even, next]
      · have next : (pass + 1) % 2 = 0 := by omega
        simp [odd, next]
  · exact absurd rfl passes

@[simp] theorem suffixRepeats_cons (l : Nat) (rest : List Nat) :
    suffixRepeats (l :: rest) = rest.prod :: suffixRepeats rest := by
  induction rest generalizing l with
  | nil => rfl
  | cons next rest ih =>
    rw [suffixRepeats, ih]
    simp [Nat.mul_comm]

theorem getD_tail (snaking : List Bool) (i : Nat) :
    snaking.tail.getD i false = snaking.getD (i + 1) false := by
  cases snaking <;> rfl

theorem axisIndex_eq_turned {l : Nat} (positive : 0 < l) (k numRepeats : Nat) (snaked : Bool) :
    axisIndex k numRepeats l snaked =
      turned snaked l (k / numRepeats / l) (k / numRepeats % l) := by
  unfold axisIndex turned
  generalize k / numRepeats = row
  have digit : row % l < l := Nat.mod_lt _ positive
  have folded : row % (2 * l) = row % l + l * (row / l % 2) := by
    rw [Nat.mul_comm 2 l, Nat.mod_mul]
  by_cases turns : snaked = true ∧ 1 < l
  · obtain ⟨snakes, turns⟩ := turns
    simp only [snakes, turns, decide_true, Bool.and_self, if_true, Bool.not_true, Bool.false_or,
      Bool.true_and, decide_eq_true_eq, beq_iff_eq, folded]
    rcases Nat.mod_two_eq_zero_or_one (row / l) with even | odd
    · simp [even, digit]
    · have beyond : ¬ row % l + l < l := by omega
      rw [odd, Nat.mul_one, if_neg beyond, if_pos rfl]
      omega
  · have plain : (snaked && decide (1 < l)) = false := by simpa using turns
    simp only [plain, Bool.not_false, Bool.true_or, if_true, Bool.false_eq_true, if_false]
    by_cases snakes : snaked = true
    · have single : l = 1 := by
        have short : ¬ 1 < l := fun long => turns ⟨snakes, long⟩
        omega
      subst single
      simp [Nat.mod_one]
    · simp [snakes]

theorem axisIndex_lt {l : Nat} (positive : 0 < l) (k numRepeats : Nat) (snaked : Bool) :
    axisIndex k numRepeats l snaked < l := by
  rw [axisIndex_eq_turned positive]
  exact turned_lt (Nat.mod_lt _ positive)

theorem gridCell_cons (l : Nat) (rest : List Nat) (snaking : List Bool) (k : Nat) :
    gridCell (l :: rest) snaking k =
      axisIndex k rest.prod l (snaking.getD 0 false) :: gridCell rest snaking.tail k := by
  cases snaking <;> simp [gridCell, List.mapIdx_cons]

theorem prod_positive {lengths : List Nat} (positive : ∀ l ∈ lengths, 1 ≤ l) :
    0 < lengths.prod := by
  induction lengths with
  | nil => simp
  | cons l rest ih =>
    rw [List.prod_cons]
    exact Nat.mul_pos (positive l (by simp)) (ih fun next member => positive next (by simp [member]))

section Cells

variable {lengths : List Nat} {snaking : List Bool}

theorem gridCell_within (positive : ∀ l ∈ lengths, 1 ≤ l) (k : Nat) :
    List.Forall₂ (· < ·) (gridCell lengths snaking k) lengths := by
  induction lengths generalizing snaking with
  | nil => exact .nil
  | cons l rest ih =>
    rw [gridCell_cons]
    exact .cons (axisIndex_lt (positive l (by simp)) ..)
      (ih fun next member => positive next (by simp [member]))

/-- The cell of a row and the pass it is on give the row. -/
theorem gridCell_injective (positive : ∀ l ∈ lengths, 1 ≤ l) {k k' : Nat}
    (cell : gridCell lengths snaking k = gridCell lengths snaking k')
    (pass : k / lengths.prod = k' / lengths.prod) : k = k' := by
  induction lengths generalizing snaking with
  | nil => simpa using pass
  | cons l rest ih =>
    have long : 0 < l := positive l (by simp)
    rw [List.prod_cons, Nat.mul_comm, ← Nat.div_div_eq_div_mul, ← Nat.div_div_eq_div_mul] at pass
    rw [gridCell_cons, gridCell_cons, axisIndex_eq_turned long, axisIndex_eq_turned long,
      List.cons.injEq, pass] at cell
    obtain ⟨digits, later⟩ := cell
    have digit : k / rest.prod % l = k' / rest.prod % l := by
      rw [← turned_turned (Nat.mod_lt _ long), digits, turned_turned (Nat.mod_lt _ long)]
    have prefixes : k / rest.prod = k' / rest.prod := by
      rw [← Nat.div_add_mod (k / rest.prod) l, pass, digit, Nat.div_add_mod]
    exact ih (fun next member => positive next (by simp [member])) later prefixes

/-- Every cell is reached on every pass. -/
theorem gridCell_surjective {cell : List Nat} (within : List.Forall₂ (· < ·) cell lengths)
    (pass : Nat) : ∃ k, k / lengths.prod = pass ∧ gridCell lengths snaking k = cell := by
  induction within generalizing snaking pass with
  | nil => exact ⟨pass, by simp, rfl⟩
  | @cons digit l cell rest bound within ih =>
    have long : 0 < l := Nat.zero_lt_of_lt bound
    have turnedBound : turned (snaking.getD 0 false) l pass digit < l := turned_lt bound
    obtain ⟨k, prefixes, later⟩ :
        ∃ k, k / rest.prod = l * pass + turned (snaking.getD 0 false) l pass digit ∧
          gridCell rest snaking.tail k = cell :=
      ih _
    have passes : k / rest.prod / l = pass := by
      rw [prefixes, Nat.mul_add_div long, Nat.div_eq_of_lt turnedBound, Nat.add_zero]
    refine ⟨k, ?_, ?_⟩
    · rw [List.prod_cons, Nat.mul_comm, ← Nat.div_div_eq_div_mul, passes]
    · rw [gridCell_cons, axisIndex_eq_turned long, passes, prefixes, Nat.mul_add_mod,
        Nat.mod_eq_of_lt turnedBound, turned_turned bound, later]

theorem gridCell_bijOn (positive : ∀ l ∈ lengths, 1 ≤ l) :
    Set.BijOn (gridCell lengths snaking) {k | k < lengths.prod}
      {cell | List.Forall₂ (· < ·) cell lengths} := by
  refine ⟨fun k _ => gridCell_within positive k, ?_, ?_⟩
  · intro k bound k' bound' same
    refine gridCell_injective positive same ?_
    rw [Nat.div_eq_of_lt bound, Nat.div_eq_of_lt bound']
  · intro cell within
    obtain ⟨k, first, reached⟩ : ∃ k, k / lengths.prod = 0 ∧ gridCell lengths snaking k = cell :=
      gridCell_surjective within 0
    exact ⟨k, (Nat.div_eq_zero_iff_lt (prod_positive positive)).mp first, reached⟩

omit snaking lengths in
theorem succ_div_of_ne {k n : Nat} (differs : (k + 1) / n ≠ k / n) : (k + 1) / n = k / n + 1 := by
  rw [Nat.succ_div] at differs ⊢
  split at differs
  · rename_i divides
    rw [if_pos divides]
  · exact absurd rfl differs

/-- One row on, on the same pass the walk makes one step; at a turn it stands still. -/
theorem gridCell_succ (positive : ∀ l ∈ lengths, 1 ≤ l)
    (snaked : ∀ i < lengths.length, snaking.getD i false = true) (k : Nat) :
    if (k + 1) / lengths.prod = k / lengths.prod
    then OneStep (gridCell lengths snaking k) (gridCell lengths snaking (k + 1))
    else gridCell lengths snaking (k + 1) = gridCell lengths snaking k := by
  induction lengths generalizing snaking with
  | nil => simp [gridCell]
  | cons l rest ih =>
    have long : 0 < l := positive l (by simp)
    have laterSnaked : ∀ i < rest.length, snaking.tail.getD i false = true := fun i bound => by
      rw [getD_tail]
      exact snaked (i + 1) (by simpa using bound)
    have later := ih (fun next member => positive next (by simp [member])) laterSnaked
    have first : snaking.getD 0 false = true := snaked 0 (by simp)
    have total : ∀ row, row / (l :: rest).prod = row / rest.prod / l := fun row => by
      rw [List.prod_cons, Nat.mul_comm, Nat.div_div_eq_div_mul]
    rw [total, total, gridCell_cons, gridCell_cons, first]
    by_cases same : (k + 1) / rest.prod = k / rest.prod
    · rw [if_pos same] at later
      rw [same, if_pos rfl, axisIndex_eq_turned long, axisIndex_eq_turned long, same]
      exact .there later
    · rw [if_neg same] at later
      have next := succ_div_of_ne same
      rw [later, axisIndex_eq_turned long, axisIndex_eq_turned long, next]
      generalize k / rest.prod = row
      by_cases passes : (row + 1) / l = row / l
      · rw [if_pos passes, passes]
        exact .here (turned_succ_digit long passes)
      · rw [if_neg passes, turned_succ_pass long passes]

theorem gridCell_congr {flags : List Bool}
    (same : ∀ i < lengths.length, snaking.getD i false = flags.getD i false) (k : Nat) :
    gridCell lengths snaking k = gridCell lengths flags k := by
  apply List.ext_getElem (by simp [gridCell])
  intro i bound _
  simp only [gridCell, List.length_mapIdx] at bound
  simp only [gridCell, List.getElem_mapIdx, same i bound]

/-- The slowest axis is traversed once, so whether it is snaked does not show. -/
theorem gridCell_slowest {k : Nat} (positive : ∀ l ∈ lengths, 1 ≤ l)
    (bound : k < lengths.prod) (flag : Bool) :
    gridCell lengths snaking k = gridCell lengths (flag :: snaking.tail) k := by
  cases lengths with
  | nil => rfl
  | cons l rest =>
    have long : 0 < l := positive l (by simp)
    have first : k / rest.prod / l = 0 := by
      rw [Nat.div_div_eq_div_mul, Nat.mul_comm, ← List.prod_cons, Nat.div_eq_of_lt bound]
    rw [gridCell_cons, gridCell_cons, axisIndex_eq_turned long, axisIndex_eq_turned long, first,
      turned_first, turned_first]
    rfl

theorem gridCell_oneStep (positive : ∀ l ∈ lengths, 1 ≤ l)
    (snaked : ∀ i, 0 < i → i < lengths.length → snaking.getD i false = true) {k : Nat}
    (bound : k + 1 < lengths.prod) :
    OneStep (gridCell lengths snaking k) (gridCell lengths snaking (k + 1)) := by
  have all : ∀ i < lengths.length, (true :: snaking.tail).getD i false = true := by
    intro i within
    cases i with
    | zero => rfl
    | succ i =>
      rw [List.getD_cons_succ, getD_tail]
      exact snaked (i + 1) (by omega) within
  have moved := gridCell_succ positive all k
  rw [if_pos (by rw [Nat.div_eq_of_lt bound, Nat.div_eq_of_lt (by omega)])] at moved
  rwa [gridCell_slowest positive (by omega) true, gridCell_slowest positive bound true]

theorem gridCell_plain {k : Nat} (positive : ∀ l ∈ lengths, 1 ≤ l) (bound : k < lengths.prod)
    (plain : ∀ i, 0 < i → snaking.getD i false = false) :
    gridCell lengths snaking k = gridCell lengths [] k := by
  rw [gridCell_slowest positive bound false]
  apply gridCell_congr
  intro i _
  cases i with
  | zero => rfl
  | succ i =>
    rw [List.getD_cons_succ, getD_tail]
    exact plain (i + 1) (by omega)

end Cells

section Rows

variable {axes : List (K × K × Nat)} {snaking : List Bool}

theorem outerProductSnake_eq (nonempty : axes ≠ []) (counted : ∀ axis ∈ axes, 1 ≤ axis.2.2) :
    outerProductSnake axes snaking =
      (List.range (axes.map fun axis => axis.2.2).prod).map fun k =>
        List.zipWith linspaced axes (gridCell (axes.map fun axis => axis.2.2) snaking k) := by
  have going : (axes.isEmpty || axes.any fun axis => axis.2.2 == 0) = false := by
    rw [Bool.or_eq_false_iff, List.any_eq_false]
    refine ⟨by simpa using nonempty, fun axis member => ?_⟩
    have := counted axis member
    simp only [beq_iff_eq]
    omega
  rw [outerProductSnake, if_neg (by simp [going])]
  apply List.map_congr_left
  intro k _
  apply List.ext_getElem (by simp [gridCell])
  intro i _ _
  simp [gridCell]

theorem outerListProductSnake_eq {lists : List (List K)} (nonempty : lists ≠ [])
    (filled : ∀ list ∈ lists, list ≠ []) :
    outerListProductSnake lists snaking =
      (List.range (lists.map List.length).prod).map fun k =>
        List.zipWith (fun list vi => list.getD vi 0) lists
          (gridCell (lists.map List.length) snaking k) := by
  have going : (lists.isEmpty || lists.any List.isEmpty) = false := by
    rw [Bool.or_eq_false_iff, List.any_eq_false]
    exact ⟨by simpa using nonempty, fun list member => by simp [filled list member]⟩
  rw [outerListProductSnake, if_neg (by simp [going])]
  apply List.map_congr_left
  intro k _
  apply List.ext_getElem (by simp [gridCell])
  intro i bound _
  simp only [List.length_mapIdx] at bound
  simp [gridCell, bound]

theorem outerListProductSnake_linspaced (axes : List (K × K × Nat)) (snaking : List Bool) :
    outerListProductSnake (axes.map linspacedList) snaking = outerProductSnake axes snaking := by
  have lengths : (axes.map linspacedList).map List.length = axes.map fun axis => axis.2.2 := by
    simp [linspacedList, Function.comp_def]
  have stops : ((axes.map linspacedList).isEmpty || (axes.map linspacedList).any List.isEmpty) =
      (axes.isEmpty || axes.any fun axis => axis.2.2 == 0) := by
    have empties : (List.isEmpty ∘ linspacedList) = fun axis : K × K × Nat => axis.2.2 == 0 := by
      funext axis
      rw [Bool.eq_iff_iff]
      simp [linspacedList]
    rw [List.any_map, empties]
    simp
  unfold outerListProductSnake outerProductSnake
  rw [stops, lengths]
  split
  · rfl
  · rename_i going
    apply List.map_congr_left
    intro k _
    apply List.ext_getElem (by simp)
    intro i bound _
    simp only [List.length_mapIdx, List.length_map] at bound
    have counted : 0 < axes[i].2.2 := by
      simp only [Bool.not_eq_true, Bool.or_eq_false_iff, List.any_eq_false, beq_iff_eq] at going
      exact Nat.pos_of_ne_zero (going.2 axes[i] (List.getElem_mem bound))
    have position := axisIndex_lt counted k
      ((suffixRepeats (axes.map fun axis => axis.2.2)).getD i 1) (snaking.getD i false)
    simp only [List.getElem_mapIdx, List.getElem_map, linspacedList, List.getD_eq_getElem?_getD,
      List.getElem?_map, List.getElem?_eq_getElem bound, Option.map_some, Option.getD_some]
    simp only [List.getD_eq_getElem?_getD] at position
    rw [List.getElem?_eq_getElem (by simpa using position)]
    simp

omit [Field K] in
theorem lengths_counted (counted : ∀ axis ∈ axes, 1 ≤ axis.2.2) :
    ∀ l ∈ axes.map fun axis => axis.2.2, 1 ≤ l := by
  intro l member
  obtain ⟨axis, listed, rfl⟩ := List.mem_map.mp member
  exact counted axis listed

theorem outerProductSnake_plain (axes : List (K × K × Nat))
    (plain : ∀ i, 0 < i → snaking.getD i false = false) :
    outerProductSnake axes snaking = outerProduct axes := by
  by_cases stops : (axes.isEmpty || axes.any fun axis => axis.2.2 == 0) = true
  · rw [outerProduct, outerProductSnake, outerProductSnake, if_pos stops, if_pos stops]
  · simp only [Bool.not_eq_true, Bool.or_eq_false_iff, List.any_eq_false, beq_iff_eq,
      List.isEmpty_eq_false_iff] at stops
    obtain ⟨nonempty, nonzero⟩ := stops
    have counted : ∀ axis ∈ axes, 1 ≤ axis.2.2 :=
      fun axis member => Nat.pos_of_ne_zero (nonzero axis member)
    rw [outerProduct, outerProductSnake_eq nonempty counted, outerProductSnake_eq nonempty counted]
    apply List.map_congr_left
    intro k bound
    rw [gridCell_plain (lengths_counted counted) (List.mem_range.mp bound) plain]

theorem outerListProductSnake_plain (lists : List (List K))
    (plain : ∀ i, 0 < i → snaking.getD i false = false) :
    outerListProductSnake lists snaking = outerListProduct lists := by
  by_cases stops : (lists.isEmpty || lists.any List.isEmpty) = true
  · rw [outerListProduct, outerListProductSnake, outerListProductSnake, if_pos stops, if_pos stops]
  · simp only [Bool.not_eq_true, Bool.or_eq_false_iff, List.any_eq_false,
      List.isEmpty_eq_false_iff] at stops
    obtain ⟨nonempty, filled⟩ := stops
    have filled : ∀ list ∈ lists, list ≠ [] := by simpa using filled
    have counted : ∀ l ∈ lists.map List.length, 1 ≤ l := by
      intro l member
      obtain ⟨list, listed, rfl⟩ := List.mem_map.mp member
      exact List.length_pos_iff.mpr (filled list listed)
    rw [outerListProduct, outerListProductSnake_eq nonempty filled,
      outerListProductSnake_eq nonempty filled]
    apply List.map_congr_left
    intro k bound
    rw [gridCell_plain counted (List.mem_range.mp bound) plain]

/-- How many points there are along each axis. -/
def axisLengths (axes : List (K × K × Nat)) : List Nat :=
  axes.map fun axis => axis.2.2

end Rows

end Bsrs.Plans
