import Bsrs.Core.Json
import Bsrs.Library.OpenPath
import Bsrs.Library.Table
import Mathlib.Analysis.Real.Sqrt
import Mathlib.Order.WithBot

/-! `route_suggestions`: an open path through the points an optimizer suggests, built by nearest
neighbours and improved by 2-opt. A distance is `none` where the program's is not a number. -/

namespace Bsrs.Blop

open Library
open Bsrs.Core (Json Number)

abbrev Params := Table String Json

inductive TrialId where
  | int (index : Int)
  | str (text : String)
  deriving Repr, DecidableEq

structure Suggestion where
  id : TrialId
  params : Params

section Index

variable {R : Type} [Field R] [LinearOrder R]

/-- `a < b` of doubles: false if either is not a number. -/
def less : Option R → Option R → Bool
  | some a, some b => decide (a < b)
  | _, _ => false

/-- `a + b` of doubles. -/
def plus : Option R → Option R → Option R
  | some a, some b => some (a + b)
  | _, _ => none

variable {P : Type} (distance : P → P → Option R) (points : List P) (start : Option P)

/-- The distance between two nodes, of which `points.len()` is the anchor. -/
def dist (i j : Nat) : Option R :=
  match decide (i = points.length), decide (j = points.length) with
  | true, true => some 0
  | true, false =>
      match start with
      | some s => points[j]?.bind (distance s)
      | none => some 0
  | false, true => some 0
  | false, false => points[i]?.bind fun a => points[j]?.bind (distance a)

/-- One turn of the fold: the nearer of the best so far and the point `j` at position `k`. -/
def closer (reach : Nat → Option R) (best : Nat × WithTop R) : Nat × Nat → Nat × WithTop R
  | (j, k) =>
      match reach j with
      | some d => if (d : WithTop R) < best.2 then (k, d) else best
      | none => best

/-- The fold that looks for the nearest of the points left: its position in `left`. -/
def nearest (reach : Nat → Option R) (left : List Nat) : Nat :=
  (left.zipIdx.foldl (closer reach) (0, ⊤)).1

/-- `Vec::swap_remove`. -/
def swapRemove (left : List Nat) (k : Nat) : Option (Nat × List Nat) :=
  match left[k]?, left.getLast? with
  | some taken, some last => some (taken, (left.set k last).dropLast)
  | _, _ => none

/-- What the construction appends to a path that ends `here`, in so many turns. -/
def construct (edge : Nat → Nat → Option R) : Nat → Nat → List Nat → List Nat
  | 0, _, _ => []
  | turns + 1, here, left =>
      match swapRemove left (nearest (edge here) left) with
      | some (taken, left) => taken :: construct edge turns taken left
      | none => []

/-- The two edges beside `path[i..=j]` that lead to `path[head]` and on from `path[tail]`. -/
def beside (edge : Nat → Nat → Option R) (path : List Nat) (i j head tail : Nat) : Option R :=
  plus (edge (path.getD (i - 1) 0) (path.getD head 0))
    (if j + 1 < path.length then edge (path.getD tail 0) (path.getD (j + 1) 0) else some 0)

/-- One turn of the inner loop over a path and its `improved`. -/
def tryReverse (edge : Nat → Nat → Option R) (slack : R) (loop : List Nat × Bool)
    (segment : Nat × Nat) : List Nat × Bool :=
  let (path, improved) := loop
  let (i, j) := segment
  let before := beside edge path i j i j
  let after := beside edge path i j j i
  if less (plus after (some slack)) before then (reverseSegment i j path, true)
  else (path, improved)

/-- The pairs the two loops run through, for a path of `len` nodes. -/
def segments (len : Nat) : List (Nat × Nat) :=
  (List.range' 1 (len - 2)).flatMap fun i => (List.range' (i + 1) (len - (i + 1))).map (i, ·)

/-- One turn of `while improved`. -/
def sweep (edge : Nat → Nat → Option R) (slack : R) (path : List Nat) : List Nat × Bool :=
  (segments path.length).foldl (tryReverse edge slack) (path, false)

/-- `while improved`, over if it ends within so many turns. -/
def twoOpt (edge : Nat → Nat → Option R) (slack : R) : Nat → List Nat → Option (List Nat)
  | 0, _ => none
  | turns + 1, path =>
      match sweep edge slack path with
      | (path, true) => twoOpt edge slack turns path
      | (path, false) => some path

/-- The path of the nearest neighbour construction, from the anchor. -/
def greedyPath : List Nat :=
  points.length ::
    construct (dist distance points start) points.length points.length (List.range points.length)

/-- The `1e-12` by which a reversal has to shorten the path. -/
def slack : R :=
  1 / 10 ^ 12

def routeIndex (turns : Nat) : Option (List Nat) :=
  if points.length < 2 then some (List.range points.length)
  else
    (twoOpt (dist distance points start) slack turns (greedyPath distance points start)).map
      List.tail

end Index

/-! ## The construction -/

section Construction

variable {R : Type} [LinearOrder R] {edge : Nat → Nat → Option R} {complete : Nat → Prop}

theorem less_eq_true {a b : Option R} :
    less a b = true ↔ ∃ x y, a = some x ∧ b = some y ∧ x < y := by
  cases a <;> cases b <;> simp [less]

theorem swapRemove_perm {left rest : List Nat} {k taken : Nat}
    (removed : swapRemove left k = some (taken, rest)) :
    left[k]? = some taken ∧ (taken :: rest).Perm left := by
  unfold swapRemove at removed
  split at removed
  · rename_i held last at' ends
    simp only [Option.some.injEq, Prod.mk.injEq] at removed
    obtain ⟨rfl, rfl⟩ := removed
    obtain ⟨front, rfl⟩ : ∃ front, left = front ++ [last] :=
      List.getLast?_eq_some_iff.mp ends
    refine ⟨at', ?_⟩
    obtain ⟨inside, rfl⟩ := List.getElem?_eq_some_iff.mp at'
    by_cases here : k < front.length
    · rw [List.set_append_left _ _ here, List.dropLast_concat, List.getElem_append_left here]
      have swapped := (List.set_perm_cons_eraseIdx here last).cons front[k]
      refine swapped.trans ((List.Perm.swap _ _ _).trans ?_)
      refine (List.Perm.cons _ (List.getElem_cons_eraseIdx_perm here)).trans ?_
      exact (List.perm_append_singleton _ _).symm
    · have ending : k = front.length := by
        rw [List.length_append, List.length_singleton] at inside
        omega
      subst ending
      simp only [List.getElem_concat_length, List.set_append_right _ _ le_rfl, Nat.sub_self,
        List.set_cons_zero, List.dropLast_concat]
      exact (List.perm_append_singleton _ _).symm
  · cases removed

theorem swapRemove_of_lt {left : List Nat} {k : Nat} (inside : k < left.length) :
    ∃ taken rest, swapRemove left k = some (taken, rest) := by
  have nonempty : left ≠ [] := List.ne_nil_of_length_pos (by omega)
  simp [swapRemove, List.getElem?_eq_getElem inside, List.getLast?_eq_some_getLast nonempty]

/-- The fold ends at a point within reach, or there is none and it ends at the first. -/
private theorem fold_spec (reach : Nat → Option R) (left : List Nat) :
    (left.zipIdx.foldl (closer reach) (0, ⊤) = (0, ⊤) ∧ ∀ j ∈ left, reach j = none) ∨
      ∃ k j, ∃ d : R, left.zipIdx.foldl (closer reach) (0, ⊤) = (k, (d : WithTop R)) ∧
        left[k]? = some j ∧ reach j = some d := by
  induction left using List.reverseRecOn with
  | nil => simp
  | append_singleton front last ih =>
      have ends : (front ++ [last])[front.length]? = some last := by simp
      rw [List.zipIdx_append, List.foldl_append]
      simp only [List.zipIdx_cons, List.zipIdx_nil, List.foldl_cons, List.foldl_nil, Nat.zero_add]
      rcases ih with ⟨folded, none⟩ | ⟨k, j, d, folded, at', reached⟩
      · rw [folded, closer]
        cases reached : reach last with
        | none =>
            refine Or.inl ⟨rfl, fun j member => ?_⟩
            rcases List.mem_append.mp member with earlier | here
            · exact none j earlier
            · rw [List.mem_singleton.mp here, reached]
        | some d =>
            simp only [WithTop.coe_lt_top, if_true]
            exact Or.inr ⟨_, last, d, rfl, ends, reached⟩
      · have still : (front ++ [last])[k]? = some j := by
          obtain ⟨inside, -⟩ := List.getElem?_eq_some_iff.mp at'
          rw [List.getElem?_append_left inside, at']
        rw [folded, closer]
        cases reaches : reach last with
        | none => exact Or.inr ⟨k, j, d, rfl, still, reached⟩
        | some nearer =>
            dsimp only
            split
            · exact Or.inr ⟨_, last, nearer, rfl, ends, reaches⟩
            · exact Or.inr ⟨k, j, d, rfl, still, reached⟩

theorem nearest_spec (reach : Nat → Option R) (left : List Nat) :
    (nearest reach left = 0 ∧ ∀ j ∈ left, reach j = none) ∨
      ∃ j d, left[nearest reach left]? = some j ∧ reach j = some d := by
  rcases fold_spec reach left with ⟨folded, none⟩ | ⟨k, j, d, folded, at', reached⟩
  · exact Or.inl ⟨by rw [nearest, folded], none⟩
  · exact Or.inr ⟨j, d, by rw [nearest, folded, at'], reached⟩

/-- Of points that are all as near, the first is taken. -/
theorem nearest_of_constant {reach : Nat → Option R} {d : R} (first : Nat) (rest : List Nat)
    (constant : ∀ j, j ∈ first :: rest → reach j = some d) : nearest reach (first :: rest) = 0 := by
  have stays : ∀ (entries : List (Nat × Nat)), (∀ entry ∈ entries, reach entry.1 = some d) →
      entries.foldl (closer reach) (0, (d : WithTop R)) = (0, (d : WithTop R)) := by
    intro entries same
    induction entries with
    | nil => rfl
    | cons entry entries ih =>
        have here : closer reach (0, (d : WithTop R)) entry = (0, (d : WithTop R)) := by
          simp [closer, same entry (by simp)]
        rw [List.foldl_cons, here, ih fun other member => same other (by simp [member])]
  have begins : closer reach (0, ⊤) (first, 0) = (0, (d : WithTop R)) := by
    simp [closer, constant first (by simp)]
  rw [nearest, List.zipIdx_cons, List.foldl_cons, begins, stays]
  intro entry member
  exact constant entry.1 (List.mem_cons_of_mem _ (List.fst_mem_of_mem_zipIdx member))

theorem nearest_lt (reach : Nat → Option R) {left : List Nat} (nonempty : left ≠ []) :
    nearest reach left < left.length := by
  rcases nearest_spec reach left with ⟨first, -⟩ | ⟨j, d, at', -⟩
  · rw [first]
    exact List.length_pos_of_ne_nil nonempty
  · exact (List.getElem?_eq_some_iff.mp at').1

theorem construct_perm (edge : Nat → Nat → Option R) (turns here : Nat) (left : List Nat)
    (turn : left.length = turns) : (construct edge turns here left).Perm left := by
  induction turns generalizing here left with
  | zero => rw [List.length_eq_zero_iff.mp turn, construct]
  | succ turns ih =>
      have nonempty : left ≠ [] := List.ne_nil_of_length_pos (by omega)
      obtain ⟨taken, rest, removed⟩ := swapRemove_of_lt (nearest_lt (edge here) nonempty)
      obtain ⟨-, perm⟩ := swapRemove_perm removed
      have fewer : rest.length = turns := by
        have same := perm.length_eq
        rw [List.length_cons] at same
        omega
      simp only [construct, removed]
      exact ((ih taken rest fewer).cons taken).trans perm

/-- The complete points come before the incomplete ones. -/
def CompleteFirst (complete : Nat → Prop) (path : List Nat) : Prop :=
  path.Pairwise fun earlier later => complete later → complete earlier

/-- From a complete point, or when none is left, the complete points are visited first. -/
theorem construct_completeFirst {n : Nat}
    (defined : ∀ i < n, ∀ j < n, (edge i j).isSome ↔ complete i ∧ complete j)
    (turns here : Nat) (left : List Nat) (turn : left.length = turns) (inside : here < n)
    (within : ∀ j ∈ left, j < n) (ready : complete here ∨ ∀ j ∈ left, ¬ complete j) :
    CompleteFirst complete (construct edge turns here left) := by
  induction turns generalizing here left with
  | zero => exact .nil
  | succ turns ih =>
      have nonempty : left ≠ [] := List.ne_nil_of_length_pos (by omega)
      obtain ⟨taken, rest, removed⟩ := swapRemove_of_lt (nearest_lt (edge here) nonempty)
      obtain ⟨at', perm⟩ := swapRemove_perm removed
      have fewer : rest.length = turns := by
        have same := perm.length_eq
        rw [List.length_cons] at same
        omega
      have member : ∀ j ∈ taken :: rest, j ∈ left := fun j => perm.mem_iff.mp
      have next : complete taken ∨ ∀ j ∈ rest, ¬ complete j := by
        rcases ready with whole | none
        · rcases nearest_spec (edge here) left with ⟨-, unreached⟩ | ⟨j, d, found, reached⟩
          · refine Or.inr fun j inRest isComplete => ?_
            have inLeft := member j (List.mem_cons_of_mem _ inRest)
            have reaches := (defined here inside j (within j inLeft)).mpr ⟨whole, isComplete⟩
            rw [unreached j inLeft] at reaches
            cases reaches
          · have same : taken = j := Option.some.inj (at'.symm.trans found)
            subst same
            have inLeft := member taken (by simp)
            exact Or.inl ((defined here inside taken (within taken inLeft)).mp (by simp [reached])).2
        · exact Or.inr fun j inRest => none j (member j (List.mem_cons_of_mem _ inRest))
      simp only [construct, removed]
      refine List.pairwise_cons.mpr ⟨fun later visited isComplete => ?_, ?_⟩
      · have inRest := (construct_perm edge turns taken rest fewer).mem_iff.mp visited
        exact next.resolve_right fun none => none later inRest isComplete
      · exact ih taken rest fewer (within taken (member taken (by simp)))
          (fun j inRest => within j (member j (List.mem_cons_of_mem _ inRest))) next

end Construction

/-! ## The improvement -/

section Improvement

variable {R : Type} [Field R] {edge : Nat → Nat → Option R} {complete : Nat → Prop}
variable {n i j : Nat} {slack : R} {path : List Nat}

theorem plus_eq_some {a b : Option R} {sum : R} :
    plus a b = some sum ↔ ∃ x y, a = some x ∧ b = some y ∧ x + y = sum := by
  cases a <;> cases b <;> simp [plus]

private theorem getD_here (front : List Nat) (here : Nat) (back : List Nat) :
    (front ++ here :: back).getD front.length 0 = here := by
  simp

/-- The edges beside a segment, before and after it is reversed. -/
theorem beside_apart (edge : Nat → Nat → Option R) (front : List Nat) (here head : Nat)
    (middle : List Nat) (last : Nat) (back : List Nat) (first : front.length + 1 = i)
    (upTo : i + middle.length + 1 = j) :
    beside edge (front ++ here :: head :: (middle ++ last :: back)) i j i j =
        plus (edge here head) (onward edge last back) ∧
      beside edge (front ++ here :: head :: (middle ++ last :: back)) i j j i =
        plus (edge here last) (onward edge head back) := by
  have at' : (front ++ here :: head :: (middle ++ last :: back)).getD (i - 1) 0 = here := by
    rw [← first, Nat.add_sub_cancel, getD_here]
  have enters : (front ++ here :: head :: (middle ++ last :: back)).getD i 0 = head := by
    have known := getD_here (front ++ [here]) head (middle ++ last :: back)
    simpa [first] using known
  have leaves : (front ++ here :: head :: (middle ++ last :: back)).getD j 0 = last := by
    have known := getD_here (front ++ here :: head :: middle) last back
    have length : (front ++ here :: head :: middle).length = j := by
      simp only [List.length_append, List.length_cons]
      omega
    rw [length] at known
    simpa using known
  have whole : (front ++ here :: head :: (middle ++ last :: back)).length =
      j + 1 + back.length := by
    simp only [List.length_append, List.length_cons]
    omega
  have on : ∀ from' : Nat, (if j + 1 < (front ++ here :: head :: (middle ++ last :: back)).length
      then edge from' ((front ++ here :: head :: (middle ++ last :: back)).getD (j + 1) 0)
      else some 0) = onward edge from' back := by
    intro from'
    rw [whole]
    cases back with
    | nil => simp [onward]
    | cons next back =>
        have known := getD_here (front ++ here :: head :: (middle ++ [last])) next back
        have length : (front ++ here :: head :: (middle ++ [last])).length = j + 1 := by
          simp only [List.length_append, List.length_cons, List.length_nil]
          omega
        rw [length] at known
        simp only [List.append_assoc, List.cons_append, List.nil_append] at known
        rw [if_pos (by simp), known, onward]
  simp only [beside, at', enters, leaves, on, and_self]

variable [LinearOrder R]

/-- Distances between the anchor `n` and the points below it. -/
structure Charted (edge : Nat → Nat → Option R) (complete : Nat → Prop) (n : Nat) : Prop where
  symmetric : ∀ i < n, ∀ j < n, edge i j = edge j i
  nonneg : ∀ i j, 0 ≤ (edge i j).getD 0
  defined : ∀ i < n, ∀ j < n, (edge i j).isSome ↔ complete i ∧ complete j
  anchor : (∀ j < n, edge n j = some 0) ∨ ∀ j < n, (edge n j).isSome → complete j

/-- The path starts at the anchor and visits every point once, the complete ones first. -/
def Visits (complete : Nat → Prop) (n : Nat) (path : List Nat) : Prop :=
  ∃ order, path = n :: order ∧ order.Perm (List.range n) ∧ CompleteFirst complete order

/-- The distances beside a segment whose reversal is found to shorten the path. -/
theorem shortens {front : List Nat} {here head : Nat} {middle : List Nat} {last : Nat}
    {back : List Nat} (first : front.length + 1 = i) (upTo : i + middle.length + 1 = j)
    (shorter : less (plus (beside edge (front ++ here :: head :: (middle ++ last :: back)) i j j i)
      (some slack)) (beside edge (front ++ here :: head :: (middle ++ last :: back)) i j i j) =
        true) :
    ∃ entered left turned gone, edge here head = some entered ∧ onward edge last back = some left ∧
      edge here last = some turned ∧ onward edge head back = some gone ∧
      turned + gone + slack < entered + left := by
  obtain ⟨before, after⟩ := beside_apart edge front here head middle last back first upTo
  rw [before, after] at shorter
  obtain ⟨new, old, newSum, oldSum, smaller⟩ := less_eq_true.mp shorter
  obtain ⟨sum, margin, sides, same, rfl⟩ := plus_eq_some.mp newSum
  obtain ⟨turned, gone, turns, goes, rfl⟩ := plus_eq_some.mp sides
  obtain ⟨entered, left, enters, leaves, rfl⟩ := plus_eq_some.mp oldSum
  rw [← Option.some.inj same] at smaller
  exact ⟨entered, left, turned, gone, enters, leaves, turns, goes, smaller⟩

omit [Field R] [LinearOrder R] in
theorem CompleteFirst.reverse {lead segment back : List Nat} {last : Nat}
    (ordered : CompleteFirst complete (lead ++ (segment ++ [last]) ++ back))
    (whole : complete last) :
    CompleteFirst complete (lead ++ (segment ++ [last]).reverse ++ back) := by
  obtain ⟨front, behind, across⟩ := List.pairwise_append.mp ordered
  obtain ⟨leads, segments, before⟩ := List.pairwise_append.mp front
  have allComplete : ∀ x ∈ segment ++ [last], complete x := by
    intro x member
    rcases List.mem_append.mp member with earlier | here
    · exact (List.pairwise_append.mp segments).2.2 x earlier last (by simp) whole
    · rwa [List.mem_singleton.mp here]
  have turned : (segment ++ [last]).reverse.Pairwise fun earlier later =>
      complete later → complete earlier :=
    List.pairwise_of_forall_mem_list fun x inside _ _ _ =>
      allComplete x (List.mem_reverse.mp inside)
  refine List.pairwise_append.mpr ⟨List.pairwise_append.mpr ⟨leads, turned, ?_⟩, behind, ?_⟩
  · exact fun x inLead y inside => before x inLead y (List.mem_reverse.mp inside)
  · intro x inside y inBack
    refine across x ?_ y inBack
    simpa only [List.mem_append, List.mem_reverse] using inside

/-- The construction visits every point once, the complete ones first, if the first one is. -/
theorem construct_visits (charted : Charted edge complete n) (first : 0 < n → complete 0) :
    Visits complete n (n :: construct edge n n (List.range n)) := by
  refine ⟨_, rfl, construct_perm edge n n (List.range n) List.length_range, ?_⟩
  obtain _ | m := n
  · exact .nil
  have nonempty : List.range (m + 1) ≠ [] := by simp
  obtain ⟨taken, rest, removed⟩ := swapRemove_of_lt (nearest_lt (edge (m + 1)) nonempty)
  obtain ⟨at', perm⟩ := swapRemove_perm removed
  have within : ∀ j ∈ taken :: rest, j < m + 1 := fun j member =>
    List.mem_range.mp (perm.mem_iff.mp member)
  have fewer : rest.length = m := by simpa using perm.length_eq
  have ofFirst : nearest (edge (m + 1)) (List.range (m + 1)) = 0 → complete taken := by
    intro starts
    have same : 0 = taken := by simpa [starts] using at'
    exact same ▸ first (Nat.succ_pos m)
  have whole : complete taken := by
    rcases charted.anchor with free | known
    · apply ofFirst
      rw [List.range_succ_eq_map]
      refine nearest_of_constant _ _ fun j member => free j ?_
      rw [← List.range_succ_eq_map] at member
      exact List.mem_range.mp member
    · rcases nearest_spec (edge (m + 1)) (List.range (m + 1)) with ⟨starts, -⟩ | ⟨j, d, found, reached⟩
      · exact ofFirst starts
      · obtain rfl : taken = j := Option.some.inj (at'.symm.trans found)
        exact known taken (within taken (by simp)) (by simp [reached])
  have onwards := construct_completeFirst charted.defined m taken rest fewer
    (within taken (by simp)) (fun j member => within j (by simp [member])) (Or.inl whole)
  simp only [construct, removed]
  exact List.pairwise_cons.mpr ⟨fun _ _ _ => whole, onwards⟩

/-- A path that visits the points, cut behind a node that is the anchor or a point. -/
private theorem Visits.cut {front rest : List Nat} {here : Nat}
    (visits : Visits complete n (front ++ here :: rest)) :
    ∃ lead, front ++ [here] = n :: lead ∧ (here = n ∨ here < n) ∧
      (lead ++ rest).Perm (List.range n) ∧ CompleteFirst complete (lead ++ rest) ∧
      ∀ x ∈ rest, x < n := by
  obtain ⟨order, apart, perm, ordered⟩ := visits
  have within : ∀ x ∈ order, x < n := fun x member =>
    List.mem_range.mp (perm.mem_iff.mp member)
  cases front with
  | nil =>
      obtain ⟨rfl, rfl⟩ := List.cons.inj apart
      exact ⟨[], rfl, Or.inl rfl, perm, ordered, within⟩
  | cons node front =>
      obtain ⟨rfl, rfl⟩ := List.cons.inj apart
      refine ⟨front ++ [here], rfl, Or.inr (within here (by simp)), ?_, ?_, fun x member =>
        within x (by simp [member])⟩
      · simpa using perm
      · simpa using ordered

/-- The last point of a segment that is reversed is complete. -/
private theorem Charted.complete_last (charted : Charted edge complete n) (positive : 0 < slack)
    {here head last : Nat} {back : List Nat} {entered left turned gone : R}
    (place : here = n ∨ here < n) (within : ∀ x ∈ back, x < n) (headBelow : head < n)
    (lastBelow : last < n) (enters : edge here head = some entered)
    (leaves : onward edge last back = some left) (turns : edge here last = some turned)
    (goes : onward edge head back = some gone) (shorter : turned + gone + slack < entered + left) :
    complete last := by
  rcases place with rfl | below
  · rcases charted.anchor with free | known
    · have entered0 : entered = 0 := Option.some.inj (enters.symm.trans (free head headBelow))
      have turned0 : turned = 0 := Option.some.inj (turns.symm.trans (free last lastBelow))
      cases back with
      | nil =>
          -- all the segment touches is free, so its reversal saves nothing
          have left0 : left = 0 := (Option.some.inj leaves).symm
          have gone0 : gone = 0 := (Option.some.inj goes).symm
          subst entered0 turned0 left0 gone0
          simp only [add_zero, zero_add] at shorter
          exact absurd positive shorter.not_gt
      | cons next back =>
          have known : (edge last next).isSome := Option.isSome_of_eq_some leaves
          exact ((charted.defined last lastBelow next (within next (by simp))).mp known).1
    · exact known last lastBelow (by simp [turns])
  · exact ((charted.defined here below last lastBelow).mp (by simp [turns])).2

variable [IsStrictOrderedRing R]

/-- A reversal that is made leaves the incomplete points last and shortens the path. -/
theorem Visits.reverse (visits : Visits complete n path) (charted : Charted edge complete n)
    (positive : 0 < slack) (first : 1 ≤ i) (longer : i < j) (inside : j < path.length)
    (shorter : less (plus (beside edge path i j j i) (some slack)) (beside edge path i j i j) =
      true) :
    Visits complete n (reverseSegment i j path) ∧
      travelled edge (reverseSegment i j path) + slack < travelled edge path := by
  obtain ⟨front, here, head, middle, last, back, rfl, reversed, starts, upTo⟩ :=
    exists_segment first longer inside
  obtain ⟨entered, left, turned, gone, enters, leaves, turns, goes, less⟩ :=
    shortens starts upTo shorter
  obtain ⟨lead, opens, place, perm, ordered, within⟩ := visits.cut
  have inSegment : ∀ x ∈ head :: (middle ++ [last]), x < n := fun x member =>
    within x (by simp at member ⊢; tauto)
  have whole : complete last := charted.complete_last positive place
    (fun x member => within x (by simp [member])) (within head (by simp)) (within last (by simp))
    enters leaves turns goes less
  have opened : front ++ here :: last :: (middle.reverse ++ head :: back) =
      n :: (lead ++ ((head :: middle) ++ [last]).reverse ++ back) := by
    rw [List.append_cons, opens]
    simp
  have turning : (((head :: middle) ++ [last]).reverse).Perm ((head :: middle) ++ [last]) :=
    List.reverse_perm _
  rw [reversed]
  refine ⟨⟨lead ++ ((head :: middle) ++ [last]).reverse ++ back, opened, ?_, ?_⟩, ?_⟩
  · refine ((turning.append_left lead).append_right back).trans ?_
    simpa using perm
  · apply CompleteFirst.reverse _ whole
    simpa using ordered
  · have telescoped := travelled_turned edge front here head middle last back fun a inA b inB =>
      charted.symmetric a (inSegment a inA) b (inSegment b inB)
    simp only [enters, leaves, turns, goes, Option.getD_some] at telescoped
    linarith

/-- No reversal shortens a settled path by more than the slack, where its distances are defined. -/
theorem Visits.settled (visits : Visits complete n path) (charted : Charted edge complete n)
    (first : 1 ≤ i) (longer : i < j) (inside : j < path.length)
    (settled : less (plus (beside edge path i j j i) (some slack)) (beside edge path i j i j) =
      false)
    (before : (sides edge i j path).isSome)
    (after : (sides edge i j (reverseSegment i j path)).isSome) :
    travelled edge path ≤ travelled edge (reverseSegment i j path) + slack := by
  obtain ⟨front, here, head, middle, last, back, rfl, reversed, starts, upTo⟩ :=
    exists_segment first longer inside
  obtain ⟨-, -, -, -, -, within⟩ := visits.cut
  have inSegment : ∀ x ∈ head :: (middle ++ [last]), x < n := fun x member =>
    within x (by simp at member ⊢; tauto)
  have telescoped := travelled_turned edge front here head middle last back fun a inA b inB =>
    charted.symmetric a (inSegment a inA) b (inSegment b inB)
  obtain ⟨was, is'⟩ := beside_apart edge front here head middle last back starts upTo
  rw [was, is'] at settled
  rw [sides_apart edge front here head middle last back starts upTo] at before
  rw [reversed, sides_apart edge front here last middle.reverse head back starts
    (by simpa using upTo)] at after
  rw [reversed]
  cases enters : edge here head with
  | none => simp [enters] at before
  | some entered =>
    cases leaves : onward edge last back with
    | none => simp [leaves] at before
    | some left =>
      cases turns : edge here last with
      | none => simp [turns] at after
      | some turned =>
        cases goes : onward edge head back with
        | none => simp [goes] at after
        | some gone =>
          simp only [enters, leaves, turns, goes, plus, less, decide_eq_false_iff_not,
            not_lt] at settled
          simp only [enters, leaves, turns, goes, Option.getD_some] at telescoped
          linarith

/-- A run of the inner loops: what each reversal keeps and how far it shortens the path. -/
private theorem sweep_fold (charted : Charted edge complete n) (positive : 0 < slack)
    (turns : List (Nat × Nat)) (inside : ∀ turn ∈ turns, 1 ≤ turn.1 ∧ turn.1 < turn.2 ∧ turn.2 ≤ n)
    (visits : Visits complete n path) (improved : Bool) :
    ∃ after flag, turns.foldl (tryReverse edge slack) (path, improved) = (after, flag) ∧
      Visits complete n after ∧
      ((after = path ∧ flag = improved ∧ ∀ turn ∈ turns, tryReverse edge slack (path, improved) turn =
          (path, improved)) ∨
        flag = true ∧ travelled edge after + slack < travelled edge path) := by
  induction turns generalizing path improved with
  | nil => exact ⟨path, improved, rfl, visits, Or.inl ⟨rfl, rfl, by simp⟩⟩
  | cons turn turns ih =>
      obtain ⟨i, j⟩ := turn
      obtain ⟨first, longer, bound⟩ := inside (i, j) (by simp)
      have later : ∀ turn ∈ turns, 1 ≤ turn.1 ∧ turn.1 < turn.2 ∧ turn.2 ≤ n :=
        fun turn member => inside turn (List.mem_cons_of_mem _ member)
      have length : path.length = n + 1 := by
        obtain ⟨order, rfl, perm, -⟩ := visits
        simpa using perm.length_eq
      rw [List.foldl_cons]
      by_cases shorter : less (plus (beside edge path i j j i) (some slack))
          (beside edge path i j i j) = true
      · obtain ⟨still, decreased⟩ :=
          visits.reverse charted positive first longer (by omega) shorter
        have turned : tryReverse edge slack (path, improved) (i, j) =
            (reverseSegment i j path, true) := by
          simp only [tryReverse, shorter, if_true]
        rw [turned]
        obtain ⟨after, flag, ran, ends, ⟨rfl, rfl, -⟩ | ⟨raised, further⟩⟩ := ih later still true
        · exact ⟨_, true, ran, ends, Or.inr ⟨rfl, decreased⟩⟩
        · exact ⟨after, flag, ran, ends, Or.inr ⟨raised, by linarith⟩⟩
      · have stays : tryReverse edge slack (path, improved) (i, j) = (path, improved) := by
          simp only [tryReverse, shorter, Bool.false_eq_true, if_false]
        rw [stays]
        obtain ⟨after, flag, ran, ends, ⟨same, kept, none⟩ | raised⟩ := ih later visits improved
        · refine ⟨after, flag, ran, ends, Or.inl ⟨same, kept, fun turn member => ?_⟩⟩
          rcases List.mem_cons.mp member with rfl | member
          · exact stays
          · exact none turn member
        · exact ⟨after, flag, ran, ends, Or.inr raised⟩

omit [Field R] [LinearOrder R] [IsStrictOrderedRing R] in
theorem mem_segments {len : Nat} :
    (i, j) ∈ segments len ↔ 1 ≤ i ∧ i < j ∧ j < len := by
  simp only [segments, List.mem_flatMap, List.mem_map, List.mem_range'_1, Prod.mk.injEq,
    exists_eq_right_right]
  omega

/-- A turn of `while improved` shortens the path by more than the slack, or it is the last one and
no segment's reversal would. -/
theorem sweep_spec (charted : Charted edge complete n) (positive : 0 < slack)
    (visits : Visits complete n path) :
    (∃ after, sweep edge slack path = (after, true) ∧ Visits complete n after ∧
        travelled edge after + slack < travelled edge path) ∨
      sweep edge slack path = (path, false) ∧ ∀ i j, 1 ≤ i → i < j → j ≤ n →
        less (plus (beside edge path i j j i) (some slack)) (beside edge path i j i j) = false := by
  have length : path.length = n + 1 := by
    obtain ⟨order, rfl, perm, -⟩ := visits
    simpa using perm.length_eq
  have inside : ∀ turn ∈ segments path.length, 1 ≤ turn.1 ∧ turn.1 < turn.2 ∧ turn.2 ≤ n := by
    rintro ⟨i, j⟩ member
    obtain ⟨first, longer, bound⟩ := mem_segments.mp member
    exact ⟨first, longer, by omega⟩
  obtain ⟨after, flag, ran, ends, ⟨rfl, rfl, none⟩ | ⟨rfl, shorter⟩⟩ :=
    sweep_fold charted positive (segments path.length) inside visits false
  · refine Or.inr ⟨ran, fun i j first longer bound => ?_⟩
    have stays := none (i, j) (mem_segments.mpr ⟨first, longer, by omega⟩)
    by_contra shorter
    simp only [tryReverse, Bool.not_eq_false] at stays shorter
    rw [if_pos shorter] at stays
    cases congrArg Prod.snd stays
  · exact Or.inl ⟨after, ran, ends, shorter⟩

/-- With enough turns the loop ends: on a path no longer, which no reversal shortens. -/
theorem twoOpt_ends (charted : Charted edge complete n) (positive : 0 < slack) (turns : Nat)
    (visits : Visits complete n path) (enough : travelled edge path < turns * slack) :
    ∃ result, (∀ more, turns ≤ more → twoOpt edge slack more path = some result) ∧
      Visits complete n result ∧ travelled edge result ≤ travelled edge path ∧
      ∀ i j, 1 ≤ i → i < j → j ≤ n →
        less (plus (beside edge result i j j i) (some slack)) (beside edge result i j i j) =
          false := by
  induction turns generalizing path with
  | zero =>
      have nonneg := travelled_nonneg edge charted.nonneg path
      rw [Nat.cast_zero, zero_mul] at enough
      exact absurd enough nonneg.not_gt
  | succ turns ih =>
      rcases sweep_spec charted positive visits with ⟨after, ran, ends, shorter⟩ | ⟨ran, settled⟩
      · have fewer : travelled edge after < turns * slack := by
          rw [Nat.cast_succ, add_mul, one_mul] at enough
          linarith
        obtain ⟨result, beyond, still, noLonger, settled⟩ := ih ends fewer
        refine ⟨result, fun more many => ?_, still, by linarith, settled⟩
        obtain ⟨more, rfl⟩ : ∃ fewer, more = fewer + 1 := ⟨more - 1, by omega⟩
        simp only [twoOpt, ran]
        exact beyond more (by omega)
      · refine ⟨path, fun more many => ?_, visits, le_rfl, settled⟩
        obtain ⟨more, rfl⟩ : ∃ fewer, more = fewer + 1 := ⟨more - 1, by omega⟩
        simp only [twoOpt, ran]

omit [IsStrictOrderedRing R] in
/-- More turns change nothing once the loop is over. -/
theorem twoOpt_more {turns : Nat} {result : List Nat}
    (done : twoOpt edge slack turns path = some result) (more : Nat) (longer : turns ≤ more) :
    twoOpt edge slack more path = some result := by
  induction turns generalizing path more with
  | zero => cases done
  | succ turns ih =>
      obtain ⟨more, rfl⟩ : ∃ fewer, more = fewer + 1 := ⟨more - 1, by omega⟩
      simp only [twoOpt] at done ⊢
      split at done
      · exact ih done more (by omega)
      · exact done

example : routeIndex (fun a b : ℚ => some |a - b|) [1, 10, 2, 11, 5] (some 0) 5 =
    some [0, 2, 4, 1, 3] := by
  decide +kernel

end Improvement

/-! ## Distances of another kind -/

section Cast

variable {R S : Type} [Field R] [LinearOrder R] [Field S] [LinearOrder S] {f : R →+* S}
  {edge : Nat → Nat → Option R}

theorem less_map (mono : StrictMono f) (a b : Option R) :
    less (a.map f) (b.map f) = less a b := by
  cases a <;> cases b <;> simp [less, mono.lt_iff_lt]

omit [LinearOrder R] [LinearOrder S] in
theorem plus_map (a b : Option R) : plus (a.map f) (b.map f) = (plus a b).map f := by
  cases a <;> cases b <;> simp [plus]

theorem nearest_map (mono : StrictMono f) (reach : Nat → Option R) (left : List Nat) :
    nearest (fun j => (reach j).map f) left = nearest reach left := by
  have turn (best : Nat × WithTop R) (entry : Nat × Nat) :
      closer (fun j => (reach j).map f) (best.1, best.2.map f) entry =
        ((closer reach best entry).1, (closer reach best entry).2.map f) := by
    obtain ⟨j, k⟩ := entry
    simp only [closer]
    cases reach j with
    | none => rfl
    | some d =>
        have nearer : ((f d : S) : WithTop S) < best.2.map f ↔ (d : WithTop R) < best.2 := by
          cases best.2 with
          | top => simp
          | coe held => simp [mono.lt_iff_lt]
        simp only [Option.map_some, nearer]
        split <;> rfl
  have fold (entries : List (Nat × Nat)) : ∀ best : Nat × WithTop R,
      (entries.foldl (closer fun j => (reach j).map f) (best.1, best.2.map f)).1 =
        (entries.foldl (closer reach) best).1 := by
    induction entries with
    | nil => exact fun _ => rfl
    | cons entry entries ih =>
        intro best
        rw [List.foldl_cons, List.foldl_cons, turn]
        exact ih _
  exact fold left.zipIdx (0, ⊤)

theorem construct_map (mono : StrictMono f) (turns here : Nat) (left : List Nat) :
    construct (fun i j => (edge i j).map f) turns here left = construct edge turns here left := by
  induction turns generalizing here left with
  | zero => rfl
  | succ turns ih =>
      simp only [construct, nearest_map mono, ih]

theorem tryReverse_map (mono : StrictMono f) (slack : R) :
    tryReverse (fun i j => (edge i j).map f) (f slack) = tryReverse edge slack := by
  have sides (path : List Nat) (i j head tail : Nat) :
      beside (fun i j => (edge i j).map f) path i j head tail =
        (beside edge path i j head tail).map f := by
    unfold beside
    rw [← plus_map]
    split
    · rfl
    · simp
  have margin : some (f slack) = (some slack).map f := rfl
  funext loop segment
  simp only [tryReverse, sides, margin, plus_map, less_map mono]

theorem twoOpt_map (mono : StrictMono f) (slack : R) (turns : Nat) (path : List Nat) :
    twoOpt (fun i j => (edge i j).map f) (f slack) turns path = twoOpt edge slack turns path := by
  induction turns generalizing path with
  | zero => rfl
  | succ turns ih => simp only [twoOpt, sweep, tryReverse_map mono, ih]

/-- Distances that compare and add up alike make for the same route. -/
theorem routeIndex_map {P Q : Type} (mono : StrictMono f) {distance : P → P → Option R}
    {distance' : Q → Q → Option S} {g : P → Q}
    (agree : ∀ a b, distance' (g a) (g b) = (distance a b).map f) (points : List P)
    (start : Option P) (turns : Nat) :
    routeIndex distance' (points.map g) (start.map g) turns =
      routeIndex distance points start turns := by
  have legs : dist distance' (points.map g) (start.map g) =
      fun i j => (dist distance points start i j).map f := by
    funext i j
    unfold dist
    rw [List.length_map]
    split
    · simp
    · cases start with
      | none => simp
      | some s => cases here : points[j]? <;> simp [here, agree]
    · simp
    · cases here : points[i]? <;> cases next : points[j]? <;> simp [here, next, agree]
  have margin : (slack : S) = f slack := by
    rw [slack, slack, map_div₀, map_one, map_pow, map_ofNat]
  unfold routeIndex greedyPath
  rw [legs, margin, List.length_map]
  simp only [construct_map mono, twoOpt_map mono]

end Cast

/-! ## Suggestions -/

section Suggestions

variable (asF64 : Number → ℝ)

/-- The value of a routed dimension, not a number where it is missing or no JSON number. -/
def coordinate (params : Params) (dim : String) : Option ℝ :=
  match params.lookup dim with
  | some (.number value) => some (asF64 value)
  | _ => none

def coords (dims : List String) (params : Params) : List (Option ℝ) :=
  dims.map (coordinate asF64 params)

/-- One term of the sum in `distance`, and the terms after it. -/
noncomputable def addSquare : Option ℝ × Option ℝ → Option ℝ → Option ℝ
  | (some x, some y), sum => plus (some ((x - y) * (x - y))) sum
  | _, _ => none

noncomputable def distance (a b : List (Option ℝ)) : Option ℝ :=
  ((a.zip b).foldr addSquare (some 0)).map Real.sqrt

def isNumber : Json → Bool
  | .number _ => true
  | _ => false

/-- The keys of the first suggestion whose value is a number. -/
def routedDims (suggestions : List Suggestion) : List String :=
  match suggestions with
  | [] => []
  | first :: _ => (first.params.entries.filter fun entry => isNumber entry.2).map (·.1)

/-- Take the suggestions out of their slots in this order: `none` where one is gone. -/
def takeSlots : List Nat → List (Option Suggestion) → Option (List Suggestion)
  | [], _ => some []
  | i :: order, slots =>
      match slots[i]? with
      | some (some suggestion) => (takeSlots order (slots.set i none)).map (suggestion :: ·)
      | _ => none

/-- `route_suggestions`, over if the 2-opt loop ends within so many turns. -/
noncomputable def routeSuggestions (turns : Nat) (suggestions : List Suggestion)
    (startingPosition : Option Params) : Option (List Suggestion) :=
  if suggestions.length < 2 then some suggestions
  else
    let dims := routedDims suggestions
    if dims = [] then some suggestions
    else
      let points := suggestions.map fun suggestion => coords asF64 dims suggestion.params
      let start := startingPosition.map (coords asF64 dims)
      (routeIndex distance points start turns).bind fun order =>
        takeSlots order (suggestions.map some)

/-! ## Journeys -/

/-- The suggestion has a number for every routed dimension. -/
def Complete (dims : List String) (suggestion : Suggestion) : Prop :=
  ∀ dim ∈ dims, (coordinate asF64 suggestion.params dim).isSome

/-- The way from one stop of a journey to another, `none` being where it starts. -/
noncomputable def leg (dims : List String) (start : Option Params) :
    Option Suggestion → Option Suggestion → Option ℝ
  | none, some next =>
      match start with
      | some position => distance (coords asF64 dims position) (coords asF64 dims next.params)
      | none => some 0
  | some here, some next => distance (coords asF64 dims here.params) (coords asF64 dims next.params)
  | _, none => some 0

/-- From the start through the suggestions in their order. -/
def journey (suggestions : List Suggestion) : List (Option Suggestion) :=
  none :: suggestions.map some

/-- The order the 2-opt loop begins with. -/
noncomputable def nearestNeighbours (suggestions : List Suggestion) (start : Option Params) :
    List Suggestion :=
  (greedyPath distance
    (suggestions.map fun suggestion => coords asF64 (routedDims suggestions) suggestion.params)
    (start.map (coords asF64 (routedDims suggestions)))).tail.filterMap (suggestions[·]?)

theorem distance_comm (a b : List (Option ℝ)) : distance a b = distance b a := by
  have sums : (a.zip b).foldr addSquare (some 0) = (b.zip a).foldr addSquare (some 0) := by
    induction a generalizing b with
    | nil => cases b <;> rfl
    | cons x a ih =>
        cases b with
        | nil => rfl
        | cons y b =>
            rw [List.zip_cons_cons, List.zip_cons_cons, List.foldr_cons, List.foldr_cons, ih b]
            cases x with
            | none => cases y <;> rfl
            | some x =>
                cases y with
                | none => rfl
                | some y => simp only [addSquare, show (x - y) * (x - y) = (y - x) * (y - x) by ring]
  rw [distance, sums, distance]

theorem distance_nonneg (a b : List (Option ℝ)) : 0 ≤ (distance a b).getD 0 := by
  unfold distance
  cases (a.zip b).foldr addSquare (some 0) with
  | none => exact le_rfl
  | some sum => exact Real.sqrt_nonneg sum

/-- The distance between points of as many dimensions is defined if both are whole. -/
theorem distance_isSome {a b : List (Option ℝ)} (long : a.length = b.length) :
    (distance a b).isSome ↔ (∀ x ∈ a, x.isSome) ∧ ∀ y ∈ b, y.isSome := by
  rw [distance, Option.isSome_map]
  induction a generalizing b with
  | nil =>
      obtain rfl := List.length_eq_zero_iff.mp long.symm
      simp
  | cons x a ih =>
      cases b with
      | nil => cases long
      | cons y b =>
          have rest := ih (Nat.succ.inj long)
          rw [List.zip_cons_cons, List.foldr_cons]
          cases x with
          | none => simp [addSquare]
          | some x =>
              cases y with
              | none => simp [addSquare]
              | some y =>
                  have whole : ∀ sum : Option ℝ,
                      (plus (some ((x - y) * (x - y))) sum).isSome = sum.isSome := by
                    intro sum
                    cases sum <;> rfl
                  simp only [addSquare, whole, rest, List.forall_mem_cons, Option.isSome_some,
                    true_and]

/-! ## Stops by their index -/

section Stops

variable {asF64} {suggestions : List Suggestion} {dims : List String} {start : Option Params}

/-- The distances the suggestions are routed by. -/
noncomputable def reach (asF64 : Number → ℝ) (suggestions : List Suggestion) (dims : List String)
    (start : Option Params) : Nat → Nat → Option ℝ :=
  dist distance (suggestions.map fun suggestion => coords asF64 dims suggestion.params)
    (start.map (coords asF64 dims))

def CompleteAt (asF64 : Number → ℝ) (suggestions : List Suggestion) (dims : List String)
    (i : Nat) : Prop :=
  ∀ suggestion ∈ suggestions[i]?, Complete asF64 dims suggestion

/-- The distance between two nodes is the way between two stops. -/
theorem leg_reach {i j : Nat} (here : i ≤ suggestions.length) (next : j ≤ suggestions.length) :
    leg asF64 dims start suggestions[i]? suggestions[j]? = reach asF64 suggestions dims start i j := by
  unfold reach dist
  rw [List.length_map]
  by_cases anchored : i = suggestions.length
  · by_cases last : j = suggestions.length
    · simp [anchored, last, leg]
    · have inside : j < suggestions.length := by omega
      cases start <;> simp [anchored, last, leg, inside, coords]
  · have inside : i < suggestions.length := by omega
    by_cases last : j = suggestions.length
    · simp [anchored, last, leg, inside]
    · have within : j < suggestions.length := by omega
      simp [anchored, last, leg, inside, within]

theorem coords_whole {params : Params} :
    (∀ x ∈ coords asF64 dims params, x.isSome) ↔
      ∀ dim ∈ dims, (coordinate asF64 params dim).isSome := by
  simp [coords]

theorem reach_charted : Charted (reach asF64 suggestions dims start)
    (CompleteAt asF64 suggestions dims) suggestions.length where
  symmetric := by
    intro i first j second
    rw [← leg_reach first.le second.le, ← leg_reach second.le first.le,
      List.getElem?_eq_getElem first, List.getElem?_eq_getElem second]
    exact distance_comm _ _
  nonneg := by
    intro i j
    unfold reach dist
    split
    · exact le_rfl
    · split
      · cases (suggestions.map _)[j]? with
        | none => exact le_rfl
        | some point => exact distance_nonneg _ _
      · exact le_rfl
    · exact le_rfl
    · cases (suggestions.map _)[i]? with
      | none => exact le_rfl
      | some here =>
          cases (suggestions.map _)[j]? with
          | none => exact le_rfl
          | some next => exact distance_nonneg _ _
  defined := by
    intro i first j second
    rw [← leg_reach first.le second.le, List.getElem?_eq_getElem first,
      List.getElem?_eq_getElem second, leg, distance_isSome (by simp [coords]), coords_whole,
      coords_whole]
    simp [CompleteAt, Complete, first, second]
  anchor := by
    cases start with
    | none =>
        refine Or.inl fun j inside => ?_
        rw [← leg_reach le_rfl inside.le]
        simp [leg, inside]
    | some position =>
        refine Or.inr fun j inside known => ?_
        rw [← leg_reach le_rfl inside.le, List.getElem?_eq_none le_rfl,
          List.getElem?_eq_getElem inside, leg, distance_isSome (by simp [coords]), coords_whole,
          coords_whole] at known
        simpa [CompleteAt, Complete, inside] using known.2

/-- The first suggestion has a number for every routed dimension. -/
theorem complete_first : 0 < suggestions.length →
    CompleteAt asF64 suggestions (routedDims suggestions) 0 := by
  intro positive suggestion first dim routed
  cases suggestions with
  | nil => cases positive
  | cons head rest =>
      obtain rfl : head = suggestion := by simpa using first
      simp only [routedDims, List.mem_map, List.mem_filter] at routed
      obtain ⟨⟨key, value⟩, ⟨entry, number⟩, rfl⟩ := routed
      have held : head.params.lookup key = some value :=
        AList.mem_lookup_iff.mpr entry
      rw [coordinate, held]
      cases value <;> first | rfl | cases number

/-- Taking distinct suggestions out of their slots never meets one that is gone. -/
theorem takeSlots_of_nodup {order : List Nat} (slots : List (Option Suggestion))
    (distinct : order.Nodup) (held : ∀ i ∈ order, ∃ suggestion, slots[i]? = some (some suggestion)) :
    takeSlots order slots = some (order.filterMap fun i => slots[i]?.join) := by
  induction order generalizing slots with
  | nil => rfl
  | cons i order ih =>
      obtain ⟨suggestion, here⟩ := held i (by simp)
      obtain ⟨fresh, others⟩ := List.nodup_cons.mp distinct
      have kept : ∀ k ∈ order, (slots.set i none)[k]? = slots[k]? := fun k member =>
        List.getElem?_set_ne fun same : i = k => fresh (same ▸ member)
      have rest : takeSlots order (slots.set i none) =
          some (order.filterMap fun i => slots[i]?.join) := by
        rw [ih (slots.set i none) others fun k member => by
          rw [kept k member]
          exact held k (List.mem_cons_of_mem _ member)]
        exact congrArg some (List.filterMap_congr fun k member => by rw [kept k member])
      simp [takeSlots, here, rest]

theorem map_stops {order : List Nat} (within : ∀ i ∈ order, i < suggestions.length) :
    (order.filterMap (suggestions[·]?)).map some = order.map (suggestions[·]?) := by
  induction order with
  | nil => rfl
  | cons i order ih =>
      obtain ⟨suggestion, here⟩ : ∃ suggestion, suggestions[i]? = some suggestion :=
        ⟨_, List.getElem?_eq_getElem (within i (by simp))⟩
      rw [List.filterMap_cons, here, List.map_cons, List.map_cons, here,
        ih fun k member => within k (List.mem_cons_of_mem _ member)]

theorem stops_perm {order : List Nat} (perm : order.Perm (List.range suggestions.length)) :
    (order.filterMap (suggestions[·]?)).Perm suggestions := by
  have all : (List.range suggestions.length).filterMap (suggestions[·]?) = suggestions := by
    apply List.map_injective_iff.mpr (Option.some_injective _)
    rw [map_stops fun i => List.mem_range.mp]
    refine List.ext_getElem? fun i => ?_
    by_cases inside : i < suggestions.length
    · simp [inside]
    · simp [not_lt.mp inside]
  exact (perm.filterMap _).trans (.of_eq all)

theorem journey_stops {order : List Nat} (within : ∀ i ∈ order, i < suggestions.length) :
    journey (order.filterMap (suggestions[·]?)) =
      (suggestions.length :: order).map (suggestions[·]?) := by
  rw [journey, map_stops within, List.map_cons, List.getElem?_eq_none le_rfl]

theorem travelled_journey {path : List Nat} (within : ∀ i ∈ path, i ≤ suggestions.length) :
    travelled (leg asF64 dims start) (path.map (suggestions[·]?)) =
      travelled (reach asF64 suggestions dims start) path :=
  travelled_map _ fun i first j second => leg_reach (within i first) (within j second)

/-- What the construction starts the loop with. -/
theorem greedyPath_eq :
    greedyPath distance (suggestions.map fun suggestion => coords asF64 dims suggestion.params)
        (start.map (coords asF64 dims)) =
      suggestions.length :: construct (reach asF64 suggestions dims start) suggestions.length
        suggestions.length (List.range suggestions.length) := by
  rw [greedyPath, List.length_map, reach]

theorem nearestNeighbours_perm :
    (nearestNeighbours asF64 suggestions start).Perm suggestions := by
  rw [nearestNeighbours, greedyPath_eq]
  exact stops_perm (construct_perm _ _ _ _ List.length_range)

/-- With no routed dimension no way is any longer than another. -/
theorem travelled_flat (path : List (Option Suggestion)) :
    travelled (leg asF64 [] start) path = 0 := by
  have flat : ∀ here next, (leg asF64 [] start here next).getD 0 = 0 := by
    intro here next
    cases here <;> cases next <;> cases start <;> simp [leg, distance, coords]
  induction path with
  | nil => rfl
  | cons here rest ih =>
      cases rest with
      | nil => rfl
      | cons next rest => rw [travelled, flat, ih, add_zero]

theorem slack_pos : (0 : ℝ) < slack :=
  div_pos one_pos (pow_pos (by norm_num) _)

/-- The path the loop ends with, by the places of the suggestions. -/
theorem routeIndex_spec (asF64 : Number → ℝ) (start : Option Params)
    (many : 2 ≤ suggestions.length) :
    ∃ turns order,
      (∀ more, turns ≤ more → routeIndex distance
        (suggestions.map fun suggestion => coords asF64 (routedDims suggestions) suggestion.params)
        (start.map (coords asF64 (routedDims suggestions))) more = some order) ∧
      Visits (CompleteAt asF64 suggestions (routedDims suggestions)) suggestions.length
        (suggestions.length :: order) ∧
      travelled (reach asF64 suggestions (routedDims suggestions) start)
          (suggestions.length :: order) ≤
        travelled (reach asF64 suggestions (routedDims suggestions) start)
          (suggestions.length :: construct (reach asF64 suggestions (routedDims suggestions) start)
            suggestions.length suggestions.length (List.range suggestions.length)) ∧
      ∀ i j, 1 ≤ i → i < j → j ≤ suggestions.length →
        less (plus (beside (reach asF64 suggestions (routedDims suggestions) start)
            (suggestions.length :: order) i j j i) (some slack))
          (beside (reach asF64 suggestions (routedDims suggestions) start)
            (suggestions.length :: order) i j i j) = false := by
  have charted : Charted (reach asF64 suggestions (routedDims suggestions) start) _ _ :=
    reach_charted
  have visits := construct_visits charted complete_first
  obtain ⟨turns, enough⟩ := exists_nat_gt (travelled
    (reach asF64 suggestions (routedDims suggestions) start) (suggestions.length ::
      construct (reach asF64 suggestions (routedDims suggestions) start) suggestions.length
        suggestions.length (List.range suggestions.length)) / slack)
  obtain ⟨result, beyond, ends, noLonger, settled⟩ :=
    twoOpt_ends charted slack_pos turns visits ((div_lt_iff₀ slack_pos).mp enough)
  obtain ⟨order, rfl, perm, ordered⟩ := ends
  refine ⟨turns, order, fun more more' => ?_, ⟨order, rfl, perm, ordered⟩, noLonger, settled⟩
  rw [routeIndex, List.length_map, if_neg (by omega), greedyPath_eq]
  exact congrArg (Option.map List.tail) (beyond more more')

end Stops

/-- The route, over the list of dimensions that the program routes by. -/
theorem routeSuggestions_spec (suggestions : List Suggestion) (start : Option Params) :
    ∃ turns routed,
      (∀ more, turns ≤ more → routeSuggestions asF64 more suggestions start = some routed) ∧
      routed.Perm suggestions ∧
      travelled (leg asF64 (routedDims suggestions) start) (journey routed) ≤
        travelled (leg asF64 (routedDims suggestions) start)
          (journey (nearestNeighbours asF64 suggestions start)) ∧
      (∀ i j, 1 ≤ i → i < j → j ≤ routed.length →
        (sides (leg asF64 (routedDims suggestions) start) i j (journey routed)).isSome →
        (sides (leg asF64 (routedDims suggestions) start) i j
          (reverseSegment i j (journey routed))).isSome →
        travelled (leg asF64 (routedDims suggestions) start) (journey routed) ≤
          travelled (leg asF64 (routedDims suggestions) start)
            (reverseSegment i j (journey routed)) + slack) ∧
      routed.Pairwise fun earlier later => Complete asF64 (routedDims suggestions) later →
        Complete asF64 (routedDims suggestions) earlier := by
  by_cases few : suggestions.length < 2
  · have same : nearestNeighbours asF64 suggestions start = suggestions := by
      have perm : (nearestNeighbours asF64 suggestions start).Perm suggestions :=
        nearestNeighbours_perm
      match suggestions, few with
      | [], _ => exact List.perm_nil.mp perm
      | [_], _ => exact List.perm_singleton.mp perm
    refine ⟨0, suggestions, fun more _ => if_pos few, .refl _, ?_, ?_, ?_⟩
    · rw [same]
    · intro i j first longer bound
      omega
    · match suggestions, few with
      | [], _ => exact .nil
      | [_], _ => exact List.pairwise_singleton _ _
  by_cases flat : routedDims suggestions = []
  · refine ⟨0, suggestions, fun more _ => ?_, .refl _, ?_, ?_, ?_⟩
    · rw [routeSuggestions, if_neg few]
      exact if_pos flat
    · rw [flat, travelled_flat, travelled_flat]
    · intro i j _ _ _ _ _
      rw [flat, travelled_flat, travelled_flat, zero_add]
      exact slack_pos.le
    · refine List.pairwise_of_forall_mem_list fun earlier _ _ _ _ dim routed => ?_
      rw [flat] at routed
      cases routed
  obtain ⟨turns, order, beyond, visits, noLonger, settled⟩ :=
    routeIndex_spec asF64 start (not_lt.mp few)
  obtain ⟨_, same, perm, ordered⟩ := visits
  obtain rfl := (List.cons.inj same).2
  have within : ∀ {places : List Nat}, places.Perm (List.range suggestions.length) →
      ∀ i ∈ places, i < suggestions.length := fun perm i member =>
    List.mem_range.mp (perm.mem_iff.mp member)
  have below : ∀ {places : List Nat}, places.Perm (List.range suggestions.length) →
      ∀ i ∈ suggestions.length :: places, i ≤ suggestions.length := by
    intro places perm i member
    rcases List.mem_cons.mp member with rfl | member
    · exact le_rfl
    · exact (within perm i member).le
  have along := journey_stops (within perm)
  refine ⟨turns, order.filterMap (suggestions[·]?), fun more more' => ?_, stops_perm perm, ?_, ?_, ?_⟩
  · have taken := takeSlots_of_nodup (suggestions.map some)
      (perm.nodup_iff.mpr List.nodup_range) fun i member =>
        ⟨suggestions.get ⟨i, within perm i member⟩, by simp [within perm i member]⟩
    rw [routeSuggestions, if_neg few]
    dsimp only
    rw [if_neg flat, beyond more more', Option.bind_some, taken]
    have joined : ∀ i : Nat, (suggestions.map some)[i]?.join = suggestions[i]? := by
      intro i
      rw [List.getElem?_map]
      cases suggestions[i]? <;> rfl
    simp only [joined]
  · have built := construct_perm (reach asF64 suggestions (routedDims suggestions) start) _
      suggestions.length (List.range suggestions.length) List.length_range
    rw [along, travelled_journey (below perm), nearestNeighbours, greedyPath_eq, List.tail_cons,
      journey_stops (within built), travelled_journey (below built)]
    exact noLonger
  · intro i j first longer bound before after
    rw [(stops_perm perm).length_eq] at bound
    have inside : j < (suggestions.length :: order).length := by
      rw [List.length_cons, perm.length_eq, List.length_range]
      omega
    have turned := reverseSegment_perm i j (suggestions.length :: order) (by omega)
    have still : ∀ k ∈ reverseSegment i j (suggestions.length :: order), k ≤ suggestions.length :=
      fun k member => below perm k (turned.mem_iff.mp member)
    rw [along] at before after ⊢
    rw [reverseSegment_map] at after ⊢
    rw [sides_map _ (fun a inA b inB => leg_reach (below perm a inA) (below perm b inB)) first
      longer inside] at before
    rw [sides_map _ (fun a inA b inB => leg_reach (still a inA) (still b inB)) first longer
      (by rwa [turned.length_eq])] at after
    rw [travelled_journey (below perm), travelled_journey still]
    exact Visits.settled ⟨order, rfl, perm, ordered⟩ reach_charted first longer inside
      (settled i j first longer bound) before after
  · have mapped : ((order.filterMap (suggestions[·]?)).map some).Pairwise fun earlier later =>
        (∀ suggestion ∈ later, Complete asF64 (routedDims suggestions) suggestion) →
          ∀ suggestion ∈ earlier, Complete asF64 (routedDims suggestions) suggestion := by
      rw [map_stops (within perm)]
      exact List.pairwise_map.mpr ordered
    refine (List.pairwise_map.mp mapped).imp fun known whole => ?_
    exact known (fun _ same => Option.some.inj same ▸ whole) _ rfl

/-! ## What a route is measured by -/

/-- The routed dimensions: where the first suggestion has a number. -/
def Routed (suggestions : List Suggestion) (dim : String) : Prop :=
  ∃ first value, suggestions.head? = some first ∧ first.params.lookup dim = some (.number value)

/-- The Euclidean distance of two settings, where both have a number for every dimension. -/
noncomputable def apart (dims : Finset String) (a b : Params) : Option ℝ :=
  if ∀ dim ∈ dims, (coordinate asF64 a dim).isSome ∧ (coordinate asF64 b dim).isSome then
    some (Real.sqrt (∑ dim ∈ dims,
      ((coordinate asF64 a dim).getD 0 - (coordinate asF64 b dim).getD 0) ^ 2))
  else none

/-- The way from one stop to the next, the first from the start, where there is one. -/
noncomputable def way (dims : Finset String) (start : Option Params) :
    Option Suggestion → Option Suggestion → Option ℝ
  | some here, some next => apart asF64 dims here.params next.params
  | none, some next => start.elim (some 0) fun position => apart asF64 dims position next.params
  | _, none => some 0

variable {asF64}

theorem mem_routedDims {suggestions : List Suggestion} {dim : String} :
    dim ∈ routedDims suggestions ↔ Routed suggestions dim := by
  cases suggestions with
  | nil => simp [routedDims, Routed]
  | cons first rest =>
      simp only [routedDims, Routed, List.head?_cons, Option.some.injEq, List.mem_map,
        List.mem_filter]
      constructor
      · rintro ⟨⟨key, value⟩, ⟨entry, number⟩, rfl⟩
        cases value with
        | number value => exact ⟨first, value, rfl, AList.mem_lookup_iff.mpr entry⟩
        | _ => cases number
      · rintro ⟨_, value, rfl, held⟩
        exact ⟨⟨dim, .number value⟩, ⟨AList.mem_lookup_iff.mp held, rfl⟩, rfl⟩

theorem nodup_routedDims (suggestions : List Suggestion) : (routedDims suggestions).Nodup := by
  cases suggestions with
  | nil => exact .nil
  | cons first rest =>
      have distinct : (first.params.entries.map Sigma.fst).Nodup := first.params.nodupKeys
      exact distinct.sublist (List.filter_sublist.map _)

/-- The distance of the program, whose sum runs over a list of the dimensions. -/
theorem distance_coords (dims : List String) (a b : Params) :
    distance (coords asF64 dims a) (coords asF64 dims b) =
      if ∀ dim ∈ dims, (coordinate asF64 a dim).isSome ∧ (coordinate asF64 b dim).isSome then
        some (Real.sqrt (dims.map fun dim =>
          ((coordinate asF64 a dim).getD 0 - (coordinate asF64 b dim).getD 0) ^ 2).sum)
      else none := by
  have sums : ((coords asF64 dims a).zip (coords asF64 dims b)).foldr addSquare (some 0) =
      if ∀ dim ∈ dims, (coordinate asF64 a dim).isSome ∧ (coordinate asF64 b dim).isSome then
        some (dims.map fun dim =>
          ((coordinate asF64 a dim).getD 0 - (coordinate asF64 b dim).getD 0) ^ 2).sum
      else none := by
    induction dims with
    | nil => simp [coords]
    | cons dim dims ih =>
        simp only [coords, List.map_cons, List.zip_cons_cons, List.foldr_cons] at ih ⊢
        rw [ih]
        cases first : coordinate asF64 a dim with
        | none => simp [addSquare, first]
        | some x =>
            cases second : coordinate asF64 b dim with
            | none => simp [addSquare, first, second]
            | some y =>
                by_cases whole : ∀ dim ∈ dims,
                    (coordinate asF64 a dim).isSome ∧ (coordinate asF64 b dim).isSome
                · rw [if_pos whole, if_pos (by simpa [first, second] using whole)]
                  simp [addSquare, plus, pow_two]
                · rw [if_neg whole, if_neg (by simpa [first, second] using whole)]
                  rfl
  rw [distance, sums]
  split <;> rfl

theorem leg_way {dims : List String} {routed : Finset String} (distinct : dims.Nodup)
    (same : ∀ dim, dim ∈ routed ↔ dim ∈ dims) (start : Option Params) :
    leg asF64 dims start = way asF64 routed start := by
  obtain rfl : routed = dims.toFinset := by
    ext dim
    rw [same, List.mem_toFinset]
  have apart_eq (a b : Params) :
      distance (coords asF64 dims a) (coords asF64 dims b) = apart asF64 dims.toFinset a b := by
    rw [distance_coords, apart, List.sum_toFinset _ distinct]
    simp only [List.mem_toFinset]
  funext here next
  cases here <;> cases next <;> cases start <;> simp [leg, way, apart_eq]

/-- The loop ends, whatever it is given: with every suggestion once, on a way from the start that is
no longer than the nearest neighbours', and with the suggestions that miss a routed dimension last.
No reversal of a segment shortens it by more than the slack, where the ways onto the segment and on
from it are defined before and after. -/
theorem route_suggestions_short (asF64 : Number → ℝ) (suggestions : List Suggestion)
    (start : Option Params) (dims : Finset String)
    (all : ∀ dim, dim ∈ dims ↔ Routed suggestions dim) :
    ∃ turns routed,
      (∀ more, turns ≤ more → routeSuggestions asF64 more suggestions start = some routed) ∧
      routed.Perm suggestions ∧
      travelled (way asF64 dims start) (journey routed) ≤
        travelled (way asF64 dims start) (journey (nearestNeighbours asF64 suggestions start)) ∧
      (∀ i j, 1 ≤ i → i < j → j ≤ routed.length →
        (sides (way asF64 dims start) i j (journey routed)).isSome →
        (sides (way asF64 dims start) i j (reverseSegment i j (journey routed))).isSome →
        travelled (way asF64 dims start) (journey routed) ≤
          travelled (way asF64 dims start) (reverseSegment i j (journey routed)) + slack) ∧
      routed.Pairwise fun earlier later =>
        (∀ dim ∈ dims, (coordinate asF64 later.params dim).isSome) →
          ∀ dim ∈ dims, (coordinate asF64 earlier.params dim).isSome := by
  have same : ∀ dim, dim ∈ dims ↔ dim ∈ routedDims suggestions := fun dim =>
    (all dim).trans mem_routedDims.symm
  obtain ⟨turns, routed, ran, perm, noLonger, settled, ordered⟩ :=
    @routeSuggestions_spec asF64 suggestions start
  rw [leg_way (nodup_routedDims suggestions) same start] at noLonger settled
  refine ⟨turns, routed, ran, perm, noLonger, settled, ordered.imp fun known whole dim member => ?_⟩
  exact known (fun dim member => whole dim ((same dim).mpr member)) dim ((same dim).mp member)

/-- The value of a whole number. -/
private def wholeValue : Number → ℝ
  | .int value => value
  | .float _ => 0

private def settingAt (x : Int) : Params :=
  AList.singleton "x" (.number (.int x))

/-- Four points on a line, and a suggestion that has no place on it. -/
private def fiveStops : List Suggestion :=
  [⟨.int 0, settingAt 0⟩, ⟨.int 1, settingAt 3⟩, ⟨.int 2, settingAt 6⟩, ⟨.int 3, settingAt 9⟩,
    ⟨.int 4, ∅⟩]

private theorem routedDims_five : routedDims fiveStops = ["x"] := rfl

private theorem routed_fiveStops (dim : String) : dim ∈ ({"x"} : Finset String) ↔ Routed fiveStops dim := by
  rw [← mem_routedDims, routedDims_five, Finset.mem_singleton, List.mem_singleton]

/-- Every stop once, and the one without a place last. -/
theorem route_suggestions_short_five :
    ∃ turns routed,
      (∀ more, turns ≤ more →
        routeSuggestions wholeValue more fiveStops (some (settingAt 5)) = some routed) ∧
      routed.Perm fiveStops ∧
      routed.Pairwise fun earlier later =>
        (∀ dim ∈ ({"x"} : Finset String), (coordinate wholeValue later.params dim).isSome) →
          ∀ dim ∈ ({"x"} : Finset String), (coordinate wholeValue earlier.params dim).isSome := by
  obtain ⟨turns, routed, ran, perm, -, -, ordered⟩ :=
    route_suggestions_short wholeValue fiveStops (some (settingAt 5)) {"x"} routed_fiveStops
  exact ⟨turns, routed, ran, perm, ordered⟩

/-- The distance of two places on a line. -/
private def lineDistance : Option ℚ → Option ℚ → Option ℚ
  | some x, some y => some |x - y|
  | _, _ => none

private theorem distance_line (a b : Option ℚ) :
    distance [a.map ((↑) : ℚ → ℝ)] [b.map ((↑) : ℚ → ℝ)] =
      (lineDistance a b).map ((↑) : ℚ → ℝ) := by
  cases a <;> cases b <;>
    simp [distance, addSquare, plus, lineDistance, Real.sqrt_mul_self_eq_abs]

/-- The places of the stops. -/
private def fivePlaces : List (Option ℚ) :=
  [some (0 : Int), some (3 : Int), some (6 : Int), some (9 : Int), none]

private theorem routeIndex_five (more : Nat) (longer : 3 ≤ more) :
    routeIndex lineDistance fivePlaces (some (some (5 : Int))) more = some [0, 1, 2, 3, 4] := by
  have settled : twoOpt (dist lineDistance fivePlaces (some (some (5 : Int)))) slack 3
      (greedyPath lineDistance fivePlaces (some (some (5 : Int)))) = some [5, 0, 1, 2, 3, 4] := by
    decide +kernel
  rw [routeIndex, if_neg (by decide), twoOpt_more settled more longer]
  rfl

private theorem routeSuggestions_five (more : Nat) (longer : 3 ≤ more) :
    routeSuggestions wholeValue more fiveStops (some (settingAt 5)) = some fiveStops := by
  have place (x : Int) : coords wholeValue ["x"] (settingAt x) =
      [(some (x : ℚ)).map ((↑) : ℚ → ℝ)] := by
    simp [coords, coordinate, settingAt, wholeValue]
  have nowhere : coords wholeValue ["x"] ∅ = [(none : Option ℚ).map ((↑) : ℚ → ℝ)] := by
    simp [coords, coordinate]
  have points : (fiveStops.map fun suggestion => coords wholeValue ["x"] suggestion.params) =
      fivePlaces.map fun place => [place.map ((↑) : ℚ → ℝ)] := by
    simp only [fiveStops, fivePlaces, List.map_cons, List.map_nil, place, nowhere]
  have order := routeIndex_map (f := Rat.castHom ℝ) Rat.cast_strictMono
    (g := fun place : Option ℚ => [place.map ((↑) : ℚ → ℝ)]) distance_line fivePlaces
    (some (some (5 : Int))) more
  rw [Option.map_some, routeIndex_five more longer] at order
  rw [routeSuggestions, if_neg (by decide)]
  have dims := routedDims_five
  simp only [dims]
  rw [if_neg (by simp), points, Option.map_some, place, order]
  rfl

/-- Beside a suggestion that misses a routed coordinate no segment is reversed, and so the way through
the others is not the shortest that a reversal makes. -/
theorem route_suggestions_beside_missing :
    ¬ ∃ turns routed,
      (∀ more, turns ≤ more →
        routeSuggestions wholeValue more fiveStops (some (settingAt 5)) = some routed) ∧
      ∀ i j, 1 ≤ i → i < j → j ≤ routed.length →
        travelled (way wholeValue {"x"} (some (settingAt 5))) (journey routed) ≤
          travelled (way wholeValue {"x"} (some (settingAt 5)))
            (reverseSegment i j (journey routed)) + slack := by
  rintro ⟨turns, routed, ran, short⟩
  have same := ran (max turns 3) (le_max_left _ _)
  rw [routeSuggestions_five _ (le_max_right _ _)] at same
  obtain rfl := Option.some.inj same
  have turned := short 1 4 (by decide) (by decide) (by decide)
  have held (x : Int) : coordinate wholeValue (settingAt x) "x" = some (x : ℝ) := by
    simp [coordinate, settingAt, wholeValue]
  have between (x y : Int) :
      apart wholeValue {"x"} (settingAt x) (settingAt y) = some |(x : ℝ) - y| := by
    simp [apart, held, Real.sqrt_sq_eq_abs]
  have nowhere (x : Int) : apart wholeValue {"x"} (settingAt x) ∅ = none := by
    simp [apart, coordinate]
  simp only [journey, fiveStops, List.map_cons, List.map_nil] at turned
  norm_num [reverseSegment, travelled, way, between, nowhere, slack] at turned

end Suggestions

end Bsrs.Blop
