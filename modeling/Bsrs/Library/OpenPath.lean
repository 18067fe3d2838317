import Mathlib.Algebra.Order.Archimedean.Basic
import Mathlib.Algebra.Order.Ring.Defs
import Mathlib.Data.List.Basic
import Mathlib.Tactic.Linarith

/-! Paths through given nodes, some of whose distances may be undefined, and what reversing a
segment of one does to its length. -/

namespace Bsrs.Library

variable {N R : Type} [Field R] (edge : N → N → Option R)

/-- The sum of the distances along a path that are defined. -/
def travelled : List N → R
  | here :: next :: rest => (edge here next).getD 0 + travelled (next :: rest)
  | _ => 0

/-- `path[i..=j].reverse()`. -/
def reverseSegment (i j : Nat) (path : List N) : List N :=
  path.take i ++ ((path.drop i).take (j + 1 - i)).reverse ++ path.drop (j + 1)

/-- The distance to the first node of `rest`, which is nothing if there is none. -/
def onward (here : N) : List N → Option R
  | next :: _ => edge here next
  | [] => some 0

/-- The distances onto `path[i..=j]` and on from it. -/
def sides (i j : Nat) (path : List N) : Option R :=
  path[i - 1]?.bind fun here => path[i]?.bind fun head => path[j]?.bind fun last =>
    (edge here head).bind fun enter =>
      (onward edge last (path.drop (j + 1))).map fun leave => enter + leave

theorem reverseSegment_perm (i j : Nat) (path : List N) (ordered : i ≤ j + 1) :
    (reverseSegment i j path).Perm path := by
  have middle : ((path.drop i).take (j + 1 - i)).reverse.Perm ((path.drop i).take (j + 1 - i)) :=
    List.reverse_perm _
  refine ((middle.append_left _).append_right _).trans ?_
  have rest : path.drop (j + 1) = (path.drop i).drop (j + 1 - i) := by
    rw [List.drop_drop, Nat.add_sub_cancel' ordered]
  rw [rest, List.append_assoc, List.take_append_drop, List.take_append_drop]

/-- Reversing the segment between `here` and `back`. -/
theorem reverseSegment_apart (front : List N) (here : N) (segment back : List N) :
    reverseSegment (front.length + 1) (front.length + segment.length)
        (front ++ here :: (segment ++ back)) =
      front ++ here :: (segment.reverse ++ back) := by
  have split : front ++ here :: (segment ++ back) = (front ++ [here]) ++ (segment ++ back) := by
    simp
  have start : (front ++ [here]).length = front.length + 1 := by simp
  have upTo : front.length + segment.length + 1 - (front.length + 1) = segment.length := by omega
  have past : (front.length + segment.length + 1) =
      (front ++ [here]).length + segment.length := by
    rw [start]
    omega
  rw [reverseSegment, split, upTo, past, ← start, List.take_left, List.drop_left, List.take_left,
    ← List.drop_drop, List.drop_left, List.drop_left]
  simp

/-- A segment that starts past the first node and has two or more nodes, taken apart. -/
private theorem segment_apart {path : List N} {i j : Nat} (first : 1 ≤ i) (longer : i < j)
    (inside : j < path.length) :
    ∃ front here head middle last back,
      path = front ++ here :: head :: (middle ++ last :: back) ∧
      front.length + 1 = i ∧ i + middle.length + 1 = j := by
  obtain ⟨start, rfl⟩ : ∃ start, i = start + 1 := ⟨i - 1, by omega⟩
  obtain ⟨count, rfl⟩ : ∃ count, j = start + 1 + count + 1 := ⟨j - start - 2, by omega⟩
  have here : start < path.length := by omega
  have head : start + 1 < path.length := by omega
  have last : start + 1 + count + 1 < path.length := inside
  refine ⟨path.take start, path[start], path[start + 1], (path.drop (start + 2)).take count,
    path[start + 1 + count + 1], path.drop (start + count + 3), ?_, ?_, ?_⟩
  · have tail : (path.drop (start + 2)).drop count =
        path[start + 1 + count + 1] :: path.drop (start + count + 3) := by
      rw [List.drop_drop, show start + 2 + count = start + 1 + count + 1 by omega,
        List.drop_eq_getElem_cons last,
        show start + 1 + count + 1 + 1 = start + count + 3 by omega]
    rw [← tail, List.take_append_drop, ← List.drop_eq_getElem_cons head,
      ← List.drop_eq_getElem_cons here, List.take_append_drop]
  · rw [List.length_take, Nat.min_eq_left here.le]
  · rw [List.length_take, List.length_drop, Nat.min_eq_left (by omega)]

/-- A segment that can be reversed, and the path after it is. -/
theorem exists_segment {path : List N} {i j : Nat} (first : 1 ≤ i) (longer : i < j)
    (inside : j < path.length) :
    ∃ front here head middle last back,
      path = front ++ here :: head :: (middle ++ last :: back) ∧
      reverseSegment i j path = front ++ here :: last :: (middle.reverse ++ head :: back) ∧
      front.length + 1 = i ∧ i + middle.length + 1 = j := by
  obtain ⟨front, here, head, middle, last, back, rfl, starts, upTo⟩ :=
    segment_apart first longer inside
  refine ⟨front, here, head, middle, last, back, rfl, ?_, starts, upTo⟩
  have reversed := reverseSegment_apart front here (head :: (middle ++ [last])) back
  have length : front.length + (head :: (middle ++ [last])).length = j := by
    simp only [List.length_cons, List.length_append, List.length_nil]
    omega
  rw [length, starts] at reversed
  simpa using reversed

theorem travelled_cons (here : N) (rest : List N) :
    travelled edge (here :: rest) = (onward edge here rest).getD 0 + travelled edge rest := by
  cases rest with
  | nil => simp [travelled, onward]
  | cons next rest => rfl

theorem travelled_append (front : List N) (here : N) (rest : List N) :
    travelled edge (front ++ here :: rest) =
      travelled edge (front ++ [here]) + travelled edge (here :: rest) := by
  induction front with
  | nil => simp [travelled]
  | cons first front ih =>
      have joins : onward edge first (front ++ here :: rest) =
          onward edge first (front ++ [here]) := by
        cases front <;> rfl
      rw [List.cons_append, List.cons_append, travelled_cons, travelled_cons, ih, joins]
      ring

/-- Where going back takes as long as going, so does a whole path. -/
theorem travelled_reverse {nodes : List N}
    (symmetric : ∀ a ∈ nodes, ∀ b ∈ nodes, edge a b = edge b a) :
    travelled edge nodes.reverse = travelled edge nodes := by
  induction nodes with
  | nil => rfl
  | cons first rest ih =>
      have shorter := ih fun a inA b inB =>
        symmetric a (List.mem_cons_of_mem _ inA) b (List.mem_cons_of_mem _ inB)
      cases rest with
      | nil => rfl
      | cons second rest =>
          have turned : edge second first = edge first second :=
            symmetric second (by simp) first (by simp)
          rw [List.reverse_cons, List.reverse_cons, List.append_assoc, List.singleton_append,
            travelled_append, ← List.reverse_cons, shorter]
          simp [travelled, turned, add_comm]

/-- What lies beside a segment is all that reversing it changes. -/
theorem travelled_turned (front : List N) (here head : N) (middle : List N) (last : N)
    (back : List N)
    (symmetric : ∀ a ∈ head :: (middle ++ [last]), ∀ b ∈ head :: (middle ++ [last]),
      edge a b = edge b a) :
    travelled edge (front ++ here :: (last :: (middle.reverse ++ head :: back))) +
        ((edge here head).getD 0 + (onward edge last back).getD 0) =
      travelled edge (front ++ here :: (head :: (middle ++ last :: back))) +
        ((edge here last).getD 0 + (onward edge head back).getD 0) := by
  have inner : travelled edge (last :: (middle.reverse ++ [head])) =
      travelled edge (head :: (middle ++ [last])) := by
    rw [← travelled_reverse edge symmetric]
    simp
  have ahead : travelled edge (head :: (middle ++ last :: back)) =
      travelled edge (head :: (middle ++ [last])) + travelled edge (last :: back) :=
    travelled_append edge (head :: middle) last back
  have turned : travelled edge (last :: (middle.reverse ++ head :: back)) =
      travelled edge (last :: (middle.reverse ++ [head])) + travelled edge (head :: back) :=
    travelled_append edge (last :: middle.reverse) head back
  rw [travelled_append edge front here, travelled_append edge front here (head :: _),
    travelled_cons edge here, travelled_cons edge here (head :: _), ahead, turned, inner,
    travelled_cons edge last back, travelled_cons edge head back]
  simp only [onward]
  ring

theorem travelled_nonneg [LinearOrder R] [IsStrictOrderedRing R]
    (positive : ∀ a b, 0 ≤ (edge a b).getD 0) (path : List N) :
    0 ≤ travelled edge path := by
  induction path with
  | nil => exact le_rfl
  | cons here rest ih =>
      rw [travelled_cons]
      refine add_nonneg ?_ ih
      cases rest with
      | nil => exact le_rfl
      | cons next _ => exact positive here next

/-- The sides of a segment, told by what lies beside it. -/
theorem sides_apart {i j : Nat} (front : List N) (here head : N) (middle : List N) (last : N)
    (back : List N) (first : front.length + 1 = i) (upTo : i + middle.length + 1 = j) :
    sides edge i j (front ++ here :: head :: (middle ++ last :: back)) =
      (edge here head).bind fun enter =>
        (onward edge last back).map fun leave => enter + leave := by
  subst first upTo
  have leaves : (front ++ here :: head :: (middle ++ last :: back))[
      front.length + 1 + middle.length + 1]? = some last := by
    rw [List.getElem?_append_right (by omega),
      show front.length + 1 + middle.length + 1 - front.length = middle.length + 1 + 1 by omega]
    simp
  have past : (front ++ here :: head :: (middle ++ last :: back)).drop
      (front.length + 1 + middle.length + 1 + 1) = back := by
    have whole : front.length + 1 + middle.length + 1 + 1 =
        (front ++ here :: head :: (middle ++ [last])).length := by
      simp only [List.length_append, List.length_cons, List.length_nil]
      omega
    have apart : front ++ here :: head :: (middle ++ last :: back) =
        (front ++ here :: head :: (middle ++ [last])) ++ back := by
      simp
    rw [whole, apart, List.drop_left]
  simp [sides, leaves, past]

section Transfer

variable {M : Type} (f : M → N) {path : List M} {i j : Nat}

theorem reverseSegment_map (path : List M) :
    reverseSegment i j (path.map f) = (reverseSegment i j path).map f := by
  simp [reverseSegment, List.map_take, List.map_drop]

variable {edge} {inner : M → M → Option R}

/-- Two ways to give the distances between the nodes of a path. -/
theorem travelled_map (same : ∀ a ∈ path, ∀ b ∈ path, edge (f a) (f b) = inner a b) :
    travelled edge (path.map f) = travelled inner path := by
  induction path with
  | nil => rfl
  | cons here rest ih =>
      have joins : onward edge (f here) (rest.map f) = onward inner here rest := by
        cases rest with
        | nil => rfl
        | cons next rest => exact same here (by simp) next (by simp)
      rw [List.map_cons, travelled_cons, travelled_cons, joins, ih fun a inA b inB =>
        same a (List.mem_cons_of_mem _ inA) b (List.mem_cons_of_mem _ inB)]

theorem sides_map (same : ∀ a ∈ path, ∀ b ∈ path, edge (f a) (f b) = inner a b)
    (first : 1 ≤ i) (longer : i < j) (inside : j < path.length) :
    sides edge i j (path.map f) = sides inner i j path := by
  obtain ⟨front, here, head, middle, last, back, rfl, -, starts, upTo⟩ :=
    exists_segment first longer inside
  have mapped : (front ++ here :: head :: (middle ++ last :: back)).map f =
      front.map f ++ f here :: f head :: (middle.map f ++ f last :: back.map f) := by
    simp
  have leaves : onward edge (f last) (back.map f) = onward inner last back := by
    cases back with
    | nil => rfl
    | cons next back => exact same last (by simp) next (by simp)
  rw [mapped, sides_apart edge _ _ _ _ _ _ (by simpa using starts) (by simpa using upTo),
    sides_apart inner _ _ _ _ _ _ starts upTo, same here (by simp) head (by simp), leaves]

end Transfer

end Bsrs.Library
