import Mathlib.Data.List.Nodup
import Mathlib.Data.List.Perm.Basic

/-! Lists taken apart around one entry: an entry found, taken out and put in by its place. -/

namespace Bsrs.Library

variable {α : Type u} {p : α → Bool} {left right : List α} {x y : α}

theorem findIdx?_middle (absent : ∀ z ∈ left, p z = false) (here : p x = true) :
    (left ++ x :: right).findIdx? p = some left.length := by
  induction left with
  | nil => rw [List.nil_append, List.findIdx?_cons, here]; rfl
  | cons head rest ih =>
      rw [List.cons_append, List.findIdx?_cons, absent head (by simp),
        ih fun z member => absent z (List.mem_cons_of_mem _ member)]
      rfl

/-- An entry with the property has a first one with it. -/
theorem exists_first {list : List α} (member : ∃ z ∈ list, p z = true) :
    ∃ left x right, list = left ++ x :: right ∧ p x = true ∧ ∀ z ∈ left, p z = false := by
  induction list with
  | nil => obtain ⟨_, none, _⟩ := member; cases none
  | cons head rest ih =>
      by_cases here : p head = true
      · exact ⟨[], head, rest, rfl, here, by simp⟩
      · obtain ⟨z, there, holds⟩ := member
        have later : z ∈ rest := by
          rcases List.mem_cons.mp there with rfl | later
          · exact absurd holds here
          · exact later
        obtain ⟨left, x, right, rfl, first, absent⟩ := ih ⟨z, later, holds⟩
        refine ⟨head :: left, x, right, rfl, first, ?_⟩
        intro z member
        rcases List.mem_cons.mp member with rfl | member
        · exact Bool.eq_false_iff.mpr here
        · exact absent z member

open Classical in
/-- The same of a property that need not be decided. -/
theorem exists_first_prop {holds : α → Prop} {list : List α} (member : ∃ z ∈ list, holds z) :
    ∃ left x right, list = left ++ x :: right ∧ holds x ∧ ∀ z ∈ left, ¬ holds z := by
  have decided : ∃ z ∈ list, decide (holds z) = true := by simpa using member
  obtain ⟨left, x, right, split, found, absent⟩ := exists_first decided
  exact ⟨left, x, right, split, of_decide_eq_true found, fun z among => of_decide_eq_false (absent z among)⟩

theorem getElem?_middle : (left ++ x :: right)[left.length]? = some x := by
  simp

theorem eraseIdx_middle : (left ++ x :: right).eraseIdx left.length = left ++ right := by
  rw [List.eraseIdx_append_of_length_le (Nat.le_refl _), Nat.sub_self]
  rfl

theorem insertIdx_middle (left right : List α) (x : α) :
    (left ++ right).insertIdx left.length x = left ++ x :: right := by
  induction left with
  | nil => rfl
  | cons head rest ih => exact congrArg (List.cons head) ih

theorem insertIdx_past :
    (left ++ y :: right).insertIdx (left.length + 1) x = left ++ y :: x :: right := by
  induction left with
  | nil => rfl
  | cons head rest ih => exact congrArg (List.cons head) ih

theorem set_middle : (left ++ x :: right).set left.length y = left ++ y :: right := by
  rw [List.set_append_right _ _ (Nat.le_refl _), Nat.sub_self]
  rfl

/-- The insertion at a place in range, as the two halves around it. -/
theorem insertIdx_eq_take_drop {list : List α} {place : Nat} (inside : place ≤ list.length) :
    list.insertIdx place x = list.take place ++ x :: list.drop place := by
  have whole := insertIdx_middle (list.take place) (list.drop place) x
  rwa [List.take_append_drop, List.length_take, Nat.min_eq_left inside] at whole

/-- A list is not itself with an entry more. -/
theorem ne_of_insertIdx {list : List α} {place : Nat} (inside : place ≤ list.length) :
    list.insertIdx place x ≠ list := by
  intro same
  have longer := List.length_insertIdx_of_le_length inside x
  rw [same] at longer
  omega

/-- What holds at every place of a list, of what is before it and the entry there, holds of a longer
list when it holds at the new place. -/
theorem forall_places_concat {holds : List α → α → Prop} {list : List α} {last : α} :
    (∀ left x right, list ++ [last] = left ++ x :: right → holds left x) ↔
      (∀ left x right, list = left ++ x :: right → holds left x) ∧ holds list last := by
  constructor
  · intro each
    exact ⟨fun left x right same => each left x (right ++ [last]) (by simp [same]),
      each list last [] rfl⟩
  · rintro ⟨earlier, here⟩ left x right same
    rcases List.eq_nil_or_concat right with rfl | ⟨before, entry, rfl⟩
    · obtain ⟨rfl, ends⟩ := List.append_inj' same rfl
      obtain rfl : last = x := by simpa using ends
      exact here
    · refine earlier left x before ?_
      have longer : list ++ [last] = (left ++ x :: before) ++ [entry] := by simpa using same
      exact (List.append_inj' longer rfl).1

end Bsrs.Library
