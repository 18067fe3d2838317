namespace Bsrs.Library

/-- The weights of the items, taken together. -/
def tally (weight : α → Nat) : List α → Nat
  | [] => 0
  | item :: rest => weight item + tally weight rest

variable {weight : α → Nat} {items : List α}

@[simp]
theorem tally_nil : tally weight [] = 0 := rfl

@[simp]
theorem tally_cons (item : α) (rest : List α) :
    tally weight (item :: rest) = weight item + tally weight rest := rfl

@[simp]
theorem tally_append (first second : List α) :
    tally weight (first ++ second) = tally weight first + tally weight second := by
  induction first with
  | nil => simp
  | cons item rest ih =>
      rw [List.cons_append, tally_cons, tally_cons, ih]
      omega

/-- What was among the items still is, unless it is what made way. -/
theorem mem_set_cases {position : Nat} {held : α} (found : items[position]? = some held) (put : α)
    {item : α} (member : item ∈ items) : item = held ∨ item ∈ items.set position put := by
  obtain ⟨place, here⟩ := List.getElem?_of_mem member
  by_cases same : position = place
  · subst same
    exact .inl (Option.some.inj (here.symm.trans found))
  · apply Or.inr
    apply List.mem_of_getElem?
    exact (List.getElem?_set_ne same).trans here

theorem getElem?_set_cases {position place : Nat} {put item : α}
    (found : (items.set position put)[place]? = some item) :
    (position = place ∧ item = put) ∨ (position ≠ place ∧ items[place]? = some item) := by
  rw [List.getElem?_set] at found
  split at found
  · rename_i same
    split at found
    · exact .inl ⟨same, (Option.some.inj found).symm⟩
    · cases found
  · rename_i different
    exact .inr ⟨different, found⟩

/-- An item put in the place of another changes the tally by their weights. -/
theorem tally_set {position : Nat} {held : α} (found : items[position]? = some held) (item : α) :
    tally weight (items.set position item) + weight held = tally weight items + weight item := by
  induction items generalizing position with
  | nil => simp at found
  | cons head rest ih =>
      cases position with
      | zero =>
          obtain rfl : head = held := by simpa using found
          simp only [List.set_cons_zero, tally_cons]
          omega
      | succ position =>
          have later := ih (by simpa using found : rest[position]? = some held)
          simp only [List.set_cons_succ, tally_cons]
          omega

theorem tally_set_same {position : Nat} {held item : α} (found : items[position]? = some held)
    (same : weight item = weight held) : tally weight (items.set position item) = tally weight items := by
  have both : tally weight (items.set position item) + weight held = tally weight items + weight item :=
    tally_set found item
  omega

theorem le_tally {item : α} (member : item ∈ items) : weight item ≤ tally weight items := by
  induction items with
  | nil => cases member
  | cons head rest ih =>
      rw [tally_cons]
      rcases List.mem_cons.mp member with rfl | later
      · omega
      · have := ih later
        omega

theorem tally_le_tally {lighter : α → Nat} (each : ∀ item, lighter item ≤ weight item) (items : List α) :
    tally lighter items ≤ tally weight items := by
  induction items with
  | nil => exact Nat.le_refl 0
  | cons head rest ih => exact Nat.add_le_add (each head) ih

theorem tally_eq_zero : tally weight items = 0 ↔ ∀ item ∈ items, weight item = 0 := by
  induction items with
  | nil => simp
  | cons head rest ih => simp [ih]

/-- Where the weights come to one at most, only one item has any. -/
theorem eq_of_tally_le_one (single : tally weight items ≤ 1) {first second : α} (left : first ∈ items)
    (right : second ∈ items) (some : 0 < weight first) (other : 0 < weight second) : first = second := by
  induction items with
  | nil => cases left
  | cons head rest ih =>
      rw [tally_cons] at single
      cases List.mem_cons.mp left with
      | inl here =>
          cases List.mem_cons.mp right with
          | inl there => rw [here, there]
          | inr later =>
              have above : weight second ≤ tally weight rest := le_tally later
              rw [here] at some
              omega
      | inr later =>
          have above : weight first ≤ tally weight rest := le_tally later
          cases List.mem_cons.mp right with
          | inl there =>
              rw [there] at other
              omega
          | inr behind => exact ih (by omega) later behind

end Bsrs.Library
