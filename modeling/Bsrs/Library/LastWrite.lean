import Mathlib.Data.List.Basic

/-! Commands that write values under keys, of which the last one under a key counts. -/

namespace Bsrs.Library

variable {α κ β : Type} [DecidableEq κ]

/-- What is under `key` past the items, from what was there before. -/
def lastWrite (write : α → Option (κ × β)) (key : κ) (items : List α) (held : Option β) : Option β :=
  items.foldl
    (fun held item =>
      match write item with
      | some (other, value) => if other = key then some value else held
      | none => held)
    held

variable {write : α → Option (κ × β)} {key : κ}

theorem lastWrite_cons (item : α) (rest : List α) (held : Option β) :
    lastWrite write key (item :: rest) held =
      lastWrite write key rest (lastWrite write key [item] held) := rfl

@[simp]
theorem lastWrite_append (items others : List α) (held : Option β) :
    lastWrite write key (items ++ others) held =
      lastWrite write key others (lastWrite write key items held) :=
  List.foldl_append

theorem lastWrite_none {item : α} (silent : write item = none) (held : Option β) :
    lastWrite write key [item] held = held := by
  simp [lastWrite, silent]

theorem lastWrite_some {item : α} {value : β} (writes : write item = some (key, value))
    (held : Option β) : lastWrite write key [item] held = some value := by
  simp [lastWrite, writes]

theorem lastWrite_other {item : α} {other : κ} {value : β} (writes : write item = some (other, value))
    (different : other ≠ key) (held : Option β) : lastWrite write key [item] held = held := by
  simp [lastWrite, writes, different]

/-- Items that do not write the key leave it. -/
theorem lastWrite_of_unwritten {items : List α}
    (unwritten : ∀ item ∈ items, ∀ value, write item ≠ some (key, value)) (held : Option β) :
    lastWrite write key items held = held := by
  induction items generalizing held with
  | nil => rfl
  | cons item rest ih =>
      have first : lastWrite write key [item] held = held := by
        cases writes : write item with
        | none => exact lastWrite_none writes held
        | some pair =>
            obtain ⟨other, value⟩ := pair
            apply lastWrite_other writes
            intro same
            subst same
            exact unwritten item (List.mem_cons_self ..) value writes
      rw [lastWrite_cons, first]
      apply ih
      intro other member
      exact unwritten other (List.mem_cons_of_mem _ member)

theorem lastWrite_of_silent {items : List α} (silent : ∀ item ∈ items, write item = none)
    (held : Option β) : lastWrite write key items held = held := by
  apply lastWrite_of_unwritten
  intro item member value
  simp [silent item member]

end Bsrs.Library
