import Mathlib.Data.List.Basic

namespace Bsrs.Library

/-- The journal `after` is `before` with entries on top that all satisfy `skipped`. -/
def Grows (skipped : ε → Bool) (before after : List ε) : Prop :=
  ∃ added, after = added ++ before ∧ ∀ entry ∈ added, skipped entry = true

namespace Grows

variable {skipped : ε → Bool}

theorem refl (log : List ε) : Grows skipped log log :=
  ⟨[], rfl, by simp⟩

theorem cons {entry : ε} (known : skipped entry = true) (log : List ε) :
    Grows skipped log (entry :: log) :=
  ⟨[entry], rfl, by simpa using known⟩

theorem trans {first second third : List ε} (head : Grows skipped first second)
    (tail : Grows skipped second third) : Grows skipped first third := by
  obtain ⟨earlier, rfl, known⟩ := head
  obtain ⟨later, rfl, also⟩ := tail
  refine ⟨later ++ earlier, (List.append_assoc _ _ _).symm, ?_⟩
  intro entry member
  rcases List.mem_append.mp member with recent | past
  · exact also entry recent
  · exact known entry past

theorem mono {wider : ε → Bool} (wide : ∀ entry, skipped entry = true → wider entry = true)
    {before after : List ε} (grown : Grows skipped before after) : Grows wider before after := by
  obtain ⟨added, rfl, known⟩ := grown
  exact ⟨added, rfl, fun entry member => wide entry (known entry member)⟩

/-- A reading of the journal that passes over the skipped entries does not change. -/
theorem reading {view : List ε → α}
    (skips : ∀ entry rest, skipped entry = true → view (entry :: rest) = view rest)
    {before after : List ε} (grown : Grows skipped before after) : view after = view before := by
  obtain ⟨added, rfl, known⟩ := grown
  induction added with
  | nil => rfl
  | cons entry rest ih =>
      rw [List.cons_append, skips entry _ (known entry (by simp))]
      exact ih fun other member => known other (by simp [member])

end Grows

/-- Every entry of the journal passes `check` against the entries before it. -/
def Always (check : ε → List ε → Prop) : List ε → Prop
  | [] => True
  | entry :: rest => check entry rest ∧ Always check rest

namespace Always

variable {check : ε → List ε → Prop}

instance decidable [∀ entry rest, Decidable (check entry rest)] :
    ∀ log, Decidable (Always check log)
  | [] => isTrue trivial
  | entry :: rest => @instDecidableAnd (check entry rest) (Always check rest) _ (decidable rest)

/-- Entries that always pass leave the verdict as it is. -/
theorem grows {skipped : ε → Bool}
    (passes : ∀ entry rest, skipped entry = true → check entry rest)
    {before after : List ε} (grown : Grows skipped before after) :
    Always check after ↔ Always check before := by
  obtain ⟨added, rfl, known⟩ := grown
  induction added with
  | nil => rfl
  | cons entry rest ih =>
      have earlier := ih fun other member => known other (by simp [member])
      exact (and_iff_right (passes entry _ (known entry (by simp)))).trans earlier

theorem append {added log : List ε} (always : Always check (added ++ log)) : Always check log := by
  induction added with
  | nil => exact always
  | cons entry rest ih => exact ih always.2

end Always

end Bsrs.Library
