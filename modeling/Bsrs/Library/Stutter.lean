namespace Bsrs.Library

variable {α : Type}

/-- The second list is the first with some of its items said again, each where it stands. -/
inductive Stutters : List α → List α → Prop where
  | nil : Stutters [] []
  | next {said heard : List α} (item : α) : Stutters said heard →
      Stutters (said ++ [item]) (heard ++ [item])
  | again {said heard : List α} {item : α} : Stutters said heard → heard.getLast? = some item →
      Stutters said (heard ++ [item])

/-- Whoever hears some items again hears last what was said last. -/
theorem Stutters.getLast?_eq {said heard : List α} (stutters : Stutters said heard) :
    heard.getLast? = said.getLast? := by
  induction stutters with
  | nil => rfl
  | next item _ _ => simp
  | again _ last ih => rw [← ih, last, List.getLast?_concat]

end Bsrs.Library
