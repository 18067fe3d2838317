import Bsrs.Plans.Driving

namespace Bsrs.Plans

open Bsrs.Library (exec exec_alike)
open Bsrs.EventModel (Value)
open Bsrs.Core
open Bsrs.Engine (PlanStream Yield planItems)

variable {σ δ ρ κ φ ψ τ : Type}

/-! ## Plans that answer to each other poll by poll -/

/-- Two polls came to the same thing: items that agree, the same sinks, and plans that are alike. -/
structure Agree (same : σ → δ → Prop) (agrees : PlanItem → PlanItem → Prop) (left : Yield σ)
    (right : Yield δ) : Prop where
  item : Option.Rel agrees left.item right.item
  plan : same left.plan right.plan
  sinks : left.sinks = right.sinks

theorem Agree.outcome {same : σ → δ → Prop} {agrees : PlanItem → PlanItem → Prop} {left : Yield σ}
    {right : Yield δ} (agree : Agree same agrees left right) :
    (left.item = none ∧ right.item = none) ∨
      ∃ first second, left.item = some first ∧ right.item = some second ∧ agrees first second := by
  have items := agree.item
  cases one : left.item with
  | none =>
      cases two : right.item with
      | none => exact .inl ⟨rfl, rfl⟩
      | some second =>
          rw [one, two] at items
          cases items
  | some first =>
      cases two : right.item with
      | none =>
          rw [one, two] at items
          cases items
      | some second =>
          rw [one, two] at items
          cases items with
          | some agreed => exact .inr ⟨first, second, rfl, rfl, agreed⟩

/-- Plans that are alike stay so, whatever comes to them, and hand out items that agree. -/
structure Simulates (left : PlanStream σ) (right : PlanStream δ) (same : σ → δ → Prop)
    (agrees : PlanItem → PlanItem → Prop) : Prop where
  next : ∀ {first second}, same first second → ∀ sinks input,
    Agree same agrees (left.next first sinks input) (right.next second sinks input)
  respond : ∀ {first second}, same first second → ∀ result,
    same (left.respond first result) (right.respond second result)

/-- What can be told of a driven plan through a reading of its items. -/
def Driven.view (reading : PlanItem → α) (driven : Driven σ) : List α × Fate :=
  (driven.items.map reading, driven.fate)

theorem Driven.view_hand (reading : PlanItem → α) (driven : Driven σ) (plan : σ) (item : PlanItem)
    (input : Value) (handled : Bool) :
    (driven.hand plan item input handled).view reading =
      ((driven.view reading).1 ++ [reading item], (driven.view reading).2) := by
  simp [Driven.view, Driven.items, Driven.hand]

theorem Driven.view_endAs (reading : PlanItem → α) (driven : Driven σ) (plan : σ) (fate : Fate) :
    (driven.endAs plan fate).view reading = ((driven.view reading).1, fate) := rfl

/-- Driven by the same stimuli, plans that match each other as long as they go on tell the same
story. -/
theorem view_eq_of_alike {left : PlanStream σ} {right : PlanStream δ} (same : σ → δ → Prop)
    {reading other : PlanItem → α}
    (next : ∀ {first second}, same first second → ∀ sinks input,
      ((left.next first sinks input).item = none ∧ (right.next second sinks input).item = none) ∨
        ∃ item answer, (left.next first sinks input).item = some item ∧
          (right.next second sinks input).item = some answer ∧ reading item = other answer ∧
          same (left.next first sinks input).plan (right.next second sinks input).plan)
    (respond : ∀ {first second}, same first second → ∀ result,
      same (left.respond first result) (right.respond second result))
    {first : σ} {second : δ} (initial : same first second) (stimuli : List Stimulus) :
    (driveAll left first stimuli).map (Driven.view reading) =
      (driveAll right second stimuli).map (Driven.view other) := by
  let paired (one : Driven σ) (two : Driven δ) : Prop :=
    one.view reading = two.view other ∧ (one.fate = .running → same one.plan two.plan)
  have run : Option.Rel paired (driveAll left first stimuli) (driveAll right second stimuli) := by
    refine exec_alike ?_ stimuli ⟨rfl, fun _ => initial⟩
    rintro one two stimulus ⟨viewed, alike⟩
    have fates : one.fate = two.fate := congrArg Prod.snd viewed
    by_cases running : one.fate = .running
    · have alive : two.fate = .running := fates ▸ running
      cases stimulus with
      | poll sinks input handled =>
          rcases next (alike running) sinks input with
            ⟨ends, also⟩ | ⟨item, answer, yields, also, agreed, onward⟩
          · rw [drive_end running ends, drive_end alive also]
            refine .some ⟨?_, (by intros; contradiction)⟩
            rw [Driven.view_endAs, Driven.view_endAs, viewed]
          · rw [drive_item running yields, drive_item alive also]
            refine .some ⟨?_, fun _ => onward⟩
            rw [Driven.view_hand, Driven.view_hand, viewed, agreed]
      | answer result =>
          rw [drive_answer running, drive_answer alive]
          exact .some ⟨viewed, fun _ => respond (alike running) result⟩
      | drop =>
          simp only [drive, running, alive]
          refine .some ⟨?_, (by intros; contradiction)⟩
          rw [Driven.view_endAs, Driven.view_endAs, viewed]
    · have also : two.fate ≠ .running := fates ▸ running
      simp only [drive, ne_eq, running, also, not_false_eq_true, if_true]
      exact .none
  revert run
  generalize driveAll left first stimuli = one
  generalize driveAll right second stimuli = two
  intro run
  cases run with
  | none => rfl
  | some paired => exact congrArg some paired.1

theorem Simulates.view_eq {left : PlanStream σ} {right : PlanStream δ} {same : σ → δ → Prop}
    {agrees : PlanItem → PlanItem → Prop} (simulates : Simulates left right same agrees)
    {reading other : PlanItem → α}
    (reads : ∀ first second, agrees first second → reading first = other second)
    {first : σ} {second : δ} (initial : same first second) (stimuli : List Stimulus) :
    (driveAll left first stimuli).map (Driven.view reading) =
      (driveAll right second stimuli).map (Driven.view other) := by
  refine view_eq_of_alike same ?_ simulates.respond initial stimuli
  intro first second alike sinks input
  have agree := simulates.next alike sinks input
  rcases agree.outcome with ended | ⟨item, answer, yields, also, agreed⟩
  · exact .inl ended
  · exact .inr ⟨item, answer, yields, also, reads item answer agreed, agree.plan⟩

/-- What the polls to come will bring. -/
def pollInputs (stimuli : List Stimulus) : List Value :=
  stimuli.filterMap fun stimulus =>
    match stimulus with
    | .poll _ input _ => some input
    | .answer _ | .drop => none

/-- The runs came to the same end, with items that agree one by one. -/
structure RunsAgree (agrees : PlanItem → PlanItem → Prop) (left : Driven σ) (right : Driven δ) :
    Prop where
  items : List.Forall₂ agrees left.items right.items
  fate : left.fate = right.fate

theorem RunsAgree.hand {agrees : PlanItem → PlanItem → Prop} {left : Driven σ} {right : Driven δ}
    (agree : RunsAgree agrees left right) {item answer : PlanItem} (agreed : agrees item answer)
    (plan : σ) (other : δ) (input : Value) (handled : Bool) :
    RunsAgree agrees (left.hand plan item input handled) (right.hand other answer input handled) where
  items := by
    simpa [Driven.items, Driven.hand] using
      List.rel_append agree.items (List.Forall₂.cons agreed .nil)
  fate := agree.fate

/-- Plans that are alike in view of what their polls will bring run alike. -/
theorem driven_alike {left : PlanStream σ} {right : PlanStream δ}
    {agrees : PlanItem → PlanItem → Prop} (same : List Value → σ → δ → Prop)
    (next : ∀ {first second} sinks input later, same (input :: later) first second →
      Agree (same later) agrees (left.next first sinks input) (right.next second sinks input))
    (respond : ∀ {first second} inputs, same inputs first second → ∀ result,
      same inputs (left.respond first result) (right.respond second result)) :
    ∀ (stimuli : List Stimulus) {one : Driven σ} {two : Driven δ}, RunsAgree agrees one two →
      (one.fate = .running → same (pollInputs stimuli) one.plan two.plan) →
      Option.Rel (RunsAgree agrees) (exec (drive left) one stimuli) (exec (drive right) two stimuli) := by
  intro stimuli
  induction stimuli with
  | nil => exact fun agree _ => .some agree
  | cons stimulus rest ih =>
      intro one two agree alike
      simp only [exec]
      by_cases running : one.fate = .running
      · have alive : two.fate = .running := agree.fate ▸ running
        have matched := alike running
        cases stimulus with
        | poll sinks input handled =>
            have polled := next sinks input (pollInputs rest) matched
            rcases polled.outcome with ⟨ends, also⟩ | ⟨item, answer, yields, also, agreed⟩
            · rw [drive_end running ends, drive_end alive also]
              exact ih ⟨agree.items, rfl⟩ (by intros; contradiction)
            · rw [drive_item running yields, drive_item alive also]
              exact ih (agree.hand agreed _ _ input handled) fun _ => polled.plan
        | answer result =>
            rw [drive_answer running, drive_answer alive]
            exact ih ⟨agree.items, agree.fate⟩ fun _ => respond _ matched result
        | drop =>
            simp only [drive, running, alive]
            exact ih ⟨agree.items, rfl⟩ (by intros; contradiction)
      · have also : two.fate ≠ .running := agree.fate ▸ running
        simp only [drive, ne_eq, running, also, not_false_eq_true, if_true]
        exact .none

theorem Simulates.run {left : PlanStream σ} {right : PlanStream δ} {same : σ → δ → Prop}
    {agrees : PlanItem → PlanItem → Prop} (simulates : Simulates left right same agrees)
    {first : σ} {second : δ} (initial : same first second) (stimuli : List Stimulus) :
    Option.Rel (RunsAgree agrees) (driveAll left first stimuli) (driveAll right second stimuli) :=
  driven_alike (fun _ => same) (fun sinks input _ alike => simulates.next alike sinks input)
    (fun _ alike => simulates.respond alike) stimuli ⟨.nil, rfl⟩ fun _ => initial

/-- Plans made of finished lists of items that agree one by one. -/
theorem simulates_planItems (agrees : PlanItem → PlanItem → Prop) :
    Simulates planItems planItems (List.Forall₂ agrees) agrees where
  next := by
    intro first second same sinks input
    cases same with
    | nil => exact ⟨.none, .nil, rfl⟩
    | cons agreed rest => exact ⟨.some agreed, rest, rfl⟩
  respond := fun same _ => same

/-! ## Wrappers keep plans alike -/

/-- Alike generators of `contingency_wrapper`. -/
inductive GuardedAlike (same : σ → δ → Prop) (recovers : ρ → κ → Prop) (finals : φ → ψ → Prop) :
    Guarded σ ρ φ → Guarded δ κ ψ → Prop where
  | fresh {first second} (alike : same first second) :
      GuardedAlike same recovers finals (.fresh first) (.fresh second)
  | pushed {first second} (sink) (alike : same first second) :
      GuardedAlike same recovers finals (.pushed sink first) (.pushed sink second)
  | trying {first second} (sink) (alike : same first second) :
      GuardedAlike same recovers finals (.trying sink first) (.trying sink second)
  | popped {first second} (thrown) (alike : same first second) :
      GuardedAlike same recovers finals (.popped thrown first) (.popped thrown second)
  | recovering {first second one two} (reraise) (recovery : recovers one two)
      (alike : same first second) :
      GuardedAlike same recovers finals (.recovering reraise one first)
        (.recovering reraise two second)
  | finishing {one two} (reraise) (final : finals one two) :
      GuardedAlike same recovers finals (.finishing reraise one) (.finishing reraise two)
  | raised : GuardedAlike same recovers finals .raised .raised
  | spent : GuardedAlike same recovers finals .spent .spent

/-- Alike arguments of `contingency_wrapper`. -/
structure ContingencyAlike (same : σ → δ → Prop) (recovers : ρ → κ → Prop) (finals : φ → ψ → Prop)
    (left : Contingency σ ρ φ) (right : Contingency δ κ ψ) : Prop where
  exceptPlan : Option.Rel (fun one two => ∀ thrown, recovers (one thrown) (two thrown))
    left.exceptPlan right.exceptPlan
  elsePlan : Option.Rel recovers left.elsePlan right.elsePlan
  finalPlan : Option.Rel (fun one two => ∀ first second, same first second →
    finals (one first) (two second)) left.finalPlan right.finalPlan
  autoRaise : left.autoRaise = right.autoRaise

/-- What a wrapper's own control messages agree with: themselves. -/
structure AgreesOnControl (agrees : PlanItem → PlanItem → Prop) : Prop where
  push : ∀ sink, agrees (.bare (.pushContingency sink)) (.bare (.pushContingency sink))
  pop : agrees (.bare .popContingency) (.bare .popContingency)
  raise : ∀ thrown, agrees (.bare (.raise thrown)) (.bare (.raise thrown))

section Contingency

variable {plans : PlanStream σ} {others : PlanStream δ} {recoveries : PlanStream ρ}
  {repairs : PlanStream κ} {finals : PlanStream φ} {ends : PlanStream ψ}
  {same : σ → δ → Prop} {recovers : ρ → κ → Prop} {finishes : φ → ψ → Prop}
  {agrees : PlanItem → PlanItem → Prop} {left : Contingency σ ρ φ} {right : Contingency δ κ ψ}

theorem agree_tryNext (inner : Simulates plans others same agrees)
    (control : AgreesOnControl agrees) (sink : SinkId) {first : σ} {second : δ}
    (alike : same first second) (sinks : List (Option Thrown)) (input : Value) :
    Agree (GuardedAlike same recovers finishes) agrees (tryNext plans sink first sinks input)
      (tryNext others sink second sinks input) := by
  have agree := inner.next alike sinks input
  rcases agree.outcome with ⟨ends, also⟩ | ⟨item, answer, yields, also, agreed⟩
  · rw [tryNext_end ends, tryNext_end also]
    exact ⟨.some control.pop, .popped none agree.plan, agree.sinks⟩
  · rw [tryNext_item yields, tryNext_item also]
    exact ⟨.some agreed, .trying sink agree.plan, agree.sinks⟩

theorem agree_reraiseNext (control : AgreesOnControl agrees) (reraise : Option Thrown)
    (sinks : List (Option Thrown)) :
    Agree (GuardedAlike same recovers finishes) agrees (reraiseNext reraise sinks)
      (reraiseNext reraise sinks) := by
  cases reraise with
  | none => exact ⟨.none, .spent, rfl⟩
  | some thrown => exact ⟨.some (control.raise thrown), .raised, rfl⟩

theorem agree_finishNext (final : Simulates finals ends finishes agrees)
    (control : AgreesOnControl agrees) (reraise : Option Thrown) {one : φ} {two : ψ}
    (alike : finishes one two) (sinks : List (Option Thrown)) (input : Value) :
    Agree (GuardedAlike same recovers finishes) agrees
      (finishNext finals reraise one sinks input) (finishNext ends reraise two sinks input) := by
  have agree := final.next alike sinks input
  rcases agree.outcome with ⟨past, also⟩ | ⟨item, answer, yields, also, agreed⟩
  · rw [finishNext_end past, finishNext_end also, ← agree.sinks]
    have raised : Agree (GuardedAlike same recovers finishes) agrees
        (reraiseNext reraise (finals.next one sinks input).sinks)
        (reraiseNext reraise (finals.next one sinks input).sinks) :=
      agree_reraiseNext control reraise _
    exact ⟨raised.item, raised.plan, raised.sinks⟩
  · rw [finishNext_item yields, finishNext_item also]
    exact ⟨.some agreed, .finishing reraise agree.plan, agree.sinks⟩

theorem agree_finallyNext (final : Simulates finals ends finishes agrees)
    (control : AgreesOnControl agrees) (given : ContingencyAlike same recovers finishes left right)
    (reraise : Option Thrown) {first : σ} {second : δ} (alike : same first second)
    (sinks : List (Option Thrown)) (input : Value) :
    Agree (GuardedAlike same recovers finishes) agrees
      (finallyNext finals left reraise first sinks input)
      (finallyNext ends right reraise second sinks input) := by
  have plans := given.finalPlan
  unfold finallyNext
  revert plans
  cases left.finalPlan <;> cases right.finalPlan <;> intro plans <;> cases plans
  · exact agree_reraiseNext control reraise sinks
  · rename_i related
    exact agree_finishNext final control reraise (related first second alike) sinks input

theorem agree_recoverNext (recovery : Simulates recoveries repairs recovers agrees)
    (final : Simulates finals ends finishes agrees) (control : AgreesOnControl agrees)
    (given : ContingencyAlike same recovers finishes left right) (reraise : Option Thrown)
    {one : ρ} {two : κ} (recovered : recovers one two) {first : σ} {second : δ}
    (alike : same first second) (sinks : List (Option Thrown)) (input : Value) :
    Agree (GuardedAlike same recovers finishes) agrees
      (recoverNext recoveries finals left reraise one first sinks input)
      (recoverNext repairs ends right reraise two second sinks input) := by
  have agree := recovery.next recovered sinks input
  rcases agree.outcome with ⟨past, also⟩ | ⟨item, answer, yields, also, agreed⟩
  · rw [recoverNext_end past, recoverNext_end also, ← agree.sinks]
    have finish := agree_finallyNext final control given reraise alike
      (recoveries.next one sinks input).sinks input
    exact ⟨finish.item, finish.plan, finish.sinks⟩
  · rw [recoverNext_item yields, recoverNext_item also]
    exact ⟨.some agreed, .recovering reraise agree.plan alike, agree.sinks⟩

theorem agree_afterPop (recovery : Simulates recoveries repairs recovers agrees)
    (final : Simulates finals ends finishes agrees) (control : AgreesOnControl agrees)
    (given : ContingencyAlike same recovers finishes left right) (thrown : Option Thrown)
    {first : σ} {second : δ} (alike : same first second) (sinks : List (Option Thrown))
    (input : Value) :
    Agree (GuardedAlike same recovers finishes) agrees
      (afterPop recoveries finals left thrown first sinks input)
      (afterPop repairs ends right thrown second sinks input) := by
  have excepts := given.exceptPlan
  have elses := given.elsePlan
  unfold afterPop
  rw [given.autoRaise]
  revert excepts elses
  cases thrown with
  | some value =>
      cases left.exceptPlan <;> cases right.exceptPlan <;> intro excepts _ <;> cases excepts
      · exact agree_finallyNext final control given (some value) alike sinks input
      · rename_i related
        exact agree_recoverNext recovery final control given _ (related value) alike sinks input
  | none =>
      cases left.elsePlan <;> cases right.elsePlan <;> intro _ elses <;> cases elses
      · exact agree_finallyNext final control given none alike sinks input
      · rename_i related
        exact agree_recoverNext recovery final control given none related alike sinks input

/-- `contingency_wrapper` keeps plans alike. -/
theorem Simulates.contingency (inner : Simulates plans others same agrees)
    (recovery : Simulates recoveries repairs recovers agrees)
    (final : Simulates finals ends finishes agrees) (control : AgreesOnControl agrees)
    (given : ContingencyAlike same recovers finishes left right) :
    Simulates (contingencyWrapper plans recoveries finals left)
      (contingencyWrapper others repairs ends right)
      (GuardedAlike same recovers finishes) agrees where
  next := by
    intro first second guarded sinks input
    cases guarded with
    | fresh alike => exact ⟨.some (control.push _), .pushed _ alike, rfl⟩
    | pushed sink alike => exact agree_tryNext inner control sink alike sinks input
    | trying sink alike =>
        simp only [contingencyWrapper]
        split
        · exact ⟨.some control.pop, .popped _ alike, rfl⟩
        · exact agree_tryNext inner control sink alike sinks input
    | popped thrown alike =>
        exact agree_afterPop recovery final control given thrown alike sinks input
    | recovering reraise recovered alike =>
        exact agree_recoverNext recovery final control given reraise recovered alike sinks input
    | finishing reraise finished =>
        exact agree_finishNext final control reraise finished sinks input
    | raised => exact ⟨.none, .spent, rfl⟩
    | spent => exact ⟨.none, .spent, rfl⟩
  respond := by
    intro first second guarded result
    cases guarded with
    | fresh alike => exact .fresh alike
    | pushed sink alike => exact .pushed sink alike
    | trying sink alike => exact .trying sink (inner.respond alike result)
    | popped thrown alike => exact .popped thrown alike
    | recovering reraise recovered alike =>
        exact .recovering reraise (recovery.respond recovered result) alike
    | finishing reraise finished => exact .finishing reraise (final.respond finished result)
    | raised => exact .raised
    | spent => exact .spent

theorem simulates_noPlan (agrees : PlanItem → PlanItem → Prop) :
    Simulates noPlan noPlan (fun _ _ => True) agrees where
  next {first} := first.elim
  respond _ _ := trivial

/-- `finalize_wrapper` keeps plans alike, when the final plans agree where the inner ones are. -/
theorem Simulates.finalize (inner : Simulates plans others same agrees)
    (control : AgreesOnControl agrees) {one : σ → List PlanItem} {two : δ → List PlanItem}
    (given : ∀ first second, same first second → List.Forall₂ agrees (one first) (two second)) :
    Simulates (finalizeWrapper plans one) (finalizeWrapper others two)
      (GuardedAlike same (fun _ _ => True) (List.Forall₂ agrees)) agrees :=
  inner.contingency (simulates_noPlan agrees) (simulates_planItems agrees) control
    ⟨.none, .none, .some given, rfl⟩

end Contingency

end Bsrs.Plans
