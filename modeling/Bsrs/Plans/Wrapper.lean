import Bsrs.Engine.RunLoop

namespace Bsrs.Core

/-- `PlanItem::map_msg`: the item keeps its kind, and with it its response channel. -/
def PlanItem.mapMsg (update : Msg → Msg) : PlanItem → PlanItem
  | .bare msg => .bare (update msg)
  | .respond msg => .respond (update msg)

@[simp]
theorem PlanItem.msg_mapMsg (update : Msg → Msg) (item : PlanItem) :
    (item.mapMsg update).msg = update item.msg := by
  cases item <;> rfl

end Bsrs.Core

namespace Bsrs.Plans

open Bsrs.Library (Table)
open Bsrs.EventModel (Value)
open Bsrs.Core
open Bsrs.Engine (PlanStream Yield planItems)

/-! ## Wrappers that take their inner plan item by item -/

/-- One `yield` of a wrapper's loop body: the item, whether the wrapper put it in, and what the
wrapper knows once it is resumed after it. -/
structure Emission (τ : Type) where
  item : PlanItem
  inserted : Bool
  resumed : τ
  deriving DecidableEq

/-- What a wrapper's loop body does with one item of the inner plan: what the wrapper knows at its
first `yield`, its yields in order, and whether it returns after the last. -/
structure Treatment (τ : Type) where
  memo : τ
  first : Emission τ
  rest : List (Emission τ)
  returns : Bool

namespace Treatment

variable {τ : Type}

/-- The item goes on as it came. -/
def pass (memo : τ) (item : PlanItem) : Treatment τ :=
  ⟨memo, ⟨item, false, memo⟩, [], false⟩

/-- Everything the body yields. -/
def emitted (treatment : Treatment τ) : List PlanItem :=
  (treatment.first :: treatment.rest).map Emission.item

/-- What the wrapper knows once the body is through. -/
def left (treatment : Treatment τ) : τ :=
  (treatment.rest.getLast?.getD treatment.first).resumed

@[simp]
theorem emitted_pass (memo : τ) (item : PlanItem) : (pass memo item).emitted = [item] := rfl

@[simp]
theorem left_pass (memo : τ) (item : PlanItem) : (pass memo item).left = memo := rfl

theorem returns_pass (memo : τ) (item : PlanItem) : (pass memo item).returns = false := rfl

end Treatment

/-- A wrapper's generator: what it knows, what it will know once resumed, the yields of its body
still to come, whether the item it is suspended at is one it put in, and the inner plan. -/
structure Through (τ σ : Type) where
  memo : τ
  resumed : τ
  pending : List (Emission τ)
  inserting : Bool
  returned : Bool
  inner : σ
  deriving DecidableEq

variable {τ σ ρ φ : Type}

/-- The generator before its first poll. -/
def Through.start (memo : τ) (inner : σ) : Through τ σ :=
  ⟨memo, memo, [], false, false, inner⟩

/-- Suspended at one more yield of the body. -/
def Through.suspend (plan : Through τ σ) (memo : τ) (emission : Emission τ)
    (pending : List (Emission τ)) : Through τ σ :=
  { plan with memo, resumed := emission.resumed, pending, inserting := emission.inserted }

/-- Resumed for the last time. -/
def Through.finish (plan : Through τ σ) : Through τ σ :=
  { plan with memo := plan.resumed, inserting := false, returned := true }

/-- The generator `while let Some(item) = inner.next().await { body }`. -/
def through (body : τ → Value → PlanItem → Treatment τ) (plans : PlanStream σ) :
    PlanStream (Through τ σ) where
  next plan sinks input :=
    match plan.pending with
    | emission :: rest => ⟨some emission.item, plan.suspend plan.resumed emission rest, sinks, []⟩
    | [] =>
        if plan.returned then ⟨none, plan.finish, sinks, []⟩
        else
          let yielded := plans.next plan.inner sinks input
          let plan := { plan with inner := yielded.plan }
          match yielded.item with
          | none => ⟨none, plan.finish, yielded.sinks, yielded.notes⟩
          | some item =>
              let treatment := body plan.resumed input item
              ⟨some treatment.first.item,
                { plan.suspend treatment.memo treatment.first treatment.rest with
                  returned := treatment.returns },
                yielded.sinks, yielded.notes⟩
  respond plan answer := { plan with inner := plans.respond plan.inner answer }

section Through

variable {body : τ → Value → PlanItem → Treatment τ} {plans : PlanStream σ} {plan : Through τ σ}
  {sinks : List (Option Thrown)} {input : Value}

theorem through_pending {emission : Emission τ} {rest : List (Emission τ)}
    (pending : plan.pending = emission :: rest) :
    (through body plans).next plan sinks input =
      ⟨some emission.item, plan.suspend plan.resumed emission rest, sinks, []⟩ := by
  simp [through, pending]

theorem through_returned (idle : plan.pending = []) (returned : plan.returned = true) :
    (through body plans).next plan sinks input = ⟨none, plan.finish, sinks, []⟩ := by
  simp [through, idle, returned]

theorem through_end (idle : plan.pending = []) (going : plan.returned = false)
    (ends : (plans.next plan.inner sinks input).item = none) :
    (through body plans).next plan sinks input =
      ⟨none, { plan with inner := (plans.next plan.inner sinks input).plan }.finish,
        (plans.next plan.inner sinks input).sinks, (plans.next plan.inner sinks input).notes⟩ := by
  simp [through, idle, going, ends]

theorem through_item {item : PlanItem} (idle : plan.pending = []) (going : plan.returned = false)
    (yields : (plans.next plan.inner sinks input).item = some item) :
    (through body plans).next plan sinks input =
      ⟨some (body plan.resumed input item).first.item,
        { memo := (body plan.resumed input item).memo
          resumed := (body plan.resumed input item).first.resumed
          pending := (body plan.resumed input item).rest
          inserting := (body plan.resumed input item).first.inserted
          returned := (body plan.resumed input item).returns
          inner := (plans.next plan.inner sinks input).plan },
        (plans.next plan.inner sinks input).sinks, (plans.next plan.inner sinks input).notes⟩ := by
  simp [through, idle, going, yields, Through.suspend]

end Through

/-! ## `contingency_wrapper` -/

/-- Where the generator of `contingency_wrapper` is suspended: before its first poll, at its
`PushContingency`, at an item of the inner plan, at its `PopContingency`, in the except or else plan,
in the final plan, at its `Raise`, or past it all. -/
inductive Guarded (σ ρ φ : Type) where
  | fresh (inner : σ)
  | pushed (sink : SinkId) (inner : σ)
  | trying (sink : SinkId) (inner : σ)
  | popped (thrown : Option Thrown) (inner : σ)
  | recovering (reraise : Option Thrown) (recovery : ρ) (inner : σ)
  | finishing (reraise : Option Thrown) (final : φ)
  | raised
  | spent
  deriving DecidableEq

/-- The plans a `contingency_wrapper` is given besides the inner one, and `auto_raise`. The final plan
may share data with the inner plan, so it starts from where that one was left. -/
structure Contingency (σ ρ φ : Type) where
  exceptPlan : Option (Thrown → ρ)
  elsePlan : Option ρ
  finalPlan : Option (σ → φ)
  autoRaise : Bool

/-- What is thrown into the region is handled by the except plan and not raised again. -/
def Contingency.swallows (contingency : Contingency σ ρ φ) : Bool :=
  contingency.exceptPlan.isSome && !contingency.autoRaise

section

variable (plans : PlanStream σ) (recoveries : PlanStream ρ) (finals : PlanStream φ)
  (contingency : Contingency σ ρ φ)

/-- Forward the next item of the inner plan; when it has none, leave the region. -/
def tryNext (sink : SinkId) (inner : σ) (sinks : List (Option Thrown)) (input : Value) :
    Yield (Guarded σ ρ φ) :=
  let yielded := plans.next inner sinks input
  match yielded.item with
  | some item => ⟨some item, .trying sink yielded.plan, yielded.sinks, yielded.notes⟩
  | none => ⟨some (.bare .popContingency), .popped none yielded.plan, yielded.sinks, yielded.notes⟩

/-- Re-raise what is to be re-raised. -/
def reraiseNext (reraise : Option Thrown) (sinks : List (Option Thrown)) :
    Yield (Guarded σ ρ φ) :=
  match reraise with
  | some thrown => ⟨some (.bare (.raise thrown)), .raised, sinks, []⟩
  | none => ⟨none, .spent, sinks, []⟩

/-- Go on with the final plan; past it, re-raise. -/
def finishNext (reraise : Option Thrown) (final : φ) (sinks : List (Option Thrown))
    (input : Value) : Yield (Guarded σ ρ φ) :=
  let yielded := finals.next final sinks input
  match yielded.item with
  | some item => ⟨some item, .finishing reraise yielded.plan, yielded.sinks, yielded.notes⟩
  | none =>
      let raised := reraiseNext reraise yielded.sinks
      { raised with notes := yielded.notes }

/-- The final plan, when there is one. -/
def finallyNext (reraise : Option Thrown) (inner : σ) (sinks : List (Option Thrown))
    (input : Value) : Yield (Guarded σ ρ φ) :=
  match contingency.finalPlan with
  | some final => finishNext finals reraise (final inner) sinks input
  | none => reraiseNext reraise sinks

/-- Go on with the except or else plan; past it comes the final plan. -/
def recoverNext (reraise : Option Thrown) (recovery : ρ) (inner : σ)
    (sinks : List (Option Thrown)) (input : Value) : Yield (Guarded σ ρ φ) :=
  let yielded := recoveries.next recovery sinks input
  match yielded.item with
  | some item =>
      ⟨some item, .recovering reraise yielded.plan inner, yielded.sinks, yielded.notes⟩
  | none =>
      let final := finallyNext finals contingency reraise inner yielded.sinks input
      { final with notes := yielded.notes ++ final.notes }

/-- Past the region: the except plan for a thrown value, the else plan without one. -/
def afterPop (thrown : Option Thrown) (inner : σ) (sinks : List (Option Thrown)) (input : Value) :
    Yield (Guarded σ ρ φ) :=
  match thrown, contingency.exceptPlan, contingency.elsePlan with
  | some value, some build, _ =>
      recoverNext recoveries finals contingency
        (if contingency.autoRaise then some value else none) (build value) inner sinks input
  | some value, none, _ => finallyNext finals contingency (some value) inner sinks input
  | none, _, some recovery =>
      recoverNext recoveries finals contingency none recovery inner sinks input
  | none, _, none => finallyNext finals contingency none inner sinks input

variable {plans recoveries finals contingency}
variable {sinks : List (Option Thrown)} {input : Value}

theorem tryNext_item {inner : σ} {item : PlanItem}
    (yields : (plans.next inner sinks input).item = some item) (sink : SinkId) :
    (tryNext plans sink inner sinks input : Yield (Guarded σ ρ φ)) =
      ⟨some item, .trying sink (plans.next inner sinks input).plan,
        (plans.next inner sinks input).sinks, (plans.next inner sinks input).notes⟩ := by
  simp [tryNext, yields]

theorem tryNext_end {inner : σ} (ends : (plans.next inner sinks input).item = none)
    (sink : SinkId) :
    (tryNext plans sink inner sinks input : Yield (Guarded σ ρ φ)) =
      ⟨some (.bare .popContingency), .popped none (plans.next inner sinks input).plan,
        (plans.next inner sinks input).sinks, (plans.next inner sinks input).notes⟩ := by
  simp [tryNext, ends]

theorem finishNext_item {final : φ} {item : PlanItem}
    (yields : (finals.next final sinks input).item = some item) (reraise : Option Thrown) :
    (finishNext finals reraise final sinks input : Yield (Guarded σ ρ φ)) =
      ⟨some item, .finishing reraise (finals.next final sinks input).plan,
        (finals.next final sinks input).sinks, (finals.next final sinks input).notes⟩ := by
  simp [finishNext, yields]

theorem finishNext_end {final : φ} (ends : (finals.next final sinks input).item = none)
    (reraise : Option Thrown) :
    (finishNext finals reraise final sinks input : Yield (Guarded σ ρ φ)) =
      { reraiseNext reraise (finals.next final sinks input).sinks with
        notes := (finals.next final sinks input).notes } := by
  simp [finishNext, ends]

theorem recoverNext_item {recovery : ρ} {item : PlanItem}
    (yields : (recoveries.next recovery sinks input).item = some item)
    (reraise : Option Thrown) (inner : σ) :
    recoverNext recoveries finals contingency reraise recovery inner sinks input =
      ⟨some item, .recovering reraise (recoveries.next recovery sinks input).plan inner,
        (recoveries.next recovery sinks input).sinks,
        (recoveries.next recovery sinks input).notes⟩ := by
  simp [recoverNext, yields]

theorem recoverNext_end {recovery : ρ} (ends : (recoveries.next recovery sinks input).item = none)
    (reraise : Option Thrown) (inner : σ) :
    recoverNext recoveries finals contingency reraise recovery inner sinks input =
      { finallyNext finals contingency reraise inner (recoveries.next recovery sinks input).sinks
          input with
        notes := (recoveries.next recovery sinks input).notes ++
          (finallyNext finals contingency reraise inner (recoveries.next recovery sinks input).sinks
            input).notes } := by
  simp [recoverNext, ends]

variable (plans recoveries finals contingency)

/-- `contingency_wrapper`. The sink is made at the first poll and read only after an item of the inner
plan was yielded. -/
def contingencyWrapper : PlanStream (Guarded σ ρ φ) where
  next
    | .fresh inner, sinks, _ =>
        ⟨some (.bare (.pushContingency sinks.length)), .pushed sinks.length inner,
          sinks ++ [none], []⟩
    | .pushed sink inner, sinks, input => tryNext plans sink inner sinks input
    | .trying sink inner, sinks, input =>
        match sinks.getD sink none with
        | some thrown =>
            ⟨some (.bare .popContingency), .popped (some thrown) inner, sinks.set sink none,
              if contingency.swallows then [.swallowed sink] else []⟩
        | none => tryNext plans sink inner sinks input
    | .popped thrown inner, sinks, input =>
        afterPop recoveries finals contingency thrown inner sinks input
    | .recovering reraise recovery inner, sinks, input =>
        recoverNext recoveries finals contingency reraise recovery inner sinks input
    | .finishing reraise final, sinks, input => finishNext finals reraise final sinks input
    | .raised, sinks, _ => ⟨none, .spent, sinks, []⟩
    | .spent, sinks, _ => ⟨none, .spent, sinks, []⟩
  respond
    | .trying sink inner, answer => .trying sink (plans.respond inner answer)
    | .recovering reraise recovery inner, answer =>
        .recovering reraise (recoveries.respond recovery answer) inner
    | .finishing reraise final, answer => .finishing reraise (finals.respond final answer)
    | plan, _ => plan

end

/-- The plan of a wrapper that has none. -/
def noPlan : PlanStream Empty where
  next plan _ _ := plan.elim
  respond plan _ := plan

/-- The generator of a `finalize_wrapper` whose final plan is a list of messages. -/
abbrev Finalized (σ : Type) : Type :=
  Guarded σ Empty (List PlanItem)

/-- `finalize_wrapper`. -/
def finalizeWrapper (plans : PlanStream σ) (final : σ → List PlanItem) :
    PlanStream (Finalized σ) :=
  contingencyWrapper plans noPlan planItems ⟨none, none, some final, true⟩

/-- The final plan still to come, and what is re-raised past it. -/
def remaining (final : σ → List PlanItem) : Finalized σ → Option (Option Thrown × List PlanItem)
  | .popped thrown inner => some (thrown, final inner)
  | .finishing reraise rest => some (reraise, rest)
  | _ => none

/-- The inner plan, where it is polled next: nothing was thrown into the region that shows. -/
def forwarding (sinks : List (Option Thrown)) : Finalized σ → Option σ
  | .pushed _ inner => some inner
  | .trying sink inner => if sinks.getD sink none = none then some inner else none
  | _ => none

/-- What one poll of a `finalize_wrapper` with a list of final messages comes to. -/
inductive FinalizeStep (plans : PlanStream σ) (final : σ → List PlanItem)
    (sinks : List (Option Thrown)) (input : Value) :
    Finalized σ → Option PlanItem → Finalized σ → Prop where
  | entered (inner) : FinalizeStep plans final sinks input (.fresh inner)
      (some (.bare (.pushContingency sinks.length))) (.pushed sinks.length inner)
  | forwarded {before inner item} (sink) (forwards : forwarding sinks before = some inner)
      (yields : (plans.next inner sinks input).item = some item) :
      FinalizeStep plans final sinks input before (some item)
        (.trying sink (plans.next inner sinks input).plan)
  | exhausted {before inner} (forwards : forwarding sinks before = some inner)
      (ends : (plans.next inner sinks input).item = none) :
      FinalizeStep plans final sinks input before (some (.bare .popContingency))
        (.popped none (plans.next inner sinks input).plan)
  | caught {sink inner thrown} (armed : sinks.getD sink none = some thrown) :
      FinalizeStep plans final sinks input (.trying sink inner) (some (.bare .popContingency))
        (.popped (some thrown) inner)
  | finished {before reraise item rest} (remains : remaining final before = some (reraise, item :: rest)) :
      FinalizeStep plans final sinks input before (some item) (.finishing reraise rest)
  | raised {before thrown} (remains : remaining final before = some (some thrown, [])) :
      FinalizeStep plans final sinks input before (some (.bare (.raise thrown))) .raised
  | ended {before} (remains : remaining final before = some (none, [])) :
      FinalizeStep plans final sinks input before none .spent
  | spent {before} (past : before = .raised ∨ before = .spent) :
      FinalizeStep plans final sinks input before none .spent

/-- The step past the region, told by what remains. -/
theorem finalizeStep_of_remaining (plans : PlanStream σ) {final : σ → List PlanItem}
    {before : Finalized σ} {reraise : Option Thrown} {rest : List PlanItem}
    (remains : remaining final before = some (reraise, rest)) (sinks : List (Option Thrown))
    (input : Value) :
    FinalizeStep plans final sinks input before
      (finishNext planItems reraise rest sinks input : Yield (Finalized σ)).item
      (finishNext planItems reraise rest sinks input : Yield (Finalized σ)).plan := by
  cases rest with
  | cons item rest => exact .finished remains
  | nil =>
      cases reraise with
      | none => exact .ended remains
      | some thrown => exact .raised remains

theorem finalizeStep_of_forwarding {plans : PlanStream σ} {final : σ → List PlanItem}
    {before : Finalized σ} {sinks : List (Option Thrown)} {inner : σ}
    (forwards : forwarding sinks before = some inner) (sink : SinkId) (input : Value) :
    FinalizeStep plans final sinks input before
      (tryNext plans sink inner sinks input : Yield (Finalized σ)).item
      (tryNext plans sink inner sinks input : Yield (Finalized σ)).plan := by
  cases yields : (plans.next inner sinks input).item with
  | none =>
      rw [tryNext_end yields]
      exact .exhausted forwards yields
  | some item =>
      rw [tryNext_item yields]
      exact .forwarded sink forwards yields

/-- Every poll of a `finalize_wrapper` is one of these. -/
theorem finalize_step (plans : PlanStream σ) (final : σ → List PlanItem) (before : Finalized σ)
    (sinks : List (Option Thrown)) (input : Value) :
    FinalizeStep plans final sinks input before
      ((finalizeWrapper plans final).next before sinks input).item
      ((finalizeWrapper plans final).next before sinks input).plan := by
  cases before with
  | fresh inner => exact .entered inner
  | pushed sink inner => exact finalizeStep_of_forwarding rfl sink input
  | trying sink inner =>
      simp only [finalizeWrapper, contingencyWrapper]
      split
      · rename_i thrown armed
        exact .caught armed
      · rename_i quiet
        exact finalizeStep_of_forwarding (by simp only [forwarding]; rw [if_pos quiet]) sink input
  | popped thrown inner =>
      have remains : remaining final (.popped thrown inner) = some (thrown, final inner) := rfl
      have step := finalizeStep_of_remaining plans remains sinks input
      cases thrown <;> exact step
  | recovering reraise recovery inner => exact recovery.elim
  | finishing reraise rest => exact finalizeStep_of_remaining plans rfl sinks input
  | raised => exact .spent (.inl rfl)
  | spent => exact .spent (.inr rfl)

end Bsrs.Plans
