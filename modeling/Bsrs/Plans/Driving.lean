import Bsrs.Library.Splice
import Bsrs.Plans.Wrapper

namespace Bsrs.Plans

open Bsrs.Library (exec exec_append exec_invariant exec_invariant_throughout forall_places_concat
  Throughout)
open Bsrs.EventModel (Value Uid)
open Bsrs.Core
open Bsrs.Engine

/-! ## A plan and its surroundings -/

/-- What comes to a plan from outside. A poll brings what the contingency sinks hold and what is learnt
at it; the plan never sees `handled`, whether the engine gets the item it yields handled. A plan
dropped is not polled again: the engine halted, or threw outside its regions. -/
inductive Stimulus where
  | poll (sinks : List (Option Thrown)) (input : Value) (handled : Bool)
  | answer (result : Option MsgResult)
  | drop
  deriving DecidableEq

/-- One item a plan handed out: what was learnt at its poll, whether the engine got it handled, and
where the plan is suspended meanwhile. -/
structure Handed (σ : Type) where
  item : PlanItem
  input : Value
  handled : Bool
  plan : σ
  deriving DecidableEq

inductive Fate where
  | running
  | ended
  | dropped
  deriving Repr, DecidableEq

/-- A plan being driven, with the items it handed out so far, oldest first. -/
structure Driven (σ : Type) where
  plan : σ
  handed : List (Handed σ)
  fate : Fate
  deriving DecidableEq

namespace Driven

variable {σ : Type}

def start (plan : σ) : Driven σ :=
  ⟨plan, [], .running⟩

/-- The items handed out, oldest first. -/
def items (driven : Driven σ) : List PlanItem :=
  driven.handed.map Handed.item

/-- One more item is handed out. -/
def hand (driven : Driven σ) (plan : σ) (item : PlanItem) (input : Value) (handled : Bool) :
    Driven σ :=
  ⟨plan, driven.handed ++ [⟨item, input, handled, plan⟩], driven.fate⟩

def endAs (driven : Driven σ) (plan : σ) (fate : Fate) : Driven σ :=
  { driven with plan, fate }

end Driven

variable {σ τ : Type}

/-- One step of a plan and its surroundings; nothing comes to a plan that is done. -/
def drive (plans : PlanStream σ) (driven : Driven σ) : Stimulus → Option (Driven σ)
  | stimulus =>
      if driven.fate ≠ .running then none
      else
        match stimulus with
        | .poll sinks input handled =>
            let yielded := plans.next driven.plan sinks input
            match yielded.item with
            | some item => some (driven.hand yielded.plan item input handled)
            | none => some (driven.endAs yielded.plan .ended)
        | .answer result => some { driven with plan := plans.respond driven.plan result }
        | .drop => some (driven.endAs driven.plan .dropped)

theorem drive_answer {plans : PlanStream σ} {driven : Driven σ} (running : driven.fate = .running)
    (result : Option MsgResult) : drive plans driven (.answer result) =
      some { driven with plan := plans.respond driven.plan result } := by
  simp [drive, running]

theorem drive_item {plans : PlanStream σ} {driven : Driven σ} (running : driven.fate = .running)
    {sinks : List (Option Thrown)} {input : Value} {item : PlanItem}
    (yields : (plans.next driven.plan sinks input).item = some item) (handled : Bool) :
    drive plans driven (.poll sinks input handled) =
      some (driven.hand (plans.next driven.plan sinks input).plan item input handled) := by
  simp [drive, running, yields]

theorem drive_end {plans : PlanStream σ} {driven : Driven σ} (running : driven.fate = .running)
    {sinks : List (Option Thrown)} {input : Value}
    (ends : (plans.next driven.plan sinks input).item = none) (handled : Bool) :
    drive plans driven (.poll sinks input handled) =
      some (driven.endAs (plans.next driven.plan sinks input).plan .ended) := by
  simp [drive, running, ends]

/-- What a step does, told by the stimulus. -/
inductive DriveStep (plans : PlanStream σ) (driven : Driven σ) : Stimulus → Driven σ → Prop where
  | handed {sinks input handled item}
      (yields : (plans.next driven.plan sinks input).item = some item) :
      DriveStep plans driven (.poll sinks input handled)
        (driven.hand (plans.next driven.plan sinks input).plan item input handled)
  | ended {sinks input handled} (ends : (plans.next driven.plan sinks input).item = none) :
      DriveStep plans driven (.poll sinks input handled)
        (driven.endAs (plans.next driven.plan sinks input).plan .ended)
  | answered {result} :
      DriveStep plans driven (.answer result)
        { driven with plan := plans.respond driven.plan result }
  | dropped : DriveStep plans driven .drop (driven.endAs driven.plan .dropped)

theorem drive_cases {plans : PlanStream σ} {driven next : Driven σ} {stimulus : Stimulus}
    (stepped : drive plans driven stimulus = some next) :
    driven.fate = .running ∧ DriveStep plans driven stimulus next := by
  unfold drive at stepped
  split at stepped
  · cases stepped
  · rename_i running
    refine ⟨not_not.mp running, ?_⟩
    cases stimulus with
    | poll sinks input handled =>
        simp only at stepped
        split at stepped
        · rename_i item yields
          cases stepped
          exact .handed yields
        · rename_i ends
          cases stepped
          exact .ended ends
    | answer result =>
        cases stepped
        exact .answered
    | drop =>
        cases stepped
        exact .dropped

/-- A run of a plan, from its first poll on. -/
abbrev driveAll (plans : PlanStream σ) (plan : σ) (stimuli : List Stimulus) : Option (Driven σ) :=
  exec (drive plans) (Driven.start plan) stimuli

/-- The plan can be where `state` is, having handed out the items of the trace, each with what was
learnt at its poll. -/
inductive Yields (plans : PlanStream σ) (plan : σ) : List (Value × PlanItem) → σ → Prop where
  | start : Yields plans plan [] plan
  | yielded {trace state sinks input item} (before : Yields plans plan trace state)
      (yields : (plans.next state sinks input).item = some item) :
      Yields plans plan (trace ++ [(input, item)]) (plans.next state sinks input).plan
  | answered {trace state} (before : Yields plans plan trace state) (result : Option MsgResult) :
      Yields plans plan trace (plans.respond state result)

/-- What a place rule says of a plan: where it can be after each step it copes with, that every item
passes the check against the ones before it, and what is settled once the plan is done. -/
structure Rounds (plans : PlanStream σ) (copes : Driven σ → Stimulus → Prop)
    (place : List (Handed σ) → σ → Prop) (check : List (Handed σ) → Handed σ → Prop)
    (settled : List (Handed σ) → Prop) : Prop where
  hand : ∀ {driven : Driven σ} {sinks input handled item}, place driven.handed driven.plan →
    copes driven (.poll sinks input handled) →
    (plans.next driven.plan sinks input).item = some item →
    let after := (plans.next driven.plan sinks input).plan
    place (driven.handed ++ [⟨item, input, handled, after⟩]) after ∧
      check driven.handed ⟨item, input, handled, after⟩
  ends : ∀ {driven : Driven σ} {sinks input}, place driven.handed driven.plan →
    (plans.next driven.plan sinks input).item = none →
    place driven.handed (plans.next driven.plan sinks input).plan ∧ settled driven.handed
  respond : ∀ {handed plan}, place handed plan → ∀ result, place handed (plans.respond plan result)
  drop : ∀ {driven : Driven σ}, place driven.handed driven.plan → copes driven .drop →
    settled driven.handed

/-- A place rule holds along every run whose steps the plan copes with. -/
theorem Rounds.run {plans : PlanStream σ} {copes : Driven σ → Stimulus → Prop}
    {place : List (Handed σ) → σ → Prop} {check : List (Handed σ) → Handed σ → Prop}
    {settled : List (Handed σ) → Prop} (rounds : Rounds plans copes place check settled)
    {plan : σ} {stimuli : List Stimulus} {driven : Driven σ} (initial : place [] plan)
    (trace : driveAll plans plan stimuli = some driven)
    (orderly : Throughout (drive plans) copes (Driven.start plan) stimuli) :
    place driven.handed driven.plan ∧
      (∀ earlier entry later, driven.handed = earlier ++ entry :: later → check earlier entry) ∧
      (driven.fate ≠ .running → settled driven.handed) := by
  let holds (driven : Driven σ) : Prop :=
    place driven.handed driven.plan ∧
      (∀ earlier entry later, driven.handed = earlier ++ entry :: later → check earlier entry) ∧
      (driven.fate ≠ .running → settled driven.handed)
  refine exec_invariant_throughout holds ?_ trace orderly
    ⟨initial, fun earlier entry later same => ?_, fun past => absurd rfl past⟩
  · intro before stimulus after stepped coped held
    obtain ⟨placed, checked, done⟩ := held
    obtain ⟨running, move⟩ := drive_cases stepped
    cases move with
    | handed yields =>
        obtain ⟨onward, passes⟩ := rounds.hand placed coped yields
        exact ⟨onward, forall_places_concat.mpr ⟨checked, passes⟩, fun past => absurd running past⟩
    | ended ends =>
        obtain ⟨onward, settles⟩ := rounds.ends placed ends
        exact ⟨onward, checked, fun _ => settles⟩
    | answered => exact ⟨rounds.respond placed _, checked, done⟩
    | dropped =>
        have settles : settled before.handed := rounds.drop placed coped
        exact ⟨placed, checked, fun _ => settles⟩
  · simp [Driven.start] at same

/-! ## The parts of a finalized run -/

/-- The item was put in by the wrapper around the inner plan. -/
def Handed.isOwn (entry : Handed (Finalized (Through τ σ))) : Bool :=
  match entry.plan with
  | .trying _ watched => watched.inserting
  | _ => false

/-- The item came from the inner plan. -/
def Handed.isInner (entry : Handed (Finalized (Through τ σ))) : Bool :=
  match entry.plan with
  | .trying _ watched => !watched.inserting
  | _ => false

/-- The item came from the final plan. -/
def Handed.isFinal (entry : Handed (Finalized σ)) : Bool :=
  match entry.plan with
  | .finishing _ _ => true
  | _ => false

end Bsrs.Plans
