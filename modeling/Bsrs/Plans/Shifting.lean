import Bsrs.Plans.Adaptive
import Bsrs.Plans.Restoring
import Bsrs.Plans.StepScan

/-! Absolute scans at positions shifted by a bias of each motor: the same messages, with every
commanded position shifted. -/

namespace Bsrs.Plans

open Bsrs.Library (Table)
open Bsrs.EventModel (Value)
open Bsrs.Core
open Bsrs.Engine (PlanStream planItems)

variable {K : Type} {σ δ τ : Type}

/-! ## Wrappers around plans with matching items -/

/-- Treatments that come to the same up to the items. -/
structure EmissionAlike (agrees : PlanItem → PlanItem → Prop) (left right : Emission τ) : Prop where
  item : agrees left.item right.item
  resumed : left.resumed = right.resumed

/-- Generators of one wrapper around plans whose items match. -/
structure ThroughMatched (agrees : PlanItem → PlanItem → Prop) (same : σ → δ → Prop)
    (left : Through τ σ) (right : Through τ δ) : Prop where
  memo : left.memo = right.memo
  resumed : left.resumed = right.resumed
  pending : List.Forall₂ (EmissionAlike agrees) left.pending right.pending
  returned : left.returned = right.returned
  inner : same left.inner right.inner

theorem ThroughMatched.start {agrees : PlanItem → PlanItem → Prop} {same : σ → δ → Prop} (memo : τ)
    {first : σ} {second : δ} (alike : same first second) :
    ThroughMatched agrees same (Through.start memo first) (Through.start memo second) :=
  ⟨rfl, rfl, .nil, rfl, alike⟩

/-- A wrapper that passes every item on keeps plans matched, where what it notes of matching items is
the same. -/
theorem Simulates.passed {plans : PlanStream σ} {others : PlanStream δ} {same : σ → δ → Prop}
    {agrees : PlanItem → PlanItem → Prop} (simulates : Simulates plans others same agrees)
    {body : τ → Value → PlanItem → Treatment τ} {note : τ → Value → Msg → τ}
    (passes : ∀ memo input item, body memo input item = .pass (note memo input item.msg) item)
    (notes : ∀ memo input item other, agrees item other →
      note memo input item.msg = note memo input other.msg) :
    Simulates (through body plans) (through body others) (ThroughMatched agrees same) agrees where
  next := by
    intro left right alike sinks input
    obtain ⟨memo, resumed, pending, returned, inner⟩ := id alike
    cases rest : right.pending with
    | cons emission rest =>
        rw [rest] at pending
        cases ahead : left.pending with
        | nil =>
            rw [ahead] at pending
            cases pending
        | cons other later =>
            rw [ahead] at pending
            obtain ⟨⟨item, after⟩, onward⟩ := List.forall₂_cons.mp pending
            rw [through_pending ahead, through_pending rest]
            exact ⟨.some item, ⟨resumed, after, onward, returned, inner⟩, rfl⟩
    | nil =>
        have idle : left.pending = [] := List.forall₂_nil_right_iff.mp (rest ▸ pending)
        cases going : right.returned with
        | true =>
            rw [through_returned idle (returned.trans going), through_returned rest going]
            exact ⟨.none, ⟨resumed, resumed, pending, rfl, inner⟩, rfl⟩
        | false =>
            have agree := simulates.next inner sinks input
            rcases agree.outcome with ⟨ends, also⟩ | ⟨item, answer, yields, also, agreed⟩
            · rw [through_end idle (returned.trans going) ends, through_end rest going also]
              exact ⟨.none, ⟨resumed, resumed, pending, rfl, agree.plan⟩, agree.sinks⟩
            · rw [through_item idle (returned.trans going) yields, through_item rest going also,
                passes, passes, resumed, notes _ _ _ _ agreed]
              exact ⟨.some agreed, ⟨rfl, rfl, .nil, rfl, agree.plan⟩, agree.sinks⟩
  respond := by
    intro left right alike result
    exact ⟨alike.memo, alike.resumed, alike.pending, alike.returned,
      simulates.respond alike.inner result⟩

/-- What a wrapper that looks at nothing notes of an item. -/
def unnoted (memo : τ) (_ : Value) (_ : Msg) : τ :=
  memo

theorem passedOn_passes (memo : τ) (input : Value) (item : PlanItem) :
    Treatment.pass memo item = .pass (unnoted memo input item.msg) item := rfl

/-! ## Shifted plans -/

/-- Metadata of one run but for the arguments of its plan. -/
structure SameRun (metadata other : RunMetadata) : Prop where
  planName : metadata.planName = other.planName
  scanId : metadata.scanId = other.scanId
  extra : ∀ name, name ≠ "plan_args" → metadata.extra.lookup name = other.extra.lookup name

/-- The message commands its position shifted by the bias of its motor, opens its run with other
arguments, or is the same. -/
inductive Shifted [Add K] (beamline : Beamline K) (bias : Obj → K) : Msg → Msg → Prop where
  | set (obj : Obj) (position : K) (group : Option GroupId) :
      Shifted beamline bias (.set obj (beamline.written position) group)
        (.set obj (beamline.written (position + bias obj)) group)
  | openRun {metadata other : RunMetadata} (same : SameRun metadata other) :
      Shifted beamline bias (.openRun metadata) (.openRun other)
  | plain {msg : Msg} (still : setIn msg = none) (opens : ∀ metadata, msg ≠ .openRun metadata) :
      Shifted beamline bias msg msg

/-- The same of items. -/
def ShiftedItem [Add K] (beamline : Beamline K) (bias : Obj → K) (item other : PlanItem) : Prop :=
  Shifted beamline bias item.msg other.msg

section Shifted

variable [Add K] {beamline : Beamline K} {bias : Obj → K}

theorem Shifted.refl_map {α : Type} (msgs : List α) {make : α → Msg}
    (still : ∀ entry, setIn (make entry) = none) (opens : ∀ entry metadata, make entry ≠ .openRun metadata) :
    List.Forall₂ (Shifted beamline bias) (msgs.map make) (msgs.map make) := by
  rw [List.forall₂_same]
  intro msg member
  obtain ⟨entry, _, rfl⟩ := List.mem_map.mp member
  exact .plain (still entry) (opens entry)

theorem shiftedItem_control : AgreesOnControl (ShiftedItem beamline bias) where
  push _ := .plain rfl (by intros; simp [PlanItem.msg])
  pop := .plain rfl (by intros; simp [PlanItem.msg])
  raise _ := .plain rfl (by intros; simp [PlanItem.msg])

theorem shiftedItem_still {α : Type} (objs : List α) {make : α → Msg}
    (still : ∀ obj, setIn (make obj) = none) (opens : ∀ obj metadata, make obj ≠ .openRun metadata) :
    List.Forall₂ (ShiftedItem beamline bias) (objs.map fun obj => .bare (make obj))
      (objs.map fun obj => .bare (make obj)) := by
  rw [List.forall₂_map_left_iff, List.forall₂_map_right_iff, List.forall₂_same]
  exact fun obj _ => .plain (still obj) (opens obj)

/-- Staged scans whose messages still to come are shifted. -/
abbrev StageShifted (beamline : Beamline K) (bias : Obj → K) :
    Finalized (Through Unit (List PlanItem)) → Finalized (Through Unit (List PlanItem)) → Prop :=
  GuardedAlike
    (ThroughMatched (ShiftedItem beamline bias) (List.Forall₂ (ShiftedItem beamline bias)))
    (fun _ _ => True) (List.Forall₂ (ShiftedItem beamline bias))

theorem stage_shifted (beamline : Beamline K) (bias : Obj → K) (devices : List Obj) :
    Simulates (stageWrapper devices planItems) (stageWrapper devices planItems)
      (StageShifted beamline bias) (ShiftedItem beamline bias) :=
  ((simulates_planItems (ShiftedItem beamline bias)).passed passedOn_passes
    fun _ _ _ _ _ => rfl).finalize shiftedItem_control fun _ _ _ =>
      shiftedItem_still _ (fun _ => rfl) (by intros; simp)

/-- A scan of shifted messages runs as the scan itself, shifted. -/
theorem StepScan.shifted {scan other : StepScan} (staged : scan.staged = other.staged)
    (msgs : List.Forall₂ (Shifted beamline bias) scan.msgs other.msgs) (stimuli : List Stimulus) :
    Option.Rel (RunsAgree (ShiftedItem beamline bias)) (driveAll scan.plans scan.plan stimuli)
      (driveAll other.plans other.plan stimuli) := by
  obtain ⟨devices, first⟩ := scan
  obtain ⟨_, second⟩ := other
  subst staged
  have stages : List.Forall₂ (EmissionAlike (ShiftedItem beamline bias))
      (devices.map fun device => insertion () (.stage device))
      (devices.map fun device => insertion () (.stage device)) := by
    rw [List.forall₂_map_left_iff, List.forall₂_map_right_iff, List.forall₂_same]
    exact fun device _ => ⟨.plain rfl (by intros; simp [insertion, PlanItem.msg]), rfl⟩
  have items : List.Forall₂ (ShiftedItem beamline bias) (first.map .bare) (second.map .bare) := by
    rw [List.forall₂_map_left_iff, List.forall₂_map_right_iff]
    exact msgs
  have initial : StageShifted beamline bias (StepScan.plan ⟨devices, first⟩)
      (StepScan.plan ⟨devices, second⟩) := .fresh ⟨rfl, rfl, stages, rfl, items⟩
  exact (stage_shifted beamline bias devices).run initial stimuli

end Shifted

/-! ## Step scans -/

theorem scanRunMd_sameRun (beamline : Beamline K) (planName : String) (detectors motors : List Obj)
    (numPoints : Option Nat) (grouping : AxisGrouping) (first second : List (String × Json)) :
    SameRun (scanRunMd beamline planName detectors motors numPoints grouping (.object first))
      (scanRunMd beamline planName detectors motors numPoints grouping (.object second)) where
  planName := rfl
  scanId := rfl
  extra name other := by
    have head : ∀ args : List (String × Json), (if (Json.object args).isNull = true then []
        else [("plan_args", Json.object args)]) = [("plan_args", Json.object args)] := fun _ => rfl
    simp only [scanRunMd, head, List.map_append, Table.insertAll_append]
    refine Table.lookup_insertAll_congr ?_
    simp [Table.insertAll, other]

section Scans

variable [Field K] {beamline : Beamline K} {bias : Obj → K}

theorem singleStep_shifted (detectors : List Obj) (motor reader : Obj) (position : K) :
    List.Forall₂ (Shifted beamline bias) (singleStep beamline detectors motor reader position)
      (singleStep beamline detectors motor reader (position + bias motor)) := by
  have reads : List.Forall₂ (Shifted beamline bias) (detectors.map .read) (detectors.map .read) :=
    Shifted.refl_map detectors (fun _ => rfl) (by intros; simp)
  have plain : ∀ {msg : Msg}, setIn msg = none → (∀ metadata, msg ≠ .openRun metadata) →
      Shifted beamline bias msg msg := Shifted.plain
  refine List.rel_append (List.rel_append (List.rel_append (List.rel_append ?_ ?_) ?_) reads) ?_
  · exact .cons (plain rfl (by intros; simp)) (.cons (.set motor position _)
      (.cons (plain rfl (by intros; simp)) .nil))
  · exact .cons (plain rfl (by intros; simp)) .nil
  · exact .cons (plain rfl (by intros; simp)) .nil
  · exact .cons (plain rfl (by intros; simp)) .nil

theorem closeSuccess_shifted :
    List.Forall₂ (Shifted beamline bias) [closeSuccess] [closeSuccess] :=
  .cons (.plain rfl (by intros; simp [closeSuccess])) .nil

theorem listScan_shifted (detectors : List Obj) (motor reader : Obj) (points : List K) :
    List.Forall₂ (Shifted beamline bias) (listScan beamline detectors motor reader points).msgs
      (listScan beamline detectors motor reader (points.map (· + bias motor))).msgs := by
  simp only [listScan, singleScan, List.length_map]
  refine List.rel_append (List.rel_append ?_ ?_) closeSuccess_shifted
  · exact .cons (.openRun (scanRunMd_sameRun ..)) .nil
  · rw [List.flatMap_map]
    exact List.rel_flatMap (List.forall₂_same.mpr fun _ _ => rfl) fun position _ same => by
      subst same
      exact singleStep_shifted detectors motor reader position

end Scans

/-- The axis with its ends moved. -/
def GridAxis.shift [Add K] (axis : GridAxis K) (bias : K) : GridAxis K :=
  { axis with start := axis.start + bias, stop := axis.stop + bias }

theorem GridAxis.position_shift [Field K] (axis : GridAxis K) (bias : K) (index : Nat) :
    (axis.shift bias).position index = axis.position index + bias := by
  simp only [position, step, shift, add_sub_add_right_eq_sub]
  ring

section Grid

variable [Field K] {beamline : Beamline K} {bias : Obj → K}

theorem moveAlone_shifted (motor : Obj) (position : K) (group : GroupId) :
    List.Forall₂ (Shifted beamline bias) (moveAlone beamline motor position group)
      (moveAlone beamline motor (position + bias motor) group) :=
  .cons (.plain rfl (by intros; simp)) (.cons (.set motor position _)
    (.cons (.plain rfl (by intros; simp)) .nil))

theorem gridScanSnake_shifted (detectors : List Obj) (slow fast : GridAxis K) (snake : Bool) :
    List.Forall₂ (Shifted beamline bias) (gridScanSnake beamline detectors slow fast snake).msgs
      (gridScanSnake beamline detectors (slow.shift (bias slow.motor))
        (fast.shift (bias fast.motor)) snake).msgs := by
  have reads : List.Forall₂ (Shifted beamline bias) (detectors.map .read) (detectors.map .read) :=
    Shifted.refl_map detectors (fun _ => rfl) (by intros; simp)
  have all : ∀ {num : Nat}, List.Forall₂ Eq (List.range num) (List.range num) :=
    List.forall₂_same.mpr fun _ _ => rfl
  refine List.rel_append (List.rel_append ?_ (List.rel_flatMap all ?_)) closeSuccess_shifted
  · exact .cons (.openRun (scanRunMd_sameRun ..)) .nil
  · rintro i _ rfl
    refine List.rel_append ?_ (List.rel_flatMap all ?_)
    · rw [GridAxis.position_shift]
      exact moveAlone_shifted slow.motor _ _
    · rintro j _ rfl
      simp only [GridAxis.position_shift]
      refine List.rel_append (List.rel_append (List.rel_append ?_ ?_) reads) ?_
      · exact moveAlone_shifted fast.motor _ _
      · exact .cons (.plain rfl (by intros; simp)) (.cons (.plain rfl (by intros; simp))
          (.cons (.plain rfl (by intros; simp)) .nil))
      · exact .cons (.plain rfl (by intros; simp)) .nil

end Grid

end Bsrs.Plans
