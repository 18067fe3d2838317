import Bsrs.Plans.Preprocessors
import Bsrs.Plans.Simulation

namespace Bsrs.Core

/-- The messages whose effect depends on the run they are for, the list of `in_run_wrapper`. -/
def Msg.isRunScoped : Msg → Bool
  | .openRun _ | .closeRun _ _ | .create _ | .save | .drop | .declareStream _ _ | .read _
  | .collect _ _ | .monitor _ _ | .unmonitor _ | .configure _ _ | .kickoff _ _ => true
  | _ => false

/-- `in_run_wrapper` on one message. -/
def Msg.inRunScoped (run : String) (msg : Msg) : Msg :=
  if msg.isRunScoped then .inRun run msg else msg

/-- Whether a run key makes a difference to the message: a run-scoped one works for that run, and one
already routed or a `Raise` is refused under it. -/
def Msg.heedsRun (msg : Msg) : Bool :=
  match msg with
  | .inRun _ _ | .raise _ => true
  | msg => msg.isRunScoped

/-- The message routed to the run, whatever it is. One already routed keeps its run, and the loop
takes a `Raise` before it routes. -/
def Msg.underRun (run : String) : Msg → Msg
  | .inRun other inner => .inRun other inner
  | .raise thrown => .raise thrown
  | msg => .inRun run msg

/-- The same command without a run key that makes no difference to it. -/
def Msg.settled : Msg → Msg
  | .inRun run inner => if inner.heedsRun then .inRun run inner else inner
  | msg => msg

/-- Routing every message and routing the run-scoped ones come to the same commands. -/
theorem Msg.settled_underRun (run : String) (msg : Msg) :
    (msg.underRun run).settled = (msg.inRunScoped run).settled := by
  cases msg <;> rfl

end Bsrs.Core

namespace Bsrs.Plans

open Bsrs.Library (Table exec exec_alike)
open Bsrs.EventModel (Value)
open Bsrs.Core
open Bsrs.Engine

variable {σ τ : Type}

/-! ## What a preprocessor makes of a plan's items -/

/-- What a loop body yields for each item of the inner plan, item by item, until it returns. -/
def treatments (body : τ → Value → PlanItem → Treatment τ) :
    τ → List (Value × PlanItem) → List (List PlanItem)
  | _, [] => []
  | memo, (input, item) :: rest =>
      (body memo input item).emitted ::
        if (body memo input item).returns then []
        else treatments body (body memo input item).left rest

/-- What the wrapper knows once it has been through the items. -/
def memoAfter (body : τ → Value → PlanItem → Treatment τ) (memo : τ)
    (trace : List (Value × PlanItem)) : τ :=
  trace.foldl (fun memo entry => (body memo entry.1 entry.2).left) memo

/-- The trace with every item's message rewritten. -/
def rewritten (update : Msg → Msg) (trace : List (Value × PlanItem)) : List (Value × PlanItem) :=
  trace.map fun entry => (entry.1, entry.2.mapMsg update)

namespace Preprocessor

/-- The plan it ends with, from what it knows. -/
def finalOf (preprocessor : Preprocessor) (memo : preprocessor.Memo) : List PlanItem :=
  match preprocessor.final with
  | some final => final memo
  | none => []

/-- The preprocessor does something to the item: what it inserts for it is not nothing, or what it
makes of it is not the item itself, or it remembers it for its final plan. -/
def ActsOn (motion : Motion) : (preprocessor : Preprocessor) →
    preprocessor.Memo → Value → PlanItem → Prop
  | .duringRun afterOpen beforeClose, _, _, item =>
      match item.msg with
      | .openRun _ => afterOpen ≠ []
      | .closeRun _ _ => beforeClose ≠ []
      | _ => False
  | .relativeSet motors, bases, input, item =>
      match item.msg with
      | .set obj value _ =>
          ∃ motor ∈ listed motors obj.name,
            motion.plus value ((bases.lookup obj.name).getD
              ((motion.setpoint input motor).getD motion.zero)) ≠ value
      | _ => False
  | .resetPositions motors, memo, input, item =>
      match item.msg with
      | .set obj _ _ =>
          obj.name ∉ memo.seen ∧
            ∃ motor ∈ listed motors obj.name, (motion.setpoint input motor).isSome
      | _ => False
  | .lazilyStage devices, memo, _, item =>
      ∃ name ∈ touched item.msg, name ∉ memo.seen ∧ (listed devices name).isSome
  | .injectMd mdExtra, _, _, item =>
      match item.msg with
      | .openRun metadata => ∃ key ∈ mdExtra, key ∉ metadata.extra
      | _ => False
  | .setRunKey _, _, _, item =>
      match item.msg with
      | .openRun metadata => "run_key" ∉ metadata.extra
      | _ => False
  | .stub, _, _, item => (stubFailure item.msg).isSome

/-- The preprocessor acts on no item of the trace. -/
def LeavesAlone (motion : Motion) (preprocessor : Preprocessor) :
    preprocessor.Memo → List (Value × PlanItem) → Prop
  | _, [] => True
  | memo, (input, item) :: rest =>
      ¬ preprocessor.ActsOn motion memo input item ∧
        preprocessor.LeavesAlone motion (preprocessor.body motion memo input item).left rest

/-- What an item comes to once its run-scoped message is routed. -/
def routedItem (run : String) (item : PlanItem) : PlanItem :=
  (item.mapMsg (Msg.inRunScoped run)).mapMsg Msg.settled

variable {motion : Motion} {preprocessor : Preprocessor} {memo : preprocessor.Memo} {input : Value}
  {item : PlanItem}

/-- What a message is under a run: routed, or a `Raise`. -/
theorem underRun_cases (run : String) (msg : Msg) :
    (∃ other inner, msg.underRun run = .inRun other inner) ∨
      ∃ thrown, msg.underRun run = .raise thrown := by
  cases msg with
  | inRun other inner => exact .inl ⟨other, inner, rfl⟩
  | raise thrown => exact .inr ⟨thrown, rfl⟩
  | _ => exact .inl ⟨run, _, rfl⟩

/-- A routed message passes every preprocessor by. -/
theorem body_underRun (run : String) :
    preprocessor.body motion memo input (item.mapMsg (Msg.underRun run)) =
      .pass memo (item.mapMsg (Msg.underRun run)) := by
  generalize routed : item.mapMsg (Msg.underRun run) = under
  have shape : (∃ other inner, under.msg = .inRun other inner) ∨
      ∃ thrown, under.msg = .raise thrown := by
    rw [← routed, PlanItem.msg_mapMsg]
    exact underRun_cases run item.msg
  have injected (mdExtra : Table String Value) : under.mapMsg (Plans.injectMd mdExtra) = under := by
    cases under <;> rcases shape with ⟨_, _, rfl⟩ | ⟨_, rfl⟩ <;> rfl
  cases preprocessor with
  | duringRun afterOpen beforeClose =>
      rcases shape with ⟨_, _, same⟩ | ⟨_, same⟩ <;> simp [body, insertDuringRun, same]
  | relativeSet motors =>
      rcases shape with ⟨_, _, same⟩ | ⟨_, same⟩ <;> simp [body, setRelative, same]
  | resetPositions motors =>
      rcases shape with ⟨_, _, same⟩ | ⟨_, same⟩ <;> simp [body, captureMoves, same]
  | lazilyStage devices =>
      rcases shape with ⟨_, _, same⟩ | ⟨_, same⟩ <;> simp [body, stageOnTouch, touched, same]
  | injectMd mdExtra => simp [body, injected]
  | setRunKey runKey => simp [body, injected]
  | stub => rcases shape with ⟨_, _, same⟩ | ⟨_, same⟩ <;> simp [body, refuseRuns, stubFailure, same]

theorem injectMd_eq_self {mdExtra : Table String Value} {msg : Msg}
    (complete : ∀ metadata, msg = .openRun metadata → ∀ key ∈ mdExtra, key ∈ metadata.extra) :
    Plans.injectMd mdExtra msg = msg := by
  cases msg with
  | openRun metadata =>
      have same := Table.union_eq_self.mpr (complete metadata rfl)
      simp only [Plans.injectMd, same]
  | _ => rfl

theorem mapMsg_eq_self {update : Msg → Msg} {item : PlanItem} (same : update item.msg = item.msg) :
    item.mapMsg update = item := by
  cases item <;> exact congrArg _ same

/-- An item the preprocessor does not act on goes on as it came. -/
theorem body_alone (idle : ¬ preprocessor.ActsOn motion memo input item) :
    ∃ left, preprocessor.body motion memo input item = .pass left item ∧
      preprocessor.finalOf left = preprocessor.finalOf memo := by
  cases preprocessor with
  | duringRun afterOpen beforeClose =>
      refine ⟨memo, ?_, rfl⟩
      simp only [ActsOn] at idle
      simp only [body, insertDuringRun]
      split
      · rename_i opens
        simp only [opens, ne_eq, not_not] at idle
        rw [idle]
        rfl
      · rename_i closes
        simp only [closes, ne_eq, not_not] at idle
        rw [idle]
      · rfl
  | relativeSet motors =>
      simp only [body, setRelative]
      split
      · rename_i obj value group sets
        simp only [ActsOn, sets, Option.mem_def, ne_eq, not_exists, not_and, not_not] at idle
        split
        · exact ⟨memo, rfl, rfl⟩
        · rename_i motor eligible
          have unmoved := idle motor eligible
          have same (base : Value) (still : motion.plus value base = value) :
              (item.mapMsg fun _ => .set obj (motion.plus value base) group) = item :=
            mapMsg_eq_self (by rw [still, sets])
          split
          · rename_i base known
            rw [known] at unmoved
            exact ⟨memo, by rw [same base unmoved], rfl⟩
          · rename_i unknown
            rw [unknown, Option.getD_none] at unmoved
            refine ⟨AList.insert obj.name ((motion.setpoint input motor).getD motion.zero) memo, ?_, rfl⟩
            rw [same _ unmoved]
      · exact ⟨memo, rfl, rfl⟩
  | resetPositions motors =>
      simp only [body, captureMoves]
      split
      · rename_i obj value group sets
        simp only [ActsOn, sets, Option.mem_def, not_and, not_exists] at idle
        split
        · exact ⟨memo, rfl, rfl⟩
        · rename_i motor eligible
          split
          · exact ⟨memo, rfl, rfl⟩
          · rename_i unseen
            split
            · rename_i setpoint located
              exact absurd (by rw [located]; rfl) (idle unseen motor eligible)
            · exact ⟨_, rfl, rfl⟩
      · exact ⟨memo, rfl, rfl⟩
  | lazilyStage devices =>
      simp only [body, stageOnTouch]
      split
      · exact ⟨memo, rfl, rfl⟩
      · rename_i name touches
        simp only [ActsOn, touches, Option.mem_def, not_exists, not_and] at idle
        split
        · exact ⟨memo, rfl, rfl⟩
        · rename_i unseen
          split
          · exact ⟨_, rfl, rfl⟩
          · rename_i device eligible
            exact absurd (by rw [eligible]; rfl) (idle name rfl unseen)
  | injectMd mdExtra =>
      refine ⟨memo, ?_, rfl⟩
      have same : Plans.injectMd mdExtra item.msg = item.msg := by
        refine injectMd_eq_self fun metadata opens => ?_
        simpa [ActsOn, opens] using idle
      simp only [body, mapMsg_eq_self same]
  | setRunKey runKey =>
      refine ⟨memo, ?_, rfl⟩
      have same : Plans.injectMd (AList.singleton "run_key" runKey) item.msg = item.msg := by
        refine injectMd_eq_self fun metadata opens key member => ?_
        have keyed : key = "run_key" := by simpa [AList.mem_keys] using member
        simpa [ActsOn, opens, keyed] using idle
      simp only [body, mapMsg_eq_self same]
  | stub =>
      refine ⟨memo, ?_, rfl⟩
      have fine : stubFailure item.msg = none := by
        simpa [ActsOn] using idle
      simp only [body, refuseRuns, fine]

theorem routedItem_msg (run : String) (item : PlanItem) :
    (routedItem run item).msg = (item.msg.inRunScoped run).settled := by
  simp [routedItem]

/-- A group of items with more or fewer of them than one is not the item alone. -/
theorem ne_alone (run : String) {group : List PlanItem} (several : group.length ≠ 1) :
    group.map (routedItem run) ≠ [routedItem run item] :=
  fun same => several (by simpa using congrArg List.length same)

/-- A single item with another message is not the item alone. -/
theorem ne_rewritten (run : String) {other : PlanItem}
    (differs : (other.msg.inRunScoped run).settled ≠ (item.msg.inRunScoped run).settled) :
    [other].map (routedItem run) ≠ [routedItem run item] := by
  intro same
  apply differs
  rw [← routedItem_msg, ← routedItem_msg, List.singleton_injective same]

theorem injectMd_ne {mdExtra : Table String Value} {metadata : RunMetadata} {key : String}
    (given : key ∈ mdExtra) (lacks : key ∉ metadata.extra) (run : String) :
    ((Plans.injectMd mdExtra (.openRun metadata)).inRunScoped run).settled ≠
      ((Msg.openRun metadata).inRunScoped run).settled := by
  intro same
  have opened : Msg.openRun { metadata with extra := metadata.extra ∪ mdExtra } =
      .openRun metadata := Msg.inRun.inj same |>.2
  have extras : metadata.extra ∪ mdExtra = metadata.extra :=
    congrArg RunMetadata.extra (Msg.openRun.inj opened)
  exact lacks (Table.union_eq_self.mp extras key given)

/-- What the preprocessor acts on is not treated as the routed item is, which passes it by. -/
theorem body_acts (acts : preprocessor.ActsOn motion memo input item) (run : String) :
    (preprocessor.body motion memo input item).emitted.map (routedItem run) ≠
        [routedItem run item] ∨
      (preprocessor.finalOf (preprocessor.body motion memo input item).left).length ≠
        (preprocessor.finalOf memo).length := by
  cases preprocessor with
  | duringRun afterOpen beforeClose =>
      refine .inl (ne_alone run ?_)
      simp only [ActsOn] at acts
      simp only [body, insertDuringRun]
      split
      · rename_i opens
        rw [opens] at acts
        simpa [Treatment.emitted] using acts
      · rename_i closes
        rw [closes] at acts
        cases beforeClose with
        | nil => exact absurd rfl acts
        | cons msg rest => simp [Treatment.emitted]
      · rename_i neither unclosed
        split at acts
        · rename_i metadata opens
          exact absurd opens (neither metadata)
        · rename_i status reason closes
          exact absurd closes (unclosed status reason)
        · exact acts.elim
  | relativeSet motors =>
      refine .inl ?_
      simp only [ActsOn] at acts
      simp only [body, setRelative]
      split
      · rename_i obj value group sets
        simp only [sets] at acts
        obtain ⟨motor, eligible, moves⟩ := acts
        have differs (base : Value) (moved : motion.plus value base ≠ value) :
            [item.mapMsg fun _ => .set obj (motion.plus value base) group].map
              (routedItem run) ≠ [routedItem run item] := by
          refine ne_rewritten run ?_
          rw [PlanItem.msg_mapMsg, sets]
          exact fun same => moved (Msg.set.inj same).2.1
        split
        · rename_i unlisted
          rw [unlisted] at eligible
          cases eligible
        · rename_i listed
          obtain rfl : _ = motor := Option.some.inj (listed.symm.trans eligible)
          split
          · rename_i base known
            rw [known] at moves
            exact differs base moves
          · rename_i unknown
            rw [unknown] at moves
            exact differs _ moves
      · rename_i other
        split at acts
        · rename_i obj value group sets
          exact absurd sets (other obj value group)
        · exact acts.elim
  | resetPositions motors =>
      refine .inr ?_
      simp only [ActsOn] at acts
      simp only [body, captureMoves]
      split
      · rename_i obj value group sets
        simp only [sets] at acts
        obtain ⟨unseen, motor, eligible, located⟩ := acts
        obtain ⟨setpoint, located⟩ := Option.isSome_iff_exists.mp located
        split
        · rename_i unlisted
          rw [unlisted] at eligible
          cases eligible
        · rename_i listed
          obtain rfl : _ = motor := Option.some.inj (listed.symm.trans eligible)
          rw [if_neg unseen, located]
          simp [finalOf, final, resetPlan]
      · rename_i other
        split at acts
        · rename_i obj value group sets
          exact absurd sets (other obj value group)
        · exact acts.elim
  | lazilyStage devices =>
      refine .inl (ne_alone run ?_)
      obtain ⟨name, touches, unseen, eligible⟩ := acts
      obtain ⟨device, eligible⟩ := Option.isSome_iff_exists.mp eligible
      have touches : touched item.msg = some name := touches
      simp [body, stageOnTouch, touches, unseen, eligible, Treatment.emitted]
  | injectMd mdExtra =>
      simp only [body, Treatment.emitted_pass]
      refine .inl (ne_rewritten run ?_)
      simp only [ActsOn] at acts
      split at acts
      · rename_i metadata opens
        obtain ⟨key, given, lacks⟩ := acts
        rw [PlanItem.msg_mapMsg, opens]
        exact injectMd_ne given lacks run
      · exact acts.elim
  | setRunKey runKey =>
      simp only [body, Treatment.emitted_pass]
      refine .inl (ne_rewritten run ?_)
      simp only [ActsOn] at acts
      split at acts
      · rename_i metadata opens
        rw [PlanItem.msg_mapMsg, opens]
        exact injectMd_ne (by simp [AList.mem_keys]) acts run
      · exact acts.elim
  | stub =>
      refine .inl ?_
      obtain ⟨failure, fails⟩ := Option.isSome_iff_exists.mp acts
      simp only [body, refuseRuns, fails]
      refine ne_rewritten run ?_
      unfold stubFailure at fails
      split at fails
      · rename_i metadata opens
        cases fails
        rw [opens]
        exact Msg.noConfusion
      · rename_i status reason closes
        cases fails
        rw [closes]
        exact Msg.noConfusion
      · cases fails

/-! ## The two ways round -/

/-- Routing a plan's items changes nothing the preprocessor does: each item is treated as it was, with
what is inserted for it routed too, and the plan it ends with is the same. -/
def TreatsAlike (motion : Motion) (preprocessor : Preprocessor) (run : String)
    (memo other : preprocessor.Memo) (trace : List (Value × PlanItem)) : Prop :=
  let body := preprocessor.body motion
  (treatments body memo (rewritten (Msg.underRun run) trace)).map
      (List.map (PlanItem.mapMsg Msg.settled)) =
    (treatments body other trace).map (List.map (routedItem run)) ∧
  (preprocessor.finalOf (memoAfter body memo (rewritten (Msg.underRun run) trace))).map
      (PlanItem.mapMsg Msg.settled) =
    (preprocessor.finalOf (memoAfter body other trace)).map (routedItem run)

/-- What is remembered so far calls for no final work that routing could show in. -/
def Clean (preprocessor : Preprocessor) (run : String) (memo other : preprocessor.Memo) : Prop :=
  preprocessor.finalOf memo = preprocessor.finalOf other ∧
    (preprocessor.finalOf other).map (PlanItem.mapMsg Msg.settled) =
      (preprocessor.finalOf other).map (routedItem run)

theorem clean_initial (preprocessor : Preprocessor) (run : String) :
    Clean preprocessor run preprocessor.initial preprocessor.initial := by
  refine ⟨rfl, ?_⟩
  cases preprocessor <;> rfl

theorem settled_underRun_item (run : String) (item : PlanItem) :
    (item.mapMsg (Msg.underRun run)).mapMsg Msg.settled = routedItem run item := by
  cases item with
  | bare msg => exact congrArg PlanItem.bare (Msg.settled_underRun run msg)
  | respond msg => exact congrArg PlanItem.respond (Msg.settled_underRun run msg)

/-- One item more: it is left alone, and the rest is treated alike. -/
theorem treatsAlike_cons {run : String} {memo other : preprocessor.Memo}
    {rest : List (Value × PlanItem)} (idle : ¬ preprocessor.ActsOn motion other input item) :
    TreatsAlike motion preprocessor run memo other ((input, item) :: rest) ↔
      TreatsAlike motion preprocessor run memo (preprocessor.body motion other input item).left
        rest := by
  obtain ⟨left, treated, kept⟩ := body_alone idle
  simp only [TreatsAlike, rewritten, List.map_cons, treatments, memoAfter, List.foldl_cons,
    body_underRun, treated]
  simp [Treatment.returns_pass, settled_underRun_item]

/-- What is left alone is treated alike. -/
theorem treatsAlike_of_leavesAlone {run : String} {memo : preprocessor.Memo} :
    ∀ {trace : List (Value × PlanItem)} {other : preprocessor.Memo},
      Clean preprocessor run memo other → preprocessor.LeavesAlone motion other trace →
        TreatsAlike motion preprocessor run memo other trace := by
  intro trace
  induction trace with
  | nil =>
      intro other clean _
      refine ⟨rfl, ?_⟩
      simp only [memoAfter, rewritten, List.map_nil, List.foldl_nil]
      rw [clean.1, clean.2]
  | cons entry rest ih =>
      intro other clean alone
      obtain ⟨left, treated, kept⟩ := body_alone alone.1
      refine (treatsAlike_cons alone.1).mpr (ih ?_ alone.2)
      rw [treated, Treatment.left_pass]
      exact ⟨clean.1.trans kept.symm, by rw [kept]; exact clean.2⟩

/-- What is treated alike at every length is left alone. -/
theorem leavesAlone_of_treatsAlike {run : String} {memo : preprocessor.Memo} :
    ∀ {trace : List (Value × PlanItem)} {other : preprocessor.Memo},
      Clean preprocessor run memo other →
      (∀ count, TreatsAlike motion preprocessor run memo other (trace.take count)) →
        preprocessor.LeavesAlone motion other trace := by
  intro trace
  induction trace with
  | nil => exact fun _ _ => trivial
  | cons entry rest ih =>
      intro other clean alike
      have idle : ¬ preprocessor.ActsOn motion other entry.1 entry.2 := by
        intro acts
        have single := alike 1
        simp only [TreatsAlike, rewritten, List.take_succ_cons, List.take_zero, List.map_cons,
          List.map_nil, treatments, memoAfter, List.foldl_cons, List.foldl_nil, body_underRun,
          ite_self, Treatment.emitted_pass, Treatment.left_pass, settled_underRun_item] at single
        rcases body_acts acts run with emits | remembers
        · exact emits (List.cons.inj single.1).1.symm
        · have lengths := congrArg List.length single.2
          simp only [List.length_map, clean.1] at lengths
          exact remembers lengths.symm
      refine ⟨idle, ih ?_ fun count => (treatsAlike_cons idle).mp (alike (count + 1))⟩
      obtain ⟨left, treated, kept⟩ := body_alone idle
      rw [treated, Treatment.left_pass]
      exact ⟨clean.1.trans kept.symm, by rw [kept]; exact clean.2⟩

section Around

variable {plans : PlanStream σ} {plan : σ}

/-- Rewriting every message of a driven plan is reading its items rewritten. -/
theorem msgMutator_view (update : Msg → Msg) (reading : PlanItem → α) (stimuli : List Stimulus) :
    (driveAll (msgMutator update plans) (Through.start () plan) stimuli).map
        (Driven.view reading) =
      (driveAll plans plan stimuli).map (Driven.view fun item => reading (item.mapMsg update)) := by
  refine view_eq_of_alike (fun (one : Through Unit σ) two =>
    one.pending = [] ∧ one.returned = false ∧ one.inner = two) ?_ ?_ ⟨rfl, rfl, rfl⟩ stimuli
  · rintro one two ⟨idle, going, rfl⟩ sinks input
    cases yields : (plans.next one.inner sinks input).item with
    | none => exact .inl ⟨by rw [msgMutator_end idle going yields], rfl⟩
    | some item =>
        rw [msgMutator_item idle going yields]
        exact .inr ⟨item.mapMsg update, item, rfl, rfl, rfl, rfl, rfl, rfl⟩
  · rintro one two ⟨idle, going, rfl⟩ result
    exact ⟨idle, going, rfl⟩

/-- Past a trace that is left alone, the next item is left alone too. -/
theorem idle_of_leavesAlone :
    ∀ {trace : List (Value × PlanItem)} {memo : preprocessor.Memo},
      preprocessor.LeavesAlone motion memo (trace ++ [(input, item)]) →
        ¬ preprocessor.ActsOn motion (memoAfter (preprocessor.body motion) memo trace) input item := by
  intro trace
  induction trace with
  | nil => exact fun alone => alone.1
  | cons entry rest ih => exact fun alone => ih alone.2

/-- A preprocessor around the routed plan and one around the plan itself, before either acted. -/
structure Matched (motion : Motion) (preprocessor : Preprocessor) (run : String)
    (plans : PlanStream σ) (plan : σ) (left : Through preprocessor.Memo (Through Unit σ))
    (right : Through preprocessor.Memo σ) : Prop where
  idle : left.pending = [] ∧ right.pending = []
  returned : left.returned = right.returned
  memo : Clean preprocessor run left.memo right.memo
  resumed : Clean preprocessor run left.resumed right.resumed
  inside : right.returned = false →
    left.inner.pending = [] ∧ left.inner.returned = false ∧ left.inner.inner = right.inner ∧
      ∃ trace, Yields plans plan trace right.inner ∧
        right.resumed = memoAfter (preprocessor.body motion) preprocessor.initial trace

/-- What the routed plan's item and the plan's own come to is the same. -/
def ComesTo (run : String) (left right : PlanItem) : Prop :=
  left.mapMsg Msg.settled = routedItem run right

theorem agreesOnControl_comesTo (run : String) : AgreesOnControl (ComesTo run) where
  push _ := rfl
  pop := rfl
  raise _ := rfl

/-- Left alone, the plan goes through the preprocessor routed as it does bare. -/
theorem simulates_through (run : String)
    (alone : ∀ trace state, Yields plans plan trace state →
      preprocessor.LeavesAlone motion preprocessor.initial trace) :
    Simulates (through (preprocessor.body motion) (msgMutator (Msg.underRun run) plans))
      (through (preprocessor.body motion) plans)
      (Matched motion preprocessor run plans plan) (ComesTo run) where
  next := by
    intro left right matched sinks input
    obtain ⟨⟨leftIdle, rightIdle⟩, returned, memo, resumed, inside⟩ := matched
    cases going : right.returned with
    | true =>
        rw [through_returned leftIdle (returned.trans going), through_returned rightIdle going]
        exact ⟨.none, ⟨⟨leftIdle, rightIdle⟩, rfl, resumed, resumed, fun open_ => nomatch open_⟩, rfl⟩
    | false =>
        obtain ⟨innerIdle, innerGoing, same, trace, led, known⟩ := inside going
        cases yields : (plans.next right.inner sinks input).item with
        | none =>
            have ends : ((msgMutator (Msg.underRun run) plans).next left.inner sinks input).item =
                none := by
              rw [msgMutator_end innerIdle innerGoing (by rw [same, yields])]
            have shared : ((msgMutator (Msg.underRun run) plans).next left.inner sinks input).sinks =
                (plans.next right.inner sinks input).sinks := by
              rw [msgMutator_end innerIdle innerGoing (by rw [same, yields]), same]
            rw [through_end leftIdle (returned.trans going) ends, through_end rightIdle going yields]
            exact ⟨.none, ⟨⟨leftIdle, rightIdle⟩, rfl, resumed, resumed, fun open_ => nomatch open_⟩,
              shared⟩
        | some item =>
            have routed : (msgMutator (Msg.underRun run) plans).next left.inner sinks input = _ :=
              msgMutator_item innerIdle innerGoing (by rw [same, yields])
            have onward := led.yielded yields
            have idle : ¬ preprocessor.ActsOn motion right.resumed input item := by
              rw [known]
              exact idle_of_leavesAlone (alone _ _ onward)
            obtain ⟨after, treated, kept⟩ := body_alone idle
            have clean : Clean preprocessor run left.resumed after :=
              ⟨resumed.1.trans kept.symm, by rw [kept]; exact resumed.2⟩
            have more : after = memoAfter (preprocessor.body motion) preprocessor.initial
                (trace ++ [(input, item)]) := by
              simp [memoAfter, List.foldl_append] at known ⊢
              rw [← known, treated, Treatment.left_pass]
            rw [through_item leftIdle (returned.trans going) (by rw [routed]),
              through_item rightIdle going yields, body_underRun, treated, routed]
            refine ⟨.some (settled_underRun_item run item), ⟨⟨rfl, rfl⟩, rfl, clean, clean,
              fun _ => ⟨rfl, rfl, ?_, _, onward, more⟩⟩, ?_⟩
            · exact congrArg (fun inner => (plans.next inner sinks input).plan) same
            · exact congrArg (fun inner => (plans.next inner sinks input).sinks) same
  respond := by
    intro left right matched result
    refine ⟨matched.idle, matched.returned, matched.memo, matched.resumed, fun going => ?_⟩
    obtain ⟨innerIdle, innerGoing, same, trace, led, known⟩ := matched.inside going
    exact ⟨innerIdle, innerGoing, congrArg (plans.respond · result) same, trace,
      led.answered result, known⟩

theorem matched_start (motion : Motion) (preprocessor : Preprocessor) (run : String)
    (plans : PlanStream σ) (plan : σ) :
    Matched motion preprocessor run plans plan
      (Through.start preprocessor.initial (Through.start () plan))
      (Through.start preprocessor.initial plan) where
  idle := ⟨rfl, rfl⟩
  returned := rfl
  memo := clean_initial preprocessor run
  resumed := clean_initial preprocessor run
  inside _ := ⟨rfl, rfl, rfl, [], .start, rfl⟩

theorem Clean.finals {run : String} {memo other : preprocessor.Memo}
    (clean : Clean preprocessor run memo other) :
    List.Forall₂ (ComesTo run) (preprocessor.finalOf memo) (preprocessor.finalOf other) := by
  rw [clean.1]
  exact List.forall₂_same.mpr (List.map_inj_left.mp clean.2)

/-- Left alone, routing before the preprocessor and after it come to the same. -/
theorem views_of_leavesAlone (run : String)
    (alone : ∀ trace state, Yields plans plan trace state →
      preprocessor.LeavesAlone motion preprocessor.initial trace) (stimuli : List Stimulus) :
    (driveAll (preprocessor.stream motion (msgMutator (Msg.underRun run) plans))
        (preprocessor.start (Through.start () plan)) stimuli).map
        (Driven.view (PlanItem.mapMsg Msg.settled)) =
      (driveAll (msgMutator (Msg.inRunScoped run) (preprocessor.stream motion plans))
        (Through.start () (preprocessor.start plan)) stimuli).map
        (Driven.view (PlanItem.mapMsg Msg.settled)) := by
  rw [msgMutator_view]
  have same := simulates_through run alone
  have guarded := same.finalize (agreesOnControl_comesTo run) fun _ _ matched => matched.memo.finals
  have initial := matched_start motion preprocessor run plans plan
  cases preprocessor with
  | resetPositions motors => exact guarded.view_eq (fun _ _ agreed => agreed) (.fresh initial) stimuli
  | lazilyStage devices => exact guarded.view_eq (fun _ _ agreed => agreed) (.fresh initial) stimuli
  | _ => exact same.view_eq (fun _ _ agreed => agreed) initial stimuli

end Around

end Preprocessor

/-- The preprocessor is transparent to routing the plan to the run: it treats each routed item as it
treats the item, with what it inserts routed as well, and routing every message of the plan before it
comes to the same as routing the run-scoped ones after it. -/
structure Transparent (motion : Motion) (preprocessor : Preprocessor) (plans : PlanStream σ) (plan : σ)
    (run : String) : Prop where
  treated : ∀ trace state, Yields plans plan trace state →
    preprocessor.TreatsAlike motion run preprocessor.initial preprocessor.initial trace
  composed : ∀ stimuli,
    (driveAll (preprocessor.stream motion (msgMutator (Msg.underRun run) plans))
        (preprocessor.start (Through.start () plan)) stimuli).map
        (Driven.view (PlanItem.mapMsg Msg.settled)) =
      (driveAll (msgMutator (Msg.inRunScoped run) (preprocessor.stream motion plans))
        (Through.start () (preprocessor.start plan)) stimuli).map
        (Driven.view (PlanItem.mapMsg Msg.settled))

theorem Yields.take {plans : PlanStream σ} {plan state : σ} {trace : List (Value × PlanItem)}
    (yields : Yields plans plan trace state) (count : Nat) :
    ∃ earlier, Yields plans plan (trace.take count) earlier := by
  induction yields with
  | start => exact ⟨plan, by simpa using Yields.start⟩
  | @yielded trace state sinks input item before yielded ih =>
      by_cases short : count ≤ trace.length
      · rw [List.take_append_of_le_length short]
        exact ih
      · refine ⟨(plans.next state sinks input).plan, ?_⟩
        rw [List.take_of_length_le (by simp; omega)]
        exact before.yielded yielded
  | answered _ _ ih => exact ih

/-- A preprocessor is transparent to the routing of a plan exactly when there is no item of the plan
it acts on. -/
theorem transparent_iff (motion : Motion) (preprocessor : Preprocessor) (plans : PlanStream σ)
    (plan : σ) (run : String) :
    Transparent motion preprocessor plans plan run ↔
      ∀ trace state, Yields plans plan trace state →
        preprocessor.LeavesAlone motion preprocessor.initial trace := by
  constructor
  · intro transparent trace state yields
    refine preprocessor.leavesAlone_of_treatsAlike (preprocessor.clean_initial run) fun count => ?_
    obtain ⟨earlier, before⟩ := yields.take count
    exact transparent.treated _ earlier before
  · intro alone
    refine ⟨fun trace state yields => ?_, Preprocessor.views_of_leavesAlone run alone⟩
    exact Preprocessor.treatsAlike_of_leavesAlone (preprocessor.clean_initial run)
      (alone trace state yields)

/-- Numbers as tallies, and a motor whose setpoint is four. -/
private def tallies : Motion where
  setpoint _ _ := some "||||"
  plus value base := value ++ base
  zero := ""

private def motor : Obj := ⟨0, "m", none, false, false, false⟩

/-- A relative move by one that is routed to a run goes through as an absolute move to one. -/
theorem routed_move_turns_absolute :
    ¬ Transparent tallies (.relativeSet [motor]) planItems [.bare (.set motor "|" none)] "a" := by
  intro transparent
  have pulled : (planItems.next [.bare (.set motor "|" none)] [] "").item =
      some (.bare (.set motor "|" none)) := rfl
  have treated := transparent.treated _ _ (Yields.start.yielded pulled)
  exact absurd treated.1 (by decide)

end Bsrs.Plans
