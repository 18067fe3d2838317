import Bsrs.Plans.Wrapper

namespace Bsrs.Plans

open Bsrs.Library (Table)
open Bsrs.EventModel (Value)
open Bsrs.Core
open Bsrs.Engine (PlanStream)

variable {σ : Type}

/-- The object a map collected from the list holds under a name: the last one listed. -/
def listed (objs : List Obj) (name : String) : Option Obj :=
  objs.reverse.find? fun obj => obj.name = name

theorem name_of_listed {objs : List Obj} {obj : Obj} {name : String}
    (found : listed objs name = some obj) : obj.name = name := by
  simpa using List.find?_some found

/-- What the wrappers of moves take from outside: a motor's setpoint, as `locate_dyn` answers at a
poll, and the numbers. -/
structure Motion where
  setpoint : Value → Obj → Option Value
  plus : Value → Value → Value
  zero : Value

/-! ## Metadata and the run envelope -/

/-- `msg_mutator`. -/
def msgMutator (update : Msg → Msg) (plans : PlanStream σ) : PlanStream (Through Unit σ) :=
  through (fun memo _ item => .pass memo (item.mapMsg update)) plans

section MsgMutator

variable {update : Msg → Msg} {plans : PlanStream σ} {plan : Through Unit σ}
  {sinks : List (Option Thrown)} {input : Value}

theorem msgMutator_end (idle : plan.pending = []) (going : plan.returned = false)
    (ends : (plans.next plan.inner sinks input).item = none) :
    (msgMutator update plans).next plan sinks input =
      ⟨none, { plan with inner := (plans.next plan.inner sinks input).plan }.finish,
        (plans.next plan.inner sinks input).sinks, (plans.next plan.inner sinks input).notes⟩ :=
  through_end idle going ends

theorem msgMutator_item {item : PlanItem} (idle : plan.pending = [])
    (going : plan.returned = false)
    (yields : (plans.next plan.inner sinks input).item = some item) :
    (msgMutator update plans).next plan sinks input =
      ⟨some (item.mapMsg update), Through.start () (plans.next plan.inner sinks input).plan,
        (plans.next plan.inner sinks input).sinks, (plans.next plan.inner sinks input).notes⟩ :=
  through_item idle going yields

end MsgMutator

/-- Give an `OpenRun` the extra metadata it does not have. -/
def injectMd (mdExtra : Table String Value) : Msg → Msg
  | .openRun metadata => .openRun { metadata with extra := metadata.extra ∪ mdExtra }
  | msg => msg

/-- `inject_md_wrapper`. -/
def injectMdWrapper (mdExtra : Table String Value) (plans : PlanStream σ) :
    PlanStream (Through Unit σ) :=
  msgMutator (injectMd mdExtra) plans

/-- `set_run_key_wrapper`, with the key as a JSON value. -/
def setRunKeyWrapper (runKey : Value) (plans : PlanStream σ) : PlanStream (Through Unit σ) :=
  msgMutator (injectMd (AList.singleton "run_key" runKey)) plans

/-- One message a wrapper puts in. -/
def insertion (memo : τ) (msg : Msg) : Emission τ :=
  ⟨.bare msg, true, memo⟩

/-- The loop body of `during_run_wrapper`. -/
def insertDuringRun (afterOpen beforeClose : List Msg) (memo : Unit) (_ : Value)
    (item : PlanItem) : Treatment Unit :=
  match item.msg with
  | .openRun _ => ⟨memo, ⟨item, false, memo⟩, afterOpen.map (insertion memo), false⟩
  | .closeRun _ _ =>
      match beforeClose with
      | [] => .pass memo item
      | msg :: rest =>
          ⟨memo, insertion memo msg, rest.map (insertion memo) ++ [⟨item, false, memo⟩], false⟩
  | _ => .pass memo item

/-- `during_run_wrapper`. -/
def duringRunWrapper (afterOpen beforeClose : List Msg) (plans : PlanStream σ) :
    PlanStream (Through Unit σ) :=
  through (insertDuringRun afterOpen beforeClose) plans

/-- What `stub_wrapper` puts in an item's place, when it refuses the item. -/
def stubFailure : Msg → Option Msg
  | .openRun _ => some (.fail "stub_wrapper: inner plan must not emit OpenRun")
  | .closeRun _ _ => some (.fail "stub_wrapper: inner plan must not emit CloseRun")
  | _ => none

/-- The loop body of `stub_wrapper`. -/
def refuseRuns (memo : Unit) (_ : Value) (item : PlanItem) : Treatment Unit :=
  match stubFailure item.msg with
  | some failure => ⟨memo, insertion memo failure, [], true⟩
  | none => .pass memo item

/-- `stub_wrapper`. -/
def stubWrapper (plans : PlanStream σ) : PlanStream (Through Unit σ) :=
  through refuseRuns plans

/-! ## Moves -/

/-- The loop body of `relative_set_wrapper`; what it knows are the bases located so far. -/
def setRelative (motion : Motion) (motors : List Obj) (bases : Table String Value) (input : Value)
    (item : PlanItem) : Treatment (Table String Value) :=
  match item.msg with
  | .set obj value group =>
      match listed motors obj.name with
      | none => .pass bases item
      | some motor =>
          match bases.lookup obj.name with
          | some base => .pass bases (item.mapMsg fun _ => .set obj (motion.plus value base) group)
          | none =>
              let base := (motion.setpoint input motor).getD motion.zero
              .pass (bases.insert obj.name base)
                (item.mapMsg fun _ => .set obj (motion.plus value base) group)
  | _ => .pass bases item

/-- `relative_set_wrapper`. -/
def relativeSetWrapper (motion : Motion) (motors : List Obj) (plans : PlanStream σ) :
    PlanStream (Through (Table String Value) σ) :=
  through (setRelative motion motors) plans

/-- What `reset_positions_wrapper` knows: the motors it has seen set, and the positions to restore in
first-moved order. -/
structure Moved where
  seen : List String
  moved : List (Obj × Value)
  deriving DecidableEq

/-- The loop body of `reset_positions_wrapper`. -/
def captureMoves (motion : Motion) (motors : List Obj) (memo : Moved) (input : Value)
    (item : PlanItem) : Treatment Moved :=
  match item.msg with
  | .set obj _ _ =>
      match listed motors obj.name with
      | none => .pass memo item
      | some motor =>
          if obj.name ∈ memo.seen then .pass memo item
          else
            match motion.setpoint input motor with
            | some setpoint => .pass ⟨obj.name :: memo.seen, memo.moved ++ [(motor, setpoint)]⟩ item
            | none => .pass { memo with seen := obj.name :: memo.seen } item
  | _ => .pass memo item

/-- The reset plan: every captured motor back to where it was, and a wait for them all. -/
def resetPlan (moved : List (Obj × Value)) : List PlanItem :=
  moved.map (fun position => .bare (.set position.1 position.2 (some "reset"))) ++
    [.bare (.wait "reset" true none)]

/-- `reset_positions_wrapper`. -/
def resetPositionsWrapper (motion : Motion) (motors : List Obj) (plans : PlanStream σ) :
    PlanStream (Finalized (Through Moved σ)) :=
  finalizeWrapper (through (captureMoves motion motors) plans)
    fun watched => resetPlan watched.memo.moved

/-! ## Staging -/

/-- `stage_wrapper`; its inner generator starts with the `Stage` of every device pending. -/
def stageWrapper (devices : List Obj) (plans : PlanStream σ) :
    PlanStream (Finalized (Through Unit σ)) :=
  finalizeWrapper (through (fun memo _ item => .pass memo item) plans)
    fun _ => devices.reverse.map fun device => .bare (.unstage device)

/-- The generator of `stage_wrapper` before its first poll. -/
def stagePlan (devices : List Obj) (plan : σ) :
    Finalized (Through Unit σ) :=
  .fresh { Through.start () plan with
    pending := devices.map fun device => insertion () (.stage device) }

/-- What `lazily_stage_wrapper` knows: the names it has seen touched, and the devices it staged. -/
structure Staged where
  seen : List String
  staged : List Obj
  deriving DecidableEq

/-- The name of the object a message touches. -/
def touched : Msg → Option String
  | .read obj => some obj.name
  | .set obj _ _ => some obj.name
  | .trigger obj _ => some obj.name
  | .configure obj _ => some obj.name
  | _ => none

/-- The loop body of `lazily_stage_wrapper`. A device joins the staged ones only when the generator is
resumed after its `Stage`. -/
def stageOnTouch (devices : List Obj) (memo : Staged) (_ : Value) (item : PlanItem) :
    Treatment Staged :=
  match touched item.msg with
  | none => .pass memo item
  | some name =>
      if name ∈ memo.seen then .pass memo item
      else
        let memo := { memo with seen := name :: memo.seen }
        match listed devices name with
        | none => .pass memo item
        | some device =>
            let resumed := { memo with staged := memo.staged ++ [device] }
            ⟨memo, ⟨.bare (.stage device), true, resumed⟩, [⟨item, false, resumed⟩], false⟩

/-- The unstage plan of `lazily_stage_wrapper`. -/
def unstagePlan (staged : List Obj) : List PlanItem :=
  staged.reverse.map fun device => .bare (.unstage device)

/-- `lazily_stage_wrapper`. -/
def lazilyStageWrapper (devices : List Obj) (plans : PlanStream σ) :
    PlanStream (Finalized (Through Staged σ)) :=
  finalizeWrapper (through (stageOnTouch devices) plans)
    fun watched => unstagePlan watched.memo.staged

/-! ## The message-rewriting preprocessors -/

/-- The preprocessors that rewrite the messages of their inner plan, with their arguments. -/
inductive Preprocessor where
  | duringRun (afterOpen beforeClose : List Msg)
  | relativeSet (motors : List Obj)
  | resetPositions (motors : List Obj)
  | lazilyStage (devices : List Obj)
  | injectMd (mdExtra : Table String Value)
  | setRunKey (runKey : Value)
  | stub

namespace Preprocessor

/-- `monitor_during_wrapper`. -/
def monitorDuring (signals : List Obj) : Preprocessor :=
  .duringRun (signals.map fun signal => .monitor signal (some s!"{signal.name}_monitor"))
    (signals.reverse.map fun signal => .unmonitor signal)

/-- One baseline reading. -/
def baselineReading (devices : List Obj) (stream : String) : List Msg :=
  .create stream :: devices.map .read ++ [.save]

/-- `baseline_wrapper`. -/
def baseline (devices : List Obj) (stream : String) : Preprocessor :=
  .duringRun (baselineReading devices stream) (baselineReading devices stream)

/-- `fly_during_wrapper`; the wait comes only with a flyer to wait for. -/
def flyDuring (flyers : List (Obj × Obj)) : Preprocessor :=
  .duringRun
    (flyers.map (fun flyer => .kickoff flyer.1 (some "fly_kick")) ++
      if flyers.isEmpty then [] else [.wait "fly_kick" true none])
    (flyers.map (fun flyer => .complete flyer.1 (some "fly_done")) ++
      (if flyers.isEmpty then [] else [.wait "fly_done" true none]) ++
      flyers.map fun flyer => .collect flyer.2 none)

/-- What the preprocessor knows. -/
abbrev Memo : Preprocessor → Type
  | .relativeSet _ => Table String Value
  | .resetPositions _ => Moved
  | .lazilyStage _ => Staged
  | _ => Unit

def initial : (preprocessor : Preprocessor) → preprocessor.Memo
  | .relativeSet _ => (∅ : Table String Value)
  | .resetPositions _ => Moved.mk [] []
  | .lazilyStage _ => Staged.mk [] []
  | .duringRun _ _ | .injectMd _ | .setRunKey _ | .stub => ()

/-- The preprocessor's generator. -/
abbrev State (σ : Type) : Preprocessor → Type
  | .relativeSet _ => Through (Table String Value) σ
  | .resetPositions _ => Finalized (Through Moved σ)
  | .lazilyStage _ => Finalized (Through Staged σ)
  | _ => Through Unit σ

/-- The preprocessor around a plan. -/
def stream (motion : Motion) (plans : PlanStream σ) :
    (preprocessor : Preprocessor) → PlanStream (preprocessor.State σ)
  | .duringRun afterOpen beforeClose => duringRunWrapper afterOpen beforeClose plans
  | .relativeSet motors => relativeSetWrapper motion motors plans
  | .resetPositions motors => resetPositionsWrapper motion motors plans
  | .lazilyStage devices => lazilyStageWrapper devices plans
  | .injectMd mdExtra => injectMdWrapper mdExtra plans
  | .setRunKey runKey => setRunKeyWrapper runKey plans
  | .stub => stubWrapper plans

/-- Its generator before the first poll. -/
def start (plan : σ) : (preprocessor : Preprocessor) → preprocessor.State σ
  | .relativeSet _ => Through.start (∅ : Table String Value) plan
  | .resetPositions _ => Guarded.fresh (Through.start (Moved.mk [] []) plan)
  | .lazilyStage _ => Guarded.fresh (Through.start (Staged.mk [] []) plan)
  | .duringRun _ _ | .injectMd _ | .setRunKey _ | .stub => Through.start () plan

/-- The loop body. -/
def body (motion : Motion) : (preprocessor : Preprocessor) →
    preprocessor.Memo → Value → PlanItem → Treatment preprocessor.Memo
  | .duringRun afterOpen beforeClose => insertDuringRun afterOpen beforeClose
  | .relativeSet motors => setRelative motion motors
  | .resetPositions motors => captureMoves motion motors
  | .lazilyStage devices => stageOnTouch devices
  | .injectMd mdExtra => fun memo _ item => .pass memo (item.mapMsg (Plans.injectMd mdExtra))
  | .setRunKey runKey => fun memo _ item =>
      .pass memo (item.mapMsg (Plans.injectMd (AList.singleton "run_key" runKey)))
  | .stub => refuseRuns

/-- The final plan, for the two that have one. -/
def final : (preprocessor : Preprocessor) → Option (preprocessor.Memo → List PlanItem)
  | .resetPositions _ => some fun memo => resetPlan memo.moved
  | .lazilyStage _ => some fun memo => unstagePlan memo.staged
  | .duringRun _ _ | .relativeSet _ | .injectMd _ | .setRunKey _ | .stub => none

end Preprocessor

end Bsrs.Plans
