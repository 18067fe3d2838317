import Bsrs.Core.Json
import Bsrs.Plans.Patterns
import Bsrs.Plans.Preprocessors

/-! The step scans over one or several motors, in exact arithmetic, with the default step at each
point. -/

namespace Bsrs.Plans

open Bsrs.Library (Table)
open Bsrs.EventModel (Value)
open Bsrs.Core
open Bsrs.Engine (PlanStream planItems)

/-! ## Messages -/

/-- What the step scans take from outside: how JSON values and numbers are written, and the device
that is staged for an object, if it has one. -/
structure Beamline (K : Type) where
  json : Json → Value
  number : K → Json
  stageable : Obj → Option Obj

/-- A position as a message has it. -/
def Beamline.written (beamline : Beamline K) (position : K) : Value :=
  beamline.json (beamline.number position)

/-- `arg_names`. -/
def argNames (objs : List Obj) : Json :=
  .array (objs.map fun obj => .string obj.name)

def countJson (count : Nat) : Json :=
  .number (.int count)

inductive AxisGrouping where
  | coupled
  | grid
  | time
  deriving Repr, DecidableEq

/-- `motor_hint_fields`. -/
def motorHintFields (reader : Obj) : List String :=
  reader.hintFields.getD [reader.name]

/-- The fields of the independent axes. -/
def AxisGrouping.axes (motors : List Obj) : AxisGrouping → List (List String)
  | .time => [["time"]]
  | .coupled => [motors.flatMap motorHintFields]
  | .grid => motors.map motorHintFields

/-- The `hints` of a run: one entry for each axis that has fields. -/
def hintsJson (axes : List (List String)) : Json :=
  match axes.filter fun fields => !fields.isEmpty with
  | [] => .object []
  | dimensions => .object [("dimensions", .array (dimensions.map fun fields =>
      .array [.array (fields.map .string), .string "primary"]))]

/-- The entries `scan_run_md` makes, besides the plan's arguments. -/
def scanEntries (detectors motors : List Obj) (numPoints : Option Nat) (grouping : AxisGrouping) :
    List (String × Json) :=
  [("detectors", argNames detectors)] ++
    (if motors.isEmpty then [] else [("motors", argNames motors)]) ++
    (match numPoints with
      | some count => [("num_points", countJson count), ("num_intervals", countJson (count - 1))]
      | none => []) ++
    [("hints", hintsJson (grouping.axes motors))]

/-- `scan_run_md`. -/
def scanRunMd (beamline : Beamline K) (planName : String) (detectors motors : List Obj)
    (numPoints : Option Nat) (grouping : AxisGrouping) (planArgs : Json) : RunMetadata where
  scanId := none
  extra := Table.insertAll ∅
    (((if planArgs.isNull then [] else [("plan_args", planArgs)]) ++
      scanEntries detectors motors numPoints grouping).map fun entry => (entry.1, beamline.json entry.2))
  planName := some planName

/-! ## The default step -/

/-- A motor's part in one step; without a target it is only read. -/
structure StepMotor (K : Type) where
  motor : Obj
  reader : Obj
  target : Option K

/-- `move_per_step`. -/
def movePerStep (beamline : Beamline K) (motors : List (StepMotor K)) : List Msg :=
  [.checkpoint] ++
    motors.filterMap (fun motor => motor.target.map fun position =>
      .set motor.motor (beamline.written position) (some "set")) ++
    [.wait "set" true none]

/-- `one_nd_step`. -/
def oneNdStep (beamline : Beamline K) (detectors : List Obj) (motors : List (StepMotor K)) : List Msg :=
  movePerStep beamline motors ++ [.create "primary"] ++
    motors.map (fun motor => .read motor.reader) ++ detectors.map .read ++ [.save]

/-- `stageables_for`: each device once. -/
def stageablesFor (beamline : Beamline K) (detectors motors : List Obj) : List Obj :=
  ((detectors ++ motors).filterMap beamline.stageable).foldl
    (fun staged device =>
      if staged.any fun other => other.ptr = device.ptr then staged else staged ++ [device]) []

/-- A scan whose devices are staged around it. -/
structure StepScan where
  staged : List Obj
  msgs : List Msg

namespace StepScan

def plans (scan : StepScan) : PlanStream (Finalized (Through Unit (List PlanItem))) :=
  stageWrapper scan.staged planItems

/-- The generator before its first poll. -/
def plan (scan : StepScan) : Finalized (Through Unit (List PlanItem)) :=
  stagePlan scan.staged (scan.msgs.map .bare)

end StepScan

def closeSuccess : Msg :=
  .closeRun "success" none

/-! ## One motor -/

/-- One step of one motor, which is always commanded. -/
def singleStep (beamline : Beamline K) (detectors : List Obj) (motor reader : Obj) (position : K) :
    List Msg :=
  oneNdStep beamline detectors [⟨motor, reader, some position⟩]

/-- A run of one motor over its positions. -/
def singleScan (beamline : Beamline K) (planName : String) (planArgs : Json) (detectors : List Obj)
    (motor reader : Obj) (positions : List K) : StepScan where
  staged := stageablesFor beamline detectors [motor]
  msgs :=
    [.openRun (scanRunMd beamline planName detectors [reader] (some positions.length) .coupled
      planArgs)] ++
    positions.flatMap (singleStep beamline detectors motor reader) ++ [closeSuccess]

section

variable [Field K]

/-- `scan_1d`. -/
def scan1d (beamline : Beamline K) (detectors : List Obj) (motor reader : Obj) (start stop : K)
    (num : Nat) : StepScan :=
  let step := if 1 < num then (stop - start) / ((num : K) - 1) else 0
  singleScan beamline "scan"
    (.object [("detectors", argNames detectors), ("num", countJson num),
      ("args", .array [.string motor.name, beamline.number start, beamline.number stop]),
      ("per_step", .string "default")])
    detectors motor reader ((List.range num).map fun i => start + step * (i : K))

end

/-- `list_scan`. -/
def listScan (beamline : Beamline K) (detectors : List Obj) (motor reader : Obj) (points : List K) :
    StepScan :=
  singleScan beamline "list_scan"
    (.object [("detectors", argNames detectors),
      ("args", .array [.string motor.name, .array (points.map beamline.number)]),
      ("per_step", .string "default")])
    detectors motor reader points

/-! ## Two motors, row by row -/

/-- One motor of a grid: its ends and its number of points. -/
structure GridAxis (K : Type) where
  motor : Obj
  reader : Obj
  start : K
  stop : K
  num : Nat

section

variable [Field K]

/-- The distance between two points of the axis. -/
def GridAxis.step (axis : GridAxis K) : K :=
  if 1 < axis.num then (axis.stop - axis.start) / ((axis.num : K) - 1) else 0

def GridAxis.position (axis : GridAxis K) (index : Nat) : K :=
  axis.start + axis.step * (index : K)

theorem GridAxis.position_eq_linspaced (axis : GridAxis K) (index : Nat) :
    axis.position index = linspaced (axis.start, axis.stop, axis.num) index := by
  unfold GridAxis.position GridAxis.step linspaced
  dsimp only
  split
  · rw [div_mul_eq_mul_div, mul_div_assoc]
  · rw [zero_mul, mul_zero]

/-- A move of its own: checkpoint, set and wait. -/
def moveAlone (beamline : Beamline K) (motor : Obj) (position : K) (group : GroupId) : List Msg :=
  [.checkpoint, .set motor (beamline.written position) (some group), .wait group true none]

/-- The place of the fast axis at point `j` of row `i`. -/
def snakePlace (snake : Bool) (i j num : Nat) : Nat :=
  if snake ∧ i % 2 = 1 then num - 1 - j else j

/-- `grid_scan_snake`. -/
def gridScanSnake (beamline : Beamline K) (detectors : List Obj) (slow fast : GridAxis K) (snake : Bool) :
    StepScan where
  staged := stageablesFor beamline detectors [slow.motor, fast.motor]
  msgs :=
    [.openRun (scanRunMd beamline "grid_scan" detectors [slow.reader, fast.reader]
      (some (slow.num * fast.num)) .grid
      (.object [("detectors", argNames detectors),
        ("args", .array [.string slow.motor.name, beamline.number slow.start, beamline.number slow.stop,
          countJson slow.num, .string fast.motor.name, beamline.number fast.start,
          beamline.number fast.stop, countJson fast.num]),
        ("snake_axes", .bool snake)]))] ++
    (List.range slow.num).flatMap (fun i =>
      moveAlone beamline slow.motor (slow.position i) "set1" ++
        (List.range fast.num).flatMap fun j =>
          moveAlone beamline fast.motor (fast.position (snakePlace snake i j fast.num)) "set2" ++
            [.create "primary", .read slow.reader, .read fast.reader] ++ detectors.map .read ++
            [.save]) ++
    [closeSuccess]

/-- `grid_scan`. -/
def gridScan (beamline : Beamline K) (detectors : List Obj) (slow fast : GridAxis K) : StepScan :=
  gridScanSnake beamline detectors slow fast false

end

end Bsrs.Plans
