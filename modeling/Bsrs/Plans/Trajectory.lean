import Bsrs.Library.LastWrite
import Bsrs.Plans.StepScan

/-! The scans over several motors: the rows they visit, and where the motors stand at their Events. -/

namespace Bsrs.Plans

open Bsrs.Library
open Bsrs.EventModel (Value)
open Bsrs.Core
open Bsrs.Engine

/-! ## Where the devices were last sent -/

/-- The device a message moves, and where to; a routed message moves what it carries. -/
def moveIn : Msg → Option (Nat × Value)
  | .set obj value _ => some (obj.ptr, value)
  | .inRun _ inner => moveIn inner
  | _ => none

/-- The message ends a bundle with an Event. -/
def savesIn : Msg → Bool
  | .save => true
  | .inRun _ inner => savesIn inner
  | _ => false

/-- Where the devices were sent last before each Event, from where they stood before. -/
def shotsFrom (held : Nat → Option Value) : List Msg → List (Nat → Option Value)
  | [] => []
  | msg :: rest =>
      let next := fun device => lastWrite moveIn device [msg] (held device)
      if savesIn msg then held :: shotsFrom next rest else shotsFrom next rest

/-- The same, with no device sent anywhere before. -/
abbrev shots (msgs : List Msg) : List (Nat → Option Value) :=
  shotsFrom (fun _ => none) msgs

theorem shotsFrom_append (held : Nat → Option Value) (first second : List Msg) :
    shotsFrom held (first ++ second) = shotsFrom held first ++
      shotsFrom (fun device => lastWrite moveIn device first (held device)) second := by
  induction first generalizing held with
  | nil => rfl
  | cons msg rest ih =>
      simp only [List.cons_append, shotsFrom]
      split
      · rw [ih]
        rfl
      · rw [ih]
        rfl

theorem shotsFrom_unsaved {msgs : List Msg} (unsaved : ∀ msg ∈ msgs, savesIn msg = false)
    (held : Nat → Option Value) : shotsFrom held msgs = [] := by
  induction msgs generalizing held with
  | nil => rfl
  | cons msg rest ih =>
      rw [shotsFrom, if_neg (by simp [unsaved msg (List.mem_cons_self ..)])]
      exact ih (fun other member => unsaved other (List.mem_cons_of_mem _ member)) _

/-- A message that neither moves a device nor makes an Event. -/
structure Msg.Idles (msg : Msg) : Prop where
  unmoved : moveIn msg = none
  unsaved : savesIn msg = false

section Step

variable {moves reads : List Msg} (idle : ∀ msg ∈ reads, Msg.Idles msg)
include idle

/-- A step: a checkpoint, the moves, the readings and the Event. It sends the devices where its moves
do. -/
theorem lastWrite_step (device : Nat) (held : Option Value) :
    lastWrite moveIn device (.checkpoint :: (moves ++ (reads ++ [.save]))) held =
      lastWrite moveIn device moves held := by
  rw [lastWrite_cons, lastWrite_append, lastWrite_append,
    lastWrite_of_silent (fun msg member => (idle msg member).unmoved)]
  rfl

/-- A step makes one Event, past its moves. -/
theorem shotsFrom_step (unsaved : ∀ msg ∈ moves, savesIn msg = false) (held : Nat → Option Value) :
    shotsFrom held (.checkpoint :: (moves ++ (reads ++ [.save]))) =
      [fun device => lastWrite moveIn device moves (held device)] := by
  have quiet : ∀ msg ∈ .checkpoint :: (moves ++ reads), savesIn msg = false := by
    intro msg member
    rcases List.mem_cons.mp member with rfl | later
    · rfl
    · rcases List.mem_append.mp later with moved | read
      · exact unsaved msg moved
      · exact (idle msg read).unsaved
  have before : ∀ device, lastWrite moveIn device (.checkpoint :: (moves ++ reads)) (held device) =
      lastWrite moveIn device moves (held device) := by
    intro device
    rw [lastWrite_cons, lastWrite_append,
      lastWrite_of_silent (fun msg member => (idle msg member).unmoved)]
    rfl
  have split : (.checkpoint :: (moves ++ (reads ++ [.save])) : List Msg) =
      (.checkpoint :: (moves ++ reads)) ++ [.save] := by simp
  rw [split, shotsFrom_append, shotsFrom_unsaved quiet, List.nil_append]
  simp only [before]
  rfl

end Step

variable {K : Type}

/-! ## `scan_nd` -/

/-- What the scans do with one point, a step of messages. -/
abbrev PerStep (K : Type) := List Obj → List (StepMotor K) → List Msg

/-- The position a motor is commanded to at a row, none where it was last sent there already or the row
is too short. -/
def rowTarget [DecidableEq K] (posCache : List (Option K)) (row : List K) (i : Nat) : Option K :=
  match row[i]? with
  | some position => if posCache.getD i none = some position then none else some position
  | none => none

/-- `pos_cache` past a row. -/
def refreshed [DecidableEq K] (posCache : List (Option K)) (row : List K) : List (Option K) :=
  posCache.mapIdx fun i held => (rowTarget posCache row i).or held

def stepMotors [DecidableEq K] (motors : List (Obj × Obj)) (posCache : List (Option K))
    (row : List K) : List (StepMotor K) :=
  motors.mapIdx fun i motor => ⟨motor.1, motor.2, rowTarget posCache row i⟩

/-- The row loop of `scan_nd_with_md`. -/
def ndSteps [DecidableEq K] (perStep : PerStep K) (detectors : List Obj) (motors : List (Obj × Obj)) :
    List (Option K) → List (List K) → List Msg
  | _, [] => []
  | posCache, row :: rest =>
      perStep detectors (stepMotors motors posCache row) ++
        ndSteps perStep detectors motors (refreshed posCache row) rest

/-- `scan_nd_with_md`. -/
def scanNdWithMd [DecidableEq K] (beamline : Beamline K) (detectors : List Obj)
    (motors : List (Obj × Obj)) (points : List (List K)) (md : RunMetadata)
    (perStep : Option (PerStep K)) : StepScan where
  staged := stageablesFor beamline detectors (motors.map Prod.fst)
  msgs :=
    [.openRun md] ++
      ndSteps (perStep.getD (oneNdStep beamline)) detectors motors (motors.map fun _ => none) points ++
      [closeSuccess]

/-! ## One step -/

/-- The motors stand where the row has them. -/
def AtRow (beamline : Beamline K) (motors : List Obj) (row : List K) (held : Nat → Option Value) :
    Prop :=
  ∀ (i : Nat) (motor : Obj) (position : K), motors[i]? = some motor → row[i]? = some position →
    held motor.ptr = some (beamline.written position)

/-- The Events of the messages are the rows, in order, each with the motors where the row has them. -/
def Visits (beamline : Beamline K) (motors : List Obj) (points : List (List K)) (msgs : List Msg) :
    Prop :=
  List.Forall₂ (AtRow beamline motors) points (shots msgs)

/-- The commands of a step. -/
def commands (beamline : Beamline K) (motors : List (StepMotor K)) : List Msg :=
  motors.filterMap fun motor => motor.target.map fun position =>
    .set motor.motor (beamline.written position) (some "set")

/-- The readings of a step, between its commands and its Event. -/
def readings (detectors : List Obj) (motors : List (StepMotor K)) : List Msg :=
  [.create "primary"] ++ motors.map (fun motor => .read motor.reader) ++ detectors.map .read

section Step

variable {beamline : Beamline K} {detectors : List Obj} {motors : List (StepMotor K)}

theorem oneNdStep_eq : oneNdStep beamline detectors motors =
    .checkpoint :: ((commands beamline motors ++ [.wait "set" true none]) ++
      (readings detectors motors ++ [.save])) := by
  simp [oneNdStep, movePerStep, commands, readings]

private theorem commands_unsaved : ∀ msg ∈ commands beamline motors, savesIn msg = false := by
  intro msg member
  obtain ⟨motor, -, made⟩ := List.mem_filterMap.mp member
  obtain ⟨position, -, rfl⟩ := Option.map_eq_some_iff.mp made
  rfl

private theorem readings_idle : ∀ msg ∈ readings detectors motors, Msg.Idles msg := by
  intro msg member
  rcases List.mem_append.mp member with earlier | detected
  · rcases List.mem_append.mp earlier with created | moved
    · rw [List.mem_singleton.mp created]
      exact ⟨rfl, rfl⟩
    · obtain ⟨motor, -, rfl⟩ := List.mem_map.mp moved
      exact ⟨rfl, rfl⟩
  · obtain ⟨detector, -, rfl⟩ := List.mem_map.mp detected
    exact ⟨rfl, rfl⟩

private theorem moves_unsaved :
    ∀ msg ∈ commands beamline motors ++ [.wait "set" true none], savesIn msg = false := by
  intro msg member
  rcases List.mem_append.mp member with moves | waits
  · exact commands_unsaved msg moves
  · rw [List.mem_singleton.mp waits]
    rfl

/-- A step sends the motors where its commands do. -/
theorem lastWrite_oneNdStep (device : Nat) (held : Option Value) :
    lastWrite moveIn device (oneNdStep beamline detectors motors) held =
      lastWrite moveIn device (commands beamline motors) held := by
  rw [oneNdStep_eq, lastWrite_step readings_idle, lastWrite_append]
  rfl

/-- A step makes one Event, with its commands given. -/
theorem shotsFrom_oneNdStep (held : Nat → Option Value) :
    shotsFrom held (oneNdStep beamline detectors motors) =
      [fun device => lastWrite moveIn device (commands beamline motors) (held device)] := by
  rw [oneNdStep_eq, shotsFrom_step readings_idle moves_unsaved]
  simp only [lastWrite_append]
  rfl

/-- No command goes to a device that is no motor of the step. -/
theorem lastWrite_commands_other {device : Nat} (other : ∀ motor ∈ motors, motor.motor.ptr ≠ device)
    (held : Option Value) :
    lastWrite moveIn device (commands beamline motors) held = held := by
  apply lastWrite_of_unwritten
  intro msg member value writes
  obtain ⟨motor, among, made⟩ := List.mem_filterMap.mp member
  obtain ⟨position, -, rfl⟩ := Option.map_eq_some_iff.mp made
  cases writes
  exact other motor among rfl

/-- The commands send each motor to its target, if it has one. -/
theorem lastWrite_commands (distinct : (motors.map fun motor => motor.motor.ptr).Nodup)
    {motor : StepMotor K} (member : motor ∈ motors) (held : Option Value) :
    lastWrite moveIn motor.motor.ptr (commands beamline motors) held =
      (motor.target.map beamline.written).or held := by
  induction motors generalizing held with
  | nil => cases member
  | cons first rest ih =>
      obtain ⟨apart, others⟩ := List.nodup_cons.mp distinct
      have split : commands beamline (first :: rest) =
          (first.target.map fun position =>
            Msg.set first.motor (beamline.written position) (some "set")).toList ++
            commands beamline rest := by
        cases target : first.target <;> simp [commands, target]
      rw [split, lastWrite_append]
      rcases List.mem_cons.mp member with rfl | later
      · rw [lastWrite_commands_other]
        · cases motor.target with
          | none => rfl
          | some position => exact lastWrite_some rfl held
        · intro other among same
          exact apart (List.mem_map.mpr ⟨other, among, same⟩)
      · have still : lastWrite moveIn motor.motor.ptr (first.target.map fun position =>
            Msg.set first.motor (beamline.written position) (some "set")).toList held = held := by
          cases first.target with
          | none => rfl
          | some position =>
              apply lastWrite_other rfl
              intro same
              exact apart (List.mem_map.mpr ⟨motor, later, same.symm⟩)
        rw [still]
        exact ih others later held

end Step

/-! ## Skipping unchanged motors -/

/-- Every motor that a row has a position for, to be commanded there. -/
def everyMotor (motors : List (Obj × Obj)) (row : List K) : List (StepMotor K) :=
  motors.mapIdx fun i motor => ⟨motor.1, motor.2, row[i]?⟩

/-- The rows with every motor commanded at every row. -/
def everyStep (beamline : Beamline K) (detectors : List Obj) (motors : List (Obj × Obj))
    (points : List (List K)) : List Msg :=
  points.flatMap fun row => oneNdStep beamline detectors (everyMotor motors row)

/-- No two of the motors are one device. -/
def Distinct (motors : List (Obj × Obj)) : Prop :=
  (motors.map fun motor => motor.1.ptr).Nodup

/-- The motors stand where the cache says they were last sent. -/
def Stands (beamline : Beamline K) (motors : List (Obj × Obj)) (posCache : List (Option K))
    (held : Nat → Option Value) : Prop :=
  ∀ i motor, motors[i]? = some motor →
    held motor.1.ptr = (posCache.getD i none).map beamline.written

section Rows

variable {beamline : Beamline K} {detectors : List Obj} {motors : List (Obj × Obj)}

private theorem distinct_mapIdx (distinct : Distinct motors) (target : Nat → Option K) :
    ((motors.mapIdx fun i motor => (⟨motor.1, motor.2, target i⟩ : StepMotor K)).map
      fun motor => motor.motor.ptr).Nodup := by
  have same : (motors.mapIdx fun i motor => (⟨motor.1, motor.2, target i⟩ : StepMotor K)).map
      (fun motor => motor.motor.ptr) = motors.map fun motor => motor.1.ptr := by
    apply List.ext_getElem?
    intro i
    simp [List.getElem?_mapIdx, Function.comp_def]
  rw [same]
  exact distinct

/-- A step over the motors sends each one where its target is. -/
private theorem lastWrite_indexed (distinct : Distinct motors) {target : Nat → Option K} {i : Nat}
    {motor : Obj × Obj} (found : motors[i]? = some motor) (held : Option Value) :
    lastWrite moveIn motor.1.ptr (commands beamline
      (motors.mapIdx fun i motor => ⟨motor.1, motor.2, target i⟩)) held =
        ((target i).map beamline.written).or held := by
  have member : (⟨motor.1, motor.2, target i⟩ : StepMotor K) ∈
      motors.mapIdx fun i motor => (⟨motor.1, motor.2, target i⟩ : StepMotor K) := by
    apply List.mem_of_getElem? (i := i)
    rw [List.getElem?_mapIdx, found]
    rfl
  exact lastWrite_commands (distinct_mapIdx distinct target) member held

private theorem lastWrite_indexed_other {device : Nat}
    (other : ∀ motor ∈ motors, motor.1.ptr ≠ device) (target : Nat → Option K)
    (held : Option Value) :
    lastWrite moveIn device (commands beamline
      (motors.mapIdx fun i motor => ⟨motor.1, motor.2, target i⟩)) held = held := by
  apply lastWrite_commands_other
  intro motor member
  obtain ⟨i, bound, made⟩ := List.mem_mapIdx.mp member
  subst made
  exact other _ (List.getElem_mem bound)

/-- Commanding every motor brings the motors to the row. -/
theorem everyMotor_atRow (distinct : Distinct motors) (row : List K) (held : Nat → Option Value) :
    AtRow beamline (motors.map Prod.fst) row fun device =>
      lastWrite moveIn device (commands beamline (everyMotor motors row)) (held device) := by
  intro i motor position found has
  rw [List.getElem?_map] at found
  obtain ⟨pair, inside, rfl⟩ := Option.map_eq_some_iff.mp found
  have sent : lastWrite moveIn pair.1.ptr (commands beamline (everyMotor motors row))
      (held pair.1.ptr) = ((row[i]?).map beamline.written).or (held pair.1.ptr) :=
    lastWrite_indexed distinct inside _
  rw [has] at sent
  exact sent

theorem everyStep_visits (distinct : Distinct motors) (points : List (List K))
    (held : Nat → Option Value) :
    List.Forall₂ (AtRow beamline (motors.map Prod.fst)) points
      (shotsFrom held (everyStep beamline detectors motors points)) := by
  induction points generalizing held with
  | nil => exact .nil
  | cons row rest ih =>
      rw [everyStep, List.flatMap_cons, shotsFrom_append, shotsFrom_oneNdStep]
      exact .cons (everyMotor_atRow distinct row held) (ih _)

private theorem commands_fewer {target whole : Nat → Option K}
    (fewer : ∀ i, target i = none ∨ target i = whole i) :
    (commands beamline (motors.mapIdx fun i motor => ⟨motor.1, motor.2, target i⟩)).Sublist
      (commands beamline (motors.mapIdx fun i motor => ⟨motor.1, motor.2, whole i⟩)) := by
  induction motors generalizing target whole with
  | nil => exact List.Sublist.refl _
  | cons motor rest ih =>
      have later := ih (fun i => fewer (i + 1))
      rw [List.mapIdx_cons, List.mapIdx_cons]
      rcases fewer 0 with skipped | same
      · cases sent : whole 0 with
        | none => simpa [commands, skipped, sent] using later
        | some position =>
            have one := later.cons (.set motor.1 (beamline.written position) (some "set"))
            simpa [commands, skipped, sent] using one
      · cases sent : whole 0 with
        | none => simpa [commands, same, sent] using later
        | some position => simpa [commands, same, sent] using later

/-- Before the first row no motor has been sent anywhere. -/
private theorem stands_fresh :
    Stands beamline motors (motors.map fun _ => none) fun _ => none := by
  intro i motor _
  have none : (motors.map fun _ => (none : Option K)).getD i none = none := by
    rw [List.getD_eq_getElem?_getD, List.getElem?_map]
    cases motors[i]? <;> rfl
  rw [none]
  rfl

section Cache

variable [DecidableEq K]

/-- What a row leaves of a motor: its target, or what the cache has. -/
private theorem rowTarget_or (posCache : List (Option K)) (row : List K) (i : Nat) :
    (rowTarget posCache row i).or (posCache.getD i none) = (row[i]?).or (posCache.getD i none) := by
  unfold rowTarget
  cases row[i]? with
  | none => rfl
  | some position =>
      dsimp only
      by_cases same : posCache.getD i none = some position
      · rw [if_pos same, same]
        rfl
      · rw [if_neg same]

/-- Where the cache is right, skipping the unchanged motors or commanding them all comes to the same,
and the cache is right again. -/
theorem stepMotors_agree (distinct : Distinct motors) {posCache : List (Option K)}
    (sized : posCache.length = motors.length) {held : Nat → Option Value}
    (stands : Stands beamline motors posCache held) (row : List K) :
    (∀ device, lastWrite moveIn device (commands beamline (stepMotors motors posCache row))
        (held device) =
      lastWrite moveIn device (commands beamline (everyMotor motors row)) (held device)) ∧
    Stands beamline motors (refreshed posCache row) fun device =>
      lastWrite moveIn device (commands beamline (stepMotors motors posCache row)) (held device) := by
  have known : ∀ i motor, motors[i]? = some motor →
      lastWrite moveIn motor.1.ptr (commands beamline (stepMotors motors posCache row))
        (held motor.1.ptr) =
          ((rowTarget posCache row i).or (posCache.getD i none)).map beamline.written := by
    intro i motor found
    rw [stepMotors, lastWrite_indexed distinct found, stands i motor found, Option.map_or]
  constructor
  · intro device
    by_cases among : ∃ motor ∈ motors, motor.1.ptr = device
    · obtain ⟨motor, member, rfl⟩ := among
      obtain ⟨i, found⟩ := List.getElem?_of_mem member
      rw [known i motor found, rowTarget_or, everyMotor, lastWrite_indexed distinct found,
        stands i motor found, Option.map_or]
    · have other : ∀ motor ∈ motors, motor.1.ptr ≠ device := fun motor member same =>
        among ⟨motor, member, same⟩
      rw [stepMotors, everyMotor, lastWrite_indexed_other other, lastWrite_indexed_other other]
  · intro i motor found
    have bound : i < posCache.length := by
      rw [sized]
      exact (List.getElem?_eq_some_iff.mp found).1
    have fresh : (refreshed posCache row).getD i none =
        (rowTarget posCache row i).or (posCache.getD i none) := by
      simp [refreshed, List.getD_eq_getElem?_getD, bound]
    rw [fresh]
    exact known i motor found

theorem length_refreshed (posCache : List (Option K)) (row : List K) :
    (refreshed posCache row).length = posCache.length :=
  List.length_mapIdx

/-- The rows with unchanged motors skipped send every device, at every Event, where the rows with every
motor commanded do. -/
theorem ndSteps_shots (distinct : Distinct motors) (points : List (List K)) :
    ∀ {posCache : List (Option K)} {held : Nat → Option Value},
      posCache.length = motors.length → Stands beamline motors posCache held →
      shotsFrom held (ndSteps (oneNdStep beamline) detectors motors posCache points) =
        shotsFrom held (everyStep beamline detectors motors points) := by
  induction points with
  | nil => exact fun _ _ => rfl
  | cons row rest ih =>
      intro posCache held sized stands
      obtain ⟨agree, onward⟩ := stepMotors_agree distinct sized stands row
      have later := ih ((length_refreshed posCache row).trans sized) onward
      simp only [agree] at later
      rw [ndSteps, everyStep, List.flatMap_cons, shotsFrom_append, shotsFrom_append,
        shotsFrom_oneNdStep, shotsFrom_oneNdStep]
      simp only [lastWrite_oneNdStep, agree, later]
      rfl

private theorem rowTarget_cases (posCache : List (Option K)) (row : List K) (i : Nat) :
    rowTarget posCache row i = none ∨ rowTarget posCache row i = row[i]? := by
  unfold rowTarget
  cases row[i]? with
  | none => exact .inl rfl
  | some position =>
      dsimp only
      split
      · exact .inl rfl
      · exact .inr rfl

theorem ndSteps_shots_fresh (distinct : Distinct motors) (points : List (List K)) :
    shots (ndSteps (oneNdStep beamline) detectors motors (motors.map fun _ => none) points) =
      shots (everyStep beamline detectors motors points) :=
  ndSteps_shots distinct points (List.length_map _) stands_fresh

/-- Skipping leaves commands out and nothing else. -/
theorem ndSteps_sublist (points : List (List K)) (posCache : List (Option K)) :
    (ndSteps (oneNdStep beamline) detectors motors posCache points).Sublist
      (everyStep beamline detectors motors points) := by
  induction points generalizing posCache with
  | nil => exact List.Sublist.refl _
  | cons row rest ih =>
      rw [ndSteps, everyStep, List.flatMap_cons]
      refine List.Sublist.append ?_ (ih _)
      have fewer : (commands beamline (stepMotors motors posCache row)).Sublist
          (commands beamline (everyMotor motors row)) :=
        commands_fewer (rowTarget_cases posCache row)
      have same : (stepMotors motors posCache row).map (fun motor => Msg.read motor.reader) =
          (everyMotor motors row).map fun motor => Msg.read motor.reader := by
        apply List.ext_getElem?
        intro i
        simp [stepMotors, everyMotor, Function.comp_def]
      rw [oneNdStep_eq, oneNdStep_eq, readings, readings, same]
      exact ((fewer.append_right _).append_right _).cons_cons _

end Cache

end Rows

/-! ## The plan -/

/-- The Events between the start and the end of a run. -/
theorem shots_of_steps (md : RunMetadata) (steps : List Msg) :
    shots ([.openRun md] ++ steps ++ [closeSuccess]) = shots steps := by
  unfold shots
  rw [shotsFrom_append, shotsFrom_append]
  exact List.append_nil _

section Scan

variable [DecidableEq K] {beamline : Beamline K} {detectors : List Obj} {motors : List (Obj × Obj)}

/-- The Events of the scan are the rows of its matrix, in order, each with every motor where the row has
it, whichever commands were skipped. -/
theorem scanNdWithMd_visits (distinct : Distinct motors) (points : List (List K)) (md : RunMetadata) :
    Visits beamline (motors.map Prod.fst) points
      (scanNdWithMd beamline detectors motors points md none).msgs := by
  have stepped : shots (scanNdWithMd beamline detectors motors points md none).msgs =
      shots (everyStep beamline detectors motors points) :=
    (shots_of_steps md _).trans (ndSteps_shots_fresh distinct points)
  rw [Visits, stepped]
  exact everyStep_visits distinct points _

end Scan

/-! ## Two motors -/

private def axisMotor (ptr : Nat) (name : String) : Obj where
  ptr := ptr
  name := name
  hintFields := none
  configurable := false
  collectable := false
  writesExternalAssets := false

private def whole : Beamline Int where
  json := Json.print
  number position := .number (.int position)
  stageable _ := none

private def twoMotors : List (Obj × Obj) :=
  [(axisMotor 0 "x", axisMotor 0 "x"), (axisMotor 1 "y", axisMotor 1 "y")]

/-- The first motor stays for the second point. -/
private def twoPoints : List (List Int) :=
  [[0, 1], [0, 2]]

private def untitled : RunMetadata :=
  ⟨none, ∅, none⟩

private theorem twoMotors_distinct : Distinct twoMotors := by
  unfold Distinct
  decide

theorem scanNdWithMd_visits_twoPoints :
    (scanNdWithMd whole [] twoMotors twoPoints untitled none).msgs.countP savesIn = 2 ∧
      Visits whole (twoMotors.map Prod.fst) twoPoints
        (scanNdWithMd whole [] twoMotors twoPoints untitled none).msgs :=
  ⟨by decide, scanNdWithMd_visits twoMotors_distinct twoPoints untitled⟩

end Bsrs.Plans
