import Bsrs.Plans.StepScan

/-! `count`: shots of the detectors, with delays between them. -/

namespace Bsrs.Plans

open Bsrs.Core

/-- `CountDelay`, in nanoseconds. -/
inductive CountDelay where
  | none
  | every (delay : Nat)
  | sequence (delays : List Nat)
  deriving Repr, DecidableEq

namespace CountDelay

/-- The target delay behind shot `i`; none once a sequence is exhausted. -/
def target (i : Nat) : CountDelay → Option Nat
  | .none => some 0
  | .every delay => some delay
  | .sequence delays => delays[i]?

/-- `count_delay_json`, with the number of a duration in seconds. -/
def json (seconds : Nat → Json) : CountDelay → Json
  | .none => .null
  | .every delay => seconds delay
  | .sequence delays => .array (delays.map seconds)

/-- Why `count_ext` fails at once: a sequence is too short for the shots. -/
def rejection (num : Nat) : CountDelay → Option String
  | .sequence delays =>
      if 1 < num ∧ delays.length < num - 1 then
        some ("count: num=" ++ toString num ++ " needs at least " ++ toString (num - 1) ++
          " delay entries but got " ++ toString delays.length)
      else Option.none
  | .none | .every _ => Option.none

end CountDelay

/-- `read_shot`. -/
def readShot (detectors : List Obj) : List Msg :=
  [.checkpoint, .create "primary"] ++ detectors.map .read ++ [.save]

/-- What `count_ext` takes from outside: how a duration is written, and how long each shot took. -/
structure Clockwork where
  seconds : Nat → Json
  duration : Nat → String
  elapsed : Nat → Nat

/-- The rest of the delay behind shot `i`. -/
def Clockwork.pause (clockwork : Clockwork) (delay i : Nat) : List Msg :=
  if clockwork.elapsed i < delay then [.sleep (clockwork.duration (delay - clockwork.elapsed i))] else []

/-- The loop of `count_ext` from shot `i` on, with that many left. -/
def countShots (clockwork : Clockwork) (delay : CountDelay) (shot : List Msg) : Nat → Nat → List Msg
  | 0, _ => []
  | left + 1, i =>
      shot ++
        match delay.target i with
        | some target => clockwork.pause target i ++ countShots clockwork delay shot left (i + 1)
        | none => []

/-- `count_ext` for a given number of shots; without a shot of the caller's it is `read_shot`. A plan that
fails at once hands out that failure alone. -/
def countExt (beamline : Beamline K) (clockwork : Clockwork) (detectors : List Obj) (num : Nat)
    (delay : CountDelay) (perShot : Option (List Obj → List Msg)) : Except String StepScan :=
  match delay.rejection num with
  | some reason => .error reason
  | none => .ok
      { staged := stageablesFor beamline detectors []
        msgs :=
          [.openRun (scanRunMd beamline "count" detectors [] (some num) .time
            (.object [("detectors", argNames detectors), ("num", countJson num),
              ("delay", delay.json clockwork.seconds)]))] ++
          countShots clockwork delay ((perShot.getD readShot) detectors) num 0 ++ [closeSuccess] }

/-- `count`. -/
def count (beamline : Beamline K) (clockwork : Clockwork) (detectors : List Obj) (num : Nat) :
    Except String StepScan :=
  countExt beamline clockwork detectors num .none none

/-! ## Shots -/

/-- No sequence that is let through is exhausted before the last shot. -/
theorem CountDelay.target_of_accepted {num i : Nat} {delay : CountDelay}
    (accepted : delay.rejection num = Option.none) (before : i + 1 < num) :
    ∃ target, delay.target i = some target := by
  cases delay with
  | none => exact ⟨0, rfl⟩
  | every delay => exact ⟨delay, rfl⟩
  | sequence delays =>
      rw [rejection] at accepted
      by_cases short : 1 < num ∧ delays.length < num - 1
      · rw [if_pos short] at accepted
        cases accepted
      · have within : i < delays.length := by omega
        exact ⟨_, List.getElem?_eq_getElem within⟩

/-- What is taken of the messages between the shots, which are sleeps, is nothing. -/
theorem countShots_filter {num : Nat} {clockwork : Clockwork} {delay : CountDelay} {shot : List Msg}
    {β : Type} (part : Msg → Option β) (awake : ∀ duration, part (.sleep duration) = none)
    (accepted : delay.rejection num = none) :
    ∀ left i, i + left = num → (countShots clockwork delay shot left i).filterMap part =
      (List.replicate left (shot.filterMap part)).flatten := by
  intro left
  induction left with
  | zero => intros; rfl
  | succ left ih =>
      intro i whole
      have pause : ∀ target, (clockwork.pause target i).filterMap part = [] := by
        intro target
        unfold Clockwork.pause
        split
        · simp [awake]
        · rfl
      cases left with
      | zero =>
          have last : (match delay.target i with
              | some target => clockwork.pause target i ++ countShots clockwork delay shot 0 (i + 1)
              | none => []).filterMap part = [] := by
            cases delay.target i with
            | none => rfl
            | some target => simp [countShots, pause]
          rw [countShots, List.filterMap_append, last]
          simp
      | succ left =>
          obtain ⟨target, found⟩ := CountDelay.target_of_accepted accepted (by omega : i + 1 < num)
          rw [countShots, found, List.replicate_succ, List.flatten_cons, List.filterMap_append]
          simp only [List.filterMap_append, pause, List.nil_append]
          rw [ih (i + 1) (by omega)]

/-- The device a message reads. -/
def readIn : Msg → Option Obj
  | .read obj => some obj
  | _ => none

/-- `count` is not rejected, and reads the detectors in order, that many times. -/
theorem count_reads (beamline : Beamline K) (clockwork : Clockwork) (detectors : List Obj) (num : Nat) :
    ∃ scan, count beamline clockwork detectors num = .ok scan ∧
      scan.msgs.filterMap readIn = (List.replicate num detectors).flatten := by
  refine ⟨_, rfl, ?_⟩
  have shot : (readShot detectors).filterMap readIn = detectors := by
    have reads : (detectors.map Msg.read).filterMap readIn = detectors := by
      rw [List.filterMap_map]
      exact List.filterMap_some
    have ahead : [Msg.checkpoint, .create "primary"].filterMap readIn = [] := rfl
    have behind : [Msg.save].filterMap readIn = [] := rfl
    simp only [readShot, List.filterMap_append, reads, ahead, behind, List.nil_append, List.append_nil]
  have shots : (countShots clockwork .none (readShot detectors) num 0).filterMap readIn =
      (List.replicate num ((readShot detectors).filterMap readIn)).flatten :=
    countShots_filter readIn (fun _ => rfl) rfl num 0 (Nat.zero_add num)
  rw [shot] at shots
  have opening : ∀ metadata, [Msg.openRun metadata].filterMap readIn = [] := fun _ => rfl
  have closing : [closeSuccess].filterMap readIn = [] := rfl
  simp only [Option.getD_none, List.filterMap_append, shots, opening, closing, List.nil_append,
    List.append_nil]

end Bsrs.Plans
