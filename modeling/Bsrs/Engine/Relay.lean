import Bsrs.Library.Delivery
import Bsrs.Engine.SequenceInvariant

namespace Bsrs.Engine

open Bsrs.Library (Always Throughout Sessions Delivery Carry exec exec_invariant_throughout)
open Bsrs.EventModel
open Bsrs.Core

/-! ## The Events of the pumps on their way -/

/-- No run is open under the key. -/
def isShut (key : RunKey) : List Entry → Bool
  | [] => true
  | .opened other _ :: rest => other ≠ key && isShut key rest
  | .closed other _ :: rest => other = key || isShut key rest
  | _ :: rest => isShut key rest

/-- An Event of a pump of the run. -/
def Entry.isPumped (key : RunKey) : Entry → Bool
  | .emitted other _ source _ => other = key && source = .pump
  | _ => false

/-- The pumps take up one update at a time. A pump has its own handle on the bundle of its run and is
aborted at its next await only, so it may compose an Event when the RunStop is composed already. -/
def pumps : Sessions RunKey Entry where
  belongs := Entry.isPumped
  past := isShut
  lasts key other entry log belongs := by
    cases entry <;> first | rfl | cases belongs

/-- The Event an entry sends into the stream, with the path that composed it. -/
def Entry.eventOf (key : RunKey) (stream : String) : Entry → Option (Source × Event)
  | .emitted other name source event => if other = key ∧ name = stream then some (source, event) else none
  | _ => none

/-- Entries that open or close the run of the stream, or send an Event into it. -/
def Entry.concerns (key : RunKey) (stream : String) : Entry → Bool
  | .opened other _ | .closed other _ => other = key
  | .emitted other name _ _ => other = key ∧ name = stream
  | _ => false

/-- The Events of the stream go out in turn, and none is lost. -/
def InTurn (key : RunKey) (stream : String) (delivery : Delivery RunKey Entry) :
    Carry RunKey Entry → Prop
  | .sends entry | .makes _ entry =>
      entry.concerns key stream = true → delivery.inHand (Entry.eventOf key stream) = []
  | .loses _ entry => entry.eventOf key stream = none
  | _ => True

/-- The pumps of the run are done when it closes, and pass on the Events of the stream in turn. -/
def Prompt (key : RunKey) (stream : String) (delivery : Delivery RunKey Entry)
    (move : Carry RunKey Entry) : Prop :=
  Delivery.Timely pumps (· = key) delivery move ∧ InTurn key stream delivery move

instance (key : RunKey) (stream : String) (delivery : Delivery RunKey Entry) :
    ∀ move, Decidable (Prompt key stream delivery move) := by
  rintro (_ | _) <;> dsimp only [Prompt, InTurn] <;> infer_instance

/-- All that was sent of the stream was seen but what is `held`, an Event at most. -/
structure Trails (key : RunKey) (stream : String) (log : List Entry) (held : List (Source × Event))
    (seen : List Entry) : Prop where
  single : held.length ≤ 1
  turn : sent key stream log = held ++ sent key stream seen

/-- What an observer has seen of the stream, against what was sent. -/
structure Relayed (key : RunKey) (stream : String) (delivery : Delivery RunKey Entry) : Prop where
  current : Delivery.Current pumps (· = key) delivery
  trails : Trails key stream delivery.sent (delivery.inHand (Entry.eventOf key stream)) delivery.seen
  used : usedByPlan key stream delivery.seen = usedByPlan key stream delivery.sent
  onward : Always (NumberedOnward key stream) delivery.sent →
    Always (NumberedOnward key stream) delivery.seen
  totalled : Always (Totalled key stream) delivery.sent → Always (Totalled key stream) delivery.seen

section

variable {key : RunKey} {stream : String} {before after delivery : Delivery RunKey Entry}
  {move : Carry RunKey Entry} {entry : Entry} {log rest : List Entry}

theorem sent_unconcerned (beside : entry.concerns key stream = false) :
    sent key stream (entry :: rest) = sent key stream rest := by
  cases entry <;> grind [sent, Entry.concerns]

theorem sent_pumped {session : RunKey} (pumped : entry.isPumped session = true) :
    sent key stream (entry :: rest) = (entry.eventOf key stream).toList ++ sent key stream rest := by
  cases entry <;> grind [sent, Entry.eventOf, Entry.isPumped]

theorem concerns_of_eventOf {event : Source × Event} (sends : entry.eventOf key stream = some event) :
    entry.concerns key stream = true := by
  cases entry <;> grind [Entry.concerns, Entry.eventOf]

theorem unconcerned {session : RunKey} (elsewhere : entry.eventOf key stream = none)
    (pumped : entry.isPumped session = true) : entry.concerns key stream = false := by
  cases entry <;> grind [Entry.concerns, Entry.eventOf, Entry.isPumped]

theorem eventOf_other {session : RunKey} (pumped : entry.isPumped session = true)
    (other : session ≠ key) : entry.eventOf key stream = none := by
  cases entry <;> grind [Entry.eventOf, Entry.isPumped]

theorem usedByPlan_pumped {session : RunKey} (pumped : entry.isPumped session = true) :
    usedByPlan key stream (entry :: rest) = usedByPlan key stream rest := by
  cases entry <;> grind [usedByPlan, Entry.isPumped]

theorem usedByPlan_congr (same : usedByPlan key stream log = usedByPlan key stream rest) :
    usedByPlan key stream (entry :: log) = usedByPlan key stream (entry :: rest) := by
  cases entry <;> simp only [usedByPlan, same]

theorem numberedOnward_unconcerned (beside : entry.concerns key stream = false) :
    NumberedOnward key stream entry rest := by
  cases entry <;> grind [NumberedOnward, Entry.concerns]

theorem numberedOnward_of_ascends {event : Source × Event}
    (sends : entry.eventOf key stream = some event)
    (ascends : ∀ earlier ∈ sent key stream rest,
      event.1 ≠ .bundle → earlier.1 ≠ .bundle → earlier.2.seqNum < event.2.seqNum) :
    NumberedOnward key stream entry rest := by
  cases entry <;> grind [NumberedOnward, Entry.eventOf]

theorem totalled_pumped {session : RunKey} (pumped : entry.isPumped session = true) :
    Totalled key stream entry rest := by
  cases entry <;> trivial

/-- Numbers that go onward are in order in the stream. -/
theorem sent_ascends (onward : Always (NumberedOnward key stream) log) :
    (sent key stream log).Pairwise fun event earlier =>
      event.1 ≠ .bundle → earlier.1 ≠ .bundle → earlier.2.seqNum < event.2.seqNum := by
  induction log with
  | nil => exact .nil
  | cons entry rest ih =>
      have later := ih onward.2
      by_cases concerned : entry.concerns key stream = true
      · cases entry with
        | emitted other name source event =>
            obtain ⟨rfl, rfl⟩ := of_decide_eq_true concerned
            simp only [sent, and_self, if_true]
            refine List.pairwise_cons.mpr ⟨fun earlier member engines => ?_, later⟩
            exact onward.1 rfl rfl engines earlier member
        | opened other start =>
            obtain rfl := of_decide_eq_true concerned
            simp [sent]
        | closed other stop => exact later
        | _ => cases concerned
      · rwa [sent_unconcerned (Bool.not_eq_true _ ▸ concerned)]

theorem relayed_start : Relayed key stream Delivery.start where
  current := Delivery.current_start
  trails := ⟨Nat.zero_le 1, rfl⟩
  used := rfl
  onward _ := trivial
  totalled _ := trivial

private theorem relayed_sends (relayed : Relayed key stream before)
    (current : Delivery.Current pumps (· = key)
      { before with sent := entry :: before.sent, seen := entry :: before.seen })
    (inTurn : entry.concerns key stream = true → before.inHand (Entry.eventOf key stream) = []) :
    Relayed key stream { before with sent := entry :: before.sent, seen := entry :: before.seen } := by
  have level : entry.concerns key stream = true →
      sent key stream before.seen = sent key stream before.sent := by
    intro concerned
    rw [relayed.trails.turn, inTurn concerned, List.nil_append]
  have turn : sent key stream (entry :: before.sent) =
      before.inHand (Entry.eventOf key stream) ++ sent key stream (entry :: before.seen) := by
    by_cases concerned : entry.concerns key stream = true
    · rw [inTurn concerned, List.nil_append]
      have same := level concerned
      cases entry <;> simp only [sent, same]
    · rw [sent_unconcerned (Bool.not_eq_true _ ▸ concerned),
        sent_unconcerned (Bool.not_eq_true _ ▸ concerned)]
      exact relayed.trails.turn
  refine ⟨current, ⟨relayed.trails.single, turn⟩, usedByPlan_congr relayed.used,
    fun always => ⟨?_, relayed.onward always.2⟩, fun always => ⟨?_, relayed.totalled always.2⟩⟩
  · have known := always.1
    cases entry with
    | emitted other name source event =>
        rintro rfl rfl engines
        rw [level (by simp [Entry.concerns])]
        exact known rfl rfl engines
    | _ => trivial
  · have known := always.1
    cases entry with
    | closed other stop =>
        rintro rfl unused
        rw [level (by simp [Entry.concerns])]
        exact known rfl (relayed.used ▸ unused)
    | _ => trivial

private theorem relayed_passes {session : RunKey} (relayed : Relayed key stream before)
    (current : Delivery.Current pumps (· = key) after) (pumped : entry.isPumped session = true)
    (hands : before.inHand (Entry.eventOf key stream) =
      (entry.eventOf key stream).toList ++ after.inHand (Entry.eventOf key stream))
    (same : after.sent = before.sent) (passed : after.seen = entry :: before.seen) :
    Relayed key stream after := by
  have single := relayed.trails.single
  have turn := relayed.trails.turn
  rw [hands] at single turn
  have totalled : Always (Totalled key stream) after.sent → Always (Totalled key stream) after.seen := by
    rw [same, passed]
    exact fun always => ⟨totalled_pumped pumped, relayed.totalled always⟩
  have used : usedByPlan key stream after.seen = usedByPlan key stream after.sent := by
    rw [same, passed, usedByPlan_pumped pumped, relayed.used]
  cases sends : entry.eventOf key stream with
  | none =>
      rw [sends] at single turn
      refine ⟨current, ⟨single, ?_⟩, used, ?_, totalled⟩
      · rw [same, passed, sent_pumped pumped, sends]
        exact turn
      · rw [same, passed]
        exact fun always => ⟨numberedOnward_unconcerned (unconcerned sends pumped), relayed.onward always⟩
  | some event =>
      rw [sends] at single turn
      have clear : after.inHand (Entry.eventOf key stream) = [] :=
        List.length_eq_zero_iff.mp (by simpa using single)
      rw [clear] at turn
      refine ⟨current, ⟨clear ▸ Nat.zero_le 1, ?_⟩, used, ?_, totalled⟩
      · rw [same, passed, sent_pumped pumped, sends, clear]
        exact turn
      · rw [same, passed]
        refine fun always => ⟨?_, relayed.onward always⟩
        have ordered := sent_ascends always
        rw [turn] at ordered
        exact numberedOnward_of_ascends sends (List.pairwise_cons.mp ordered).1

theorem relayed_step (stepped : Delivery.step pumps before move = some after)
    (prompt : Prompt key stream before move) (relayed : Relayed key stream before) :
    Relayed key stream after := by
  have current := Delivery.current_step stepped prompt.1 relayed.current
  have trails := relayed.trails
  cases move with
  | sends entry =>
      cases stepped
      exact relayed_sends relayed current prompt.2
  | takes session | quits session =>
      cases stepped
      exact ⟨current, trails, relayed.used, relayed.onward, relayed.totalled⟩
  | makes session entry =>
      have hands := Delivery.inHand_makes (Entry.eventOf key stream) stepped
      obtain ⟨⟨-, belongs⟩, next⟩ := Option.ite_none_right_eq_some.mp stepped
      cases next
      refine ⟨current, ⟨?_, ?_⟩, relayed.used.trans (usedByPlan_pumped belongs).symm,
        fun always => relayed.onward always.2, fun always => relayed.totalled always.2⟩
      · rw [hands]
        cases sends : entry.eventOf key stream with
        | none => exact trails.single
        | some event =>
            rw [prompt.2 (concerns_of_eventOf sends)]
            rfl
      · rw [sent_pumped belongs, hands, trails.turn, List.append_assoc]
  | strays session entry =>
      have apart : session ≠ key := by
        intro same
        rw [Delivery.strays_none relayed.current same] at stepped
        cases stepped
      have hands := Delivery.inHand_strays (Entry.eventOf key stream) stepped
      obtain ⟨⟨-, belongs, -⟩, next⟩ := Option.ite_none_right_eq_some.mp stepped
      cases next
      rw [eventOf_other belongs apart] at hands
      have held := trails.single
      exact ⟨current, hands ▸ trails, relayed.used, relayed.onward, relayed.totalled⟩
  | passes session entry =>
      have hands := Delivery.inHand_passes stepped trails.single
      obtain ⟨held, next⟩ := Option.ite_none_right_eq_some.mp stepped
      cases next
      exact relayed_passes relayed current (relayed.current.belongs _ held) hands rfl rfl
  | loses session entry =>
      have hands := Delivery.inHand_loses stepped trails.single
      obtain ⟨-, next⟩ := Option.ite_none_right_eq_some.mp stepped
      cases next
      rw [(prompt.2 : entry.eventOf key stream = none)] at hands
      rw [hands] at trails
      exact ⟨current, trails, relayed.used, relayed.onward, relayed.totalled⟩

end

/-- A stream that every resume with messages to replay finds level is seen to number the Events of
its pumps and interruption records onward, and its RunStop counts them. -/
theorem numberedOnward_of_rewindsLevel {plans : PlanStream σ} {key : RunKey} {stream : String}
    (idle : engine.Idle) (trace : run plans (Config.start engine plan) labels = some reached)
    (levels : Always (RewindsLevel key stream) reached.engine.log)
    (carried : exec (Delivery.step pumps) Delivery.start moves = some delivery)
    (sent : delivery.sent = reached.engine.log)
    (prompt : Throughout (Delivery.step pumps) (Prompt key stream) Delivery.start moves) :
    Always (NumberedOnward key stream) delivery.seen ∧ Always (Totalled key stream) delivery.seen := by
  have composed := sequenceInvariant_of_levels idle trace levels
  have relayed : Relayed key stream delivery :=
    exec_invariant_throughout (Relayed key stream) (fun _ _ _ => relayed_step) carried prompt relayed_start
  exact ⟨relayed.onward (sent ▸ composed.onward), relayed.totalled (sent ▸ composed.totalled)⟩

/-- A signal that can be monitored. -/
def monitoredSignal : Obj :=
  { ptr := 0, name := "sig", hintFields := none, configurable := false, collectable := false,
    writesExternalAssets := false }

def signalling : Env :=
  { Env.calm with
    describe := fun _ _ => .ok (AList.singleton "sig" ⟨"number", none, some "sig"⟩)
    subscribe := fun _ _ => .ok "sig"
    parked := fun _ => .resolved }

/-- A run that monitors the signal and sleeps. -/
def monitoredRun : List PlanItem :=
  [.openRun ⟨none, ∅, none⟩, .monitor monitoredSignal (some "m"), .sleep "1",
    .closeRun "success" none].map .bare

/-- The signal has a new value, which its pump makes an Event of. -/
def signalUpdated : Label :=
  .update ⟨none, ⟨"m", "sig"⟩, "1", "0"⟩

/-- What the moves of the pumps make of a log, when all else is seen as it is sent. -/
private def carrying (ways : RunKey → Entry → List (Carry RunKey Entry)) (log : List Entry) :
    List (Carry RunKey Entry) :=
  log.reverse.flatMap fun entry =>
    match entry with
    | .emitted key _ .pump _ => ways key entry
    | _ => [.sends entry]

private def passedOn (key : RunKey) (entry : Entry) : List (Carry RunKey Entry) :=
  [.takes key, .makes key entry, .passes key entry]

private def droppedOn (key : RunKey) (entry : Entry) : List (Carry RunKey Entry) :=
  [.takes key, .makes key entry, .loses key entry]

/-- Updates before a pause and after the resume, each Event passed on before the next. -/
theorem numberedOnward_monitored :
    ∃ reached ∈ run planItems (Config.start .new monitoredRun)
        (loops signalling 8 ++ signalUpdated :: pausedWhileParked ++ signalUpdated :: loops signalling 3),
      ∃ delivery ∈ exec (Delivery.step pumps) Delivery.start (carrying passedOn reached.engine.log),
        (Always (NumberedOnward none "m") delivery.seen ∧ Always (Totalled none "m") delivery.seen) ∧
          (sent none "m" delivery.seen).map (·.2.seqNum) = [2, 1] := by
  have checks : ∃ reached ∈ run planItems (Config.start .new monitoredRun)
        (loops signalling 8 ++ signalUpdated :: pausedWhileParked ++ signalUpdated :: loops signalling 3),
      ∃ delivery ∈ exec (Delivery.step pumps) Delivery.start (carrying passedOn reached.engine.log),
        Always (RewindsLevel none "m") reached.engine.log ∧ delivery.sent = reached.engine.log ∧
        Throughout (Delivery.step pumps) (Prompt none "m") Delivery.start
          (carrying passedOn reached.engine.log) ∧
        (sent none "m" delivery.seen).map (·.2.seqNum) = [2, 1] := by decide +kernel
  obtain ⟨reached, trace, delivery, carried, levels, sent, prompt, numbers⟩ := checks
  exact ⟨reached, trace, delivery, carried,
    numberedOnward_of_rewindsLevel new_idle trace levels carried sent prompt, numbers⟩

/-- An engine that records interruptions. -/
private def recordingEngine : RunEngine :=
  { RunEngine.new with recordInterruptions := true }

private def sleepPastCheckpoint : List PlanItem :=
  [.openRun ⟨none, ∅, none⟩, .checkpoint, .sleep "1", .closeRun "success" none].map .bare

/-- Past a checkpoint, the record of the resume repeats the number of the record of the pause; and
an Event the pump holds when it is aborted is counted by the RunStop and never seen. -/
theorem numberedOnward_fails_pastCheckpoint :
    (∃ reached ∈ run planItems (Config.start recordingEngine sleepPastCheckpoint)
        (loops .calm 8 ++ pausedWhileParked),
      ¬ Always (NumberedOnward none "interruptions") reached.engine.log) ∧
    ∃ reached ∈ run planItems (Config.start .new monitoredRun) (loops signalling 8 ++ signalUpdated :: loops signalling 4),
      Always (RewindsLevel none "m") reached.engine.log ∧
        ∃ delivery ∈ exec (Delivery.step pumps) Delivery.start (carrying droppedOn reached.engine.log),
          delivery.sent = reached.engine.log ∧ ¬ Always (Totalled none "m") delivery.seen := by
  constructor <;> decide +kernel

end Bsrs.Engine
