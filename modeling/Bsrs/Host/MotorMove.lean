import Bsrs.Library.Run
import Mathlib.Logic.Function.Basic

/-! `MotorChannels::set` and `stop` on one motor, await by await, against an IOC whose DMOV is 0 from
the processing of a put to the end of its motion. Every read and press is answered. -/

namespace Bsrs.Host

open Library

/-- How a move's status settles. `stops` are the stops that published since the move subscribed. -/
inductive Outcome where
  | refused (reason : String)
  | halted (success : Bool) (stops : List Nat)
  | completed
  | failed (reason : String)
  | timedOut (seconds : String)
  deriving Repr, DecidableEq

/-- The status is reported stopped or successful. -/
def Outcome.reportsEnd : Outcome → Bool
  | .halted _ _ | .completed => true
  | _ => false

/-- Where a call of `set` is: it reads its deadline, then subscribes to the halt, then checks its
limits and sends its put, then waits. -/
inductive SetPhase where
  | uncalled
  | called
  | subscribed
  | waiting
  | settled (outcome : Outcome)
  deriving Repr, DecidableEq

/-- A put at the IOC. Its motion has ended once it arrived or STOP was pressed. -/
inductive PutPhase where
  | unsent
  | inFlight
  | moving
  | arrived
  | pressed
  deriving Repr, DecidableEq

/-- `seen` is the version of the halt the move has seen, `before` the stops that had returned when
`set` was called. -/
structure Move where
  phase : SetPhase
  seen : Nat
  before : List Nat
  put : PutPhase
  deriving Repr, DecidableEq

/-- Where a call of `stop` is: it reads DMOV, presses STOP if that was 0, and publishes its halt. -/
inductive StopPhase where
  | uncalled
  | called
  | pressing
  | ready
  | returned
  deriving Repr, DecidableEq

structure Stop where
  phase : StopPhase
  success : Bool
  deriving Repr, DecidableEq

/-- The motor: its moves and its stops, of which `begun` and `asked` were called, and the stops that
published their halt, newest first. The halt's version is their number. -/
structure Axis where
  moves : Nat → Move
  begun : Nat
  stops : Nat → Stop
  asked : Nat
  halts : List Nat

def Axis.fresh : Axis :=
  { moves := fun _ => { phase := .uncalled, seen := 0, before := [], put := .unsent }
    begun := 0
    stops := fun _ => { phase := .uncalled, success := false }
    asked := 0
    halts := [] }

inductive AxisStep where
  | set
  | subscribe (move : Nat)
  | refuse (move : Nat) (reason : String)
  | putStart (move : Nat)
  | process (move : Nat)
  | arrive (move : Nat)
  | settleHalted (move : Nat)
  | settleCompleted (move : Nat)
  | settleFailed (move : Nat) (reason : String)
  | settleTimedOut (move : Nat) (seconds : String)
  | stop (success : Bool)
  | readDmov (id : Nat)
  | press (id : Nat)
  | publish (id : Nat)
  deriving Repr, DecidableEq

namespace Axis

variable (axis : Axis)

/-- `.DMOV`. -/
def dmov : Nat :=
  if (List.range axis.begun).any fun move => (axis.moves move).put = .moving then 0 else 1

def withMove (move : Nat) (now : Move) : Axis :=
  { axis with moves := Function.update axis.moves move now }

def withStop (id : Nat) (now : StopPhase) : Axis :=
  { axis with stops := Function.update axis.stops id { axis.stops id with phase := now } }

/-- The version of the halt. -/
def version : Nat :=
  axis.halts.length

/-- The stops that published since a version of the halt. -/
def since (seen : Nat) : List Nat :=
  axis.halts.take (axis.version - seen)

/-- What the halt carries now. -/
def haltValue : Bool :=
  match axis.halts with
  | latest :: _ => (axis.stops latest).success
  | [] => false

end Axis

/-- STOP brings a motion to rest. -/
def Move.rest (move : Move) : Move :=
  { move with put := if move.put = .moving then .pressed else move.put }

/-- The motion has ended. -/
def PutPhase.atRest (put : PutPhase) : Bool :=
  put = .arrived || put = .pressed

/-- One await of a call, or one event at the IOC; `none` where it cannot happen now. -/
def Axis.step (axis : Axis) : AxisStep → Option Axis
  | .set =>
      some { axis.withMove axis.begun
          { phase := .called, seen := 0, before := axis.halts, put := .unsent } with
        begun := axis.begun + 1 }
  | .subscribe move =>
      if (axis.moves move).phase = .called then
        some (axis.withMove move
          { axis.moves move with phase := .subscribed, seen := axis.version })
      else none
  | .refuse move reason =>
      if (axis.moves move).phase = .called ∨ (axis.moves move).phase = .subscribed then
        some (axis.withMove move { axis.moves move with phase := .settled (.refused reason) })
      else none
  | .putStart move =>
      if (axis.moves move).phase = .subscribed then
        some (axis.withMove move { axis.moves move with phase := .waiting, put := .inFlight })
      else none
  | .process move =>
      if (axis.moves move).put = .inFlight then
        some (axis.withMove move { axis.moves move with put := .moving })
      else none
  | .arrive move =>
      if (axis.moves move).put = .moving then
        some (axis.withMove move { axis.moves move with put := .arrived })
      else none
  | .settleHalted move =>
      if (axis.moves move).phase = .waiting ∧ (axis.moves move).seen < axis.version then
        some (axis.withMove move { axis.moves move with
          phase := .settled (.halted axis.haltValue (axis.since (axis.moves move).seen)) })
      else none
  | .settleCompleted move =>
      -- the halt is polled before the put's completion
      if (axis.moves move).phase = .waiting ∧ (axis.moves move).seen = axis.version ∧
          (axis.moves move).put.atRest then
        some (axis.withMove move { axis.moves move with phase := .settled .completed })
      else none
  | .settleFailed move reason =>
      if (axis.moves move).phase = .waiting ∧ (axis.moves move).seen = axis.version then
        some (axis.withMove move { axis.moves move with phase := .settled (.failed reason) })
      else none
  | .settleTimedOut move seconds =>
      if (axis.moves move).phase = .waiting ∧ (axis.moves move).seen = axis.version then
        some (axis.withMove move { axis.moves move with phase := .settled (.timedOut seconds) })
      else none
  | .stop success =>
      some { axis with
        stops := Function.update axis.stops axis.asked { phase := .called, success }
        asked := axis.asked + 1 }
  | .readDmov id =>
      if (axis.stops id).phase = .called then
        some (axis.withStop id (if axis.dmov = 0 then .pressing else .ready))
      else none
  | .press id =>
      if (axis.stops id).phase = .pressing then
        some { axis.withStop id .ready with moves := fun move => (axis.moves move).rest }
      else none
  | .publish id =>
      if (axis.stops id).phase = .ready then
        some { axis.withStop id .returned with halts := id :: axis.halts }
      else none

/-- A status a stop settles is of a move whose put was never sent, whose motion had ended or was
brought to rest; none is reported stopped or successful with its motion still to end; and the
stops that returned before a set was called do not settle it. -/
structure Axis.Stopped (axis : Axis) : Prop where
  pressed : ∀ move success stops, (axis.moves move).phase = .settled (.halted success stops) →
    (axis.moves move).put = .unsent ∨ (axis.moves move).put = .arrived ∨
      (axis.moves move).put = .pressed
  rested : ∀ move outcome, (axis.moves move).phase = .settled outcome →
    outcome.reportsEnd = true → (axis.moves move).put ≠ .inFlight ∧ (axis.moves move).put ≠ .moving
  later : ∀ move success stops, (axis.moves move).phase = .settled (.halted success stops) →
    stops ≠ [] ∧ ∀ earlier ∈ (axis.moves move).before, earlier ∉ stops

/-- No stop comes between a set's subscription and the processing of its put: no halt was published
since a set subscribed whose put goes out; no put is processed under a move that waits while a stop
that has read DMOV, and pressed if it was 0, has yet to publish; and none is in flight as one does. -/
def Axis.Apart (axis : Axis) : AxisStep → Prop
  | .putStart move => (axis.moves move).seen = axis.version
  | .process move =>
      (axis.moves move).phase = .waiting → ∀ id < axis.asked, (axis.stops id).phase ≠ .ready
  | .publish _ =>
      ∀ move < axis.begun, (axis.moves move).phase = .waiting → (axis.moves move).put ≠ .inFlight
  | _ => True

instance (axis : Axis) (step : AxisStep) : Decidable (axis.Apart step) := by
  cases step <;> dsimp only [Axis.Apart] <;> infer_instance

/-! ## What holds of every move -/

/-- What holds of a move while the stops in `halts` have published. -/
structure Move.Fine (halts : List Nat) (move : Move) : Prop where
  unsent : move.phase = .uncalled ∨ move.phase = .called ∨ move.phase = .subscribed →
    move.put = .unsent
  sent : move.phase = .waiting → move.put ≠ .unsent
  known : move.before <:+ halts
  ordered : move.phase = .subscribed ∨ move.phase = .waiting →
    move.before.length ≤ move.seen ∧ move.seen ≤ halts.length
  due : move.phase = .waiting → move.seen < halts.length → move.put.atRest = true
  ended : ∀ outcome, move.phase = .settled outcome → outcome.reportsEnd = true →
    move.put.atRest = true
  later : ∀ success stops, move.phase = .settled (.halted success stops) →
    stops ≠ [] ∧ ∀ earlier ∈ move.before, earlier ∉ stops

theorem PutPhase.atRest_cases {put : PutPhase} (resting : put.atRest = true) :
    put = .arrived ∨ put = .pressed := by
  simpa [PutPhase.atRest] using resting

/-- A move that has not subscribed yet. -/
theorem Move.Fine.unstarted {halts : List Nat} {move : Move}
    (early : move.phase = .uncalled ∨ move.phase = .called) (unsent : move.put = .unsent)
    (known : move.before <:+ halts) : move.Fine halts := by
  refine ⟨fun _ => unsent, ?_, known, ?_, ?_, ?_, ?_⟩ <;>
    rcases early with same | same <;> simp [same]

/-- A motion that is brought to rest. -/
theorem Move.Fine.rest {halts : List Nat} {move : Move} (fine : move.Fine halts) :
    move.rest.Fine halts := by
  have resting (was : move.put.atRest = true) : move.rest.put.atRest = true := by
    rcases PutPhase.atRest_cases was with same | same <;> simp [Move.rest, same, PutPhase.atRest]
  refine ⟨fun early => ?_, fun waits => ?_, fine.known, fine.ordered, fun waits fewer =>
    resting (fine.due waits fewer), fun outcome settled reports =>
      resting (fine.ended outcome settled reports), fine.later⟩
  · have unsent := fine.unsent early
    simp [Move.rest, unsent]
  · have sent := fine.sent waits
    simp only [Move.rest]
    split
    · simp
    · exact sent

theorem Move.rest_still (move : Move) : move.rest.put ≠ .moving := by
  simp only [rest]
  split
  · simp
  · assumption

/-- One more stop publishes, with the motion of every move that waits at its end. -/
theorem Move.Fine.publish {halts : List Nat} {move : Move} {id : Nat} (fine : move.Fine halts)
    (apart : move.phase = .waiting → move.put ≠ .unsent ∧ move.put ≠ .inFlight ∧
      move.put ≠ .moving) : move.Fine (id :: halts) := by
  refine ⟨fine.unsent, fine.sent, fine.known.trans (List.suffix_cons ..), fun placed => ?_,
    fun waits _ => ?_, fine.ended, fine.later⟩
  · obtain ⟨low, high⟩ := fine.ordered placed
    exact ⟨low, Nat.le_succ_of_le high⟩
  · obtain ⟨sent, landed, still⟩ := apart waits
    cases phase : move.put with
    | unsent => exact absurd phase sent
    | inFlight => exact absurd phase landed
    | moving => exact absurd phase still
    | arrived => rfl
    | pressed => rfl

/-- The stops that published since a move subscribed are not among those before it was called. -/
theorem since_later {halts : List Nat} {move : Move} (once : halts.Nodup)
    (known : move.before <:+ halts) (ordered : move.before.length ≤ move.seen)
    (fewer : move.seen < halts.length) :
    halts.take (halts.length - move.seen) ≠ [] ∧
      ∀ earlier ∈ move.before, earlier ∉ halts.take (halts.length - move.seen) := by
  refine ⟨fun none => ?_, fun earlier member taken => ?_⟩
  · have count := congrArg List.length none
    rw [List.length_take, List.length_nil] at count
    omega
  · obtain ⟨newer, rfl⟩ := known
    rw [List.take_append_of_le_length (by rw [List.length_append]; omega)] at taken
    exact (List.nodup_append.mp once).2.2 earlier (List.mem_of_mem_take taken) earlier member rfl

/-- What holds of the motor while no stop comes between a set's subscription and its put. -/
structure Axis.Sound (axis : Axis) : Prop where
  moves : ∀ move, (axis.moves move).Fine axis.halts
  fresh : ∀ move, axis.begun ≤ move → (axis.moves move).phase = .uncalled
  unasked : ∀ id, axis.asked ≤ id → (axis.stops id).phase = .uncalled
  quiet : ∀ id, (axis.stops id).phase = .ready → ∀ move, (axis.moves move).phase = .waiting →
    (axis.moves move).put ≠ .moving
  once : axis.halts.Nodup
  published : ∀ id ∈ axis.halts, (axis.stops id).phase = .returned

namespace Axis.Sound

variable {axis after : Axis}

theorem initial : Axis.fresh.Sound where
  moves := fun _ => .unstarted (.inl rfl) rfl List.suffix_rfl
  fresh := fun _ _ => rfl
  unasked := fun _ _ => rfl
  quiet := fun _ ready => by cases ready
  once := List.nodup_nil
  published := fun _ member => absurd member List.not_mem_nil

theorem stopped (sound : axis.Sound) : axis.Stopped := by
  have resting {move : Nat} {outcome : Outcome}
      (settled : (axis.moves move).phase = .settled outcome) (reports : outcome.reportsEnd = true) :=
    PutPhase.atRest_cases ((sound.moves move).ended outcome settled reports)
  refine ⟨fun move success stops settled => .inr (resting settled rfl),
    fun move outcome settled reports => ?_, fun move => (sound.moves move).later⟩
  rcases resting settled reports with same | same <;> rw [same] <;> simp

/-- A step of one move that was called. -/
theorem withMove {move : Nat} {now : Move} (sound : axis.Sound) (fine : now.Fine axis.halts)
    (called : (axis.moves move).phase ≠ .uncalled)
    (quiet : ∀ id, (axis.stops id).phase = .ready → now.phase = .waiting → now.put ≠ .moving) :
    (axis.withMove move now).Sound := by
  have elsewhere {other : Nat} (different : other ≠ move) :
      (axis.withMove move now).moves other = axis.moves other :=
    Function.update_of_ne different ..
  have here : (axis.withMove move now).moves move = now := Function.update_self ..
  refine ⟨fun other => ?_, fun other late => ?_, sound.unasked, fun id ready other waits => ?_,
    sound.once, sound.published⟩
  · by_cases same : other = move
    · rw [same, here]
      exact fine
    · rw [elsewhere same]
      exact sound.moves other
  · have different : other ≠ move := by
      rintro rfl
      exact called (sound.fresh other late)
    rw [elsewhere different]
    exact sound.fresh other late
  · by_cases same : other = move
    · rw [same, here] at waits ⊢
      exact quiet id ready waits
    · rw [elsewhere same] at waits ⊢
      exact sound.quiet id ready other waits

/-- A settled move. -/
theorem settle {move : Nat} {outcome : Outcome} (sound : axis.Sound)
    (called : (axis.moves move).phase ≠ .uncalled)
    (resting : outcome.reportsEnd = true → (axis.moves move).put.atRest = true)
    (named : ∀ success stops, outcome = .halted success stops →
      stops ≠ [] ∧ ∀ earlier ∈ (axis.moves move).before, earlier ∉ stops) :
    (axis.withMove move { axis.moves move with phase := .settled outcome }).Sound := by
  refine sound.withMove ⟨by simp, by simp, (sound.moves move).known, by simp, by simp, ?_, ?_⟩ called
    (by simp)
  · rintro settled same
    cases same
    exact resting
  · rintro success stops same
    cases same
    exact named success stops rfl

theorem withStops {id : Nat} {now : Stop} (sound : axis.Sound)
    (called : (axis.stops id).phase ≠ .uncalled) (unpublished : (axis.stops id).phase ≠ .returned)
    (quiet : now.phase = .ready → ∀ move, (axis.moves move).phase = .waiting →
      (axis.moves move).put ≠ .moving) :
    Axis.Sound { axis with stops := Function.update axis.stops id now } := by
  refine ⟨sound.moves, sound.fresh, fun other late => ?_, fun other ready => ?_, sound.once,
    fun other member => ?_⟩
  · have different : other ≠ id := by
      rintro rfl
      exact called (sound.unasked other late)
    simpa [different] using sound.unasked other late
  · by_cases same : other = id
    · subst same
      exact quiet (by simpa using ready)
    · exact sound.quiet other (by simpa [same] using ready)
  · have different : other ≠ id := by
      rintro rfl
      exact unpublished (sound.published other member)
    simpa [different] using sound.published other member

/-- Nothing moves where DMOV is not 0. -/
theorem still (sound : axis.Sound) (dmov : axis.dmov ≠ 0) (move : Nat) :
    (axis.moves move).put ≠ .moving := by
  intro moving
  by_cases late : axis.begun ≤ move
  · rw [(sound.moves move).unsent (.inl (sound.fresh move late))] at moving
    cases moving
  · refine dmov (if_pos (List.any_eq_true.mpr ⟨move, List.mem_range.mpr (Nat.lt_of_not_le late), ?_⟩))
    exact decide_eq_true moving

/-- One await, or one event at the IOC. -/
theorem step {label : AxisStep} (sound : axis.Sound) (apart : axis.Apart label)
    (stepped : axis.step label = some after) : after.Sound := by
  cases label with
  | set =>
      cases stepped
      refine ⟨fun other => ?_, fun other late => ?_, sound.unasked, fun id ready other waits => ?_,
        sound.once, sound.published⟩
      · by_cases same : other = axis.begun
        · simp only [Axis.withMove, same, Function.update_self]
          exact .unstarted (.inr rfl) rfl List.suffix_rfl
        · simpa [Axis.withMove, same] using sound.moves other
      · have different : other ≠ axis.begun := Nat.ne_of_gt late
        simpa [Axis.withMove, different] using sound.fresh other (Nat.le_of_succ_le late)
      · by_cases same : other = axis.begun
        · simp [Axis.withMove, same] at waits
        · simp only [Axis.withMove, Function.update_of_ne same] at waits ⊢
          exact sound.quiet id ready other waits
  | subscribe move =>
      simp only [Axis.step, Option.ite_none_right_eq_some, Option.some.injEq] at stepped
      obtain ⟨called, rfl⟩ := stepped
      have fine := sound.moves move
      have unsent := fine.unsent (.inr (.inl called))
      refine sound.withMove ⟨fun _ => unsent, by simp, fine.known, fun _ => ⟨?_, Nat.le_refl _⟩, by simp,
        by simp, by simp⟩ (by simp [called]) (by simp)
      exact fine.known.length_le
  | refuse move reason =>
      simp only [Axis.step, Option.ite_none_right_eq_some, Option.some.injEq] at stepped
      obtain ⟨early, rfl⟩ := stepped
      refine sound.settle ?_ (by simp [Outcome.reportsEnd]) (by simp)
      rcases early with same | same <;> simp [same]
  | putStart move =>
      simp only [Axis.step, Option.ite_none_right_eq_some, Option.some.injEq] at stepped
      obtain ⟨subscribed, rfl⟩ := stepped
      have fine := sound.moves move
      have seen : (axis.moves move).seen = axis.halts.length := apart
      refine sound.withMove ⟨by simp, by simp, fine.known,
        fun _ => fine.ordered (.inl subscribed), fun _ fewer => ?_, by simp, by simp⟩
        (by simp [subscribed]) (by simp)
      exact absurd (seen ▸ fewer) (Nat.lt_irrefl _)
  | process move =>
      simp only [Axis.step, Option.ite_none_right_eq_some, Option.some.injEq] at stepped
      obtain ⟨inFlight, rfl⟩ := stepped
      have fine := sound.moves move
      have unsettled {resting : Prop} (ended : (axis.moves move).put.atRest = true) : resting := by
        rw [inFlight] at ended
        cases ended
      refine sound.withMove ⟨fun early => ?_, by simp, fine.known, fine.ordered,
        fun waits fewer => unsettled (fine.due waits fewer),
        fun outcome settled reports => unsettled (fine.ended outcome settled reports), fine.later⟩
        (fun uncalled => ?_) fun id ready waits => ?_
      · rw [fine.unsent early] at inFlight
        cases inFlight
      · rw [fine.unsent (.inl uncalled)] at inFlight
        cases inFlight
      · by_cases late : axis.asked ≤ id
        · rw [sound.unasked id late] at ready
          cases ready
        · exact absurd ready (apart waits id (Nat.lt_of_not_le late))
  | arrive move =>
      simp only [Axis.step, Option.ite_none_right_eq_some, Option.some.injEq] at stepped
      obtain ⟨moving, rfl⟩ := stepped
      have fine := sound.moves move
      refine sound.withMove ⟨fun early => ?_, by simp, fine.known, fine.ordered, fun _ _ => rfl,
        fun _ _ _ => rfl, fine.later⟩ (fun uncalled => ?_) (by simp)
      · rw [fine.unsent early] at moving
        cases moving
      · rw [fine.unsent (.inl uncalled)] at moving
        cases moving
  | settleHalted move =>
      simp only [Axis.step, Option.ite_none_right_eq_some, Option.some.injEq] at stepped
      obtain ⟨⟨waits, fewer⟩, rfl⟩ := stepped
      have fine := sound.moves move
      refine sound.settle (by simp [waits]) (fun _ => fine.due waits fewer) ?_
      rintro success stops same
      cases same
      exact since_later sound.once fine.known (fine.ordered (.inr waits)).1 fewer
  | settleCompleted move =>
      simp only [Axis.step, Option.ite_none_right_eq_some, Option.some.injEq] at stepped
      obtain ⟨⟨waits, -, resting⟩, rfl⟩ := stepped
      exact sound.settle (by simp [waits]) (fun _ => resting) (by simp)
  | settleFailed move reason =>
      simp only [Axis.step, Option.ite_none_right_eq_some, Option.some.injEq] at stepped
      obtain ⟨⟨waits, -⟩, rfl⟩ := stepped
      exact sound.settle (by simp [waits]) (by simp [Outcome.reportsEnd]) (by simp)
  | settleTimedOut move seconds =>
      simp only [Axis.step, Option.ite_none_right_eq_some, Option.some.injEq] at stepped
      obtain ⟨⟨waits, -⟩, rfl⟩ := stepped
      exact sound.settle (by simp [waits]) (by simp [Outcome.reportsEnd]) (by simp)
  | stop success =>
      cases stepped
      have idle : (axis.stops axis.asked).phase = .uncalled := sound.unasked _ (Nat.le_refl _)
      refine ⟨sound.moves, sound.fresh, fun other late => ?_, fun other ready => ?_, sound.once,
        fun other member => ?_⟩
      · have different : other ≠ axis.asked := Nat.ne_of_gt late
        simpa [different] using sound.unasked other (Nat.le_of_succ_le late)
      · by_cases same : other = axis.asked
        · simp [same] at ready
        · exact sound.quiet other (by simpa [same] using ready)
      · have different : other ≠ axis.asked := by
          rintro rfl
          rw [sound.published axis.asked member] at idle
          cases idle
        simpa [different] using sound.published other member
  | readDmov id =>
      simp only [Axis.step, Option.ite_none_right_eq_some, Option.some.injEq] at stepped
      obtain ⟨called, rfl⟩ := stepped
      refine sound.withStops (by simp [called]) (by simp [called]) fun ready move _ => ?_
      dsimp only at ready
      split at ready
      · cases ready
      · rename_i dmov
        exact sound.still dmov move
  | press id =>
      simp only [Axis.step, Option.ite_none_right_eq_some, Option.some.injEq] at stepped
      obtain ⟨pressing, rfl⟩ := stepped
      have rested : Axis.Sound { axis with moves := fun move => (axis.moves move).rest } :=
        ⟨fun move => (sound.moves move).rest, sound.fresh, sound.unasked,
          fun _ _ move _ => (axis.moves move).rest_still, sound.once, sound.published⟩
      exact rested.withStops (by simp [pressing]) (by simp [pressing]) fun _ move _ => (axis.moves move).rest_still
  | publish id =>
      simp only [Axis.step, Option.ite_none_right_eq_some, Option.some.injEq] at stepped
      obtain ⟨ready, rfl⟩ := stepped
      have returned : Axis.Sound (axis.withStop id .returned) :=
        sound.withStops (by simp [ready]) (by simp [ready]) (by simp)
      have new : id ∉ axis.halts := fun member => by
        rw [sound.published id member] at ready
        cases ready
      refine ⟨fun move => ?_, returned.fresh, returned.unasked, returned.quiet, List.nodup_cons.mpr ⟨new, sound.once⟩,
        fun other member => ?_⟩
      · refine (sound.moves move).publish fun waits =>
          ⟨(sound.moves move).sent waits, ?_, sound.quiet id ready move waits⟩
        by_cases late : axis.begun ≤ move
        · rw [sound.fresh move late] at waits
          cases waits
        · exact apart move (Nat.lt_of_not_le late) waits
      · rcases List.mem_cons.mp member with rfl | earlier
        · simp [Axis.withStop]
        · exact returned.published other earlier

end Axis.Sound

/-- In every run where no stop comes between a set's subscription and its put, a stopped move is
really stopped. -/
theorem motor_stops {steps : List AxisStep} {axis : Axis}
    (reached : exec Axis.step .fresh steps = some axis)
    (apart : Throughout Axis.step Axis.Apart .fresh steps) : axis.Stopped := by
  have sound := exec_invariant_throughout Axis.Sound
    (fun before label after stepped apart sound => sound.step apart stepped) reached apart .initial
  exact sound.stopped

/-- A move stopped on its way. -/
theorem motor_stops_midway : ∃ axis, exec Axis.step .fresh
      [.set, .subscribe 0, .putStart 0, .process 0, .stop false, .readDmov 0, .press 0, .publish 0,
        .settleHalted 0] = some axis ∧ axis.Stopped := by
  have runs : exec Axis.step .fresh
      [.set, .subscribe 0, .putStart 0, .process 0, .stop false, .readDmov 0, .press 0, .publish 0,
        .settleHalted 0] ≠ none := Option.some_ne_none _
  obtain ⟨axis, reached⟩ := Option.ne_none_iff_exists'.mp runs
  exact ⟨axis, reached, motor_stops reached (by decide)⟩

/-- A stop that reads DMOV before the put goes out presses nothing, and settles the move all the
same. -/
theorem motor_runs_on : ∃ axis, exec Axis.step .fresh
      [.set, .subscribe 0, .stop false, .readDmov 0, .publish 0, .putStart 0, .process 0,
        .settleHalted 0] = some axis ∧ ¬ axis.Stopped := by
  refine ⟨_, rfl, fun stopped => ?_⟩
  exact (stopped.rested 0 (.halted false [0]) rfl rfl).2 rfl

end Bsrs.Host
