import Bsrs.Plans.Preprocessors
import Bsrs.Plans.Simulation

namespace Bsrs.Plans

open Bsrs.Library (Table exec exec_follows Throughout)
open Bsrs.EventModel (Value)
open Bsrs.Core
open Bsrs.Engine (PlanStream planItems)

variable {σ δ : Type}

/-! ## Moves of listed motors -/

/-- The object and value of a `Set`, routed or not. -/
def setIn : Msg → Option (Obj × Value)
  | .set obj value _ => some (obj, value)
  | .inRun _ (.set obj value _) => some (obj, value)
  | _ => none

/-- The message with another value in its `Set`. -/
def withValue (value : Value) : Msg → Msg
  | .set obj _ group => .set obj value group
  | .inRun run (.set obj _ group) => .inRun run (.set obj value group)
  | msg => msg

/-- The listed motor a message moves, and the value it is given. -/
def moveOf (motors : List Obj) (msg : Msg) : Option (Obj × Value) :=
  (setIn msg).bind fun set => (listed motors set.1.name).map fun motor => (motor, set.2)

/-- The items of a plan, each with what was learnt at its poll. -/
abbrev Trace := List (Value × PlanItem)

/-- The setpoint of the motor at the poll of the first item that moves it. -/
def baseOf (motion : Motion) (motors : List Obj) (trace : Trace) (motor : Obj) : Option Value :=
  (trace.find? fun entry => (moveOf motors entry.2.msg).any fun move => move.1 = motor).bind
    fun entry => motion.setpoint entry.1 motor

/-- The items of a plan with each move of a listed motor taken relative to the motor's base; there are
none for a plan that moves a motor whose base could not be located. -/
inductive Relatively (motion : Motion) (motors : List Obj) : Trace → List PlanItem → Prop where
  | nil : Relatively motion motors [] []
  | other {trace items input item} (before : Relatively motion motors trace items)
      (still : moveOf motors item.msg = none) :
      Relatively motion motors (trace ++ [(input, item)]) (items ++ [item])
  | moved {trace items input item motor value base} (before : Relatively motion motors trace items)
      (moves : moveOf motors item.msg = some (motor, value))
      (located : baseOf motion motors (trace ++ [(input, item)]) motor = some base) :
      Relatively motion motors (trace ++ [(input, item)])
        (items ++ [item.mapMsg (withValue (motion.plus value base))])

/-- The trace of a driven plan. -/
def Driven.trace (driven : Driven σ) : Trace :=
  driven.handed.map fun entry => (entry.input, entry.item)

/-! ## `relative_set_wrapper` -/

/-- The wrapper sees the move for what it is: it is not routed, and a motor it knows nothing of yet
can be located. -/
def MovesLocated (motion : Motion) (motors : List Obj) (known : String → Bool) (input : Value) :
    Msg → Prop
  | .set obj _ _ => ∀ motor ∈ listed motors obj.name, known obj.name = false →
      (motion.setpoint input motor).isSome
  | .inRun _ (.set obj _ _) => listed motors obj.name = none
  | _ => True

instance (motion : Motion) (motors : List Obj) (known : String → Bool) (input : Value) (msg : Msg) :
    Decidable (MovesLocated motion motors known input msg) := by
  unfold MovesLocated
  split <;> infer_instance

/-- The steps `relative_set_wrapper` copes with. -/
def RelativeStep (motion : Motion) (motors : List Obj) (plans : PlanStream σ)
    (driven : Driven (Through (Table String Value) σ)) : Stimulus → Prop
  | .poll sinks input _ => ∀ item ∈ (plans.next driven.plan.inner sinks input).item,
      MovesLocated motion motors (fun name => (driven.plan.resumed.lookup name).isSome) input item.msg
  | .answer _ | .drop => True

instance (motion : Motion) (motors : List Obj) (plans : PlanStream σ)
    (driven : Driven (Through (Table String Value) σ)) :
    ∀ stimulus, Decidable (RelativeStep motion motors plans driven stimulus)
  | .poll _ _ _ => by unfold RelativeStep; infer_instance
  | .answer _ | .drop => isTrue trivial

/-- The bases the wrapper has are the setpoints located at the first moves. -/
def BasesKnown (motion : Motion) (motors : List Obj) (trace : Trace) (bases : Table String Value) :
    Prop :=
  ∀ name, ∀ motor ∈ listed motors name,
    match bases.lookup name with
    | some base => baseOf motion motors trace motor = some base
    | none => ∀ entry ∈ trace, ∀ value, moveOf motors entry.2.msg ≠ some (motor, value)

section Relative

variable {motion : Motion} {motors : List Obj} {plans : PlanStream σ} {bases : Table String Value}
  {trace : Trace} {input : Value} {item : PlanItem}

theorem moveOf_set {obj : Obj} {value : Value} {group : Option GroupId} :
    moveOf motors (.set obj value group) = (listed motors obj.name).map fun motor => (motor, value) :=
  rfl

/-- A motor a message moves is the one listed under its own name. -/
theorem listed_of_moveOf {motor : Obj} {value : Value} {msg : Msg}
    (moves : moveOf motors msg = some (motor, value)) : listed motors motor.name = some motor := by
  simp only [moveOf, Option.bind_eq_some_iff, Option.map_eq_some_iff] at moves
  obtain ⟨set, _, found, eligible, same⟩ := moves
  obtain rfl : found = motor := congrArg Prod.fst same
  rw [name_of_listed eligible]
  exact eligible

theorem mapMsg_congr {update other : Msg → Msg} (same : update item.msg = other item.msg) :
    item.mapMsg update = item.mapMsg other := by
  cases item <;> exact congrArg _ same

/-- Where no routed move is overlooked, what is no `Set` moves nothing. -/
theorem still_of_unset {known : String → Bool} {msg : Msg}
    (located : MovesLocated motion motors known input msg)
    (unset : ∀ obj value group, msg ≠ .set obj value group) : moveOf motors msg = none := by
  cases msg with
  | set obj value group => exact absurd rfl (unset obj value group)
  | inRun run inner =>
      cases inner with
      | set obj value group =>
          have unlisted : listed motors obj.name = none := located
          simp [moveOf, setIn, unlisted]
      | _ => rfl
  | _ => rfl

/-- What the loop body does with an item: it goes on, or its value is taken relative to the base
known, or to the one located now. -/
theorem setRelative_cases
    (located : MovesLocated motion motors (fun name => (bases.lookup name).isSome) input item.msg) :
    (moveOf motors item.msg = none ∧ setRelative motion motors bases input item = .pass bases item) ∨
      ∃ motor value base, moveOf motors item.msg = some (motor, value) ∧
        ((bases.lookup motor.name = some base ∧
            setRelative motion motors bases input item =
              .pass bases (item.mapMsg (withValue (motion.plus value base)))) ∨
          bases.lookup motor.name = none ∧ motion.setpoint input motor = some base ∧
            setRelative motion motors bases input item =
              .pass (bases.insert motor.name base)
                (item.mapMsg (withValue (motion.plus value base)))) := by
  unfold setRelative
  split
  · rename_i obj value group sets
    rw [sets] at located ⊢
    rw [moveOf_set]
    have rewrites (base : Value) : (item.mapMsg fun _ => .set obj (motion.plus value base) group) =
        item.mapMsg (withValue (motion.plus value base)) :=
      mapMsg_congr (by rw [sets]; rfl)
    split
    · rename_i unlisted
      exact .inl ⟨by rw [unlisted]; rfl, rfl⟩
    · rename_i motor eligible
      have name := name_of_listed eligible
      split
      · rename_i base known
        refine .inr ⟨motor, value, base, by rw [eligible]; rfl, .inl ⟨by rw [name, known], ?_⟩⟩
        rw [rewrites]
      · rename_i unknown
        obtain ⟨base, found⟩ := Option.isSome_iff_exists.mp
          (located motor eligible (by simp [unknown]))
        refine .inr ⟨motor, value, base, by rw [eligible]; rfl, .inr ⟨by rw [name, unknown],
          found, ?_⟩⟩
        rw [found, Option.getD_some, name]
        exact congrArg (Treatment.pass _) (rewrites base)
  · rename_i unset
    exact .inl ⟨still_of_unset located unset, rfl⟩

theorem baseOf_concat_of_known {motor : Obj} {base : Value}
    (known : baseOf motion motors trace motor = some base) (entry : Value × PlanItem) :
    baseOf motion motors (trace ++ [entry]) motor = some base := by
  simp only [baseOf, Option.bind_eq_some_iff] at known ⊢
  obtain ⟨found, first, located⟩ := known
  exact ⟨found, by rw [List.find?_append, first]; rfl, located⟩

theorem baseOf_concat_first {motor : Obj} {value : Value}
    (none : ∀ entry ∈ trace, ∀ value, moveOf motors entry.2.msg ≠ some (motor, value))
    (moves : moveOf motors item.msg = some (motor, value)) :
    baseOf motion motors (trace ++ [(input, item)]) motor = motion.setpoint input motor := by
  have earlier : trace.find? (fun entry =>
      (moveOf motors entry.2.msg).any fun move => move.1 = motor) = .none := by
    refine List.find?_eq_none.mpr fun entry member moved => ?_
    cases shape : moveOf motors entry.2.msg with
    | none => simp [shape] at moved
    | some move =>
        have same : move.1 = motor := by simpa [shape] using moved
        exact none entry member move.2 (by rw [shape, ← same])
  simp [baseOf, List.find?_append, earlier, moves]

/-- An item that moves no other motor for the first time leaves the bases known. -/
theorem BasesKnown.concat (known : BasesKnown motion motors trace bases)
    (covered : ∀ motor value, moveOf motors item.msg = some (motor, value) →
      ∃ base, bases.lookup motor.name = some base) :
    BasesKnown motion motors (trace ++ [(input, item)]) bases := by
  intro name motor eligible
  have before := known name motor eligible
  cases found : bases.lookup name with
  | some base =>
      rw [found] at before
      exact baseOf_concat_of_known before _
  | none =>
      rw [found] at before
      intro entry member value moves
      rcases List.mem_append.mp member with earlier | here
      · exact before entry earlier value moves
      · obtain rfl : entry = (input, item) := by simpa using here
        obtain ⟨base, stored⟩ := covered motor value moves
        rw [name_of_listed eligible, found] at stored
        cases stored

theorem BasesKnown.insert {motor : Obj} {value base : Value}
    (known : BasesKnown motion motors trace bases)
    (moves : moveOf motors item.msg = some (motor, value))
    (first : bases.lookup motor.name = none) (located : motion.setpoint input motor = some base) :
    BasesKnown motion motors (trace ++ [(input, item)]) (bases.insert motor.name base) := by
  intro name other eligible
  by_cases same : name = motor.name
  · subst same
    obtain rfl : motor = other :=
      Option.some.inj ((listed_of_moveOf moves).symm.trans eligible)
    rw [AList.lookup_insert]
    have none := known motor.name motor eligible
    rw [first] at none
    rw [baseOf_concat_first none moves, located]
  · rw [AList.lookup_insert_ne same]
    have before := known name other eligible
    cases found : bases.lookup name with
    | some base =>
        rw [found] at before
        exact baseOf_concat_of_known before _
    | none =>
        rw [found] at before
        intro entry member value moved
        rcases List.mem_append.mp member with earlier | here
        · exact before entry earlier value moved
        · obtain rfl : entry = (input, item) := by simpa using here
          obtain rfl : motor = other := congrArg Prod.fst (Option.some.inj (moves.symm.trans moved))
          exact same (name_of_listed eligible).symm

/-- The wrapped plan, beside the plan itself driven by the same stimuli. -/
structure Beside (motion : Motion) (motors : List Obj)
    (wrapped : Driven (Through (Table String Value) σ)) (bare : Driven σ) : Prop where
  fate : bare.fate = wrapped.fate
  items : Relatively motion motors bare.trace wrapped.items
  running : wrapped.fate = .running →
    wrapped.plan.pending = [] ∧ wrapped.plan.returned = false ∧ wrapped.plan.inner = bare.plan ∧
      BasesKnown motion motors bare.trace wrapped.plan.resumed

theorem Driven.trace_hand (driven : Driven σ) (plan : σ) (item : PlanItem) (input : Value)
    (handled : Bool) :
    (driven.hand plan item input handled).trace = driven.trace ++ [(input, item)] := by
  simp [Driven.trace, Driven.hand]

theorem Driven.items_hand (driven : Driven σ) (plan : σ) (item : PlanItem) (input : Value)
    (handled : Bool) :
    (driven.hand plan item input handled).items = driven.items ++ [item] := by
  simp [Driven.items, Driven.hand]

theorem Beside.step {wrapped next : Driven (Through (Table String Value) σ)} {bare : Driven σ}
    {stimulus : Stimulus} (beside : Beside motion motors wrapped bare)
    (copes : RelativeStep motion motors plans wrapped stimulus)
    (stepped : drive (relativeSetWrapper motion motors plans) wrapped stimulus = some next) :
    ∃ reached, drive plans bare stimulus = some reached ∧ Beside motion motors next reached := by
  obtain ⟨running, move⟩ := drive_cases stepped
  have alive : bare.fate = .running := beside.fate.trans running
  obtain ⟨idle, going, same, known⟩ := beside.running running
  cases move with
  | @handed sinks input handled item yields =>
      cases given : (plans.next wrapped.plan.inner sinks input).item with
      | none =>
          rw [relativeSetWrapper, through_end idle going given] at yields
          cases yields
      | some raw =>
          have located := copes raw given
          rw [relativeSetWrapper, through_item idle going given] at yields
          rw [relativeSetWrapper, through_item idle going given]
          rw [same] at given
          refine ⟨_, drive_item alive given handled, ?_⟩
          have inner : (plans.next wrapped.plan.inner sinks input).plan =
              (plans.next bare.plan sinks input).plan := by rw [same]
          rcases setRelative_cases located with ⟨still, treated⟩ |
            ⟨motor, value, base, moves, ⟨stored, treated⟩ | ⟨first, found, treated⟩⟩
          · rw [treated] at yields ⊢
            cases yields
            refine ⟨beside.fate, ?_, fun _ => ⟨rfl, rfl, inner, ?_⟩⟩
            · rw [Driven.trace_hand, Driven.items_hand]
              exact .other beside.items still
            · rw [Driven.trace_hand]
              exact known.concat fun motor value moves => by rw [still] at moves; cases moves
          · have eligible := listed_of_moveOf moves
            have before := known motor.name motor eligible
            rw [stored] at before
            rw [treated] at yields ⊢
            cases yields
            refine ⟨beside.fate, ?_, fun _ => ⟨rfl, rfl, inner, ?_⟩⟩
            · rw [Driven.trace_hand, Driven.items_hand]
              exact .moved beside.items moves (baseOf_concat_of_known before _)
            · rw [Driven.trace_hand]
              refine known.concat fun other _ also => ?_
              obtain rfl : motor = other := congrArg Prod.fst (Option.some.inj (moves.symm.trans also))
              exact ⟨base, stored⟩
          · have eligible := listed_of_moveOf moves
            have before := known motor.name motor eligible
            rw [first] at before
            rw [treated] at yields ⊢
            cases yields
            refine ⟨beside.fate, ?_, fun _ => ⟨rfl, rfl, inner, ?_⟩⟩
            · rw [Driven.trace_hand, Driven.items_hand]
              exact .moved beside.items moves ((baseOf_concat_first before moves).trans found)
            · rw [Driven.trace_hand]
              exact known.insert moves first found
  | @ended sinks input handled ends =>
      cases given : (plans.next wrapped.plan.inner sinks input).item with
      | none =>
          refine ⟨_, drive_end alive (by rw [← same, given]) handled, rfl, beside.items, ?_⟩
          exact (by intros; contradiction)
      | some raw =>
          rw [relativeSetWrapper, through_item idle going given] at ends
          cases ends
  | @answered result =>
      refine ⟨_, drive_answer alive result, beside.fate, beside.items, fun _ => ?_⟩
      exact ⟨idle, going, congrArg (plans.respond · result) same, known⟩
  | dropped =>
      refine ⟨bare.endAs bare.plan .dropped, by simp [drive, alive], rfl, beside.items, ?_⟩
      exact (by intros; contradiction)

/-- In every run it copes with, `relative_set_wrapper` hands out what the plan does, with the listed
motors' moves taken relative to their bases. -/
theorem relative_follows {plan : σ} {stimuli : List Stimulus}
    {wrapped : Driven (Through (Table String Value) σ)}
    (trace : driveAll (relativeSetWrapper motion motors plans) (Through.start ∅ plan) stimuli =
      some wrapped)
    (orderly : Throughout (drive (relativeSetWrapper motion motors plans))
      (RelativeStep motion motors plans) (Driven.start (Through.start ∅ plan)) stimuli) :
    ∃ bare, driveAll plans plan stimuli = some bare ∧ bare.fate = wrapped.fate ∧
      Relatively motion motors bare.trace wrapped.items := by
  have initial : Beside motion motors (Driven.start (Through.start ∅ plan)) (Driven.start plan) := by
    refine ⟨rfl, .nil, fun _ => ⟨rfl, rfl, rfl, fun name motor _ => ?_⟩⟩
    exact fun _ member => absurd member List.not_mem_nil
  have kept : ∀ left right stimulus next, Beside motion motors left right →
      RelativeStep motion motors plans left stimulus →
      drive (relativeSetWrapper motion motors plans) left stimulus = some next →
      ∃ reached, drive plans right stimulus = some reached ∧ Beside motion motors next reached :=
    fun _ _ _ _ beside copes stepped => beside.step copes stepped
  obtain ⟨bare, ran, beside⟩ := exec_follows kept trace orderly initial
  exact ⟨bare, ran, beside.fate, beside.items⟩

end Relative

/-! ## `reset_positions_wrapper` -/

/-- The motors moved so far, with one more where the item moves a listed one for the first time. -/
def noteMove (motors : List Obj) (moves : List (Obj × Value)) (entry : Value × PlanItem) :
    List (Obj × Value) :=
  match moveOf motors entry.2.msg with
  | none => moves
  | some (motor, _) =>
      if motor ∈ moves.map Prod.fst then moves else moves ++ [(motor, entry.1)]

/-- The listed motors a plan moves, in first-moved order, each with what was learnt at the poll of its
first move. -/
def firstMoves (motors : List Obj) (trace : Trace) : List (Obj × Value) :=
  trace.foldl (noteMove motors) []

/-- Where the motors were located at their first moves, if all of them could be. -/
def startPositions (motion : Motion) (motors : List Obj) (trace : Trace) :
    Option (List (Obj × Value)) :=
  (firstMoves motors trace).mapM fun move =>
    (motion.setpoint move.2 move.1).map fun setpoint => (move.1, setpoint)

/-- The trace of the inner plan. -/
def innerTrace (handed : List (Handed (Finalized (Through τ σ)))) : Trace :=
  (handed.filter Handed.isInner).map fun entry => (entry.input, entry.item)

/-- The items of the final plan. -/
def finalItems (handed : List (Handed (Finalized σ))) : List PlanItem :=
  (handed.filter Handed.isFinal).map Handed.item

/-- The `Set` that takes a motor back. -/
def setBack (position : Obj × Value) : PlanItem :=
  .bare (.set position.1 position.2 (some "reset"))

/-- The motors the plan moved, each once, are set back where they were before their first moves, in
first-moved order, by the time the plan is done, and nothing else is. -/
structure Restores (motion : Motion) (motors : List Obj)
    (driven : Driven (Finalized (Through Moved σ))) (positions : List (Obj × Value)) : Prop where
  started : startPositions motion motors (innerTrace driven.handed) = some positions
  once : (positions.map Prod.fst).Nodup
  moved : ∀ motor, motor ∈ positions.map Prod.fst ↔
    ∃ entry ∈ innerTrace driven.handed, ∃ value, moveOf motors entry.2.msg = some (motor, value)
  bases : ∀ position ∈ positions,
    baseOf motion motors (innerTrace driven.handed) position.1 = some position.2
  only : finalItems driven.handed <+: resetPlan positions
  all : driven.fate ≠ .running → positions.map setBack <+: finalItems driven.handed

/-- What is captured and not set back. -/
def toRestore : Finalized (Through Moved σ) → List PlanItem
  | .fresh watched | .pushed _ watched | .trying _ watched | .popped _ watched =>
      watched.memo.moved.map setBack
  | .finishing _ rest => rest.dropLast
  | .recovering _ _ _ | .raised | .spent => []

/-- The steps `reset_positions_wrapper` copes with. -/
def ResetStep (motion : Motion) (motors : List Obj) (plans : PlanStream σ)
    (driven : Driven (Finalized (Through Moved σ))) : Stimulus → Prop
  | .poll sinks input _ => ∀ watched ∈ forwarding sinks driven.plan,
      ∀ item ∈ (plans.next watched.inner sinks input).item,
        MovesLocated motion motors (fun name => name ∈ watched.resumed.seen) input item.msg
  | .answer _ => True
  | .drop => toRestore driven.plan = []

instance (motion : Motion) (motors : List Obj) (plans : PlanStream σ)
    (driven : Driven (Finalized (Through Moved σ))) :
    ∀ stimulus, Decidable (ResetStep motion motors plans driven stimulus)
  | .poll _ _ _ => by unfold ResetStep; infer_instance
  | .answer _ => isTrue trivial
  | .drop => by unfold ResetStep; infer_instance

/-- Between two items of the inner plan, with its moves so far captured. -/
structure Watching (motors : List Obj) (handed : List (Handed (Finalized (Through Moved σ))))
    (positions : List (Obj × Value)) (watched : Through Moved σ) : Prop where
  pending : watched.pending = []
  returned : watched.returned = false
  settled : watched.memo = watched.resumed
  moved : watched.resumed.moved = positions
  seen : ∀ motor, listed motors motor.name = some motor →
    (motor.name ∈ watched.resumed.seen ↔
      motor ∈ (firstMoves motors (innerTrace handed)).map Prod.fst)
  none : finalItems handed = []

/-- Where the generator of `reset_positions_wrapper` can be, once the moves are known. -/
inductive ResetAt (motors : List Obj) (handed : List (Handed (Finalized (Through Moved σ))))
    (positions : List (Obj × Value)) : Finalized (Through Moved σ) → Prop where
  | fresh {watched} (watching : Watching motors handed positions watched) :
      ResetAt motors handed positions (.fresh watched)
  | pushed {sink watched} (watching : Watching motors handed positions watched) :
      ResetAt motors handed positions (.pushed sink watched)
  | trying {sink watched} (inserting : watched.inserting = false)
      (watching : Watching motors handed positions watched) :
      ResetAt motors handed positions (.trying sink watched)
  | popped {thrown watched} (moved : watched.memo.moved = positions) (none : finalItems handed = []) :
      ResetAt motors handed positions (.popped thrown watched)
  | finishing {reraise rest} (left : finalItems handed ++ rest = resetPlan positions) :
      ResetAt motors handed positions (.finishing reraise rest)
  | raised (all : finalItems handed = resetPlan positions) :
      ResetAt motors handed positions .raised
  | spent (all : finalItems handed = resetPlan positions) :
      ResetAt motors handed positions .spent

/-- Where the generator can be: the moves so far were captured. -/
def ResetPlace (motion : Motion) (motors : List Obj)
    (handed : List (Handed (Finalized (Through Moved σ)))) (plan : Finalized (Through Moved σ)) :
    Prop :=
  ∃ positions, startPositions motion motors (innerTrace handed) = some positions ∧
    ResetAt motors handed positions plan

/-- All that was captured was set back. -/
def SetBack (motion : Motion) (motors : List Obj)
    (handed : List (Handed (Finalized (Through Moved σ)))) : Prop :=
  ∀ positions, startPositions motion motors (innerTrace handed) = some positions →
    positions.map setBack <+: finalItems handed

section Reset

variable {motion : Motion} {motors : List Obj} {plans : PlanStream σ} {memo : Moved}
  {handed : List (Handed (Finalized (Through Moved σ)))}
  {entry : Handed (Finalized (Through Moved σ))} {positions : List (Obj × Value)}
  {watched : Through Moved σ} {sinks : List (Option Thrown)} {input : Value} {item : PlanItem}

/-- What the loop body does with an item: it goes on, with its motor captured at the first move. -/
theorem captureMoves_cases
    (located : MovesLocated motion motors (fun name => name ∈ memo.seen) input item.msg) :
    (captureMoves motion motors memo input item = .pass memo item ∧
        ∀ move ∈ moveOf motors item.msg, move.1.name ∈ memo.seen) ∨
      ∃ motor value setpoint, moveOf motors item.msg = some (motor, value) ∧
        motor.name ∉ memo.seen ∧ motion.setpoint input motor = some setpoint ∧
        captureMoves motion motors memo input item =
          .pass ⟨motor.name :: memo.seen, memo.moved ++ [(motor, setpoint)]⟩ item := by
  unfold captureMoves
  split
  · rename_i obj value group sets
    rw [sets] at located ⊢
    rw [moveOf_set]
    split
    · rename_i unlisted
      refine .inl ⟨rfl, fun move moved => ?_⟩
      rw [unlisted] at moved
      cases moved
    · rename_i motor eligible
      have name := name_of_listed eligible
      rw [eligible]
      split
      · rename_i seen
        refine .inl ⟨rfl, fun move moved => ?_⟩
        cases moved
        rwa [name]
      · rename_i unseen
        obtain ⟨setpoint, found⟩ := Option.isSome_iff_exists.mp
          (located motor eligible (by simpa using unseen))
        refine .inr ⟨motor, value, setpoint, rfl, by rwa [name], found, ?_⟩
        rw [found, name]
  · rename_i unset
    refine .inl ⟨rfl, fun move moved => ?_⟩
    rw [still_of_unset located unset] at moved
    cases moved

theorem innerTrace_concat (handed : List (Handed (Finalized (Through τ σ))))
    (entry : Handed (Finalized (Through τ σ))) :
    innerTrace (handed ++ [entry]) =
      innerTrace handed ++ if entry.isInner then [(entry.input, entry.item)] else [] := by
  cases inner : entry.isInner <;> simp [innerTrace, inner]

theorem finalItems_concat (handed : List (Handed (Finalized σ))) (entry : Handed (Finalized σ)) :
    finalItems (handed ++ [entry]) =
      finalItems handed ++ if entry.isFinal then [entry.item] else [] := by
  cases final : entry.isFinal <;> simp [finalItems, final]

theorem innerTrace_other {handed : List (Handed (Finalized (Through τ σ)))}
    {entry : Handed (Finalized (Through τ σ))} (other : entry.isInner = false) :
    innerTrace (handed ++ [entry]) = innerTrace handed := by
  rw [innerTrace_concat, other]
  exact List.append_nil _

theorem finalItems_other {handed : List (Handed (Finalized σ))} {entry : Handed (Finalized σ)}
    (other : entry.isFinal = false) : finalItems (handed ++ [entry]) = finalItems handed := by
  rw [finalItems_concat, other]
  exact List.append_nil _

theorem firstMoves_concat (trace : Trace) (entry : Value × PlanItem) :
    firstMoves motors (trace ++ [entry]) = noteMove motors (firstMoves motors trace) entry := by
  rw [firstMoves, List.foldl_append]
  rfl

/-- An item that moves no motor for the first time leaves the start positions. -/
theorem firstMoves_again {trace : Trace}
    (again : ∀ move ∈ moveOf motors item.msg, move.1 ∈ (firstMoves motors trace).map Prod.fst) :
    firstMoves motors (trace ++ [(input, item)]) = firstMoves motors trace := by
  rw [firstMoves_concat, noteMove]
  cases moves : moveOf motors item.msg with
  | none => rfl
  | some move => exact if_pos (again move moves)

theorem firstMoves_first {trace : Trace} {motor : Obj} {value : Value}
    (moves : moveOf motors item.msg = some (motor, value))
    (first : motor ∉ (firstMoves motors trace).map Prod.fst) :
    firstMoves motors (trace ++ [(input, item)]) = firstMoves motors trace ++ [(motor, input)] := by
  rw [firstMoves_concat, noteMove]
  simp only [moves]
  exact if_neg first

theorem startPositions_first {trace : Trace} {motor : Obj} {value setpoint : Value}
    (moves : moveOf motors item.msg = some (motor, value))
    (first : motor ∉ (firstMoves motors trace).map Prod.fst)
    (started : startPositions motion motors trace = some positions)
    (located : motion.setpoint input motor = some setpoint) :
    startPositions motion motors (trace ++ [(input, item)]) = some (positions ++ [(motor, setpoint)]) := by
  rw [startPositions] at started
  rw [startPositions, firstMoves_first moves first, List.mapM_append, started]
  simp [located]

/-- What is noted at the first moves: every moved motor once, with its base. -/
structure Noted (motion : Motion) (motors : List Obj) (trace : Trace) : Prop where
  once : ((firstMoves motors trace).map Prod.fst).Nodup
  moved : ∀ motor, motor ∈ (firstMoves motors trace).map Prod.fst ↔
    ∃ entry ∈ trace, ∃ value, moveOf motors entry.2.msg = some (motor, value)
  bases : ∀ move ∈ firstMoves motors trace,
    baseOf motion motors trace move.1 = motion.setpoint move.2 move.1

theorem baseOf_concat {trace : Trace} {motor : Obj} {earlier : Value × PlanItem} {value : Value}
    (member : earlier ∈ trace) (moves : moveOf motors earlier.2.msg = some (motor, value))
    (entry : Value × PlanItem) :
    baseOf motion motors (trace ++ [entry]) motor = baseOf motion motors trace motor := by
  obtain ⟨found, first⟩ : ∃ found, (trace.find? fun entry =>
      (moveOf motors entry.2.msg).any fun move => move.1 = motor) = some found := by
    rw [← Option.isSome_iff_exists, List.find?_isSome]
    exact ⟨earlier, member, by simp [moves]⟩
  rw [baseOf, baseOf, List.find?_append, first]
  rfl

theorem noted (motion : Motion) (motors : List Obj) (trace : Trace) : Noted motion motors trace := by
  induction trace using List.reverseRecOn with
  | nil => exact ⟨.nil, fun motor => by simp [firstMoves], fun move member => by cases member⟩
  | append_singleton trace entry ih =>
      obtain ⟨input, item⟩ := entry
      have later (move : Obj × Value) (member : move ∈ firstMoves motors trace) :
          baseOf motion motors (trace ++ [(input, item)]) move.1 =
            motion.setpoint move.2 move.1 := by
        obtain ⟨earlier, among, value, moves⟩ := (ih.moved move.1).mp (List.mem_map_of_mem member)
        rw [baseOf_concat among moves, ih.bases move member]
      by_cases again : ∀ move ∈ moveOf motors item.msg, move.1 ∈ (firstMoves motors trace).map Prod.fst
      · have same : firstMoves motors (trace ++ [(input, item)]) = firstMoves motors trace :=
          firstMoves_again again
        refine ⟨by rw [same]; exact ih.once, fun motor => ?_, by rw [same]; exact later⟩
        rw [same, ih.moved motor]
        constructor
        · rintro ⟨entry, member, moves⟩
          exact ⟨entry, List.mem_append_left _ member, moves⟩
        · rintro ⟨entry, member, value, moves⟩
          rcases List.mem_append.mp member with earlier | here
          · exact ⟨entry, earlier, value, moves⟩
          · cases List.mem_singleton.mp here
            exact (ih.moved motor).mp (again _ moves)
      · obtain ⟨⟨motor, value⟩, moves, first⟩ : ∃ move ∈ moveOf motors item.msg,
            move.1 ∉ (firstMoves motors trace).map Prod.fst := by
          simpa only [not_forall, exists_prop] using again
        have grown : firstMoves motors (trace ++ [(input, item)]) =
            firstMoves motors trace ++ [(motor, input)] := firstMoves_first moves first
        refine ⟨?_, fun other => ?_, fun move member => ?_⟩
        · rw [grown, List.map_append]
          exact List.nodup_append.mpr ⟨ih.once, List.nodup_singleton _, fun one before two last => by
            rw [List.mem_singleton.mp last]
            rintro rfl
            exact first before⟩
        · rw [grown, List.map_append, List.mem_append, ih.moved other]
          constructor
          · rintro (⟨entry, member, moved⟩ | last)
            · exact ⟨entry, List.mem_append_left _ member, moved⟩
            · cases List.mem_singleton.mp last
              exact ⟨_, List.mem_append_right _ (List.mem_singleton_self _), value, moves⟩
          · rintro ⟨entry, member, other, moved⟩
            rcases List.mem_append.mp member with earlier | here
            · exact Or.inl ⟨entry, earlier, other, moved⟩
            · cases List.mem_singleton.mp here
              cases moves.symm.trans moved
              exact Or.inr (List.mem_singleton_self _)
        · rw [grown] at member
          rcases List.mem_append.mp member with before | last
          · exact later move before
          · cases List.mem_singleton.mp last
            refine baseOf_concat_first (fun entry member other moved => first ?_) moves
            exact (ih.moved motor).mpr ⟨entry, member, other, moved⟩

/-- The start positions are those of the moves noted, one for one. -/
theorem startPositions_moves {trace : Trace}
    (started : startPositions motion motors trace = some positions) :
    positions.map Prod.fst = (firstMoves motors trace).map Prod.fst ∧
      ∀ position ∈ positions, ∃ move ∈ firstMoves motors trace,
        position.1 = move.1 ∧ motion.setpoint move.2 move.1 = some position.2 := by
  rw [startPositions] at started
  generalize firstMoves motors trace = moves at started ⊢
  induction moves generalizing positions with
  | nil =>
      cases started
      exact ⟨rfl, fun position member => by cases member⟩
  | cons move rest ih =>
      simp only [List.mapM_cons, Option.bind_eq_bind, Option.bind_eq_some_iff,
        Option.map_eq_some_iff] at started
      obtain ⟨position, ⟨setpoint, located, rfl⟩, later, onward, rest⟩ := started
      cases rest
      obtain ⟨same, found⟩ := ih onward
      refine ⟨by rw [List.map_cons, List.map_cons, same], fun position member => ?_⟩
      rcases List.mem_cons.mp member with rfl | among
      · exact ⟨move, List.mem_cons_self, rfl, located⟩
      · obtain ⟨other, member, fits⟩ := found position among
        exact ⟨other, List.mem_cons_of_mem _ member, fits⟩

/-- An item of the inner plan goes on with its move captured. -/
theorem Watching.forward (watching : Watching motors handed positions watched)
    (started : startPositions motion motors (innerTrace handed) = some positions)
    (located : ∀ raw ∈ (plans.next watched.inner sinks input).item,
      MovesLocated motion motors (fun name => name ∈ watched.resumed.seen) input raw.msg)
    (yields : ((through (captureMoves motion motors) plans).next watched sinks input).item = some item)
    (sink : SinkId) (handled : Bool) :
    let after := ((through (captureMoves motion motors) plans).next watched sinks input).plan
    ResetPlace motion motors (handed ++ [⟨item, input, handled, .trying sink after⟩])
      (.trying sink after) := by
  cases given : (plans.next watched.inner sinks input).item with
  | none =>
      rw [through_end watching.pending watching.returned given] at yields
      cases yields
  | some raw =>
      rw [through_item watching.pending watching.returned given] at yields ⊢
      rcases captureMoves_cases (located raw given) with
        ⟨treated, again⟩ | ⟨motor, value, setpoint, moves, unseen, found, treated⟩
      · simp only [treated, Treatment.pass, Option.some.injEq] at yields ⊢
        subst item
        have known : ∀ move ∈ moveOf motors raw.msg,
            move.1 ∈ (firstMoves motors (innerTrace handed)).map Prod.fst := fun move moved =>
          (watching.seen move.1 (listed_of_moveOf moved)).mp (again move moved)
        have trace (entry : Handed (Finalized (Through Moved σ))) (inner : entry.isInner = true)
            (same : (entry.input, entry.item) = (input, raw)) :
            firstMoves motors (innerTrace (handed ++ [entry])) =
              firstMoves motors (innerTrace handed) := by
          rw [innerTrace_concat, if_pos inner, same, firstMoves_again known]
        refine ⟨positions, ?_, .trying rfl ⟨rfl, rfl, rfl, watching.moved, fun motor eligible => ?_, ?_⟩⟩
        · rw [startPositions, trace _ rfl rfl, ← startPositions, started]
        · rw [trace _ rfl rfl]
          exact watching.seen motor eligible
        · rw [finalItems_other rfl, watching.none]
      · simp only [treated, Treatment.pass, Option.some.injEq] at yields ⊢
        subst item
        have eligible := listed_of_moveOf moves
        have first : motor ∉ (firstMoves motors (innerTrace handed)).map Prod.fst := fun before =>
          unseen ((watching.seen motor eligible).mpr before)
        refine ⟨positions ++ [(motor, setpoint)], ?_,
          .trying rfl ⟨rfl, rfl, rfl, by rw [watching.moved], fun other listed => ?_, ?_⟩⟩
        · rw [innerTrace_concat]
          exact startPositions_first moves first started found
        · rw [innerTrace_concat]
          show _ ↔ other ∈ (firstMoves motors (innerTrace handed ++ [(input, raw)])).map Prod.fst
          rw [firstMoves_first moves first, List.map_append, List.mem_append, List.mem_cons,
            watching.seen other listed]
          have same : other.name = motor.name ↔ other = motor :=
            ⟨fun named => Option.some.inj (listed.symm.trans (named ▸ eligible)), congrArg Obj.name⟩
          rw [same, or_comm]
          simp
        · rw [finalItems_other rfl, watching.none]

/-- What remains of the reset plan. -/
theorem ResetAt.remains {before : Finalized (Through Moved σ)} {reraise : Option Thrown}
    {rest : List PlanItem} (at_ : ResetAt motors handed positions before)
    (remains : remaining (fun watched => resetPlan watched.memo.moved) before = some (reraise, rest)) :
    finalItems handed ++ rest = resetPlan positions := by
  cases at_ with
  | popped moved none =>
      cases remains
      rw [none, ← moved, List.nil_append]
  | finishing left =>
      cases remains
      exact left
  | fresh _ | pushed _ | trying _ _ | raised _ | spent _ => cases remains

/-- Where the wrapper forwards from, it is between two items. -/
theorem ResetAt.forwards {before : Finalized (Through Moved σ)}
    (at_ : ResetAt motors handed positions before) (forwards : forwarding sinks before = some watched) :
    Watching motors handed positions watched := by
  cases at_ with
  | pushed watching =>
      cases forwards
      exact watching
  | trying _ watching =>
      simp only [forwarding] at forwards
      split at forwards
      · cases forwards
        exact watching
      · cases forwards
  | fresh _ | popped _ _ | finishing _ | raised _ | spent _ => cases forwards

/-- An item that is none of the inner plan's changes no start position. -/
theorem ResetPlace.other {plan : Finalized (Through Moved σ)} (inner : entry.isInner = false)
    (started : startPositions motion motors (innerTrace handed) = some positions)
    (at_ : ResetAt motors (handed ++ [entry]) positions plan) :
    ResetPlace motion motors (handed ++ [entry]) plan :=
  ⟨positions, by rw [innerTrace_other inner, started], at_⟩

theorem Watching.other (watching : Watching motors handed positions watched)
    (inner : entry.isInner = false) (final : entry.isFinal = false) :
    Watching motors (handed ++ [entry]) positions watched :=
  { watching with
    seen := fun motor eligible => by
      rw [innerTrace_other inner]
      exact watching.seen motor eligible
    none := by rw [finalItems_other final, watching.none] }

theorem ResetPlace.hand {before after : Finalized (Through Moved σ)}
    (place : ResetPlace motion motors handed before)
    (located : ∀ watched ∈ forwarding sinks before, ∀ item ∈ (plans.next watched.inner sinks input).item,
      MovesLocated motion motors (fun name => name ∈ watched.resumed.seen) input item.msg)
    (step : FinalizeStep (through (captureMoves motion motors) plans)
      (fun watched => resetPlan watched.memo.moved) sinks input before (some item) after)
    (handled : Bool) :
    ResetPlace motion motors (handed ++ [⟨item, input, handled, after⟩]) after := by
  obtain ⟨positions, started, at_⟩ := place
  generalize given : some item = yielded at step
  cases step with
  | entered inner =>
      cases at_ with
      | fresh watching => exact .other rfl started (.pushed (watching.other rfl rfl))
  | @forwarded _ watched _ sink forwards yields =>
      cases given
      exact (at_.forwards forwards).forward started (located watched forwards) yields sink handled
  | @exhausted _ watched forwards ends =>
      have watching := at_.forwards forwards
      refine .other rfl started (.popped ?_ (by rw [finalItems_other rfl, watching.none]))
      cases inner : (plans.next watched.inner sinks input).item with
      | none =>
          rw [through_end watching.pending watching.returned inner]
          exact watching.moved
      | some raw =>
          rw [through_item watching.pending watching.returned inner] at ends
          cases ends
  | @caught sink watched thrown armed =>
      cases at_ with
      | trying _ watching =>
          refine .other rfl started (.popped ?_ (by rw [finalItems_other rfl, watching.none]))
          rw [watching.settled, watching.moved]
  | @finished _ reraise final rest remains =>
      cases given
      have left := at_.remains remains
      refine .other rfl started (.finishing ?_)
      rw [finalItems_concat]
      show finalItems handed ++ [item] ++ rest = resetPlan positions
      rw [List.append_assoc]
      exact left
  | raised remains =>
      have left := at_.remains remains
      refine .other rfl started (.raised ?_)
      rw [finalItems_other rfl, ← left, List.append_nil]
  | ended remains => cases given
  | spent past => cases given

theorem ResetPlace.ends {before after : Finalized (Through Moved σ)}
    (place : ResetPlace motion motors handed before)
    (step : FinalizeStep (through (captureMoves motion motors) plans)
      (fun watched => resetPlan watched.memo.moved) sinks input before none after) :
    ∃ positions, startPositions motion motors (innerTrace handed) = some positions ∧
      after = .spent ∧ finalItems handed = resetPlan positions := by
  obtain ⟨positions, started, at_⟩ := place
  refine ⟨positions, started, ?_⟩
  generalize given : none = yielded at step
  cases step with
  | ended remains =>
      have left := at_.remains remains
      exact ⟨rfl, by rw [← left, List.append_nil]⟩
  | spent past =>
      refine ⟨rfl, ?_⟩
      cases at_ with
      | raised all => exact all
      | spent all => exact all
      | fresh _ | pushed _ | trying _ _ | popped _ _ | finishing _ => rcases past with past | past <;> cases past
  | entered _ | forwarded _ _ _ | exhausted _ _ | caught _ | finished _ | raised _ => cases given

theorem setBack_prefix (positions : List (Obj × Value)) :
    positions.map setBack <+: resetPlan positions :=
  List.prefix_append _ _

/-- A plan with nothing left to set back has set everything back. -/
theorem ResetAt.nothing_left {plan : Finalized (Through Moved σ)}
    (at_ : ResetAt motors handed positions plan) (nothing : toRestore plan = []) :
    positions.map setBack <+: finalItems handed := by
  have unmoved {moved : List (Obj × Value)} (same : moved = positions)
      (left : moved.map setBack = []) : positions.map setBack <+: finalItems handed := by
    rw [← same, left]
    exact List.nil_prefix
  cases at_ with
  | fresh watching | pushed watching | trying _ watching =>
      exact unmoved (by rw [watching.settled, watching.moved]) nothing
  | popped moved _ => exact unmoved moved nothing
  | raised all | spent all => rw [all]; exact setBack_prefix positions
  | @finishing _ rest left =>
      have last : rest.dropLast = [] := nothing
      rcases List.eq_nil_or_concat rest with rfl | ⟨init, item, rfl⟩
      · rw [List.append_nil] at left
        rw [left]
        exact setBack_prefix positions
      · rw [List.concat_eq_append, List.dropLast_concat] at last
        subst last
        have same : finalItems handed ++ [item] =
            positions.map setBack ++ [.bare (.wait "reset" true none)] := left
        rw [(List.append_inj' same rfl).1]

theorem reset_rounds (motion : Motion) (motors : List Obj) (plans : PlanStream σ) :
    Rounds (resetPositionsWrapper motion motors plans) (ResetStep motion motors plans)
      (ResetPlace motion motors) (fun _ _ => True) (SetBack motion motors) where
  hand := by
    intro driven sinks input handled item place copes yields
    have step := finalize_step (through (captureMoves motion motors) plans)
      (fun watched => resetPlan watched.memo.moved) driven.plan sinks input
    rw [← resetPositionsWrapper, yields] at step
    exact ⟨place.hand copes step handled, trivial⟩
  ends := by
    intro driven sinks input place ends
    have step := finalize_step (through (captureMoves motion motors) plans)
      (fun watched => resetPlan watched.memo.moved) driven.plan sinks input
    rw [← resetPositionsWrapper, ends] at step
    obtain ⟨positions, started, past, all⟩ := place.ends step
    rw [past]
    refine ⟨⟨positions, started, .spent all⟩, fun again same => ?_⟩
    cases started.symm.trans same
    rw [all]
    exact setBack_prefix positions
  respond := by
    rintro handed plan ⟨positions, started, at_⟩ result
    refine ⟨positions, started, ?_⟩
    cases at_ with
    | fresh watching => exact .fresh watching
    | pushed watching => exact .pushed watching
    | trying inserting watching => exact .trying inserting { watching with }
    | popped moved none => exact .popped moved none
    | finishing left => exact .finishing left
    | raised all => exact .raised all
    | spent all => exact .spent all
  drop := by
    rintro driven ⟨positions, started, at_⟩ copes again same
    cases started.symm.trans same
    exact at_.nothing_left copes

/-- In every run it copes with, `reset_positions_wrapper` sets back what the plan moved. -/
theorem reset_restores {plan : σ} {stimuli : List Stimulus}
    {driven : Driven (Finalized (Through Moved σ))}
    (trace : driveAll (resetPositionsWrapper motion motors plans) (.fresh (Through.start ⟨[], []⟩ plan))
      stimuli = some driven)
    (orderly : Throughout (drive (resetPositionsWrapper motion motors plans))
      (ResetStep motion motors plans) (Driven.start (.fresh (Through.start ⟨[], []⟩ plan))) stimuli) :
    ∃ positions, Restores motion motors driven positions := by
  have initial : ResetPlace motion motors [] (.fresh (Through.start ⟨[], []⟩ plan)) :=
    ⟨[], rfl, .fresh ⟨rfl, rfl, rfl, rfl, fun motor _ => by simp [Through.start, innerTrace, firstMoves],
      rfl⟩⟩
  obtain ⟨⟨positions, started, at_⟩, _, settled⟩ :=
    (reset_rounds motion motors plans).run initial trace orderly
  have noted := noted motion motors (innerTrace driven.handed)
  obtain ⟨same, moves⟩ := startPositions_moves started
  refine ⟨positions, started, by rw [same]; exact noted.once, by rw [same]; exact noted.moved,
    fun position member => ?_, ?_, fun done => settled done positions started⟩
  · obtain ⟨move, among, named, located⟩ := moves position member
    rw [named, noted.bases move among, located]
  · generalize driven.plan = place at at_
    cases at_ with
    | fresh watching | pushed watching | trying _ watching =>
        rw [watching.none]
        exact List.nil_prefix
    | popped _ none =>
        rw [none]
        exact List.nil_prefix
    | finishing left => exact ⟨_, left⟩
    | raised all | spent all => rw [all]

end Reset

/-! ## The reset around the relative moves -/

/-- Alike generators of one wrapper. -/
structure ThroughAlike (same : σ → δ → Prop) (left : Through τ σ) (right : Through τ δ) : Prop where
  memo : left.memo = right.memo
  resumed : left.resumed = right.resumed
  pending : left.pending = right.pending
  inserting : left.inserting = right.inserting
  returned : left.returned = right.returned
  inner : same left.inner right.inner

/-- A wrapper keeps plans alike that hand out the same items. -/
theorem Simulates.treated {plans : PlanStream σ} {others : PlanStream δ} {same : σ → δ → Prop}
    (simulates : Simulates plans others same Eq) (body : τ → Value → PlanItem → Treatment τ) :
    Simulates (through body plans) (through body others) (ThroughAlike same) Eq where
  next := by
    intro left right alike sinks input
    obtain ⟨memo, resumed, pending, inserting, returned, inner⟩ := id alike
    cases rest : right.pending with
    | cons emission rest =>
        rw [through_pending (pending.trans rest), through_pending rest, resumed]
        exact ⟨.some rfl, ⟨rfl, rfl, rfl, rfl, returned, inner⟩, rfl⟩
    | nil =>
        cases going : right.returned with
        | true =>
            rw [through_returned (pending.trans rest) (returned.trans going),
              through_returned rest going]
            exact ⟨.none, ⟨resumed, resumed, pending, rfl, rfl, inner⟩, rfl⟩
        | false =>
            have agree := simulates.next inner sinks input
            rcases agree.outcome with ⟨ends, also⟩ | ⟨item, answer, yields, also, rfl⟩
            · rw [through_end (pending.trans rest) (returned.trans going) ends,
                through_end rest going also]
              exact ⟨.none, ⟨resumed, resumed, pending, rfl, rfl, agree.plan⟩, agree.sinks⟩
            · rw [through_item (pending.trans rest) (returned.trans going) yields,
                through_item rest going also, resumed]
              exact ⟨.some rfl, ⟨rfl, rfl, rfl, rfl, rfl, agree.plan⟩, agree.sinks⟩
  respond := by
    intro left right alike result
    exact ⟨alike.memo, alike.resumed, alike.pending, alike.inserting, alike.returned,
      simulates.respond alike.inner result⟩

/-- Around plans that hand out the same items, the reset comes to the same. -/
theorem reset_alike {plans : PlanStream σ} {others : PlanStream δ} {same : σ → δ → Prop}
    (simulates : Simulates plans others same Eq) (motion : Motion) (motors : List Obj) {plan : σ}
    {other : δ} (alike : same plan other) (stimuli : List Stimulus) :
    (driveAll (resetPositionsWrapper motion motors plans) (.fresh (Through.start ⟨[], []⟩ plan))
        stimuli).map (Driven.view id) =
      (driveAll (resetPositionsWrapper motion motors others) (.fresh (Through.start ⟨[], []⟩ other))
        stimuli).map (Driven.view id) := by
  have wrapped : Simulates (resetPositionsWrapper motion motors plans)
      (resetPositionsWrapper motion motors others)
      (GuardedAlike (ThroughAlike same) (fun _ _ => True) (List.Forall₂ Eq)) Eq :=
    (simulates.treated (captureMoves motion motors)).finalize ⟨fun _ => rfl, rfl, fun _ => rfl⟩
      fun _ _ alike => by rw [alike.memo]; exact List.forall₂_same.mpr fun _ _ => rfl
  exact wrapped.view_eq (fun _ _ equal => equal) (.fresh ⟨rfl, rfl, rfl, rfl, rfl, alike⟩) stimuli

/-- In every run it copes with, `relative_set_wrapper` takes each move of a listed motor relative to where
the motor was located at its first move, and `reset_positions_wrapper` sets the listed motors that were
moved back there; the reset around the relative moves comes to what it does around the absolute ones. -/
theorem relative_moves_restored (motion : Motion) (motors : List Obj) (plans : PlanStream σ) (plan : σ)
    (stimuli : List Stimulus) :
    (∀ wrapped, driveAll (relativeSetWrapper motion motors plans) (Through.start ∅ plan) stimuli =
        some wrapped →
      Throughout (drive (relativeSetWrapper motion motors plans)) (RelativeStep motion motors plans)
        (Driven.start (Through.start ∅ plan)) stimuli →
      ∃ bare, driveAll plans plan stimuli = some bare ∧ bare.fate = wrapped.fate ∧
        Relatively motion motors bare.trace wrapped.items) ∧
    (∀ driven, driveAll (resetPositionsWrapper motion motors plans)
        (.fresh (Through.start ⟨[], []⟩ plan)) stimuli = some driven →
      Throughout (drive (resetPositionsWrapper motion motors plans)) (ResetStep motion motors plans)
        (Driven.start (.fresh (Through.start ⟨[], []⟩ plan))) stimuli →
      ∃ positions, Restores motion motors driven positions) ∧
    ∀ (movers : List Obj) (δ : Type) (others : PlanStream δ) (other : δ)
      (same : Through (Table String Value) σ → δ → Prop),
      Simulates (relativeSetWrapper motion movers plans) others same Eq →
      same (Through.start ∅ plan) other →
      (driveAll (resetPositionsWrapper motion motors (relativeSetWrapper motion movers plans))
          (.fresh (Through.start ⟨[], []⟩ (Through.start ∅ plan))) stimuli).map (Driven.view id) =
        (driveAll (resetPositionsWrapper motion motors others)
          (.fresh (Through.start ⟨[], []⟩ other)) stimuli).map (Driven.view id) :=
  ⟨fun _ trace orderly => relative_follows trace orderly, fun _ trace orderly => reset_restores trace orderly,
    fun _ _ _ _ _ simulates alike => reset_alike simulates motion motors alike stimuli⟩

/-- Numbers as tallies, and motors at four wherever they can be located. -/
private def fourTallies (located : Bool) : Motion where
  setpoint _ _ := if located then some "||||" else none
  plus value base := value ++ base
  zero := ""

private def carriage : Obj := ⟨0, "carriage", none, false, false, false⟩

/-- Two moves and what comes to them, to the end of the reset. -/
private def twoMoves : List PlanItem :=
  [.bare (.set carriage "|" none), .bare (.set carriage "||" none)]

private def calmMoves : List Stimulus :=
  .poll [] "" true :: List.replicate 6 (.poll [none] "" true)

theorem relative_moves_restored_twice :
    (∃ wrapped, driveAll (relativeSetWrapper (fourTallies true) [carriage] planItems)
        (Through.start ∅ twoMoves) [.poll [] "" true, .poll [] "" true] = some wrapped ∧
      wrapped.items = [.bare (.set carriage "|||||" none), .bare (.set carriage "||||||" none)] ∧
      ∃ bare : Driven (List PlanItem),
        Relatively (fourTallies true) [carriage] bare.trace wrapped.items) ∧
    ∃ driven, driveAll (resetPositionsWrapper (fourTallies true) [carriage] planItems)
        (.fresh (Through.start ⟨[], []⟩ twoMoves)) calmMoves = some driven ∧ driven.fate = .ended ∧
      ∃ positions, Restores (fourTallies true) [carriage] driven positions := by
  obtain ⟨relative, _⟩ := relative_moves_restored (fourTallies true) [carriage] planItems twoMoves
    [.poll [] "" true, .poll [] "" true]
  obtain ⟨_, reset, _⟩ := relative_moves_restored (fourTallies true) [carriage] planItems twoMoves
    calmMoves
  obtain ⟨bare, _, _, relatively⟩ := relative _ rfl (by decide +kernel)
  exact ⟨⟨_, rfl, rfl, bare, relatively⟩, ⟨_, rfl, rfl, reset _ rfl (by decide +kernel)⟩⟩

/-- A motor that cannot be located is moved as if it stood at zero, and left where that takes it; and a
plan dropped at its `PopContingency` sets nothing back. -/
theorem unlocated_move_turns_absolute :
    (∃ wrapped, driveAll (relativeSetWrapper (fourTallies false) [carriage] planItems)
        (Through.start ∅ twoMoves) [.poll [] "" true] = some wrapped ∧
      wrapped.items = [.bare (.set carriage "|" none)] ∧
      baseOf (fourTallies false) [carriage] [("", .bare (.set carriage "|" none))] carriage = none) ∧
    (∃ driven, driveAll (resetPositionsWrapper (fourTallies false) [carriage] planItems)
        (.fresh (Through.start ⟨[], []⟩ twoMoves)) (calmMoves.take 6) = some driven ∧
      driven.fate = .ended ∧ finalItems driven.handed = [.bare (.wait "reset" true none)] ∧
      ¬ ∃ positions, Restores (fourTallies false) [carriage] driven positions) ∧
    ∃ driven, driveAll (resetPositionsWrapper (fourTallies true) [carriage] planItems)
        (.fresh (Through.start ⟨[], []⟩ twoMoves)) (calmMoves.take 4 ++ [.drop]) = some driven ∧
      finalItems driven.handed = [] ∧
      ¬ ∃ positions, Restores (fourTallies true) [carriage] driven positions := by
  have unlocated : ∀ driven ∈ driveAll (resetPositionsWrapper (fourTallies false) [carriage] planItems)
      (.fresh (Through.start ⟨[], []⟩ twoMoves)) (calmMoves.take 6), driven.fate = .ended ∧
        finalItems driven.handed = [.bare (.wait "reset" true none)] ∧
        startPositions (fourTallies false) [carriage] (innerTrace driven.handed) = none := by
    decide +kernel
  have dropped : ∀ driven ∈ driveAll (resetPositionsWrapper (fourTallies true) [carriage] planItems)
      (.fresh (Through.start ⟨[], []⟩ twoMoves)) (calmMoves.take 4 ++ [.drop]), driven.fate = .dropped ∧
        finalItems driven.handed = [] ∧
        startPositions (fourTallies true) [carriage] (innerTrace driven.handed) =
          some [(carriage, "||||")] := by
    decide +kernel
  refine ⟨⟨_, rfl, by decide +kernel, by decide +kernel⟩, ⟨_, rfl, ?_⟩, _, rfl, ?_⟩
  · obtain ⟨done, final, none⟩ := unlocated _ rfl
    refine ⟨done, final, fun ⟨positions, restores⟩ => ?_⟩
    cases none.symm.trans restores.started
  · obtain ⟨done, final, started⟩ := dropped _ rfl
    refine ⟨final, fun ⟨positions, restores⟩ => ?_⟩
    have all := restores.all (by rw [done]; decide)
    cases started.symm.trans restores.started
    rw [final] at all
    exact absurd all (by decide +kernel)

end Bsrs.Plans
