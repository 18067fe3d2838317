import Bsrs.Plans.Preprocessors
import Bsrs.Plans.Driving

namespace Bsrs.Plans

open Bsrs.Library (Throughout)
open Bsrs.EventModel (Value)
open Bsrs.Core
open Bsrs.Engine (PlanStream planItems)

variable {σ τ : Type}

/-- The device a message stages. -/
def stagedObj : PlanItem → Option Obj
  | .bare (.stage device) => some device
  | _ => none

/-- The device a message unstages. -/
def unstagedObj : PlanItem → Option Obj
  | .bare (.unstage device) => some device
  | _ => none

/-- The devices whose `Stage`, put in by the wrapper, the engine handled, in order. -/
def stagedBy (handed : List (Handed (Finalized (Through τ σ)))) : List Obj :=
  (handed.filter fun entry => entry.isOwn && entry.handled).filterMap fun entry =>
    stagedObj entry.item

/-- The devices the final plan unstaged, in order. -/
def unstagedBy (handed : List (Handed (Finalized σ))) : List Obj :=
  (handed.filter Handed.isFinal).filterMap fun entry => unstagedObj entry.item

/-- The name of the object a message touches, routed or not. -/
def touchedRouted : Msg → Option String
  | .inRun _ inner => touched inner
  | msg => touched msg

/-- No listed device is touched by the item before the engine handled the wrapper's `Stage` of it. -/
def TouchesStaged (devices : List Obj) (before : List (Handed (Finalized (Through τ σ))))
    (entry : Handed (Finalized (Through τ σ))) : Prop :=
  entry.isInner = true → ∀ name ∈ touchedRouted entry.item.msg,
    ∀ device ∈ listed devices name, device ∈ stagedBy before

/-- The stage balance of a wrapper: each device it staged is unstaged once, in reverse order, by the
time the plan is done, and none is touched before it is staged. -/
structure StageBalanced (devices : List Obj)
    (driven : Driven (Finalized (Through τ σ))) : Prop where
  unstaged : driven.fate ≠ .running →
    (stagedBy driven.handed).reverse.Sublist (unstagedBy driven.handed)
  once : (unstagedBy driven.handed).Nodup
  before : ∀ earlier entry later, driven.handed = earlier ++ entry :: later →
    TouchesStaged devices earlier entry

/-! ## What is staged and unstaged, item by item -/

section Parts

variable {handed : List (Handed (Finalized (Through τ σ)))}
  {entry : Handed (Finalized (Through τ σ))}

theorem stagedBy_concat (handed : List (Handed (Finalized (Through τ σ))))
    (entry : Handed (Finalized (Through τ σ))) :
    stagedBy (handed ++ [entry]) =
      stagedBy handed ++
        if entry.isOwn && entry.handled then (stagedObj entry.item).toList else [] := by
  simp only [stagedBy, List.filter_append, List.filterMap_append]
  congr 1
  cases own : entry.isOwn && entry.handled with
  | true => cases found : stagedObj entry.item <;> simp [own, found]
  | false => simp [own]

theorem unstagedBy_concat (handed : List (Handed (Finalized σ))) (entry : Handed (Finalized σ)) :
    unstagedBy (handed ++ [entry]) =
      unstagedBy handed ++ if entry.isFinal then (unstagedObj entry.item).toList else [] := by
  simp only [unstagedBy, List.filter_append, List.filterMap_append]
  congr 1
  cases final : entry.isFinal with
  | true => cases found : unstagedObj entry.item <;> simp [final, found]
  | false => simp [final]

theorem stagedBy_other (other : entry.isOwn = false) :
    stagedBy (handed ++ [entry]) = stagedBy handed := by
  rw [stagedBy_concat, other]
  simp

theorem unstagedBy_other {handed : List (Handed (Finalized σ))} {entry : Handed (Finalized σ)}
    (other : entry.isFinal = false) : unstagedBy (handed ++ [entry]) = unstagedBy handed := by
  rw [unstagedBy_concat, other]
  simp

/-- The devices left to unstage, of all that are to be: the others were unstaged already. -/
structure Owes (handed : List (Handed (Finalized (Through τ σ)))) (total left : List Obj) :
    Prop where
  unstaged : total.reverse = unstagedBy handed ++ left
  nodup : total.Nodup
  staged : (stagedBy handed).Sublist total

theorem Owes.other {total left : List Obj} (owes : Owes handed total left)
    (own : entry.isOwn = false) (final : entry.isFinal = false) :
    Owes (handed ++ [entry]) total left where
  unstaged := by rw [unstagedBy_other final, owes.unstaged]
  nodup := owes.nodup
  staged := by rw [stagedBy_other own]; exact owes.staged

/-- The final plan unstages the next one. -/
theorem Owes.unstage {device : Obj} {total left : List Obj} (owes : Owes handed total (device :: left))
    (own : entry.isOwn = false) (final : entry.isFinal = true)
    (unstages : entry.item = .bare (.unstage device)) : Owes (handed ++ [entry]) total left where
  unstaged := by
    rw [unstagedBy_concat, final, unstages, owes.unstaged]
    simp [unstagedObj]
  nodup := owes.nodup
  staged := by rw [stagedBy_other own]; exact owes.staged

theorem Owes.unstaged_nodup {total left : List Obj} (owes : Owes handed total left) :
    (unstagedBy handed).Nodup := by
  have reversed := List.nodup_reverse.mpr owes.nodup
  rw [owes.unstaged] at reversed
  exact reversed.of_append_left

end Parts

/-- A plan that owes nothing, or staged nothing, is balanced. -/
theorem StageBalanced.of_owes {devices total left : List Obj}
    {driven : Driven (Finalized (Through τ σ))} (owes : Owes driven.handed total left)
    (before : ∀ earlier entry later, driven.handed = earlier ++ entry :: later →
      TouchesStaged devices earlier entry)
    (settled : driven.fate ≠ .running →
      stagedBy driven.handed = [] ∨ Owes driven.handed total []) : StageBalanced devices driven where
  unstaged := by
    intro past
    rcases settled past with none | owed
    · rw [none]
      exact List.nil_sublist _
    · have all := owed.unstaged
      rw [List.append_nil] at all
      rw [← all]
      exact owed.staged.reverse
  once := owes.unstaged_nodup
  before := before

/-! ## `lazily_stage_wrapper` -/

/-- A touch of a listed device by this message is seen by the wrapper: it is not routed to a run. -/
def TouchesBare (devices : List Obj) (msg : Msg) : Prop :=
  ∀ name ∈ touchedRouted msg, (listed devices name).isSome → touched msg = some name

/-- Nothing of the final plan is still to come. -/
def nothingLeft : Finalized σ → Bool
  | .finishing _ [] | .raised | .spent => true
  | _ => false

/-- The inner plan, where the wrapper polls it next. -/
def Through.polls (watched : Through τ σ) : Option σ :=
  if watched.pending.isEmpty ∧ watched.returned = false then some watched.inner else none

/-- The inner plan hands out no routed touch of a listed device at this poll. -/
def PollsBare (devices : List Obj) (plans : PlanStream σ) (plan : Finalized (Through τ σ))
    (sinks : List (Option Thrown)) (input : Value) : Prop :=
  ∀ watched ∈ forwarding sinks plan, ∀ inner ∈ watched.polls,
    ∀ item ∈ (plans.next inner sinks input).item, TouchesBare devices item.msg

/-- The wrapper's sink, where it is suspended at a `Stage` of its own. -/
def ownStage : Finalized (Through τ σ) → Option SinkId
  | .trying sink watched => if watched.inserting then some sink else none
  | _ => none

theorem ownStage_inserting {sink : SinkId} {watched : Through τ σ}
    (inserting : watched.inserting = true) : ownStage (.trying sink watched) = some sink := by
  simp [ownStage, inserting]

/-- Past a `Stage` of its own, the wrapper finds something thrown into its region exactly when the
`Stage` was not handled. -/
def StageTold (driven : Driven (Finalized (Through τ σ))) (sinks : List (Option Thrown)) : Prop :=
  ∀ sink ∈ ownStage driven.plan, ∀ entry ∈ driven.handed.getLast?,
    (entry.handled = true ↔ sinks.getD sink none = none)

/-- The steps `lazily_stage_wrapper` copes with. -/
def LazyStep (devices : List Obj) (plans : PlanStream σ)
    (driven : Driven (Finalized (Through Staged σ))) : Stimulus → Prop
  | .poll sinks input _ => StageTold driven sinks ∧ PollsBare devices plans driven.plan sinks input
  | .answer _ => True
  | .drop => stagedBy driven.handed = [] ∨ nothingLeft driven.plan = true

instance (devices : List Obj) (plans : PlanStream σ)
    (driven : Driven (Finalized (Through Staged σ))) :
    ∀ stimulus, Decidable (LazyStep devices plans driven stimulus)
  | .poll sinks input _ => by unfold LazyStep StageTold PollsBare TouchesBare; infer_instance
  | .answer _ => isTrue trivial
  | .drop => by unfold LazyStep; infer_instance

/-- What the wrapper has seen of the listed devices it has staged, each once. -/
structure Knows (devices : List Obj) (memo : Staged) : Prop where
  known : ∀ name ∈ memo.seen, ∀ device ∈ listed devices name, device ∈ memo.staged
  seen : ∀ device ∈ memo.staged, device.name ∈ memo.seen
  nodup : memo.staged.Nodup

/-- Between two items of the inner plan, with all that was staged known. -/
structure Idle (devices : List Obj) (handed : List (Handed (Finalized (Through Staged σ))))
    (watched : Through Staged σ) : Prop where
  pending : watched.pending = []
  returned : watched.returned = false
  inserting : watched.inserting = false
  settled : watched.memo = watched.resumed
  knows : Knows devices watched.resumed
  staged : stagedBy handed = watched.resumed.staged
  unstaged : unstagedBy handed = []

/-- Suspended at a `Stage` of its own, which it learns the end of when it is resumed. -/
structure Inserting (devices : List Obj) (handed : List (Handed (Finalized (Through Staged σ))))
    (watched : Through Staged σ) (device : Obj) (item : PlanItem) : Prop where
  pending : watched.pending = [⟨item, false, watched.resumed⟩]
  returned : watched.returned = false
  inserting : watched.inserting = true
  resumed : watched.resumed.staged = watched.memo.staged ++ [device]
  knows : Knows devices watched.resumed
  staged : ∃ last, handed.getLast? = some last ∧
    stagedBy handed = watched.memo.staged ++ if last.handled then [device] else []
  bare : TouchesBare devices item.msg
  touches : ∀ name ∈ touched item.msg, name ∈ watched.resumed.seen
  unstaged : unstagedBy handed = []


/-- Where the generator of `lazily_stage_wrapper` can be. -/
inductive LazyPlace (devices : List Obj) (handed : List (Handed (Finalized (Through Staged σ)))) :
    Finalized (Through Staged σ) → Prop where
  | fresh {watched} (idle : Idle devices handed watched) : LazyPlace devices handed (.fresh watched)
  | pushed {sink watched} (idle : Idle devices handed watched) :
      LazyPlace devices handed (.pushed sink watched)
  | trying {sink watched} (idle : Idle devices handed watched) :
      LazyPlace devices handed (.trying sink watched)
  | inserting {sink watched device item} (inserting : Inserting devices handed watched device item) :
      LazyPlace devices handed (.trying sink watched)
  | popped {thrown watched} (staged : stagedBy handed = watched.memo.staged)
      (owes : Owes handed (stagedBy handed) watched.memo.staged.reverse) :
      LazyPlace devices handed (.popped thrown watched)
  | finishing {reraise left} (owes : Owes handed (stagedBy handed) left) :
      LazyPlace devices handed (.finishing reraise (left.map fun device => .bare (.unstage device)))
  | raised (owes : Owes handed (stagedBy handed) []) : LazyPlace devices handed .raised
  | spent (owes : Owes handed (stagedBy handed) []) : LazyPlace devices handed .spent

section Lazy

variable {devices : List Obj} {handed : List (Handed (Finalized (Through Staged σ)))}
  {entry : Handed (Finalized (Through Staged σ))} {watched : Through Staged σ}
  {plans : PlanStream σ} {sinks : List (Option Thrown)} {input : Value}

theorem Idle.other (idle : Idle devices handed watched) (own : entry.isOwn = false)
    (final : entry.isFinal = false) : Idle devices (handed ++ [entry]) watched :=
  { idle with
    staged := by rw [stagedBy_other own, idle.staged]
    unstaged := by rw [unstagedBy_other final, idle.unstaged] }

/-- Once the region is left, all that was staged is owed. -/
theorem owes_all {staged : List Obj} (same : stagedBy handed = staged)
    (nodup : staged.Nodup) (none : unstagedBy handed = []) :
    Owes handed (stagedBy handed) staged.reverse where
  unstaged := by rw [same, none, List.nil_append]
  nodup := by rwa [same]
  staged := List.Sublist.refl _

/-- What the loop body does with an item: it goes on, seen, or a `Stage` comes before it. -/
theorem stageOnTouch_cases (devices : List Obj) (memo : Staged) (input : Value) (item : PlanItem) :
    (∃ left, stageOnTouch devices memo input item = .pass left item ∧ left.staged = memo.staged ∧
        (Knows devices memo → Knows devices left ∧
          ∀ name ∈ touched item.msg, (listed devices name).isSome → name ∈ left.seen)) ∨
      ∃ name device, touched item.msg = some name ∧ name ∉ memo.seen ∧
        listed devices name = some device ∧
        stageOnTouch devices memo input item =
          let seen := name :: memo.seen
          let resumed := ⟨seen, memo.staged ++ [device]⟩
          ⟨⟨seen, memo.staged⟩, ⟨.bare (.stage device), true, resumed⟩,
            [⟨item, false, resumed⟩], false⟩ := by
  unfold stageOnTouch
  split
  · rename_i untouched
    refine .inl ⟨memo, rfl, rfl, fun knows => ⟨knows, ?_⟩⟩
    intro name touches
    rw [untouched] at touches
    cases touches
  · rename_i name touches
    split
    · rename_i seen
      refine .inl ⟨memo, rfl, rfl, fun knows => ⟨knows, ?_⟩⟩
      intro other also _
      obtain rfl : name = other := Option.some.inj (touches.symm.trans also)
      exact seen
    · rename_i unseen
      simp only
      split
      · rename_i unlisted
        refine .inl ⟨⟨name :: memo.seen, memo.staged⟩, rfl, rfl, fun knows => ⟨?_, ?_⟩⟩
        · refine ⟨?_, fun device member => List.mem_cons_of_mem _ (knows.seen device member),
            knows.nodup⟩
          intro other member device eligible
          rcases List.mem_cons.mp member with rfl | member
          · rw [unlisted] at eligible
            cases eligible
          · exact knows.known other member device eligible
        · intro other also eligible
          obtain rfl : name = other := Option.some.inj (touches.symm.trans also)
          exact List.mem_cons_self
      · rename_i device eligible
        exact .inr ⟨name, device, touches, unseen, eligible, rfl⟩

/-- A listed device is known of once it is staged. -/
theorem Knows.stage {memo : Staged} {name : String} {device : Obj} (knows : Knows devices memo)
    (unseen : name ∉ memo.seen) (eligible : listed devices name = some device) :
    Knows devices ⟨name :: memo.seen, memo.staged ++ [device]⟩ where
  known := by
    intro other member found same
    rcases List.mem_cons.mp member with rfl | member
    · obtain rfl : device = found := Option.some.inj (eligible.symm.trans same)
      simp
    · exact List.mem_append_left _ (knows.known other member found same)
  seen := by
    intro other member
    rcases List.mem_append.mp member with earlier | here
    · exact List.mem_cons_of_mem _ (knows.seen other earlier)
    · obtain rfl : other = device := by simpa using here
      rw [name_of_listed eligible]
      exact List.mem_cons_self
  nodup := by
    refine List.nodup_append.mpr ⟨knows.nodup, by simp, ?_⟩
    intro other member also here same
    obtain rfl : also = device := by simpa using here
    subst same
    exact unseen (name_of_listed eligible ▸ knows.seen other member)

/-- The generator between two items of the inner plan, polled: the next one goes on, or its device is
staged first. -/
theorem Idle.forward (idle : Idle devices handed watched) {item : PlanItem}
    (bare : ∀ raw ∈ (plans.next watched.inner sinks input).item, TouchesBare devices raw.msg)
    (yields : ((through (stageOnTouch devices) plans).next watched sinks input).item = some item)
    (sink : SinkId) (handled : Bool) :
    let after := ((through (stageOnTouch devices) plans).next watched sinks input).plan
    let entry : Handed (Finalized (Through Staged σ)) := ⟨item, input, handled, .trying sink after⟩
    LazyPlace devices (handed ++ [entry]) (.trying sink after) ∧
      TouchesStaged devices handed entry := by
  cases given : (plans.next watched.inner sinks input).item with
  | none =>
      rw [through_end idle.pending idle.returned given] at yields
      cases yields
  | some raw =>
      have unrouted := bare raw given
      rw [through_item idle.pending idle.returned given] at yields ⊢
      rcases stageOnTouch_cases devices watched.resumed input raw with
        ⟨left, treated, staged, learns⟩ | ⟨name, device, touches, unseen, eligible, treated⟩
      · obtain ⟨knows, seen⟩ := learns idle.knows
        simp only [treated, Treatment.pass, Option.some.injEq] at yields ⊢
        subst item
        refine ⟨.trying ⟨rfl, rfl, rfl, rfl, knows, ?_, ?_⟩, ?_⟩
        · rw [stagedBy_other rfl, idle.staged, staged]
        · rw [unstagedBy_other rfl, idle.unstaged]
        · intro _ name touches device eligible
          have shown := unrouted name touches (by rw [eligible]; rfl)
          rw [idle.staged, ← staged]
          exact knows.known name (seen name shown (by rw [eligible]; rfl)) device eligible
      · simp only [treated, Option.some.injEq] at yields ⊢
        subst item
        refine ⟨.inserting ⟨rfl, rfl, rfl, rfl, idle.knows.stage unseen eligible,
          ⟨_, List.getLast?_concat, ?_⟩, unrouted, ?_, ?_⟩, fun inner => nomatch inner⟩
        · rw [stagedBy_concat, idle.staged]
          rfl
        · intro other also
          obtain rfl : name = other := Option.some.inj (touches.symm.trans also)
          exact List.mem_cons_self
        · rw [unstagedBy_other rfl, idle.unstaged]

/-- Past a `Stage` of its own that was handled, the item that touches the device goes on. -/
theorem Inserting.forward {device : Obj} {held item : PlanItem}
    (inserting : Inserting devices handed watched device held)
    (handledStage : ∀ last ∈ handed.getLast?, last.handled = true)
    (yields : ((through (stageOnTouch devices) plans).next watched sinks input).item = some item)
    (sink : SinkId) (handled : Bool) :
    let after := ((through (stageOnTouch devices) plans).next watched sinks input).plan
    let entry : Handed (Finalized (Through Staged σ)) := ⟨item, input, handled, .trying sink after⟩
    LazyPlace devices (handed ++ [entry]) (.trying sink after) ∧
      TouchesStaged devices handed entry := by
  obtain ⟨last, latest, staged⟩ := inserting.staged
  rw [handledStage last latest, if_pos rfl, ← inserting.resumed] at staged
  rw [through_pending inserting.pending] at yields ⊢
  simp only [Option.some.injEq] at yields
  subst item
  refine ⟨.trying ⟨rfl, inserting.returned, rfl, rfl, inserting.knows, ?_, ?_⟩, ?_⟩
  · rw [stagedBy_other rfl, staged]
    rfl
  · rw [unstagedBy_other rfl, inserting.unstaged]
  · intro _ name touches listedDevice eligible
    have shown := inserting.bare name touches (by rw [eligible]; rfl)
    rw [staged]
    exact inserting.knows.known name (inserting.touches name shown) listedDevice eligible

/-- The region is left with all that was staged owed. -/
theorem LazyPlace.leave {thrown : Option Thrown} (same : stagedBy handed = watched.memo.staged)
    (nodup : watched.memo.staged.Nodup) (none : unstagedBy handed = []) :
    LazyPlace devices handed (.popped thrown watched) :=
  .popped same (owes_all same nodup none)

/-- What remains of the final plan unstages what is owed. -/
theorem LazyPlace.remains {before : Finalized (Through Staged σ)} {reraise : Option Thrown}
    {rest : List PlanItem} (place : LazyPlace devices handed before)
    (remains : remaining (fun watched => unstagePlan watched.memo.staged) before =
      some (reraise, rest)) :
    ∃ left, rest = left.map (fun device => .bare (.unstage device)) ∧
      Owes handed (stagedBy handed) left := by
  cases place with
  | popped staged owes =>
      cases remains
      exact ⟨_, rfl, owes⟩
  | finishing owes =>
      cases remains
      exact ⟨_, rfl, owes⟩
  | fresh _ | pushed _ | trying _ | inserting _ | raised _ | spent _ => cases remains

/-- Where the wrapper forwards from, it is idle, or its own `Stage` was handled. -/
theorem LazyPlace.forwards {before : Finalized (Through Staged σ)}
    (place : LazyPlace devices handed before) (forwards : forwarding sinks before = some watched)
    (told : ∀ sink ∈ ownStage before, ∀ entry ∈ handed.getLast?,
      (entry.handled = true ↔ sinks.getD sink none = none)) :
    Idle devices handed watched ∨ ∃ device item, Inserting devices handed watched device item ∧
      ∀ last ∈ handed.getLast?, last.handled = true := by
  cases place with
  | pushed idle =>
      cases forwards
      exact .inl idle
  | trying idle =>
      simp only [forwarding] at forwards
      split at forwards
      · cases forwards
        exact .inl idle
      · cases forwards
  | inserting inserting =>
      simp only [forwarding] at forwards
      split at forwards
      · rename_i quiet
        cases forwards
        exact .inr ⟨_, _, inserting, fun last latest =>
          (told _ (ownStage_inserting inserting.inserting) last latest).mpr quiet⟩
      · cases forwards
  | fresh _ | popped _ _ | finishing _ | raised _ | spent _ => cases forwards

/-- An item handed out past the region leaves what is owed. -/
theorem LazyPlace.hand {before after : Finalized (Through Staged σ)} {item : PlanItem}
    (place : LazyPlace devices handed before)
    (told : ∀ sink ∈ ownStage before, ∀ entry ∈ handed.getLast?,
      (entry.handled = true ↔ sinks.getD sink none = none))
    (bare : PollsBare devices plans before sinks input)
    (step : FinalizeStep (through (stageOnTouch devices) plans)
      (fun watched => unstagePlan watched.memo.staged) sinks input before (some item) after)
    (handled : Bool) :
    LazyPlace devices (handed ++ [⟨item, input, handled, after⟩]) after ∧
      TouchesStaged devices handed ⟨item, input, handled, after⟩ := by
  generalize given : some item = yielded at step
  cases step with
  | entered inner =>
      cases place with
      | fresh idle => exact ⟨.pushed (idle.other rfl rfl), fun inner => nomatch inner⟩
  | @forwarded _ watched _ sink forwards yields =>
      cases given
      rcases place.forwards forwards told with idle | ⟨device, held, inserting, handledStage⟩
      · refine idle.forward (fun raw yielded => ?_) yields sink handled
        refine bare watched forwards watched.inner ?_ raw yielded
        simp [Through.polls, idle.pending, idle.returned]
      · exact inserting.forward handledStage yields sink handled
  | @exhausted _ watched forwards ends =>
      refine ⟨?_, fun inner => nomatch inner⟩
      rcases place.forwards forwards told with idle | ⟨device, held, inserting, handledStage⟩
      · cases inner : (plans.next watched.inner sinks input).item with
        | none =>
            rw [through_end idle.pending idle.returned inner]
            refine .leave ?_ idle.knows.nodup ?_
            · rw [stagedBy_other rfl, idle.staged]
              rfl
            · rw [unstagedBy_other rfl, idle.unstaged]
        | some raw =>
            rw [through_item idle.pending idle.returned inner] at ends
            cases ends
      · rw [through_pending inserting.pending] at ends
        cases ends
  | @caught sink watched thrown armed =>
      refine ⟨?_, fun inner => nomatch inner⟩
      cases place with
      | trying idle =>
          refine .leave ?_ ?_ ?_
          · rw [stagedBy_other rfl, idle.staged, idle.settled]
          · rw [idle.settled]
            exact idle.knows.nodup
          · rw [unstagedBy_other rfl, idle.unstaged]
      | inserting inserting =>
          obtain ⟨last, latest, staged⟩ := inserting.staged
          have failed : last.handled = false := by
            have heard := told _ (ownStage_inserting inserting.inserting) last latest
            rw [armed] at heard
            simpa using heard
          refine .leave ?_ ?_ ?_
          · rw [stagedBy_other rfl, staged, failed]
            simp
          · have nodup := inserting.knows.nodup
            rw [inserting.resumed] at nodup
            exact nodup.of_append_left
          · rw [unstagedBy_other rfl, inserting.unstaged]
  | @finished _ reraise final rest remains =>
      cases given
      refine ⟨?_, fun inner => nomatch inner⟩
      obtain ⟨left, same, owes⟩ := place.remains remains
      cases left with
      | nil => cases same
      | cons device left =>
          obtain ⟨rfl, rfl⟩ := List.cons.inj same
          refine .finishing ?_
          rw [stagedBy_other rfl]
          exact owes.unstage rfl rfl rfl
  | raised remains =>
      refine ⟨?_, fun inner => nomatch inner⟩
      obtain ⟨left, same, owes⟩ := place.remains remains
      obtain rfl : left = [] := by simpa using same.symm
      refine .raised ?_
      rw [stagedBy_other rfl]
      exact owes.other rfl rfl
  | ended remains => cases given
  | spent past => cases given

/-- Where the wrapper returns, nothing is owed any more. -/
theorem LazyPlace.ends {before after : Finalized (Through Staged σ)}
    (place : LazyPlace devices handed before)
    (step : FinalizeStep (through (stageOnTouch devices) plans)
      (fun watched => unstagePlan watched.memo.staged) sinks input before none after) :
    after = .spent ∧ Owes handed (stagedBy handed) [] := by
  generalize given : none = yielded at step
  cases step with
  | ended remains =>
      obtain ⟨left, same, owes⟩ := place.remains remains
      obtain rfl : left = [] := by simpa using same.symm
      exact ⟨rfl, owes⟩
  | spent past =>
      refine ⟨rfl, ?_⟩
      cases place with
      | raised owes => exact owes
      | spent owes => exact owes
      | fresh _ | pushed _ | trying _ | inserting _ | popped _ _ | finishing _ =>
          rcases past with past | past <;> cases past
  | entered _ | forwarded _ _ _ | exhausted _ _ | caught _ | finished _ | raised _ => cases given

/-- What has been unstaged so far is part of what was staged, from its end. -/
theorem LazyPlace.owes {plan : Finalized (Through Staged σ)} (place : LazyPlace devices handed plan) :
    ∃ left, Owes handed (stagedBy handed) left := by
  have all (nodup : (stagedBy handed).Nodup) (none : unstagedBy handed = []) :
      ∃ left, Owes handed (stagedBy handed) left := ⟨_, owes_all rfl nodup none⟩
  cases place with
  | fresh idle | pushed idle | trying idle =>
      refine all ?_ idle.unstaged
      rw [idle.staged]
      exact idle.knows.nodup
  | inserting inserting =>
      refine all ?_ inserting.unstaged
      obtain ⟨last, latest, staged⟩ := inserting.staged
      have nodup := inserting.knows.nodup
      rw [inserting.resumed] at nodup
      rw [staged]
      split
      · exact nodup
      · simpa using nodup.of_append_left
  | popped _ owes | finishing owes | raised owes | spent owes => exact ⟨_, owes⟩

/-- A plan with nothing left owes nothing. -/
theorem LazyPlace.nothing_owed {plan : Finalized (Through Staged σ)}
    (place : LazyPlace devices handed plan) (nothing : nothingLeft plan = true) :
    Owes handed (stagedBy handed) [] := by
  cases place with
  | @finishing reraise left owes =>
      cases left with
      | nil => exact owes
      | cons device left => cases nothing
  | raised owes => exact owes
  | spent owes => exact owes
  | fresh _ | pushed _ | trying _ | inserting _ | popped _ _ => cases nothing

theorem lazy_rounds (devices : List Obj) (plans : PlanStream σ) :
    Rounds (lazilyStageWrapper devices plans) (LazyStep devices plans) (LazyPlace devices)
      (TouchesStaged devices) fun handed =>
        stagedBy handed = [] ∨ Owes handed (stagedBy handed) [] where
  hand := by
    intro driven sinks input handled item place copes yields
    have step := finalize_step (through (stageOnTouch devices) plans)
      (fun watched => unstagePlan watched.memo.staged) driven.plan sinks input
    rw [← lazilyStageWrapper, yields] at step
    exact place.hand copes.1 copes.2 step handled
  ends := by
    intro driven sinks input place ends
    have step := finalize_step (through (stageOnTouch devices) plans)
      (fun watched => unstagePlan watched.memo.staged) driven.plan sinks input
    rw [← lazilyStageWrapper, ends] at step
    obtain ⟨past, owes⟩ := place.ends step
    rw [past]
    exact ⟨.spent owes, .inr owes⟩
  respond := by
    intro handed plan place result
    cases place with
    | fresh idle => exact .fresh idle
    | pushed idle => exact .pushed idle
    | trying idle => exact .trying { idle with }
    | inserting inserting => exact .inserting { inserting with }
    | popped staged owes => exact .popped staged owes
    | finishing owes => exact .finishing owes
    | raised owes => exact .raised owes
    | spent owes => exact .spent owes
  drop := fun place copes => copes.imp id place.nothing_owed

/-- In every run whose steps it copes with, `lazily_stage_wrapper` keeps the stage balance, and
unstages only what it staged. -/
theorem lazily_balanced {plan : σ} {stimuli : List Stimulus}
    {driven : Driven (Finalized (Through Staged σ))}
    (trace : driveAll (lazilyStageWrapper devices plans) (.fresh (Through.start ⟨[], []⟩ plan))
      stimuli = some driven)
    (orderly : Throughout (drive (lazilyStageWrapper devices plans)) (LazyStep devices plans)
      (Driven.start (.fresh (Through.start ⟨[], []⟩ plan))) stimuli) :
    StageBalanced devices driven ∧
      ∀ device ∈ unstagedBy driven.handed, device ∈ stagedBy driven.handed := by
  have knows : Knows devices ⟨[], []⟩ :=
    ⟨fun _ member => absurd member List.not_mem_nil, fun _ member => absurd member List.not_mem_nil,
      .nil⟩
  obtain ⟨place, before, settled⟩ := (lazy_rounds devices plans).run
    (.fresh ⟨rfl, rfl, rfl, rfl, knows, rfl, rfl⟩) trace orderly
  obtain ⟨left, owes⟩ := place.owes
  refine ⟨.of_owes owes before settled, fun device member => List.mem_reverse.mp ?_⟩
  rw [owes.unstaged]
  exact List.mem_append_left _ member

end Lazy

/-! ## `stage_wrapper` -/

/-- Past a `Stage` of its own that was not handled, the wrapper finds something thrown into its
region. -/
def FailureTold (driven : Driven (Finalized (Through τ σ))) (sinks : List (Option Thrown)) : Prop :=
  ∀ sink ∈ ownStage driven.plan, ∀ entry ∈ driven.handed.getLast?,
    entry.handled = false → sinks.getD sink none ≠ none

/-- The steps `stage_wrapper` copes with. -/
def StageStep (driven : Driven (Finalized (Through Unit σ))) : Stimulus → Prop
  | .poll sinks _ _ => FailureTold driven sinks
  | .answer _ => True
  | .drop => stagedBy driven.handed = [] ∨ nothingLeft driven.plan = true

instance (driven : Driven (Finalized (Through Unit σ))) :
    ∀ stimulus, Decidable (StageStep driven stimulus)
  | .poll _ _ _ => by unfold StageStep FailureTold; infer_instance
  | .answer _ => isTrue trivial
  | .drop => by unfold StageStep; infer_instance

/-- The devices still to be staged ahead of the inner plan. -/
structure Waiting (handed : List (Handed (Finalized (Through Unit σ)))) (watched : Through Unit σ)
    (rest : List Obj) : Prop where
  pending : watched.pending = rest.map fun device => insertion () (.stage device)
  returned : watched.returned = false
  unstaged : unstagedBy handed = []

/-- Where the generator of `stage_wrapper` can be. -/
inductive StagePlace (devices : List Obj) (handed : List (Handed (Finalized (Through Unit σ)))) :
    Finalized (Through Unit σ) → Prop where
  | fresh {watched} (waiting : Waiting handed watched devices) (none : stagedBy handed = []) :
      StagePlace devices handed (.fresh watched)
  | pushed {sink watched} (waiting : Waiting handed watched devices) (none : stagedBy handed = []) :
      StagePlace devices handed (.pushed sink watched)
  | staging {sink watched earlier device rest} (waiting : Waiting handed watched rest)
      (inserting : watched.inserting = true) (order : devices = earlier ++ device :: rest)
      (staged : ∃ last, handed.getLast? = some last ∧
        stagedBy handed = earlier ++ if last.handled then [device] else []) :
      StagePlace devices handed (.trying sink watched)
  | trying {sink watched} (waiting : Waiting handed watched [])
      (inserting : watched.inserting = false) (staged : stagedBy handed = devices) : StagePlace devices handed (.trying sink watched)
  | popped {thrown watched} (owes : Owes handed devices devices.reverse) :
      StagePlace devices handed (.popped thrown watched)
  | finishing {reraise left} (owes : Owes handed devices left) :
      StagePlace devices handed (.finishing reraise (left.map fun device => .bare (.unstage device)))
  | raised (owes : Owes handed devices []) : StagePlace devices handed .raised
  | spent (owes : Owes handed devices []) : StagePlace devices handed .spent

section Stage

variable {devices : List Obj} {handed : List (Handed (Finalized (Through Unit σ)))}
  {watched : Through Unit σ} {plans : PlanStream σ} {sinks : List (Option Thrown)} {input : Value}

/-- The inner generator of `stage_wrapper`. -/
private abbrev stagedPlans (plans : PlanStream σ) : PlanStream (Through Unit σ) :=
  through (fun memo _ item => .pass memo item) plans

/-- With those before it staged, the next device is staged, or the inner plan goes on. -/
theorem Waiting.forward {done rest : List Obj} {item : PlanItem}
    (waiting : Waiting handed watched rest) (order : devices = done ++ rest) (staged : stagedBy handed = done)
    (yields : ((stagedPlans plans).next watched sinks input).item = some item) (sink : SinkId)
    (handled : Bool) :
    let after := ((stagedPlans plans).next watched sinks input).plan
    let entry : Handed (Finalized (Through Unit σ)) := ⟨item, input, handled, .trying sink after⟩
    StagePlace devices (handed ++ [entry]) (.trying sink after) ∧
      TouchesStaged devices handed entry := by
  cases rest with
  | nil =>
      rw [List.append_nil] at order
      cases given : (plans.next watched.inner sinks input).item with
      | none =>
          rw [stagedPlans, through_end waiting.pending waiting.returned given] at yields
          cases yields
      | some raw =>
          rw [stagedPlans, through_item waiting.pending waiting.returned given] at yields ⊢
          refine ⟨.trying ⟨rfl, rfl, ?_⟩ rfl ?_, ?_⟩
          · rw [unstagedBy_other rfl, waiting.unstaged]
          · rw [stagedBy_other rfl, staged, order]
          · intro _ name _ device eligible
            rw [staged, ← order]
            exact List.mem_reverse.mp (List.mem_of_find?_eq_some eligible)
  | cons device rest =>
      rw [stagedPlans, through_pending waiting.pending] at yields ⊢
      cases yields
      refine ⟨.staging ⟨rfl, waiting.returned, ?_⟩ rfl order ⟨_, List.getLast?_concat, ?_⟩,
        fun inner => nomatch inner⟩
      · rw [unstagedBy_other rfl, waiting.unstaged]
      · rw [stagedBy_concat, staged]
        rfl

/-- Where the wrapper forwards from, the devices before those waiting are staged. -/
theorem StagePlace.forwards {before : Finalized (Through Unit σ)}
    (place : StagePlace devices handed before) (forwards : forwarding sinks before = some watched)
    (told : ∀ sink ∈ ownStage before, ∀ entry ∈ handed.getLast?,
      entry.handled = false → sinks.getD sink none ≠ none) :
    ∃ done rest, Waiting handed watched rest ∧ devices = done ++ rest ∧ stagedBy handed = done := by
  cases place with
  | pushed waiting none =>
      cases forwards
      exact ⟨[], devices, waiting, rfl, none⟩
  | @staging sink inner earlier device rest waiting inserting order staged =>
      simp only [forwarding] at forwards
      split at forwards
      · rename_i quiet
        cases forwards
        obtain ⟨last, latest, staged⟩ := staged
        have handled : last.handled = true := by
          by_contra failed
          exact told _ (ownStage_inserting inserting) last latest (by simpa using failed) quiet
        rw [handled, if_pos rfl] at staged
        exact ⟨earlier ++ [device], rest, waiting, by simp [order], staged⟩
      · cases forwards
  | trying waiting inserting staged =>
      simp only [forwarding] at forwards
      split at forwards
      · cases forwards
        exact ⟨devices, [], waiting, (List.append_nil _).symm, staged⟩
      · cases forwards
  | fresh _ _ | popped _ | finishing _ | raised _ | spent _ => cases forwards

theorem StagePlace.remains {before : Finalized (Through Unit σ)} {reraise : Option Thrown}
    {rest : List PlanItem} (place : StagePlace devices handed before)
    (remains : remaining (fun _ => devices.reverse.map fun device => .bare (.unstage device))
      before = some (reraise, rest)) :
    ∃ left, rest = left.map (fun device => .bare (.unstage device)) ∧ Owes handed devices left := by
  cases place with
  | popped owes =>
      cases remains
      exact ⟨_, rfl, owes⟩
  | finishing owes =>
      cases remains
      exact ⟨_, rfl, owes⟩
  | fresh _ _ | pushed _ _ | staging _ _ _ _ | trying _ _ _ | raised _ | spent _ => cases remains

/-- The region is left with every device to be unstaged. -/
theorem StagePlace.leave {thrown : Option Thrown} (distinct : devices.Nodup)
    (staged : (stagedBy handed).Sublist devices) (none : unstagedBy handed = []) :
    StagePlace devices handed (.popped thrown watched) :=
  .popped ⟨by rw [none, List.nil_append], distinct, staged⟩

theorem StagePlace.hand {before after : Finalized (Through Unit σ)} {item : PlanItem}
    (distinct : devices.Nodup) (place : StagePlace devices handed before)
    (told : ∀ sink ∈ ownStage before, ∀ entry ∈ handed.getLast?,
      entry.handled = false → sinks.getD sink none ≠ none)
    (step : FinalizeStep (stagedPlans plans)
      (fun _ => devices.reverse.map fun device => .bare (.unstage device)) sinks input before
      (some item) after) (handled : Bool) :
    StagePlace devices (handed ++ [⟨item, input, handled, after⟩]) after ∧
      TouchesStaged devices handed ⟨item, input, handled, after⟩ := by
  generalize given : some item = yielded at step
  cases step with
  | entered inner =>
      cases place with
      | fresh waiting none =>
          refine ⟨.pushed { waiting with unstaged := ?_ } ?_, fun inner => nomatch inner⟩
          · rw [unstagedBy_other rfl, waiting.unstaged]
          · rw [stagedBy_other rfl, none]
  | @forwarded _ watched _ sink forwards yields =>
      cases given
      obtain ⟨done, rest, waiting, order, staged⟩ := place.forwards forwards told
      exact waiting.forward order staged yields sink handled
  | @exhausted _ watched forwards ends =>
      refine ⟨.leave distinct ?_ ?_, fun inner => nomatch inner⟩
      · obtain ⟨done, rest, waiting, order, staged⟩ := place.forwards forwards told
        rw [stagedBy_other rfl, staged, order]
        exact List.sublist_append_left _ _
      · obtain ⟨done, rest, waiting, order, staged⟩ := place.forwards forwards told
        rw [unstagedBy_other rfl, waiting.unstaged]
  | @caught sink watched thrown armed =>
      cases place with
      | staging waiting inserting order staged =>
          obtain ⟨last, latest, staged⟩ := staged
          refine ⟨.leave distinct ?_ ?_, fun inner => nomatch inner⟩
          · rw [stagedBy_other rfl, staged, order]
            refine List.Sublist.append_left ?_ _
            split
            · exact List.Sublist.cons_cons _ (List.nil_sublist _)
            · exact List.nil_sublist _
          · rw [unstagedBy_other rfl, waiting.unstaged]
      | trying waiting inserting staged =>
          refine ⟨.leave distinct ?_ ?_, fun inner => nomatch inner⟩
          · rw [stagedBy_other rfl, staged]
          · rw [unstagedBy_other rfl, waiting.unstaged]
  | @finished _ reraise final rest remains =>
      cases given
      obtain ⟨left, same, owes⟩ := place.remains remains
      cases left with
      | nil => cases same
      | cons device left =>
          obtain ⟨rfl, rfl⟩ := List.cons.inj same
          exact ⟨.finishing (owes.unstage rfl rfl rfl), fun inner => nomatch inner⟩
  | raised remains =>
      obtain ⟨left, same, owes⟩ := place.remains remains
      obtain rfl : left = [] := by simpa using same.symm
      exact ⟨.raised (owes.other rfl rfl), fun inner => nomatch inner⟩
  | ended remains => cases given
  | spent past => cases given

theorem StagePlace.ends {before after : Finalized (Through Unit σ)}
    (place : StagePlace devices handed before)
    (step : FinalizeStep (stagedPlans plans)
      (fun _ => devices.reverse.map fun device => .bare (.unstage device)) sinks input before
      none after) : after = .spent ∧ Owes handed devices [] := by
  generalize given : none = yielded at step
  cases step with
  | ended remains =>
      obtain ⟨left, same, owes⟩ := place.remains remains
      obtain rfl : left = [] := by simpa using same.symm
      exact ⟨rfl, owes⟩
  | spent past =>
      refine ⟨rfl, ?_⟩
      cases place with
      | raised owes => exact owes
      | spent owes => exact owes
      | fresh _ _ | pushed _ _ | staging _ _ _ _ | trying _ _ _ | popped _ | finishing _ =>
          rcases past with past | past <;> cases past
  | entered _ | forwarded _ _ _ | exhausted _ _ | caught _ | finished _ | raised _ => cases given

theorem StagePlace.nothing_owed {plan : Finalized (Through Unit σ)}
    (place : StagePlace devices handed plan) (nothing : nothingLeft plan = true) :
    Owes handed devices [] := by
  cases place with
  | @finishing reraise left owes =>
      cases left with
      | nil => exact owes
      | cons device left => cases nothing
  | raised owes => exact owes
  | spent owes => exact owes
  | fresh _ _ | pushed _ _ | staging _ _ _ _ | trying _ _ _ | popped _ => cases nothing

theorem StagePlace.owes {plan : Finalized (Through Unit σ)} (distinct : devices.Nodup)
    (place : StagePlace devices handed plan) : ∃ left, Owes handed devices left := by
  have all (staged : (stagedBy handed).Sublist devices) (none : unstagedBy handed = []) :
      ∃ left, Owes handed devices left :=
    ⟨_, by rw [none, List.nil_append], distinct, staged⟩
  cases place with
  | fresh waiting none | pushed waiting none =>
      exact all (by rw [none]; exact List.nil_sublist _) waiting.unstaged
  | staging waiting inserting order staged =>
      obtain ⟨last, latest, staged⟩ := staged
      refine all ?_ waiting.unstaged
      rw [staged, order]
      refine List.Sublist.append_left ?_ _
      split
      · exact List.Sublist.cons_cons _ (List.nil_sublist _)
      · exact List.nil_sublist _
  | trying waiting inserting staged => exact all (by rw [staged]) waiting.unstaged
  | popped owes | finishing owes | raised owes | spent owes => exact ⟨_, owes⟩

theorem stage_rounds (distinct : devices.Nodup) (plans : PlanStream σ) :
    Rounds (stageWrapper devices plans) StageStep (StagePlace devices) (TouchesStaged devices)
      fun handed => stagedBy handed = [] ∨ Owes handed devices [] where
  hand := by
    intro driven sinks input handled item place copes yields
    have step := finalize_step (stagedPlans plans)
      (fun _ => devices.reverse.map fun device => .bare (.unstage device)) driven.plan sinks input
    rw [stagedPlans, ← stageWrapper, yields] at step
    exact place.hand distinct copes step handled
  ends := by
    intro driven sinks input place ends
    have step := finalize_step (stagedPlans plans)
      (fun _ => devices.reverse.map fun device => .bare (.unstage device)) driven.plan sinks input
    rw [stagedPlans, ← stageWrapper, ends] at step
    obtain ⟨past, owes⟩ := place.ends step
    rw [past]
    exact ⟨.spent owes, .inr owes⟩
  respond := by
    intro handed plan place result
    cases place with
    | fresh waiting none => exact .fresh waiting none
    | pushed waiting none => exact .pushed waiting none
    | staging waiting inserting order staged =>
        exact .staging { waiting with } inserting order staged
    | trying waiting inserting staged => exact .trying { waiting with } inserting staged
    | popped owes => exact .popped owes
    | finishing owes => exact .finishing owes
    | raised owes => exact .raised owes
    | spent owes => exact .spent owes
  drop := fun place copes => copes.imp id place.nothing_owed

/-- In every run whose steps it copes with, `stage_wrapper` keeps the stage balance. -/
theorem staged_balanced (distinct : devices.Nodup) {plan : σ} {stimuli : List Stimulus}
    {driven : Driven (Finalized (Through Unit σ))}
    (trace : driveAll (stageWrapper devices plans) (stagePlan devices plan) stimuli = some driven)
    (orderly : Throughout (drive (stageWrapper devices plans)) StageStep
      (Driven.start (stagePlan devices plan)) stimuli) : StageBalanced devices driven := by
  obtain ⟨place, before, settled⟩ := (stage_rounds distinct plans).run
    (.fresh ⟨rfl, rfl, rfl⟩ rfl) trace orderly
  obtain ⟨left, owes⟩ := place.owes distinct
  exact .of_owes owes before settled

end Stage

/-- The stage balance of `lazily_stage_wrapper` and of `stage_wrapper`, in every run whose steps they
cope with. -/
theorem stage_balance (devices : List Obj) (plans : PlanStream σ) (plan : σ)
    (stimuli : List Stimulus) :
    (∀ driven, driveAll (lazilyStageWrapper devices plans)
        (.fresh (Through.start ⟨[], []⟩ plan)) stimuli = some driven →
      Throughout (drive (lazilyStageWrapper devices plans)) (LazyStep devices plans)
        (Driven.start (.fresh (Through.start ⟨[], []⟩ plan))) stimuli →
      StageBalanced devices driven ∧
        ∀ device ∈ unstagedBy driven.handed, device ∈ stagedBy driven.handed) ∧
    (devices.Nodup → ∀ driven, driveAll (stageWrapper devices plans) (stagePlan devices plan)
        stimuli = some driven →
      Throughout (drive (stageWrapper devices plans)) StageStep
        (Driven.start (stagePlan devices plan)) stimuli →
      StageBalanced devices driven) :=
  ⟨fun _ trace orderly => lazily_balanced trace orderly,
    fun distinct _ trace orderly => staged_balanced distinct trace orderly⟩

private def detector : Obj := ⟨0, "det", none, false, false, false⟩

private def mover : Obj := ⟨1, "mot", none, false, false, false⟩

/-- A plan of two devices, whose second reading fails. -/
private def failingReading : List Stimulus :=
  .poll [] "" true :: List.replicate 4 (.poll [none] "" true) ++
    .poll [some (.error (.other "timeout"))] "" true :: List.replicate 4 (.poll [none] "" true)

theorem stage_balance_reads :
    (∃ driven, driveAll (lazilyStageWrapper [detector, mover] planItems)
        (.fresh (Through.start ⟨[], []⟩ [.bare (.read detector), .bare (.read mover)]))
        failingReading = some driven ∧ driven.fate = .ended ∧
      StageBalanced [detector, mover] driven ∧ unstagedBy driven.handed = [mover, detector]) ∧
    ∃ driven, driveAll (stageWrapper [detector, mover] planItems)
        (stagePlan [detector, mover] [.bare (.read detector), .bare (.read mover)])
        failingReading = some driven ∧ driven.fate = .ended ∧
      StageBalanced [detector, mover] driven ∧ unstagedBy driven.handed = [mover, detector] := by
  have balance := stage_balance [detector, mover] planItems
    [.bare (.read detector), .bare (.read mover)] failingReading
  exact ⟨⟨_, rfl, rfl, (balance.1 _ rfl (by decide +kernel)).1, by decide +kernel⟩,
    ⟨_, rfl, rfl, balance.2 (by decide) _ rfl (by decide +kernel), by decide +kernel⟩⟩

/-- A stop that lands while the wrapper's own `Stage` is handled leaves the device staged: the plan
ends without unstaging it. -/
theorem stop_at_stage_leaves_staged :
    ∃ stimuli driven, driveAll (lazilyStageWrapper [detector] planItems)
        (.fresh (Through.start ⟨[], []⟩ [.bare (.read detector)])) stimuli = some driven ∧
      driven.fate = .ended ∧ stagedBy driven.handed = [detector] ∧
      unstagedBy driven.handed = [] ∧ ¬ StageBalanced [detector] driven := by
  refine ⟨[.poll [] "" true, .poll [none] "" true, .poll [some (.interrupt .stop none)] "" true,
    .poll [none] "" true, .poll [none] "" true], _, rfl, rfl, rfl, rfl, ?_⟩
  intro balanced
  exact absurd (balanced.unstaged (by decide)) (by decide)

end Bsrs.Plans
