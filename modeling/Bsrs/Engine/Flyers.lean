import Bsrs.Library.Triple
import Bsrs.Engine.LoopMove
import Bsrs.Engine.SlotMove

namespace Bsrs.Engine

open Bsrs.Library (Table Action Grows Always)
open Bsrs.Library.Action
open Bsrs.EventModel
open Bsrs.Core

/-! ## What the log tells of flyers -/

/-- The flyers kicked off into the run `key` and not passed to `collect_object` since. -/
def aloft (key : RunKey) : List Entry → List Obj
  | [] => []
  | .flown other obj :: rest => if other = key then obj :: aloft key rest else aloft key rest
  | .collecting other obj :: rest =>
      if other = key then (aloft key rest).filter (fun flyer => flyer ≠ obj) else aloft key rest
  | .opened other _ :: rest => if other = key then [] else aloft key rest
  | _ :: rest => aloft key rest

/-- A run closes with all its flyers collected. -/
def Gathered : Entry → List Entry → Prop
  | .closed key _, rest => aloft key rest = []
  | _, _ => True

instance : ∀ entry rest, Decidable (Gathered entry rest) := by
  rintro (_ | _) rest <;> dsimp only [Gathered] <;> infer_instance

/-- Entries that neither open nor close a run and say nothing of flyers. -/
def Entry.isGrounded : Entry → Bool
  | .flown _ _ | .collecting _ _ | .opened _ _ | .closed _ _ => false
  | _ => true

theorem aloft_skips {key : RunKey} (entry : Entry) (rest : List Entry)
    (grounded : entry.isGrounded = true) : aloft key (entry :: rest) = aloft key rest := by
  cases entry with
  | flown | collecting | opened | closed => cases grounded
  | _ => rfl

theorem gathered_skips (entry : Entry) (rest : List Entry) (grounded : entry.isGrounded = true) :
    Gathered entry rest := by
  cases entry with
  | closed => cases grounded
  | _ => trivial

theorem mem_aloft_collecting {key other : RunKey} {obj flyer : Obj} {log : List Entry} :
    flyer ∈ aloft key (.collecting other obj :: log) ↔
      flyer ∈ aloft key log ∧ ¬ (other = key ∧ flyer = obj) := by
  have reads : aloft key (.collecting other obj :: log) =
      if other = key then (aloft key log).filter (fun flyer => flyer ≠ obj) else aloft key log := rfl
  rw [reads]
  by_cases same : other = key
  · simp [same]
  · simp [same]

/-! ## Flyers on the books -/

/-- Every flyer a run owes is in the `uncollected` set of that run, under its name. -/
structure Booked (engine : RunEngine) : Prop where
  named : ∀ key, ∀ slot ∈ engine.state.run key, ∀ name, ∀ obj ∈ slot.uncollected.lookup name,
    obj.name = name
  held : ∀ key, ∀ slot ∈ engine.state.run key, ∀ obj ∈ aloft key engine.log,
    slot.uncollected.lookup obj.name = some obj
  always : Always Gathered engine.log

/-- A move that kicks nothing off, collects nothing and closes no run. -/
structure Grounded (before after : RunEngine) : Prop where
  slots : ∀ key, ∀ slot ∈ after.state.run key,
    (slot.uncollected = ∅ ∧ aloft key after.log = []) ∨
      ∃ earlier ∈ before.state.run key, slot.uncollected = earlier.uncollected ∧
        aloft key after.log ⊆ aloft key before.log
  always : Always Gathered before.log → Always Gathered after.log

/-- The flyers that open runs owe are all among these. -/
def AloftOnly (among : RunKey → Obj → Prop) (engine : RunEngine) : Prop :=
  ∀ key, ∀ slot ∈ engine.state.run key, ∀ obj ∈ aloft key engine.log, among key obj

section

variable {scope : Scope} {msg : Msg} {key : RunKey} {before after engine : RunEngine}

theorem Grounded.of_log (same : after.state.runs = before.state.runs)
    (log : Grows Entry.isGrounded before.log after.log) : Grounded before after := by
  refine ⟨fun key slot held => ?_, (Always.grows gathered_skips log).mpr⟩
  rw [EngineState.run, same] at held
  have owes : aloft key after.log = aloft key before.log := log.reading aloft_skips
  exact .inr ⟨slot, held, rfl, owes ▸ List.Subset.refl _⟩

instance : Std.Refl Grounded :=
  ⟨fun _ => .of_log rfl (.refl _)⟩

instance : IsTrans RunEngine Grounded where
  trans _ _ _ head tail := by
    refine ⟨fun key slot held => ?_, fun always => tail.always (head.always always)⟩
    rcases tail.slots key slot held with fresh | ⟨middle, was, same, owes⟩
    · exact .inl fresh
    · rcases head.slots key middle was with ⟨empty, none⟩ | ⟨earlier, found, also, aloft⟩
      · exact .inl ⟨same.trans empty, List.subset_nil.mp (none ▸ owes)⟩
      · exact .inr ⟨earlier, found, same.trans also, List.Subset.trans owes aloft⟩

theorem Booked.grounded (booked : Booked before) (move : Grounded before after) :
    Booked after := by
  refine ⟨fun key slot held name obj listed => ?_, fun key slot held obj owes => ?_,
    move.always booked.always⟩
  · rcases move.slots key slot held with ⟨empty, -⟩ | ⟨earlier, was, same, -⟩
    · simp [empty] at listed
    · exact booked.named key earlier was name obj (same ▸ listed)
  · rcases move.slots key slot held with ⟨-, none⟩ | ⟨earlier, was, same, also⟩
    · simp [none] at owes
    · rw [same]
      exact booked.held key earlier was obj (also owes)

theorem AloftOnly.grounded {among : RunKey → Obj → Prop} (only : AloftOnly among before)
    (move : Grounded before after) : AloftOnly among after := by
  intro key slot held obj owes
  rcases move.slots key slot held with ⟨-, none⟩ | ⟨earlier, was, -, also⟩
  · simp [none] at owes
  · exact only key earlier was obj (also owes)

/-! ## Effects that leave flyers alone -/

/-- A handler that neither flies nor collects nor closes. -/
structure Grounds (scope : Scope) (msg : Msg) : Prop where
  flies : ¬ scope.may .flies
  collects : ¬ scope.may .collects
  closes : ∀ status reason, msg ≠ .closeRun status reason

private theorem feed_log (engine : RunEngine) (key : RunKey) (stream : String) (source : Source)
    (data timestamps : Table String Value) :
    Grows Entry.isGrounded engine.log (engine.feed key stream source data timestamps).log := by
  unfold RunEngine.feed
  split
  · exact .refl _
  · split
    · exact .refl _
    · exact .cons rfl _

theorem pump_grounded_log (engine : RunEngine) (update : Update) :
    Grows Entry.isGrounded engine.log (engine.pump update).log := by
  unfold RunEngine.pump
  split
  · exact feed_log _ _ _ _ _ _
  · exact .refl _

private theorem grounded_log_of_effect (grounds : Grounds scope msg)
    (effect : Effect scope msg before after) :
    (∃ owned start, after.log = .opened owned start :: before.log) ∨
      Grows Entry.isGrounded before.log after.log := by
  cases effect with
  | pump update => exact .inr (pump_grounded_log _ _)
  | interrupt content owned own describes => exact .inr (feed_log _ _ _ _ _ _)
  | trace entry leaves =>
      refine .inr (.cons ?_ _)
      cases entry with
      | flown owned obj => exact absurd leaves.2 grounds.flies
      | collecting owned obj => exact absurd leaves.2 grounds.collects
      | opened owned start => exact leaves.elim
      | closed owned stop => exact leaves.elim
      | _ => rfl
  | count owned stream update own uses =>
      unfold RunEngine.countWith
      split
      · exact .inr (.cons rfl _)
      · exact .inr (.refl _)
  | request request requests => cases request <;> exact .inr (.cons rfl _)
  | opened owned bundler own opens fresh => exact .inl ⟨owned, _, rfl⟩
  | closed owned bundler uid status reason stop own closes found stopped =>
      obtain ⟨status, reason, rfl⟩ := closes
      exact absurd rfl (grounds.closes status reason)
  | sentOut | restart | clear | due => exact .inr (.cons rfl _)
  | _ => exact .inr (.refl _)

private theorem uncollected_of_slotMove (grounds : Grounds scope msg) {slot next : RunSlot}
    (move : SlotMove scope msg key slot next) : next.uncollected = slot.uncollected := by
  cases move with
  | changed own effect =>
      cases effect with
      | flyers uncollected keeps => exact (keeps.elim grounds.flies grounds.collects).elim
      | _ => rfl
  | _ => rfl

private theorem grounded_of_effect (grounds : Grounds scope msg)
    (effect : Effect scope msg before after) : Grounded before after := by
  have log := grounded_log_of_effect grounds effect
  constructor
  · intro key slot held
    have moved := runMove_of_effect effect key
    rw [Option.mem_def.mp held] at moved
    generalize found : before.state.run key = first at moved
    cases moved with
    | opened first bundler own opens fresh opening => exact .inl ⟨rfl, opening ▸ if_pos rfl⟩
    | stayed move =>
        refine .inr ⟨_, rfl, uncollected_of_slotMove grounds move, ?_⟩
        rcases log with ⟨owned, start, opening⟩ | grown
        · rw [opening, aloft]
          split
          · exact List.nil_subset _
          · exact List.Subset.refl _
        · have owes : aloft key after.log = aloft key before.log := grown.reading aloft_skips
          exact owes ▸ List.Subset.refl _
  · intro always
    rcases log with ⟨owned, start, opening⟩ | grown
    · rw [opening]
      exact ⟨trivial, always⟩
    · exact (Always.grows gathered_skips grown).mpr always

theorem grounded_of_effects (grounds : Grounds scope msg) (effects : Effects scope msg before after) :
    Grounded before after := by
  induction effects with
  | refl => exact refl_of Grounded _
  | tail _ effect ih => exact trans_of Grounded ih (grounded_of_effect grounds effect)

theorem grounded_body (grounds : Grounds scope msg) {body : EngineAction α}
    (effects : Keeps (Effects scope msg) body) : Keeps Grounded body :=
  effects.mono fun _ _ => grounded_of_effects grounds

end

end Bsrs.Engine
