import Mathlib.Data.Option.Basic
import Bsrs.Engine.CatalogInvariant
import Bsrs.Engine.SlotMove

namespace Bsrs.Engine

open Bsrs.Library (Table Action Grows)
open Bsrs.Library.Action
open Bsrs.EventModel
open Bsrs.Core
open Relation (ReflTransGen)

/-! ## What the other runs go through -/

/-- What becomes of a run while `msg` is handled for another one: its own pumps go on, and a message
that restarts the rewindable region restarts the region of every open run. -/
inductive Aside (msg : Msg) : RunSlot → RunSlot → Prop
  | pumped (slot : RunSlot) (uid task value timestamp) (pumping : task ∈ slot.pumps) :
      Aside msg slot (slot.composed uid task.stream (AList.singleton task.key value)
        (AList.singleton task.key timestamp))
  | restarted (slot : RunSlot) (restarts : ∃ before after, Restarts msg before after) :
      Aside msg slot { slot with bundler := slot.bundler.resetCheckpointState }
  | cleared (slot : RunSlot) (clears : msg = .clearCheckpoint) :
      Aside msg slot { slot with bundler := slot.bundler.clearCheckpoint }

/-- The run is as open as it was, and has only gone through what the others go through. -/
abbrev Apart (msg : Msg) (before after : Option RunSlot) : Prop :=
  Option.Rel (ReflTransGen (Aside msg)) before after

section

variable {scope : Scope} {msg : Msg} {key other : RunKey} {log later : List Entry}
  {before after : RunEngine}

private theorem apart_trans {first second third : Option RunSlot} (head : Apart msg first second)
    (tail : Apart msg second third) : Apart msg first third := by
  cases head with
  | none => exact tail
  | some head =>
      cases tail with
      | some tail => exact .some (head.trans tail)

/-- The run `other`, which the effect is not for, is left to itself. -/
private theorem apart_of_runMove {first second : Option RunSlot}
    (alone : ∀ owned, scope.own owned → owned = key) (different : other ≠ key)
    (moved : RunMove scope msg other log later first second) : Apart msg first second := by
  have foreign : ¬ scope.own other := fun own => different (alone other own)
  cases moved with
  | none => exact .none
  | opened first bundler own opens fresh opening => exact absurd own foreign
  | dropped first own closes => exact absurd own foreign
  | stayed move =>
      cases move with
      | same => exact .some .refl
      | changed own effect => exact absurd own foreign
      | counted stream bundler own counting => exact absurd own foreign
      | pumped uid task value timestamp pumping =>
          exact .some (.single (.pumped _ uid task value timestamp pumping))
      | interrupted uid content own => exact absurd (own other) foreign
      | quiesced own => exact absurd (own other) foreign
      | restarted restarts => exact .some (.single (.restarted _ restarts))
      | cleared clears => exact .some (.single (.cleared _ clears))

theorem effects_apart (alone : ∀ owned, scope.own owned → owned = key) (different : other ≠ key)
    (effects : Effects scope msg before after) :
    Apart msg (before.state.run other) (after.state.run other) := by
  induction effects with
  | refl =>
      cases before.state.run other with
      | none => exact .none
      | some slot => exact .some .refl
  | tail _ effect ih =>
      exact apart_trans ih (apart_of_runMove alone different (runMove_of_effect effect other))

/-- Whatever is handled, the runs it is not routed to are left to themselves. -/
theorem handle_apart (env : Env) (msg : Msg) (engine : RunEngine) (different : other ≠ (route msg).1) :
    Apart (route msg).2 (engine.state.run other) ((handle env msg engine).2.state.run other) :=
  effects_apart (fun _ own => own) different (handle_effects env msg engine)

end

end Bsrs.Engine
