import Bsrs.Engine.CatalogInvariant

namespace Bsrs.Engine

open Bsrs.Library (Always Throughout)
open Bsrs.EventModel
open Bsrs.Core

/-- The uid a bundler has for a stream is the one its bundle stamps on the stream's Events. -/
def RunBundler.Stamps (bundler : RunBundler) : Prop :=
  ∀ stream uid data timestamps, bundler.descriptorUid stream =
    (bundler.bundle.event uid stream data timestamps).1.map Event.descriptor

theorem SlotFiled.stamps {slot : RunSlot} (filed : SlotFiled slot) : slot.bundler.Stamps := by
  intro stream uid data timestamps
  rw [filed.synced]
  cases found : slot.bundler.bundle.streams.lookup stream with
  | none => simp [RunBundle.event, RunBundle.described, found]
  | some state => simp [RunBundle.event, RunBundle.described, found]

/-- While only streams are declared whose Descriptor their run has not broadcast, no Descriptor is
broadcast twice, and the uids in the two caches of every open run agree. -/
theorem firstTime_of_afresh {plans : PlanStream σ} (idle : engine.Idle)
    (trace : run plans (Config.start engine plan) labels = some reached)
    (afresh : Throughout (step plans) (Config.Does Deed.afresh) (Config.start engine plan) labels) :
    Always FirstTime reached.engine.log ∧
      ∀ key, ∀ slot ∈ reached.engine.state.run key, slot.bundler.Stamps := by
  let goals : Goals := { once := True, agree := False, base := [], home := fun _ => True }
  have held : Catalogued goals [] reached.engine := by
    apply run_catalogued idle rfl (fun _ => trivial) _ trace afresh
    intro env deed engine fresh
    exact ⟨fun _ => fresh, False.elim⟩
  constructor
  · exact (held.first trivial).2
  · intro key slot open_
    exact (held.slots key slot open_).stamps

/-- A plan that declares a stream before its first bundle. -/
private def declaredOnce : List PlanItem :=
  [.openRun ⟨none, ∅, none⟩, .declareStream "primary" (.readable []), .create "primary", .save,
    .closeRun "success" none].map .bare

theorem firstTime_declaredOnce :
    ∃ reached ∈ run planItems (Config.start .new declaredOnce) (loops .calm 18),
      Always FirstTime reached.engine.log ∧
        ∀ key, ∀ slot ∈ reached.engine.state.run key, slot.bundler.Stamps := by
  have afresh : Throughout (step planItems) (Config.Does Deed.afresh)
      (Config.start .new declaredOnce) (loops .calm 18) := by decide +kernel
  have ends : (run planItems (Config.start .new declaredOnce) (loops .calm 18)).isSome = true := by
    decide +kernel
  obtain ⟨reached, trace⟩ := Option.isSome_iff_exists.mp ends
  exact ⟨reached, trace, firstTime_of_afresh new_idle trace afresh⟩

/-- The same stream declared twice. -/
private def declaredTwice : List PlanItem :=
  [.openRun ⟨none, ∅, none⟩, .declareStream "primary" (.readable []),
    .declareStream "primary" (.readable []), .closeRun "success" none].map .bare

/-- The second declaration broadcasts the Descriptor of the first again. -/
theorem firstTime_fails_declaredTwice :
    ∃ reached ∈ run planItems (Config.start .new declaredTwice) (loops .calm 13),
      ¬ Always FirstTime reached.engine.log := by
  decide +kernel

end Bsrs.Engine
