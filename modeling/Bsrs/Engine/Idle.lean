import Bsrs.Engine.RunLoop

namespace Bsrs.Engine

open Bsrs.EventModel
open Bsrs.Core

/-- An engine between two calls, whatever became of the earlier ones: `run_async` takes these
registers out on its way out. -/
structure RunEngine.Idle (engine : RunEngine) : Prop where
  runs : engine.state.runs = ∅
  staged : engine.state.staged = []
  movableObjsTouched : engine.state.movableObjsTouched = ∅
  flyableObjsTouched : engine.state.flyableObjsTouched = ∅
  pausables : engine.state.pausables = ∅
  tempSubscribers : engine.state.tempSubscribers = []
  contingencyStack : engine.state.contingencyStack = []

theorem new_idle : RunEngine.new.Idle :=
  ⟨rfl, rfl, rfl, rfl, rfl, rfl, rfl⟩

end Bsrs.Engine
