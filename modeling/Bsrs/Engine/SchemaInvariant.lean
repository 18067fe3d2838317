import Bsrs.Engine.CatalogInvariant

namespace Bsrs.Engine

open Bsrs.Library (Always Throughout)
open Bsrs.EventModel
open Bsrs.Core

/-- A device that reads one key, its name. -/
private def namedDevice (ptr : Nat) (name : String) : Obj :=
  { ptr, name, hintFields := none, configurable := false, collectable := false,
    writesExternalAssets := false }

private def namedKeys : Env :=
  { Env.calm with
    describe := fun _ obj => .ok
      (AList.singleton obj.name { schema := "", external := none, objectName := none })
    read := fun _ obj => .ok (AList.singleton obj.name { value := "1", timestamp := "0" }) }

/-- Two bundles on one stream, one reading each. -/
private def bundledTwice (first second : Obj) : List PlanItem :=
  [.openRun ⟨none, ∅, none⟩, .create "primary", .read first, .save, .create "primary",
    .read second, .save].map .bare

end Bsrs.Engine
