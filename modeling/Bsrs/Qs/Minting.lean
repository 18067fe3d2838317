import Bsrs.Qs.Serve
import Bsrs.Qs.EditFacts

namespace Bsrs.Qs

open Bsrs.Core (Json)

section

variable {config : Config}

/-- The uids a handler has minted and not yet brought in. -/
def Handler.reserved : Handler → List String
  | .edit change _ => change.offered
  | .startEngine (.execute item) | .startState (.execute item) | .startClaim (.execute item)
  | .startSpawn (.execute item) _ => [item.itemUid]
  | _ => []

def Rep.reserved : Rep → List String
  | .handle handler => handler.reserved
  | _ => []

/-- The uids are minted between two counts, each once. -/
def MintedBetween (config : Config) (first last : Nat) (uids : List String) : Prop :=
  uids.Nodup ∧ ∀ uid ∈ uids, ∃ count, first ≤ count ∧ count < last ∧ config.uuid count = uid

theorem MintedBetween.nil (first last : Nat) : MintedBetween config first last [] :=
  ⟨List.nodup_nil, nofun⟩

theorem MintedBetween.cons {first last : Nat} {uids : List String} (inside : first < last)
    (later : MintedBetween config (first + 1) last uids) :
    MintedBetween config first last (config.uuid first :: uids) := by
  refine ⟨List.nodup_cons.mpr ⟨?_, later.1⟩, ?_⟩
  · intro again
    obtain ⟨count, after, _, same⟩ := later.2 _ again
    exact absurd (config.uuid.injective same) (Nat.ne_of_gt after)
  · intro uid member
    rcases List.mem_cons.mp member with rfl | rest
    · exact ⟨first, Nat.le_refl _, inside, rfl⟩
    · obtain ⟨count, after, before, same⟩ := later.2 uid rest
      exact ⟨count, Nat.le_of_succ_le after, before, same⟩

theorem batchItems_minted {params : Json} {items : List Json} {minted : Nat}
    {prepared : List QueuedItem} (built : batchItems config params minted items = some prepared) :
    MintedBetween config minted (minted + items.length + 1) (prepared.map QueuedItem.itemUid) := by
  induction items generalizing minted prepared with
  | nil =>
      cases built
      exact .nil ..
  | cons item rest ih =>
      simp only [batchItems] at built
      split at built
      · cases built
      · split at built
        · cases built
        · obtain ⟨later, prepared, rfl⟩ := Option.map_eq_some_iff.mp built
          have bound : minted + 1 + rest.length + 1 = minted + (rest.length + 1) + 1 := by omega
          exact .cons (by omega) (bound ▸ ih prepared)

/-- A single item minted for a request. -/
theorem MintedBetween.one (config : Config) (minted extra : Nat) :
    MintedBetween config minted (minted + (extra + 1)) [config.uuid minted] :=
  .cons (by omega) (.nil ..)

theorem addedItem_uid {uid name : String} {item : Json} {queued : QueuedItem}
    (built : addedItem config uid name item = .ok queued) : queued.itemUid = uid := by
  simp only [addedItem] at built
  repeat' split at built
  all_goals cases built
  all_goals rfl

/-- What an arm mints, it mints anew. -/
theorem arm_minted (minted : Nat) (params : Json) (group : String) (method : Method) :
    MintedBetween config minted (minted + mintedBy params)
      (arm config minted params group method).reserved := by
  cases method with
  | queueItemAdd =>
      simp only [arm, queueItemAdd]
      repeat' split
      all_goals first | exact .nil .. | skip
      next queued built =>
      have named : queued.itemUid = config.uuid minted := addedItem_uid built
      simp only [Handler.reserved, QueueEdit.offered, QueuedItem.submittedBy, named]
      exact .one ..
  | queueItemAddBatch =>
      simp only [arm, queueItemAddBatch]
      repeat' split
      all_goals first | exact .nil .. | skip
      next items listed _ _ _ prepared built =>
      have counted : mintedBy params = items.length + 1 := by
        simp [mintedBy, listed]
      rw [counted]
      exact batchItems_minted built
  | queueItemUpdate =>
      simp only [arm, queueItemUpdate]
      repeat' split
      all_goals first | exact .nil .. | skip
      cases (params.flag "replace").getD false with
      | true => exact .one ..
      | false => exact .nil ..
  | queueItemRemove | queueItemRemoveBatch =>
      simp only [arm, queueItemRemove, queueItemRemoveBatch]
      split <;> exact .nil ..
  | queueItemMove =>
      simp only [arm, queueItemMove]
      repeat' split
      all_goals exact .nil ..
  | queueItemMoveBatch =>
      simp only [arm, queueItemMoveBatch]
      repeat' split
      all_goals exact .nil ..
  | queueItemExecute =>
      simp only [arm, queueItemExecute]
      repeat' split
      all_goals first | exact .nil .. | exact .one ..
  | queueAutostart =>
      simp only [arm, queueAutostart]
      repeat' split
      all_goals exact .nil ..
  | queueModeSet =>
      simp only [arm, queueModeSet]
      split <;> exact .nil ..
  | lock | unlock =>
      simp only [arm, lockApply, lockRelease]
      repeat' split
      all_goals exact .nil ..
  | luaEval | functionExecute =>
      simp only [arm, luaEval, functionExecute]
      repeat' split
      all_goals exact .nil ..
  | _ => exact .nil ..

theorem dispatch_minted (config : Config) (server : Server) (request : Request) :
    MintedBetween config server.minted (server.minted + mintedBy request.params)
      (dispatch config server request).reserved := by
  simp only [dispatch]
  split
  · exact .nil ..
  · split
    · split
      · exact arm_minted ..
      · exact .nil ..
    · exact .nil ..

end

end Bsrs.Qs
