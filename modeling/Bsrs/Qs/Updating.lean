import Bsrs.Qs.Batches

namespace Bsrs.Qs

open Bsrs.Core (Json)

/-! ## What a submitted item runs with -/

/-- The metadata `run_plan_item` merges into the run; a `meta` that is no object adds nothing. -/
def QueuedItem.perCallMd (item : QueuedItem) : List (String × Json) :=
  item.itemMeta.asObject.getD []

/-- The plan arguments of an item as submitted. -/
def submittedArgs (item : Json) : Json :=
  .object [("args", (item.get "args").getD (.array [])),
    ("kwargs", (item.get "kwargs").getD (.object []))]

/-- The per-call metadata of an item as submitted. -/
def submittedMd (item : Json) : List (String × Json) :=
  ((item.get "meta").bind Json.asObject).getD []

/-- What a handler that needs no more than the queue leaves of it and replies. -/
def Handler.onQueue (queue : PlanQueue) : Handler → Option (PlanQueue × Reply)
  | .reply answer => some (queue, answer)
  | .edit change _ => some (change.run queue)
  | _ => none

/-! ## Agreement with an add -/

/-- An update put `new`, built from `item`, where `old` was, as an add would have it. -/
structure Resubmitted (config : Config) (minted : Nat) (params item : Json)
    (old new : QueuedItem) : Prop where
  accepted : ∃ edit, queueItemAdd config minted (.object [("item", item)]) = .edit edit true
  itemType : new.itemType = (item.text "item_type").getD old.itemType
  user : new.user = (params.text "user").or old.user
  userGroup : new.userGroup = (params.text "user_group").or old.userGroup
  planArgs : new.planArgs = submittedArgs item
  md : new.perCallMd = submittedMd item

/-- The update fails and leaves the queue as it was, or puts an item that agrees with an add in
the place of the one it names. -/
structure UpdateAgrees (config : Config) (minted : Nat) (params : Json) (queue after : PlanQueue)
    (reply : Reply) : Prop where
  rejected : reply.success = false → after = queue
  updated : reply.success = true → ∃ item uid position old new,
    params.get "item" = some item ∧ item.text "item_uid" = some uid ∧
      queue.indexOfUid uid = some position ∧ queue.items[position]? = some old ∧
      after.items = queue.items.set position new ∧ Resubmitted config minted params item old new

/-- The request names a plan for a plan that nobody is on record for, and brings no metadata. -/
structure PlainUpdate (config : Config) (params item : Json) (old : QueuedItem) : Prop where
  plan : ∃ name, item.text "name" = some name ∧ (config.plan name).isSome = true
  itemType : (item.text "item_type").getD old.itemType = "plan"
  user : params.text "user" = none ∧ old.user = none
  userGroup : params.text "user_group" = none ∧ old.userGroup = none
  md : submittedMd item = []

/-! ## The replacement -/

/-- The item an update puts in the queue, under either uid. -/
def replacement (config : Config) (minted : Nat) (params item : Json) (uid : String) : QueuedItem :=
  let fresh := QueuedItem.plan (config.uuid minted) ((item.text "name").getD "") item
  if (params.flag "replace").getD false then fresh else { fresh with itemUid := uid }

theorem replacement_itemType (config : Config) (minted : Nat) (params item : Json) (uid : String) :
    (replacement config minted params item uid).itemType = "plan" := by
  unfold replacement
  split <;> rfl

/-- The arguments are the submitted ones, the metadata and the submitter are dropped. -/
theorem replacement_fields (config : Config) (minted : Nat) (params item : Json) (uid : String) :
    (replacement config minted params item uid).planArgs = submittedArgs item ∧
      (replacement config minted params item uid).perCallMd = [] ∧
      (replacement config minted params item uid).user = none ∧
      (replacement config minted params item uid).userGroup = none := by
  unfold replacement
  split <;> exact ⟨rfl, rfl, rfl, rfl⟩

/-- An add takes the item alone exactly under one of the two item types it knows. -/
theorem queueItemAdd_alone (config : Config) (minted : Nat) (item : Json) :
    (∃ edit, queueItemAdd config minted (.object [("item", item)]) = .edit edit true) ↔
      ∃ name, item.text "name" = some name ∧
        ((item.text "item_type").getD "plan" = "plan" ∧ (config.plan name).isSome = true ∨
          (item.text "item_type").getD "plan" = "instruction" ∧ name = "queue_stop") := by
  have single : (Json.object [("item", item)]).get "item" = some item := rfl
  rw [queueItemAdd_edits config minted single rfl, acceptedAlone]
  cases item.text "name" with
  | none => simp
  | some name => simp only [Option.any_some, addedItem_isOk, Option.some.injEq, exists_eq_left']

/-- The replacement agrees with an add exactly in a plain update. -/
theorem resubmitted_iff {config : Config} {minted : Nat} {params item : Json} {uid : String}
    {old : QueuedItem} :
    Resubmitted config minted params item old (replacement config minted params item uid) ↔
      PlainUpdate config params item old := by
  have kind := replacement_itemType config minted params item uid
  obtain ⟨args, md, user, userGroup⟩ := replacement_fields config minted params item uid
  constructor
  · intro agrees
    have typed := agrees.itemType.symm.trans kind
    have unowned := agrees.user.symm.trans user
    have ungrouped := agrees.userGroup.symm.trans userGroup
    refine ⟨?_, typed, Option.or_eq_none_iff.mp unowned, Option.or_eq_none_iff.mp ungrouped,
      agrees.md.symm.trans md⟩
    obtain ⟨name, named, known | ⟨instruction, _⟩⟩ :=
      (queueItemAdd_alone config minted item).mp agrees.accepted
    · exact ⟨name, named, known.2⟩
    · cases given : item.text "item_type" with
      | none => simp [given] at instruction
      | some itemType =>
          rw [given, Option.getD_some] at instruction typed
          exact absurd (instruction.symm.trans typed) (by decide)
  · rintro ⟨⟨name, named, known⟩, typed, unowned, ungrouped, bare⟩
    refine ⟨(queueItemAdd_alone config minted item).mpr ⟨name, named, Or.inl ⟨?_, known⟩⟩,
      kind.trans typed.symm, ?_, ?_, args, md.trans bare.symm⟩
    · cases given : item.text "item_type" with
      | none => rfl
      | some itemType => simpa [given] using typed
    · rw [user, unowned.1, unowned.2]
      rfl
    · rw [userGroup, ungrouped.1, ungrouped.2]
      rfl

/-! ## The update -/

/-- An update without an item or its uid, or of an item that is not pending, is rejected and keeps
the queue; any other puts the replacement where the item was. -/
theorem queueItemUpdate_onQueue (config : Config) (minted : Nat) (params : Json) (queue : PlanQueue) :
    ∃ after reply, (queueItemUpdate config minted params).onQueue queue = some (after, reply) ∧
      ((reply.success = false ∧ after = queue ∧ ∀ item uid, params.get "item" = some item →
          item.text "item_uid" = some uid → queue.indexOfUid uid = none) ∨
        reply.success = true ∧ ∃ item uid position old, params.get "item" = some item ∧
          item.text "item_uid" = some uid ∧ queue.indexOfUid uid = some position ∧
          queue.items[position]? = some old ∧
          after.items = queue.items.set position (replacement config minted params item uid)) := by
  cases given : params.get "item" with
  | none =>
      refine ⟨queue, .err "missing 'item'", by simp [queueItemUpdate, given, Handler.onQueue],
        Or.inl ⟨rfl, rfl, ?_⟩⟩
      simp
  | some item =>
      cases aimed : item.text "item_uid" with
      | none =>
          refine ⟨queue, .err "item.item_uid required",
            by simp [queueItemUpdate, given, aimed, Handler.onQueue], Or.inl ⟨rfl, rfl, ?_⟩⟩
          rintro _ uid ⟨rfl⟩ there
          simp [aimed] at there
      | some uid =>
          simp only [queueItemUpdate, given, aimed, Handler.onQueue]
          refine ⟨_, _, rfl, ?_⟩
          cases found : queue.indexOfUid uid with
          | none =>
              refine Or.inl ⟨?_, run_update_missing (PlanQueue.indexOfUid_eq_none.mp found) .., ?_⟩
              · cases (params.flag "replace").getD false <;>
                  simp [PlanQueue.update, PlanQueue.replaceAtUid, found, Reply.err]
              · rintro _ _ ⟨rfl⟩ there
                rw [aimed] at there
                cases there
                exact found
          | some position =>
              obtain ⟨inside, _⟩ := PlanQueue.indexOfUid_uid found
              have pending := List.getElem?_eq_getElem inside
              refine Or.inr ⟨?_, item, uid, position, queue.items[position], rfl, aimed, found,
                pending, ?_⟩ <;>
              cases flag : (params.flag "replace").getD false <;>
              simp [PlanQueue.update, PlanQueue.replaceAtUid, found, Reply.ok, replacement, flag]

/-- An update agrees with an add exactly where it names a registered plan for a pending plan item
that no user and no group is on record for, in a request that names neither and brings no
metadata. -/
theorem update_agrees_iff (config : Config) (minted : Nat) (params : Json) (queue : PlanQueue) :
    (∃ after reply, (queueItemUpdate config minted params).onQueue queue = some (after, reply) ∧
      UpdateAgrees config minted params queue after reply) ↔
      ∀ item uid old, params.get "item" = some item → item.text "item_uid" = some uid →
        queue.getByUid uid = some old → PlainUpdate config params item old := by
  have looked (uid : String) : queue.getByUid uid =
      (queue.indexOfUid uid).bind fun position => queue.items[position]? :=
    List.find?_eq_bind_findIdx?_getElem?
  obtain ⟨after, reply, result, outcome⟩ := queueItemUpdate_onQueue config minted params queue
  have unique : (∃ after' reply', (queueItemUpdate config minted params).onQueue queue =
      some (after', reply') ∧ UpdateAgrees config minted params queue after' reply') ↔
      UpdateAgrees config minted params queue after reply := by
    constructor
    · rintro ⟨_, _, again, agrees⟩
      cases result.symm.trans again
      exact agrees
    · exact fun agrees => ⟨after, reply, result, agrees⟩
  rw [unique]
  rcases outcome with ⟨failed, same, missing⟩ |
    ⟨success, item, uid, position, old, given, aimed, found, pending, placed⟩
  · constructor
    · intro _ item uid old given aimed there
      rw [looked, missing item uid given aimed] at there
      cases there
    · exact fun _ => ⟨fun _ => same, fun success => by simp [failed] at success⟩
  · constructor
    · intro agrees item' uid' old' given' aimed' there
      obtain ⟨_, _, _, _, new, again, target, place, former, next, agreement⟩ :=
        agrees.updated success
      cases given.symm.trans given'
      cases given.symm.trans again
      cases aimed.symm.trans aimed'
      cases aimed.symm.trans target
      cases found.symm.trans place
      cases pending.symm.trans former
      rw [looked, found, Option.bind_some, pending] at there
      cases there
      have inside := PlanQueue.indexOfUid_lt found
      have same : replacement config minted params item uid = new := by
        have both := congrArg (fun items : List QueuedItem => items[position]?)
          (placed.symm.trans next)
        simpa [inside] using both
      rw [← same] at agreement
      exact resubmitted_iff.mp agreement
    · intro plain
      refine ⟨fun failed => by simp [success] at failed, fun _ => ⟨item, uid, position, old, _,
        given, aimed, found, pending, placed, resubmitted_iff.mpr (plain item uid old given aimed ?_)⟩⟩
      rw [looked, found, Option.bind_some, pending]

/-- One pending item, and an update of it to a plan nobody registered. -/
theorem update_unknown_plan :
    ∃ after reply, (queueItemUpdate .onlyCount 1 (.object [("item", .object
        [("item_uid", .string "a"), ("name", .string "no_such_plan")])])).onQueue
          (PlanQueue.new.pushBack (.plan "a" "count" (.object []))) = some (after, reply) ∧
      reply.success = true ∧ ¬ UpdateAgrees .onlyCount 1 (.object [("item", .object
        [("item_uid", .string "a"), ("name", .string "no_such_plan")])])
          (PlanQueue.new.pushBack (.plan "a" "count" (.object []))) after reply := by
  refine ⟨_, _, rfl, rfl, fun agrees => ?_⟩
  obtain ⟨item, _, _, _, _, given, _, _, _, _, agreement⟩ := agrees.updated rfl
  cases Option.some.inj given
  obtain ⟨edit, taken⟩ := agreement.accepted
  cases taken

end Bsrs.Qs
