import Bsrs.Qs.Dispatch

namespace Bsrs.Qs

open Bsrs.Core (Json)

/-- Everything the arm of a method can take a request up as, with what it read off the params. -/
inductive Armed (config : Config) (minted : Nat) (params : Json) (group : String) :
    Method → Handler → Prop where
  | reply (method : Method) (reply : Reply) : Armed config minted params group method (.reply reply)
  | opens : Armed config minted params group .environmentOpen .openSlot
  | closes : Armed config minted params group .environmentClose .closeEngine
  | destroys : Armed config minted params group .environmentDestroy .destroySlot
  | clears : Armed config minted params group .queueClear (.edit .clear false)
  | adds {item : Json} {queued : QueuedItem} (given : params.get "item" = some item)
      (named : item.text "name" = some queued.name) (pos : Option Json)
      (beforeUid afterUid : Option String) :
      Armed config minted params group .queueItemAdd
        (.edit (.add queued pos beforeUid afterUid) true)
  | addsBatch {items : List Json} {prepared : List QueuedItem}
      (given : (params.get "items").bind Json.asArray = some items)
      (named : ∀ queued ∈ prepared, ∃ item ∈ items, item.text "name" = some queued.name)
      (pos : Option Json) (beforeUid afterUid : Option String) :
      Armed config minted params group .queueItemAddBatch
        (.edit (.addBatch prepared pos beforeUid afterUid) true)
  | updates {item : Json} {uid : String} (given : params.get "item" = some item)
      (aimed : item.text "item_uid" = some uid) :
      Armed config minted params group .queueItemUpdate
        (.edit (.update uid (.plan (config.uuid minted) ((item.text "name").getD "") item)
          ((params.flag "replace").getD false)) false)
  | removes (uid : String) : Armed config minted params group .queueItemRemove
      (.edit (.remove uid) false)
  | removesBatch (uids : List String) : Armed config minted params group .queueItemRemoveBatch
      (.edit (.removeBatch uids) false)
  | movesBefore (uid reference : String) : Armed config minted params group .queueItemMove
      (.edit (.moveBefore uid reference) false)
  | movesAfter (uid reference : String) : Armed config minted params group .queueItemMove
      (.edit (.moveAfter uid reference) false)
  | resolves (uid : String) (pos : Option Json) : Armed config minted params group .queueItemMove
      (.resolve uid pos)
  | movesBatch (uids : List String) (destination : Destination) (reorder : Bool) :
      Armed config minted params group .queueItemMoveBatch
        (.edit (.moveBatch uids destination reorder) false)
  | executes {item : Json} {queued : QueuedItem} (given : params.get "item" = some item)
      (named : item.text "name" = some queued.name) :
      Armed config minted params group .queueItemExecute (.startEngine (.execute queued))
  | starts : Armed config minted params group .queueStart (.startEngine .start)
  | stops : Armed config minted params group .queueStop (.setStop true)
  | cancels : Armed config minted params group .queueStopCancel (.setStop false)
  | autostarts (enable : Bool) : Armed config minted params group .queueAutostart
      (.setAutostart enable)
  | sets (mode : List (String × Json)) : Armed config minted params group .queueModeSet
      (.setMode mode)
  | clearsHistory : Armed config minted params group .historyClear (.edit .clearHistory false)
  | pauses (defer : Bool) : Armed config minted params group .rePause (.pauseCall defer)
  | resumes : Armed config minted params group .reResume (.clearPause .resume)
  | aborts (reason : String) : Armed config minted params group .reAbort
      (.clearPause (.abort reason))
  | halts (reason : String) : Armed config minted params group .reHalt (.clearPause (.halt reason))
  | stopsEngine : Armed config minted params group .reStop (.control .stop)
  | replaces (metadata : Option (List (String × Json))) :
      Armed config minted params group .reMetadata (.metadata metadata)
  | locks {key : String} (carried : params.text "lock_key" = some key) (environment queue : Bool)
      (user note : Option String) :
      Armed config minted params group .lock (.lockApply environment queue user note key)
  | unlocks {key : String} (carried : params.text "lock_key" = some key) :
      Armed config minted params group .unlock (.lockRelease key)
  | asksStatus (uid : String) : Armed config minted params group .taskStatus
      (.taskAccess group uid false)
  | asksResult (uid : String) : Armed config minted params group .taskResult
      (.taskAccess group uid true)
  | evaluates (source : String) : Armed config minted params group .luaEval
      (.evaluate "lua_eval" source none)
  | calls (source : String) (item : Json) : Armed config minted params group .functionExecute
      (.evaluate "function_execute" source (some item))
  | reloads : Armed config minted params group .permissionsReload .reload
  | shuts : Armed config minted params group .managerStop .stopTake

section

variable {config : Config} {minted : Nat} {params : Json} {group : String}

theorem addedItem_name {uid name : String} {item : Json} {queued : QueuedItem}
    (built : addedItem config uid name item = .ok queued) : queued.name = name := by
  simp only [addedItem] at built
  repeat' split at built
  all_goals cases built
  all_goals rfl

theorem batchItems_name {items : List Json} {prepared : List QueuedItem}
    (built : batchItems config params minted items = some prepared) :
    ∀ queued ∈ prepared, ∃ item ∈ items, item.text "name" = some queued.name := by
  induction items generalizing minted prepared with
  | nil =>
      cases built
      exact List.forall_mem_nil _
  | cons item rest ih =>
      simp only [batchItems] at built
      split at built
      · cases built
      · next name named =>
          split at built
          · cases built
          · obtain ⟨later, others, rfl⟩ := Option.map_eq_some_iff.mp built
            refine List.forall_mem_cons.mpr ⟨⟨item, List.mem_cons_self, named⟩, ?_⟩
            intro queued member
            obtain ⟨source, among, same⟩ := ih others queued member
            exact ⟨source, List.mem_cons_of_mem _ among, same⟩

/-- What an arm is, once for all. -/
theorem armed (method : Method) :
    Armed config minted params group method (arm config minted params group method) := by
  cases method with
  | queueItemAdd =>
      simp only [arm, queueItemAdd]
      split
      · exact .reply ..
      · next given =>
          split
          · exact .reply ..
          · next named =>
              split
              · exact .reply ..
              · split
                · exact .reply ..
                · next built => exact .adds given (by rw [named, ← addedItem_name built]; rfl) ..
  | queueItemAddBatch =>
      simp only [arm, queueItemAddBatch]
      split
      · exact .reply ..
      · next given =>
          split
          · exact .reply ..
          · split
            · exact .reply ..
            · next built => exact .addsBatch given (batchItems_name built) ..
  | queueItemUpdate =>
      simp only [arm, queueItemUpdate]
      split
      · exact .reply ..
      · next given =>
          split
          · exact .reply ..
          · next aimed => exact .updates given aimed
  | queueItemExecute =>
      simp only [arm, queueItemExecute]
      split
      · exact .reply ..
      · next given =>
          split
          · exact .reply ..
          · split
            · exact .reply ..
            · next named =>
                repeat' split
                all_goals first | exact .reply .. | exact .executes given named
  | queueItemRemove | queueItemRemoveBatch =>
      simp only [arm, queueItemRemove, queueItemRemoveBatch]
      split <;> constructor
  | queueItemMove | queueItemMoveBatch | queueModeSet =>
      simp only [arm, queueItemMove, queueItemMoveBatch, queueModeSet]
      repeat' split
      all_goals constructor
  | queueAutostart =>
      simp only [arm, queueAutostart]
      repeat' split
      all_goals constructor
  | lock =>
      simp only [arm, lockApply]
      split
      · constructor
      · next carried =>
          split
          · constructor
          · exact .locks carried ..
  | unlock =>
      simp only [arm, lockRelease]
      split
      · constructor
      · next carried => exact .unlocks carried
  | luaEval | functionExecute =>
      simp only [arm, luaEval, functionExecute]
      repeat' split
      all_goals constructor
  | _ => constructor

end

end Bsrs.Qs
