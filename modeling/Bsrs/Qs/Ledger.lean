import Bsrs.Library.Record
import Bsrs.Qs.EditFacts
import Bsrs.Qs.Serve

namespace Bsrs.Qs

open Bsrs.Library (record)

/-- What happens to an item, by its uid. -/
inductive Event where
  /-- A reply confirmed it as queued, or as handed to a worker of its own. -/
  | accepted (uid : String)
  | executed (uid : String)
  /-- A reply confirmed it as taken off the queue. -/
  | removed (uid : String)
  | popped (uid : String)
  | archived (uid : String)
  /-- The worker read the loop mode as on, and put the item back. -/
  | looped (uid : String)
  | requeued (uid : String)
  | historyCleared
  deriving DecidableEq

/-- What a request does, as against what a worker does. -/
def Event.edits : Event → Bool
  | .accepted _ | .removed _ | .historyCleared => true
  | _ => false

namespace WorkerCode

/-- The item a worker was given or popped and has not archived yet. -/
def held? : WorkerCode → Option QueuedItem
  | .unpolled single => single
  | .archiveStop item | .countFailed item _ | .archiveFail item _ | .publish _ item
  | .run _ item _ | .book _ item _ | .archive _ item _ => some item
  | _ => none

/-- The item a worker archived and has not read the loop mode for yet. -/
def settling? : WorkerCode → Option QueuedItem
  | .readMode item _ => some item
  | _ => none

/-- The item a worker is about to put back. -/
def returning? : WorkerCode → Option QueuedItem
  | .requeue item _ => some item
  | _ => none

/-- The item a worker published as the manager's `current_item`. -/
def shown? : WorkerCode → Option QueuedItem
  | .run _ item _ | .book _ item _ => some item
  | _ => none

/-- What a stretch of a worker does to the items. -/
def events (server : Server) : WorkerCode → List Event
  | .pop => (server.queue.items.head?.map fun item => Event.popped item.itemUid).toList
  | .archiveStop item | .archiveFail item _ | .archive _ item _ => [.archived item.itemUid]
  | .readMode item _ => if server.manager.loops then [.looped item.itemUid] else []
  | .requeue item _ => [.requeued item.itemUid]
  | _ => []

end WorkerCode

/-- What an edit does to the items, as its reply has it. -/
def QueueEdit.events (queue : PlanQueue) (edit : QueueEdit) : List Event :=
  (edit.accepted queue).map .accepted ++ (edit.removed queue).map .removed ++
    if edit.clearsHistory then [.historyCleared] else []

/-- What a stretch of a handler does to the items. -/
def Handler.events (server : Server) : Handler → List Event
  | .edit change _ => change.events server.queue
  | .startSpawn (.execute item) _ => [.executed item.itemUid]
  | _ => []

/-- What a step does to the items. -/
def Server.events (server : Server) : Label → List Event
  | .rep _ =>
      match server.rep with
      | .handle handler => handler.events server
      | _ => []
  | .work task => ((server.live? task).map fun worker => worker.code.events server).getD []
  | _ => []

/-- What a run does to the items. -/
def ledger (config : Config) (start : Server) (labels : List Label) : List Event :=
  record (Server.step config) Server.events start labels

/-- What an event does to the uids of the history. -/
def archiving (history : List String) : Event → List String
  | .archived uid => history ++ [uid]
  | .historyCleared => []
  | _ => history

/-- The uids archived since the history was last cleared. -/
def archive (log : List Event) : List String :=
  log.foldl archiving []

/-- Whether the code has the item of the uid in view. -/
def WorkerCode.views (view : WorkerCode → Option QueuedItem) (uid : String) (code : WorkerCode) :
    Bool :=
  (view code).any fun item => item.itemUid == uid

/-- How many live workers have the item of the uid in view. -/
def Server.hands (server : Server) (view : WorkerCode → Option QueuedItem) (uid : String) : Nat :=
  server.crew.workers.countP fun worker => !worker.finished && worker.code.views view uid

/-- The part of the item in the copies of a uid. -/
def share : Option QueuedItem → String → Nat
  | none, _ => 0
  | some item, uid => if item.itemUid = uid then 1 else 0

section

variable (queue : PlanQueue) (edit : QueueEdit) (uid : String)

theorem QueueEdit.count_accepted :
    (edit.events queue).count (.accepted uid) = (edit.accepted queue).count uid := by
  have copied := List.count_map_of_injective (edit.accepted queue) Event.accepted
    (fun _ _ same => Event.accepted.inj same) uid
  simp only [events, List.count_append, copied]
  have others : ((edit.removed queue).map Event.removed).count (.accepted uid) = 0 := by
    simp [List.count_eq_zero]
  split <;> simp [others]

theorem QueueEdit.count_removed :
    (edit.events queue).count (.removed uid) = (edit.removed queue).count uid := by
  have copied := List.count_map_of_injective (edit.removed queue) Event.removed
    (fun _ _ same => Event.removed.inj same) uid
  simp only [events, List.count_append, copied]
  have others : ((edit.accepted queue).map Event.accepted).count (.removed uid) = 0 := by
    simp [List.count_eq_zero]
  split <;> simp [others]

/-- An edit runs no item. -/
theorem QueueEdit.count_runs (event : Event) (runs : event.edits = false) :
    (edit.events queue).count event = 0 := by
  apply List.count_eq_zero.mpr
  intro member
  simp only [events, List.mem_append, List.mem_map] at member
  rcases member with (⟨uid, _, rfl⟩ | ⟨uid, _, rfl⟩) | cleared
  · cases runs
  · cases runs
  · split at cleared
    · cases List.mem_singleton.mp cleared
      cases runs
    · cases cleared

theorem QueueEdit.archiving_events (history : List String) :
    (edit.events queue).foldl archiving history = if edit.clearsHistory then [] else history := by
  have accepting : ∀ uids : List String, (uids.map Event.accepted).foldl archiving history = history := by
    intro uids
    induction uids with
    | nil => rfl
    | cons uid rest ih => simpa [archiving] using ih
  have removing : ∀ uids : List String, (uids.map Event.removed).foldl archiving history = history := by
    intro uids
    induction uids with
    | nil => rfl
    | cons uid rest ih => simpa [archiving] using ih
  rw [events, List.foldl_append, List.foldl_append, accepting, removing]
  split <;> rfl

end

/-- An element modified counts as it does after the change, and no longer as it did before. -/
theorem countP_modify {items : List α} {place : Nat} {item : α} (found : items[place]? = some item)
    (counted : α → Bool) (update : α → α) :
    (items.modify place update).countP counted + (if counted item then 1 else 0) =
      items.countP counted + if counted (update item) then 1 else 0 := by
  induction items generalizing place with
  | nil => simp at found
  | cons first rest ih =>
      cases place with
      | zero =>
          cases found
          simp only [List.modify_zero_cons, List.countP_cons]
          omega
      | succ place =>
          have there : rest[place]? = some item := by simpa using found
          have later := ih there
          simp only [List.modify_succ_cons, List.countP_cons]
          omega

section

variable {server next : Server} {task : TaskId} {worker : Worker WorkerCode}

theorem Server.hands_modify (view : WorkerCode → Option QueuedItem) (uid : String)
    {update : Worker WorkerCode → Worker WorkerCode}
    (found : server.crew.workers[task]? = some worker)
    (workers : next.crew.workers = server.crew.workers.modify task update) :
    next.hands view uid + (if !worker.finished && worker.code.views view uid then 1 else 0) =
      server.hands view uid +
        if !(update worker).finished && (update worker).code.views view uid then 1 else 0 := by
  rw [Server.hands, workers]
  exact countP_modify found _ update

theorem share_views (view : WorkerCode → Option QueuedItem) (uid : String) (code : WorkerCode) :
    (if code.views view uid then 1 else 0) = share (view code) uid := by
  rw [WorkerCode.views]
  cases view code <;> simp [share]

/-- A live worker that moves on drops what it had in view and takes what it has. -/
theorem Server.hands_goto (view : WorkerCode → Option QueuedItem) (uid : String)
    (found : server.live? task = some worker) {code : WorkerCode} (workers : next.crew.workers =
      server.crew.workers.modify task fun worker => { worker with code }) :
    next.hands view uid + share (view worker.code) uid =
      server.hands view uid + share (view code) uid := by
  obtain ⟨present, unfinished⟩ := Server.live?_eq_some.mp found
  simpa [unfinished, share_views] using Server.hands_modify view uid present workers

end

end Bsrs.Qs
