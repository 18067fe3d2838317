import Bsrs.Qs.Queue

namespace Bsrs.Qs

open Bsrs.Core (Json)

/-- A flat response: `success`, `msg` and the fields a client reads besides. -/
structure Reply where
  success : Bool
  msg : String
  fields : List (String × Json)

namespace Reply

/-- `methods::err`. -/
def err (msg : String) : Reply where
  success := false
  msg
  fields := []

def ok (fields : List (String × Json)) : Reply where
  success := true
  msg := ""
  fields

end Reply

def size (count : Nat) : Json :=
  .number (.int count)

/-- `insert_positioned`: the item goes in by `before_uid`, else `after_uid`, else `pos`; an error
leaves the queue as it was. -/
def insertPositioned (queue : PlanQueue) (item : QueuedItem) (pos : Option Json)
    (beforeUid afterUid : Option String) : Except String PlanQueue :=
  match beforeUid, afterUid with
  | some uid, _ =>
      match queue.insertBeforeUid uid item with
      | some inserted => .ok inserted
      | none => .error s!"before_uid not found: {uid}"
  | none, some uid =>
      match queue.insertAfterUid uid item with
      | some inserted => .ok inserted
      | none => .error s!"after_uid not found: {uid}"
  | none, none =>
      match pos with
      | none => .ok (queue.pushBack item)
      | some (.string place) =>
          if place = "back" then .ok (queue.pushBack item)
          else if place = "front" then .ok (queue.insertAt 0 item)
          else .error s!"invalid pos string: {place}"
      | some (.number number) =>
          match number.asI64 with
          | none => .error "pos must be an integer"
          | some index =>
              let qsize : Int := queue.items.length
              if index = 0 ∨ index < -qsize then .ok (queue.insertAt 0 item)
              else if index = -1 ∨ qsize ≤ index then .ok (queue.pushBack item)
              -- A negative index counts from the back and inserts after the item it names.
              else if 0 < index then .ok (queue.insertAt index.toNat item)
              else .ok (queue.insertAt (qsize + index + 1).toNat item)
      | some other => .error s!"invalid pos value: {other.print}"

/-- `resolve_pos_q`. -/
def resolvePos (pos : Option Json) (queue : PlanQueue) : Nat :=
  match pos with
  | some (.string place) => if place = "front" then 0 else queue.items.length
  | some (.number number) => number.asU64.getD 0
  | _ => queue.items.length

/-- The block of a batch, each item after the one before it; what stopped it, if anything did. -/
def insertBlock (queue : PlanQueue) : String → List QueuedItem → PlanQueue × Option String
  | _, [] => (queue, none)
  | previous, item :: rest =>
      match insertPositioned queue item none none (some previous) with
      | .ok inserted => insertBlock inserted item.itemUid rest
      | .error msg => (queue, some msg)

/-- Phase 2 of `queue_item_add_batch`. -/
def insertBatch (queue : PlanQueue) (items : List QueuedItem) (pos : Option Json)
    (beforeUid afterUid : Option String) : PlanQueue × Option String :=
  match items with
  | [] => (queue, none)
  | item :: rest =>
      match insertPositioned queue item pos beforeUid afterUid with
      | .ok inserted => insertBlock inserted item.itemUid rest
      | .error msg => (queue, some msg)

/-- `remove_by_uid` for each uid in turn; an unknown one is passed over. -/
def removeEach (queue : PlanQueue) : List String → PlanQueue × List QueuedItem
  | [] => (queue, [])
  | uid :: rest =>
      match queue.removeByUid uid with
      | some (item, remaining) =>
          let after := removeEach remaining rest
          (after.1, item :: after.2)
      | none => removeEach queue rest

/-- The later items of a moved block, each after the one before it. -/
def moveBlock (queue : PlanQueue) : String → List String → PlanQueue × Except String (List QueuedItem)
  | _, [] => (queue, .ok [])
  | previous, uid :: rest =>
      match queue.moveAfterUid uid previous with
      | (moved, some item) =>
          let after := moveBlock moved uid rest
          (after.1, after.2.map fun items => item :: items)
      | (moved, none) => (moved, .error s!"move failed for uid: {uid}")

/-- Where a batch moves to: exactly one of `pos_dest`, `before_uid` and `after_uid`. -/
inductive Destination where
  | pos (pos : Json)
  | before (uid : String)
  | after (uid : String)

def moveFirst (queue : PlanQueue) (uid : String) : Destination → PlanQueue × Option QueuedItem
  | .pos pos => queue.moveTo uid (resolvePos (some pos) queue)
  | .before reference => queue.moveBeforeUid uid reference
  | .after reference => queue.moveAfterUid uid reference

/-- The first uid that occurred before. -/
def duplicate? : List String → List String → Option String
  | _, [] => none
  | seen, uid :: rest => if uid ∈ seen then some uid else duplicate? (uid :: seen) rest

/-- The pre-validation of `queue_item_move_batch`: what it rejects the batch for. -/
def moveBatchError (queue : PlanQueue) (uids : List String) (destination : Destination) :
    Option String :=
  match duplicate? [] uids with
  | some uid => some s!"duplicate uid in batch: {uid}"
  | none =>
      match uids.filter fun uid => (queue.getByUid uid).isNone with
      | [] =>
          match destination with
          | .pos _ => none
          | .before uid =>
              if uid ∈ uids then some s!"before_uid is in the batch: {uid}"
              else if (queue.getByUid uid).isNone then some s!"before_uid not found: {uid}"
              else none
          | .after uid =>
              if uid ∈ uids then some s!"after_uid is in the batch: {uid}"
              else if (queue.getByUid uid).isNone then some s!"after_uid not found: {uid}"
              else none
      | missing => some ("uids not in queue: " ++ ", ".intercalate missing)

/-- The uids in the order they move in: as given, or in queue order. -/
def moveOrder (queue : PlanQueue) (uids : List String) (reorder : Bool) : List String :=
  if reorder then
    ((uids.map fun uid => ((queue.indexOfUid uid).getD 0, uid)).mergeSort
      fun left right => left.1 ≤ right.1).map Prod.snd
  else uids

def moveBatch (queue : PlanQueue) (uids : List String) (destination : Destination) :
    PlanQueue × Except String (List QueuedItem) :=
  match uids with
  | [] => (queue, .ok [])
  | uid :: rest =>
      match moveFirst queue uid destination with
      | (moved, some item) =>
          let after := moveBlock moved uid rest
          (after.1, after.2.map fun items => item :: items)
      | (moved, none) => (moved, .error s!"move failed for uid: {uid}")

/-- What a request does to the queue under one hold of its lock. -/
inductive QueueEdit where
  | add (item : QueuedItem) (pos : Option Json) (beforeUid afterUid : Option String)
  | addBatch (items : List QueuedItem) (pos : Option Json) (beforeUid afterUid : Option String)
  | update (uid : String) (item : QueuedItem) (replace : Bool)
  | remove (uid : String)
  | removeBatch (uids : List String)
  | moveBefore (uid reference : String)
  | moveAfter (uid reference : String)
  | moveTo (uid : String) (destination : Nat)
  | moveBatch (uids : List String) (destination : Destination) (reorder : Bool)
  | clear
  | clearHistory

/-- The edits that can make an empty queue runnable, after which `dispatch` tries an autostart. -/
def QueueEdit.adds : QueueEdit → Bool
  | .add .. | .addBatch .. => true
  | _ => false

def itemsJson (items : List QueuedItem) : Json :=
  .array (items.map QueuedItem.toJson)

/-- The reply to a single move. -/
def moveReply (uid unknown : String) :
    PlanQueue × Option QueuedItem → PlanQueue × Reply
  | (moved, some item) => (moved, .ok [("item", item.toJson)])
  | (moved, none) => (moved, .err s!"{unknown} not found: {uid}")

def QueueEdit.run (queue : PlanQueue) : QueueEdit → PlanQueue × Reply
  | .add item pos beforeUid afterUid =>
      match insertPositioned queue item pos beforeUid afterUid with
      | .ok inserted =>
          (inserted, .ok [("qsize", size inserted.items.length), ("item", item.toJson)])
      | .error msg => (queue, .err msg)
  | .addBatch items pos beforeUid afterUid =>
      match insertBatch queue items pos beforeUid afterUid with
      | (inserted, none) =>
          (inserted, .ok [("qsize", size inserted.items.length), ("items", itemsJson items)])
      | (inserted, some msg) => (inserted, .err msg)
  | .update uid item replace =>
      match if replace then queue.replaceAtUid uid item else queue.update uid item with
      | some (updated, changed) => (changed, .ok [("item", updated.toJson)])
      | none => (queue, .err s!"uid not found: {uid}")
  | .remove uid =>
      match queue.removeByUid uid with
      | some (item, remaining) =>
          (remaining, .ok [("item", item.toJson), ("qsize", size remaining.items.length)])
      | none => (queue, .err s!"uid not found: {uid}")
  | .removeBatch uids =>
      let (remaining, removed) := removeEach queue uids
      (remaining, .ok [("items_removed", itemsJson removed), ("qsize", size remaining.items.length)])
  | .moveBefore uid reference =>
      moveReply uid "uid or reference uid" (queue.moveBeforeUid uid reference)
  | .moveAfter uid reference =>
      moveReply uid "uid or reference uid" (queue.moveAfterUid uid reference)
  | .moveTo uid destination => moveReply uid "uid" (queue.moveTo uid destination)
  | .moveBatch uids destination reorder =>
      match moveBatchError queue uids destination with
      | some msg => (queue, .err msg)
      | none =>
          match Qs.moveBatch queue (moveOrder queue uids reorder) destination with
          | (moved, .ok items) =>
              (moved, .ok [("items_moved", itemsJson items), ("qsize", size moved.items.length)])
          | (moved, .error msg) => (moved, .err msg)
  | .clear => (queue.clear, .ok [])
  | .clearHistory => (queue.clearHistory, .ok [])

end Bsrs.Qs
