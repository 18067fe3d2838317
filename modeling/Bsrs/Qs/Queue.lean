import Mathlib.Data.List.Perm.Basic
import Bsrs.Core.Json

namespace Bsrs.Qs

open Bsrs.Core (Json)

/-- `QueuedItem`: the submitted item's own keys and the ones the server owns. -/
structure QueuedItem where
  itemUid : String
  itemType : String
  name : String
  args : Json
  kwargs : Json
  itemMeta : Json
  user : Option String
  userGroup : Option String
  result : Option Json

namespace QueuedItem

/-- `QueuedItem::plan`, under the uid minted for it. -/
def plan (itemUid name : String) (item : Json) : QueuedItem where
  itemUid
  itemType := "plan"
  name
  args := (item.get "args").getD (.array [])
  kwargs := (item.get "kwargs").getD (.object [])
  itemMeta := .null
  user := none
  userGroup := none
  result := none

/-- `QueuedItem::instruction`. -/
def instruction (itemUid name : String) : QueuedItem where
  itemUid
  itemType := "instruction"
  name
  args := .null
  kwargs := .null
  itemMeta := .null
  user := none
  userGroup := none
  result := none

/-- The arguments in the shape a plan factory takes. -/
def planArgs (item : QueuedItem) : Json :=
  .object [("args", item.args), ("kwargs", item.kwargs)]

def withResult (item : QueuedItem) (result : Json) : QueuedItem :=
  { item with result := some result }

/-- The item as every reply serializes it. -/
def toJson (item : QueuedItem) : Json :=
  .object ([("item_uid", .string item.itemUid), ("item_type", .string item.itemType),
    ("name", .string item.name), ("args", item.args), ("kwargs", item.kwargs), ("meta", item.itemMeta)]
    ++ (item.user.map fun user => ("user", Json.string user)).toList
    ++ (item.userGroup.map fun group => ("user_group", Json.string group)).toList
    ++ (item.result.map fun result => ("result", result)).toList)

end QueuedItem

/-- `PlanQueue`: the pending items and the finished ones, each with a revision that every change
of it bumps. -/
structure PlanQueue where
  items : List QueuedItem
  history : List QueuedItem
  queueRevision : Nat
  historyRevision : Nat

namespace PlanQueue

def new : PlanQueue where
  items := []
  history := []
  queueRevision := 0
  historyRevision := 0

/-- Replace the pending items, with `bump_queue_uid`. -/
def setItems (queue : PlanQueue) (items : List QueuedItem) : PlanQueue :=
  { queue with items, queueRevision := queue.queueRevision + 1 }

def pushBack (queue : PlanQueue) (item : QueuedItem) : PlanQueue :=
  queue.setItems (queue.items ++ [item])

def popFront (queue : PlanQueue) : Option (QueuedItem × PlanQueue) :=
  match queue.items with
  | [] => none
  | item :: rest => some (item, queue.setItems rest)

def getByUid (queue : PlanQueue) (uid : String) : Option QueuedItem :=
  queue.items.find? fun item => item.itemUid == uid

/-- `index_of_uid`, the `position` every operation looks an item up by. -/
def indexOfUid (queue : PlanQueue) (uid : String) : Option Nat :=
  queue.items.findIdx? fun item => item.itemUid == uid

/-- `update`: the replacement takes the uid it replaces. -/
def update (queue : PlanQueue) (uid : String) (replacement : QueuedItem) :
    Option (QueuedItem × PlanQueue) :=
  (queue.indexOfUid uid).map fun position =>
    let item := { replacement with itemUid := uid }
    (item, queue.setItems (queue.items.set position item))

/-- `replace_at_uid`: the new item keeps its own uid. -/
def replaceAtUid (queue : PlanQueue) (uid : String) (item : QueuedItem) :
    Option (QueuedItem × PlanQueue) :=
  (queue.indexOfUid uid).map fun position =>
    (item, queue.setItems (queue.items.set position item))

def removeByUid (queue : PlanQueue) (uid : String) : Option (QueuedItem × PlanQueue) :=
  (queue.indexOfUid uid).bind fun position =>
    (queue.items[position]?).map fun item =>
      (item, queue.setItems (queue.items.eraseIdx position))

def pushFront (queue : PlanQueue) (item : QueuedItem) : PlanQueue :=
  queue.setItems (item :: queue.items)

/-- `insert_at`, clamped to the length. -/
def insertAt (queue : PlanQueue) (index : Nat) (item : QueuedItem) : PlanQueue :=
  queue.setItems (queue.items.insertIdx (min index queue.items.length) item)

/-- `insert_before_uid`; `none` where the reference is unknown. -/
def insertBeforeUid (queue : PlanQueue) (reference : String) (item : QueuedItem) :
    Option PlanQueue :=
  (queue.indexOfUid reference).map fun position =>
    queue.setItems (queue.items.insertIdx position item)

def insertAfterUid (queue : PlanQueue) (reference : String) (item : QueuedItem) :
    Option PlanQueue :=
  (queue.indexOfUid reference).map fun position =>
    queue.setItems (queue.items.insertIdx (position + 1) item)

/-- `move_to`. -/
def moveTo (queue : PlanQueue) (uid : String) (destination : Nat) :
    PlanQueue × Option QueuedItem :=
  match queue.indexOfUid uid with
  | none => (queue, none)
  | some position =>
      match queue.items[position]? with
      | none => (queue, none)
      | some item =>
          let rest := queue.items.eraseIdx position
          (queue.setItems (rest.insertIdx (min destination rest.length) item), some item)

/-- `move_before_uid` and `move_after_uid`, `offset` places past the reference. The item is out of
the queue before the reference is looked up, and an unknown reference leaves it out. -/
def moveByUid (offset : Nat) (queue : PlanQueue) (uid reference : String) :
    PlanQueue × Option QueuedItem :=
  match queue.indexOfUid uid with
  | none => (queue, none)
  | some position =>
      match queue.items[position]? with
      | none => (queue, none)
      | some item =>
          let rest := queue.items.eraseIdx position
          match rest.findIdx? fun other => other.itemUid == reference with
          | none => ({ queue with items := rest }, none)
          | some place => (queue.setItems (rest.insertIdx (place + offset) item), some item)

def moveBeforeUid : PlanQueue → String → String → PlanQueue × Option QueuedItem :=
  moveByUid 0

def moveAfterUid : PlanQueue → String → String → PlanQueue × Option QueuedItem :=
  moveByUid 1

def clear (queue : PlanQueue) : PlanQueue :=
  if queue.items.isEmpty then queue else queue.setItems []

def pushHistory (queue : PlanQueue) (item : QueuedItem) : PlanQueue :=
  { queue with history := queue.history ++ [item], historyRevision := queue.historyRevision + 1 }

def clearHistory (queue : PlanQueue) : PlanQueue :=
  if queue.history.isEmpty then queue
  else { queue with history := [], historyRevision := queue.historyRevision + 1 }

/-- The uids of the pending items, in queue order. -/
def uids (queue : PlanQueue) : List String :=
  queue.items.map QueuedItem.itemUid

end PlanQueue

end Bsrs.Qs
