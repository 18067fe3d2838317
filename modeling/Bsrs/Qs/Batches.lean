import Bsrs.Qs.BatchMoves
import Bsrs.Qs.Serve

namespace Bsrs.Qs

open Bsrs.Core (Json)
open Bsrs.Library

variable {queue : PlanQueue} {uids : List String}

/-! ## Where an item goes in -/

/-- The place a position names in the queue, the same for every item. -/
def GoesIn (queue : PlanQueue) (pos : Option Json) (beforeUid afterUid : Option String)
    (front back : List QueuedItem) : Prop :=
  queue.items = front ++ back ∧
    ∀ item, insertPositioned queue item pos beforeUid afterUid =
      .ok (queue.setItems (front ++ item :: back))

theorem goesIn_of_insertIdx {pos : Option Json} {beforeUid afterUid : Option String} {place : Nat}
    (inside : place ≤ queue.items.length)
    (inserted : ∀ item, insertPositioned queue item pos beforeUid afterUid =
      .ok (queue.setItems (queue.items.insertIdx place item))) :
    GoesIn queue pos beforeUid afterUid (queue.items.take place) (queue.items.drop place) := by
  refine ⟨(List.take_append_drop ..).symm, fun item => ?_⟩
  rw [inserted, insertIdx_eq_take_drop inside]

theorem goesIn_back {pos : Option Json} {beforeUid afterUid : Option String}
    (inserted : ∀ item, insertPositioned queue item pos beforeUid afterUid =
      .ok (queue.pushBack item)) : GoesIn queue pos beforeUid afterUid queue.items [] :=
  ⟨(List.append_nil _).symm, inserted⟩

/-- A position that takes one item takes any item, at one place. -/
theorem goesIn_of_inserted {item : QueuedItem} {next : PlanQueue} {pos : Option Json}
    {beforeUid afterUid : Option String}
    (inserted : insertPositioned queue item pos beforeUid afterUid = .ok next) :
    ∃ front back, GoesIn queue pos beforeUid afterUid front back := by
  cases beforeUid with
  | some uid =>
      cases found : queue.indexOfUid uid with
      | none => simp [insertPositioned, PlanQueue.insertBeforeUid, found] at inserted
      | some place =>
          refine ⟨_, _, goesIn_of_insertIdx (Nat.le_of_lt (PlanQueue.indexOfUid_lt found)) ?_⟩
          simp [insertPositioned, PlanQueue.insertBeforeUid, found]
  | none =>
  cases afterUid with
  | some uid =>
      cases found : queue.indexOfUid uid with
      | none => simp [insertPositioned, PlanQueue.insertAfterUid, found] at inserted
      | some place =>
          refine ⟨_, _, goesIn_of_insertIdx (PlanQueue.indexOfUid_lt found) ?_⟩
          simp [insertPositioned, PlanQueue.insertAfterUid, found]
  | none =>
  cases pos with
  | none => exact ⟨_, _, goesIn_back fun _ => rfl⟩
  | some json =>
      cases json with
      | string place =>
          simp only [insertPositioned] at inserted
          by_cases back : place = "back"
          · exact ⟨_, _, goesIn_back fun _ => by simp only [insertPositioned, if_pos back]⟩
          · by_cases front : place = "front"
            · refine ⟨_, _, goesIn_of_insertIdx (Nat.min_le_right 0 _) fun _ => ?_⟩
              simp only [insertPositioned, if_neg back, if_pos front]
              rfl
            · rw [if_neg back, if_neg front] at inserted
              cases inserted
      | number number =>
          cases parsed : number.asI64 with
          | none => simp [insertPositioned, parsed] at inserted
          | some index =>
              by_cases start : index = 0 ∨ index < -(queue.items.length : Int)
              · refine ⟨_, _, goesIn_of_insertIdx (Nat.min_le_right 0 _) fun _ => ?_⟩
                simp only [insertPositioned, parsed, if_pos start]
                rfl
              · by_cases ending : index = -1 ∨ (queue.items.length : Int) ≤ index
                · refine ⟨_, _, goesIn_back fun _ => ?_⟩
                  simp only [insertPositioned, parsed, if_neg start, if_pos ending]
                · by_cases positive : 0 < index
                  · refine ⟨_, _, goesIn_of_insertIdx (Nat.min_le_right index.toNat _) fun _ => ?_⟩
                    simp only [insertPositioned, parsed, if_neg start, if_neg ending,
                      if_pos positive]
                    rfl
                  · refine ⟨_, _, goesIn_of_insertIdx (Nat.min_le_right
                      (queue.items.length + index + 1).toNat _) fun _ => ?_⟩
                    simp only [insertPositioned, parsed, if_neg start, if_neg ending,
                      if_neg positive]
                    rfl
      | null | bool | array | object => cases inserted

/-- The later items of a batch follow the one before, whatever stands around it. -/
theorem insertBlock_places {front block back items : List QueuedItem} {last : QueuedItem}
    (whole : queue.items = front ++ block ++ last :: back)
    (fresh : (queue.uids ++ items.map QueuedItem.itemUid).Nodup) :
    ∃ next, insertBlock queue last.itemUid items = (next, none) ∧
      next.items = front ++ (block ++ last :: items) ++ back := by
  induction items generalizing queue block last with
  | nil => exact ⟨queue, rfl, by rw [whole]; simp⟩
  | cons item rest ih =>
      have shape : queue.items = (front ++ block) ++ last :: back := by rw [whole]
      have apart : ∀ entry ∈ front ++ block, (entry.itemUid == last.itemUid) = false := by
        intro entry member
        have once := (List.nodup_append.mp fresh).1
        rw [PlanQueue.uids, shape, List.map_append, List.map_cons, List.nodup_middle,
          List.nodup_cons] at once
        refine beq_false_of_ne fun same => once.1 (List.mem_append_left _ ?_)
        exact same ▸ List.mem_map_of_mem member
      have found : queue.indexOfUid last.itemUid = some (front ++ block).length := by
        rw [PlanQueue.indexOfUid, shape]
        exact findIdx?_middle apart (beq_self_eq_true _)
      have inserted : queue.insertAfterUid last.itemUid item =
          some (queue.setItems ((front ++ block) ++ last :: item :: back)) := by
        rw [PlanQueue.insertAfterUid, found, Option.map_some, shape, insertIdx_past]
      have uids : (queue.setItems ((front ++ block) ++ last :: item :: back)).uids.Perm
          (queue.uids ++ [item.itemUid]) :=
        (PlanQueue.uids_insertAfterUid inserted).trans (List.perm_append_singleton ..).symm
      have placed : (queue.setItems ((front ++ block) ++ last :: item :: back)).items =
          front ++ (block ++ [last]) ++ item :: back := by simp
      obtain ⟨next, done, result⟩ := ih placed
        ((uids.append_right _).nodup_iff.mpr (by simpa using fresh))
      refine ⟨next, ?_, by rw [result]; simp⟩
      simp only [insertBlock, insertPositioned, inserted, done]

/-! ## What a batch accepts -/

/-- Phase 1 of `queue_item_add_batch` on one element. -/
def acceptedInBatch (config : Config) (element : Json) : Bool :=
  (element.text "name").any fun name => (config.plan name).isSome

/-- The checks of `queue_item_add` on its item. -/
def acceptedAlone (config : Config) (element : Json) : Bool :=
  (element.text "name").any fun name => (addedItem config (config.uuid 0) name element).isOk

/-- A batch is prepared exactly when every element is accepted. -/
theorem batchItems_isSome (config : Config) (params : Json) (minted : Nat) (elements : List Json) :
    (batchItems config params minted elements).isSome =
      elements.all fun element => acceptedInBatch config element := by
  induction elements generalizing minted with
  | nil => rfl
  | cons element rest ih =>
      rw [batchItems, List.all_cons, acceptedInBatch]
      cases element.text "name" with
      | none => rfl
      | some name =>
          cases known : config.plan name with
          | none => simp [known]
          | some factory => simp [known, ih]

theorem addedItem_isOk (config : Config) (uid name : String) (element : Json) :
    (addedItem config uid name element).isOk = true ↔
      (element.text "item_type").getD "plan" = "plan" ∧ (config.plan name).isSome = true ∨
        (element.text "item_type").getD "plan" = "instruction" ∧ name = "queue_stop" := by
  rw [addedItem]
  by_cases plan : (element.text "item_type").getD "plan" = "plan"
  · cases known : config.plan name <;> simp [plan, Except.isOk, Except.toBool]
  · by_cases instruction : (element.text "item_type").getD "plan" = "instruction"
    · by_cases stop : name = "queue_stop" <;> simp [instruction, stop, Except.isOk, Except.toBool]
    · simp [plan, instruction, Except.isOk, Except.toBool]

/-- `queue_item_add` goes on to the queue exactly with an accepted item and one position. -/
theorem queueItemAdd_edits (config : Config) (minted : Nat) {params element : Json}
    (item : params.get "item" = some element) (position : positionError params = none) :
    (∃ edit, queueItemAdd config minted params = .edit edit true) ↔
      acceptedAlone config element = true := by
  cases named : element.text "name" with
  | none => simp [queueItemAdd, item, acceptedAlone, named]
  | some name =>
      have alike := (addedItem_isOk config (config.uuid minted) name element).trans
        (addedItem_isOk config (config.uuid 0) name element).symm
      rw [acceptedAlone, named, Option.any_some, ← alike]
      cases built : addedItem config (config.uuid minted) name element <;>
        simp [queueItemAdd, item, position, named, built, Except.isOk, Except.toBool]

/-- The element is a plan, or is refused or let in as both adds would have it. -/
def Alike (config : Config) (element : Json) : Prop :=
  ∀ name, element.text "name" = some name →
    (element.text "item_type").getD "plan" = "plan" ∨
      ((config.plan name).isSome = true ↔
        (element.text "item_type").getD "plan" = "instruction" ∧ name = "queue_stop")

theorem accepted_alike_iff (config : Config) (element : Json) :
    (acceptedInBatch config element = true ↔ acceptedAlone config element = true) ↔
      Alike config element := by
  rw [acceptedInBatch, acceptedAlone, Alike]
  cases element.text "name" with
  | none => simp
  | some name =>
      simp only [Option.any_some, addedItem_isOk, Option.some.injEq, forall_eq']
      by_cases plan : (element.text "item_type").getD "plan" = "plan"
      · simp [plan]
      · simp [plan]

/-! ## Both batch operations -/

/-- A batch moves as one block or not at all, goes in as one block where a single item would, and
takes the elements a single add takes. -/
structure BatchFaithful (config : Config) (queue : PlanQueue) (elements : List Json) : Prop where
  moves : ∀ uids destination reorder next reply,
    QueueEdit.run queue (.moveBatch uids destination reorder) = (next, reply) →
      reply.success = false ∧ next = queue ∨
        ∃ front block back, next.items = front ++ block ++ back ∧
          block.map QueuedItem.itemUid =
            (if reorder then queue.uids.filter fun uid => uid ∈ uids else uids) ∧
          front ++ back = without uids queue.items ∧ next.items.Perm queue.items ∧
          (block = [] ∨ destination.Reached queue front back)
  adds : ∀ items pos beforeUid afterUid next reply,
    (queue.uids ++ items.map QueuedItem.itemUid).Nodup →
      QueueEdit.run queue (.addBatch items pos beforeUid afterUid) = (next, reply) →
        next = queue ∨
          ∃ front back, GoesIn queue pos beforeUid afterUid front back ∧
            next.items = front ++ items ++ back
  accepts : ∀ element ∈ elements, ∀ minted params single,
    single.get "item" = some element → positionError single = none →
      ((batchItems config params minted [element]).isSome = true ↔
        ∃ edit, queueItemAdd config minted single = .edit edit true)

/-- A checked batch moves as a block. -/
theorem moveBatch_places (distinct : queue.uids.Nodup) {destination : Destination}
    (once : uids.Nodup) (known : ∀ uid ∈ uids, uid ∈ queue.uids)
    (apart : ∀ reference ∈ destination.reference?, reference ∉ uids ∧ reference ∈ queue.uids) :
    ∃ next block, moveBatch queue uids destination = (next, .ok block) ∧
      ∃ front back, next.items = front ++ block ++ back ∧ block.map QueuedItem.itemUid = uids ∧
        front ++ back = without uids queue.items ∧ next.items.Perm queue.items ∧
        (block = [] ∨ destination.Reached queue front back) := by
  cases uids with
  | nil =>
      exact ⟨queue, [], rfl, queue.items, [], by simp, rfl, by simp [without_nil], .refl _,
        Or.inl rfl⟩
  | cons uid rest =>
      obtain ⟨item, first, front, back, moved, named, whole, placed, others, reached⟩ :=
        moveFirst_places distinct (known uid (List.mem_cons_self ..))
          fun reference member => ⟨fun same => (apart reference member).1
            (same ▸ List.mem_cons_self ..), (apart reference member).2⟩
      have pending : ∀ other ∈ rest, other ∈ first.uids := fun other member =>
        (whole.map QueuedItem.itemUid).mem_iff.mpr (known other (List.mem_cons_of_mem _ member))
      obtain ⟨block, next, done, uids, perm, result⟩ :=
        moveBlock_places (PlanQueue.uids_nodup_of_perm whole distinct)
          (show first.items = front ++ [] ++ item :: back by simp [placed]) pending
          (by simpa [named] using once)
      refine ⟨next, item :: block, ?_, without rest front, without rest back, by simpa using result,
        by rw [List.map_cons, named, uids], ?_, perm.trans whole, Or.inr ?_⟩
      · rw [named] at done
        simp only [moveBatch, moved, done]
        rfl
      · rw [← without_append, others, without_cons]
      · exact reached.without fun reference member inside =>
          (apart reference member).1 (List.mem_cons_of_mem _ inside)

theorem moves_as_block (distinct : queue.uids.Nodup) (uids : List String)
    (destination : Destination) (reorder : Bool) :
    (QueueEdit.run queue (.moveBatch uids destination reorder)).2.success = false ∧
        (QueueEdit.run queue (.moveBatch uids destination reorder)).1 = queue ∨
      ∃ front block back,
        (QueueEdit.run queue (.moveBatch uids destination reorder)).1.items =
          front ++ block ++ back ∧
        block.map QueuedItem.itemUid =
          (if reorder then queue.uids.filter fun uid => uid ∈ uids else uids) ∧
        front ++ back = without uids queue.items ∧
        (QueueEdit.run queue (.moveBatch uids destination reorder)).1.items.Perm queue.items ∧
        (block = [] ∨ destination.Reached queue front back) := by
  cases valid : moveBatchError queue uids destination with
  | some msg =>
      left
      rw [QueueEdit.run, valid]
      exact ⟨rfl, rfl⟩
  | none =>
      right
      obtain ⟨once, known, apart⟩ := moveBatchError_eq_none valid
      have order := moveOrder_perm queue uids reorder
      have members : ∀ uid, uid ∈ moveOrder queue uids reorder ↔ uid ∈ uids :=
        fun _ => order.mem_iff
      obtain ⟨next, block, done, front, back, result, named, others, whole, reached⟩ :=
        moveBatch_places distinct (order.nodup_iff.mpr once)
          (fun uid member => known uid ((members uid).mp member))
          fun reference member => ⟨fun inside => (apart reference member).1
            ((members reference).mp inside), (apart reference member).2⟩
      have run : (QueueEdit.run queue (.moveBatch uids destination reorder)).1 = next := by
        rw [QueueEdit.run, valid]
        simp only [done]
      rw [run]
      refine ⟨front, block, back, result, ?_, ?_, whole, reached⟩
      · rw [named]
        cases reorder with
        | false => rfl
        | true => exact moveOrder_reorder distinct once known
      · rw [others]
        exact List.filter_congr fun item _ => by simp [members]

theorem adds_as_block (items : List QueuedItem) (pos : Option Json)
    (beforeUid afterUid : Option String)
    (fresh : (queue.uids ++ items.map QueuedItem.itemUid).Nodup) :
    (QueueEdit.run queue (.addBatch items pos beforeUid afterUid)).1 = queue ∨
      ∃ front back, GoesIn queue pos beforeUid afterUid front back ∧
        (QueueEdit.run queue (.addBatch items pos beforeUid afterUid)).1.items =
          front ++ items ++ back := by
  cases items with
  | nil => exact Or.inl rfl
  | cons item rest =>
      cases inserted : insertPositioned queue item pos beforeUid afterUid with
      | error msg =>
          left
          simp only [QueueEdit.run, insertBatch, inserted]
      | ok grown =>
          right
          obtain ⟨front, back, whole, place⟩ := goesIn_of_inserted inserted
          obtain rfl := Except.ok.inj (inserted.symm.trans (place item))
          have uids : (queue.setItems (front ++ item :: back)).uids.Perm
              (queue.uids ++ [item.itemUid]) :=
            (insertPositioned_uids inserted).trans (List.perm_append_singleton ..).symm
          have placed : (queue.setItems (front ++ item :: back)).items =
              front ++ [] ++ item :: back := by simp
          obtain ⟨next, done, result⟩ := insertBlock_places placed
            ((uids.append_right _).nodup_iff.mpr (by simpa using fresh))
          refine ⟨front, back, ⟨whole, place⟩, ?_⟩
          simp only [QueueEdit.run, insertBatch, inserted, done]
          simpa using result

/-- The batch operations do what they promise exactly on elements that are plans, or that both adds
would treat alike. -/
theorem batchFaithful_iff (config : Config) (distinct : queue.uids.Nodup) (elements : List Json) :
    BatchFaithful config queue elements ↔ ∀ element ∈ elements, Alike config element := by
  constructor
  · intro faithful element member
    have item : (Json.object [("item", element)]).get "item" = some element := rfl
    have accepts := faithful.accepts element member 0 .null _ item rfl
    rw [batchItems_isSome, List.all_cons, List.all_nil, Bool.and_true,
      queueItemAdd_edits config 0 item rfl] at accepts
    exact (accepted_alike_iff config element).mp accepts
  · intro alike
    refine ⟨?_, ?_, ?_⟩
    · intro uids destination reorder next reply run
      have block := moves_as_block distinct uids destination reorder
      rwa [run] at block
    · intro items pos beforeUid afterUid next reply fresh run
      have block := adds_as_block items pos beforeUid afterUid fresh
      rwa [run] at block
    · intro element member minted params single item position
      rw [batchItems_isSome, List.all_cons, List.all_nil, Bool.and_true,
        queueItemAdd_edits config minted item position]
      exact (accepted_alike_iff config element).mpr (alike element member)

/-- A server with one plan. -/
def Config.onlyCount : Config :=
  { Config.plain with plan := fun name => if name = "count" then some fun _ => .ok () else none }

/-- Four plans waiting, under the uids a to d. -/
def PlanQueue.fourCounts : PlanQueue :=
  PlanQueue.new.setItems (["a", "b", "c", "d"].map fun uid => .plan uid "count" (.object []))

/-- A plan, a plan nobody registered, and an element without a name. -/
def threeElements : List Json :=
  [.object [("name", .string "count")], .object [("item_type", .string "plan"),
    ("name", .string "scan")], .object []]

theorem batchFaithful_iff_plan :
    BatchFaithful Config.onlyCount .fourCounts threeElements ∧
      ((QueueEdit.run .fourCounts (.moveBatch ["d", "a"] (.after "b") false)).1.uids =
        ["b", "d", "a", "c"]) ∧
      (QueueEdit.run .fourCounts (.addBatch (["x", "y"].map fun uid =>
        .plan uid "count" (.object [])) none none (some "b"))).1.uids =
          ["a", "b", "x", "y", "c", "d"] := by
  refine ⟨(batchFaithful_iff Config.onlyCount (by decide) threeElements).mpr ?_, by decide,
    by decide⟩
  intro element member name named
  simp only [threeElements, List.mem_cons, List.not_mem_nil, or_false] at member
  obtain rfl | rfl | rfl := member
  · exact Or.inl rfl
  · exact Or.inl rfl
  · cases named

/-- A batch refuses the instruction a single add takes. -/
theorem batch_refuses_instruction :
    ¬∀ (config : Config) (queue : PlanQueue), queue.uids.Nodup →
      ∀ elements, BatchFaithful config queue elements := by
  intro faithful
  let element := Json.object [("item_type", .string "instruction"), ("name", .string "queue_stop")]
  have accepts := (faithful Config.onlyCount .new (by decide) [element]).accepts element
    (List.mem_singleton_self _) 0 .null (.object [("item", element)]) rfl rfl
  exact absurd (accepts.mpr ⟨_, rfl⟩) (by decide)

end Bsrs.Qs
