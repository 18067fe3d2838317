import Bsrs.Qs.Dispatch
import Bsrs.Qs.Moves

namespace Bsrs.Qs

open Bsrs.Core (Json)
open Bsrs.Library

variable {queue : PlanQueue} {uid : String} {uids : List String}

/-- The items of some uids left out. -/
def without (uids : List String) (items : List QueuedItem) : List QueuedItem :=
  items.filter fun item => item.itemUid ∉ uids

theorem without_append (uids : List String) (front back : List QueuedItem) :
    without uids (front ++ back) = without uids front ++ without uids back :=
  List.filter_append ..

theorem without_nil (items : List QueuedItem) : without [] items = items :=
  List.filter_eq_self.mpr fun _ _ => by simp

theorem without_cons (uid : String) (uids : List String) (items : List QueuedItem) :
    without uids (without [uid] items) = without (uid :: uids) items := by
  rw [without, without, without, List.filter_filter]
  refine List.filter_congr fun item _ => ?_
  simp [Bool.and_comm]

theorem without_of_apart {items : List QueuedItem} (apart : ∀ item ∈ items, item.itemUid ∉ uids) :
    without uids items = items :=
  List.filter_eq_self.mpr fun item member => by simpa using apart item member

/-! ## A block moved item by item -/

/-- One more item pulled to the end of a block takes nothing else along. -/
theorem moveAfterUid_block (distinct : queue.uids.Nodup) {front block back : List QueuedItem}
    {last : QueuedItem} (items : queue.items = front ++ block ++ last :: back)
    (pending : uid ∈ queue.uids) (outside : uid ∉ (block ++ [last]).map QueuedItem.itemUid) :
    ∃ item next, queue.moveAfterUid uid last.itemUid = (next, some item) ∧ item.itemUid = uid ∧
      next.items.Perm queue.items ∧
      next.items = without [uid] front ++ (block ++ [last]) ++ item :: without [uid] back := by
  obtain ⟨left, item, right, held⟩ := PlanQueue.held_of_mem distinct pending
  have kept : without [uid] (block ++ [last]) = block ++ [last] := by
    refine without_of_apart fun entry member same => outside ?_
    rw [← List.mem_singleton.mp same]
    exact List.mem_map_of_mem member
  have rest : left ++ right = (without [uid] front ++ block) ++ last :: without [uid] back := by
    have whole : without [uid] queue.items = left ++ right := by
      rw [← held.filter]
      exact List.filter_congr fun _ _ => by simp
    have shape : queue.items = front ++ (block ++ [last]) ++ back := by simp [items]
    rw [← whole, shape, without_append, without_append, kept]
    simp
  have absent : ∀ entry ∈ without [uid] front ++ block, entry.itemUid ≠ last.itemUid := by
    intro entry member same
    have before : entry ∈ front ++ block := by
      rcases List.mem_append.mp member with early | inside
      · exact List.mem_append_left _ (List.mem_of_mem_filter early)
      · exact List.mem_append_right _ inside
    rw [PlanQueue.uids, items, List.map_append, List.map_cons, List.nodup_middle,
      List.nodup_cons] at distinct
    exact distinct.1 (List.mem_append_left _ (same ▸ List.mem_map_of_mem before))
  have moved := held.moveByUid_known rest rfl absent 1
  rw [insertIdx_past] at moved
  have split : left ++ right = (without [uid] front ++ block ++ [last]) ++ without [uid] back := by
    rw [rest]
    simp
  refine ⟨item, _, moved, held.named, ?_, by simp⟩
  simpa using held.perm split

/-- A block grows by the uids that follow, in their order, and the others close up around it. -/
theorem moveBlock_places (distinct : queue.uids.Nodup) {front block back : List QueuedItem}
    {last : QueuedItem} (items : queue.items = front ++ block ++ last :: back)
    (pending : ∀ uid ∈ uids, uid ∈ queue.uids)
    (fresh : ((block ++ [last]).map QueuedItem.itemUid ++ uids).Nodup) :
    ∃ moved next, moveBlock queue last.itemUid uids = (next, .ok moved) ∧
      moved.map QueuedItem.itemUid = uids ∧ next.items.Perm queue.items ∧
      next.items = without uids front ++ (block ++ last :: moved) ++ without uids back := by
  induction uids generalizing queue front block back last with
  | nil =>
      refine ⟨[], queue, rfl, rfl, .refl _, ?_⟩
      rw [items, without_nil, without_nil]
      simp
  | cons uid rest ih =>
      have outside : uid ∉ (block ++ [last]).map QueuedItem.itemUid := fun inside =>
        (List.nodup_append.mp fresh).2.2 uid inside uid (List.mem_cons_self ..) rfl
      obtain ⟨item, next, moved, named, whole, placed⟩ :=
        moveAfterUid_block distinct items (pending uid (List.mem_cons_self ..)) outside
      have same : ∀ other, other ∈ next.uids ↔ other ∈ queue.uids :=
        fun _ => (whole.map QueuedItem.itemUid).mem_iff
      have grown : (((block ++ [last]) ++ [item]).map QueuedItem.itemUid ++ rest).Nodup := by
        rw [List.map_append, List.map_singleton, named, List.append_assoc]
        exact fresh
      obtain ⟨others, final, block', uids', perm, result⟩ := ih
        (PlanQueue.uids_nodup_of_perm whole distinct) placed
        (fun other member => (same other).mpr (pending other (List.mem_cons_of_mem _ member))) grown
      refine ⟨item :: others, final, ?_, by rw [List.map_cons, named, uids'], perm.trans whole, ?_⟩
      · rw [named] at block'
        simp only [moveBlock, moved, block']
        rfl
      · rw [result, without_cons, without_cons]
        simp

/-! ## Where the block goes -/

/-- The end of the queue a destination asks for, or its reference, is where the block stands. -/
def Destination.Reached (queue : PlanQueue) (front back : List QueuedItem) : Destination → Prop
  | .pos place =>
      (resolvePos (some place) queue = 0 → front = []) ∧
        (queue.items.length ≤ resolvePos (some place) queue → back = [])
  | .before reference => (back.head?).map QueuedItem.itemUid = some reference
  | .after reference => (front.getLast?).map QueuedItem.itemUid = some reference

/-- Closing up the others leaves the block where it was asked for. -/
theorem Destination.Reached.without {destination : Destination} {front back : List QueuedItem}
    (reached : destination.Reached queue front back)
    (apart : ∀ reference ∈ destination.reference?, reference ∉ uids) :
    destination.Reached queue (without uids front) (without uids back) := by
  cases destination with
  | pos pos =>
      refine ⟨fun start => ?_, fun ending => ?_⟩
      · rw [reached.1 start]
        rfl
      · rw [reached.2 ending]
        rfl
  | before reference =>
      cases back with
      | nil => cases reached
      | cons other rest =>
          have named : other.itemUid = reference := Option.some.inj reached
          have stays : other.itemUid ∉ uids := named ▸ apart reference rfl
          rw [Reached, Qs.without, List.filter_cons_of_pos (by simpa using stays)]
          exact congrArg some named
  | after reference =>
      rcases List.eq_nil_or_concat front with rfl | ⟨rest, other, rfl⟩
      · cases reached
      · have named : other.itemUid = reference := by simpa [Reached] using reached
        have stays : other.itemUid ∉ uids := named ▸ apart reference rfl
        have last : Qs.without uids [other] = [other] :=
          without_of_apart fun entry member => by rwa [List.mem_singleton.mp member]
        rw [Reached, List.concat_eq_append, without_append, last, List.getLast?_append]
        exact congrArg some named

/-- The first item of a batch goes where the batch is asked to go. -/
theorem moveFirst_places (distinct : queue.uids.Nodup) {destination : Destination}
    (pending : uid ∈ queue.uids)
    (apart : ∀ reference ∈ destination.reference?, reference ≠ uid ∧ reference ∈ queue.uids) :
    ∃ item next front back, moveFirst queue uid destination = (next, some item) ∧
      item.itemUid = uid ∧ next.items.Perm queue.items ∧ next.items = front ++ item :: back ∧
      front ++ back = without [uid] queue.items ∧ destination.Reached queue front back := by
  obtain ⟨left, item, right, held⟩ := PlanQueue.held_of_mem distinct pending
  have others : without [uid] queue.items = left ++ right := by
    rw [← held.filter]
    exact List.filter_congr fun _ _ => by simp
  cases destination with
  | pos pos =>
      have inside : min (resolvePos (some pos) queue) (left ++ right).length ≤
          (left ++ right).length := Nat.min_le_right ..
      have whole := (List.take_append_drop (min (resolvePos (some pos) queue)
        (left ++ right).length) (left ++ right)).symm
      have moved := held.moveTo (resolvePos (some pos) queue)
      rw [insertIdx_eq_take_drop inside] at moved
      refine ⟨item, _, _, _, moved, held.named, held.perm whole, rfl, others ▸ whole.symm, ?_, ?_⟩
      · intro start
        rw [start, Nat.zero_min, List.take_zero]
      · intro ending
        rw [held.length] at ending
        exact List.drop_eq_nil_of_le (by omega)
  | before reference =>
      obtain ⟨differs, known⟩ := apart reference rfl
      obtain ⟨front, other, back, split, named, absent⟩ := held.exists_reference known differs
      have moved := held.moveByUid_known split named absent 0
      rw [Nat.add_zero, insertIdx_middle] at moved
      exact ⟨item, _, front, other :: back, moved, held.named, held.perm split, rfl,
        (others.trans split).symm, congrArg some named⟩
  | after reference =>
      obtain ⟨differs, known⟩ := apart reference rfl
      obtain ⟨front, other, back, split, named, absent⟩ := held.exists_reference known differs
      have moved := held.moveByUid_known split named absent 1
      rw [insertIdx_past] at moved
      have whole : left ++ right = (front ++ [other]) ++ back := by
        rw [split]
        simp
      refine ⟨item, _, front ++ [other], back, moved, held.named, ?_, by simp,
        (others.trans whole).symm, by simp [Destination.Reached, named]⟩
      simpa using held.perm whole

/-! ## Queue order -/

theorem indexOfUid_getElem (distinct : queue.uids.Nodup) {place : Nat}
    (inside : place < queue.uids.length) :
    queue.indexOfUid queue.uids[place] = some place := by
  have within : place < queue.items.length := by simpa [PlanQueue.uids] using inside
  refine List.findIdx?_eq_some_iff_getElem.mpr ⟨within, by simp [PlanQueue.uids], ?_⟩
  intro earlier before same
  have equal : queue.uids[earlier] = queue.uids[place] := by simpa [PlanQueue.uids] using same
  exact absurd ((List.Nodup.getElem_inj_iff distinct).mp equal) (Nat.ne_of_lt before)

theorem indexOfUid_inj {other : String} (known : uid ∈ queue.uids)
    (same : queue.indexOfUid uid = queue.indexOfUid other) : uid = other := by
  obtain ⟨place, found⟩ := PlanQueue.indexOfUid_of_mem known
  obtain ⟨_, named⟩ := PlanQueue.indexOfUid_uid found
  obtain ⟨_, again⟩ := PlanQueue.indexOfUid_uid (same.symm.trans found)
  exact named.symm.trans again

/-- With `reorder` the batch moves in queue order. -/
theorem moveOrder_reorder (distinct : queue.uids.Nodup) (once : uids.Nodup)
    (known : ∀ uid ∈ uids, uid ∈ queue.uids) :
    moveOrder queue uids true = queue.uids.filter fun uid => uid ∈ uids := by
  let indexed := fun uid => ((queue.indexOfUid uid).getD 0, uid)
  have members : (queue.uids.filter fun uid => uid ∈ uids).Perm uids := by
    refine (List.perm_ext_iff_of_nodup (distinct.filter _) once).mpr fun uid => ?_
    simp only [List.mem_filter, decide_eq_true_eq, and_iff_right_iff_imp]
    exact known uid
  have sorted : ((uids.map indexed).mergeSort fun left right => left.1 ≤ right.1).Pairwise
      fun left right => left.1 ≤ right.1 := by
    refine (List.pairwise_mergeSort ?_ ?_ (uids.map indexed)).imp of_decide_eq_true
    · intro first second third
      simpa using Nat.le_trans
    · intro first second
      simpa using Nat.le_total first.1 second.1
  have ordered : ((queue.uids.filter fun uid => uid ∈ uids).map indexed).Pairwise
      fun left right => left.1 ≤ right.1 := by
    refine List.pairwise_map.mpr (List.Pairwise.filter _ ?_)
    refine List.pairwise_iff_getElem.mpr fun earlier later inside within before => ?_
    simp only [indexed, indexOfUid_getElem distinct, Option.getD_some]
    exact Nat.le_of_lt before
  have same := List.Perm.eq_of_pairwise ?_ sorted ordered
    ((List.mergeSort_perm ..).trans (members.symm.map indexed))
  · rw [moveOrder, if_pos rfl, same, List.map_map]
    exact List.map_id _
  · intro left right member inside below above
    obtain ⟨uid, named, rfl⟩ := List.mem_map.mp (List.mem_mergeSort.mp member)
    obtain ⟨other, listed, rfl⟩ := List.mem_map.mp inside
    obtain ⟨place, found⟩ := PlanQueue.indexOfUid_of_mem (known uid named)
    obtain ⟨again, seen⟩ := PlanQueue.indexOfUid_of_mem (List.mem_filter.mp listed).1
    have same : place = again := by
      simp only [indexed, found, seen, Option.getD_some] at below above
      exact Nat.le_antisymm below above
    have equal := indexOfUid_inj (known uid named) (found.trans (same ▸ seen.symm))
    rw [equal]

end Bsrs.Qs
