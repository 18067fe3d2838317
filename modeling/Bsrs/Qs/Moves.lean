import Bsrs.Library.Splice
import Bsrs.Qs.EditFacts

namespace Bsrs.Qs

open Bsrs.Library

/-! ## A queue taken apart around one item -/

/-- The one pending item of a uid, with what stands before and after it. -/
structure PlanQueue.Held (queue : PlanQueue) (uid : String) (left : List QueuedItem)
    (item : QueuedItem) (right : List QueuedItem) : Prop where
  items : queue.items = left ++ item :: right
  named : item.itemUid = uid
  others : ∀ other ∈ left ++ right, other.itemUid ≠ uid

namespace PlanQueue

variable {queue : PlanQueue} {uid reference : String} {left right : List QueuedItem}
  {item : QueuedItem}

theorem held_of_mem (distinct : queue.uids.Nodup) (pending : uid ∈ queue.uids) :
    ∃ left item right, queue.Held uid left item right := by
  obtain ⟨item, member, rfl⟩ := List.mem_map.mp pending
  obtain ⟨left, right, split⟩ := List.append_of_mem member
  refine ⟨left, item, right, split, rfl, ?_⟩
  rw [uids, split, List.map_append, List.map_cons, List.nodup_middle, List.nodup_cons] at distinct
  intro other there same
  apply distinct.1
  rw [← List.map_append, ← same]
  exact List.mem_map_of_mem there

theorem uids_nodup_of_perm {next : PlanQueue} (whole : next.items.Perm queue.items)
    (distinct : queue.uids.Nodup) : next.uids.Nodup :=
  (whole.map QueuedItem.itemUid).nodup_iff.mpr distinct

namespace Held

theorem indexOfUid (held : queue.Held uid left item right) :
    queue.indexOfUid uid = some left.length := by
  rw [PlanQueue.indexOfUid, held.items]
  refine findIdx?_middle ?_ (by simp [held.named])
  intro other member
  simpa using held.others other (List.mem_append_left _ member)

theorem length (held : queue.Held uid left item right) :
    queue.items.length = (left ++ right).length + 1 := by
  rw [held.items]
  simp [Nat.add_assoc]

/-- Without its item the queue is what stood before and after it. -/
theorem filter (held : queue.Held uid left item right) :
    queue.items.filter (fun other => other.itemUid ≠ uid) = left ++ right := by
  have apart : (left ++ right).filter (fun other => other.itemUid ≠ uid) = left ++ right :=
    List.filter_eq_self.mpr fun other member => by simpa using held.others other member
  rw [held.items, List.filter_append, List.filter_cons, held.named] at *
  simpa using apart

/-- The same item put in elsewhere. -/
theorem moved (held : queue.Held uid left item right) {front back : List QueuedItem}
    (whole : left ++ right = front ++ back) :
    (queue.setItems (front ++ item :: back)).Held uid front item back where
  items := rfl
  named := held.named
  others := whole ▸ held.others

theorem eq_of_items (held : queue.Held uid left item right) {front back : List QueuedItem}
    (again : queue.Held uid front item back) : front = left ∧ back = right := by
  have lengths := held.indexOfUid.symm.trans again.indexOfUid
  have same := held.items.symm.trans again.items
  obtain ⟨fronts, backs⟩ := List.append_inj same (Option.some.inj lengths)
  exact ⟨fronts.symm, (List.cons.inj backs).2.symm⟩

/-! ## Moves -/

theorem moveTo (held : queue.Held uid left item right) (destination : Nat) :
    queue.moveTo uid destination =
      (queue.setItems ((left ++ right).insertIdx (min destination (left ++ right).length) item),
        some item) := by
  rw [PlanQueue.moveTo, held.indexOfUid, held.items]
  simp only [getElem?_middle, eraseIdx_middle]

/-- The place of another pending item among the rest. -/
theorem exists_reference (held : queue.Held uid left item right) (known : reference ∈ queue.uids)
    (differs : reference ≠ uid) :
    ∃ front other back, left ++ right = front ++ other :: back ∧ other.itemUid = reference ∧
      ∀ entry ∈ front, entry.itemUid ≠ reference := by
  have there : ∃ entry ∈ left ++ right, (entry.itemUid == reference) = true := by
    obtain ⟨entry, member, rfl⟩ := List.mem_map.mp known
    rw [held.items] at member
    refine ⟨entry, ?_, beq_self_eq_true _⟩
    rcases List.mem_append.mp member with before | here
    · exact List.mem_append_left _ before
    · rcases List.mem_cons.mp here with rfl | behind
      · exact absurd held.named differs
      · exact List.mem_append_right _ behind
  obtain ⟨front, other, back, split, named, absent⟩ := exists_first there
  exact ⟨front, other, back, split, beq_iff_eq.mp named, fun entry member => by
    simpa using absent entry member⟩

theorem moveByUid_known (held : queue.Held uid left item right) {front back : List QueuedItem}
    {other : QueuedItem} (split : left ++ right = front ++ other :: back)
    (named : other.itemUid = reference) (absent : ∀ entry ∈ front, entry.itemUid ≠ reference)
    (offset : Nat) :
    queue.moveByUid offset uid reference =
      (queue.setItems ((front ++ other :: back).insertIdx (front.length + offset) item),
        some item) := by
  have place : (front ++ other :: back).findIdx? (fun entry => entry.itemUid == reference) =
      some front.length :=
    findIdx?_middle (fun entry member => by simpa using absent entry member) (by simp [named])
  rw [moveByUid, held.indexOfUid, held.items]
  simp only [getElem?_middle, eraseIdx_middle, split, place]

/-- Where the reference is no other pending item the item is out of the queue. -/
theorem moveByUid_unknown (held : queue.Held uid left item right)
    (missing : ∀ entry ∈ left ++ right, entry.itemUid ≠ reference) (offset : Nat) :
    queue.moveByUid offset uid reference = ({ queue with items := left ++ right }, none) := by
  have nowhere : (left ++ right).findIdx? (fun entry => entry.itemUid == reference) = none :=
    List.findIdx?_eq_none_iff.mpr fun entry member => by simpa using missing entry member
  rw [moveByUid, held.indexOfUid, held.items]
  simp only [getElem?_middle, eraseIdx_middle, nowhere]

/-- Put in anywhere, the item completes the queue again. -/
theorem perm (held : queue.Held uid left item right) {front back : List QueuedItem}
    (whole : left ++ right = front ++ back) : (front ++ item :: back).Perm queue.items := by
  rw [held.items]
  refine List.perm_middle.trans (List.Perm.trans ?_ List.perm_middle.symm)
  rw [whole]

/-- The rest of the queue stays put when the item does. -/
theorem items_eq_iff (held : queue.Held uid left item right) {front back : List QueuedItem}
    (whole : left ++ right = front ++ back) :
    front ++ item :: back = queue.items ↔ front.length = left.length := by
  constructor
  · intro same
    have again : queue.Held uid front item back := ⟨same.symm, held.named, whole ▸ held.others⟩
    rw [(held.eq_of_items again).1]
  · intro lengths
    obtain ⟨rfl, rfl⟩ := List.append_inj whole lengths.symm
    exact held.items.symm

/-- Where the reference of a move stands before it. -/
theorem indexOfUid_reference (held : queue.Held uid left item right) {front back : List QueuedItem}
    {other : QueuedItem} (split : left ++ right = front ++ other :: back)
    (named : other.itemUid = reference) (absent : ∀ entry ∈ front, entry.itemUid ≠ reference) :
    queue.indexOfUid reference =
      some (if front.length < left.length then front.length else front.length + 1) := by
  have apart : item.itemUid ≠ reference := by
    rw [held.named, ← named]
    exact (held.others other (by rw [split]; simp)).symm
  have found : ∀ {before after : List QueuedItem}, queue.items = before ++ other :: after →
      (∀ entry ∈ before, entry.itemUid ≠ reference) →
      queue.indexOfUid reference = some before.length := by
    intro before after items clear
    rw [PlanQueue.indexOfUid, items]
    exact findIdx?_middle (fun entry member => by simpa using clear entry member) (by simp [named])
  rcases List.append_eq_append_iff.mp split with ⟨mid, rfl, behind⟩ | ⟨mid, rfl, behind⟩
  · have items : queue.items = (left ++ item :: mid) ++ other :: back := by
      rw [held.items, behind]; simp
    rw [found items, if_neg (by simp)]
    · simp [Nat.add_assoc]
    · intro entry member
      rcases List.mem_append.mp member with before | here
      · exact absent entry (List.mem_append_left _ before)
      · rcases List.mem_cons.mp here with rfl | between
        · exact apart
        · exact absent entry (List.mem_append_right _ between)
  · cases mid with
    | nil =>
        have items : queue.items = (front ++ [item]) ++ other :: back := by
          rw [held.items, ← List.nil_append right, ← behind]; simp
        rw [found items, if_neg (by simp)]
        · simp
        · intro entry member
          rcases List.mem_append.mp member with before | here
          · exact absent entry before
          · rw [List.mem_singleton.mp here]
            exact apart
    | cons head mid =>
        obtain ⟨rfl, rfl⟩ := List.cons.inj behind
        have items : queue.items = front ++ other :: (mid ++ item :: right) := by
          rw [held.items]; simp
        rw [found items absent, if_pos (by simp)]

end Held

end PlanQueue

end Bsrs.Qs
