import Bsrs.Qs.EditFacts

namespace Bsrs.Qs

open Bsrs.Core (Json)

/-- The items an edit brings to the queue. -/
def QueueEdit.brings : QueueEdit → List QueuedItem
  | .add item _ _ _ => [item]
  | .addBatch items _ _ _ => items
  | .update uid item replace => [if replace then item else { item with itemUid := uid }]
  | _ => []

namespace PlanQueue

/-- What holds of every pending item. -/
def Holds (holds : QueuedItem → Prop) (queue : PlanQueue) : Prop :=
  ∀ item ∈ queue.items, holds item

variable {queue next : PlanQueue} {item moved : QueuedItem} {uid reference : String}
  {holds : QueuedItem → Prop} {items : List QueuedItem}

theorem holds_insertIdx (kept : ∀ item ∈ items, holds item) (fits : holds item) (position : Nat) :
    ∀ other ∈ items.insertIdx position item, holds other := by
  intro other member
  by_cases inside : position ≤ items.length
  · rcases (List.mem_insertIdx inside).mp member with rfl | before
    · exact fits
    · exact kept other before
  · rw [List.insertIdx_of_length_lt (Nat.lt_of_not_le inside)] at member
    exact kept other member

theorem holds_eraseIdx (kept : ∀ item ∈ items, holds item) (position : Nat) :
    ∀ other ∈ items.eraseIdx position, holds other :=
  fun other member => kept other (List.mem_of_mem_eraseIdx member)

theorem holds_set (kept : ∀ item ∈ items, holds item) (fits : holds item) (position : Nat) :
    ∀ other ∈ items.set position item, holds other := by
  intro other member
  rcases List.mem_or_eq_of_mem_set member with before | rfl
  · exact kept other before
  · exact fits

theorem Holds.pushBack (kept : queue.Holds holds) (fits : holds item) :
    (queue.pushBack item).Holds holds := by
  intro other member
  rcases List.mem_append.mp member with before | last
  · exact kept other before
  · exact List.mem_singleton.mp last ▸ fits

theorem Holds.insertAt (kept : queue.Holds holds) (fits : holds item) (index : Nat) :
    (queue.insertAt index item).Holds holds :=
  holds_insertIdx kept fits _

theorem Holds.removeByUid (kept : queue.Holds holds)
    (removed : queue.removeByUid uid = some (item, next)) : next.Holds holds := by
  simp only [PlanQueue.removeByUid, Option.bind_eq_some_iff, Option.map_eq_some_iff, Prod.mk.injEq]
    at removed
  obtain ⟨position, _, _, _, _, rfl⟩ := removed
  exact holds_eraseIdx kept position

theorem Holds.moveTo (kept : queue.Holds holds) (uid : String) (destination : Nat) :
    (queue.moveTo uid destination).1.Holds holds := by
  unfold PlanQueue.moveTo
  split
  · exact kept
  · split
    · exact kept
    · next item found =>
        exact holds_insertIdx (holds_eraseIdx kept _) (kept item (List.mem_of_getElem? found)) _

theorem Holds.moveByUid (kept : queue.Holds holds) (offset : Nat) (uid reference : String) :
    (queue.moveByUid offset uid reference).1.Holds holds := by
  unfold PlanQueue.moveByUid
  split
  · exact kept
  · split
    · exact kept
    · next item found =>
        dsimp only
        split
        · exact holds_eraseIdx kept _
        · exact holds_insertIdx (holds_eraseIdx kept _) (kept item (List.mem_of_getElem? found)) _

end PlanQueue

section

variable {queue next : PlanQueue} {item : QueuedItem} {previous : String}
  {holds : QueuedItem → Prop}

theorem insertPositioned_holds {pos : Option Json} {beforeUid afterUid : Option String}
    (kept : queue.Holds holds) (fits : holds item)
    (inserted : insertPositioned queue item pos beforeUid afterUid = .ok next) :
    next.Holds holds := by
  unfold insertPositioned at inserted
  split at inserted
  · split at inserted <;> cases inserted
    next found =>
    obtain ⟨position, _, rfl⟩ := Option.map_eq_some_iff.mp found
    exact PlanQueue.holds_insertIdx kept fits position
  · split at inserted <;> cases inserted
    next found =>
    obtain ⟨position, _, rfl⟩ := Option.map_eq_some_iff.mp found
    exact PlanQueue.holds_insertIdx kept fits _
  · split at inserted
    · cases inserted
      exact kept.pushBack fits
    · repeat' split at inserted
      all_goals cases inserted
      · exact kept.pushBack fits
      · exact kept.insertAt fits _
    · split at inserted
      · cases inserted
      · simp only at inserted
        repeat' split at inserted
        all_goals cases inserted
        all_goals first | exact kept.pushBack fits | exact kept.insertAt fits _
    · cases inserted

theorem insertBlock_holds {items : List QueuedItem} (kept : queue.Holds holds)
    (fit : ∀ item ∈ items, holds item) : (insertBlock queue previous items).1.Holds holds := by
  induction items generalizing queue previous with
  | nil => exact kept
  | cons item rest ih =>
      obtain ⟨fits, others⟩ := List.forall_mem_cons.mp fit
      simp only [insertBlock]
      split
      · next inserted => exact ih (insertPositioned_holds kept fits inserted) others
      · exact kept

theorem insertBatch_holds {items : List QueuedItem} (kept : queue.Holds holds)
    (fit : ∀ item ∈ items, holds item) (pos : Option Json) (beforeUid afterUid : Option String) :
    (insertBatch queue items pos beforeUid afterUid).1.Holds holds := by
  cases items with
  | nil => exact kept
  | cons item rest =>
      obtain ⟨fits, others⟩ := List.forall_mem_cons.mp fit
      simp only [insertBatch]
      split
      · next inserted =>
          exact insertBlock_holds (insertPositioned_holds kept fits inserted) others
      · exact kept

theorem removeEach_holds (kept : queue.Holds holds) (uids : List String) :
    (removeEach queue uids).1.Holds holds := by
  induction uids generalizing queue with
  | nil => exact kept
  | cons uid rest ih =>
      simp only [removeEach]
      split
      · next removed => exact ih (kept.removeByUid removed)
      · exact ih kept

theorem moveBlock_holds (kept : queue.Holds holds) (uids : List String) :
    (moveBlock queue previous uids).1.Holds holds := by
  induction uids generalizing queue previous with
  | nil => exact kept
  | cons uid rest ih =>
      have first := kept.moveByUid 1 uid previous
      simp only [moveBlock, PlanQueue.moveAfterUid]
      split
      · next moved item done =>
          rw [done] at first
          exact ih first
      · next moved done =>
          rw [done] at first
          exact first

theorem moveBatch_holds (kept : queue.Holds holds) (uids : List String)
    (destination : Destination) : (moveBatch queue uids destination).1.Holds holds := by
  cases uids with
  | nil => exact kept
  | cons uid rest =>
      have first : (moveFirst queue uid destination).1.Holds holds := by
        cases destination with
        | pos => exact kept.moveTo _ _
        | before | after => exact kept.moveByUid _ _ _
      simp only [moveBatch]
      split
      · next moved item done =>
          rw [done] at first
          exact moveBlock_holds first rest
      · next moved done =>
          rw [done] at first
          exact first

end

/-- An edit leaves pending what was pending and what it brings. -/
theorem QueueEdit.run_holds {queue : PlanQueue} {edit : QueueEdit} {holds : QueuedItem → Prop}
    (kept : queue.Holds holds) (fit : ∀ item ∈ edit.brings, holds item) :
    (edit.run queue).1.Holds holds := by
  cases edit with
  | add item pos beforeUid afterUid =>
      simp only [run]
      split
      · next inserted =>
          exact insertPositioned_holds kept (fit item (List.mem_singleton_self _)) inserted
      · exact kept
  | addBatch items pos beforeUid afterUid =>
      have whole : (insertBatch queue items pos beforeUid afterUid).1.Holds holds :=
        insertBatch_holds kept fit pos beforeUid afterUid
      simp only [run]
      split
      · next done =>
          rw [done] at whole
          exact whole
      · next done =>
          rw [done] at whole
          exact whole
  | update uid item replace =>
      have fits := fit _ (List.mem_singleton_self _)
      cases replace with
      | true =>
          cases found : queue.indexOfUid uid with
          | none =>
              simp only [run, PlanQueue.replaceAtUid, found, if_true, Option.map_none]
              exact kept
          | some position =>
              simp only [run, PlanQueue.replaceAtUid, found, if_true, Option.map_some]
              exact PlanQueue.holds_set kept fits position
      | false =>
          cases found : queue.indexOfUid uid with
          | none =>
              simp only [run, PlanQueue.update, found, Bool.false_eq_true, if_false,
                Option.map_none]
              exact kept
          | some position =>
              simp only [run, PlanQueue.update, found, Bool.false_eq_true, if_false,
                Option.map_some]
              exact PlanQueue.holds_set kept fits position
  | remove uid =>
      simp only [run]
      split
      · next removed => exact kept.removeByUid removed
      · exact kept
  | removeBatch uids => exact removeEach_holds kept uids
  | moveBefore uid reference | moveAfter uid reference =>
      rw [run, moveReply_fst]
      exact kept.moveByUid _ _ _
  | moveTo uid destination =>
      rw [run, moveReply_fst]
      exact kept.moveTo _ _
  | moveBatch uids destination reorder =>
      have whole := moveBatch_holds kept (moveOrder queue uids reorder) destination
      simp only [run]
      split
      · exact kept
      · split
        · next done =>
            rw [done] at whole
            exact whole
        · next done =>
            rw [done] at whole
            exact whole
  | clear =>
      simp only [run, PlanQueue.clear]
      split
      · exact kept
      · exact List.forall_mem_nil _
  | clearHistory =>
      simp only [run, PlanQueue.clearHistory]
      split <;> exact kept

end Bsrs.Qs
