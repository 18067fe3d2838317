import Bsrs.Qs.Edit

namespace Bsrs.Qs

open Bsrs.Core (Json)

namespace PlanQueue

variable {queue next : PlanQueue} {item moved : QueuedItem} {uid reference : String}

@[simp]
theorem setItems_items (items : List QueuedItem) : (queue.setItems items).items = items := rfl

theorem indexOfUid_lt (found : queue.indexOfUid uid = some position) :
    position < queue.items.length :=
  (List.findIdx?_eq_some_iff_getElem.mp found).1

/-- The item at the place a uid is found at has the uid. -/
theorem indexOfUid_uid (found : queue.indexOfUid uid = some position) :
    ∃ inside : position < queue.items.length, queue.items[position].itemUid = uid := by
  obtain ⟨inside, same, _⟩ := List.findIdx?_eq_some_iff_getElem.mp found
  exact ⟨inside, beq_iff_eq.mp same⟩

/-- A uid has a place exactly when it is pending. -/
theorem indexOfUid_eq_none : queue.indexOfUid uid = none ↔ uid ∉ queue.uids := by
  simp [indexOfUid, uids]

theorem indexOfUid_of_mem (pending : uid ∈ queue.uids) :
    ∃ position, queue.indexOfUid uid = some position := by
  apply Option.ne_none_iff_exists'.mp
  intro missing
  exact indexOfUid_eq_none.mp missing pending

theorem indexOfUid_of_empty (empty : queue.items = []) : queue.indexOfUid uid = none := by
  simp [indexOfUid, empty]

theorem uids_pushBack : (queue.pushBack item).uids = queue.uids ++ [item.itemUid] := by
  simp [pushBack, uids]

/-- An item is inserted once, wherever it goes. -/
theorem uids_insertIdx {items : List QueuedItem} {position : Nat} (item : QueuedItem)
    (inside : position ≤ items.length) :
    ((items.insertIdx position item).map QueuedItem.itemUid).Perm
      (item.itemUid :: items.map QueuedItem.itemUid) :=
  (List.perm_insertIdx item items inside).map _

theorem uids_insertAt (index : Nat) :
    (queue.insertAt index item).uids.Perm (item.itemUid :: queue.uids) :=
  uids_insertIdx item (Nat.min_le_right ..)

theorem uids_insertBeforeUid (inserted : queue.insertBeforeUid reference item = some next) :
    next.uids.Perm (item.itemUid :: queue.uids) := by
  obtain ⟨position, found, rfl⟩ := Option.map_eq_some_iff.mp inserted
  exact uids_insertIdx item (Nat.le_of_lt (indexOfUid_lt found))

theorem uids_insertAfterUid (inserted : queue.insertAfterUid reference item = some next) :
    next.uids.Perm (item.itemUid :: queue.uids) := by
  obtain ⟨position, found, rfl⟩ := Option.map_eq_some_iff.mp inserted
  exact uids_insertIdx item (indexOfUid_lt found)

/-- An update keeps every uid in its place. -/
theorem uids_update (updated : queue.update uid item = some (moved, next)) :
    next.uids = queue.uids := by
  simp only [update, Option.map_eq_some_iff, Prod.mk.injEq] at updated
  obtain ⟨position, found, _, rfl⟩ := updated
  rw [uids, setItems_items, List.map_set, uids]
  obtain ⟨_, same⟩ := indexOfUid_uid found
  apply List.ext_getElem (by simp)
  intro place _ inside
  rw [List.getElem_set]
  split
  · next here =>
      subst here
      simp [same]
  · rfl

/-- The place of an item set anew: the old item goes, the new one comes. -/
theorem uids_set {items : List QueuedItem} {position : Nat} (item : QueuedItem)
    (inside : position < items.length) :
    (items[position].itemUid :: (items.set position item).map QueuedItem.itemUid).Perm
      (item.itemUid :: items.map QueuedItem.itemUid) := by
  have before := (List.getElem_cons_eraseIdx_perm inside).map QueuedItem.itemUid
  have within : position < (items.set position item).length := by simpa using inside
  have after := (List.getElem_cons_eraseIdx_perm within).map QueuedItem.itemUid
  simp only [List.getElem_set_self, List.eraseIdx_set_eq, List.map_cons] at before after
  exact (after.symm.cons _).trans ((List.Perm.swap ..).trans (before.cons _))

theorem uids_replaceAtUid (replaced : queue.replaceAtUid uid item = some (moved, next)) :
    (uid :: next.uids).Perm (item.itemUid :: queue.uids) := by
  simp only [replaceAtUid, Option.map_eq_some_iff, Prod.mk.injEq] at replaced
  obtain ⟨position, found, _, rfl⟩ := replaced
  obtain ⟨inside, same⟩ := indexOfUid_uid found
  have set := uids_set item inside
  rwa [same] at set

theorem removeByUid_uid (removed : queue.removeByUid uid = some (item, next)) :
    item.itemUid = uid := by
  simp only [removeByUid, Option.bind_eq_some_iff, Option.map_eq_some_iff, Prod.mk.injEq] at removed
  obtain ⟨position, found, held, present, rfl, _⟩ := removed
  obtain ⟨_, rfl⟩ := List.getElem?_eq_some_iff.mp present
  exact (indexOfUid_uid found).2

theorem uids_removeByUid (removed : queue.removeByUid uid = some (item, next)) :
    (item.itemUid :: next.uids).Perm queue.uids := by
  simp only [removeByUid, Option.bind_eq_some_iff, Option.map_eq_some_iff, Prod.mk.injEq] at removed
  obtain ⟨position, found, held, present, rfl, rfl⟩ := removed
  obtain ⟨inside, rfl⟩ := List.getElem?_eq_some_iff.mp present
  exact (List.getElem_cons_eraseIdx_perm inside).map QueuedItem.itemUid

/-- A move of an item that is not pending does nothing. -/
theorem moveByUid_of_missing (missing : uid ∉ queue.uids) (offset : Nat) :
    queue.moveByUid offset uid reference = (queue, none) := by
  rw [moveByUid, indexOfUid_eq_none.mpr missing]

/-- A move next to another pending item keeps every item. -/
theorem moveByUid_of_pending (pending : uid ∈ queue.uids) (known : reference ∈ queue.uids)
    (differs : reference ≠ uid) {offset : Nat} (near : offset ≤ 1) :
    ∃ next moved, queue.moveByUid offset uid reference = (next, some moved) ∧
      next.uids.Perm queue.uids := by
  obtain ⟨position, found⟩ := indexOfUid_of_mem pending
  obtain ⟨inside, same⟩ := indexOfUid_uid found
  have whole := (List.getElem_cons_eraseIdx_perm inside).map QueuedItem.itemUid
  rw [List.map_cons, same] at whole
  have remains : reference ∈ (queue.items.eraseIdx position).map QueuedItem.itemUid := by
    rcases List.mem_cons.mp (whole.mem_iff.mpr known) with same | there
    · exact absurd same differs
    · exact there
  obtain ⟨place, seen⟩ : ∃ place, (queue.items.eraseIdx position).findIdx?
      (fun other => other.itemUid == reference) = some place := by
    apply Option.ne_none_iff_exists'.mp
    intro missing
    obtain ⟨other, held, same⟩ := List.mem_map.mp remains
    have different := List.findIdx?_eq_none_iff.mp missing other held
    simp [same] at different
  have reach := (List.findIdx?_eq_some_iff_getElem.mp seen).1
  have within : place + offset ≤ (queue.items.eraseIdx position).length := by omega
  refine ⟨queue.setItems ((queue.items.eraseIdx position).insertIdx (place + offset)
    queue.items[position]), queue.items[position], ?_, ?_⟩
  · simp only [moveByUid, found, List.getElem?_eq_getElem inside, seen]
  · refine (uids_insertIdx _ within).trans (List.Perm.trans ?_ whole)
    rw [same]

/-- A move loses its item only where the reference is not another pending item. -/
theorem moveByUid_uids
    (kept : (!queue.uids.contains uid || (queue.uids.contains reference && reference != uid)) = true)
    {offset : Nat} (near : offset ≤ 1) :
    (queue.moveByUid offset uid reference).1.uids.Perm queue.uids := by
  simp only [Bool.or_eq_true, Bool.not_eq_true', Bool.and_eq_true, bne_iff_ne, ne_eq,
    List.contains_eq_mem, decide_eq_true_eq, decide_eq_false_iff_not] at kept
  rcases kept with missing | ⟨known, differs⟩
  · rw [moveByUid_of_missing missing]
  · by_cases pending : uid ∈ queue.uids
    · obtain ⟨next, item, moved, whole⟩ := moveByUid_of_pending pending known differs near
      rw [moved]
      exact whole
    · rw [moveByUid_of_missing pending]

/-- A move to a place of the queue keeps every item. -/
theorem uids_moveTo (queue : PlanQueue) (uid : String) (destination : Nat) :
    (queue.moveTo uid destination).1.uids.Perm queue.uids := by
  unfold moveTo
  split
  · exact .refl _
  · next position found =>
      rw [List.getElem?_eq_getElem (indexOfUid_lt found)]
      refine (uids_insertIdx _ (Nat.min_le_right ..)).trans ?_
      exact (List.getElem_cons_eraseIdx_perm (indexOfUid_lt found)).map QueuedItem.itemUid

theorem moveTo_of_pending (pending : uid ∈ queue.uids) (destination : Nat) :
    ∃ next moved, queue.moveTo uid destination = (next, some moved) := by
  obtain ⟨position, found⟩ := indexOfUid_of_mem pending
  simp only [moveTo, found, List.getElem?_eq_getElem (indexOfUid_lt found)]
  exact ⟨_, _, rfl⟩

theorem removeByUid_history (removed : queue.removeByUid uid = some (item, next)) :
    next.history = queue.history := by
  simp only [removeByUid, Option.bind_eq_some_iff, Option.map_eq_some_iff, Prod.mk.injEq] at removed
  obtain ⟨position, found, held, present, rfl, rfl⟩ := removed
  rfl

theorem moveTo_history (queue : PlanQueue) (uid : String) (destination : Nat) :
    (queue.moveTo uid destination).1.history = queue.history := by
  unfold moveTo
  repeat' split
  all_goals rfl

theorem moveByUid_history (queue : PlanQueue) (offset : Nat) (uid reference : String) :
    (queue.moveByUid offset uid reference).1.history = queue.history := by
  simp only [moveByUid]
  repeat' split
  all_goals rfl

end PlanQueue

section

variable {queue next : PlanQueue} {item : QueuedItem} {uid previous : String}

theorem insertPositioned_uids {pos : Option Json} {beforeUid afterUid : Option String}
    (inserted : insertPositioned queue item pos beforeUid afterUid = .ok next) :
    next.uids.Perm (item.itemUid :: queue.uids) := by
  have back : (queue.pushBack item).uids.Perm (item.itemUid :: queue.uids) := by
    rw [PlanQueue.uids_pushBack]
    exact List.perm_append_comm
  unfold insertPositioned at inserted
  split at inserted
  · split at inserted <;> cases inserted
    exact PlanQueue.uids_insertBeforeUid ‹_›
  · split at inserted <;> cases inserted
    exact PlanQueue.uids_insertAfterUid ‹_›
  · split at inserted
    · cases inserted
      exact back
    · repeat' split at inserted
      all_goals cases inserted
      · exact back
      · exact PlanQueue.uids_insertAt _
    · split at inserted
      · cases inserted
      · simp only at inserted
        repeat' split at inserted
        all_goals cases inserted
        all_goals first | exact back | exact PlanQueue.uids_insertAt _
    · cases inserted

theorem insertPositioned_history {pos : Option Json} {beforeUid afterUid : Option String}
    (inserted : insertPositioned queue item pos beforeUid afterUid = .ok next) :
    next.history = queue.history := by
  unfold insertPositioned at inserted
  split at inserted
  · split at inserted <;> cases inserted
    next position found =>
    obtain ⟨_, _, rfl⟩ := Option.map_eq_some_iff.mp found
    rfl
  · split at inserted <;> cases inserted
    next position found =>
    obtain ⟨_, _, rfl⟩ := Option.map_eq_some_iff.mp found
    rfl
  · split at inserted
    · cases inserted
      rfl
    · repeat' split at inserted
      all_goals cases inserted
      all_goals rfl
    · split at inserted
      · cases inserted
      · simp only at inserted
        repeat' split at inserted
        all_goals cases inserted
        all_goals rfl
    · cases inserted

theorem insertBlock_history (items : List QueuedItem) :
    (insertBlock queue previous items).1.history = queue.history := by
  induction items generalizing queue previous with
  | nil => rfl
  | cons item rest ih =>
      simp only [insertBlock]
      split
      · next inserted => exact ih.trans (insertPositioned_history inserted)
      · rfl

theorem insertBatch_history (queue : PlanQueue) (items : List QueuedItem) (pos : Option Json)
    (beforeUid afterUid : Option String) :
    (insertBatch queue items pos beforeUid afterUid).1.history = queue.history := by
  cases items with
  | nil => rfl
  | cons item rest =>
      simp only [insertBatch]
      split
      · next inserted => exact (insertBlock_history rest).trans (insertPositioned_history inserted)
      · rfl

theorem removeEach_history (queue : PlanQueue) (uids : List String) :
    (removeEach queue uids).1.history = queue.history := by
  induction uids generalizing queue with
  | nil => rfl
  | cons uid rest ih =>
      simp only [removeEach]
      split
      · next removed => exact (ih _).trans (PlanQueue.removeByUid_history removed)
      · exact ih queue

theorem moveBlock_history (queue : PlanQueue) (uids : List String) :
    (moveBlock queue previous uids).1.history = queue.history := by
  induction uids generalizing queue previous with
  | nil => rfl
  | cons uid rest ih =>
      have kept := queue.moveByUid_history 1 uid previous
      simp only [moveBlock, PlanQueue.moveAfterUid]
      split
      · next moved item first =>
          rw [first] at kept
          exact (ih moved).trans kept
      · next moved first =>
          rw [first] at kept
          exact kept

theorem moveBatch_history (queue : PlanQueue) (uids : List String) (destination : Destination) :
    (moveBatch queue uids destination).1.history = queue.history := by
  cases uids with
  | nil => rfl
  | cons uid rest =>
      have kept : (moveFirst queue uid destination).1.history = queue.history := by
        cases destination with
        | pos => exact PlanQueue.moveTo_history ..
        | before | after => exact PlanQueue.moveByUid_history ..
      simp only [moveBatch]
      split
      · next moved item first =>
          rw [first] at kept
          exact (moveBlock_history moved rest).trans kept
      · next moved first =>
          rw [first] at kept
          exact kept

/-- Past an item that is pending, a block goes in whole. -/
theorem insertBlock_uids (items : List QueuedItem) (pending : previous ∈ queue.uids) :
    ∃ next, insertBlock queue previous items = (next, none) ∧
      next.uids.Perm (items.map QueuedItem.itemUid ++ queue.uids) := by
  induction items generalizing queue previous with
  | nil => exact ⟨queue, rfl, .refl _⟩
  | cons item rest ih =>
      obtain ⟨position, found⟩ := PlanQueue.indexOfUid_of_mem pending
      obtain ⟨grown, inserted⟩ : ∃ grown, queue.insertAfterUid previous item = some grown :=
        ⟨_, by rw [PlanQueue.insertAfterUid, found, Option.map_some]⟩
      have once := PlanQueue.uids_insertAfterUid inserted
      obtain ⟨next, block, whole⟩ := ih (once.mem_iff.mpr (List.mem_cons_self ..))
      refine ⟨next, ?_, whole.trans ((once.append_left _).trans List.perm_middle)⟩
      simp only [insertBlock, insertPositioned, inserted, block]

/-- A batch goes in whole, or not at all. -/
theorem insertBatch_uids (queue : PlanQueue) (items : List QueuedItem) (pos : Option Json)
    (beforeUid afterUid : Option String) :
    (∃ next, insertBatch queue items pos beforeUid afterUid = (next, none) ∧
        next.uids.Perm (items.map QueuedItem.itemUid ++ queue.uids)) ∨
      ∃ msg, insertBatch queue items pos beforeUid afterUid = (queue, some msg) := by
  cases items with
  | nil => exact Or.inl ⟨queue, rfl, .refl _⟩
  | cons item rest =>
      cases inserted : insertPositioned queue item pos beforeUid afterUid with
      | error msg => exact Or.inr ⟨msg, by simp only [insertBatch, inserted]⟩
      | ok grown =>
          have once := insertPositioned_uids inserted
          obtain ⟨next, block, whole⟩ := insertBlock_uids rest
            (once.mem_iff.mpr (List.mem_cons_self ..))
          refine Or.inl ⟨next, by simp only [insertBatch, inserted, block], ?_⟩
          exact whole.trans ((once.append_left _).trans List.perm_middle)

theorem removeEach_uids (queue : PlanQueue) (uids : List String) :
    ((removeEach queue uids).2.map QueuedItem.itemUid ++ (removeEach queue uids).1.uids).Perm
      queue.uids := by
  induction uids generalizing queue with
  | nil => exact .refl _
  | cons uid rest ih =>
      simp only [removeEach]
      split
      · next item remaining removed =>
          exact ((ih remaining).cons _).trans (PlanQueue.uids_removeByUid removed)
      · exact ih queue

/-- The later items of a moved block, each past another pending item, are all kept. -/
theorem moveBlock_uids {uids : List String} (pending : ∀ uid ∈ previous :: uids, uid ∈ queue.uids)
    (distinct : (previous :: uids).Nodup) :
    ∃ next items, moveBlock queue previous uids = (next, .ok items) ∧ next.uids.Perm queue.uids := by
  induction uids generalizing queue previous with
  | nil => exact ⟨queue, [], rfl, .refl _⟩
  | cons uid rest ih =>
      obtain ⟨fresh, others⟩ := List.nodup_cons.mp distinct
      have differs : previous ≠ uid := fun same => fresh (same ▸ List.mem_cons_self ..)
      obtain ⟨moved, item, once, kept⟩ := PlanQueue.moveByUid_of_pending 
        (pending uid (by simp)) (pending previous (by simp)) differs (Nat.le_refl 1)
      obtain ⟨next, items, block, whole⟩ := ih
        (fun other member => kept.mem_iff.mpr (pending other (List.mem_cons_of_mem _ member))) others
      refine ⟨next, item :: items, ?_, whole.trans kept⟩
      simp only [moveBlock, PlanQueue.moveAfterUid, once, block]
      rfl

theorem duplicate?_eq_none {seen uids : List String} (distinct : duplicate? seen uids = none) :
    uids.Nodup ∧ ∀ uid ∈ uids, uid ∉ seen := by
  induction uids generalizing seen with
  | nil => exact ⟨List.nodup_nil, by simp⟩
  | cons uid rest ih =>
      simp only [duplicate?] at distinct
      split at distinct
      · cases distinct
      · next fresh =>
          obtain ⟨once, apart⟩ := ih distinct
          refine ⟨List.nodup_cons.mpr ⟨fun again => apart uid again (by simp), once⟩, ?_⟩
          intro other member
          rcases List.mem_cons.mp member with rfl | later
          · exact fresh
          · exact fun known => apart other later (List.mem_cons_of_mem _ known)

theorem getByUid_isNone : (queue.getByUid uid).isNone = true ↔ uid ∉ queue.uids := by
  simp [PlanQueue.getByUid, PlanQueue.uids]

theorem moveOrder_perm (queue : PlanQueue) (uids : List String) (reorder : Bool) :
    (moveOrder queue uids reorder).Perm uids := by
  unfold moveOrder
  split
  · refine ((List.mergeSort_perm ..).map Prod.snd).trans ?_
    rw [List.map_map]
    exact .of_eq (List.map_id uids)
  · exact .refl _

/-- The item a batch is moved next to, if it is moved next to one. -/
def Destination.reference? : Destination → Option String
  | .pos _ => none
  | .before uid | .after uid => some uid

/-- What the checks of a batch leave: distinct pending uids, and a pending reference outside. -/
theorem moveBatchError_eq_none {uids : List String} {destination : Destination}
    (valid : moveBatchError queue uids destination = none) :
    uids.Nodup ∧ (∀ uid ∈ uids, uid ∈ queue.uids) ∧
      ∀ reference ∈ destination.reference?, reference ∉ uids ∧ reference ∈ queue.uids := by
  unfold moveBatchError at valid
  split at valid
  · cases valid
  · next distinct =>
      split at valid
      · next known =>
          refine ⟨(duplicate?_eq_none distinct).1, ?_, ?_⟩
          · intro uid member
            by_contra missing
            exact List.filter_eq_nil_iff.mp known uid member (getByUid_isNone.mpr missing)
          · intro reference named
            have outside : reference ∉ uids ∧ ¬(queue.getByUid reference).isNone = true := by
              cases destination with
              | pos => cases named
              | before | after =>
                  cases named
                  by_cases inside : reference ∈ uids
                  · simp [inside] at valid
                  · exact ⟨inside, by simpa [inside] using valid⟩
            refine ⟨outside.1, ?_⟩
            by_contra missing
            exact outside.2 (getByUid_isNone.mpr missing)
      · cases valid

theorem moveFirst_uids {destination : Destination} (pending : uid ∈ queue.uids)
    (apart : ∀ reference ∈ destination.reference?, reference ≠ uid ∧ reference ∈ queue.uids) :
    ∃ moved item, moveFirst queue uid destination = (moved, some item) ∧
      moved.uids.Perm queue.uids := by
  cases destination with
  | pos pos =>
      obtain ⟨moved, item, placed⟩ :=
        PlanQueue.moveTo_of_pending pending (resolvePos (some pos) queue)
      have kept := PlanQueue.uids_moveTo queue uid (resolvePos (some pos) queue)
      rw [placed] at kept
      exact ⟨moved, item, placed, kept⟩
  | before reference =>
      obtain ⟨differs, known⟩ := apart reference rfl
      exact PlanQueue.moveByUid_of_pending pending known differs (Nat.zero_le 1)
  | after reference =>
      obtain ⟨differs, known⟩ := apart reference rfl
      exact PlanQueue.moveByUid_of_pending pending known differs (Nat.le_refl 1)

/-- A batch that passed its checks is moved whole and keeps every item. -/
theorem moveBatch_uids {uids : List String} {destination : Destination} (reorder : Bool)
    (valid : moveBatchError queue uids destination = none) :
    ∃ next items, moveBatch queue (moveOrder queue uids reorder) destination = (next, .ok items) ∧
      next.uids.Perm queue.uids := by
  obtain ⟨distinct, known, apart⟩ := moveBatchError_eq_none valid
  have order := moveOrder_perm queue uids reorder
  cases ordered : moveOrder queue uids reorder with
  | nil => exact ⟨queue, [], rfl, .refl _⟩
  | cons uid rest =>
      rw [ordered] at order
      have present : ∀ other ∈ uid :: rest, other ∈ queue.uids :=
        fun other member => known other (order.mem_iff.mp member)
      have beside : ∀ reference ∈ destination.reference?,
          reference ≠ uid ∧ reference ∈ queue.uids := by
        intro reference named
        refine ⟨?_, (apart reference named).2⟩
        rintro rfl
        exact (apart reference named).1 (order.mem_iff.mp (List.mem_cons_self ..))
      obtain ⟨moved, item, first, kept⟩ :=
        moveFirst_uids (present uid (List.mem_cons_self ..)) beside
      obtain ⟨next, items, block, whole⟩ := moveBlock_uids
        (fun other member => kept.mem_iff.mpr (present other member)) (order.nodup_iff.mpr distinct)
      refine ⟨next, item :: items, ?_, whole.trans kept⟩
      simp only [moveBatch, first, block]
      rfl

end

namespace QueueEdit

/-- The uids a request brings to the queue. -/
def offered : QueueEdit → List String
  | .add item _ _ _ => [item.itemUid]
  | .addBatch items _ _ _ => items.map QueuedItem.itemUid
  | .update _ item true => [item.itemUid]
  | _ => []

/-- The uids a request asks off the queue, as far as they are there. -/
def withdrawn (queue : PlanQueue) : QueueEdit → List String
  | .update uid _ true => [uid]
  | .remove uid => [uid]
  | .removeBatch uids => (removeEach queue uids).2.map QueuedItem.itemUid
  | .clear => queue.uids
  | _ => []

/-- The uids the reply confirms as accepted. -/
def accepted (queue : PlanQueue) (edit : QueueEdit) : List String :=
  if (edit.run queue).2.success then edit.offered else []

/-- The uids the reply confirms as removed. -/
def removed (queue : PlanQueue) (edit : QueueEdit) : List String :=
  if (edit.run queue).2.success then edit.withdrawn queue else []

/-- A move by reference that does not lose its item: the reference is another pending item, or
there is nothing to move. -/
def keeps (queue : PlanQueue) : QueueEdit → Bool
  | .moveBefore uid reference | .moveAfter uid reference =>
      !queue.uids.contains uid || (queue.uids.contains reference && reference != uid)
  | _ => true

def clearsHistory : QueueEdit → Bool
  | .clearHistory => true
  | _ => false

variable {queue : PlanQueue} {edit : QueueEdit}

/-- An add that is refused leaves the queue as it was. -/
theorem run_of_refused (adds : edit.adds = true) (refused : (edit.run queue).2.success = false) :
    (edit.run queue).1 = queue := by
  cases edit with
  | add item pos beforeUid afterUid =>
      cases inserted : insertPositioned queue item pos beforeUid afterUid with
      | ok grown => simp [run, inserted, Reply.ok] at refused
      | error msg => simp only [run, inserted]
  | addBatch items pos beforeUid afterUid =>
      rcases insertBatch_uids queue items pos beforeUid afterUid with
        ⟨grown, inserted, _⟩ | ⟨msg, inserted⟩
      · simp [run, inserted, Reply.ok] at refused
      · simp only [run, inserted]
  | _ => cases adds

/-- An edit that adds nothing leaves an empty queue empty. -/
theorem run_of_empty (adds : edit.adds = false) (empty : queue.items = []) :
    (edit.run queue).1.items = [] := by
  have nowhere : ∀ uid, queue.indexOfUid uid = none := fun uid =>
    PlanQueue.indexOfUid_of_empty empty
  have unremoved : ∀ uids, (removeEach queue uids).1 = queue := by
    intro uids
    induction uids with
    | nil => rfl
    | cons uid rest ih => simpa [removeEach, PlanQueue.removeByUid, nowhere] using ih
  cases edit with
  | add | addBatch => cases adds
  | update uid item replace =>
      cases replace <;> simp [run, PlanQueue.replaceAtUid, PlanQueue.update, nowhere, empty]
  | remove uid => simp [run, PlanQueue.removeByUid, nowhere, empty]
  | removeBatch uids => simp [run, unremoved, empty]
  | moveBefore uid reference | moveAfter uid reference =>
      simp [run, PlanQueue.moveBeforeUid, PlanQueue.moveAfterUid, PlanQueue.moveByUid, moveReply,
        nowhere, empty]
  | moveTo uid destination => simp [run, PlanQueue.moveTo, moveReply, nowhere, empty]
  | moveBatch uids destination reorder =>
      cases checked : moveBatchError queue uids destination with
      | some msg => simp only [run, checked, empty]
      | none =>
          obtain ⟨next, items, moved, kept⟩ := moveBatch_uids reorder checked
          simp only [run, checked, moved]
          have none := kept.length_eq
          simpa [PlanQueue.uids, empty] using none
  | clear => simp [run, PlanQueue.clear, empty]
  | clearHistory =>
      simp only [run, PlanQueue.clearHistory]
      split <;> exact empty

theorem moveReply_fst (uid unknown : String) (result : PlanQueue × Option QueuedItem) :
    (moveReply uid unknown result).1 = result.1 := by
  rcases result with ⟨moved, _ | item⟩ <;> rfl

/-- An edit that neither brings nor takes items is held to keep them. -/
theorem run_uids_of_unmoved (none : edit.offered = []) (nothing : edit.withdrawn queue = [])
    (kept : (edit.run queue).1.uids.Perm queue.uids) :
    (edit.removed queue ++ (edit.run queue).1.uids).Perm (edit.accepted queue ++ queue.uids) := by
  simpa only [accepted, removed, none, nothing, ite_self, List.nil_append] using kept

/-- What an edit does to the pending uids: those removed and those left are those accepted and
those there before. -/
theorem run_uids (keeps : edit.keeps queue = true) :
    (edit.removed queue ++ (edit.run queue).1.uids).Perm (edit.accepted queue ++ queue.uids) := by
  cases edit with
  | add item pos beforeUid afterUid =>
      cases inserted : insertPositioned queue item pos beforeUid afterUid with
      | ok grown =>
          simpa [run, accepted, removed, offered, withdrawn, inserted, Reply.ok] using
            insertPositioned_uids inserted
      | error msg => simp [run, accepted, removed, inserted, Reply.err]
  | addBatch items pos beforeUid afterUid =>
      rcases insertBatch_uids queue items pos beforeUid afterUid with
        ⟨grown, inserted, whole⟩ | ⟨msg, inserted⟩
      · simpa [run, accepted, removed, offered, withdrawn, inserted, Reply.ok] using whole
      · simp [run, accepted, removed, inserted, Reply.err]
  | update uid item replace =>
      cases replace with
      | true =>
          cases replaced : queue.replaceAtUid uid item with
          | some result =>
              obtain ⟨moved, next⟩ := result
              simpa [run, accepted, removed, offered, withdrawn, replaced, Reply.ok] using
                PlanQueue.uids_replaceAtUid replaced
          | none => simp [run, accepted, removed, replaced, Reply.err]
      | false =>
          cases updated : queue.update uid item with
          | some result =>
              obtain ⟨moved, next⟩ := result
              simp [run, accepted, removed, offered, withdrawn, updated, Reply.ok,
                PlanQueue.uids_update updated]
          | none => simp [run, accepted, removed, updated, Reply.err]
  | remove uid =>
      cases taken : queue.removeByUid uid with
      | some result =>
          obtain ⟨item, next⟩ := result
          have whole := PlanQueue.uids_removeByUid taken
          rw [PlanQueue.removeByUid_uid taken] at whole
          simpa [run, accepted, removed, offered, withdrawn, taken, Reply.ok] using whole
      | none => simp [run, accepted, removed, taken, Reply.err]
  | removeBatch uids =>
      simpa [run, accepted, removed, offered, withdrawn, Reply.ok] using removeEach_uids queue uids
  | moveBefore uid reference | moveAfter uid reference =>
      apply run_uids_of_unmoved rfl rfl
      rw [run, moveReply_fst]
      exact PlanQueue.moveByUid_uids keeps (by omega)
  | moveTo uid destination =>
      apply run_uids_of_unmoved rfl rfl
      rw [run, moveReply_fst]
      exact PlanQueue.uids_moveTo queue uid destination
  | moveBatch uids destination reorder =>
      cases checked : moveBatchError queue uids destination with
      | some msg => simp [run, accepted, removed, checked, Reply.err]
      | none =>
          obtain ⟨next, items, moved, kept⟩ := moveBatch_uids reorder checked
          simpa [run, accepted, removed, offered, withdrawn, checked, moved, Reply.ok] using kept
  | clear =>
      simp only [run, accepted, removed, offered, withdrawn, Reply.ok, if_true, PlanQueue.clear]
      split
      · next empty => simp [PlanQueue.uids, List.isEmpty_iff.mp empty]
      · simp [PlanQueue.uids]
  | clearHistory =>
      apply run_uids_of_unmoved rfl rfl
      simp only [run, PlanQueue.clearHistory]
      split <;> exact .refl _

/-- Only clearing it changes the history. -/
theorem run_history (edit : QueueEdit) (queue : PlanQueue) :
    (edit.run queue).1.history = if edit.clearsHistory then [] else queue.history := by
  cases edit with
  | add item pos beforeUid afterUid =>
      simp only [run, clearsHistory]
      split
      · exact insertPositioned_history ‹_›
      · rfl
  | addBatch items pos beforeUid afterUid =>
      have kept := insertBatch_history queue items pos beforeUid afterUid
      simp only [run, clearsHistory]
      split <;> simp_all
  | update uid item replace =>
      cases replace <;>
        simp only [run, clearsHistory, PlanQueue.replaceAtUid, PlanQueue.update, if_true,
          Bool.false_eq_true, if_false] <;>
        cases queue.indexOfUid uid <;> rfl
  | remove uid =>
      cases removed : queue.removeByUid uid with
      | none => simp only [run, clearsHistory, removed, Bool.false_eq_true, if_false]
      | some result =>
          obtain ⟨item, next⟩ := result
          simpa [run, clearsHistory, removed] using PlanQueue.removeByUid_history removed
  | removeBatch uids => exact removeEach_history queue uids
  | moveBefore uid reference | moveAfter uid reference =>
      simp only [run, clearsHistory, moveReply_fst]
      exact PlanQueue.moveByUid_history ..
  | moveTo uid destination =>
      simp only [run, clearsHistory, moveReply_fst]
      exact PlanQueue.moveTo_history ..
  | moveBatch uids destination reorder =>
      have kept := moveBatch_history queue (moveOrder queue uids reorder) destination
      simp only [run, clearsHistory]
      split
      · rfl
      · split <;> simp_all
  | clear =>
      simp only [run, clearsHistory, PlanQueue.clear]
      split <;> rfl
  | clearHistory =>
      simp only [run, clearsHistory, PlanQueue.clearHistory]
      split
      · next empty => simpa using empty
      · rfl

end QueueEdit

/-- An update of an item that is not pending changes nothing. -/
theorem run_update_missing {queue : PlanQueue} {uid : String} (missing : uid ∉ queue.uids)
    (item : QueuedItem) (replace : Bool) :
    ((QueueEdit.update uid item replace).run queue).1 = queue := by
  have none := PlanQueue.indexOfUid_eq_none.mpr missing
  cases replace <;> simp [QueueEdit.run, PlanQueue.update, PlanQueue.replaceAtUid, none]

end Bsrs.Qs
