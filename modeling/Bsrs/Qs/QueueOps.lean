import Bsrs.Qs.Moves

namespace Bsrs.Qs

open Bsrs.Library

/-- The operations of `PlanQueue` that can change it. -/
inductive QueueOp where
  | pushBack (item : QueuedItem)
  | pushFront (item : QueuedItem)
  | popFront
  | update (uid : String) (replacement : QueuedItem)
  | replaceAtUid (uid : String) (item : QueuedItem)
  | removeByUid (uid : String)
  | moveTo (uid : String) (destination : Nat)
  | moveBeforeUid (uid reference : String)
  | moveAfterUid (uid reference : String)
  | insertAt (index : Nat) (item : QueuedItem)
  | insertBeforeUid (reference : String) (item : QueuedItem)
  | insertAfterUid (reference : String) (item : QueuedItem)
  | clear
  | pushHistory (item : QueuedItem)
  | clearHistory

namespace QueueOp

/-- The queue an operation that may find nothing leaves, and whether it did something. -/
def settle (queue : PlanQueue) : Option (QueuedItem × PlanQueue) → PlanQueue × Bool
  | some (_, next) => (next, true)
  | none => (queue, false)

/-- The operation, and whether it returned an item or `true`; those that return nothing count as
done. -/
def run (queue : PlanQueue) : QueueOp → PlanQueue × Bool
  | .pushBack item => (queue.pushBack item, true)
  | .pushFront item => (queue.pushFront item, true)
  | .popFront => settle queue queue.popFront
  | .update uid replacement => settle queue (queue.update uid replacement)
  | .replaceAtUid uid item => settle queue (queue.replaceAtUid uid item)
  | .removeByUid uid => settle queue (queue.removeByUid uid)
  | .moveTo uid destination =>
      ((queue.moveTo uid destination).1, (queue.moveTo uid destination).2.isSome)
  | .moveBeforeUid uid reference =>
      ((queue.moveBeforeUid uid reference).1, (queue.moveBeforeUid uid reference).2.isSome)
  | .moveAfterUid uid reference =>
      ((queue.moveAfterUid uid reference).1, (queue.moveAfterUid uid reference).2.isSome)
  | .insertAt index item => (queue.insertAt index item, true)
  | .insertBeforeUid reference item =>
      ((queue.insertBeforeUid reference item).getD queue,
        (queue.insertBeforeUid reference item).isSome)
  | .insertAfterUid reference item =>
      ((queue.insertAfterUid reference item).getD queue,
        (queue.insertAfterUid reference item).isSome)
  | .clear => (queue.clear, true)
  | .pushHistory item => (queue.pushHistory item, true)
  | .clearHistory => (queue.clearHistory, true)

/-- The queue was permuted, and only the item `uid` changed its place among the others. -/
def OnlyMoved (uid : String) (queue next : PlanQueue) : Prop :=
  next.items.Perm queue.items ∧
    next.items.filter (fun other => other.itemUid ≠ uid) =
      queue.items.filter fun other => other.itemUid ≠ uid

/-- What a move that was done has to leave. -/
def Placed (queue next : PlanQueue) : QueueOp → Prop
  | .moveTo uid destination =>
      OnlyMoved uid queue next ∧
        next.indexOfUid uid = some (min destination (queue.items.length - 1))
  | .moveBeforeUid uid reference =>
      OnlyMoved uid queue next ∧
        ∃ place, next.indexOfUid uid = some place ∧ next.indexOfUid reference = some (place + 1)
  | .moveAfterUid uid reference =>
      OnlyMoved uid queue next ∧
        ∃ place, next.indexOfUid reference = some place ∧ next.indexOfUid uid = some (place + 1)
  | _ => True

/-- A move that was done is a move of one item to its place, an operation that found nothing left
the items alone, and the revision changed exactly when they did. -/
structure Preserves (queue : PlanQueue) (op : QueueOp) : Prop where
  placed : (op.run queue).2 = true → op.Placed queue (op.run queue).1
  refused : (op.run queue).2 = false → (op.run queue).1.items = queue.items
  revised : (op.run queue).1.queueRevision ≠ queue.queueRevision ↔
    (op.run queue).1.items ≠ queue.items

/-- The reference of a move is another pending item, and the moved one is not at its side yet. -/
def Beside (queue : PlanQueue) (uid reference : String) (side : Nat → Nat → Prop) : Prop :=
  ∀ place, queue.indexOfUid uid = some place →
    ∃ target, queue.indexOfUid reference = some target ∧ target ≠ place ∧ ¬side place target

/-- The operation has something to change, and a move relative to an item finds it. -/
def Effective (queue : PlanQueue) : QueueOp → Prop
  | .update uid replacement =>
      ∀ item ∈ queue.items, item.itemUid = uid → { replacement with itemUid := uid } ≠ item
  | .replaceAtUid uid replacement =>
      ∀ item ∈ queue.items, item.itemUid = uid → replacement ≠ item
  | .moveTo uid destination =>
      queue.indexOfUid uid ≠ some (min destination (queue.items.length - 1))
  | .moveBeforeUid uid reference =>
      Beside queue uid reference fun place target => target = place + 1
  | .moveAfterUid uid reference =>
      Beside queue uid reference fun place target => place = target + 1
  | _ => True

variable {queue : PlanQueue} {op : QueueOp}

/-- A queue left alone, with its revision. -/
theorem preserves_of_same (same : (op.run queue).1 = queue) (placed : op.Placed queue queue) :
    Preserves queue op where
  placed _ := by rw [same]; exact placed
  refused _ := by rw [same]
  revised := by rw [same]; simp

theorem preserves_of_idle (run : op.run queue = (queue, false)) : Preserves queue op where
  placed done := by rw [run] at done; cases done
  refused _ := by rw [run]
  revised := by rw [run]; simp

/-- New items under a new revision. -/
theorem preserves_of_setItems {items : List QueuedItem}
    (run : op.run queue = (queue.setItems items, true)) (changed : items ≠ queue.items)
    (placed : op.Placed queue (queue.setItems items)) : Preserves queue op where
  placed _ := by rw [run]; exact placed
  refused refused := by rw [run] at refused; cases refused
  revised := by
    rw [run]
    exact iff_of_true (Nat.succ_ne_self _) changed

/-- The revision moves on with items that stay. -/
theorem not_preserves_of_idle {items : List QueuedItem}
    (run : (op.run queue).1 = queue.setItems items) (same : items = queue.items) :
    ¬Preserves queue op := by
  intro preserves
  have changed := preserves.revised.mp (by rw [run]; exact Nat.succ_ne_self _)
  rw [run] at changed
  exact changed same

/-! ## Moves -/

section

variable {uid reference : String} {left right front back : List QueuedItem} {item : QueuedItem}

/-- The item put back elsewhere is the only one that moved. -/
theorem onlyMoved_of_held (held : queue.Held uid left item right)
    (whole : left ++ right = front ++ back) :
    OnlyMoved uid queue (queue.setItems (front ++ item :: back)) := by
  refine ⟨held.perm whole, ?_⟩
  rw [(held.moved whole).filter, held.filter, whole]

/-- A move that was done is right exactly when it moved the item. -/
theorem preserves_move_iff (held : queue.Held uid left item right)
    (whole : left ++ right = front ++ back)
    (run : op.run queue = (queue.setItems (front ++ item :: back), true))
    (placed : op.Placed queue (queue.setItems (front ++ item :: back))) :
    Preserves queue op ↔ front.length ≠ left.length := by
  constructor
  · intro preserves lengths
    have same := (held.items_eq_iff whole).mpr lengths
    exact not_preserves_of_idle (by rw [run]) same preserves
  · intro lengths
    exact preserves_of_setItems run (fun same => lengths ((held.items_eq_iff whole).mp same)) placed

theorem preserves_moveTo_iff (distinct : queue.uids.Nodup) (destination : Nat) :
    Preserves queue (.moveTo uid destination) ↔ Effective queue (.moveTo uid destination) := by
  by_cases pending : uid ∈ queue.uids
  · obtain ⟨left, item, right, held⟩ := PlanQueue.held_of_mem distinct pending
    have inside : min destination (left ++ right).length ≤ (left ++ right).length :=
      Nat.min_le_right ..
    have short : ((left ++ right).take (min destination (left ++ right).length)).length =
        min destination (queue.items.length - 1) := by
      rw [List.length_take, held.length, Nat.add_sub_cancel]
      exact Nat.min_eq_left inside
    have whole := (List.take_append_drop (min destination (left ++ right).length)
      (left ++ right)).symm
    have run := held.moveTo destination
    rw [insertIdx_eq_take_drop inside] at run
    have placed : Placed queue _ (.moveTo uid destination) :=
      ⟨onlyMoved_of_held held whole, (held.moved whole).indexOfUid.trans (congrArg some short)⟩
    rw [preserves_move_iff held whole (by simp only [QueueOp.run, run, Option.isSome_some]) placed,
      short, Effective, held.indexOfUid]
    exact ⟨fun lengths same => lengths (Option.some.inj same).symm,
      fun lengths same => lengths (congrArg some same.symm)⟩
  · have nowhere := PlanQueue.indexOfUid_eq_none.mpr pending
    have run : QueueOp.run queue (.moveTo uid destination) = (queue, false) := by
      simp only [QueueOp.run, PlanQueue.moveTo, nowhere, Option.isSome_none]
    refine iff_of_true (preserves_of_idle run) ?_
    rw [Effective, nowhere]
    rintro ⟨⟩

/-- A move next to a reference, `offset` places past it: right exactly when the reference is another
pending item and the moved one is not there already. -/
theorem preserves_beside_iff (distinct : queue.uids.Nodup) (offset : Nat)
    {side : Nat → Nat → Prop}
    (run : op.run queue = ((queue.moveByUid offset uid reference).1,
      (queue.moveByUid offset uid reference).2.isSome))
    (placed : ∀ {left item right front other back}, queue.Held uid left item right →
      left ++ right = front ++ other :: back → other.itemUid = reference →
      (∀ entry ∈ front, entry.itemUid ≠ reference) →
      ∃ before after, left ++ right = before ++ after ∧ before.length = front.length + offset ∧
        op.Placed queue (queue.setItems (before ++ item :: after)))
    (sides : ∀ place front, (¬side place (if front < place then front else front + 1) ∧
      (if front < place then front else front + 1) ≠ place) ↔ front + offset ≠ place) :
    Preserves queue op ↔ Beside queue uid reference side := by
  by_cases pending : uid ∈ queue.uids
  · obtain ⟨left, item, right, held⟩ := PlanQueue.held_of_mem distinct pending
    by_cases known : reference ∈ queue.uids ∧ reference ≠ uid
    · obtain ⟨front, other, back, split, named, absent⟩ :=
        held.exists_reference known.1 known.2
      obtain ⟨before, after, whole, reach, spot⟩ := placed held split named absent
      have moved := held.moveByUid_known split named absent offset
      rw [← split, whole, ← reach, insertIdx_middle] at moved
      rw [preserves_move_iff held whole (by rw [run, moved]; rfl) spot, reach, ← sides]
      rw [Beside, held.indexOfUid, held.indexOfUid_reference split named absent]
      constructor
      · rintro ⟨aside, apart⟩ place found
        obtain rfl := Option.some.inj found
        exact ⟨_, rfl, apart, aside⟩
      · intro beside
        obtain ⟨target, found, apart, aside⟩ := beside _ rfl
        obtain rfl := Option.some.inj found
        exact ⟨aside, apart⟩
    · have missing : ∀ entry ∈ left ++ right, entry.itemUid ≠ reference := by
        rintro entry member rfl
        refine known ⟨?_, held.others entry member⟩
        rw [PlanQueue.uids, held.items]
        refine List.mem_map_of_mem (List.mem_append.mpr ?_)
        rcases List.mem_append.mp member with before | behind
        · exact Or.inl before
        · exact Or.inr (List.mem_cons_of_mem _ behind)
      have moved := held.moveByUid_unknown missing offset
      refine iff_of_false ?_ ?_
      · intro preserves
        have kept := preserves.refused (by rw [run, moved]; rfl)
        have short := congrArg List.length kept
        rw [run, moved, held.length] at short
        exact absurd short (Nat.ne_of_lt (Nat.lt_succ_self _))
      · intro beside
        obtain ⟨target, found, apart, _⟩ := beside _ held.indexOfUid
        refine known ⟨?_, ?_⟩
        · by_contra nowhere
          rw [PlanQueue.indexOfUid_eq_none.mpr nowhere] at found
          cases found
        · rintro rfl
          exact apart (Option.some.inj (found.symm.trans held.indexOfUid))
  · have nowhere := PlanQueue.indexOfUid_eq_none.mpr pending
    refine iff_of_true (preserves_of_idle ?_) ?_
    · rw [run, PlanQueue.moveByUid_of_missing pending]
      rfl
    · rw [Beside, nowhere]
      intros; contradiction

theorem preserves_moveBeforeUid_iff (distinct : queue.uids.Nodup) :
    Preserves queue (.moveBeforeUid uid reference) ↔
      Effective queue (.moveBeforeUid uid reference) := by
  refine preserves_beside_iff distinct 0 rfl ?_ ?_
  · intro left item right front other back held split named absent
    refine ⟨front, other :: back, split, rfl, onlyMoved_of_held held split, front.length,
      (held.moved split).indexOfUid, ?_⟩
    rw [(held.moved split).indexOfUid_reference rfl named absent, if_neg (Nat.lt_irrefl _)]
  · intro place front
    split <;> omega

theorem preserves_moveAfterUid_iff (distinct : queue.uids.Nodup) :
    Preserves queue (.moveAfterUid uid reference) ↔
      Effective queue (.moveAfterUid uid reference) := by
  refine preserves_beside_iff distinct 1 rfl ?_ ?_
  · intro left item right front other back held split named absent
    have whole : left ++ right = (front ++ [other]) ++ back := by
      rw [split, List.append_assoc]
      rfl
    have again : (front ++ [other]) ++ back = front ++ other :: back := whole.symm.trans split
    have reach : (front ++ [other]).length = front.length + 1 := List.length_append
    refine ⟨front ++ [other], back, whole, reach, onlyMoved_of_held held whole, front.length, ?_,
      reach ▸ (held.moved whole).indexOfUid⟩
    rw [(held.moved whole).indexOfUid_reference again named absent, if_pos (by omega)]
  · intro place front
    split <;> omega

end

/-! ## The other operations -/

section

variable {uid reference : String} {item : QueuedItem}

/-- Whatever takes the place of the item of a uid, the revision is right exactly when it differs. -/
theorem preserves_set_iff {change : Nat → QueuedItem × PlanQueue} {fresh : QueuedItem}
    (distinct : queue.uids.Nodup)
    (run : op.run queue = settle queue ((queue.indexOfUid uid).map change))
    (changed : ∀ place, (change place).2 = queue.setItems (queue.items.set place fresh))
    (placed : ∀ next, op.Placed queue next) :
    Preserves queue op ↔ ∀ item ∈ queue.items, item.itemUid = uid → fresh ≠ item := by
  by_cases pending : uid ∈ queue.uids
  · obtain ⟨left, item, right, held⟩ := PlanQueue.held_of_mem distinct pending
    rw [held.indexOfUid, Option.map_some, settle, changed] at run
    have items : queue.items.set left.length fresh = left ++ fresh :: right := by
      rw [held.items, set_middle]
    have same : left ++ fresh :: right = queue.items ↔ fresh = item := by
      rw [held.items, List.append_cancel_left_eq, List.cons.injEq]
      exact and_iff_left rfl
    rw [items] at run
    constructor
    · rintro preserves other member named rfl
      refine not_preserves_of_idle (by rw [run]) (same.mpr ?_) preserves
      rw [held.items] at member
      rcases List.mem_append.mp member with before | here
      · exact absurd named (held.others fresh (List.mem_append_left _ before))
      · rcases List.mem_cons.mp here with rfl | behind
        · rfl
        · exact absurd named (held.others fresh (List.mem_append_right _ behind))
    · intro differs
      refine preserves_of_setItems run (fun again => ?_) (placed _)
      exact differs item (by rw [held.items]; simp) held.named (same.mp again)
  · have nowhere := PlanQueue.indexOfUid_eq_none.mpr pending
    refine iff_of_true (preserves_of_idle (by rw [run, nowhere]; rfl)) ?_
    rintro other member rfl
    exact absurd (List.mem_map_of_mem member) pending

theorem preserves_removeByUid : Preserves queue (.removeByUid uid) := by
  cases found : queue.indexOfUid uid with
  | none => exact preserves_of_idle (by rw [run, PlanQueue.removeByUid, found]; rfl)
  | some place =>
      have inside := PlanQueue.indexOfUid_lt found
      have done : QueueOp.run queue (.removeByUid uid) =
          (queue.setItems (queue.items.eraseIdx place), true) := by
        rw [run, PlanQueue.removeByUid, found, Option.bind_some, List.getElem?_eq_getElem inside]
        rfl
      refine preserves_of_setItems done (fun same => ?_) trivial
      exact absurd (List.eraseIdx_eq_self.mp same) (Nat.not_le.mpr inside)

/-- An insertion next to a reference, if there is one. -/
theorem preserves_insertByUid {offset : Nat} (near : offset ≤ 1)
    (run : op.run queue =
      (((queue.indexOfUid reference).map fun place =>
          queue.setItems (queue.items.insertIdx (place + offset) item)).getD queue,
        ((queue.indexOfUid reference).map fun place =>
          queue.setItems (queue.items.insertIdx (place + offset) item)).isSome))
    (placed : ∀ next, op.Placed queue next) : Preserves queue op := by
  cases found : queue.indexOfUid reference with
  | none => exact preserves_of_idle (by rw [run, found]; rfl)
  | some place =>
      have inside := PlanQueue.indexOfUid_lt found
      refine preserves_of_setItems (by rw [run, found]; rfl) (ne_of_insertIdx ?_) (placed _)
      omega

end

/-- With distinct uids an operation keeps the promises of the queue exactly where it has something
to change and a move relative to an item finds it. -/
theorem preserves_iff_effective {queue : PlanQueue} (distinct : queue.uids.Nodup) (op : QueueOp) :
    Preserves queue op ↔ Effective queue op := by
  cases op with
  | update uid replacement =>
      exact preserves_set_iff distinct rfl (fun _ => rfl) fun _ => trivial
  | replaceAtUid uid replacement =>
      exact preserves_set_iff distinct rfl (fun _ => rfl) fun _ => trivial
  | moveTo uid destination => exact preserves_moveTo_iff distinct destination
  | moveBeforeUid uid reference => exact preserves_moveBeforeUid_iff distinct
  | moveAfterUid uid reference => exact preserves_moveAfterUid_iff distinct
  | pushBack item =>
      refine iff_of_true (preserves_of_setItems rfl (fun same => ?_) trivial) trivial
      exact absurd (congrArg List.length same) (by simp)
  | pushFront item =>
      refine iff_of_true (preserves_of_setItems rfl (fun same => ?_) trivial) trivial
      exact absurd (congrArg List.length same) (by simp)
  | popFront =>
      refine iff_of_true ?_ trivial
      cases items : queue.items with
      | nil => exact preserves_of_idle (by rw [run, PlanQueue.popFront, items]; rfl)
      | cons item rest =>
          refine preserves_of_setItems (by rw [run, PlanQueue.popFront, items]; rfl) ?_ trivial
          rw [items]
          exact (List.cons_ne_self item rest).symm
  | removeByUid uid => exact iff_of_true preserves_removeByUid trivial
  | insertAt index item =>
      exact iff_of_true (preserves_of_setItems rfl (ne_of_insertIdx (Nat.min_le_right ..)) trivial)
        trivial
  | insertBeforeUid reference item =>
      exact iff_of_true (preserves_insertByUid (Nat.zero_le 1) rfl fun _ => trivial) trivial
  | insertAfterUid reference item =>
      exact iff_of_true (preserves_insertByUid (Nat.le_refl 1) rfl fun _ => trivial) trivial
  | clear =>
      refine iff_of_true ?_ trivial
      cases items : queue.items with
      | nil =>
          refine preserves_of_same ?_ trivial
          rw [run, PlanQueue.clear, items]
          rfl
      | cons item rest =>
          refine preserves_of_setItems (by rw [run, PlanQueue.clear, items]; rfl) ?_ trivial
          rw [items]
          exact (List.cons_ne_nil item rest).symm
  | pushHistory item =>
      refine iff_of_true ⟨fun _ => trivial, (by intros; contradiction), ?_⟩ trivial
      simp [run, PlanQueue.pushHistory]
  | clearHistory =>
      refine iff_of_true ⟨fun _ => trivial, (by intros; contradiction), ?_⟩ trivial
      rw [run, PlanQueue.clearHistory]
      split <;> simp

/-- Two plans waiting. -/
def twoPlans : PlanQueue :=
  (PlanQueue.new.pushBack (.plan "a" "count" .null)).pushBack (.plan "b" "scan" .null)

theorem preserves_iff_effective_twoPlans :
    Preserves twoPlans (.moveBeforeUid "b" "a") ↔ Effective twoPlans (.moveBeforeUid "b" "a") :=
  preserves_iff_effective (by decide) (.moveBeforeUid "b" "a")

/-- Moving an item before a reference that is not there loses it. -/
theorem move_loses_item :
    ¬∀ queue : PlanQueue, queue.uids.Nodup → ∀ op, Preserves queue op := by
  intro preserves
  have kept := (preserves twoPlans (by decide) (.moveBeforeUid "b" "c")).refused (by decide)
  exact absurd (congrArg List.length kept) (by decide)

end QueueOp

end Bsrs.Qs
