import Bsrs.Devices.SoftSignal

namespace Bsrs.Devices

open Library

variable {τ κ ρ : Type}

namespace SoftSystem

variable {system : SoftSystem τ κ} {thread : Nat} {stack : List (SoftFrame (τ × κ))}

/-! ## What every step keeps -/

/-- What the backend owes a subscriber, and where it is. -/
structure Fair (system : SoftSystem τ κ) (id : Nat) (sub : SoftSubscriber (τ × κ)) : Prop where
  since : sub.since < system.history.length
  queued : id ∈ system.state.subscribers →
    sub.taken ++ sub.pending ++ system.history.drop (system.history.length - total (awaits id) system) =
      system.history.drop sub.since
  ordered : sub.taken ++ sub.pending <+: system.history.drop sub.since
  popped : ∀ reading, system.InHand id reading → sub.taken = sub.heard ++ [reading]
  settled : (∀ reading, ¬ system.InHand id reading) → sub.taken = sub.heard
  backlog : sub.draining = false → sub.pending = [] ∨ id ∈ system.panicked

structure Kept (system : SoftSystem τ κ) : Prop where
  posts : total posts system = system.locked.toNat
  posting : ∀ stack ∈ system.threads, ∀ reading rest toDrain, .posting reading rest toDrain ∈ stack →
    reading = (system.state.value, system.state.timestamp)
  clearing : ∀ stack ∈ system.threads, ∀ id, .clearing id ∈ stack →
    id < system.subs.length ∧ id ∉ system.state.subscribers
  current : ∃ before, system.history = before ++ [(system.state.value, system.state.timestamp)]
  nextId : system.state.nextId = system.subs.length
  distinct : system.state.subscribers.Nodup
  within : ∀ id ∈ system.state.subscribers, id < system.subs.length
  awaits : ∀ id, total (awaits id) system ≤ system.state.subscribers.count id
  claims : ∀ id, total (claims id) system + system.stranded.count id = (system.claimed id).toNat
  poll : system.state.poll = (system.pollPeriod && !system.state.subscribers.isEmpty)
  fair : ∀ id sub, system.subs[id]? = some sub → system.Fair id sub

theorem Kept.one (kept : system.Kept) (id : Nat) : total (SoftSystem.claims id) system ≤ 1 := by
  have both := kept.claims id
  cases flag : system.claimed id <;> simp [flag] at both <;> omega

theorem Kept.unlocked (kept : system.Kept) (unlocked : system.locked = false) (id : Nat) :
    total (SoftSystem.awaits id) system = 0 := by
  refine awaits_of_posts ?_ id
  rw [kept.posts, unlocked]
  rfl

/-- What a subscriber is owed is the same, seen from a state that differs elsewhere. -/
theorem Fair.congr {next : SoftSystem τ κ} {id : Nat} {sub : SoftSubscriber (τ × κ)}
    (fair : system.Fair id sub) (history : next.history = system.history)
    (subscribers : id ∈ next.state.subscribers → id ∈ system.state.subscribers)
    (awaiting : id ∈ next.state.subscribers →
      total (SoftSystem.awaits id) next = total (SoftSystem.awaits id) system)
    (hands : ∀ reading, next.InHand id reading ↔ system.InHand id reading)
    (panicked : ∀ other ∈ system.panicked, other ∈ next.panicked) : next.Fair id sub where
  since := history ▸ fair.since
  queued member := by
    rw [awaiting member, history]
    exact fair.queued (subscribers member)
  ordered := history ▸ fair.ordered
  popped reading there := fair.popped reading ((hands reading).mp there)
  settled none := fair.settled fun reading there => none reading ((hands reading).mpr there)
  backlog released := (fair.backlog released).imp_right (panicked id)

/-- A thread has gone on, and the mailboxes of the `touched` subscribers may have changed. -/
structure Alters (system next : SoftSystem τ κ) (thread : Nat)
    (stack after : List (SoftFrame (τ × κ))) (touched : Nat → Prop) : Prop where
  found : system.threads[thread]? = some stack
  threads : next.threads = system.threads.set thread after
  length : next.subs.length = system.subs.length
  subs : ∀ other, ¬ touched other → next.subs[other]? = system.subs[other]?
  state : next.state = system.state
  history : next.history = system.history
  pollPeriod : next.pollPeriod = system.pollPeriod
  panicked : ∀ other ∈ system.panicked, other ∈ next.panicked

section

variable {next : SoftSystem τ κ} {after : List (SoftFrame (τ × κ))} {touched : Nat → Prop}

theorem Alters.total (alters : system.Alters next thread stack after touched)
    (weight : SoftFrame (τ × κ) → Nat) :
    SoftSystem.total weight next + tally weight stack =
      SoftSystem.total weight system + tally weight after := by
  unfold SoftSystem.total
  rw [alters.threads]
  exact tally_set alters.found after

theorem Alters.inHand (alters : system.Alters next thread stack after touched) (other : Nat)
    (reading : τ × κ) : next.InHand other reading ↔
      .popped other reading ∈ after ∨ system.Elsewhere thread other reading := by
  rw [← inHand_resume alters.found after other reading]
  unfold InHand resume
  rw [alters.threads]

theorem Alters.claimed (alters : system.Alters next thread stack after touched) {other : Nat}
    (spared : ¬ touched other) : next.claimed other = system.claimed other := by
  simp [SoftSystem.claimed, alters.subs other spared]

/-- The invariant after such a step, from what the step does to the subscribers it touches. -/
theorem Kept.alters (kept : system.Kept) (alters : system.Alters next thread stack after touched)
    (posts : SoftSystem.total SoftSystem.posts next = next.locked.toNat)
    (posting : ∀ reading rest toDrain, .posting reading rest toDrain ∈ after →
      ∃ rest toDrain, .posting reading rest toDrain ∈ stack)
    (clearing : ∀ id, .clearing id ∈ after → .clearing id ∈ stack)
    (awaits : ∀ other, tally (SoftSystem.awaits other) after ≤ tally (SoftSystem.awaits other) stack)
    (awaited : ∀ other, ¬ touched other →
      tally (SoftSystem.awaits other) after = tally (SoftSystem.awaits other) stack)
    (claims : ∀ other, ¬ touched other →
      tally (SoftSystem.claims other) after + next.stranded.count other =
        tally (SoftSystem.claims other) stack + system.stranded.count other)
    (claim : ∀ other, touched other →
      SoftSystem.total (SoftSystem.claims other) next + next.stranded.count other =
        (next.claimed other).toNat)
    (hands : ∀ other, ¬ touched other → ∀ reading,
      .popped other reading ∈ after ↔ .popped other reading ∈ stack)
    (fair : ∀ other, touched other → ∀ sub, next.subs[other]? = some sub → next.Fair other sub) :
    next.Kept where
  posts := posts
  posting held member reading rest toDrain among := by
    rw [alters.state]
    rw [alters.threads] at member
    cases List.mem_or_eq_of_mem_set member with
    | inl before => exact kept.posting held before reading rest toDrain among
    | inr same =>
        subst same
        obtain ⟨others, drains, there⟩ := posting reading rest toDrain among
        exact kept.posting stack (List.mem_of_getElem? alters.found) reading others drains there
  clearing held member id among := by
    rw [alters.length, alters.state]
    rw [alters.threads] at member
    cases List.mem_or_eq_of_mem_set member with
    | inl before => exact kept.clearing held before id among
    | inr same =>
        subst same
        exact kept.clearing stack (List.mem_of_getElem? alters.found) id (clearing id among)
  current := by
    rw [alters.history, alters.state]
    exact kept.current
  nextId := by rw [alters.state, alters.length, kept.nextId]
  distinct := alters.state ▸ kept.distinct
  within other member := by
    rw [alters.length]
    exact kept.within other (alters.state ▸ member)
  awaits other := by
    have both := alters.total (SoftSystem.awaits other)
    have fewer := awaits other
    have before := kept.awaits other
    rw [alters.state]
    omega
  claims other := by
    by_cases same : touched other
    · exact claim other same
    · have both := alters.total (SoftSystem.claims other)
      have moved := claims other same
      have before := kept.claims other
      rw [alters.claimed same]
      omega
  poll := by rw [alters.state, alters.pollPeriod, kept.poll]
  fair other held found := by
    by_cases same : touched other
    · exact fair other same held found
    · rw [alters.subs other same] at found
      refine (kept.fair other held found).congr alters.history (fun member => alters.state ▸ member)
        (fun _ => ?_) (fun reading => ?_) alters.panicked
      · have both := alters.total (SoftSystem.awaits other)
        have moved := awaited other same
        omega
      · rw [alters.inHand, inHand_iff alters.found, hands other same]

/-- A step that only moves a thread on. -/
theorem Kept.passes (kept : system.Kept) (found : system.threads[thread]? = some stack)
    {locked : Bool} {tokens : List Nat}
    (posts : tally SoftSystem.posts after + system.locked.toNat =
      tally SoftSystem.posts stack + locked.toNat)
    (posting : ∀ reading rest toDrain, .posting reading rest toDrain ∈ after →
      ∃ rest toDrain, .posting reading rest toDrain ∈ stack)
    (clearing : ∀ id, .clearing id ∈ after → .clearing id ∈ stack)
    (awaits : ∀ other, tally (SoftSystem.awaits other) after = tally (SoftSystem.awaits other) stack)
    (claims : ∀ other, tally (SoftSystem.claims other) after = tally (SoftSystem.claims other) stack)
    (hands : ∀ other reading, .popped other reading ∈ after ↔ .popped other reading ∈ stack) :
    ({ system with locked := locked, tokens := tokens }.resume thread after).Kept := by
  have alters : system.Alters ({ system with locked := locked, tokens := tokens }.resume thread after)
      thread stack after fun _ => False :=
    ⟨found, rfl, rfl, fun _ _ => rfl, rfl, rfl, rfl, fun _ member => member⟩
  apply kept.alters alters
  · have both := alters.total SoftSystem.posts
    have before := kept.posts
    change _ = locked.toNat
    omega
  · exact posting
  · exact clearing
  · exact fun other => Nat.le_of_eq (awaits other)
  · exact fun other _ => awaits other
  · intro other _
    rw [claims other]
    rfl
  · exact fun _ impossible => impossible.elim
  · exact fun other _ => hands other
  · exact fun _ impossible => impossible.elim

end

/-! ## One lemma for each step -/

variable {below : List (SoftFrame (τ × κ))} {id : Nat} {sub : SoftSubscriber (τ × κ)}

theorem claimed_of_sub (present : system.subs[id]? = some sub) : system.claimed id = sub.draining := by
  simp [claimed, present]

/-- A thread has gone on and one subscriber has become `held`. -/
theorem Kept.mailbox (kept : system.Kept) (found : system.threads[thread]? = some stack)
    (present : system.subs[id]? = some sub) {held : SoftSubscriber (τ × κ)}
    {after : List (SoftFrame (τ × κ))}
    (posts : tally SoftSystem.posts after = tally SoftSystem.posts stack)
    (posting : ∀ reading rest toDrain, .posting reading rest toDrain ∈ after →
      ∃ rest toDrain, .posting reading rest toDrain ∈ stack)
    (clearing : ∀ id, .clearing id ∈ after → .clearing id ∈ stack)
    (awaits : tally (SoftSystem.awaits id) after ≤ tally (SoftSystem.awaits id) stack)
    (awaited : ∀ other, other ≠ id →
      tally (SoftSystem.awaits other) after = tally (SoftSystem.awaits other) stack)
    (claim : tally (SoftSystem.claims id) after + sub.draining.toNat =
      tally (SoftSystem.claims id) stack + held.draining.toNat)
    (claims : ∀ other, other ≠ id →
      tally (SoftSystem.claims other) after = tally (SoftSystem.claims other) stack)
    (hands : ∀ other, other ≠ id → ∀ reading,
      .popped other reading ∈ after ↔ .popped other reading ∈ stack)
    (fair : ((system.putSub id held).resume thread after).Fair id held) :
    ((system.putSub id held).resume thread after).Kept := by
  have within := (List.getElem?_eq_some_iff.mp present).1
  have alters : system.Alters ((system.putSub id held).resume thread after) thread stack after
      (· = id) :=
    ⟨found, rfl, List.length_set, fun _ spared => List.getElem?_set_ne (Ne.symm spared), rfl, rfl, rfl,
      fun _ member => member⟩
  have there : ((system.putSub id held).resume thread after).subs[id]? = some held := by
    simp [resume, putSub, within]
  apply kept.alters alters
  · have both := alters.total SoftSystem.posts
    have before := kept.posts
    change _ = system.locked.toNat
    omega
  · exact posting
  · exact clearing
  · intro other
    by_cases same : other = id
    · exact same ▸ awaits
    · exact Nat.le_of_eq (awaited other same)
  · exact awaited
  · intro other differs
    rw [claims other differs]
    rfl
  · intro other same
    subst same
    have both := alters.total (SoftSystem.claims other)
    have before := kept.claims other
    rw [claimed_of_sub present] at before
    rw [claimed_of_sub there]
    change _ + system.stranded.count other = _
    omega
  · exact hands
  · intro other same found
    subst same
    intro present
    cases there.symm.trans present
    exact fair

/-- A mailbox that a thread works for is marked. -/
theorem Kept.flagged (kept : system.Kept) {frame : SoftFrame (τ × κ)}
    (found : system.threads[thread]? = some (frame :: below)) (claim : SoftSystem.claims id frame = 1)
    (present : system.subs[id]? = some sub) : sub.draining = true := by
  have counted := kept.claims id
  have here := le_total (SoftSystem.claims id) found
  rw [tally_cons, claim] at here
  rw [claimed_of_sub present] at counted
  cases draining : sub.draining with
  | true => rfl
  | false =>
      rw [draining, Bool.toNat_false] at counted
      omega

/-- The hands that hold a reading for a subscriber are those of the thread that drains it. -/
theorem Kept.hands (kept : system.Kept) {frame : SoftFrame (τ × κ)}
    (found : system.threads[thread]? = some (frame :: below)) (claim : SoftSystem.claims id frame = 1)
    (front : List (SoftFrame (τ × κ))) (reading : τ × κ) :
    (system.resume thread (front ++ below)).InHand id reading ↔ .popped id reading ∈ front := by
  obtain ⟨under, elsewhere⟩ := sole found claim (kept.one id) reading
  rw [inHand_resume found, List.mem_append]
  simp [under, elsewhere]

theorem Kept.held (kept : system.Kept) {frame : SoftFrame (τ × κ)}
    (found : system.threads[thread]? = some (frame :: below)) (claim : SoftSystem.claims id frame = 1)
    (reading : τ × κ) : system.InHand id reading ↔ .popped id reading = frame := by
  obtain ⟨under, elsewhere⟩ := sole found claim (kept.one id) reading
  rw [inHand_iff found, List.mem_cons]
  simp [under, elsewhere]

/-- A thread that goes on without touching a reading in hand leaves them all where they are. -/
theorem hands_same (found : system.threads[thread]? = some stack) {after : List (SoftFrame (τ × κ))}
    (reading : τ × κ) (same : .popped id reading ∈ after ↔ .popped id reading ∈ stack) :
    (system.resume thread after).InHand id reading ↔ system.InHand id reading := by
  rw [inHand_resume found, inHand_iff found, same]

/-- A store queues its reading for the next subscriber. -/
theorem Kept.post (kept : system.Kept) {reading : τ × κ} {rest toDrain : List Nat}
    (found : system.threads[thread]? = some (.posting reading (id :: rest) toDrain :: below))
    (present : system.subs[id]? = some sub) :
    ((system.putSub id { sub with toMailbox := (sub.enqueue reading).2 }).resume thread
      (.posting reading rest (if (sub.enqueue reading).1 then toDrain ++ [id] else toDrain) ::
        below)).Kept := by
  have fair := kept.fair id sub present
  have counted := kept.awaits id
  have bound := List.nodup_iff_count_le_one.mp kept.distinct id
  have without := total_resume (SoftSystem.awaits id) found
    (.posting reading rest (if (sub.enqueue reading).1 then toDrain ++ [id] else toDrain) :: below)
  simp only [tally_cons, SoftSystem.awaits, List.count_cons_self] at without
  have member : id ∈ system.state.subscribers := List.count_pos_iff.mp (by omega)
  have same : reading = (system.state.value, system.state.timestamp) :=
    kept.posting _ (List.mem_of_getElem? found) reading _ _ List.mem_cons_self
  obtain ⟨before, history⟩ := kept.current
  -- this store is the one that the subscriber is waiting for
  have queued := fair.queued member
  have last : total (SoftSystem.awaits id) system = 1 := by omega
  have owed : system.history.drop (system.history.length - 1) = [reading] := by
    rw [history, same]
    simp
  rw [last, owed, List.append_assoc] at queued
  apply kept.mailbox found present
  · rfl
  · intro reading' rest' toDrain' among
    cases List.mem_cons.mp among with
    | inl head =>
        cases head
        exact ⟨_, _, List.mem_cons_self⟩
    | inr later => exact ⟨_, _, List.mem_cons_of_mem _ later⟩
  · simp
  · simp [SoftSystem.awaits]
  · intro other differs
    simp [SoftSystem.awaits, Ne.symm differs]
  · cases draining : sub.draining with
    | false =>
        simp [draining, Mailbox.enqueue, SoftSystem.claims]
        omega
    | true => simp [draining, Mailbox.enqueue, SoftSystem.claims]
  · intro other differs
    cases draining : sub.draining <;> simp [draining, Mailbox.enqueue, SoftSystem.claims, Ne.symm differs]
  · intro other _ popped
    simp
  · have hands : ∀ popped, (system.resume thread (.posting reading rest
        (if (sub.enqueue reading).1 then toDrain ++ [id] else toDrain) :: below)).InHand id popped ↔
          system.InHand id popped :=
      fun popped => hands_same found popped (by simp)
    constructor
    · exact fair.since
    · intro _
      have none : total (SoftSystem.awaits id) (system.resume thread (.posting reading rest
          (if (sub.enqueue reading).1 then toDrain ++ [id] else toDrain) :: below)) = 0 := by
        omega
      change sub.taken ++ (sub.pending ++ [reading]) ++ system.history.drop (system.history.length -
        total (SoftSystem.awaits id) (system.resume thread _)) = system.history.drop sub.since
      rw [none, queued]
      simp
    · change sub.taken ++ (sub.pending ++ [reading]) <+: _
      rw [queued]
      exact List.prefix_refl _
    · exact fun popped there => fair.popped popped ((hands popped).mp there)
    · exact fun none => fair.settled fun popped there => none popped ((hands popped).mpr there)
    · intro released
      cases released

/-- `drain` takes the next reading. -/
theorem Kept.pop (kept : system.Kept) {reading : τ × κ} {rest : List (τ × κ)}
    (found : system.threads[thread]? = some (.draining id :: below))
    (present : system.subs[id]? = some sub) (pending : sub.pending = reading :: rest) :
    ((system.putSub id { sub with pending := rest, taken := sub.taken ++ [reading] }).resume thread
      (.popped id reading :: below)).Kept := by
  have fair := kept.fair id sub present
  have claim : SoftSystem.claims id (.draining id : SoftFrame (τ × κ)) = 1 := by simp [SoftSystem.claims]
  have after := kept.hands found claim [.popped id reading]
  have settled : sub.taken = sub.heard := by
    apply fair.settled
    intro popped there
    cases (kept.held found claim popped).mp there
  have split : sub.taken ++ [reading] ++ rest = sub.taken ++ sub.pending := by
    rw [pending, List.append_assoc, List.singleton_append]
  have awaits : ∀ other, tally (SoftSystem.awaits other) (.popped id reading :: below) =
      tally (SoftSystem.awaits other) (.draining id :: below) := fun _ => rfl
  apply kept.mailbox found present
  · rfl
  · intro reading' rest' toDrain' among
    exact ⟨rest', toDrain', by simpa using among⟩
  · simp
  · exact Nat.le_of_eq (awaits id)
  · exact fun other _ => awaits other
  · rfl
  · exact fun _ _ => rfl
  · intro other differs popped
    simp [differs]
  · constructor
    · exact fair.since
    · intro member
      change sub.taken ++ [reading] ++ rest ++ system.history.drop (system.history.length -
        total (SoftSystem.awaits id) (system.resume thread _)) = _
      rw [split, total_same found (awaits id)]
      exact fair.queued member
    · change sub.taken ++ [reading] ++ rest <+: _
      rw [split]
      exact fair.ordered
    · intro popped there
      have same : popped = reading := by simpa using (after popped).mp there
      change sub.taken ++ [reading] = sub.heard ++ [popped]
      rw [same, settled]
    · intro none
      exact (none reading ((after reading).mpr List.mem_cons_self)).elim
    · intro released
      have flagged := kept.flagged found claim present
      cases released.symm.trans flagged
/-- `drain` finds the queue empty and lets the mailbox go. -/
theorem Kept.idle (kept : system.Kept) (found : system.threads[thread]? = some (.draining id :: below))
    (present : system.subs[id]? = some sub) (pending : sub.pending = []) :
    ((system.putSub id { sub with draining := false }).resume thread below).Kept := by
  have fair := kept.fair id sub present
  have claim : SoftSystem.claims id (.draining id : SoftFrame (τ × κ)) = 1 := by simp [SoftSystem.claims]
  have flagged := kept.flagged found claim present
  have awaits : ∀ other, tally (SoftSystem.awaits other) below =
      tally (SoftSystem.awaits other) (.draining id :: below) := by
    intro other
    simp [SoftSystem.awaits]
  apply kept.mailbox found present
  · simp [SoftSystem.posts]
  · exact fun reading rest toDrain among => ⟨rest, toDrain, List.mem_cons_of_mem _ among⟩
  · exact fun _ among => List.mem_cons_of_mem _ among
  · exact Nat.le_of_eq (awaits id)
  · exact fun other _ => awaits other
  · simp [claim, flagged, Nat.add_comm]
  · intro other differs
    simp [SoftSystem.claims, Ne.symm differs]
  · intro other differs reading
    simp
  · constructor
    · exact fair.since
    · intro member
      change sub.taken ++ sub.pending ++ system.history.drop (system.history.length -
        total (SoftSystem.awaits id) (system.resume thread below)) = system.history.drop sub.since
      rw [total_same found (awaits id)]
      exact fair.queued member
    · exact fair.ordered
    · intro reading there
      cases (kept.hands found claim [] reading).mp there
    · intro _
      apply fair.settled
      intro popped there
      cases (kept.held found claim popped).mp there
    · exact fun _ => Or.inl pending

/-- The callback is called with the reading in hand. -/
theorem Kept.call (kept : system.Kept) {reading : τ × κ}
    (found : system.threads[thread]? = some (.popped id reading :: below))
    (present : system.subs[id]? = some sub) :
    ((system.putSub id { sub with heard := sub.heard ++ [reading] }).resume thread
      (.calling id :: below)).Kept := by
  have fair := kept.fair id sub present
  have claim := claims_popped id reading
  have awaits : ∀ other, tally (SoftSystem.awaits other) (.calling id :: below) =
      tally (SoftSystem.awaits other) (.popped id reading :: below) := fun _ => rfl
  apply kept.mailbox found present
  · rfl
  · intro reading' rest' toDrain' among
    exact ⟨rest', toDrain', by simpa using among⟩
  · simp
  · exact Nat.le_of_eq (awaits id)
  · exact fun other _ => awaits other
  · rfl
  · exact fun _ _ => rfl
  · intro other differs popped
    simp [differs]
  · constructor
    · exact fair.since
    · intro member
      change sub.taken ++ sub.pending ++ system.history.drop (system.history.length -
        total (SoftSystem.awaits id) (system.resume thread _)) = system.history.drop sub.since
      rw [total_same found (awaits id)]
      exact fair.queued member
    · exact fair.ordered
    · intro popped there
      have none := (kept.hands found claim [.calling id] popped).mp there
      simp at none
    · exact fun _ => fair.popped reading ((kept.held found claim reading).mpr rfl)
    · exact fair.backlog

/-- An unsubscribe drops what is queued. -/
theorem Kept.clear (kept : system.Kept) (found : system.threads[thread]? = some (.clearing id :: below))
    (present : system.subs[id]? = some sub) :
    ((system.putSub id { sub with pending := [] }).resume thread below).Kept := by
  obtain ⟨_, gone⟩ := kept.clearing _ (List.mem_of_getElem? found) id List.mem_cons_self
  have fair := kept.fair id sub present
  have hands : ∀ popped, (system.resume thread below).InHand id popped ↔ system.InHand id popped :=
    fun popped => hands_same found popped (by simp)
  have awaits : ∀ other, tally (SoftSystem.awaits other) below =
      tally (SoftSystem.awaits other) (.clearing id :: below) := by
    intro other
    simp [SoftSystem.awaits]
  apply kept.mailbox found present
  · simp [SoftSystem.posts]
  · exact fun reading rest toDrain among => ⟨rest, toDrain, List.mem_cons_of_mem _ among⟩
  · exact fun _ among => List.mem_cons_of_mem _ among
  · exact Nat.le_of_eq (awaits id)
  · exact fun other _ => awaits other
  · simp [SoftSystem.claims]
  · intro other _
    simp [SoftSystem.claims]
  · intro other _ popped
    simp
  · constructor
    · exact fair.since
    · exact fun member => (gone member).elim
    · change sub.taken ++ [] <+: system.history.drop sub.since
      exact (List.prefix_append_right_inj _).mpr List.nil_prefix |>.trans fair.ordered
    · exact fun popped there => fair.popped popped ((hands popped).mp there)
    · exact fun none => fair.settled fun popped there => none popped ((hands popped).mpr there)
    · exact fun _ => Or.inl rfl
/-- Unwinding strands exactly the claims it drops. -/
theorem unwind_claims (stack : List (SoftFrame ρ)) (id : Nat) :
    tally (claims id) (unwind stack).2 + (unwind stack).1.count id = tally (claims id) stack := by
  unfold unwind
  split <;> simp [claims, Nat.add_comm]

theorem unwind_weight {weight : SoftFrame ρ → Nat} (delivering : ∀ toDrain, weight (.delivering toDrain) = 0)
    (subscribing : ∀ id, weight (.subscribing id) = 0) (stack : List (SoftFrame ρ)) :
    tally weight (unwind stack).2 = tally weight stack := by
  unfold unwind
  split <;> simp [delivering, subscribing]

theorem mem_of_unwind (stack : List (SoftFrame ρ)) : ∀ frame ∈ (unwind stack).2, frame ∈ stack := by
  unfold unwind
  intro frame among
  split at among
  · exact List.mem_cons_of_mem _ among
  · exact List.mem_cons_of_mem _ among
  · exact among

theorem popped_mem_unwind (stack : List (SoftFrame ρ)) (id : Nat) (reading : ρ) :
    .popped id reading ∈ (unwind stack).2 ↔ .popped id reading ∈ stack := by
  unfold unwind
  split <;> simp

/-- A panic lets the mailbox go and strands the drains that its store had promised. -/
theorem Kept.panics (kept : system.Kept) (found : system.threads[thread]? = some (.calling id :: below))
    (present : system.subs[id]? = some sub) :
    ({ system.putSub id { sub with draining := false } with
      panicked := system.panicked ++ [id]
      stranded := system.stranded ++ (unwind below).1 }.resume thread (unwind below).2).Kept := by
  have within := (List.getElem?_eq_some_iff.mp present).1
  have fair := kept.fair id sub present
  have claim : SoftSystem.claims id (.calling id : SoftFrame (τ × κ)) = 1 := by simp [SoftSystem.claims]
  have flagged := kept.flagged found claim present
  have awaits : ∀ other, tally (SoftSystem.awaits other) (unwind below).2 =
      tally (SoftSystem.awaits other) (.calling id :: below) := by
    intro other
    rw [unwind_weight (fun _ => rfl) (fun _ => rfl), tally_cons]
    simp [SoftSystem.awaits]
  have alters : system.Alters ({ system.putSub id { sub with draining := false } with
      panicked := system.panicked ++ [id]
      stranded := system.stranded ++ (unwind below).1 }.resume thread (unwind below).2)
      thread (.calling id :: below) (unwind below).2 (· = id) :=
    ⟨found, rfl, List.length_set, fun _ spared => List.getElem?_set_ne (Ne.symm spared), rfl, rfl, rfl,
      fun _ member => List.mem_append_left _ member⟩
  have posts : tally SoftSystem.posts (unwind below).2 =
      tally SoftSystem.posts (.calling id :: below) := by
    rw [unwind_weight (fun _ => rfl) (fun _ => rfl), tally_cons]
    simp [SoftSystem.posts]
  apply kept.alters alters
  · have both := alters.total SoftSystem.posts
    rw [posts] at both
    exact (Nat.add_right_cancel both).trans kept.posts
  · exact fun reading rest toDrain among =>
      ⟨rest, toDrain, List.mem_cons_of_mem _ (mem_of_unwind below _ among)⟩
  · exact fun other among => List.mem_cons_of_mem _ (mem_of_unwind below _ among)
  · exact fun other => Nat.le_of_eq (awaits other)
  · exact fun other _ => awaits other
  · intro other differs
    have dropped := unwind_claims below other
    change _ + (system.stranded ++ (unwind below).1).count other = _
    rw [List.count_append, tally_cons]
    simp only [SoftSystem.claims, if_neg (Ne.symm differs)]
    omega
  · intro other same
    subst same
    have both := alters.total (SoftSystem.claims other)
    have before := kept.claims other
    have dropped := unwind_claims below other
    rw [tally_cons, claim] at both
    rw [claimed_of_sub present, flagged, Bool.toNat_true] at before
    have released : SoftSystem.claimed ({ system.putSub other { sub with draining := false } with
        panicked := system.panicked ++ [other]
        stranded := system.stranded ++ (unwind below).1 }.resume thread (unwind below).2) other =
          false := by
      simp [claimed, resume, putSub, within]
    rw [released]
    change _ + (system.stranded ++ (unwind below).1).count other = 0
    rw [List.count_append]
    omega
  · intro other differs reading
    rw [popped_mem_unwind]
    simp
  · intro other same held there
    subst same
    have same : { sub with draining := false } = held := by simpa [resume, putSub, within] using there
    subst same
    have none : ∀ reading, ¬ SoftSystem.InHand ({ system.putSub other { sub with draining := false } with
        panicked := system.panicked ++ [other]
        stranded := system.stranded ++ (unwind below).1 }.resume thread (unwind below).2) other reading := by
      intro reading
      obtain ⟨under, elsewhere⟩ := sole found claim (kept.one other) reading
      rw [alters.inHand, popped_mem_unwind]
      exact not_or.mpr ⟨under, elsewhere⟩
    constructor
    · exact fair.since
    · intro member
      have both := alters.total (SoftSystem.awaits other)
      rw [awaits other] at both
      have same : SoftSystem.total (SoftSystem.awaits other) _ = total (SoftSystem.awaits other) system :=
        Nat.add_right_cancel both
      rw [same]
      exact fair.queued member
    · exact fair.ordered
    · exact fun reading there => (none reading there).elim
    · intro _
      apply fair.settled
      intro popped there
      cases (kept.held found claim popped).mp there
    · exact fun _ => Or.inr (List.mem_append_right _ List.mem_cons_self)
/-- The reading a store has written is queued for every subscriber there is. -/
theorem Kept.store (kept : system.Kept) (found : system.threads[thread]? = some stack)
    (unlocked : system.locked = false) (value : τ) (ts : κ) (put : Bool) :
    ((system.store value ts put).resume thread
      (.posting (value, ts) system.state.subscribers [] :: stack)).Kept := by
  have weigh (weight : SoftFrame (τ × κ) → Nat) :
      total weight ((system.store value ts put).resume thread
        (.posting (value, ts) system.state.subscribers [] :: stack)) =
      total weight system + weight (.posting (value, ts) system.state.subscribers []) := by
    have both := total_resume weight found
      (.posting (value, ts) system.state.subscribers [] :: stack)
    rw [tally_cons] at both
    change total weight (system.resume thread _) = _
    omega
  have quiet := kept.unlocked unlocked
  have none : total SoftSystem.posts system = 0 := by
    rw [kept.posts, unlocked]
    rfl
  constructor
  · rw [weigh, none]
    rfl
  · intro held member reading rest toDrain among
    have before (there : .posting reading rest toDrain ∈ held) (here : held ∈ system.threads) : False :=
      by cases tally_eq_zero.mp (tally_eq_zero.mp none held here) _ there
    cases List.mem_or_eq_of_mem_set member with
    | inl here => exact (before among here).elim
    | inr same =>
        subst same
        cases List.mem_cons.mp among with
        | inl head =>
            cases head
            rfl
        | inr later =>
            have zero := tally_eq_zero.mp (tally_eq_zero.mp none stack (List.mem_of_getElem? found))
            cases zero _ later
  · intro held member other among
    cases List.mem_or_eq_of_mem_set member with
    | inl here => exact kept.clearing held here other among
    | inr same =>
        subst same
        exact kept.clearing stack (List.mem_of_getElem? found) other (by simpa using among)
  · exact ⟨system.history, rfl⟩
  · exact kept.nextId
  · exact kept.distinct
  · exact kept.within
  · intro other
    rw [weigh, quiet]
    simp [SoftSystem.awaits, SoftSystem.store, resume]
  · intro other
    rw [weigh]
    exact kept.claims other
  · exact kept.poll
  · intro other sub present
    have fair := kept.fair other sub present
    have queued (member : other ∈ system.state.subscribers) :
        sub.taken ++ sub.pending = system.history.drop sub.since := by
      have before := fair.queued member
      rwa [quiet, Nat.sub_zero, List.drop_length, List.append_nil] at before
    have longer : (system.history ++ [(value, ts)]).drop sub.since =
        system.history.drop sub.since ++ [(value, ts)] :=
      List.drop_append_of_le_length (Nat.le_of_lt fair.since)
    have hands : ∀ reading, SoftSystem.InHand ((system.store value ts put).resume thread
        (.posting (value, ts) system.state.subscribers [] :: stack)) other reading ↔
          system.InHand other reading :=
      fun reading => hands_same found reading (by simp)
    constructor
    · change sub.since < (system.history ++ [(value, ts)]).length
      rw [List.length_append]
      exact Nat.lt_add_right _ fair.since
    · intro member
      change sub.taken ++ sub.pending ++ (system.history ++ [(value, ts)]).drop _ =
        (system.history ++ [(value, ts)]).drop sub.since
      rw [longer, queued member, weigh, quiet]
      change _ ++ (system.history ++ [(value, ts)]).drop ((system.history ++ [(value, ts)]).length -
        (0 + system.state.subscribers.count other)) = _
      rw [List.count_eq_one_of_mem kept.distinct member]
      simp
    · change _ <+: (system.history ++ [(value, ts)]).drop sub.since
      rw [longer]
      exact fair.ordered.trans (List.prefix_append _ _)
    · exact fun reading there => fair.popped reading ((hands reading).mp there)
    · exact fun none => fair.settled fun reading there => none reading ((hands reading).mpr there)
    · exact fair.backlog

theorem Kept.subs_other (kept : system.Kept) {other : Nat} (differs : other ≠ system.state.nextId) :
    system.subscribe.subs[other]? = system.subs[other]? := by
  rw [kept.nextId] at differs
  unfold SoftSystem.subscribe
  by_cases within : other < system.subs.length
  · exact List.getElem?_append_left within
  · rw [List.getElem?_eq_none (by omega : system.subs.length ≤ other)]
    exact List.getElem?_eq_none (by rw [List.length_append, List.length_singleton]; omega)

/-- A new subscriber is owed the reading that is current when it registers. -/
theorem Kept.subscribe (kept : system.Kept) (found : system.threads[thread]? = some stack)
    (unlocked : system.locked = false) :
    (system.subscribe.resume thread
      (.draining system.state.nextId :: .subscribing system.state.nextId :: stack)).Kept := by
  have weigh (weight : SoftFrame (τ × κ) → Nat) :
      total weight (system.subscribe.resume thread
        (.draining system.state.nextId :: .subscribing system.state.nextId :: stack)) =
      total weight system +
        (weight (.draining system.state.nextId) + weight (.subscribing system.state.nextId)) := by
    have both := total_resume weight found
      (.draining system.state.nextId :: .subscribing system.state.nextId :: stack)
    rw [tally_cons, tally_cons] at both
    change total weight (system.resume thread _) = _
    omega
  have quiet := kept.unlocked unlocked
  have beyond : system.subs[system.state.nextId]? = none :=
    List.getElem?_eq_none (Nat.le_of_eq kept.nextId.symm)
  have fresh := kept.claims system.state.nextId
  have unclaimed : system.claimed system.state.nextId = false := by simp [claimed, beyond]
  rw [unclaimed, Bool.toNat_false] at fresh
  have absent : system.state.nextId ∉ system.state.subscribers := fun member =>
    Nat.lt_irrefl _ (kept.nextId ▸ kept.within _ member)
  have hands : ∀ other reading, SoftSystem.InHand (system.subscribe.resume thread
      (.draining system.state.nextId :: .subscribing system.state.nextId :: stack)) other reading ↔
        system.InHand other reading :=
    fun other reading => hands_same found reading (by simp)
  have length : system.subscribe.subs.length = system.subs.length + 1 := by simp [SoftSystem.subscribe]
  constructor
  · rw [weigh, kept.posts]
    rfl
  · intro held member reading rest toDrain among
    cases List.mem_or_eq_of_mem_set member with
    | inl here => exact kept.posting held here reading rest toDrain among
    | inr same =>
        subst same
        exact kept.posting stack (List.mem_of_getElem? found) reading rest toDrain (by simpa using among)
  · intro held member other among
    have before : other < system.subs.length ∧ other ∉ system.state.subscribers := by
      cases List.mem_or_eq_of_mem_set member with
      | inl here => exact kept.clearing held here other among
      | inr same =>
          subst same
          exact kept.clearing stack (List.mem_of_getElem? found) other (by simpa using among)
    constructor
    · exact length ▸ Nat.lt_succ_of_lt before.1
    · have differs : other ≠ system.state.nextId := by
        have within := before.1
        rw [kept.nextId]
        omega
      exact fun there => (List.mem_append.mp there).elim before.2 (by simp [differs])
  · exact kept.current
  · change system.state.nextId + 1 = system.subscribe.subs.length
    rw [length, kept.nextId]
  · change (system.state.subscribers ++ [system.state.nextId]).Nodup
    exact List.nodup_append.mpr ⟨kept.distinct, List.nodup_singleton _, by
      intro other member last same
      simp only [List.mem_singleton] at same
      exact fun equal => absent (same ▸ equal ▸ member)⟩
  · intro other member
    change other < system.subscribe.subs.length
    rw [length]
    cases List.mem_append.mp member with
    | inl before => exact Nat.lt_succ_of_lt (kept.within other before)
    | inr last =>
        rw [List.mem_singleton.mp last, kept.nextId]
        exact Nat.lt_succ_self _
  · intro other
    rw [weigh, quiet]
    exact Nat.zero_le _
  · intro other
    rw [weigh]
    change _ + system.stranded.count other = _
    by_cases same : other = system.state.nextId
    · subst same
      have here : SoftSystem.claimed (system.subscribe.resume thread
          (.draining system.state.nextId :: .subscribing system.state.nextId :: stack))
            system.state.nextId = true := by
        simp [claimed, resume, SoftSystem.subscribe, kept.nextId]
      rw [here]
      simp [SoftSystem.claims]
      omega
    · have here : SoftSystem.claimed (system.subscribe.resume thread
          (.draining system.state.nextId :: .subscribing system.state.nextId :: stack)) other =
            system.claimed other := by
        unfold claimed
        exact congrArg _ (kept.subs_other same)
      rw [here, ← kept.claims other]
      simp [SoftSystem.claims, Ne.symm same]
  · change (if (system.state.subscribers ++ [system.state.nextId]).length = 1 then system.pollPeriod
      else system.state.poll) =
        (system.pollPeriod && !(system.state.subscribers ++ [system.state.nextId]).isEmpty)
    cases empty : system.state.subscribers with
    | nil => simp
    | cons first rest => simp [kept.poll, empty]
  · intro other sub present
    change system.subscribe.subs[other]? = some sub at present
    by_cases same : other = system.state.nextId
    · subst same
      obtain ⟨before, history⟩ := kept.current
      have new : sub = ⟨⟨[(system.state.value, system.state.timestamp)], true⟩,
          system.history.length - 1, [], []⟩ := by
        simpa [SoftSystem.subscribe, kept.nextId] using present.symm
      have current : system.history.drop (system.history.length - 1) =
          [(system.state.value, system.state.timestamp)] := by
        rw [history]
        simp
      have none : ∀ reading, ¬ system.InHand system.state.nextId reading := by
        rintro reading ⟨held, member, popped⟩
        have zero : total (SoftSystem.claims system.state.nextId) system = 0 := by omega
        have nothing := tally_eq_zero.mp (tally_eq_zero.mp zero held member) _ popped
        rw [claims_popped] at nothing
        cases nothing
      subst new
      constructor
      · change system.history.length - 1 < system.history.length
        rw [history]
        simp
      · intro _
        change [] ++ [_] ++ system.history.drop _ = system.history.drop (system.history.length - 1)
        rw [weigh, quiet, current]
        change [_] ++ system.history.drop (system.history.length - 0) = _
        simp
      · change [] ++ [_] <+: system.history.drop (system.history.length - 1)
        rw [current]
        exact List.prefix_refl _
      · exact fun reading there => (none reading ((hands _ reading).mp there)).elim
      · exact fun _ => rfl
      · intro released
        cases released
    · rw [kept.subs_other same] at present
      refine (kept.fair other sub present).congr rfl ?_ ?_ ?_ ?_
      · intro member
        cases List.mem_append.mp member with
        | inl before => exact before
        | inr last => exact (same (List.mem_singleton.mp last)).elim
      · intro _
        rw [weigh]
        rfl
      · exact hands other
      · exact fun _ member => member

theorem Kept.unsubscribe (kept : system.Kept) (found : system.threads[thread]? = some stack)
    (unlocked : system.locked = false) :
    ((system.unsubscribe id).resume thread
      (if id ∈ system.state.subscribers then .clearing id :: stack else stack)).Kept := by
  have same {weight : SoftFrame (τ × κ) → Nat} (clearing : weight (.clearing id) = 0) :
      total weight ((system.unsubscribe id).resume thread
        (if id ∈ system.state.subscribers then .clearing id :: stack else stack)) =
          total weight system := by
    change total weight (system.resume thread _) = _
    apply total_same found
    split
    · rw [tally_cons, clearing, Nat.zero_add]
    · rfl
  have quiet := kept.unlocked unlocked
  have hands : ∀ other reading, SoftSystem.InHand ((system.unsubscribe id).resume thread
      (if id ∈ system.state.subscribers then .clearing id :: stack else stack)) other reading ↔
        system.InHand other reading := by
    intro other reading
    apply hands_same found reading
    split <;> simp
  have gone : ∀ other ∈ system.state.subscribers.erase id, other ∈ system.state.subscribers :=
    fun _ member => List.mem_of_mem_erase member
  constructor
  · rw [same rfl, kept.posts]
    rfl
  · intro held member reading rest toDrain among
    cases List.mem_or_eq_of_mem_set member with
    | inl here => exact kept.posting held here reading rest toDrain among
    | inr equal =>
        subst equal
        apply kept.posting stack (List.mem_of_getElem? found) reading rest toDrain
        split at among
        · simpa using among
        · exact among
  · intro held member other among
    have old (there : other < system.subs.length ∧ other ∉ system.state.subscribers) :
        other < system.subs.length ∧ other ∉ system.state.subscribers.erase id :=
      ⟨there.1, fun inside => there.2 (gone other inside)⟩
    cases List.mem_or_eq_of_mem_set member with
    | inl here => exact old (kept.clearing held here other among)
    | inr equal =>
        subst equal
        have before := kept.clearing stack (List.mem_of_getElem? found) other
        split at among
        · rename_i registered
          cases List.mem_cons.mp among with
          | inl head =>
              cases head
              exact ⟨kept.within _ registered, kept.distinct.not_mem_erase⟩
          | inr later => exact old (before later)
        · exact old (before among)
  · exact kept.current
  · exact kept.nextId
  · exact kept.distinct.erase id
  · exact fun other member => kept.within other (gone other member)
  · intro other
    rw [same rfl, quiet]
    exact Nat.zero_le _
  · intro other
    rw [same rfl]
    exact kept.claims other
  · change (if (system.state.subscribers.erase id).isEmpty then false else system.state.poll) =
      (system.pollPeriod && !(system.state.subscribers.erase id).isEmpty)
    cases rest : system.state.subscribers.erase id with
    | nil => simp
    | cons first others =>
        have some : system.state.subscribers ≠ [] := by
          intro empty
          rw [empty] at rest
          cases rest
        simp [kept.poll, some]
  · intro other sub present
    refine (kept.fair other sub present).congr rfl ?_ ?_ ?_ ?_
    · exact gone other
    · exact fun _ => same rfl
    · exact hands other
    · exact fun _ member => member

/-- A thread goes on with the frame it is in. -/
theorem Kept.go (kept : system.Kept) (found : system.threads[thread]? = some stack)
    {next : SoftSystem τ κ} (moved : system.go thread stack = some next) : next.Kept := by
  cases stack with
  | nil => cases moved
  | cons frame below =>
      cases frame with
      | posting reading rest toDrain =>
          cases rest with
          | cons id rest =>
              obtain ⟨sub, present, rfl⟩ := Option.map_eq_some_iff.mp moved
              exact kept.post found present
          | nil =>
              have locked : system.locked.toNat = 1 := by
                have here := le_total SoftSystem.posts found
                have counted := kept.posts
                have most := Bool.toNat_le system.locked
                rw [tally_cons] at here
                simp only [SoftSystem.posts] at here
                omega
              cases moved
              apply kept.passes found
              · simp [SoftSystem.posts, locked, Nat.add_comm]
              · exact fun _ rest' toDrain' among =>
                  ⟨rest', toDrain', List.mem_cons_of_mem _ (by simpa using among)⟩
              · simp
              · exact fun _ => rfl
              · exact fun _ => rfl
              · simp
      | delivering toDrain =>
          cases toDrain with
          | nil =>
              cases moved
              apply kept.passes found
              · simp [SoftSystem.posts]
              · exact fun _ rest' toDrain' among => ⟨rest', toDrain', by simpa using among⟩
              · simp
              · simp [SoftSystem.awaits]
              · simp [SoftSystem.claims]
              · simp
          | cons id rest =>
              cases moved
              apply kept.passes found
              · simp [SoftSystem.posts]
              · exact fun _ rest' toDrain' among => ⟨rest', toDrain', by simpa using among⟩
              · simp
              · simp [SoftSystem.awaits]
              · intro other
                simp only [tally_cons, SoftSystem.claims, List.count_cons, beq_iff_eq]
                omega
              · simp
      | draining id =>
          obtain ⟨sub, present, same⟩ := Option.map_eq_some_iff.mp moved
          split at same
          · rename_i reading rest pending
            subst same
            exact kept.pop found present pending
          · rename_i pending
            subst same
            exact kept.idle found present pending
      | popped id reading =>
          obtain ⟨sub, present, rfl⟩ := Option.map_eq_some_iff.mp moved
          exact kept.call found present
      | calling id => cases moved
      | subscribing id =>
          cases moved
          apply kept.passes found
          · simp [SoftSystem.posts]
          · exact fun _ rest' toDrain' among => ⟨rest', toDrain', by simpa using among⟩
          · simp
          · simp [SoftSystem.awaits]
          · simp [SoftSystem.claims]
          · simp
      | clearing id =>
          obtain ⟨sub, present, rfl⟩ := Option.map_eq_some_iff.mp moved
          exact kept.clear found present

/-- Every step of every thread keeps it. -/
theorem Kept.step (kept : system.Kept) {label : Nat × SoftAction τ κ} {next : SoftSystem τ κ}
    (stepped : system.step label = some next) : next.Kept := by
  obtain ⟨thread, action⟩ := label
  obtain ⟨stack, found, moved⟩ := Option.bind_eq_some_iff.mp stepped
  cases action with
  | store value ts put =>
      simp only [Option.ite_none_right_eq_some, Option.some.injEq] at moved
      obtain ⟨⟨_, unlocked⟩, rfl⟩ := moved
      exact kept.store found unlocked value ts put
  | aim value =>
      simp only [Option.ite_none_right_eq_some, Option.some.injEq] at moved
      obtain ⟨_, rfl⟩ := moved
      exact { kept with
        fair := fun id sub present => (kept.fair id sub present).congr rfl (fun member => member)
          (fun _ => rfl) (fun _ => Iff.rfl) (fun _ member => member) }
  | subscribe =>
      simp only [Option.ite_none_right_eq_some, Option.some.injEq] at moved
      obtain ⟨⟨_, unlocked⟩, rfl⟩ := moved
      exact kept.subscribe found unlocked
  | unsubscribe id =>
      simp only [Option.ite_none_right_eq_some, Option.some.injEq] at moved
      obtain ⟨⟨_, unlocked, _⟩, rfl⟩ := moved
      exact kept.unsubscribe found unlocked
  | returns =>
      cases stack with
      | nil => cases moved
      | cons frame below =>
          cases frame with
          | calling id =>
              cases moved
              apply kept.passes found
              · rfl
              · exact fun _ rest' toDrain' among => ⟨rest', toDrain', by simpa using among⟩
              · simp
              · exact fun _ => rfl
              · exact fun _ => rfl
              · simp
          | _ => cases moved
  | panics =>
      cases stack with
      | nil => cases moved
      | cons frame below =>
          cases frame with
          | calling id =>
              obtain ⟨sub, present, rfl⟩ := Option.map_eq_some_iff.mp moved
              exact kept.panics found present
          | _ => cases moved
  | go => exact kept.go found moved

theorem Kept.start (pollPeriod : Bool) (initial : τ) (ts : κ) (threads : Nat) :
    (SoftSystem.start pollPeriod initial ts threads).Kept := by
  have none (weight : SoftFrame (τ × κ) → Nat) :
      total weight (SoftSystem.start pollPeriod initial ts threads) = 0 := by
    apply tally_eq_zero.mpr
    intro stack member
    rw [List.eq_of_mem_replicate member]
    rfl
  have empty : ∀ stack ∈ (SoftSystem.start pollPeriod initial ts threads).threads, stack = [] :=
    fun _ member => List.eq_of_mem_replicate member
  constructor
  · exact none _
  · intro stack member reading rest toDrain among
    rw [empty stack member] at among
    cases among
  · intro stack member id among
    rw [empty stack member] at among
    cases among
  · exact ⟨[], rfl⟩
  · rfl
  · exact List.nodup_nil
  · intro _ member
    cases member
  · intro id
    rw [none]
    exact Nat.zero_le _
  · intro id
    rw [none]
    rfl
  · exact (Bool.and_false _).symm
  · intro _ _ present
    cases present

theorem run_kept {pollPeriod : Bool} {initial : τ} {ts : κ} {threads : Nat}
    {labels : List (Nat × SoftAction τ κ)} {reached : SoftSystem τ κ}
    (run : exec step (start pollPeriod initial ts threads) labels = some reached) : reached.Kept :=
  exec_invariant Kept (fun _ _ _ stepped kept => kept.step stepped) run (.start _ _ _ _)

end SoftSystem

end Bsrs.Devices
