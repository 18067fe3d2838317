import Bsrs.Devices.SoftDelivery

namespace Bsrs.Devices

open Library

variable {τ κ ρ : Type}

namespace SoftSystem

variable {system : SoftSystem τ κ} {thread id : Nat} {stack below : List (SoftFrame (τ × κ))}
  {sub : SoftSubscriber (τ × κ)}

/-! ## What a callback is called with -/

/-- What the subscriber's callback has been called with, in order. -/
def calls (system : SoftSystem τ κ) (id : Nat) : List (τ × κ) :=
  ((system.subs[id]?).map SoftSubscriber.heard).getD []

/-- Inside the subscriber's callback. -/
def inside (id : Nat) : SoftFrame ρ → Nat
  | .calling other => if other = id then 1 else 0
  | _ => 0

theorem inside_le_claims (id : Nat) (frame : SoftFrame ρ) : inside id frame ≤ claims id frame := by
  cases frame <;> simp [inside, claims]

theorem Kept.alone (kept : system.Kept) (id : Nat) : total (inside id) system ≤ 1 :=
  Nat.le_trans (tally_le_tally (fun held => tally_le_tally (inside_le_claims id) held) system.threads)
    (kept.one id)

theorem calls_of_sub (present : system.subs[id]? = some sub) : system.calls id = sub.heard := by
  simp [calls, present]

theorem Fair.heard_of_taken (fair : system.Fair id sub) : sub.heard <+: sub.taken := by
  by_cases hand : ∃ reading, system.InHand id reading
  · obtain ⟨reading, there⟩ := hand
    rw [fair.popped reading there]
    exact List.prefix_append _ _
  · exact fair.settled (not_exists.mp hand) ▸ List.prefix_refl _

theorem Kept.calls_prefix (kept : system.Kept) (present : system.subs[id]? = some sub) :
    system.calls id <+: system.history.drop sub.since := by
  have fair := kept.fair id sub present
  rw [calls_of_sub present]
  exact fair.heard_of_taken.trans ((List.prefix_append _ _).trans fair.ordered)

theorem AtRest.total (rest : system.AtRest) (weight : SoftFrame (τ × κ) → Nat) :
    SoftSystem.total weight system = 0 := by
  apply tally_eq_zero.mpr
  intro stack member
  rw [rest stack member]
  rfl

/-- At rest a registered subscriber has been called with all it is owed, unless a panic got in
the way. -/
theorem Kept.calls_rest (kept : system.Kept) (rest : system.AtRest)
    (present : system.subs[id]? = some sub) (registered : id ∈ system.state.subscribers)
    (steady : id ∉ system.panicked) (minded : id ∉ system.stranded) :
    system.calls id = system.history.drop sub.since := by
  have fair := kept.fair id sub present
  have released : sub.draining = false := by
    have counted := kept.claims id
    rw [rest.total, List.count_eq_zero_of_not_mem minded, claimed_of_sub present] at counted
    exact Bool.toNat_eq_zero.mp counted.symm
  have none : ∀ reading, ¬ system.InHand id reading := by
    rintro reading ⟨stack, member, popped⟩
    rw [rest stack member] at popped
    cases popped
  have empty : sub.pending = [] := (fair.backlog released).resolve_right steady
  have queued := fair.queued registered
  rw [rest.total, Nat.sub_zero, List.drop_length, empty, fair.settled none, List.append_nil,
    List.append_nil] at queued
  simp [calls, present, queued]

/-- In any run, a callback is called by one thread at a time, with the readings stored since its
registration in the order they were stored, from the reading current then on; and once every thread
is at rest it has been called with all of them, if it is still registered, has not panicked and was
not stranded by the panic of another. -/
theorem delivered_in_order {pollPeriod : Bool} {initial : τ} {ts : κ} {threads : Nat}
    {labels : List (Nat × SoftAction τ κ)} {reached : SoftSystem τ κ}
    (run : exec step (start pollPeriod initial ts threads) labels = some reached) :
    ∀ id sub, reached.subs[id]? = some sub →
      sub.since < reached.history.length ∧
      reached.calls id <+: reached.history.drop sub.since ∧
      total (inside id) reached ≤ 1 ∧
      (reached.AtRest → id ∈ reached.state.subscribers → id ∉ reached.panicked →
        id ∉ reached.stranded → reached.calls id = reached.history.drop sub.since) := by
  intro id sub present
  have kept := run_kept run
  exact ⟨(kept.fair id sub present).since, kept.calls_prefix present, kept.alone id,
    fun rest registered steady minded => kept.calls_rest rest present registered steady minded⟩

/-- Two stores, the second from another thread while the first is being delivered; both are heard from
the first thread, and then all is at rest. -/
theorem delivered_in_order_store :
    ∃ reached : SoftSystem Nat Nat, reached.history = [(5, 0), (7, 1), (8, 2)] ∧
      total (inside 0) reached ≤ 1 ∧ reached.calls 0 = reached.history.drop 0 := by
  have run : exec step (start false 5 0 2)
      [(0, .subscribe), (0, .go), (0, .go), (0, .returns), (0, .go), (0, .go), (0, .store 7 1 true),
        (0, .go), (0, .go), (0, .go), (0, .go), (1, .store 8 2 false), (1, .go), (1, .go), (0, .go),
        (0, .returns), (0, .go), (0, .go), (0, .returns), (0, .go), (1, .go), (0, .go)] =
      some (⟨false, ⟨8, 7, 2, [0], 1, false⟩, false,
        [⟨⟨[], false⟩, 0, [(5, 0), (7, 1), (8, 2)], [(5, 0), (7, 1), (8, 2)]⟩], [[], []], [0],
        [(5, 0), (7, 1), (8, 2)], [], []⟩ : SoftSystem Nat Nat) := rfl
  obtain ⟨_, _, alone, all⟩ := delivered_in_order run 0 _ rfl
  exact ⟨_, rfl, alone, all (by simp [AtRest]) (by decide) (by decide) (by decide)⟩

/-! ## Coming to rest -/

/-- How many steps a frame still stands for, its mailbox aside. -/
def ahead : SoftFrame ρ → Nat
  | .posting _ rest toDrain => 2 + 6 * rest.length + 2 * toDrain.length
  | .delivering toDrain => 1 + 2 * toDrain.length
  | .draining _ => 1
  | .popped _ _ => 3
  | .calling _ => 2
  | .subscribing _ | .clearing _ => 1

/-- The steps that are ahead if nobody starts anything new. -/
def remaining (system : SoftSystem τ κ) : Nat :=
  total ahead system + tally (fun sub => 3 * sub.pending.length) system.subs

/-- The thread goes on or returns from the callback it is in. -/
def SoftAction.winds : SoftAction τ κ → Bool
  | .go | .returns => true
  | _ => false

theorem fewer_resume (found : system.threads[thread]? = some stack) (after : List (SoftFrame (τ × κ)))
    (less : tally ahead after < tally ahead stack) :
    remaining (system.resume thread after) < remaining system := by
  have both := total_resume ahead found after
  unfold remaining
  change total ahead (system.resume thread after) + tally _ system.subs < _
  omega

theorem fewer_putSub (found : system.threads[thread]? = some stack)
    (present : system.subs[id]? = some sub) {held : SoftSubscriber (τ × κ)}
    {after : List (SoftFrame (τ × κ))}
    (less : tally ahead after + 3 * held.pending.length < tally ahead stack + 3 * sub.pending.length) :
    remaining ((system.putSub id held).resume thread after) < remaining system := by
  have moved := total_resume ahead found after
  have queued : tally (fun sub : SoftSubscriber (τ × κ) => 3 * sub.pending.length)
      (system.subs.set id held) + 3 * sub.pending.length =
        tally (fun sub : SoftSubscriber (τ × κ) => 3 * sub.pending.length) system.subs +
          3 * held.pending.length :=
    tally_set present held
  unfold remaining
  change total ahead (system.resume thread after) + tally _ (system.subs.set id held) < _
  omega

theorem Kept.present (kept : system.Kept) {frame : SoftFrame (τ × κ)}
    (found : system.threads[thread]? = some (frame :: below)) (claim : SoftSystem.claims id frame = 1) :
    ∃ sub, system.subs[id]? = some sub := by
  have counted := kept.claims id
  have here := le_total (SoftSystem.claims id) found
  rw [tally_cons, claim] at here
  cases present : system.subs[id]? with
  | some sub => exact ⟨sub, rfl⟩
  | none =>
      simp only [claimed, present, Option.any_none, Bool.toNat_false] at counted
      omega

/-- What a thread brings about by only going on. -/
structure Winds (system next : SoftSystem τ κ) : Prop where
  fewer : remaining next < remaining system
  history : next.history = system.history
  state : next.state = system.state
  panicked : next.panicked = system.panicked
  stranded : next.stranded = system.stranded
  since : next.subs.map SoftSubscriber.since = system.subs.map SoftSubscriber.since

theorem since_putSub (present : system.subs[id]? = some sub) {held : SoftSubscriber (τ × κ)}
    (same : held.since = sub.since) :
    (system.putSub id held).subs.map SoftSubscriber.since = system.subs.map SoftSubscriber.since := by
  have position : (system.subs.map SoftSubscriber.since)[id]? = some held.since := by
    rw [List.getElem?_map, present, same]
    rfl
  obtain ⟨within, here⟩ := List.getElem?_eq_some_iff.mp position
  rw [putSub, List.map_set, ← here, List.set_getElem_self]

theorem go_post (present : system.subs[id]? = some sub) (reading : τ × κ) (rest toDrain : List Nat) :
    system.go thread (.posting reading (id :: rest) toDrain :: below) =
      some ((system.putSub id { sub with toMailbox := (sub.enqueue reading).2 }).resume thread
        (.posting reading rest (if (sub.enqueue reading).1 then toDrain ++ [id] else toDrain) ::
          below)) := by
  simp [go, present]

theorem go_pop (present : system.subs[id]? = some sub) {reading : τ × κ} {rest : List (τ × κ)}
    (pending : sub.pending = reading :: rest) : system.go thread (.draining id :: below) =
      some ((system.putSub id { sub with pending := rest, taken := sub.taken ++ [reading] }).resume
        thread (.popped id reading :: below)) := by
  simp [go, present, pending]

theorem go_idle (present : system.subs[id]? = some sub) (pending : sub.pending = []) :
    system.go thread (.draining id :: below) =
      some ((system.putSub id { sub with draining := false }).resume thread below) := by
  simp [go, present, pending]

theorem go_popped (present : system.subs[id]? = some sub) (reading : τ × κ) :
    system.go thread (.popped id reading :: below) =
      some ((system.putSub id { sub with heard := sub.heard ++ [reading] }).resume thread
        (.calling id :: below)) := by
  simp [go, present]

theorem go_clearing (present : system.subs[id]? = some sub) :
    system.go thread (.clearing id :: below) =
      some ((system.putSub id { sub with pending := [] }).resume thread below) := by
  simp [go, present]

/-- No thread inside the backend is ever stuck: it can go on, and does not go on for ever. -/
theorem Kept.goes (kept : system.Kept) {frame : SoftFrame (τ × κ)}
    (found : system.threads[thread]? = some (frame :: below)) (inside : free (frame :: below) = false) :
    ∃ next, system.go thread (frame :: below) = some next ∧ system.Winds next := by
  cases frame with
  | posting reading rest toDrain =>
      cases rest with
      | nil =>
          have fewer := fewer_resume found (.delivering toDrain :: below)
            (by simp only [tally_cons, ahead, List.length_nil]; omega)
          exact ⟨_, rfl, fewer, rfl, rfl, rfl, rfl, rfl⟩
      | cons id rest =>
          have counted := kept.awaits id
          have here := le_total (SoftSystem.awaits id) found
          simp only [tally_cons, SoftSystem.awaits, List.count_cons_self] at here
          have member : id ∈ system.state.subscribers := List.count_pos_iff.mp (by omega)
          obtain ⟨sub, present⟩ : ∃ sub, system.subs[id]? = some sub :=
            ⟨_, List.getElem?_eq_getElem (kept.within id member)⟩
          refine ⟨_, go_post present reading rest toDrain, ?_, rfl, rfl, rfl, rfl, since_putSub present rfl⟩
          apply fewer_putSub found present
          have drains : (if (sub.enqueue reading).1 then toDrain ++ [id] else toDrain).length ≤
              toDrain.length + 1 := by
            split <;> simp
          simp only [tally_cons, ahead, Mailbox.enqueue, List.length_cons, List.length_append,
            List.length_nil] at drains ⊢
          omega
  | delivering toDrain =>
      cases toDrain with
      | nil =>
          refine ⟨_, rfl, fewer_resume found _ ?_, rfl, rfl, rfl, rfl, rfl⟩
          simp [ahead]
      | cons id rest =>
          refine ⟨_, rfl, fewer_resume found _ ?_, rfl, rfl, rfl, rfl, rfl⟩
          simp only [tally_cons, ahead, List.length_cons]
          omega
  | draining id =>
      have claim : SoftSystem.claims id (.draining id : SoftFrame (τ × κ)) = 1 := by
        simp [SoftSystem.claims]
      obtain ⟨sub, present⟩ := kept.present found claim
      cases pending : sub.pending with
      | nil =>
          refine ⟨_, go_idle present pending, fewer_putSub found present ?_, rfl, rfl, rfl, rfl,
            since_putSub present rfl⟩
          simp [ahead]
      | cons reading rest =>
          refine ⟨_, go_pop present pending, fewer_putSub found present ?_, rfl, rfl, rfl, rfl,
            since_putSub present rfl⟩
          simp only [tally_cons, ahead, pending, List.length_cons]
          omega
  | popped id reading =>
      obtain ⟨sub, present⟩ := kept.present found (claims_popped id reading)
      refine ⟨_, go_popped present reading, fewer_putSub found present ?_, rfl, rfl, rfl, rfl,
        since_putSub present rfl⟩
      simp [ahead]
  | calling id => cases inside
  | subscribing id =>
      have fewer := fewer_resume found below (by simp [ahead])
      exact ⟨_, rfl, fewer, rfl, rfl, rfl, rfl, rfl⟩
  | clearing id =>
      obtain ⟨within, _⟩ := kept.clearing _ (List.mem_of_getElem? found) id List.mem_cons_self
      have present := List.getElem?_eq_getElem within
      refine ⟨_, go_clearing present, fewer_putSub found present ?_, rfl, rfl, rfl, rfl,
        since_putSub present rfl⟩
      simp only [tally_cons, ahead, List.length_nil]
      omega

/-- Some thread that is not at rest goes on, or returns from its callback. -/
theorem Kept.winds (kept : system.Kept) (busy : ¬ system.AtRest) :
    ∃ label next, SoftAction.winds (Prod.snd label) ∧ system.step label = some next ∧
      system.Winds next := by
  obtain ⟨stack, member, occupied⟩ : ∃ stack ∈ system.threads, stack ≠ [] := by
    simpa [AtRest] using busy
  obtain ⟨thread, found⟩ := List.getElem?_of_mem member
  obtain ⟨frame, below, rfl⟩ := List.exists_cons_of_ne_nil occupied
  by_cases inside : free (frame :: below) = false
  · obtain ⟨next, gone, winds⟩ := kept.goes found inside
    exact ⟨(thread, .go), next, rfl, by simp [SoftSystem.step, found, gone], winds⟩
  · cases frame with
    | calling id =>
        have fewer := fewer_resume found (.draining id :: below) (by simp [ahead])
        refine ⟨(thread, .returns), _, rfl, by simp [SoftSystem.step, found], fewer, rfl, rfl, rfl, rfl, rfl⟩
    | _ => exact (inside rfl).elim

/-- However the threads stand, letting them go on and the callbacks return brings them all to rest,
and every registered subscriber that no panic has met has then been called with all it is owed. -/
theorem comes_to_rest {pollPeriod : Bool} {initial : τ} {ts : κ} {threads : Nat}
    {labels : List (Nat × SoftAction τ κ)} {reached : SoftSystem τ κ}
    (run : exec step (start pollPeriod initial ts threads) labels = some reached) :
    ∃ more final, (∀ label ∈ more, SoftAction.winds (Prod.snd label)) ∧
      exec step reached more = some final ∧ final.AtRest ∧ final.history = reached.history ∧
      ∀ id sub, reached.subs[id]? = some sub → id ∈ reached.state.subscribers →
        id ∉ reached.panicked → id ∉ reached.stranded →
        final.calls id = reached.history.drop sub.since := by
  have kept := run_kept run
  clear run
  generalize measured : remaining reached = bound
  induction bound using Nat.strongRecOn generalizing reached with
  | ind bound ih =>
      by_cases rest : reached.AtRest
      · exact ⟨[], reached, by simp, rfl, rest, rfl, fun id sub present registered steady minded =>
          kept.calls_rest rest present registered steady minded⟩
      · obtain ⟨label, next, winds, stepped, goes⟩ := kept.winds rest
        obtain ⟨more, final, each, ran, quiet, history, heard⟩ :=
          ih (remaining next) (measured ▸ goes.fewer) (kept.step stepped) rfl
        refine ⟨label :: more, final, ?_, ?_, quiet, history.trans goes.history, ?_⟩
        · intro other member
          cases List.mem_cons.mp member with
          | inl first => exact first ▸ winds
          | inr later => exact each other later
        · simp [exec, stepped, ran]
        · intro id sub present registered steady minded
          have position := congrArg (fun since => since[id]?) goes.since
          simp only [List.getElem?_map, present, Option.map_some] at position
          obtain ⟨held, there, same⟩ := Option.map_eq_some_iff.mp position
          rw [← same, ← goes.history]
          exact heard id held there (goes.state ▸ registered) (goes.panicked ▸ steady)
            (goes.stranded ▸ minded)

theorem comes_to_rest_posting :
    ∃ more : List (Nat × SoftAction Nat Nat), ∃ final : SoftSystem Nat Nat, (∀ label ∈ more, SoftAction.winds (Prod.snd label)) ∧
      final.AtRest ∧ final.calls 0 = [(5, 0), (7, 1)] := by
  have run : exec step (start false 5 0 2) [(0, .subscribe), (1, .store 7 1 true)] =
      some (⟨false, ⟨7, 7, 1, [0], 1, false⟩, true, [⟨⟨[(5, 0)], true⟩, 0, [], []⟩],
        [[.draining 0, .subscribing 0], [.posting (7, 1) [0] []]], [], [(5, 0), (7, 1)], [], []⟩ :
          SoftSystem Nat Nat) := rfl
  obtain ⟨more, final, winds, _, rest, _, heard⟩ := comes_to_rest run
  exact ⟨more, final, winds, rest, heard 0 _ rfl (by decide) (by decide) (by decide)⟩

/-! ## What a panic and an unsubscribe leave -/

/-- What one step can do to a subscriber. -/
inductive Turns (system : SoftSystem τ κ) (id : Nat) (sub : SoftSubscriber (τ × κ)) :
    SoftSubscriber (τ × κ) → Prop where
  | same : Turns system id sub sub
  | queued (reading : τ × κ) (awaited : 0 < total (awaits id) system) :
      Turns system id sub { sub with toMailbox := (sub.enqueue reading).2 }
  | popped (reading : τ × κ) (rest : List (τ × κ)) (pending : sub.pending = reading :: rest)
      (drained : 0 < total (claims id) system) :
      Turns system id sub { sub with pending := rest, taken := sub.taken ++ [reading] }
  | released : Turns system id sub { sub with draining := false }
  | called (reading : τ × κ) (hand : system.InHand id reading) :
      Turns system id sub { sub with heard := sub.heard ++ [reading] }
  | cleared : Turns system id sub { sub with pending := [] }

theorem turns_putSub {other : Nat} {held after : SoftSubscriber (τ × κ)}
    (present : system.subs[id]? = some sub) (there : system.subs[other]? = some held)
    (turns : other = id → system.Turns id held after) :
    ∃ result, (system.putSub other after).subs[id]? = some result ∧ system.Turns id sub result := by
  by_cases same : other = id
  · subst same
    cases present.symm.trans there
    have within := (List.getElem?_eq_some_iff.mp present).1
    exact ⟨after, by simp [putSub, within], turns rfl⟩
  · refine ⟨sub, ?_, .same⟩
    rw [putSub, List.getElem?_set_ne same, present]

theorem total_pos {weight : SoftFrame (τ × κ) → Nat} {frame : SoftFrame (τ × κ)}
    (found : system.threads[thread]? = some (frame :: below)) (positive : 0 < weight frame) :
    0 < total weight system := by
  have here := le_total weight found
  rw [tally_cons] at here
  omega

theorem turns_go {next : SoftSystem τ κ} (found : system.threads[thread]? = some stack)
    (moved : system.go thread stack = some next) (present : system.subs[id]? = some sub) :
    ∃ held, next.subs[id]? = some held ∧ system.Turns id sub held := by
  cases stack with
  | nil => cases moved
  | cons frame below =>
      cases frame with
      | posting reading rest toDrain =>
          cases rest with
          | nil =>
              cases moved
              exact ⟨sub, present, .same⟩
          | cons other rest =>
              obtain ⟨held, there, rfl⟩ := Option.map_eq_some_iff.mp moved
              apply turns_putSub present there
              intro same
              exact .queued reading (total_pos found (by simp [awaits, same]))
      | delivering toDrain =>
          cases toDrain with
          | nil =>
              cases moved
              exact ⟨sub, present, .same⟩
          | cons other rest =>
              cases moved
              exact ⟨sub, present, .same⟩
      | draining other =>
          obtain ⟨held, there, same⟩ := Option.map_eq_some_iff.mp moved
          split at same
          · rename_i reading rest pending
            subst same
            apply turns_putSub present there
            intro same
            exact .popped reading rest pending (total_pos found (by simp [claims, same]))
          · subst same
            exact turns_putSub present there fun _ => .released
      | popped other reading =>
          obtain ⟨held, there, rfl⟩ := Option.map_eq_some_iff.mp moved
          apply turns_putSub present there
          intro same
          subst same
          exact .called reading ⟨_, List.mem_of_getElem? found, List.mem_cons_self⟩
      | calling other => cases moved
      | subscribing other =>
          cases moved
          exact ⟨sub, present, .same⟩
      | clearing other =>
          obtain ⟨held, there, rfl⟩ := Option.map_eq_some_iff.mp moved
          exact turns_putSub present there fun _ => .cleared

theorem turns_step {label : Nat × SoftAction τ κ} {next : SoftSystem τ κ}
    (stepped : system.step label = some next) (present : system.subs[id]? = some sub) :
    ∃ held, next.subs[id]? = some held ∧ system.Turns id sub held := by
  obtain ⟨thread, action⟩ := label
  obtain ⟨stack, found, moved⟩ := Option.bind_eq_some_iff.mp stepped
  cases action with
  | store value ts put =>
      simp only [Option.ite_none_right_eq_some, Option.some.injEq] at moved
      obtain ⟨_, rfl⟩ := moved
      exact ⟨sub, present, .same⟩
  | aim value =>
      simp only [Option.ite_none_right_eq_some, Option.some.injEq] at moved
      obtain ⟨_, rfl⟩ := moved
      exact ⟨sub, present, .same⟩
  | subscribe =>
      simp only [Option.ite_none_right_eq_some, Option.some.injEq] at moved
      obtain ⟨_, rfl⟩ := moved
      refine ⟨sub, ?_, .same⟩
      have within := (List.getElem?_eq_some_iff.mp present).1
      exact (List.getElem?_append_left within).trans present
  | unsubscribe other =>
      simp only [Option.ite_none_right_eq_some, Option.some.injEq] at moved
      obtain ⟨_, rfl⟩ := moved
      exact ⟨sub, present, .same⟩
  | returns =>
      cases stack with
      | nil => cases moved
      | cons frame below =>
          cases frame with
          | calling other =>
              cases moved
              exact ⟨sub, present, .same⟩
          | _ => cases moved
  | panics =>
      cases stack with
      | nil => cases moved
      | cons frame below =>
          cases frame with
          | calling other =>
              obtain ⟨held, there, rfl⟩ := Option.map_eq_some_iff.mp moved
              exact turns_putSub present there fun _ => .released
          | _ => cases moved
  | go => exact turns_go found moved present

theorem go_state {next : SoftSystem τ κ} (moved : system.go thread stack = some next) :
    next.state = system.state ∧ next.stranded = system.stranded := by
  unfold go at moved
  split at moved
  all_goals simp only [Option.map_eq_some_iff, Option.some.injEq, reduceCtorEq] at moved
  · obtain ⟨_, _, rfl⟩ := moved
    exact ⟨rfl, rfl⟩
  · exact moved ▸ ⟨rfl, rfl⟩
  · exact moved ▸ ⟨rfl, rfl⟩
  · exact moved ▸ ⟨rfl, rfl⟩
  · obtain ⟨sub, _, same⟩ := moved
    split at same
    · exact same ▸ ⟨rfl, rfl⟩
    · exact same ▸ ⟨rfl, rfl⟩
  · obtain ⟨_, _, rfl⟩ := moved
    exact ⟨rfl, rfl⟩
  · exact moved ▸ ⟨rfl, rfl⟩
  · obtain ⟨_, _, rfl⟩ := moved
    exact ⟨rfl, rfl⟩

/-- Nobody is registered again, and nobody stranded is remembered. -/
theorem lists_step {label : Nat × SoftAction τ κ} {next : SoftSystem τ κ}
    (stepped : system.step label = some next) :
    (∀ other ∈ next.state.subscribers,
      other ∈ system.state.subscribers ∨ other = system.state.nextId) ∧
    ∀ other ∈ system.stranded, other ∈ next.stranded := by
  obtain ⟨thread, action⟩ := label
  obtain ⟨stack, found, moved⟩ := Option.bind_eq_some_iff.mp stepped
  cases action with
  | store value ts put =>
      simp only [Option.ite_none_right_eq_some, Option.some.injEq] at moved
      obtain ⟨_, rfl⟩ := moved
      exact ⟨fun _ => Or.inl, fun _ => id⟩
  | aim value =>
      simp only [Option.ite_none_right_eq_some, Option.some.injEq] at moved
      obtain ⟨_, rfl⟩ := moved
      exact ⟨fun _ => Or.inl, fun _ => id⟩
  | subscribe =>
      simp only [Option.ite_none_right_eq_some, Option.some.injEq] at moved
      obtain ⟨_, rfl⟩ := moved
      constructor
      · intro other member
        exact (List.mem_append.mp member).imp_right List.mem_singleton.mp
      · exact fun _ => id
  | unsubscribe other =>
      simp only [Option.ite_none_right_eq_some, Option.some.injEq] at moved
      obtain ⟨_, rfl⟩ := moved
      exact ⟨fun _ member => Or.inl (List.mem_of_mem_erase member), fun _ => id⟩
  | returns =>
      cases stack with
      | nil => cases moved
      | cons frame below =>
          cases frame with
          | calling other =>
              cases moved
              exact ⟨fun _ => Or.inl, fun _ => id⟩
          | _ => cases moved
  | panics =>
      cases stack with
      | nil => cases moved
      | cons frame below =>
          cases frame with
          | calling other =>
              obtain ⟨held, there, rfl⟩ := Option.map_eq_some_iff.mp moved
              exact ⟨fun _ => Or.inl, fun _ member => List.mem_append_left _ member⟩
          | _ => cases moved
  | go =>
      obtain ⟨state, stranded⟩ := go_state moved
      exact ⟨fun _ member => Or.inl (state ▸ member), fun _ member => stranded ▸ member⟩

theorem InHand.claims {reading : τ × κ} (hand : system.InHand id reading) :
    0 < total (SoftSystem.claims id) system := by
  obtain ⟨stack, member, popped⟩ := hand
  refine Nat.pos_of_ne_zero fun zero => ?_
  have nothing := tally_eq_zero.mp (tally_eq_zero.mp zero stack member) _ popped
  rw [claims_popped] at nothing
  cases nothing

/-- A subscriber that the panic of another callback has stranded is never called again, whatever
is stored later. -/
theorem stranded_silent {pollPeriod : Bool} {initial : τ} {ts : κ} {threads : Nat}
    {labels more : List (Nat × SoftAction τ κ)} {before after : SoftSystem τ κ}
    (run : exec step (start pollPeriod initial ts threads) labels = some before)
    (later : exec step before more = some after) (id : Nat) (stranded : id ∈ before.stranded) :
    after.calls id = before.calls id := by
  have kept := exec_invariant
    (fun point : SoftSystem τ κ => point.Kept ∧ id ∈ point.stranded ∧ point.calls id = before.calls id)
    (fun point label next stepped holds => by
      obtain ⟨kept, member, same⟩ := holds
      have counted := kept.claims id
      have many : 0 < point.stranded.count id := List.count_pos_iff.mpr member
      have most := kept.claims id ▸ Bool.toNat_le (point.claimed id)
      have idle : total (claims id) point = 0 := by omega
      refine ⟨kept.step stepped, (lists_step stepped).2 id member, ?_⟩
      cases present : point.subs[id]? with
      | none =>
          simp only [claimed, present, Option.any_none, Bool.toNat_false] at counted
          omega
      | some sub =>
          obtain ⟨held, there, turns⟩ := turns_step stepped present
          rw [calls_of_sub present] at same
          rw [calls_of_sub there]
          cases turns with
          | called reading hand =>
              have working := hand.claims
              omega
          | _ => exact same)
    later ⟨run_kept run, stranded, rfl⟩
  exact kept.2.2

/-- The callback of subscriber 0 panics while the store that called it had yet to drain 1. -/
theorem stranded_silent_two :
    ∃ before after : SoftSystem Nat Nat, after.history = before.history ++ [(8, 2)] ∧
      1 ∈ after.state.subscribers ∧ after.calls 1 = before.calls 1 := by
  have run : exec step (start false 5 0 1)
      [(0, .subscribe), (0, .go), (0, .go), (0, .returns), (0, .go), (0, .go),
        (0, .subscribe), (0, .go), (0, .go), (0, .returns), (0, .go), (0, .go),
        (0, .store 7 1 true), (0, .go), (0, .go), (0, .go), (0, .go), (0, .go), (0, .go),
        (0, .panics)] =
      some (⟨false, ⟨7, 7, 1, [0, 1], 2, false⟩, false,
        [⟨⟨[], false⟩, 0, [(5, 0), (7, 1)], [(5, 0), (7, 1)]⟩, ⟨⟨[(7, 1)], true⟩, 0, [(5, 0)], [(5, 0)]⟩],
        [[]], [0, 1], [(5, 0), (7, 1)], [0], [1]⟩ : SoftSystem Nat Nat) := rfl
  have later : exec step
      (⟨false, ⟨7, 7, 1, [0, 1], 2, false⟩, false,
        [⟨⟨[], false⟩, 0, [(5, 0), (7, 1)], [(5, 0), (7, 1)]⟩, ⟨⟨[(7, 1)], true⟩, 0, [(5, 0)], [(5, 0)]⟩],
        [[]], [0, 1], [(5, 0), (7, 1)], [0], [1]⟩ : SoftSystem Nat Nat)
      [(0, .store 8 2 true), (0, .go), (0, .go), (0, .go), (0, .go), (0, .go)] =
      some (⟨false, ⟨8, 8, 2, [0, 1], 2, false⟩, false,
        [⟨⟨[], true⟩, 0, [(5, 0), (7, 1), (8, 2)], [(5, 0), (7, 1)]⟩,
          ⟨⟨[(7, 1), (8, 2)], true⟩, 0, [(5, 0)], [(5, 0)]⟩],
        [[.popped 0 (8, 2), .delivering []]], [0, 1], [(5, 0), (7, 1), (8, 2)], [0], [1]⟩ :
          SoftSystem Nat Nat) := rfl
  exact ⟨_, _, rfl, by decide, stranded_silent run later 1 (by decide)⟩

/-- After an unsubscribe has dropped what was queued, the callback is called at most once more, and
only with a reading that a thread had already taken from the queue. -/
theorem after_unsubscribe {pollPeriod : Bool} {initial : τ} {ts : κ} {threads : Nat}
    {labels more : List (Nat × SoftAction τ κ)} {before after : SoftSystem τ κ}
    (run : exec step (start pollPeriod initial ts threads) labels = some before)
    (later : exec step before more = some after) (id : Nat) {sub : SoftSubscriber (τ × κ)}
    (present : before.subs[id]? = some sub) (gone : id ∉ before.state.subscribers)
    (dropped : sub.pending = []) :
    ∃ late, late.length ≤ 1 ∧ (∀ reading ∈ late, before.InHand id reading) ∧
      after.calls id = before.calls id ++ late := by
  have kept := exec_invariant
    (fun point : SoftSystem τ κ => point.Kept ∧ id ∉ point.state.subscribers ∧
      ∃ held, point.subs[id]? = some held ∧ held.pending = [] ∧ held.taken = sub.taken ∧
        sub.heard <+: held.heard)
    (fun point label next stepped holds => by
      obtain ⟨kept, absent, held, found, empty, same, longer⟩ := holds
      have within := (List.getElem?_eq_some_iff.mp found).1
      refine ⟨kept.step stepped, ?_, ?_⟩
      · intro member
        cases (lists_step stepped).1 id member with
        | inl there => exact absent there
        | inr new =>
            rw [kept.nextId] at new
            omega
      · obtain ⟨result, there, turns⟩ := turns_step stepped found
        refine ⟨result, there, ?_⟩
        cases turns with
        | same => exact ⟨empty, same, longer⟩
        | queued reading awaited =>
            have most := kept.awaits id
            rw [List.count_eq_zero_of_not_mem absent] at most
            omega
        | popped reading rest pending drained => cases empty.symm.trans pending
        | released => exact ⟨empty, same, longer⟩
        | called reading hand => exact ⟨empty, same, longer.trans (List.prefix_append _ _)⟩
        | cleared => exact ⟨rfl, same, longer⟩)
    later ⟨run_kept run, gone, sub, present, dropped, rfl, List.prefix_refl _⟩
  obtain ⟨final, _, held, found, _, same, late, longer⟩ := kept
  have heard : held.heard <+: sub.taken := same ▸ (final.fair id held found).heard_of_taken
  have fair := (run_kept run).fair id sub present
  rw [calls_of_sub found, calls_of_sub present]
  by_cases hand : ∃ reading, before.InHand id reading
  · obtain ⟨reading, there⟩ := hand
    rw [fair.popped reading there, ← longer] at heard
    have one := (List.prefix_append_right_inj _).mp heard
    refine ⟨late, one.length_le, ?_, longer.symm⟩
    intro other member
    exact List.mem_singleton.mp (one.mem member) ▸ there
  · rw [fair.settled (not_exists.mp hand), ← longer] at heard
    have shorter := heard.length_le
    rw [List.length_append] at shorter
    have none : late = [] := List.eq_nil_of_length_eq_zero (by omega)
    subst none
    exact ⟨[], by simp, by simp, longer.symm⟩

/-- The reading in hand when the token is dropped is delivered after it. -/
theorem after_unsubscribe_hand :
    ∃ before after : SoftSystem Nat Nat, before.state.subscribers = [] ∧
      after.calls 0 = [(5, 0), (7, 1)] ∧ ∃ late, late.length ≤ 1 ∧
        after.calls 0 = before.calls 0 ++ late := by
  have run : exec step (start false 5 0 2)
      [(0, .subscribe), (0, .go), (0, .go), (0, .returns), (0, .go), (0, .go),
        (0, .store 7 1 true), (0, .go), (0, .go), (0, .go), (0, .go), (1, .unsubscribe 0),
        (1, .go)] =
      some (⟨false, ⟨7, 7, 1, [], 1, false⟩, false, [⟨⟨[], true⟩, 0, [(5, 0), (7, 1)], [(5, 0)]⟩],
        [[.popped 0 (7, 1), .delivering []], []], [], [(5, 0), (7, 1)], [], []⟩ :
          SoftSystem Nat Nat) := rfl
  have later : exec step
      (⟨false, ⟨7, 7, 1, [], 1, false⟩, false, [⟨⟨[], true⟩, 0, [(5, 0), (7, 1)], [(5, 0)]⟩],
        [[.popped 0 (7, 1), .delivering []], []], [], [(5, 0), (7, 1)], [], []⟩ : SoftSystem Nat Nat)
      [(0, .go)] =
      some (⟨false, ⟨7, 7, 1, [], 1, false⟩, false,
        [⟨⟨[], true⟩, 0, [(5, 0), (7, 1)], [(5, 0), (7, 1)]⟩],
        [[.calling 0, .delivering []], []], [], [(5, 0), (7, 1)], [], []⟩ : SoftSystem Nat Nat) := rfl
  obtain ⟨late, few, _, calls⟩ := after_unsubscribe run later 0 rfl (by decide) rfl
  exact ⟨_, _, rfl, rfl, late, few, calls⟩

end SoftSystem

end Bsrs.Devices
