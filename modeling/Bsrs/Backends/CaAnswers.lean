import Bsrs.Backends.CaPuts

namespace Bsrs.Backends

open Library

variable {ν ε : Type}

namespace ChannelAction

/-- The value of a put that the client takes. -/
def taken : ChannelAction ν ε → Option ν
  | .putCallback value (.ok _) | .putNoCallback value (.ok _) => some value
  | _ => none

/-- The value of a put that the client takes and whose caller is to be answered. -/
def called : ChannelAction ν ε → Option ν
  | .putCallback value (.ok _) => some value
  | _ => none

end ChannelAction

namespace SharedChannel

variable {channel next : SharedChannel ν ε} {labels : List (ChannelAction ν ε)}
  {action : ChannelAction ν ε}

/-! ## Puts in order -/

/-- What a step notes of the put it is. -/
structure Notes (channel next : SharedChannel ν ε) (action : ChannelAction ν ε) : Prop where
  accepted : next.accepted = channel.accepted ++ action.taken.toList
  values : channel.values <+: next.values
  written : next.written = channel.written ++ action.called.toList.map fun _ => channel.values.length
  own : ∀ value ∈ action.called, next.values[channel.values.length]? = some value

theorem Notes.of_circuit (taken : action.taken = none) (called : action.called = none)
    (accepted : next.accepted = channel.accepted) (written : next.written = channel.written)
    (values : channel.values <+: next.values) : channel.Notes next action where
  accepted := by simp [taken, accepted]
  values := values
  written := by simp [called, written]
  own value member := by simp [called] at member

/-- A `drive` task puts nothing of its own: it may write the trailing value again. -/
theorem go_notes {task : Nat} {sent : Except ε Unit} {before : Drive ε}
    (stepped : channel.go task sent before = some next) :
    next.accepted = channel.accepted ∧ next.written = channel.written ∧
      channel.values <+: next.values := by
  cases before with
  | awaiting done waiters =>
      simp only [SharedChannel.go] at stepped
      split at stepped
      · cases stepped
        exact ⟨rfl, rfl, List.prefix_refl _⟩
      · cases stepped
  | settling r waiters =>
      obtain rfl := Option.some.inj stepped
      unfold settle
      split
      · refine ⟨rfl, rfl, ?_⟩
        simp [SharedChannel.values, resume]
      · exact ⟨rfl, rfl, List.prefix_refl _⟩
      · exact ⟨rfl, rfl, List.prefix_refl _⟩
  | answering r waiters again =>
      rcases waiters with _ | ⟨w, rest⟩
      · rcases again with _ | ⟨_ | _, _⟩
        all_goals
          obtain rfl := Option.some.inj stepped
          exact ⟨rfl, rfl, List.prefix_refl _⟩
      · obtain rfl := Option.some.inj stepped
        exact ⟨rfl, rfl, List.prefix_refl _⟩
  | returned => cases stepped

theorem step_notes (stepped : channel.step action = some next) : channel.Notes next action := by
  cases action with
  | putCallback value sent =>
      obtain rfl := Option.some.inj stepped
      cases sent with
      | error e => exact .of_circuit rfl rfl rfl rfl (List.prefix_refl _)
      | ok =>
          cases puts : channel.puts with
          | idle =>
              rw [putCallback_idle channel value puts]
              constructor
              · rfl
              · simp [SharedChannel.values, take, await]
              · simp [SharedChannel.values, take, await, ChannelAction.called]
              · simp [SharedChannel.values, take, await, ChannelAction.called, CaWrite.value]
          | busy before =>
              rw [putCallback_busy channel value puts]
              constructor
              · rfl
              · simp [SharedChannel.values, take, await]
              · simp [SharedChannel.values, take, await, ChannelAction.called]
              · simp [SharedChannel.values, take, await, ChannelAction.called, CaWrite.value]
  | putNoCallback value sent =>
      obtain rfl := Option.some.inj stepped
      cases sent with
      | error e => exact .of_circuit rfl rfl rfl rfl (List.prefix_refl _)
      | ok =>
          refine ⟨rfl, ?_, (List.append_nil _).symm, ?_⟩
          · simp [SharedChannel.values, SharedChannel.putNoCallback, take]
          · intro own member
            cases member
  | answered done r =>
      simp only [SharedChannel.step, SharedChannel.answered] at stepped
      split at stepped
      · rename_i value found
        cases stepped
        have same := values_answered found (some r)
        exact .of_circuit rfl rfl rfl rfl ⟨[], (List.append_nil _).trans same.symm⟩
      · cases stepped
  | go task sent =>
      obtain ⟨before, _, gone⟩ := Option.bind_eq_some_iff.mp stepped
      obtain ⟨accepted, written, values⟩ := go_notes gone
      exact .of_circuit rfl rfl accepted written values

theorem run_accepted {start reached : SharedChannel ν ε}
    (run : exec step start labels = some reached) :
    reached.accepted = start.accepted ++ labels.filterMap ChannelAction.taken := by
  induction labels generalizing start with
  | nil =>
      cases run
      simp
  | cons action rest ih =>
      obtain ⟨next, stepped, remaining⟩ := exec_cons run
      rw [ih remaining, (step_notes stepped).accepted, List.append_assoc]
      cases taken : action.taken with
      | none => simp [taken]
      | some value => simp [taken]

theorem prefix_getElem? {short long : List α} (extended : short <+: long) {place : Nat} {item : α}
    (found : short[place]? = some item) : long[place]? = some item := by
  obtain ⟨more, rfl⟩ := extended
  rw [List.getElem?_append_left (List.getElem?_eq_some_iff.mp found).1, found]

/-- Each waiter's own write stands where the observer noted it, with the value of its put. -/
theorem run_written {start reached : SharedChannel ν ε} (calls : List ν)
    (run : exec step start labels = some reached)
    (noted : start.written.map (fun own => start.values[own]?) = calls.map some) :
    reached.written.map (fun own => reached.values[own]?) =
      (calls ++ labels.filterMap ChannelAction.called).map some := by
  induction labels generalizing start calls with
  | nil =>
      cases run
      simpa using noted
  | cons action rest ih =>
      obtain ⟨next, stepped, remaining⟩ := exec_cons run
      have notes := step_notes stepped
      have before : start.written.map (fun own => next.values[own]?) = calls.map some := by
        rw [← noted]
        apply List.map_congr_left
        intro own member
        have here : start.values[own]? ∈ calls.map some :=
          noted ▸ List.mem_map_of_mem (f := fun own => start.values[own]?) member
        obtain ⟨value, _, found⟩ := List.mem_map.mp here
        rw [← found]
        exact prefix_getElem? notes.values found.symm
      have after : next.written.map (fun own => next.values[own]?) =
          (calls ++ action.called.toList).map some := by
        rw [notes.written, List.map_append, before, List.map_append]
        cases called : action.called with
        | none => rfl
        | some value => simp [notes.own value called]
      rw [ih _ remaining after]
      cases called : action.called with
      | none => simp [called]
      | some value => simp [called]

/-- In any run, whatever the client and the server make of the writes: the circuit carries the puts in
the order they were made, at most repeating a value where it stands, so the last value written is
always the last one put; at most one put-callback is in flight; and there are never more
put-callbacks than puts that wait for one. -/
theorem puts_in_order {reached : SharedChannel ν ε} (run : exec step new labels = some reached) :
    Stutters (labels.filterMap ChannelAction.taken) reached.values ∧
      reached.values.getLast? = (labels.filterMap ChannelAction.taken).getLast? ∧
      (∀ place other, reached.InFlight place → reached.InFlight other → place = other) ∧
      reached.circuit.countP CaWrite.isNotify ≤ (labels.filterMap ChannelAction.called).length := by
  have kept := run_kept run
  have accepted : reached.accepted = labels.filterMap ChannelAction.taken :=
    (run_accepted run).trans (List.nil_append _)
  have written : reached.written.length = (labels.filterMap ChannelAction.called).length := by
    have same := congrArg List.length (run_written [] run rfl)
    simpa using same
  have order := accepted ▸ kept.order
  refine ⟨order, order.getLast?_eq, ?_, ?_⟩
  · intro place other first second
    obtain ⟨drive, member, done⟩ := kept.flying place first
    obtain ⟨rival, among, there⟩ := kept.flying other second
    have single : tally Drive.holds reached.drives ≤ 1 := by
      rw [kept.driven]
      cases reached.puts <;> simp [PutSlot.holds]
    have left := Drive.holds_of_done done
    have right := Drive.holds_of_done there
    obtain rfl : drive = rival := eq_of_tally_le_one single member among (by omega) (by omega)
    exact Option.some.inj (done.symm.trans there)
  · have fewer := kept.fewer
    omega

theorem puts_in_order_trailing :
    ∃ reached : SharedChannel Nat Nat, reached.values = [1, 2, 3, 3] ∧
      Stutters [1, 2, 3] reached.values := by
  have run : exec step (new : SharedChannel Nat Nat)
      [.putCallback 1 (.ok ()), .putCallback 2 (.ok ()), .putNoCallback 3 (.ok ()),
        .answered 0 (.ok ()), .go 0 (.ok ()), .go 0 (.ok ())] =
      some ⟨.busy none, [.notify 1 (some (.ok ())), .plain 2, .plain 3, .notify 3 none],
        [.answering (.ok ()) [0] (some (.ok 3, [1]))], [1, 2, 3], [0, 1], [], []⟩ := rfl
  exact ⟨_, rfl, (puts_in_order run).1⟩

/-- A waiter is answered at most once, and with the outcome of a put-callback that was written with
its own put or after it, so that an `Ok` says that the record has processed that put or a later one;
only an error may instead be the client's, of a trailing put-callback it refused. -/
theorem answered_with_own {reached : SharedChannel ν ε} (run : exec step new labels = some reached)
    {waiter : Nat} {r : PutResult ε} (told : (waiter, r) ∈ reached.answers) :
    (reached.answers.map Prod.fst).count waiter = 1 ∧
      ∃ value, ∃ own : Nat, (labels.filterMap ChannelAction.called)[waiter]? = some value ∧
        reached.values[own]? = some value ∧
        ((∃ place, ∃ latest : ν,
            own ≤ place ∧ reached.circuit[place]? = some (.notify latest (some r))) ∨
          ∃ e ∈ reached.refused, r = .error e) := by
  have kept := run_kept run
  obtain ⟨own, written, answer⟩ := kept.told _ told
  constructor
  · have among : waiter ∈ reached.answers.map Prod.fst := List.mem_map_of_mem told
    have once := List.count_pos_iff.mpr among
    have whole := kept.waiting waiter
    split at whole <;> omega
  · have noted := congrArg (fun list => list[waiter]?) (run_written [] run rfl)
    simp only [List.getElem?_map, List.nil_append] at noted
    rw [written, Option.map_some] at noted
    obtain ⟨value, called, found⟩ := Option.map_eq_some_iff.mp noted.symm
    exact ⟨value, own, called, found.symm, answer⟩

theorem answered_with_own_trailing :
    ∃ reached : SharedChannel Nat Nat, (1, .error 7) ∈ reached.answers ∧
      (reached.answers.map Prod.fst).count 1 = 1 := by
  have run : exec step (new : SharedChannel Nat Nat)
      [.putCallback 1 (.ok ()), .putCallback 2 (.ok ()), .answered 0 (.ok ()), .go 0 (.ok ()),
        .go 0 (.error 7), .go 0 (.ok ()), .go 0 (.ok ()), .go 0 (.ok ())] =
      some ⟨.idle, [.notify 1 (some (.ok ())), .plain 2], [.answering (.error 7) [] none], [1, 2], [0, 1],
        [(0, .ok ()), (1, .error 7)], [7]⟩ := rfl
  have told : (1, .error 7) ∈ [((0, .ok ()) : Nat × PutResult Nat), (1, .error 7)] :=
    List.mem_cons_of_mem _ List.mem_cons_self
  exact ⟨_, told, (answered_with_own run told).1⟩

end SharedChannel

/-! ## Coming to rest -/

/-- The steps that are ahead of a task if nobody puts anything more, its put-callback's answer aside. -/
def Drive.ahead : Drive ε → Nat
  | .awaiting _ waiters => waiters.length + 3
  | .settling _ waiters => waiters.length + 2
  | .answering _ waiters none => waiters.length + 1
  | .answering _ waiters (some (.ok _, others)) => waiters.length + others.length + 4
  | .answering _ waiters (some (.error _, others)) => waiters.length + others.length + 2
  | .returned => 0

/-- The steps that a trailing put-callback stands for. -/
def PutSlot.remaining : PutSlot ν → Nat
  | .busy (some trailing) => trailing.waiters.length + 5
  | _ => 0

def CaWrite.isAloft : CaWrite ν ε → Bool
  | .notify _ none => true
  | _ => false

/-- Not a put: an answer to a put-callback, or a task that goes on. -/
def ChannelAction.winds : ChannelAction ν ε → Bool
  | .answered _ _ | .go _ _ => true
  | _ => false

namespace SharedChannel

variable {channel next : SharedChannel ν ε} {labels : List (ChannelAction ν ε)}
  {action : ChannelAction ν ε}

def remaining (channel : SharedChannel ν ε) : Nat :=
  tally Drive.ahead channel.drives + channel.circuit.countP CaWrite.isAloft + channel.puts.remaining

/-- No put-callback in flight or to come, and every task has returned. -/
def AtRest (channel : SharedChannel ν ε) : Prop :=
  channel.puts = .idle ∧ ∀ drive ∈ channel.drives, drive = .returned

theorem resume_fewer {task : Nat} {before after : Drive ε}
    (found : channel.drives[task]? = some before) (fewer : after.ahead < before.ahead) :
    (channel.resume task after).remaining < channel.remaining := by
  have both : tally Drive.ahead (channel.drives.set task after) + before.ahead =
      tally Drive.ahead channel.drives + after.ahead := tally_set found after
  simp only [remaining, resume]
  omega

theorem settle_fewer {task : Nat} {r : PutResult ε} {waiters : List Nat}
    (found : channel.drives[task]? = some (.settling r waiters)) (sent : Except ε Unit) :
    (channel.settle task r waiters sent).remaining < channel.remaining := by
  have both : ∀ after, tally Drive.ahead (channel.drives.set task after) + (waiters.length + 2) =
      tally Drive.ahead channel.drives + after.ahead := tally_set found
  unfold settle
  split
  · rename_i trailing puts
    have moved := both (.answering r waiters (some (.ok channel.circuit.length, trailing.waiters)))
    simp only [remaining, resume, puts, PutSlot.remaining, Drive.ahead, List.countP_append,
      List.countP_singleton, CaWrite.isAloft, if_true] at moved ⊢
    omega
  · rename_i trailing e puts
    have moved := both (.answering r waiters (some (.error e, trailing.waiters)))
    simp only [remaining, resume, puts, PutSlot.remaining, Drive.ahead] at moved ⊢
    omega
  · have moved := both (.answering r waiters none)
    simp only [remaining, resume, PutSlot.remaining, Drive.ahead] at moved ⊢
    omega

theorem answered_fewer {done : Nat} {r : PutResult ε} (stepped : channel.answered done r = some next) :
    next.remaining < channel.remaining := by
  unfold answered at stepped
  split at stepped
  · rename_i value found
    obtain rfl := Option.some.inj stepped
    obtain ⟨within, here⟩ := List.getElem?_eq_some_iff.mp found
    have aloft : 0 < channel.circuit.countP CaWrite.isAloft :=
      List.countP_pos_iff.mpr ⟨_, List.mem_of_getElem? found, rfl⟩
    have count := List.countP_set (p := CaWrite.isAloft) (a := .notify value (some r)) within
    rw [here] at count
    simp only [CaWrite.isAloft, if_true, Bool.false_eq_true, if_false] at count
    simp only [remaining, count]
    omega
  · cases stepped

theorem go_fewer {task : Nat} {sent : Except ε Unit} {before : Drive ε}
    (found : channel.drives[task]? = some before) (stepped : channel.go task sent before = some next) :
    next.remaining < channel.remaining := by
  cases before with
  | awaiting done waiters =>
      simp only [SharedChannel.go] at stepped
      split at stepped
      · cases stepped
        apply resume_fewer found
        simp [Drive.ahead]
      · cases stepped
  | settling r waiters =>
      obtain rfl := Option.some.inj stepped
      exact settle_fewer found sent
  | answering r waiters again =>
      rcases waiters with _ | ⟨w, rest⟩
      · rcases again with _ | ⟨_ | _, _⟩
        all_goals
          obtain rfl := Option.some.inj stepped
          apply resume_fewer found
          simp [Drive.ahead]
      · obtain rfl := Option.some.inj stepped
        have fewer : (channel.resume task (.answering r rest again)).remaining < channel.remaining := by
          apply resume_fewer found
          rcases again with _ | ⟨_ | _, _⟩ <;> simp [Drive.ahead]
        exact fewer
  | returned => cases stepped

theorem winds_fewer (stepped : channel.step action = some next) (winds : action.winds = true) :
    next.remaining < channel.remaining := by
  cases action with
  | putCallback | putNoCallback => cases winds
  | answered done r => exact answered_fewer stepped
  | go task sent =>
      obtain ⟨before, found, gone⟩ := Option.bind_eq_some_iff.mp stepped
      exact go_fewer found gone

/-- A task that has not returned can go on, or the put-callback that it awaits can be answered. -/
theorem Kept.winds (kept : channel.Kept) {drive : Drive ε} (member : drive ∈ channel.drives)
    (running : drive ≠ .returned) :
    ∃ action : ChannelAction ν ε, action.winds = true ∧ (channel.step action).isSome = true := by
  obtain ⟨task, found⟩ := List.getElem?_of_mem member
  cases drive with
  | awaiting done waiters =>
      obtain ⟨value, answer, sent⟩ := kept.sent _ member done rfl
      cases answer with
      | none =>
          refine ⟨.answered done (.ok ()), rfl, ?_⟩
          simp [SharedChannel.step, SharedChannel.answered, sent]
      | some r =>
          refine ⟨.go task (.ok ()), rfl, ?_⟩
          simp [SharedChannel.step, found, SharedChannel.go, sent]
  | settling r waiters =>
      refine ⟨.go task (.ok ()), rfl, ?_⟩
      simp [SharedChannel.step, found, SharedChannel.go]
  | answering r waiters again =>
      refine ⟨.go task (.ok ()), rfl, ?_⟩
      rcases waiters with _ | ⟨w, rest⟩
      · rcases again with _ | ⟨_ | _, _⟩ <;> simp [SharedChannel.step, found, SharedChannel.go]
      · simp [SharedChannel.step, found, SharedChannel.go]
  | returned => exact absurd rfl running

theorem Kept.idle (kept : channel.Kept) (rest : ∀ drive ∈ channel.drives, drive = .returned) :
    channel.puts = .idle := by
  have none : tally Drive.holds channel.drives = 0 := by
    apply tally_eq_zero.mpr
    intro drive member
    rw [rest drive member]
    rfl
  have driven := kept.driven
  rw [none] at driven
  cases puts : channel.puts with
  | idle => rfl
  | busy => simp [puts, PutSlot.holds] at driven

/-- At rest everyone who waits has been answered, once. -/
theorem Kept.everyone (kept : channel.Kept) (rest : channel.AtRest) {waiter : Nat}
    (waits : waiter < channel.written.length) : (channel.answers.map Prod.fst).count waiter = 1 := by
  have none : tally (Drive.waits waiter) channel.drives = 0 := by
    apply tally_eq_zero.mpr
    intro drive member
    rw [rest.2 drive member]
    rfl
  have whole := kept.waiting waiter
  rw [none, rest.1, if_pos waits] at whole
  simpa [PutSlot.waiters] using whole

/-- However a channel stands: once nobody puts any more, the answers of the server and the tasks going
on, in any order and whatever the client makes of the trailing put-callback, are at most so many
steps; some such step can always be made until the channel is at rest; and then every put that waits
has been answered, once. -/
theorem winds_down {reached : SharedChannel ν ε} (run : exec step new labels = some reached)
    {more : List (ChannelAction ν ε)} {final : SharedChannel ν ε}
    (goes : exec step reached more = some final) (winds : ∀ action ∈ more, action.winds = true) :
    more.length ≤ reached.remaining ∧
      (final.AtRest ∨ ∃ action : ChannelAction ν ε, action.winds = true ∧
        (final.step action).isSome = true) ∧
      (final.AtRest → ∀ waiter < (labels.filterMap ChannelAction.called).length,
        (final.answers.map Prod.fst).count waiter = 1) := by
  have kept := run_kept run
  have settled := exec_invariant Kept (fun _ _ _ stepped held => held.step stepped) goes kept
  refine ⟨?_, ?_, ?_⟩
  · have bounded := exec_descends Kept remaining (fun _ _ _ stepped held => held.step stepped)
      (fun _ action _ stepped (going : action.winds = true) _ => winds_fewer stepped going) goes winds kept
    omega
  · by_cases returned : ∀ drive ∈ final.drives, drive = .returned
    · exact .inl ⟨settled.idle returned, returned⟩
    · obtain ⟨drive, running⟩ := not_forall.mp returned
      obtain ⟨member, running⟩ := Classical.not_imp.mp running
      exact .inr (settled.winds member running)
  · intro rest waiter waits
    apply settled.everyone rest
    have whole : exec step new (labels ++ more) = some final := by
      rw [exec_append, run]
      exact goes
    have written := congrArg List.length (run_written [] whole rfl)
    simp only [List.length_map, List.nil_append, List.filterMap_append, List.length_append] at written
    omega

theorem winds_down_trailing :
    ∃ final : SharedChannel Nat Nat, final.values = [1, 2, 2] ∧
      ∀ waiter < 2, (final.answers.map Prod.fst).count waiter = 1 := by
  have run : exec step (new : SharedChannel Nat Nat)
      [.putCallback 1 (.ok ()), .putCallback 2 (.ok ())] =
      some ⟨.busy (some ⟨2, [1]⟩), [.notify 1 none, .plain 2], [.awaiting 0 [0]], [1, 2], [0, 1], [],
        []⟩ := rfl
  have goes : exec step (⟨.busy (some ⟨2, [1]⟩), [.notify 1 none, .plain 2], [.awaiting 0 [0]], [1, 2],
      [0, 1], [], []⟩ : SharedChannel Nat Nat)
      [.answered 0 (.ok ()), .go 0 (.ok ()), .go 0 (.ok ()), .go 0 (.ok ()), .go 0 (.ok ()),
        .answered 2 (.error 7), .go 0 (.ok ()), .go 0 (.ok ()), .go 0 (.ok ()), .go 0 (.ok ())] =
      some ⟨.idle, [.notify 1 (some (.ok ())), .plain 2, .notify 2 (some (.error 7))], [.returned], [1, 2],
        [0, 1], [(0, .ok ()), (1, .error 7)], []⟩ := rfl
  obtain ⟨_, _, everyone⟩ := winds_down run goes (by decide)
  exact ⟨_, rfl, everyone ⟨rfl, by simp⟩⟩

end SharedChannel

end Bsrs.Backends
