import Bsrs.Library.Run
import Bsrs.Library.Tally

/-! The last connect a signal or command started, which its callers share. -/

namespace Bsrs.Devices

open Library

variable {ε : Type}

/-- A spawned connect, that its caller `forced` or not. The shared task shows its outcome to `peek`
only once a caller has polled it. -/
structure ConnectTask (ε : Type) where
  forced : Bool
  outcome : Option (Except ε Unit)
  polled : Bool

def ConnectTask.peek (task : ConnectTask ε) : Option (Except ε Unit) :=
  if task.polled then task.outcome else none

inductive ConnectCaller (ε : Type) where
  | joined (task : Nat)
  | given (task : Nat) (outcome : Except ε Unit)
  | dropped

/-- The slot, with every connect it has held and every caller, in order. -/
structure ConnectOnce (ε : Type) where
  slot : Option Nat
  tasks : List (ConnectTask ε)
  callers : List (ConnectCaller ε)

inductive ConnectAction (ε : Type) where
  | join (force : Bool)
  /-- The backend's connect ends; it runs on whoever still waits. -/
  | ends (task : Nat) (outcome : Except ε Unit)
  | polls (caller : Nat)
  | drops (caller : Nat)

namespace ConnectOnce

def new : ConnectOnce ε := ⟨none, [], []⟩

def failed : Option (Except ε Unit) → Bool
  | some (.error _) => true
  | _ => false

def start (once : ConnectOnce ε) (force : Bool) : ConnectOnce ε where
  slot := some once.tasks.length
  tasks := once.tasks ++ [⟨force, none, false⟩]
  callers := once.callers ++ [.joined once.tasks.length]

/-- `join`, as far as the lock reaches. -/
def join (once : ConnectOnce ε) (force : Bool) : ConnectOnce ε :=
  match once.slot with
  | some task =>
      if !force && !failed ((once.tasks[task]?).bind ConnectTask.peek) then
        { once with callers := once.callers ++ [.joined task] }
      else once.start force
  | none => once.start force

def ends (once : ConnectOnce ε) (task : Nat) (outcome : Except ε Unit) : Option (ConnectOnce ε) :=
  match once.tasks[task]? with
  | some ⟨forced, none, polled⟩ =>
      some { once with tasks := once.tasks.set task ⟨forced, some outcome, polled⟩ }
  | _ => none

def polls (once : ConnectOnce ε) (caller : Nat) : Option (ConnectOnce ε) :=
  match once.callers[caller]? with
  | some (.joined task) =>
      match once.tasks[task]? with
      | some ⟨forced, some outcome, _⟩ =>
          some { once with
            tasks := once.tasks.set task ⟨forced, some outcome, true⟩
            callers := once.callers.set caller (.given task outcome) }
      | _ => none
  | _ => none

def drops (once : ConnectOnce ε) (caller : Nat) : Option (ConnectOnce ε) :=
  match once.callers[caller]? with
  | some (.joined _) => some { once with callers := once.callers.set caller .dropped }
  | _ => none

def step (once : ConnectOnce ε) : ConnectAction ε → Option (ConnectOnce ε)
  | .join force => some (once.join force)
  | .ends task outcome => once.ends task outcome
  | .polls caller => once.polls caller
  | .drops caller => once.drops caller

/-! ## What every step keeps -/

variable {once next : ConnectOnce ε} {task : Nat}

/-- A caller has been given this outcome of this connect. -/
def Told (once : ConnectOnce ε) (task : Nat) (outcome : Except ε Unit) : Prop :=
  .given task outcome ∈ once.callers

structure Kept (once : ConnectOnce ε) : Prop where
  newest : ∀ task, once.slot = some task ↔ task + 1 = once.tasks.length
  joined : ∀ task, .joined task ∈ once.callers → task < once.tasks.length
  told : ∀ task outcome, once.Told task outcome →
    ∃ held, once.tasks[task]? = some held ∧ held.outcome = some outcome ∧ held.polled = true
  polled : ∀ task held, once.tasks[task]? = some held → held.polled = true →
    ∃ outcome, held.outcome = some outcome ∧ once.Told task outcome
  justified : ∀ task held later, once.tasks[task]? = some held → once.tasks[task + 1]? = some later →
    later.forced = true ∨ ∃ e, held.outcome = some (.error e) ∧ once.Told task (.error e)

theorem kept_new : (new : ConnectOnce ε).Kept where
  newest task := by simp [new]
  joined _ among := nomatch among
  told _ _ among := nomatch among
  polled _ _ found := nomatch found
  justified _ _ _ found := nomatch found

/-- The shared task shows a failure just when a caller has been given it. -/
theorem Kept.failed_iff (kept : once.Kept) :
    failed ((once.tasks[task]?).bind ConnectTask.peek) = true ↔ ∃ e, once.Told task (.error e) := by
  constructor
  · intro shown
    cases found : once.tasks[task]? with
    | none => simp [found, failed] at shown
    | some held =>
        cases polled : held.polled with
        | false => simp [found, ConnectTask.peek, polled, failed] at shown
        | true =>
            obtain ⟨outcome, ended, told⟩ := kept.polled task held found polled
            cases outcome with
            | ok => simp [found, ConnectTask.peek, polled, ended, failed] at shown
            | error e => exact ⟨e, told⟩
  · intro ⟨e, told⟩
    obtain ⟨held, found, ended, polled⟩ := kept.told task _ told
    simp [found, ConnectTask.peek, polled, ended, failed]

/-- A caller joins the last connect, unless it forces a new one or has the failure of the last one,
which some caller has been given, to try again. -/
theorem Kept.join_joins (kept : once.Kept) (found : once.slot = some task)
    (untold : ∀ e, ¬ once.Told task (.error e)) :
    once.join false = { once with callers := once.callers ++ [.joined task] } := by
  have shown : failed ((once.tasks[task]?).bind ConnectTask.peek) = false := by
    rw [← Bool.not_eq_true, kept.failed_iff]
    exact not_exists.mpr untold
  simp [join, found, shown]

theorem Kept.join_starts (kept : once.Kept) {force : Bool}
    (fresh : ∀ task, once.slot = some task → force = true ∨ ∃ e, once.Told task (.error e)) :
    once.join force = once.start force := by
  cases found : once.slot with
  | none => simp [join, found]
  | some task =>
      cases fresh task found with
      | inl forced => simp [join, found, forced]
      | inr told => simp [join, found, kept.failed_iff.mpr told]

/-- A new connect comes after the last one has failed or because it is forced. -/
theorem Kept.start (kept : once.Kept) {force : Bool}
    (fresh : ∀ task, once.slot = some task → force = true ∨ ∃ e, once.Told task (.error e)) :
    (once.start force).Kept where
  newest task := by simp [ConnectOnce.start, eq_comm]
  joined task among := by
    simp only [ConnectOnce.start, List.length_append, List.length_singleton]
    cases List.mem_append.mp among with
    | inl before => exact Nat.lt_succ_of_lt (kept.joined task before)
    | inr new =>
        cases List.mem_singleton.mp new
        exact Nat.lt_succ_self _
  told task outcome among := by
    cases List.mem_append.mp among with
    | inl before =>
        obtain ⟨held, found, ended⟩ := kept.told task outcome before
        refine ⟨held, ?_, ended⟩
        exact (List.getElem?_append_left (List.getElem?_eq_some_iff.mp found).1).trans found
    | inr new => cases List.mem_singleton.mp new
  polled task held found polled := by
    simp only [ConnectOnce.start] at found
    rw [List.getElem?_append] at found
    split at found
    · obtain ⟨outcome, ended, told⟩ := kept.polled task held found polled
      exact ⟨outcome, ended, List.mem_append_left _ told⟩
    · cases List.mem_singleton.mp (List.mem_of_getElem? found)
      cases polled
  justified task held later found after := by
    simp only [ConnectOnce.start] at found after
    rw [List.getElem?_append] at found after
    split at after
    · rename_i within
      rw [if_pos (Nat.lt_of_succ_lt within)] at found
      apply (kept.justified task held later found after).imp_right
      exact fun ⟨e, ended, told⟩ => ⟨e, ended, List.mem_append_left _ told⟩
    · have within := (List.getElem?_eq_some_iff.mp after).1
      cases List.mem_singleton.mp (List.mem_of_getElem? after)
      split at found
      · rename_i outside inside
        rw [List.length_singleton] at within
        apply (fresh task ((kept.newest task).mpr (by omega))).imp_right
        intro ⟨e, told⟩
        obtain ⟨same, there, ended, _⟩ := kept.told task _ told
        obtain rfl := Option.some.inj (found.symm.trans there)
        exact ⟨e, ended, List.mem_append_left _ told⟩
      · rename_i outside beyond
        have past := (List.getElem?_eq_some_iff.mp found).1
        rw [List.length_singleton] at within past
        omega

theorem Kept.shares (kept : once.Kept) (found : once.slot = some task) :
    ({ once with callers := once.callers ++ [.joined task] } : ConnectOnce ε).Kept where
  newest := kept.newest
  joined other among := by
    cases List.mem_append.mp among with
    | inl before => exact kept.joined other before
    | inr new =>
        cases List.mem_singleton.mp new
        exact Nat.lt_of_succ_le (Nat.le_of_eq ((kept.newest task).mp found))
  told other outcome among := by
    cases List.mem_append.mp among with
    | inl before => exact kept.told other outcome before
    | inr new => cases List.mem_singleton.mp new
  polled other held there polled := by
    obtain ⟨outcome, ended, told⟩ := kept.polled other held there polled
    exact ⟨outcome, ended, List.mem_append_left _ told⟩
  justified other held later there after := by
    apply (kept.justified other held later there after).imp_right
    exact fun ⟨e, ended, told⟩ => ⟨e, ended, List.mem_append_left _ told⟩

theorem Kept.join (kept : once.Kept) (force : Bool) : (once.join force).Kept := by
  by_cases fresh : ∀ task, once.slot = some task → force = true ∨ ∃ e, once.Told task (.error e)
  · rw [kept.join_starts fresh]
    exact kept.start fresh
  · obtain ⟨task, shared⟩ := Classical.not_forall.mp fresh
    obtain ⟨found, neither⟩ := Classical.not_imp.mp shared
    obtain ⟨unforced, untold⟩ := not_or.mp neither
    obtain rfl : force = false := by simpa using unforced
    rw [kept.join_joins found (not_exists.mp untold)]
    exact kept.shares found

/-- One connect goes further, and callers are given what it has come to. -/
theorem Kept.updates (kept : once.Kept) {held after : ConnectTask ε}
    {callers : List (ConnectCaller ε)} (found : once.tasks[task]? = some held)
    (forced : after.forced = held.forced)
    (outcome : ∀ outcome, held.outcome = some outcome → after.outcome = some outcome)
    (polled : held.polled = true → after.polled = true)
    (joined : ∀ other, .joined other ∈ callers → .joined other ∈ once.callers)
    (keeps : ∀ other outcome, once.Told other outcome → .given other outcome ∈ callers)
    (told : ∀ other outcome, .given other outcome ∈ callers → once.Told other outcome ∨
      other = task ∧ after.outcome = some outcome ∧ after.polled = true)
    (shown : after.polled = true →
      ∃ outcome, after.outcome = some outcome ∧ .given task outcome ∈ callers) :
    (⟨once.slot, once.tasks.set task after, callers⟩ : ConnectOnce ε).Kept := by
  have within : task < once.tasks.length := (List.getElem?_eq_some_iff.mp found).1
  have here : (once.tasks.set task after)[task]? = some after := List.getElem?_set_self within
  have was : ∀ (other : Nat) now, (once.tasks.set task after)[other]? = some now →
      ∃ before, once.tasks[other]? = some before ∧ now.forced = before.forced ∧
        ∀ outcome, before.outcome = some outcome → now.outcome = some outcome := by
    intro other now there
    cases getElem?_set_cases there with
    | inl same =>
        obtain ⟨rfl, rfl⟩ := same
        exact ⟨held, found, forced, outcome⟩
    | inr before => exact ⟨now, before.2, rfl, fun _ ended => ended⟩
  exact {
    newest := by simpa using kept.newest
    joined := by
      intro other among
      rw [List.length_set]
      exact kept.joined other (joined other among)
    told := by
      intro other given among
      cases told other given among with
      | inr new =>
          obtain ⟨rfl, ended, shown⟩ := new
          exact ⟨after, here, ended, shown⟩
      | inl before =>
          obtain ⟨former, there, ended, shown⟩ := kept.told other given before
          by_cases same : task = other
          · subst same
            obtain rfl := Option.some.inj (found.symm.trans there)
            exact ⟨after, here, outcome given ended, polled shown⟩
          · exact ⟨former, (List.getElem?_set_ne same).trans there, ended, shown⟩
    polled := by
      intro other now there ready
      cases getElem?_set_cases there with
      | inl same =>
          obtain ⟨rfl, rfl⟩ := same
          exact shown ready
      | inr before =>
          obtain ⟨given, ended, told⟩ := kept.polled other now before.2 ready
          exact ⟨given, ended, keeps other given told⟩
    justified := by
      intro other now later there behind
      obtain ⟨former, before, _, whole⟩ := was other now there
      obtain ⟨latter, after, same, _⟩ := was (other + 1) later behind
      rw [same]
      apply (kept.justified other former latter before after).imp_right
      exact fun ⟨e, ended, told⟩ => ⟨e, whole _ ended, keeps other _ told⟩ }

theorem Kept.ends (kept : once.Kept) {outcome : Except ε Unit}
    (stepped : once.ends task outcome = some next) : next.Kept := by
  unfold ConnectOnce.ends at stepped
  split at stepped
  · rename_i forced polled found
    cases stepped
    have unpolled : polled = true → False := by
      rintro rfl
      obtain ⟨_, ended, _⟩ := kept.polled task _ found rfl
      cases ended
    apply kept.updates found
    · rfl
    · exact fun _ ended => nomatch ended
    · exact id
    · exact fun _ among => among
    · exact fun _ _ told => told
    · exact fun _ _ told => .inl told
    · exact fun shown => (unpolled shown).elim
  · cases stepped

theorem Kept.polls (kept : once.Kept) {caller : Nat} (stepped : once.polls caller = some next) :
    next.Kept := by
  unfold ConnectOnce.polls at stepped
  split at stepped
  · rename_i task waits
    split at stepped
    · rename_i forced outcome polled found
      cases stepped
      have within : caller < once.callers.length := (List.getElem?_eq_some_iff.mp waits).1
      apply kept.updates found
      · rfl
      · exact fun _ ended => ended
      · exact fun _ => rfl
      · intro other among
        exact (List.mem_or_eq_of_mem_set among).resolve_right nofun
      · intro other given told
        exact (mem_set_cases waits _ told).resolve_left nofun
      · intro other given among
        apply (List.mem_or_eq_of_mem_set among).imp_right
        intro same
        cases same
        exact ⟨rfl, rfl, rfl⟩
      · exact fun _ => ⟨outcome, rfl, List.mem_set within _⟩
    · cases stepped
  · cases stepped

theorem Kept.drops (kept : once.Kept) {caller : Nat} (stepped : once.drops caller = some next) :
    next.Kept := by
  unfold ConnectOnce.drops at stepped
  split at stepped
  · rename_i task waits
    cases stepped
    have told : ∀ other outcome, .given other outcome ∈ once.callers.set caller .dropped ↔
        once.Told other outcome := by
      intro other outcome
      constructor
      · exact fun among => (List.mem_or_eq_of_mem_set among).resolve_right nofun
      · exact fun told => (mem_set_cases waits _ told).resolve_left nofun
    exact {
      newest := kept.newest
      joined := fun other among =>
        kept.joined other ((List.mem_or_eq_of_mem_set among).resolve_right nofun)
      told := fun other outcome among => kept.told other outcome ((told other outcome).mp among)
      polled := by
        intro other held found shown
        obtain ⟨outcome, ended, before⟩ := kept.polled other held found shown
        exact ⟨outcome, ended, (told other outcome).mpr before⟩
      justified := by
        intro other held later found after
        apply (kept.justified other held later found after).imp_right
        exact fun ⟨e, ended, before⟩ => ⟨e, ended, (told other _).mpr before⟩ }
  · cases stepped

theorem Kept.step (kept : once.Kept) {action : ConnectAction ε} (stepped : once.step action = some next) :
    next.Kept := by
  cases action with
  | join force =>
      cases stepped
      exact kept.join force
  | ends task outcome => exact kept.ends stepped
  | polls caller => exact kept.polls stepped
  | drops caller => exact kept.drops stepped

theorem run_kept {labels : List (ConnectAction ε)} (run : exec step new labels = some once) : once.Kept :=
  exec_invariant Kept (fun _ _ _ stepped kept => kept.step stepped) run kept_new

/-- However callers join, force, poll and are dropped, and connects end: a caller is given the outcome
of the one connect it joined, the same for all who joined it, and can have it as soon as there is one;
no connect is started but the first, a forced one, and one after a failure that some caller was given;
and whether an unforced caller starts one depends on nothing else. -/
theorem shares_one_connect {labels : List (ConnectAction ε)} {reached : ConnectOnce ε}
    (run : exec step new labels = some reached) :
    (∀ task outcome, reached.Told task outcome →
        ∃ held, reached.tasks[task]? = some held ∧ held.outcome = some outcome) ∧
      (∀ caller task, reached.callers[caller]? = some (.joined task) →
        ∃ held, reached.tasks[task]? = some held ∧
          (held.outcome.isSome = true → (reached.step (.polls caller)).isSome = true)) ∧
      (∀ task held later, reached.tasks[task]? = some held → reached.tasks[task + 1]? = some later →
        later.forced = true ∨ ∃ e, held.outcome = some (.error e) ∧ reached.Told task (.error e)) ∧
      ((reached.join false).tasks = reached.tasks ↔
        ∃ task, reached.slot = some task ∧ ∀ e, ¬ reached.Told task (.error e)) := by
  have kept := run_kept run
  refine ⟨?_, ?_, kept.justified, ?_⟩
  · intro task outcome told
    obtain ⟨held, found, ended, _⟩ := kept.told task outcome told
    exact ⟨held, found, ended⟩
  · intro caller task waits
    have within := kept.joined task (List.mem_of_getElem? waits)
    obtain ⟨held, found⟩ : ∃ held, reached.tasks[task]? = some held :=
      ⟨_, List.getElem?_eq_getElem within⟩
    refine ⟨held, found, fun ended => ?_⟩
    obtain ⟨forced, outcome, polled⟩ := held
    cases outcome with
    | none => cases ended
    | some outcome => simp [step, polls, waits, found]
  · constructor
    · intro same
      apply Classical.byContradiction
      intro none
      have fresh : ∀ task, reached.slot = some task →
          false = true ∨ ∃ e, reached.Told task (.error e) := by
        intro task found
        apply Or.inr
        apply Classical.byContradiction
        exact fun untold => none ⟨task, found, not_exists.mp untold⟩
      rw [kept.join_starts fresh] at same
      simp [start] at same
    · intro ⟨task, found, untold⟩
      rw [kept.join_joins found untold]

/-- The first connect fails and its caller is dropped before it hears of it, so the second caller is
given that failure; only the third one tries again. -/
theorem shares_one_connect_unheard :
    ∃ reached : ConnectOnce Nat,
      reached.tasks = [⟨false, some (.error 7), true⟩, ⟨false, none, false⟩] ∧ reached.Told 0 (.error 7) ∧
      ∃ task, reached.slot = some task ∧ ∀ e, ¬ reached.Told task (.error e) := by
  have run : exec step (new : ConnectOnce Nat)
      [.join false, .drops 0, .ends 0 (.error 7), .join false, .polls 1, .join false] =
      some ⟨some 1, [⟨false, some (.error 7), true⟩, ⟨false, none, false⟩],
        [.dropped, .given 0 (.error 7), .joined 1]⟩ := rfl
  obtain ⟨_, _, _, shares⟩ := shares_one_connect run
  exact ⟨_, rfl, by simp [Told], shares.mp rfl⟩

end ConnectOnce

end Bsrs.Devices
