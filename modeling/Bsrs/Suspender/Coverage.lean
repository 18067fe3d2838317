import Bsrs.Suspender.Watcher

namespace Bsrs.Suspender

open Bsrs.Library (exec exec_cons exec_append exec_invariant)
open Bsrs.Engine (RunControl)

/-- A suspension of this suspender is in force: requested in this run, and not released. -/
def State.Outstanding (state : State α) : Prop :=
  ∃ hold ∈ state.suspensions, hold.gen = state.ctl.runGen

/-- Whatever else happens while the run goes on, the watcher left to its own statements has
requested a suspension after `state`. -/
def Caused (suspender : SignalSuspender α) (state : State α) : Prop :=
  ∀ labels later, exec (step suspender) state labels = some later →
    (∀ label ∈ labels, label ≠ .run .finish) →
      ∃ (turns : List Turn) (final : State α),
        exec (step suspender) later (turns.map .watcher) = some final ∧ state.asked < final.asked

/-- A BAD value posted finds a suspension outstanding, or causes one to be requested. -/
def Covered (suspender : SignalSuspender α) (state : State α) (value : α) : Prop :=
  state.Outstanding ∨ Caused suspender (state.post value)

/-- The watcher listens for a trip, or is on its way from one to its request. -/
def State.Armed (suspender : SignalSuspender α) (state : State α) : Prop :=
  match state.watcher with
  | .tripping _ | .tripped | .clearing | .requesting _ => True
  | .arming => ∀ value, suspender.bad value = true
  | .rearming | .watching _ => False

/-- A one-shot suspender that has tripped is found tripped. -/
def KeepsTripped (suspender : SignalSuspender α) (state : State α) : Prop :=
  suspender.autoResume = false → state.hasTripped = true →
    (suspender.tripped state.latest).isSome = true

def Label.posted? : Label α → Option α
  | .post value => some value
  | _ => none

/-- The value posted last. -/
def lastPosted (latest : Option α) (labels : List (Label α)) : Option α :=
  (labels.filterMap Label.posted?).getLast?.or latest

section

variable {suspender : SignalSuspender α} {before after state later : State α} {label : Label α}
  {labels : List (Label α)} {asked : Nat} {value : α}

/-! ## What a step of the others leaves -/

/-- The steps that are not the watcher's keep its place and its requests, and nothing but the end
of a run ends it. -/
structure Bystander (before after : State α) : Prop where
  watcher : after.watcher = before.watcher
  asked : after.asked = before.asked
  latest : after.latest = before.latest
  running : before.phase = .running ∧ before.ctl.isRunning = true →
    after.phase = .running ∧ after.ctl.isRunning = true

theorem runStep_bystander (stepped : runStep suspender before stage = some after)
    (goes : stage ≠ .finish) : Bystander before after := by
  unfold runStep at stepped
  split at stepped
  · split at stepped
    · cases stepped
    · cases stepped
      exact ⟨rfl, rfl, rfl, fun running => by simp_all⟩
  · cases stepped
    exact ⟨rfl, rfl, rfl, fun running => by simp_all⟩
  · split at stepped <;> cases stepped <;> exact ⟨rfl, rfl, rfl, fun running => by simp_all⟩
  · obtain ⟨poll, -, rfl⟩ := Option.map_eq_some_iff.mp stepped
    cases poll <;> exact ⟨rfl, rfl, rfl, fun running => by simp_all⟩
  · exact absurd rfl goes
  · cases stepped

theorem release_running (ctl : RunControl) (gen : Nat) :
    (ctl.release gen).isRunning = ctl.isRunning := by
  unfold RunControl.release RunControl.wake
  split
  · rfl
  · dsimp only
    split <;> rfl

theorem holdStep_bystander (stepped : holdStep suspender before index notice = some after) :
    Bystander before after := by
  obtain ⟨hold, -, polled⟩ := Option.bind_eq_some_iff.mp stepped
  obtain ⟨poll, -, rfl⟩ := Option.map_eq_some_iff.mp polled
  cases poll with
  | pending clear => exact ⟨rfl, rfl, rfl, id⟩
  | resolved => exact ⟨rfl, rfl, rfl, fun running => ⟨running.1, by
      rw [release_running]
      exact running.2⟩⟩

/-! ## An armed watcher requests -/

/-- The run goes on and the watcher's loop cannot come back to rest before it requests. -/
structure Heading (suspender : SignalSuspender α) (state : State α) : Prop where
  running : state.phase = .running
  claimed : state.ctl.isRunning = true
  bound :
    match state.watcher with
    | .tripping queue => ∃ value ∈ queue, suspender.bad value = true
    | .tripped | .clearing | .requesting _ => True
    | .arming => (∀ value, suspender.bad value = true) ∧ state.latest.isSome = true
    | .rearming | .watching _ => False

theorem Heading.of_armed (running : state.phase = .running)
    (claimed : state.ctl.isRunning = true) (bad : suspender.bad value = true)
    (armed : state.Armed suspender) : Heading suspender (state.post value) := by
  refine ⟨?_, claimed, ?_⟩
  · simp only [State.post, running, Phase.post]
  · unfold State.Armed at armed
    cases place : state.watcher with
    | arming =>
        simp only [place] at armed
        simp only [State.post, place, Watcher.post]
        exact ⟨armed, rfl⟩
    | tripping queue =>
        simp only [State.post, place, Watcher.post]
        exact ⟨value, List.mem_append_right _ List.mem_cons_self, bad⟩
    | rearming => simp [place] at armed
    | watching own => simp [place] at armed
    | _ => simp only [State.post, place, Watcher.post]

theorem Heading.bystander (heading : Heading suspender before)
    (moved : Bystander before after) : Heading suspender after := by
  have running := moved.running ⟨heading.running, heading.claimed⟩
  refine ⟨running.1, running.2, ?_⟩
  rw [moved.watcher, moved.latest]
  exact heading.bound

theorem Heading.post (heading : Heading suspender state) (value : α) :
    Heading suspender (state.post value) := by
  refine ⟨?_, heading.claimed, ?_⟩
  · simp only [State.post, heading.running, Phase.post]
  · have bound := heading.bound
    cases place : state.watcher with
    | arming =>
        simp only [place] at bound
        simp only [State.post, place, Watcher.post]
        exact ⟨bound.1, rfl⟩
    | tripping queue =>
        simp only [place] at bound
        obtain ⟨held, member, bad⟩ := bound
        simp only [State.post, place, Watcher.post]
        exact ⟨held, List.mem_append_left _ member, bad⟩
    | rearming => simp [place] at bound
    | watching own => simp [place] at bound
    | _ => simp only [State.post, place, Watcher.post]

/-- Its own statement takes a heading watcher one step on, or is the request. -/
theorem Heading.watcherStep (heading : Heading suspender before) {turn : Turn}
    (stepped : watcherStep suspender before turn = some after) :
    Heading suspender after ∧ after.asked = before.asked ∨ before.asked < after.asked := by
  obtain ⟨running, claimed, bound⟩ := heading
  unfold Suspender.watcherStep at stepped
  split at stepped
  case h_1 place =>
    simp only [place] at bound
    cases stepped
    obtain ⟨held, some⟩ := Option.isSome_iff_exists.mp bound.2
    refine .inl ⟨⟨running, claimed, held, ?_, bound.1 held⟩, rfl⟩
    simp [listen, some]
  case h_2 value rest place =>
    simp only [place] at bound
    split at stepped
    · cases stepped
      exact .inl ⟨⟨running, claimed, trivial⟩, rfl⟩
    · rename_i good
      cases stepped
      obtain ⟨held, member, bad⟩ := bound
      rcases List.mem_cons.mp member with rfl | later
      · exact absurd bad good
      · exact .inl ⟨⟨running, claimed, held, later, bad⟩, rfl⟩
  case h_3 =>
    cases stepped
    refine .inl ⟨⟨running, claimed, ?_⟩, rfl⟩
    simp [claimed]
  case h_4 =>
    cases stepped
    exact .inl ⟨⟨running, claimed, trivial⟩, rfl⟩
  case h_5 =>
    cases stepped
    exact .inr (Nat.lt_succ_self _)
  case h_6 place => simp [place] at bound
  case h_7 place => simp [place] at bound
  case h_8 => cases stepped

theorem watcherStep_asked {turn : Turn}
    (stepped : watcherStep suspender before turn = some after) : before.asked ≤ after.asked := by
  unfold watcherStep at stepped
  split at stepped
  case h_2 =>
    split at stepped <;> cases stepped <;> exact Nat.le_refl _
  case h_5 =>
    cases stepped
    exact Nat.le_succ _
  case h_7 =>
    obtain ⟨poll, -, rfl⟩ := Option.map_eq_some_iff.mp stepped
    cases poll <;> exact Nat.le_refl _
  case h_8 => cases stepped
  all_goals
    cases stepped
    exact Nat.le_refl _

/-- Requested since `asked` requests were counted, or bound to be. -/
def Due (suspender : SignalSuspender α) (asked : Nat) (state : State α) : Prop :=
  asked < state.asked ∨ asked ≤ state.asked ∧ Heading suspender state

theorem step_due (stepped : step suspender before label = some after)
    (goes : label ≠ .run .finish) (due : Due suspender asked before) :
    Due suspender asked after := by
  cases label with
  | post value =>
      cases stepped
      exact due.imp_right fun bound => ⟨bound.1, bound.2.post value⟩
  | watcher turn =>
      rcases due with requested | ⟨counted, heading⟩
      · exact .inl (Nat.lt_of_lt_of_le requested (watcherStep_asked stepped))
      · rcases heading.watcherStep stepped with ⟨still, same⟩ | requested
        · exact .inr ⟨same ▸ counted, still⟩
        · exact .inl (Nat.lt_of_le_of_lt counted requested)
  | run stage =>
      have moved := runStep_bystander stepped fun same => goes (congrArg _ same)
      unfold Due
      rw [moved.asked]
      exact due.imp_right fun bound => ⟨bound.1, bound.2.bystander moved⟩
  | hold index notice =>
      have moved := holdStep_bystander stepped
      unfold Due
      rw [moved.asked]
      exact due.imp_right fun bound => ⟨bound.1, bound.2.bystander moved⟩

theorem exec_due (ran : exec (step suspender) before labels = some after)
    (goes : ∀ label ∈ labels, label ≠ .run .finish) (due : Due suspender asked before) :
    Due suspender asked after := by
  induction labels generalizing before with
  | nil =>
      cases ran
      exact due
  | cons label rest ih =>
      obtain ⟨next, stepped, remaining⟩ := exec_cons ran
      have kept := step_due stepped (goes label List.mem_cons_self) due
      exact ih remaining (fun other member => goes other (List.mem_cons_of_mem _ member)) kept

/-- Left to itself, the watcher makes a request. -/
def Requests (suspender : SignalSuspender α) (state : State α) : Prop :=
  ∃ (turns : List Turn) (final : State α),
    exec (step suspender) state (turns.map .watcher) = some final ∧ state.asked < final.asked

theorem Requests.step (turn : Turn) (stepped : watcherStep suspender before turn = some after)
    (requests : Requests suspender after) : Requests suspender before := by
  obtain ⟨turns, final, ran, requested⟩ := requests
  refine ⟨turn :: turns, final, ?_, Nat.lt_of_le_of_lt (watcherStep_asked stepped) requested⟩
  have first : Suspender.step suspender before (.watcher turn) = some after := stepped
  simp only [List.map_cons, exec, first, Option.bind_some, ran]

/-! The watcher's statements one by one. -/

theorem arm_step (place : state.watcher = .arming) :
    watcherStep suspender state .arm =
      some { state with watcher := .tripping (listen state.latest) } := by
  unfold watcherStep
  rw [place]

theorem trip_bad {rest : List α} (place : state.watcher = .tripping (value :: rest))
    (bad : suspender.bad value = true) :
    watcherStep suspender state .trip =
      some { state with watcher := .tripped, hasTripped := true } := by
  unfold watcherStep
  rw [place]
  exact if_pos bad

theorem trip_good {rest : List α} (place : state.watcher = .tripping (value :: rest))
    (good : suspender.bad value = false) :
    watcherStep suspender state .trip = some { state with watcher := .tripping rest } := by
  unfold watcherStep
  rw [place]
  exact if_neg (Bool.eq_false_iff.mp good)

theorem look_running (place : state.watcher = .tripped) (claimed : state.ctl.isRunning = true) :
    watcherStep suspender state .look = some { state with watcher := .clearing } := by
  unfold watcherStep
  rw [place]
  simp only [claimed, if_true]

theorem clear_step (place : state.watcher = .clearing) :
    watcherStep suspender state .clear =
      some { state with watcher := .requesting (suspender.watch state.latest) } := by
  unfold watcherStep
  rw [place]

theorem request_step (suspender : SignalSuspender α) {clear : Clear α} (place : state.watcher = .requesting clear) :
    ∃ final, watcherStep suspender state .request = some final ∧
      final.asked = state.asked + 1 := by
  unfold watcherStep
  rw [place]
  exact ⟨_, rfl, rfl⟩

theorem rearm_step (place : state.watcher = .rearming) :
    watcherStep suspender state .rearm =
      some { state with watcher := .watching (suspender.watch state.latest) } := by
  unfold watcherStep
  rw [place]

theorem requests_of_requesting {clear : Clear α} (place : state.watcher = .requesting clear) :
    Requests suspender state := by
  obtain ⟨final, stepped, counted⟩ := request_step suspender place
  have first : step suspender state (.watcher .request) = some final := stepped
  refine ⟨[.request], final, ?_, by omega⟩
  simp only [List.map_cons, List.map_nil, exec, first, Option.bind_some]

theorem requests_of_clearing (place : state.watcher = .clearing) : Requests suspender state :=
  .step .clear (clear_step place) (requests_of_requesting rfl)

theorem requests_of_tripped (place : state.watcher = .tripped)
    (claimed : state.ctl.isRunning = true) : Requests suspender state :=
  .step .look (look_running place claimed) (requests_of_clearing rfl)

theorem requests_of_tripping {queue : List α} (place : state.watcher = .tripping queue)
    (claimed : state.ctl.isRunning = true) (held : ∃ value ∈ queue, suspender.bad value = true) :
    Requests suspender state := by
  induction queue generalizing state with
  | nil => simp at held
  | cons value rest ih =>
      cases bad : suspender.bad value with
      | true =>
          exact .step .trip (trip_bad place bad) (requests_of_tripped rfl claimed)
      | false =>
          obtain ⟨other, member, found⟩ := held
          rcases List.mem_cons.mp member with rfl | later
          · rw [bad] at found
            cases found
          · exact .step .trip (trip_good place bad) (ih rfl claimed ⟨other, later, found⟩)

theorem Heading.requests (heading : Heading suspender state) : Requests suspender state := by
  obtain ⟨-, claimed, bound⟩ := heading
  cases place : state.watcher with
  | arming =>
      simp only [place] at bound
      obtain ⟨held, some⟩ := Option.isSome_iff_exists.mp bound.2
      refine .step .arm (arm_step place) ?_
      exact requests_of_tripping rfl claimed ⟨held, by simp [listen, some], bound.1 held⟩
  | tripping queue =>
      simp only [place] at bound
      exact requests_of_tripping place claimed bound
  | tripped => exact requests_of_tripped place claimed
  | clearing => exact requests_of_clearing place
  | requesting clear => exact requests_of_requesting place
  | rearming => simp [place] at bound
  | watching own => simp [place] at bound

/-- A BAD value posted to an armed watcher causes a request. -/
theorem caused_of_armed (running : state.phase = .running) (claimed : state.ctl.isRunning = true)
    (bad : suspender.bad value = true) (armed : state.Armed suspender) :
    Caused suspender (state.post value) := by
  intro labels later ran goes
  have start : Due suspender state.asked (state.post value) :=
    .inr ⟨Nat.le_refl _, .of_armed running claimed bad armed⟩
  rcases exec_due ran goes start with requested | ⟨counted, heading⟩
  · exact ⟨[], later, rfl, requested⟩
  · obtain ⟨turns, final, went, requested⟩ := heading.requests
    exact ⟨turns, final, went, Nat.lt_of_le_of_lt counted requested⟩

/-! ## An unarmed watcher can miss it -/

/-- Some way for the run to go on leaves the watcher waiting with nothing requested. -/
def Misses (suspender : SignalSuspender α) (state : State α) : Prop :=
  ∃ (labels : List (Label α)) (later : State α), exec (step suspender) state labels = some later ∧
    (∀ label ∈ labels, label ≠ .run .finish) ∧ later.asked = state.asked ∧
      ∀ turn, watcherStep suspender later turn = none

theorem Misses.not_caused (misses : Misses suspender state) : ¬ Caused suspender state := by
  obtain ⟨labels, later, ran, goes, same, stuck⟩ := misses
  intro caused
  obtain ⟨turns, final, went, requested⟩ := caused labels later ran goes
  cases turns with
  | nil =>
      cases went
      omega
  | cons turn rest =>
      obtain ⟨next, stepped, -⟩ := exec_cons went
      have blocked : step suspender later (.watcher turn) = none := stuck turn
      rw [blocked] at stepped
      cases stepped

theorem Misses.stuck (stuck : ∀ turn, watcherStep suspender state turn = none) :
    Misses suspender state :=
  ⟨[], state, rfl, by simp, rfl, stuck⟩

theorem Misses.watcher (turn : Turn) (stepped : watcherStep suspender before turn = some after)
    (same : after.asked = before.asked) (misses : Misses suspender after) :
    Misses suspender before := by
  obtain ⟨labels, later, ran, goes, counted, stuck⟩ := misses
  have first : step suspender before (.watcher turn) = some after := stepped
  refine ⟨.watcher turn :: labels, later, ?_, ?_, counted.trans same, stuck⟩
  · simp only [exec, first, Option.bind_some, ran]
  · intro label member
    rcases List.mem_cons.mp member with rfl | later
    · rintro ⟨⟩
    · exact goes label later

theorem Misses.post (value : α) (misses : Misses suspender (state.post value)) :
    Misses suspender state := by
  obtain ⟨labels, later, ran, goes, counted, stuck⟩ := misses
  refine ⟨.post value :: labels, later, ran, ?_, counted, stuck⟩
  intro label member
  rcases List.mem_cons.mp member with rfl | later
  · nofun
  · exact goes label later

/-- A GOOD value posted before the watcher listens again hides the BAD one. -/
theorem misses_of_arming (place : state.watcher = .arming) (good : suspender.bad value = false) :
    Misses suspender state := by
  refine .post value (.watcher .arm (arm_step ?_) rfl ?_)
  · simp only [State.post, place, Watcher.post]
  · refine .watcher .trip (trip_good rfl good) rfl (.stuck fun turn => ?_)
    simp only [watcherStep]

theorem stuck_watching (own : Clear α) (place : state.watcher = .watching own)
    (pending : ∀ notice, suspender.poll own notice = none) (turn : Turn) :
    watcherStep suspender state turn = none := by
  cases turn with
  | watch notice => simp only [watcherStep, place, pending notice, Option.map_none]
  | _ => simp only [watcherStep, place]

theorem watch_value (suspender : SignalSuspender α) {own : Clear α} {rest : List α} (place : state.watcher = .watching own)
    (next : own = .reading (value :: rest) ∨ own = .asleep (value :: rest)) :
    watcherStep suspender state (.watch .value) =
      some { state with
        watcher :=
          match suspender.judge value rest with
          | .pending own => .watching own
          | .resolved => .arming } := by
  rcases next with rfl | rfl <;>
    cases judged : suspender.judge value rest <;>
    simp only [watcherStep, place, SignalSuspender.poll, Option.map_some, judged]

/-- Its own `watch` reads up to the BAD value and waits for the next one. -/
theorem misses_of_watching (queue : List α) {own : Clear α} (place : state.watcher = .watching own)
    (bad : suspender.bad value = true)
    (held : own = .reading (queue ++ [value]) ∨ own = .asleep (queue ++ [value])) :
    Misses suspender state := by
  induction queue generalizing state own with
  | nil =>
      refine .watcher (.watch .value) (watch_value suspender place held) rfl ?_
      refine .stuck (stuck_watching (.reading []) ?_ fun notice => ?_)
      · simp only [SignalSuspender.judge, bad, if_true]
      · cases notice <;> rfl
  | cons first rest ih =>
      refine .watcher (.watch .value) (watch_value suspender place held) rfl ?_
      unfold SignalSuspender.judge
      cases good : suspender.bad first with
      | true => exact ih (by simp) (.inl rfl)
      | false =>
          cases delayed : suspender.resumeDelay.isSome with
          | true => exact ih (by simp) (.inr rfl)
          | false => exact misses_of_arming (by simp) good

/-- The future of a fresh `watch` of a BAD value, or one that never resolves, waits. -/
theorem misses_of_unarmed (bad : suspender.bad value = true) (unarmed : ¬ state.Armed suspender) :
    Misses suspender (state.post value) := by
  cases place : state.watcher with
  | arming =>
      simp only [State.Armed, place, Classical.not_forall, Bool.not_eq_true] at unarmed
      obtain ⟨good, judged⟩ := unarmed
      exact misses_of_arming (by simp only [State.post, place, Watcher.post]) judged
  | rearming =>
      refine .watcher .rearm (rearm_step (by simp only [State.post, place, Watcher.post])) rfl ?_
      cases auto : suspender.autoResume with
      | true =>
          refine misses_of_watching [] rfl bad (.inl ?_)
          simp [SignalSuspender.watch, auto, State.post, listen]
      | false =>
          refine .stuck (stuck_watching _ rfl fun notice => ?_)
          simp only [SignalSuspender.watch, auto, Bool.false_eq_true, if_false]
          cases notice <;> rfl
  | watching own =>
      have posted : (state.post value).watcher = .watching (own.post value) := by
        simp only [State.post, place, Watcher.post]
      cases own with
      | never => exact .stuck (stuck_watching .never posted fun notice => by cases notice <;> rfl)
      | reading queue => exact misses_of_watching queue posted bad (.inl rfl)
      | asleep queue => exact misses_of_watching queue posted bad (.inr rfl)
  | _ => simp [State.Armed, place] at unarmed

/-! ## Every reachable state -/

/-- No statement of the watcher posts a value, starts a run or ends one. -/
theorem watcherStep_frame {turn : Turn} (stepped : watcherStep suspender before turn = some after) :
    after.latest = before.latest ∧ after.phase = before.phase ∧
      after.ctl.isRunning = before.ctl.isRunning := by
  unfold watcherStep at stepped
  split at stepped
  case h_2 => split at stepped <;> cases stepped <;> exact ⟨rfl, rfl, rfl⟩
  case h_7 =>
    obtain ⟨poll, -, rfl⟩ := Option.map_eq_some_iff.mp stepped
    cases poll <;> exact ⟨rfl, rfl, rfl⟩
  case h_8 => cases stepped
  all_goals
    cases stepped
    exact ⟨rfl, rfl, rfl⟩

theorem holdStep_frame (stepped : holdStep suspender before index notice = some after) :
    after.latest = before.latest ∧ after.phase = before.phase ∧
      after.ctl.isRunning = before.ctl.isRunning := by
  obtain ⟨hold, -, polled⟩ := Option.bind_eq_some_iff.mp stepped
  obtain ⟨poll, -, rfl⟩ := Option.map_eq_some_iff.mp polled
  cases poll with
  | pending clear => exact ⟨rfl, rfl, rfl⟩
  | resolved => exact ⟨rfl, rfl, release_running _ _⟩

/-- Outside `idle` the engine is claimed, and `latest` is the value posted last. -/
structure Tracked (latest : Option α) (labels : List (Label α)) (state : State α) : Prop where
  claimed : state.phase ≠ .idle → state.ctl.isRunning = true
  latest : state.latest = lastPosted latest labels

theorem lastPosted_append (latest : Option α) (labels : List (Label α)) (label : Label α) :
    lastPosted latest (labels ++ [label]) = label.posted?.or (lastPosted latest labels) := by
  unfold lastPosted
  rw [List.filterMap_append]
  cases posted : label.posted? with
  | none => simp [posted]
  | some value => simp [posted]

theorem runStep_tracked (stepped : runStep suspender before stage = some after)
    (claimed : before.phase ≠ .idle → before.ctl.isRunning = true) :
    after.latest = before.latest ∧ (after.phase ≠ .idle → after.ctl.isRunning = true) := by
  unfold runStep at stepped
  split at stepped
  case h_1 =>
    split at stepped
    · cases stepped
    · cases stepped
      exact ⟨rfl, fun _ => rfl⟩
  case h_2 place =>
    cases stepped
    exact ⟨rfl, fun _ => claimed (by simp [place])⟩
  case h_3 place =>
    have held := claimed (by simp [place])
    split at stepped <;> cases stepped <;> exact ⟨rfl, fun _ => held⟩
  case h_4 place =>
    have held := claimed (by simp [place])
    obtain ⟨poll, -, rfl⟩ := Option.map_eq_some_iff.mp stepped
    cases poll <;> exact ⟨rfl, fun _ => held⟩
  case h_5 =>
    cases stepped
    exact ⟨rfl, fun busy => absurd rfl busy⟩
  case h_6 => cases stepped

theorem Tracked.moved {latest : Option α} (tracked : Tracked latest labels before)
    (stepped : step suspender before label = some after) :
    Tracked latest (labels ++ [label]) after := by
  have posted := lastPosted_append latest labels label
  cases label with
  | post value =>
      cases stepped
      refine ⟨fun busy => tracked.claimed fun idle => busy ?_, posted.symm⟩
      simp only [State.post, idle, Phase.post]
  | watcher turn =>
      obtain ⟨same, phase, running⟩ := watcherStep_frame stepped
      refine ⟨?_, same.trans (tracked.latest.trans posted.symm)⟩
      rw [phase, running]
      exact tracked.claimed
  | run stage =>
      obtain ⟨same, claimed⟩ := runStep_tracked stepped tracked.claimed
      exact ⟨claimed, same.trans (tracked.latest.trans posted.symm)⟩
  | hold index notice =>
      obtain ⟨same, phase, running⟩ := holdStep_frame stepped
      refine ⟨?_, same.trans (tracked.latest.trans posted.symm)⟩
      rw [phase, running]
      exact tracked.claimed

theorem Tracked.ran {latest : Option α} {earlier : List (Label α)}
    (tracked : Tracked latest earlier before)
    (ran : exec (step suspender) before labels = some after) :
    Tracked latest (earlier ++ labels) after := by
  induction labels generalizing before earlier with
  | nil =>
      cases ran
      rw [List.append_nil]
      exact tracked
  | cons label rest ih =>
      obtain ⟨next, stepped, remaining⟩ := exec_cons ran
      have moved := ih (tracked.moved stepped) remaining
      rw [List.append_assoc] at moved
      exact moved

theorem Tracked.installed (latest : Option α) (ctl : RunControl) :
    Tracked latest [] (.installed latest ctl) := by
  refine ⟨fun busy => ?_, rfl⟩
  unfold State.installed at busy ⊢
  cases running : ctl.isRunning with
  | true => rfl
  | false => simp [running] at busy

end

/-- In every state the suspender, its engine and its source can reach: a BAD value posted during a
run is covered exactly when a suspension is outstanding or the watcher is armed, and a one-shot
suspender that tripped is found tripped exactly when the value posted last is BAD. -/
theorem suspender_coverage (suspender : SignalSuspender α) {latest : Option α} {ctl : RunControl}
    {labels : List (Label α)} {state : State α}
    (reached : exec (step suspender) (.installed latest ctl) labels = some state) :
    (∀ value, state.phase = .running → suspender.bad value = true →
      (Covered suspender state value ↔ state.Outstanding ∨ state.Armed suspender)) ∧
    (KeepsTripped suspender state ↔
      (suspender.autoResume = false → state.hasTripped = true →
        ∃ value, lastPosted latest labels = some value ∧ suspender.bad value = true)) := by
  have tracked := (Tracked.installed latest ctl).ran reached
  rw [List.nil_append] at tracked
  constructor
  · intro value running bad
    have claimed := tracked.claimed (by simp [running])
    constructor
    · rintro (outstanding | caused)
      · exact .inl outstanding
      · refine .inr (Classical.byContradiction fun unarmed => ?_)
        exact (misses_of_unarmed bad unarmed).not_caused caused
    · rintro (outstanding | armed)
      · exact .inl outstanding
      · exact .inr (caused_of_armed running claimed bad armed)
  · unfold KeepsTripped SignalSuspender.tripped
    rw [tracked.latest]
    refine forall₂_congr fun _ _ => ?_
    cases lastPosted latest labels with
    | none => simp
    | some value => simp

/-- The idle engine, its watcher listening, and a run claimed and begun while the value is GOOD. -/
def startedArmed : List (Label Bool) :=
  [.watcher .arm, .watcher .trip, .run .claim, .run .reset, .run .gate]

theorem suspender_coverage_started :
    ∃ state, exec (step (suspendBoolHigh "beam")) (.installed (some false) .new) startedArmed =
        some state ∧
      Covered (suspendBoolHigh "beam") state true ∧ KeepsTripped (suspendBoolHigh "beam") state := by
  have finishes : ∃ state ∈ exec (step (suspendBoolHigh "beam")) (.installed (some false) .new)
      startedArmed, state.phase = .running ∧ state.watcher = .tripping [] := by
    decide +kernel
  obtain ⟨state, reached, running, place⟩ := finishes
  have ⟨covers, keeps⟩ := suspender_coverage (suspendBoolHigh "beam") reached
  refine ⟨state, reached, (covers true running rfl).mpr (.inr ?_), keeps.mpr nofun⟩
  simp only [State.Armed, place]

/-- A trip while the engine is idle, the value GOOD again and the resume delay running as the next
run begins: the watcher sits in its own `watch`. -/
def startedAsleep : List (Label Bool) :=
  [.watcher .arm, .watcher .trip, .watcher .look, .watcher .rearm, .watcher (.watch .value),
    .post false, .watcher (.watch .value), .run .claim, .run .reset, .run .gate]

/-- A one-shot suspender trips and the value comes back to the expected one. -/
def trippedOnce : List (Label Nat) :=
  [.watcher .arm, .post 1, .watcher .trip, .watcher .trip, .post 0]

theorem suspender_misses :
    (∃ state, exec (step ((suspendBoolHigh "beam").withResumeDelay 5000))
        (.installed (some true) .new) startedAsleep = some state ∧
      state.phase = .running ∧
      ¬ Covered ((suspendBoolHigh "beam").withResumeDelay 5000) state true) ∧
    ∃ state, exec (step (suspendWhenChanged "mode" 0)) (.installed (some 0) .new) trippedOnce =
        some state ∧
      ¬ KeepsTripped (suspendWhenChanged "mode" 0) state := by
  constructor
  · have finishes : ∃ state ∈ exec (step ((suspendBoolHigh "beam").withResumeDelay 5000))
        (.installed (some true) .new) startedAsleep,
        state.phase = .running ∧ state.suspensions = [] ∧
          state.watcher = .watching (.asleep []) := by
      decide +kernel
    obtain ⟨state, reached, running, nothing, place⟩ := finishes
    refine ⟨state, reached, running, ?_⟩
    rintro (⟨hold, member, -⟩ | caused)
    · simp [nothing] at member
    · exact (misses_of_unarmed rfl (by simp [State.Armed, place])).not_caused caused
  · have finishes : ∃ state ∈ exec (step (suspendWhenChanged "mode" 0)) (.installed (some 0) .new)
        trippedOnce, state.hasTripped = true ∧ state.latest = some 0 := by
      decide +kernel
    obtain ⟨state, reached, tripped, latest⟩ := finishes
    refine ⟨state, reached, fun keeps => ?_⟩
    have found := keeps rfl tripped
    rw [latest] at found
    exact absurd found (by decide +kernel)

end Bsrs.Suspender
