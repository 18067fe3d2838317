import Bsrs.Engine.Catalog
import Bsrs.Library.Run

namespace Bsrs.Engine

open Bsrs.Library (Table Action exec exec_invariant exec_invariant_throughout)
open Bsrs.Library.Action
open Bsrs.Core

/-- When each status settles, and how; one that never does stays pending. -/
abbrev World := Status → Option (Nat × Except StatusError Unit)

namespace World

variable (world : World) (time : Nat)

def settled (status : Status) : Option (Except StatusError Unit) :=
  (world status).bind fun (due, outcome) => if due ≤ time then some outcome else none

def failed (status : Status) : Option StatusError :=
  match world.settled time status with
  | some (.error error) => some error
  | _ => none

def succeeded (status : Status) : Bool :=
  match world.settled time status with
  | some (.ok ()) => true
  | _ => false

end World

/-- What a poll of `try_join_all` comes to, by what each member has come to. The function is not
part of the repository. -/
abbrev Join :=
  (Status → Option (Except StatusError Unit)) → List Status → Option (Except StatusError Unit)

/-- What `try_join_all` is documented to do: it succeeds when all members have, it fails with the
error of one of them, and it does so at once. -/
structure Join.Documented (join : Join) : Prop where
  succeeded : ∀ {settled members}, join settled members = some (.ok ()) →
    ∀ status ∈ members, settled status = some (.ok ())
  failed : ∀ {settled members error}, join settled members = some (.error error) →
    ∃ status ∈ members, settled status = some (.error error)
  prompt : ∀ {settled members error}, ∀ status ∈ members, settled status = some (.error error) →
    ∃ first, join settled members = some (.error first)

/-- A moment at which a parked wait is polled: whether a cancelled token is seen before the
members, and whether the wait's timeout has run out. -/
structure Poll where
  time : Nat
  unparks : Bool
  elapsed : Bool
  deriving Repr, DecidableEq

/-- What the poll of a wait finds, the members before the timeout. -/
def Poll.outcome (poll : Poll) (join : Join) (world : World) (members : List Status)
    (cancelled timed : Bool) : Option Parked :=
  if cancelled && poll.unparks then some .unparked
  else
    match join (world.settled poll.time) members with
    | some (.ok ()) => some .resolved
    | some (.error error) => some (.statusFailed error)
    | none => if timed && poll.elapsed then some .elapsed else none

/-- The members of a group that is not there are none. -/
def RunEngine.held (engine : RunEngine) (group : GroupId) : List Status :=
  (engine.state.groups.lookup group).getD []

/-- The poll that ends a wait on the group, and its outcome. -/
def RunEngine.ending (engine : RunEngine) (join : Join) (world : World) (group : GroupId)
    (timed : Bool) (polls : List Poll) : Option (Nat × Parked) :=
  polls.findSome? fun poll =>
    (poll.outcome join world (engine.held group) engine.ctl.cancelled timed).map fun outcome =>
      (poll.time, outcome)

/-- The group a message issues a status into. -/
def issuedGroup : Msg → Option GroupId
  | .set _ _ group | .trigger _ group | .kickoff _ group | .complete _ group
  | .prepare _ _ group => group
  | _ => none

/-- A message that issues a grouped status, a wait with the polls it meets, or anything else that
happens to the engine and leaves the groups alone. -/
inductive GroupTurn where
  | issue (env : Env) (msg : Msg)
  | wait (env : Env) (msg : Msg) (polls : List Poll)
  | meanwhile (engine : RunEngine)

/-- The group a turn is about. -/
def GroupTurn.group : GroupTurn → Option GroupId
  | .issue _ msg => issuedGroup (route msg).2
  | .wait _ msg _ =>
      match (route msg).2 with
      | .wait group _ _ => some group
      | _ => none
  | .meanwhile _ => none

/-- An engine, what its last message came to, and for each group the statuses issued into it
since it was last waited in full or dropped. -/
structure GroupWatch where
  engine : RunEngine
  result : Except BsrsError MsgResult
  issued : GroupId → List Status

def GroupWatch.start (engine : RunEngine) : GroupWatch :=
  { engine := engine, result := .ok .none, issued := fun _ => [] }

/-- What the handler made of the message, as the plan gets it. -/
def answered (outcome : Except BsrsError (Option EventModel.Uid)) (after : RunEngine) :
    Except BsrsError MsgResult :=
  match outcome with
  | .ok _ => .ok after.lastMsgResult
  | .error error => .error error

/-- The status a grouped message issued: the last number minted. -/
def RunEngine.lastStatus (engine : RunEngine) : Status :=
  engine.nextUid - 1

def GroupWatch.step (join : Join) (world : World) (watch : GroupWatch) : GroupTurn → Option GroupWatch
  | .meanwhile engine =>
      if engine.state.groups = watch.engine.state.groups ∧
          watch.engine.nextUid ≤ engine.nextUid then
        some { watch with engine := engine }
      else none
  | .issue env msg =>
      match issuedGroup (route msg).2 with
      | none => none
      | some group =>
          let (outcome, after) := handle env msg watch.engine
          some
            { engine := after
              result := answered outcome after
              issued := match outcome with
                | .ok _ => Function.update watch.issued group
                    (watch.issued group ++ [after.lastStatus])
                | .error _ => watch.issued }
  | .wait env msg polls =>
      match (route msg).2 with
      | .wait group _ timeout =>
          let ending := if watch.engine.held group = [] then some (0, .resolved)
            else watch.engine.ending join world group timeout.isSome polls
          match ending with
          | none => none
          | some (_, parked) =>
              let (outcome, after) := handle { env with parked := fun _ => parked } msg watch.engine
              some
                { engine := after
                  result := answered outcome after
                  issued := match answered outcome after with
                    | .ok (.waitComplete false) => watch.issued
                    | _ => Function.update watch.issued group [] }
      | _ => none

/-- The end of `wait_group` after its parked await: the members go back only for a move-on
timeout, behind whatever the group holds by then. -/
def settleWait (group : GroupId) (errorOnTimeout : Bool) (timeout : Option String)
    (members : List Status) : Parked → EngineAction Bool
  | .unparked => fail .cancelled
  | .statusFailed error => fail (statusFailure error)
  | .elapsed =>
      match timeout with
      | some after =>
          if errorOnTimeout then fail (.timeout after)
          else do
            modify fun engine => engine.withState fun state =>
              { state with
                groups := state.groups.insert group
                  ((state.groups.lookup group).getD [] ++ members) }
            pure false
      | none => pure true
  | .failed _ | .resolved => pure true

theorem waitGroup_eq (env : Env) (group : GroupId) (errorOnTimeout : Bool)
    (timeout : Option String) :
    waitGroup env group errorOnTimeout timeout = (do
      let members ← ask fun engine => engine.held group
      modify fun engine => engine.withState fun state =>
        { state with groups := state.groups.erase group }
      record (.awaited group members)
      if members.isEmpty then pure true
      else
        let outcome ← park env
        settleWait group errorOnTimeout timeout members outcome) := by
  unfold waitGroup
  refine bind_congr fun members => bind_congr fun _ => bind_congr fun _ => ?_
  split
  · rfl
  · refine bind_congr fun outcome => ?_
    cases outcome <;> cases timeout <;> rfl

section Moves

/-- The groups stay, and numbers are only used up. -/
structure GroupsStay (before after : RunEngine) : Prop where
  groups : after.state.groups = before.state.groups
  minted : before.nextUid ≤ after.nextUid
  ctl : after.ctl = before.ctl

theorem GroupsStay.refl (engine : RunEngine) : GroupsStay engine engine :=
  ⟨rfl, Nat.le.refl, rfl⟩

theorem GroupsStay.trans {first second third : RunEngine} (head : GroupsStay first second)
    (tail : GroupsStay second third) : GroupsStay first third :=
  ⟨tail.groups.trans head.groups, Nat.le_trans head.minted tail.minted, tail.ctl.trans head.ctl⟩

theorem feed_groups (engine : RunEngine) (key : RunKey) (stream : String) (source : Source)
    (data timestamps : Table String EventModel.Value) :
    GroupsStay engine (engine.feed key stream source data timestamps) := by
  unfold RunEngine.feed
  split
  · exact .refl engine
  · split
    · exact .refl engine
    · exact ⟨rfl, Nat.le_succ _, rfl⟩

theorem pump_groups (engine : RunEngine) (update : Update) : GroupsStay engine (engine.pump update) := by
  unfold RunEngine.pump
  split
  · exact feed_groups _ _ _ _ _ _
  · exact .refl engine

theorem pumped_groups (updates : List Update) (engine : RunEngine) :
    GroupsStay engine (updates.foldl RunEngine.pump engine) := by
  induction updates generalizing engine with
  | nil => exact .refl engine
  | cons update rest ih => exact (pump_groups engine update).trans (ih _)

/-- An await returns, and what runs meanwhile leaves the groups alone. -/
theorem await_groups (env : Env) (engine : RunEngine) :
    ∃ after, await env engine = (.ok engine.ticks, after) ∧ GroupsStay engine after := by
  have ticked : GroupsStay engine { engine with ticks := engine.ticks + 1 } := ⟨rfl, Nat.le.refl, rfl⟩
  exact ⟨_, rfl, ticked.trans (pumped_groups (env.pumped engine.ticks) _)⟩

theorem held_insert (engine : RunEngine) (group other : GroupId) (members : List Status) :
    (engine.withState fun state =>
        { state with groups := state.groups.insert group members }).held other =
      if other = group then members else engine.held other := by
  simp only [RunEngine.held, RunEngine.withState]
  split
  · rename_i same
    rw [same, AList.lookup_insert]
    rfl
  · rename_i different
    rw [AList.lookup_insert_ne different]

/-- One more status, just minted, is in the group; the other groups stay. -/
structure Issues (group : GroupId) (before after : RunEngine) : Prop where
  joins : after.held group = before.held group ++ [after.lastStatus]
  others : ∀ other ≠ group, after.held other = before.held other
  minted : before.nextUid ≤ after.lastStatus ∧ after.lastStatus < after.nextUid

theorem handleIssue_issues (env : Env) (request : Call) (group : GroupId) (engine : RunEngine) :
    ∃ after, handleIssue env request (some group) engine = (.ok (), after) ∧
      Issues group engine after := by
  obtain ⟨awaited, ran, apart⟩ := await_groups env engine
  have handled : handleIssue env request (some group) engine =
      (.ok (), ({ (awaited.record (.called request)) with
          nextUid := awaited.nextUid + 1, lastMsgResult := .status group }).withState fun state =>
        { state with
          groups := state.groups.insert group (awaited.held group ++ [awaited.nextUid]) }) := by
    rw [handleIssue, bind_ok (show issue env request engine = _ by
      rw [issue, bind_ok ran]; rfl)]
    rfl
  have groups : ∀ other, awaited.held other = engine.held other := by
    intro other
    rw [RunEngine.held, apart.groups]
    rfl
  refine ⟨_, handled, ?_, ?_, apart.minted, Nat.lt_succ_self _⟩
  · rw [held_insert, if_pos rfl, groups]
    rfl
  · intro other different
    rw [held_insert, if_neg different]
    exact groups other

/-- A message that issues a grouped status issues one, or is refused and changes no group. -/
theorem handle_issues (env : Env) (msg : Msg) (group : GroupId)
    (issues : issuedGroup (route msg).2 = some group) (engine : RunEngine) :
    (∃ after, handle env msg engine = (.ok none, after) ∧ Issues group engine after) ∨
      ∃ error after, handle env msg engine = (.error error, after) ∧ GroupsStay engine after := by
  unfold handle
  generalize (route msg).1 = key
  have inside : ∀ (request : Call) (before : RunEngine), GroupsStay engine before →
      ∃ after, (handleIssue env request (some group) >>= fun _ =>
        (return none : EngineAction (Option EventModel.Uid))) before = (.ok none, after) ∧
          Issues group engine after := by
    intro request before apart
    obtain ⟨after, handled, issued⟩ := handleIssue_issues env request group before
    refine ⟨after, by rw [bind_ok handled]; rfl, ?_, ?_, ?_⟩
    · rw [issued.joins, RunEngine.held, apart.groups]
      rfl
    · intro other different
      rw [issued.others other different, RunEngine.held, apart.groups]
      rfl
    · exact ⟨Nat.le_trans apart.minted issued.minted.1, issued.minted.2⟩
  cases verb : (route msg).2 with
  | set obj value own =>
      rw [verb] at issues
      obtain rfl : own = some group := issues
      exact .inl (inside _ _ ⟨rfl, Nat.le.refl, rfl⟩)
  | trigger obj own =>
      rw [verb] at issues
      obtain rfl : own = some group := issues
      exact .inl (inside _ _ (.refl engine))
  | complete obj own =>
      rw [verb] at issues
      obtain rfl : own = some group := issues
      exact .inl (inside _ _ (.refl engine))
  | prepare obj value own =>
      rw [verb] at issues
      obtain rfl : own = some group := issues
      exact .inl (inside _ _ (.refl engine))
  | kickoff obj own =>
      rw [verb] at issues
      obtain rfl : own = some group := issues
      cases opened : engine.state.runOpen key with
      | false =>
          refine .inr ⟨.plan .kickoffNoOpenRun, engine, ?_, .refl engine⟩
          simp [handleRouted, handleKickoff, opened, reject, bind_apply]
      | true =>
          refine .inl ?_
          cases collects : obj.collectable with
          | false =>
              have issued := inside (.kickoff obj) (engine.withState fun state =>
                { state with
                  flyableObjsTouched := state.flyableObjsTouched.insert obj.name obj })
                ⟨rfl, Nat.le.refl, rfl⟩
              simpa [handleRouted, handleKickoff, opened, collects, bind_apply] using issued
          | true =>
              have issued := inside (.kickoff obj) (((engine.withState fun state =>
                { state with
                  flyableObjsTouched := state.flyableObjsTouched.insert obj.name obj }).withSlot key
                    fun slot => { slot with
                      uncollected := slot.uncollected.insert obj.name obj }).record
                        (.flown key obj))
                ⟨rfl, Nat.le.refl, rfl⟩
              simpa [handleRouted, handleKickoff, opened, collects, bind_apply, record] using issued
  | _ =>
      rw [verb] at issues
      cases issues

/-- What a wait comes to by the outcome of its parked await. -/
def waitResult (errorOnTimeout : Bool) (timeout : Option String) : Parked → Except BsrsError Bool
  | .unparked => .error .cancelled
  | .statusFailed error => .error (statusFailure error)
  | .elapsed =>
      match timeout with
      | some after => if errorOnTimeout then .error (.timeout after) else .ok false
      | none => .ok true
  | .failed _ | .resolved => .ok true

/-- The members of a wait go back only where it moves on. -/
theorem settleWait_eq (group : GroupId) (errorOnTimeout : Bool) (timeout : Option String)
    (members : List Status) (parked : Parked) (engine : RunEngine) :
    settleWait group errorOnTimeout timeout members parked engine =
      (waitResult errorOnTimeout timeout parked,
        match waitResult errorOnTimeout timeout parked with
        | .ok false => engine.withState fun state =>
            { state with groups := state.groups.insert group (engine.held group ++ members) }
        | _ => engine) := by
  cases parked with
  | elapsed =>
      cases timeout with
      | none => rfl
      | some after => cases errorOnTimeout <;> rfl
  | _ => rfl

theorem held_erase (engine : RunEngine) (group other : GroupId) :
    (engine.withState fun state => { state with groups := state.groups.erase group }).held other =
      if other = group then [] else engine.held other := by
  simp only [RunEngine.held, RunEngine.withState]
  split
  · rename_i same
    rw [same, AList.lookup_erase]
    rfl
  · rename_i different
    rw [AList.lookup_erase_ne different]

/-- How a wait leaves the groups: its own as it was after a move-on timeout, else gone. -/
structure Waits (group : GroupId) (done : Except BsrsError Bool) (before after : RunEngine) :
    Prop where
  own : after.held group = match done with | .ok false => before.held group | _ => []
  others : ∀ other ≠ group, after.held other = before.held other
  minted : before.nextUid ≤ after.nextUid

private theorem handle_wait {env : Env} {msg : Msg} {group : GroupId} {errorOnTimeout : Bool}
    {timeout : Option String} (asked : (route msg).2 = .wait group errorOnTimeout timeout)
    {engine after : RunEngine} {done : Except BsrsError Bool}
    (waited : waitGroup env group errorOnTimeout timeout engine = (done, after)) :
    ∃ outcome last, handle env msg engine = (outcome, last) ∧
      answered outcome last = done.map .waitComplete ∧ last.state = after.state ∧
        last.nextUid = after.nextUid := by
  unfold handle
  rw [asked]
  cases done with
  | error error =>
      refine ⟨.error error, after, ?_, rfl, rfl, rfl⟩
      simp only [handleRouted]
      rw [bind_error waited]
  | ok done =>
      refine ⟨.ok none, { after with lastMsgResult := .waitComplete done }, ?_, rfl, rfl, rfl⟩
      simp only [handleRouted]
      rw [bind_ok waited]
      rfl

private theorem waitGroup_empty (env : Env) {group : GroupId} (errorOnTimeout : Bool)
    (timeout : Option String) {engine : RunEngine} (none : engine.held group = []) :
    ∃ after, waitGroup env group errorOnTimeout timeout engine = (.ok true, after) ∧
      Waits group (.ok true) engine after := by
  refine ⟨(engine.withState fun state =>
    { state with groups := state.groups.erase group }).record (.awaited group []), ?_, ?_, ?_,
    Nat.le.refl⟩
  · rw [waitGroup_eq]
    simp [none, record]
  · exact (held_erase engine group group).trans (if_pos rfl)
  · intro other different
    exact (held_erase engine group other).trans (if_neg different)

private theorem waitGroup_parked (env : Env) {group : GroupId} (errorOnTimeout : Bool)
    (timeout : Option String) {engine : RunEngine} (present : engine.held group ≠ [])
    {parked : Parked} (token : parked = .unparked → engine.ctl.cancelled = true) :
    ∃ after, waitGroup { env with parked := fun _ => parked } group errorOnTimeout timeout engine =
        (waitResult errorOnTimeout timeout parked, after) ∧
      Waits group (waitResult errorOnTimeout timeout parked) engine after := by
  let taken := (engine.withState fun state =>
    { state with groups := state.groups.erase group }).record
      (.awaited group (engine.held group))
  have erased : ∀ other, taken.held other = if other = group then [] else engine.held other :=
    held_erase engine group
  obtain ⟨awaited, ran, apart⟩ := await_groups { env with parked := fun _ => parked } taken
  have same : ∀ other, awaited.held other = taken.held other := by
    intro other
    rw [RunEngine.held, apart.groups]
    rfl
  have unparks : park { env with parked := fun _ => parked } taken = (.ok parked, awaited) := by
    rw [park, bind_ok ran, ask_bind, apart.ctl]
    refine Prod.ext (congrArg Except.ok (if_neg ?_)) rfl
    rintro ⟨unparked, still⟩
    have cancelled := token unparked
    rw [show taken.ctl.cancelled = engine.ctl.cancelled from rfl, cancelled] at still
    cases still
  have ran : waitGroup { env with parked := fun _ => parked } group errorOnTimeout timeout engine =
      settleWait group errorOnTimeout timeout (engine.held group) parked awaited := by
    rw [waitGroup_eq, ask_bind, modify_bind, record, modify_bind,
      if_neg (by simpa using present), bind_ok unparks]
  refine ⟨_, ran.trans (settleWait_eq _ _ _ _ _ _), ?_, ?_, ?_⟩
  · cases result : waitResult errorOnTimeout timeout parked with
    | error error => exact (same group).trans ((erased group).trans (if_pos rfl))
    | ok done =>
        cases done with
        | true => exact (same group).trans ((erased group).trans (if_pos rfl))
        | false =>
            dsimp only
            rw [held_insert, if_pos rfl, same, erased, if_pos rfl, List.nil_append]
  · intro other different
    have kept : awaited.held other = engine.held other :=
      (same other).trans ((erased other).trans (if_neg different))
    split
    · rw [held_insert, if_neg different, kept]
    · exact kept
  · have minted : engine.nextUid ≤ awaited.nextUid := apart.minted
    split
    · exact minted
    · exact minted

end Moves

section Ending

variable {join : Join} {world : World} {time : Nat} {members : List Status}

private theorem succeeded_iff {status : Status} :
    world.succeeded time status = true ↔ world.settled time status = some (.ok ()) := by
  unfold World.succeeded
  rcases world.settled time status with _ | _ | _ <;> simp

private theorem failed_iff {status : Status} {error : StatusError} :
    world.failed time status = some error ↔ world.settled time status = some (.error error) := by
  unfold World.failed
  rcases world.settled time status with _ | _ | _ <;> simp

/-- What the outcome of a poll tells of the members, the token and the timeout. -/
private theorem outcome_tells {poll : Poll} {cancelled timed : Bool} {parked : Parked}
    (found : poll.outcome join world members cancelled timed = some parked) :
    (parked = .unparked ∧ cancelled = true) ∨
      (parked = .resolved ∧ join (world.settled poll.time) members = some (.ok ())) ∨
        (∃ error, parked = .statusFailed error ∧
          join (world.settled poll.time) members = some (.error error)) ∨
          (parked = .elapsed ∧ timed = true ∧ join (world.settled poll.time) members = none) := by
  unfold Poll.outcome at found
  split at found
  · rename_i token
    cases found
    exact .inl ⟨rfl, (Bool.and_eq_true_iff.mp token).1⟩
  · split at found
    · rename_i joined
      cases found
      exact .inr (.inl ⟨rfl, joined⟩)
    · rename_i error joined
      cases found
      exact .inr (.inr (.inl ⟨error, rfl, joined⟩))
    · rename_i joined
      split at found
      · rename_i elapsed
        cases found
        exact .inr (.inr (.inr ⟨rfl, (Bool.and_eq_true_iff.mp elapsed).1, joined⟩))
      · cases found

private theorem ending_poll {engine : RunEngine} {group : GroupId} {timed : Bool}
    {polls : List Poll} {parked : Parked}
    (ended : engine.ending join world group timed polls = some (time, parked)) :
    ∃ poll : Poll, poll.time = time ∧
      poll.outcome join world (engine.held group) engine.ctl.cancelled timed = some parked := by
  obtain ⟨poll, _, found⟩ := List.exists_of_findSome?_eq_some ended
  obtain ⟨outcome, found, same⟩ := Option.map_eq_some_iff.mp found
  cases same
  exact ⟨poll, rfl, found⟩

end Ending

/-- What a wait that ended tells of the statuses issued into its group before. -/
structure WaitKept (join : Join) (world : World) (before after : GroupWatch) (group : GroupId) (timed : Bool)
    (polls : List Poll) : Prop where
  done : after.result = .ok (.waitComplete true) → ∀ status ∈ before.issued group,
    ∃ time parked, before.engine.ending join world group timed polls = some (time, parked) ∧
      world.succeeded time status = true
  kept : after.result = .ok (.waitComplete false) →
    after.engine.held group = before.issued group ∧ (before.issued group).Nodup
  failed : ∀ time parked, before.engine.ending join world group timed polls = some (time, parked) →
    parked ≠ .unparked → ∀ status ∈ before.issued group, ∀ error,
      world.failed time status = some error →
        ∃ first ∈ before.issued group, ∃ reported, world.failed time first = some reported ∧
          after.result = .error (statusFailure reported)

/-- The groups hold what was issued and not waited for, each status once. -/
structure GroupWatch.Kept (watch : GroupWatch) : Prop where
  held : ∀ group, watch.engine.held group = watch.issued group
  fresh : ∀ group, ∀ status ∈ watch.issued group, status < watch.engine.nextUid
  once : ∀ group, (watch.issued group).Nodup

section Steps

variable {join : Join} {world : World} {watch next : GroupWatch}

private theorem GroupWatch.Kept.issued (kept : watch.Kept) {group : GroupId} {engine : RunEngine}
    (issues : Issues group watch.engine engine) (result : Except BsrsError MsgResult) :
    GroupWatch.Kept
      { engine := engine, result := result
        issued := Function.update watch.issued group
          (watch.issued group ++ [engine.lastStatus]) } := by
  refine ⟨?_, ?_, ?_⟩ <;> dsimp only
  · intro other
    by_cases same : other = group
    · subst same
      rw [Function.update_self, issues.joins, kept.held]
    · rw [Function.update_of_ne same, issues.others other same, kept.held]
  · intro other status member
    by_cases same : other = group
    · subst same
      rw [Function.update_self] at member
      rcases List.mem_append.mp member with past | last
      · exact Nat.lt_trans (Nat.lt_of_lt_of_le (kept.fresh other status past) issues.minted.1)
          issues.minted.2
      · rw [List.mem_singleton.mp last]
        exact issues.minted.2
    · rw [Function.update_of_ne same] at member
      exact Nat.lt_trans (Nat.lt_of_lt_of_le (kept.fresh other status member) issues.minted.1)
        issues.minted.2
  · intro other
    by_cases same : other = group
    · subst same
      rw [Function.update_self]
      refine List.Nodup.append (kept.once other) (List.nodup_singleton _) ?_
      intro status past last
      have below := kept.fresh other status past
      rw [List.mem_singleton.mp last] at below
      exact absurd below (Nat.not_lt.mpr issues.minted.1)
    · rw [Function.update_of_ne same]
      exact kept.once other

private theorem GroupWatch.Kept.apart (kept : watch.Kept) {engine : RunEngine}
    (groups : engine.state.groups = watch.engine.state.groups)
    (minted : watch.engine.nextUid ≤ engine.nextUid) (result : Except BsrsError MsgResult) :
    GroupWatch.Kept { watch with engine := engine, result := result } := by
  refine ⟨fun group => ?_, fun group status member => ?_, kept.once⟩
  · rw [RunEngine.held, groups]
    exact kept.held group
  · exact Nat.lt_of_lt_of_le (kept.fresh group status member) minted

/-- What a wait does, in the terms of its result. -/
private theorem step_waits {env : Env} {msg : Msg} {polls : List Poll} {group : GroupId}
    {errorOnTimeout : Bool} {timeout : Option String}
    (asked : (route msg).2 = .wait group errorOnTimeout timeout)
    (stepped : watch.step join world (.wait env msg polls) = some next) :
    ∃ done, next.result = done.map .waitComplete ∧ Waits group done watch.engine next.engine ∧
      next.issued = (match done with
        | .ok false => watch.issued
        | _ => Function.update watch.issued group []) ∧
      ((watch.engine.held group = [] ∧ done = .ok true) ∨
        ∃ time parked, watch.engine.ending join world group timeout.isSome polls = some (time, parked) ∧
          done = waitResult errorOnTimeout timeout parked) := by
  simp only [GroupWatch.step, asked] at stepped
  by_cases empty : watch.engine.held group = []
  · rw [if_pos empty] at stepped
    obtain ⟨after, waited, waits⟩ := waitGroup_empty { env with parked := fun _ => .resolved }
      errorOnTimeout timeout empty
    obtain ⟨outcome, last, handled, result, state, minted⟩ := handle_wait asked waited
    simp only [handled] at stepped
    cases stepped
    refine ⟨.ok true, result, ⟨?_, ?_, ?_⟩, ?_, .inl ⟨empty, rfl⟩⟩
    · rw [RunEngine.held, state]
      exact waits.own
    · intro other different
      rw [RunEngine.held, state]
      exact waits.others other different
    · exact Nat.le_trans waits.minted (Nat.le_of_eq minted.symm)
    · simp only [result]
      rfl
  · rw [if_neg empty] at stepped
    cases ended : watch.engine.ending join world group timeout.isSome polls with
    | none =>
        rw [ended] at stepped
        cases stepped
    | some ending =>
        obtain ⟨time, parked⟩ := ending
        have token : parked = .unparked → watch.engine.ctl.cancelled = true := by
          rintro rfl
          obtain ⟨poll, _, found⟩ := ending_poll ended
          rcases outcome_tells found with ⟨_, token⟩ | ⟨other, _⟩ | ⟨_, other, _⟩ | ⟨other, _⟩
          · exact token
          all_goals cases other
        obtain ⟨after, waited, waits⟩ := waitGroup_parked env errorOnTimeout timeout empty token
        obtain ⟨outcome, last, handled, result, state, minted⟩ := handle_wait asked waited
        rw [ended] at stepped
        simp only [handled] at stepped
        cases stepped
        refine ⟨_, result, ⟨?_, ?_, ?_⟩, ?_, .inr ⟨time, parked, rfl, rfl⟩⟩
        · rw [RunEngine.held, state]
          exact waits.own
        · intro other different
          rw [RunEngine.held, state]
          exact waits.others other different
        · exact Nat.le_trans waits.minted (Nat.le_of_eq minted.symm)
        · simp only [result]
          cases waitResult errorOnTimeout timeout parked with
          | error error => rfl
          | ok done => cases done <;> rfl

theorem GroupWatch.Kept.step {turn : GroupTurn} (kept : watch.Kept)
    (stepped : watch.step join world turn = some next) : next.Kept := by
  cases turn with
  | meanwhile engine =>
      simp only [GroupWatch.step] at stepped
      split at stepped
      · rename_i apart
        cases stepped
        exact kept.apart apart.1 apart.2 _
      · cases stepped
  | issue env msg =>
      cases issues : issuedGroup (route msg).2 with
      | none =>
          simp only [GroupWatch.step, issues] at stepped
          cases stepped
      | some group =>
          simp only [GroupWatch.step, issues] at stepped
          rcases handle_issues env msg group issues watch.engine with
            ⟨after, handled, issued⟩ | ⟨error, after, handled, apart⟩
          · rw [handled] at stepped
            cases stepped
            exact kept.issued issued _
          · rw [handled] at stepped
            cases stepped
            exact kept.apart apart.groups apart.minted _
  | wait env msg polls =>
      cases asked : (route msg).2 with
      | wait group errorOnTimeout timeout =>
          obtain ⟨done, _, waits, issued, _⟩ := step_waits asked stepped
          have others : ∀ other ≠ group, next.issued other = watch.issued other := by
            intro other different
            rw [issued]
            cases done with
            | error error => exact Function.update_of_ne different _ _
            | ok done =>
                cases done with
                | true => exact Function.update_of_ne different _ _
                | false => rfl
          have own : next.issued group = next.engine.held group ∧
              (next.issued group = watch.issued group ∨ next.issued group = []) := by
            rw [issued, waits.own]
            cases done with
            | error error => exact ⟨Function.update_self .., .inr (Function.update_self ..)⟩
            | ok done =>
                cases done with
                | true => exact ⟨Function.update_self .., .inr (Function.update_self ..)⟩
                | false => exact ⟨(kept.held group).symm, .inl rfl⟩
          have known : ∀ other,
              next.issued other = watch.issued other ∨ next.issued other = [] := by
            intro other
            by_cases same : other = group
            · subst same
              exact own.2
            · exact .inl (others other same)
          refine ⟨?_, ?_, ?_⟩
          · intro other
            by_cases same : other = group
            · subst same
              exact own.1.symm
            · rw [waits.others other same, others other same, kept.held]
          · intro other status member
            rcases known other with same | gone
            · rw [same] at member
              exact Nat.lt_of_lt_of_le (kept.fresh other status member) waits.minted
            · rw [gone] at member
              cases member
          · intro other
            rcases known other with same | gone
            · rw [same]
              exact kept.once other
            · rw [gone]
              exact List.nodup_nil
      | _ =>
          simp only [GroupWatch.step, asked] at stepped
          cases stepped

theorem GroupWatch.Kept.waits (documented : join.Documented) (kept : watch.Kept) {env : Env} {msg : Msg} {polls : List Poll}
    {group : GroupId} {errorOnTimeout : Bool} {timeout : Option String}
    (asked : (route msg).2 = .wait group errorOnTimeout timeout)
    (stepped : watch.step join world (.wait env msg polls) = some next) :
    WaitKept join world watch next group timeout.isSome polls := by
  obtain ⟨done, result, waits, _, ends⟩ := step_waits asked stepped
  have members := kept.held group
  refine ⟨?_, ?_, ?_⟩
  · intro finished status member
    obtain rfl : done = .ok true := by
      rw [result] at finished
      cases done with
      | error error => cases finished
      | ok done => cases finished; rfl
    rw [← members] at member
    rcases ends with ⟨empty, _⟩ | ⟨time, parked, ended, same⟩
    · rw [empty] at member
      cases member
    · refine ⟨time, parked, ended, ?_⟩
      obtain ⟨poll, rfl, found⟩ := ending_poll ended
      rcases outcome_tells found with ⟨rfl, _⟩ | ⟨rfl, joined⟩ | ⟨error, rfl, _⟩ | ⟨rfl, timed, _⟩
      · cases same
      · exact succeeded_iff.mpr (documented.succeeded joined status member)
      · cases same
      · obtain ⟨after, rfl⟩ := Option.isSome_iff_exists.mp timed
        cases errorOnTimeout <;> cases same
  · intro moved
    obtain rfl : done = .ok false := by
      rw [result] at moved
      cases done with
      | error error => cases moved
      | ok done => cases moved; rfl
    exact ⟨waits.own.trans members, kept.once group⟩
  · intro time parked ended unparked status member error failed
    rw [← members] at member ⊢
    rcases ends with ⟨empty, _⟩ | ⟨_, _, also, rfl⟩
    · rw [empty] at member
      cases member
    · rw [ended] at also
      cases also
      obtain ⟨poll, rfl, found⟩ := ending_poll ended
      obtain ⟨first, joined⟩ := documented.prompt status member (failed_iff.mp failed)
      rcases outcome_tells found with ⟨rfl, _⟩ | ⟨_, other⟩ | ⟨reported, rfl, other⟩ | ⟨_, _, other⟩
      · exact absurd rfl unparked
      · rw [joined] at other
        cases other
      · obtain ⟨status, among, failed⟩ := documented.failed other
        exact ⟨status, among, reported, failed_iff.mpr failed, result⟩
      · rw [joined] at other
        cases other

theorem GroupWatch.step_others {turn : GroupTurn} (stepped : watch.step join world turn = some next)
    (other : GroupId) (apart : turn.group ≠ some other) :
    next.engine.held other = watch.engine.held other := by
  cases turn with
  | meanwhile engine =>
      simp only [GroupWatch.step] at stepped
      split at stepped
      · rename_i same
        cases stepped
        rw [RunEngine.held, same.1]
        rfl
      · cases stepped
  | issue env msg =>
      cases issues : issuedGroup (route msg).2 with
      | none =>
          simp only [GroupWatch.step, issues] at stepped
          cases stepped
      | some group =>
          have different : other ≠ group := fun same => apart (by rw [same]; exact issues)
          simp only [GroupWatch.step, issues] at stepped
          rcases handle_issues env msg group issues watch.engine with
            ⟨after, handled, issued⟩ | ⟨error, after, handled, same⟩
          · rw [handled] at stepped
            cases stepped
            exact issued.others other different
          · rw [handled] at stepped
            cases stepped
            rw [RunEngine.held, same.groups]
            rfl
  | wait env msg polls =>
      cases asked : (route msg).2 with
      | wait group errorOnTimeout timeout =>
          obtain ⟨_, _, waits, _⟩ := step_waits asked stepped
          refine waits.others other fun same => apart ?_
          simp only [GroupTurn.group, asked, same]
      | _ =>
          simp only [GroupWatch.step, asked] at stepped
          cases stepped

end Steps

theorem GroupWatch.start_kept {engine : RunEngine} (none : ∀ group, engine.held group = []) :
    (GroupWatch.start engine).Kept :=
  ⟨none, fun _ _ member => absurd member List.not_mem_nil, fun _ => List.nodup_nil⟩

/-- Status groups over any sequence of turns: a turn leaves the other groups alone, a wait that
ends tells the truth of what was issued, and what moves on joins what was added meanwhile. -/
theorem groups_kept {join : Join} (documented : join.Documented) {world : World}
    {engine : RunEngine} {turns : List GroupTurn} {before after : GroupWatch} {turn : GroupTurn}
    (none : ∀ group, engine.held group = [])
    (reached : exec (GroupWatch.step join world) (.start engine) turns = some before)
    (stepped : before.step join world turn = some after) :
    (∀ other, turn.group ≠ some other →
        after.engine.held other = before.engine.held other) ∧
      (∀ env msg polls group errorOnTimeout timeout, turn = .wait env msg polls →
        (route msg).2 = .wait group errorOnTimeout timeout →
          WaitKept join world before after group timeout.isSome polls) ∧
      ∀ (later : RunEngine) (group : GroupId) (timeout : String) (members : List Status),
        ∃ last, settleWait group false (some timeout) members .elapsed later = (.ok false, last) ∧
          ∀ other, last.held other =
            if other = group then later.held group ++ members else later.held other := by
  have kept := exec_invariant GroupWatch.Kept (fun _ _ _ stepped held => held.step stepped) reached
    (GroupWatch.start_kept none)
  refine ⟨GroupWatch.step_others stepped, ?_, ?_⟩
  · rintro env msg polls group errorOnTimeout timeout rfl asked
    exact kept.waits documented asked stepped
  · intro later group timeout members
    exact ⟨_, rfl, fun other => held_insert later group other _⟩

private def pairOf (name : String) : Obj where
  ptr := 7
  name := name
  hintFields := none
  configurable := false
  collectable := false
  writesExternalAssets := false

/-- Two motors set in one group, and a wait on it that moves on. -/
private def movedOn : List GroupTurn :=
  [.issue .calm (.set (pairOf "x") "1" (some "g")),
    .issue .calm (.set (pairOf "y") "2" (some "g")),
    .wait .calm (.wait "g" false (some "1s")) [⟨4, false, true⟩]]

/-- The first motor arrives at 3, the second at 6. -/
private def arrivals : World := fun status =>
  if status = 0 then some (3, .ok ()) else if status = 1 then some (6, .ok ()) else none

private def twoPolls : List Poll :=
  [⟨5, false, false⟩, ⟨6, false, false⟩]

private def failure : Option (Except StatusError Unit) → Option StatusError
  | some (.error error) => some error
  | _ => none

private theorem failure_eq {outcome : Option (Except StatusError Unit)} {error : StatusError} :
    failure outcome = some error ↔ outcome = some (.error error) := by
  rcases outcome with _ | _ | _ <;> simp [failure]

/-- `try_join_all` of a few members, which it polls in their order. -/
private def joinFew : Join := fun settled members =>
  match members.findSome? fun status => failure (settled status) with
  | some error => some (.error error)
  | none =>
      if members.all fun status => decide (settled status = some (.ok ())) then some (.ok ())
      else none

private theorem joinFew_documented : joinFew.Documented where
  succeeded := by
    intro settled members joined
    unfold joinFew at joined
    split at joined
    · cases joined
    · split at joined
      · rename_i all
        simpa using all
      · cases joined
  failed := by
    intro settled members error joined
    unfold joinFew at joined
    split at joined
    · rename_i found first
      cases joined
      obtain ⟨status, member, fails⟩ := List.exists_of_findSome?_eq_some first
      exact ⟨status, member, failure_eq.mp fails⟩
    · split at joined <;> cases joined
  prompt := by
    intro settled members error status member fails
    unfold joinFew
    cases found : members.findSome? fun status => failure (settled status) with
    | some first => exact ⟨first, rfl⟩
    | none =>
        rw [List.findSome?_eq_none_iff] at found
        have absent := found status member
        rw [failure_eq.mpr fails] at absent
        cases absent

/-- The wait after it finds both members, and ends once the second has arrived, too. -/
theorem groups_kept_moved_on :
    ∃ before after, exec (GroupWatch.step joinFew arrivals) (.start .new) movedOn = some before ∧
      before.step joinFew arrivals (.wait .calm (.wait "g" false none) twoPolls) =
        some after ∧
      WaitKept joinFew arrivals before after "g" false twoPolls := by
  have runs : ((exec (GroupWatch.step joinFew arrivals) (.start .new) movedOn).bind fun before =>
      before.step joinFew arrivals
        (.wait .calm (.wait "g" false none) twoPolls)).isSome = true := by
    decide +kernel
  obtain ⟨after, both⟩ := Option.isSome_iff_exists.mp runs
  obtain ⟨before, reached, stepped⟩ := Option.bind_eq_some_iff.mp both
  exact ⟨before, after, reached, stepped,
    (groups_kept joinFew_documented (fun _ => rfl) reached stepped).2.1 _ _ _ "g" false none rfl
      rfl⟩

end Bsrs.Engine
