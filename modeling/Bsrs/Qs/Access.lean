import Bsrs.Qs.Brought
import Bsrs.Qs.LockGate

namespace Bsrs.Qs

open Bsrs.Core (Json)
open Bsrs.Library (exec)

namespace Permissions

/-- What the policy of a group says; an unknown group is nothing. -/
def grants (permissions : Permissions) (group : String) (about : GroupPolicy → Bool) : Bool :=
  ((permissions.groups.lookup group).map about).getD false

def isReadOnly (permissions : Permissions) (group : String) : Bool :=
  permissions.grants group GroupPolicy.readOnly

def allows (permissions : Permissions) (group name : String) : Bool :=
  permissions.grants group fun policy => policy.planAllowed name

end Permissions

/-- Nothing changed but the client lock, the rep thread and the count of uuids. -/
def Server.Untouched (before after : Server) : Prop :=
  { after with
    manager := { after.manager with lock := before.manager.lock }
    rep := before.rep
    minted := before.minted } = before

/-- The task without its outcome, if an admin-class method started it. -/
def TaskEntry.veiled (entry : TaskEntry) : TaskEntry :=
  if classify entry.sourceMethod = .admin then { entry with outcome := none } else entry

def TaskTracker.veiled (tracker : TaskTracker) : TaskTracker :=
  { tracker with entries := tracker.entries.map fun entry => (entry.1, entry.2.veiled) }

def Server.veiled (server : Server) : Server :=
  { server with tasks := server.tasks.veiled }

namespace Handler

/-- Touches nothing but the lock. -/
def isInert : Handler → Bool
  | .reply _ | .taskAccess _ _ _ | .taskStatus _ _ | .taskOutcome _ _ | .taskStdout _ _ _
  | .lockApply _ _ _ _ _ | .lockRelease _ => true
  | _ => false

/-- The items a handler is about to put into the queue, or to run. -/
def brings : Handler → List QueuedItem
  | .edit change _ => change.brings
  | .startEngine (.execute item) | .startState (.execute item) | .startClaim (.execute item)
  | .startSpawn (.execute item) _ => [item]
  | _ => []

/-- Reads no outcome of a task an admin-class method started. -/
def seesVeiled (server : Server) : Handler → Bool
  | .taskAccess group _ _ => !server.permissions.isAdmin group
  | .taskStatus uid _ | .taskOutcome uid _ | .taskStdout uid _ _ =>
      (server.tasks.sourceMethod uid).all fun source => classify source ≠ .admin
  | .evaluate _ _ _ => false
  | _ => true

def evaluates : Handler → Bool
  | .evaluate _ _ _ => true
  | _ => false

end Handler

namespace Rep

def isInert : Rep → Bool
  | .handle handler => handler.isInert
  | _ => true

def brings : Rep → List QueuedItem
  | .handle handler => handler.brings
  | _ => []

def seesVeiled (server : Server) : Rep → Bool
  | .handle handler => handler.seesVeiled server
  | _ => true

end Rep

/-- An admin-class request that does something: it stops the manager, loads another policy, or has
its source evaluated. -/
def Server.adminActs (config : Config) (outside : Outside) (server : Server) (request : Request) :
    Prop :=
  request.method = "manager_stop" ∧
      (server.stopRequested = false ∨ server.crew.slot.isActive = true) ∨
    request.method = "permissions_reload" ∧
      (∃ loaded, outside.file = .ok loaded ∧ loaded ≠ server.permissions) ∨
    request.method = "lua_eval" ∧ (luaEval config request.params).evaluates = true ∨
    request.method = "function_execute" ∧
      (functionExecute config request.params).evaluates = true

/-- The item an update puts in place of the one it names. -/
def updatedItem (config : Config) (minted : Nat) (params item : Json) (uid : String) :
    QueuedItem :=
  let replacement := QueuedItem.plan (config.uuid minted) ((item.text "name").getD "") item
  if (params.flag "replace").getD false then replacement
  else { replacement with itemUid := uid }

/-- The request puts an item that names no plan in place of a pending one, past a policy that does
not allow the empty name. -/
def Server.updatesUnnamed (config : Config) (server : Server) (request : Request) : Prop :=
  request.method = "queue_item_update" ∧
    server.permissions.check request.method request.params
      (server.permissions.resolveGroup request.params) = .ok () ∧
    lockCheck config server.manager.lock request.method request.params = true ∧
    server.permissions.allows (server.permissions.resolveGroup request.params) "" = false ∧
    ∃ item uid, request.params.get "item" = some item ∧ item.text "item_uid" = some uid ∧
      item.text "name" = none ∧ uid ∈ server.queue.uids ∧
      updatedItem config server.minted request.params item uid ∉ server.queue.items

/-- What a request may do on behalf of its group: nothing but turn the client lock if the group is
read-only; no admin-class operation and no look at the outcome of one if it is not admin; and no item
put into the queue or run but by a name the group is allowed. -/
structure Server.Controlled (config : Config) (outside : Outside) (server : Server)
    (request : Request) : Prop where
  readOnly : server.permissions.isReadOnly (server.permissions.resolveGroup request.params) = true →
    server.Untouched (server.handle config outside request)
  performs : server.permissions.isAdmin (server.permissions.resolveGroup request.params) = false →
    classify request.method = .admin → server.Untouched (server.handle config outside request)
  sees : server.permissions.isAdmin (server.permissions.resolveGroup request.params) = false →
    (server.veiled.handle config outside request).rep = (server.handle config outside request).rep
  pending : ∀ item ∈ (server.handle config outside request).queue.items,
    item ∈ server.queue.items ∨
      server.permissions.allows (server.permissions.resolveGroup request.params) item.name = true
  started : ∀ run ∈ (server.handle config outside request).executions, run ∈ server.executions ∨
    ∀ item, run.2 = .unpolled (some item) →
      server.permissions.allows (server.permissions.resolveGroup request.params) item.name = true

section

variable {config : Config} {outside : Outside} {server : Server} {handler : Handler}
  {params : Json} {group : String} {method : Method} {minted : Nat} {request : Request}

theorem Server.Untouched.refl (server : Server) : server.Untouched server := rfl

theorem Server.Untouched.trans {first second third : Server} (before : first.Untouched second)
    (after : second.Untouched third) : first.Untouched third := by
  unfold Server.Untouched at *
  rw [← before, ← after]

theorem Server.advance_inert (config : Config) (outside : Outside) (server : Server)
    (inert : handler.isInert = true) :
    (server.advance config outside handler).2.isInert = true ∧
      server.Untouched { (server.advance config outside handler).1 with
        rep := (server.advance config outside handler).2 } := by
  cases handler with
  | reply | taskOutcome | taskStdout => exact ⟨rfl, rfl⟩
  | taskAccess | taskStatus | lockApply | lockRelease =>
      simp only [Server.advance]
      repeat' split
      all_goals exact ⟨rfl, rfl⟩
  | _ => cases inert

theorem Server.settle_inert (stretches : Nat) (inert : server.rep.isInert = true) :
    server.Untouched (server.settle config outside stretches) := by
  have kept := Server.settle_holds config outside
    (fun next => next.rep.isInert = true ∧ server.Untouched next) ?_ stretches
    ⟨inert, .refl server⟩
  · exact kept.2
  · rintro before handler place ⟨calm, untouched⟩
    rw [place] at calm
    obtain ⟨rest, same⟩ := Server.advance_inert config outside before calm
    exact ⟨rest, untouched.trans same⟩

theorem lookup_map {β : Type} {change : β → β} (entries : List (String × β)) (key : String) :
    (entries.map fun entry => (entry.1, change entry.2)).lookup key =
      (entries.lookup key).map change := by
  induction entries with
  | nil => rfl
  | cons entry rest ih =>
      obtain ⟨name, value⟩ := entry
      simp only [List.map_cons, List.lookup_cons, ih]
      split <;> rfl

theorem TaskTracker.veiled_lookup (tracker : TaskTracker) (uid : String) :
    tracker.veiled.entries.lookup uid = (tracker.entries.lookup uid).map TaskEntry.veiled :=
  lookup_map tracker.entries uid

theorem TaskTracker.veiled_sourceMethod (tracker : TaskTracker) (uid : String) :
    tracker.veiled.sourceMethod uid = tracker.sourceMethod uid := by
  simp only [sourceMethod, veiled_lookup, Option.map_map]
  congr 1
  funext entry
  simp only [Function.comp_apply, TaskEntry.veiled]
  split <;> rfl

/-- The veil hides nothing of a task that no admin-class method started. -/
theorem TaskTracker.veiled_entry {tracker : TaskTracker} {uid : String}
    (plain : (tracker.sourceMethod uid).all fun source => classify source ≠ .admin) :
    tracker.veiled.entries.lookup uid = tracker.entries.lookup uid := by
  rw [veiled_lookup]
  cases found : tracker.entries.lookup uid with
  | none => rfl
  | some entry =>
      have mine : classify entry.sourceMethod ≠ .admin := by
        simpa [sourceMethod, found] using plain
      rw [Option.map_some, TaskEntry.veiled, if_neg mine]

theorem Purpose.seesVeiled_refused (purpose : Purpose) (msg : String) (server : Server) :
    (purpose.refused msg).seesVeiled server = true := by
  rcases purpose with _ | ⟨_ | _⟩ | _ <;> rfl

theorem Purpose.seesVeiled_started (purpose : Purpose) (server : Server) :
    purpose.started.seesVeiled server = true := by
  rcases purpose with _ | ⟨_ | _⟩ | _ <;> rfl

/-- A stretch that reads no admin outcome goes the same way behind the veil. -/
theorem Server.advance_veiled (config : Config) (outside : Outside)
    (sees : handler.seesVeiled server = true) :
    server.veiled.advance config outside handler =
        ((server.advance config outside handler).1.veiled,
          (server.advance config outside handler).2) ∧
      (server.advance config outside handler).2.seesVeiled
        (server.advance config outside handler).1 = true := by
  cases handler with
  | evaluate => cases sees
  | taskAccess group uid full =>
      refine ⟨?_, ?_⟩
      · simp only [Server.advance, Server.veiled, TaskTracker.veiled_sourceMethod]
        rfl
      · simp only [Server.advance]
        split
        · next absent => simp [Rep.seesVeiled, Handler.seesVeiled, absent]
        · next source found =>
            have common : server.permissions.isAdmin group = false := by
              simpa [Handler.seesVeiled] using sees
            by_cases admin : classify source = .admin
            · simp [admin, common, Rep.seesVeiled]
            · simp [admin, Rep.seesVeiled, Handler.seesVeiled, found]
  | taskStatus uid full =>
      have same := TaskTracker.veiled_entry sees
      refine ⟨by simp [Server.advance, Server.veiled, TaskTracker.status, same], ?_⟩
      simp only [Server.advance]
      split
      · exact sees
      · rfl
  | taskOutcome uid status =>
      have same := TaskTracker.veiled_entry sees
      exact ⟨by simp [Server.advance, Server.veiled, TaskTracker.result, same], sees⟩
  | taskStdout uid status outcome =>
      have same := TaskTracker.veiled_entry sees
      exact ⟨by simp [Server.advance, Server.veiled, TaskTracker.result, same], rfl⟩
  | autostart after =>
      refine ⟨rfl, ?_⟩
      simp only [Server.advance]
      split
      · cases after <;> rfl
      · rfl
  | startEngine purpose | startState purpose =>
      refine ⟨rfl, ?_⟩
      simp only [Server.advance]
      split
      · rfl
      · exact purpose.seesVeiled_refused ..
  | startClaim purpose =>
      simp only [Server.advance, Server.veiled]
      split
      · exact ⟨rfl, rfl⟩
      · exact ⟨rfl, purpose.seesVeiled_refused ..⟩
  | startRegister purpose => exact ⟨rfl, purpose.seesVeiled_started _⟩
  | stopAbort task | destroyAbort task => cases task <;> exact ⟨rfl, rfl⟩
  | edit | openSlot | openHook | closeEngine | closeActive | destroySlot | setAutostart =>
      refine ⟨rfl, ?_⟩
      simp only [Server.advance]
      repeat' split
      all_goals rfl
  | metadata fields =>
      cases held : server.engine <;> cases fields <;>
        simp [Server.advance, Server.veiled, Server.call, held, Rep.seesVeiled]
  | pauseCall defer =>
      cases held : server.engine <;> cases accepts : outside.accepts <;>
        simp [Server.advance, Server.veiled, Server.call, held, accepts, Rep.seesVeiled,
          Handler.seesVeiled]
  | control call =>
      cases held : server.engine <;>
        simp [Server.advance, Server.veiled, Server.call, held, Rep.seesVeiled]
  | lockApply environment queue user note key | lockRelease key =>
      cases fits : keyMatches config server.manager.lock key <;>
        simp [Server.advance, Server.veiled, fits, Rep.seesVeiled]
  | reload =>
      cases file : outside.file <;> simp [Server.advance, Server.veiled, file, Rep.seesVeiled]
  | _ => exact ⟨rfl, rfl⟩

/-- The answer to a request that reads no admin outcome is the same behind the veil. -/
theorem Server.settle_veiled (stretches : Nat) (sees : server.rep.seesVeiled server = true) :
    server.veiled.settle config outside stretches =
      (server.settle config outside stretches).veiled := by
  induction stretches generalizing server with
  | zero => rfl
  | succ stretches ih =>
      cases place : server.rep with
      | handle handler =>
          rw [place] at sees
          obtain ⟨same, rest⟩ := Server.advance_veiled config outside sees
          have alike : server.veiled.rep = .handle handler := place
          simp only [Server.settle, place, alike, same]
          exact @ih { (server.advance config outside handler).1 with
            rep := (server.advance config outside handler).2 } rest
      | _ =>
          have alike : server.veiled.rep = server.rep := rfl
          simp only [Server.settle, alike, place]

theorem Purpose.brings_refused (purpose : Purpose) (msg : String) :
    (purpose.refused msg).brings = [] := by
  rcases purpose with _ | ⟨_ | _⟩ | _ <;> rfl

theorem Purpose.brings_started (purpose : Purpose) : purpose.started.brings = [] := by
  rcases purpose with _ | ⟨_ | _⟩ | _ <;> rfl

/-- What is pending is so from before or allowed, and so is what an execution was started with; and
what the handler in hand brings is allowed. -/
structure Server.Fits (before : Server) (allowed : QueuedItem → Prop) (server : Server) : Prop where
  pending : server.queue.Holds fun item => item ∈ before.queue.items ∨ allowed item
  started : ∀ run ∈ server.executions, run ∈ before.executions ∨
    ∀ item, run.2 = .unpolled (some item) → allowed item
  brings : ∀ item ∈ server.rep.brings, allowed item

/-- A stretch that leaves the queue and the executions alone and brings nothing new. -/
theorem Server.Fits.frame {before next : Server} {allowed : QueuedItem → Prop}
    (fits : before.Fits allowed server) (queue : next.queue = server.queue)
    (executions : next.executions = server.executions)
    (brings : ∀ item ∈ next.rep.brings, item ∈ server.rep.brings) : before.Fits allowed next where
  pending := queue ▸ fits.pending
  started := executions ▸ fits.started
  brings item member := fits.brings item (brings item member)

theorem Server.Fits.advance {before : Server} {allowed : QueuedItem → Prop}
    (fits : before.Fits allowed server) (place : server.rep = .handle handler) :
    before.Fits allowed { (server.advance config outside handler).1 with
      rep := (server.advance config outside handler).2 } := by
  by_cases outer : handler.entersQueue = false
  · obtain ⟨queue, executions, rest⟩ := Server.advance_queue config outside server outer
    refine fits.frame queue executions ?_
    cases rep : (server.advance config outside handler).2 with
    | handle next =>
        rw [rep] at rest
        cases next <;> first | exact List.forall_mem_nil _ | cases rest
    | _ => exact List.forall_mem_nil _
  · have brought := fits.brings
    rw [place] at brought
    cases handler with
    | edit change autostarts =>
        refine ⟨QueueEdit.run_holds fits.pending fun item member => Or.inr (brought item member),
          fits.started, ?_⟩
        simp only [Server.advance]
        split <;> exact List.forall_mem_nil _
    | resolve | openCreating | openInstall | openIdle => exact fits.frame rfl rfl (List.forall_mem_nil _)
    | openSlot | openHook | setAutostart =>
        refine fits.frame rfl rfl ?_
        simp only [Server.advance]
        split <;> exact List.forall_mem_nil _
    | autostart after =>
        refine fits.frame rfl rfl ?_
        simp only [Server.advance]
        split
        · cases after <;> exact List.forall_mem_nil _
        · exact List.forall_mem_nil _
    | startEngine purpose | startState purpose =>
        refine fits.frame rfl rfl ?_
        simp only [Server.advance, place]
        split
        · cases purpose <;> exact fun item member => member
        · rw [purpose.brings_refused]
          exact List.forall_mem_nil _
    | startClaim purpose =>
        simp only [Server.advance]
        split
        · next crew generation claimed =>
            simp only [Crew.claim, Option.map_eq_some_iff, Prod.exists, Prod.mk.injEq] at claimed
            obtain ⟨slot, stamped, _, rfl, rfl⟩ := claimed
            refine fits.frame rfl rfl ?_
            rw [place]
            cases purpose <;> exact fun item member => member
        · refine fits.frame rfl rfl ?_
          rw [purpose.brings_refused]
          exact List.forall_mem_nil _
    | startSpawn purpose generation =>
        refine ⟨fits.pending, ?_, List.forall_mem_nil _⟩
        intro run member
        simp only [Server.advance, Server.executions, Crew.spawn, List.map_append,
          List.mem_append] at member
        rcases member with before | fresh
        · exact fits.started run before
        · cases List.mem_singleton.mp fresh
          refine Or.inr fun item begins => ?_
          cases purpose with
          | execute single =>
              cases begins
              exact brought _ (List.mem_singleton_self _)
          | start | autostart => cases begins
    | startRegister purpose task generation =>
        refine fits.frame rfl (Crew.map_modify_same _ task fun _ => rfl) ?_
        simp only [Server.advance, purpose.brings_started]
        exact List.forall_mem_nil _
    | _ => exact absurd rfl outer

theorem Server.settle_fits {before : Server} {allowed : QueuedItem → Prop} (config : Config)
    (outside : Outside) (stretches : Nat) (fits : before.Fits allowed server) :
    before.Fits allowed (server.settle config outside stretches) :=
  Server.settle_holds config outside (before.Fits allowed)
    (fun _ _ place earlier => earlier.advance place) stretches fits

theorem Method.parse_name (method : Method) : Method.parse method.name = some method := by
  cases method <;> decide

namespace Permissions

variable {permissions : Permissions}

/-- A request that passes is one of a configured group. -/
theorem configured (enforced : permissions.enforced = true) {method : String}
    (passed : permissions.check method params group = .ok ()) :
    ∃ policy, permissions.groups.lookup group = some policy := by
  cases found : permissions.groups.lookup group with
  | none => simp [check, enforced, found] at passed
  | some policy => exact ⟨policy, rfl⟩

/-- A read-only group passes with neither an add nor a mutation. -/
theorem check_readOnly (enforced : permissions.enforced = true)
    (readOnly : permissions.isReadOnly group = true) {method : String}
    (passed : permissions.check method params group = .ok ()) :
    classify method ≠ .queueAdd ∧ classify method ≠ .queueMutate := by
  obtain ⟨policy, found⟩ := configured enforced passed
  have bars : policy.readOnly = true := by simpa [isReadOnly, grants, found] using readOnly
  refine ⟨fun adds => ?_, fun mutates => ?_⟩
  · simp [check, enforced, found, adds, bars] at passed
  · simp [check, enforced, found, mutates, bars] at passed

/-- Only an admin group passes with an admin-class method. -/
theorem check_admin (enforced : permissions.enforced = true)
    {method : String} (admin : classify method = .admin) :
    permissions.check method params group = .ok () ↔ permissions.isAdmin group = true := by
  cases found : permissions.groups.lookup group with
  | none => simp [check, isAdmin, enforced, found]
  | some policy =>
      cases boss : policy.admin <;> simp [check, isAdmin, enforced, found, admin, boss]

/-- Every plan an add names is allowed to the group. -/
theorem check_names (enforced : permissions.enforced = true) {method : String}
    (adds : classify method = .queueAdd)
    (passed : permissions.check method params group = .ok ()) :
    ∀ name ∈ planNamesFromParams params, permissions.allows group name = true := by
  obtain ⟨policy, found⟩ := configured enforced passed
  intro name named
  simp only [check, enforced, found, adds, if_true] at passed
  split at passed
  · cases passed
  · split at passed
    · cases passed
    · next none =>
        have allowed := List.find?_eq_none.mp none name named
        simpa [allows, grants, found] using allowed

end Permissions

/-- A method that only informs, or that the lock subsystem looks after, is inert. -/
theorem Armed.inert (armed : Armed config minted params group method handler)
    (adds : classify method.name ≠ .queueAdd) (mutates : classify method.name ≠ .queueMutate)
    (admin : classify method.name ≠ .admin) : handler.isInert = true := by
  cases armed with
  | reply | locks | unlocks | asksStatus | asksResult => rfl
  | adds | addsBatch | updates | executes => exact absurd (by decide) adds
  | evaluates | calls | reloads | shuts => exact absurd (by decide) admin
  | _ => exact absurd (by decide) mutates

/-- A method of another class than admin reads no admin outcome, on behalf of a common group. -/
theorem Armed.seesVeiled (armed : Armed config minted params group method handler)
    (admin : classify method.name ≠ .admin) (common : server.permissions.isAdmin group = false) :
    handler.seesVeiled server = true := by
  cases armed with
  | asksStatus | asksResult => simp [Handler.seesVeiled, common]
  | evaluates | calls => exact absurd (by decide) admin
  | _ => rfl

theorem dispatch_readOnly (enforced : server.permissions.enforced = true)
    (readOnly : server.permissions.isReadOnly
      (server.permissions.resolveGroup request.params) = true)
    (other : classify request.method ≠ .admin) :
    (dispatch config server request).isInert = true := by
  rcases dispatch_cases config server request with
    ⟨reason, refused⟩ | ⟨method, parsed, passed, _, taken⟩
  · rw [refused]
    rfl
  · rw [taken]
    obtain ⟨adds, mutates⟩ := Permissions.check_readOnly enforced readOnly passed
    rw [← Method.name_of_parse parsed] at adds mutates other
    exact (armed method).inert adds mutates other

theorem dispatch_refused (enforced : server.permissions.enforced = true)
    (common : server.permissions.isAdmin
      (server.permissions.resolveGroup request.params) = false)
    (admin : classify request.method = .admin) :
    ∃ reason, dispatch config server request = .reply (.err reason) := by
  rcases dispatch_cases config server request with refused | ⟨method, _, passed, _, _⟩
  · exact refused
  · rw [(Permissions.check_admin enforced admin).mp passed] at common
    cases common

theorem dispatch_seesVeiled (enforced : server.permissions.enforced = true)
    (common : server.permissions.isAdmin
      (server.permissions.resolveGroup request.params) = false) :
    (dispatch config server request).seesVeiled (server.receive config request) = true := by
  rcases dispatch_cases config server request with
    ⟨reason, refused⟩ | ⟨method, parsed, passed, _, taken⟩
  · rw [refused]
    rfl
  · rw [taken]
    refine (armed method).seesVeiled ?_ common
    intro admin
    rw [Method.name_of_parse parsed] at admin
    rw [(Permissions.check_admin enforced admin).mp passed] at common
    cases common

/-- The lock gates no admin-class method. -/
theorem lockCheck_admin {lock : LockInfo} (admin : classify method.name = .admin) :
    lockCheck config lock method.name params = true := by
  have outer : method.name ∉ environmentMethods ∧ startsWith method.name "queue_" = false ∧
      startsWith method.name "history_" = false ∧ startsWith method.name "re_" = false ∧
      method.name ≠ "unlock" := by
    revert admin
    cases method <;> decide
  obtain ⟨environment, queue, history, engine, unlock⟩ := outer
  simp [lockCheck, environment, queue, history, engine, unlock]

/-- An admin group's admin-class request reaches its arm. -/
theorem dispatch_admin (enforced : server.permissions.enforced = true)
    (boss : server.permissions.isAdmin (server.permissions.resolveGroup request.params) = true)
    (named : request.method = method.name) (admin : classify method.name = .admin) :
    dispatch config server request =
      arm config server.minted request.params
        (server.permissions.resolveGroup request.params) method := by
  have passed : server.permissions.check method.name request.params
      (server.permissions.resolveGroup request.params) = .ok () :=
    (Permissions.check_admin enforced admin).mpr boss
  simp only [dispatch, named, passed, lockCheck_admin admin, Method.parse_name, if_true]

/-- A stop of the manager changes something unless it was asked for before and no claim is live. -/
theorem Server.stopped (config : Config) (outside : Outside) (server : Server)
    (place : server.rep = .handle .stopTake) :
    server.Untouched (server.settle config outside 12) ↔
      ¬ (server.stopRequested = false ∨ server.crew.slot.isActive = true) := by
  have done : server.settle config outside 12 =
      { server with
        crew := (server.crew.slot.take.2.map server.crew.take.abort).getD server.crew.take
        stopRequested := true
        rep := .answer (.ok []) } := by
    simp only [Server.settle, Server.advance, place]
  rw [done]
  constructor
  · intro same
    rintro (asked | busy)
    · have stays := congrArg Server.stopRequested same
      exact absurd (stays.trans asked) (by rintro ⟨⟩)
    · have crew := congrArg (fun next => next.crew.slot.entry) same
      have empty : server.crew.slot.entry = none := by
        rw [← crew]
        cases server.crew.slot.take.2 <;> rfl
      rw [QueueTaskSlot.isActive, empty] at busy
      cases busy
  · intro idle
    obtain ⟨asked, free⟩ := not_or.mp idle
    have stops : server.stopRequested = true := by simpa using asked
    have empty : server.crew.slot.entry = none := by
      simpa [QueueTaskSlot.isActive] using free
    obtain ⟨queue, manager, engine, ⟨⟨nextGen, entry, finished⟩, held, workers, spawned, taken⟩, rep⟩ :=
      server
    cases stops
    cases empty
    rfl

/-- A reload changes something if it reads another policy. -/
theorem Server.reloaded (config : Config) (outside : Outside) (server : Server)
    (place : server.rep = .handle .reload) :
    server.Untouched (server.settle config outside 12) ↔
      ¬ ∃ loaded, outside.file = .ok loaded ∧ loaded ≠ server.permissions := by
  cases file : outside.file with
  | error reason =>
      have done : server.settle config outside 12 =
          { server with rep := .answer (.err s!"permissions_reload: {reason}") } := by
        simp [Server.settle, Server.advance, place, file]
      rw [done]
      simp only [reduceCtorEq, false_and, exists_false, not_false_eq_true, iff_true]
      rfl
  | ok loaded =>
      have done : server.settle config outside 12 =
          { server with
            permissions := loaded
            rep := .answer ⟨true, "permissions reloaded", []⟩ } := by
        simp [Server.settle, Server.advance, place, file]
      rw [done]
      constructor
      · rintro same ⟨other, read, differs⟩
        cases read
        exact differs (congrArg Server.permissions same)
      · intro alike
        have same : loaded = server.permissions := by
          by_contra differs
          exact alike ⟨loaded, rfl, differs⟩
        rw [same]
        rfl

theorem Server.evaluated (config : Config) (outside : Outside) (server : Server)
    (place : server.rep = .handle handler) (evaluates : handler.evaluates = true) :
    ¬ server.Untouched (server.settle config outside 12) := by
  cases handler with
  | evaluate method source item =>
      intro same
      have count := congrArg (fun next => next.manager.workerBackgroundTasks) same
      simp [Server.settle, Server.advance, place] at count
  | _ => cases evaluates

/-- Taking a request up touches nothing. -/
theorem Server.untouched_receive (config : Config) (server : Server) (request : Request)
    {next : Server} : server.Untouched next ↔ (server.receive config request).Untouched next := by
  have forth : (server.receive config request).Untouched server := rfl
  have back : server.Untouched (server.receive config request) := rfl
  exact ⟨forth.trans, back.trans⟩

theorem Server.handle_inert (inert : (dispatch config server request).isInert = true) :
    server.Untouched (server.handle config outside request) := by
  rw [Server.untouched_receive config server request]
  exact Server.settle_inert 12 inert

/-- An arm that evaluates a source, or refuses to, touches the server exactly if it evaluates. -/
theorem Server.handle_evaluates (either : (dispatch config server request).isInert = true ∨
      (dispatch config server request).evaluates = true) :
    server.Untouched (server.handle config outside request) ↔
      ¬ (dispatch config server request).evaluates = true := by
  rcases either with inert | evaluates
  · refine iff_of_true (Server.handle_inert inert) ?_
    cases taken : dispatch config server request <;> simp_all [Handler.isInert, Handler.evaluates]
  · refine iff_of_false ?_ (not_not_intro evaluates)
    rw [Server.untouched_receive config server request]
    exact Server.evaluated config outside (server.receive config request) rfl evaluates

/-- On behalf of an admin group, an admin-class request touches the server exactly if it acts. -/
theorem Server.handle_admin (enforced : server.permissions.enforced = true)
    (boss : server.permissions.isAdmin (server.permissions.resolveGroup request.params) = true)
    (admin : classify request.method = .admin) :
    server.Untouched (server.handle config outside request) ↔
      ¬ server.adminActs config outside request := by
  cases parsed : Method.parse request.method with
  | none =>
      have rejected : (dispatch config server request).isInert = true := by
        rcases dispatch_cases config server request with ⟨_, refused⟩ | ⟨method, found, _⟩
        · rw [refused]
          rfl
        · rw [parsed] at found
          cases found
      refine iff_of_true (Server.handle_inert rejected) ?_
      have other : ∀ method : Method, request.method ≠ method.name := by
        intro method named
        rw [named, Method.parse_name] at parsed
        cases parsed
      rintro (⟨named, _⟩ | ⟨named, _⟩ | ⟨named, _⟩ | ⟨named, _⟩)
      · exact other .managerStop named
      · exact other .permissionsReload named
      · exact other .luaEval named
      · exact other .functionExecute named
  | some method =>
      have named := Method.name_of_parse parsed
      rw [← named] at admin
      have taken : dispatch config server request = arm config server.minted request.params
          (server.permissions.resolveGroup request.params) method :=
        dispatch_admin enforced boss named.symm admin
      cases method with
      | managerStop =>
          have acts : server.adminActs config outside request ↔
              server.stopRequested = false ∨ server.crew.slot.isActive = true := by
            simp [Server.adminActs, ← named, Method.name]
          rw [acts, Server.untouched_receive config server request]
          exact Server.stopped config outside _ (congrArg Rep.handle taken)
      | permissionsReload =>
          have acts : server.adminActs config outside request ↔
              ∃ loaded, outside.file = .ok loaded ∧ loaded ≠ server.permissions := by
            simp [Server.adminActs, ← named, Method.name]
          rw [acts, Server.untouched_receive config server request]
          exact Server.reloaded config outside _ (congrArg Rep.handle taken)
      | luaEval =>
          have acts : server.adminActs config outside request ↔
              (dispatch config server request).evaluates = true := by
            rw [taken]
            simp [Server.adminActs, ← named, Method.name, arm]
          rw [acts]
          apply Server.handle_evaluates
          rw [taken]
          simp only [arm, luaEval]
          repeat' split
          all_goals first | exact Or.inl rfl | exact Or.inr rfl
      | functionExecute =>
          have acts : server.adminActs config outside request ↔
              (dispatch config server request).evaluates = true := by
            rw [taken]
            simp [Server.adminActs, ← named, Method.name, arm]
          rw [acts]
          apply Server.handle_evaluates
          rw [taken]
          simp only [arm, functionExecute]
          repeat' split
          all_goals first | exact Or.inl rfl | exact Or.inr rfl
      | permissionsSet | scriptUpload | kernelInterrupt | managerKill =>
          refine iff_of_true (Server.handle_inert (by rw [taken]; rfl)) ?_
          simp [Server.adminActs, ← named, Method.name]
      | _ => exact absurd admin (by decide)

theorem named_item {item : Json} {name : String} (given : params.get "item" = some item)
    (named : item.text "name" = some name) : name ∈ planNamesFromParams params := by
  simp [planNamesFromParams, given, named]

theorem named_items {items : List Json} {item : Json} {name : String}
    (given : (params.get "items").bind Json.asArray = some items) (among : item ∈ items)
    (named : item.text "name" = some name) : name ∈ planNamesFromParams params := by
  apply List.mem_append_right
  rw [given]
  exact List.mem_filterMap.mpr ⟨item, among, named⟩

/-- What a request brings, its group is allowed, but for an update that names no plan. -/
theorem dispatch_brings (enforced : server.permissions.enforced = true) :
    (∀ item ∈ (dispatch config server request).brings,
      server.permissions.allows (server.permissions.resolveGroup request.params) item.name = true) ∨
    request.method = "queue_item_update" ∧
      server.permissions.check request.method request.params
        (server.permissions.resolveGroup request.params) = .ok () ∧
      lockCheck config server.manager.lock request.method request.params = true ∧
      ∃ item uid, request.params.get "item" = some item ∧ item.text "item_uid" = some uid ∧
        item.text "name" = none ∧
        dispatch config server request =
          .edit (.update uid (.plan (config.uuid server.minted) "" item)
            ((request.params.flag "replace").getD false)) false := by
  rcases dispatch_cases config server request with
    ⟨reason, refused⟩ | ⟨method, parsed, passed, unlocked, taken⟩
  · rw [refused]
    exact Or.inl (List.forall_mem_nil _)
  · have named := Method.name_of_parse parsed
    have allowed : classify method.name = .queueAdd → ∀ name ∈ planNamesFromParams request.params,
        server.permissions.allows (server.permissions.resolveGroup request.params) name = true := by
      rw [named]
      exact fun adds => Permissions.check_names enforced adds passed
    rw [taken]
    have shape : Armed config server.minted request.params
        (server.permissions.resolveGroup request.params) method
        (arm config server.minted request.params
          (server.permissions.resolveGroup request.params) method) := armed method
    generalize arm config server.minted request.params
      (server.permissions.resolveGroup request.params) method = handler at shape
    cases shape with
    | adds given held =>
        refine Or.inl (List.forall_mem_singleton.mpr ?_)
        exact allowed (by decide) _ (named_item given held)
    | executes given held =>
        refine Or.inl (List.forall_mem_singleton.mpr ?_)
        exact allowed (by decide) _ (named_item given held)
    | addsBatch given held =>
        refine Or.inl fun queued member => ?_
        obtain ⟨item, among, same⟩ := held queued member
        exact allowed (by decide) _ (named_items given among same)
    | @updates item uid given aimed =>
        cases held : item.text "name" with
        | some name =>
            refine Or.inl (List.forall_mem_singleton.mpr ?_)
            have fits := allowed (by decide) _ (named_item given held)
            split <;> exact fits
        | none => exact Or.inr ⟨named.symm, passed, unlocked, item, uid, given, aimed, held, rfl⟩
    | _ => exact Or.inl (List.forall_mem_nil _)

/-- An update of a pending item leaves the replacement pending. -/
theorem run_update_pending {queue : PlanQueue} {uid : String} (pending : uid ∈ queue.uids)
    (item : QueuedItem) (replace : Bool) :
    (if replace then item else { item with itemUid := uid }) ∈
      ((QueueEdit.update uid item replace).run queue).1.items := by
  obtain ⟨position, found⟩ := PlanQueue.indexOfUid_of_mem pending
  have inside := PlanQueue.indexOfUid_lt found
  cases replace with
  | true =>
      simp only [QueueEdit.run, PlanQueue.replaceAtUid, found, if_true, Option.map_some]
      exact List.mem_set inside _
  | false =>
      simp only [QueueEdit.run, PlanQueue.update, found, Bool.false_eq_true, if_false,
        Option.map_some]
      exact List.mem_set inside _

theorem Server.handle_edit (outside : Outside) {change : QueueEdit}
    (taken : dispatch config server request = .edit change false) :
    (server.handle config outside request).queue = (change.run server.queue).1 ∧
      (server.handle config outside request).executions = server.executions := by
  simp [Server.handle, Server.receive, Server.settle, Server.advance, Server.executions, taken]

/-- What is pending or started after a request, its group is allowed, unless an update names no
plan. -/
theorem Server.handle_fits (outside : Outside) (enforced : server.permissions.enforced = true)
    (named : ¬ server.updatesUnnamed config request) :
    (∀ item ∈ (server.handle config outside request).queue.items, item ∈ server.queue.items ∨
      server.permissions.allows (server.permissions.resolveGroup request.params) item.name = true) ∧
    ∀ run ∈ (server.handle config outside request).executions, run ∈ server.executions ∨
      ∀ item, run.2 = .unpolled (some item) →
        server.permissions.allows (server.permissions.resolveGroup request.params) item.name =
          true := by
  rcases dispatch_brings enforced with
    allowed | ⟨method, passed, unlocked, item, uid, given, aimed, unnamed, taken⟩
  · have start : server.Fits (fun item => server.permissions.allows
        (server.permissions.resolveGroup request.params) item.name = true)
        (server.receive config request) :=
      ⟨fun item member => Or.inl member, fun run member => Or.inl member, allowed⟩
    have final := Server.settle_fits config outside 12 start
    exact ⟨final.pending, final.started⟩
  · obtain ⟨queue, executions⟩ := Server.handle_edit outside taken
    rw [queue, executions]
    refine ⟨?_, fun run member => Or.inl member⟩
    by_cases pending : uid ∈ server.queue.uids
    · have fits : server.permissions.allows
            (server.permissions.resolveGroup request.params) "" = true ∨
          updatedItem config server.minted request.params item uid ∈ server.queue.items := by
        by_contra neither
        obtain ⟨denied, fresh⟩ := not_or.mp neither
        exact named ⟨method, passed, unlocked, Bool.eq_false_iff.mpr denied, item, uid, given, aimed,
          unnamed, pending, fresh⟩
      refine QueueEdit.run_holds (fun item member => Or.inl member) ?_
      refine List.forall_mem_singleton.mpr ?_
      rcases fits with allowed | known
      · refine Or.inr ?_
        split <;> exact allowed
      · refine Or.inl ?_
        simpa only [updatedItem, unnamed, Option.getD_none] using known
    · rw [run_update_missing pending]
      exact fun item member => Or.inl member

/-- With enforcement on, a request is kept to what its group may do, unless a group that is both
read-only and admin has an admin-class method act, or an update that names no plan passes a policy
that does not allow the empty name. -/
theorem access_controlled {config : Config} {outside : Outside} {server : Server}
    {request : Request} (enforced : server.permissions.enforced = true) :
    server.Controlled config outside request ↔
      ¬ (server.permissions.isReadOnly (server.permissions.resolveGroup request.params) = true ∧
        server.permissions.isAdmin (server.permissions.resolveGroup request.params) = true ∧
        server.adminActs config outside request) ∧
      ¬ server.updatesUnnamed config request := by
  constructor
  · intro controlled
    refine ⟨?_, ?_⟩
    · rintro ⟨readOnly, boss, acts⟩
      have admin : classify request.method = .admin := by
        rcases acts with ⟨named, _⟩ | ⟨named, _⟩ | ⟨named, _⟩ | ⟨named, _⟩ <;> rw [named] <;> decide
      exact (Server.handle_admin enforced boss admin).mp (controlled.readOnly readOnly) acts
    · rintro ⟨method, passed, unlocked, denied, item, uid, given, aimed, unnamed, pending, fresh⟩
      have taken : dispatch config server request =
          .edit (.update uid (.plan (config.uuid server.minted) "" item)
            ((request.params.flag "replace").getD false)) false := by
        have parsed : Method.parse request.method = some .queueItemUpdate := by
          rw [method]
          decide
        simp only [dispatch, passed, unlocked, if_true, parsed, arm, queueItemUpdate, given, aimed,
          unnamed, Option.getD_none]
      have placed := run_update_pending pending (.plan (config.uuid server.minted) "" item)
        ((request.params.flag "replace").getD false)
      rw [← (Server.handle_edit outside taken).1] at placed
      rcases controlled.pending _ placed with known | allowed
      · apply fresh
        simpa only [updatedItem, unnamed, Option.getD_none] using known
      · have empty : server.permissions.allows
            (server.permissions.resolveGroup request.params) "" = true := by
          revert allowed
          split <;> exact id
        rw [denied] at empty
        cases empty
  · rintro ⟨calm, named⟩
    obtain ⟨pending, started⟩ := Server.handle_fits outside enforced named
    refine ⟨fun readOnly => ?_, fun common admin => ?_, fun common => ?_, pending, started⟩
    · by_cases admin : classify request.method = .admin
      · cases boss : server.permissions.isAdmin (server.permissions.resolveGroup request.params) with
        | true =>
            exact (Server.handle_admin enforced boss admin).mpr fun acts =>
              calm ⟨readOnly, boss, acts⟩
        | false =>
            obtain ⟨reason, refused⟩ := dispatch_refused enforced boss admin
            exact Server.handle_inert (by rw [refused]; rfl)
      · exact Server.handle_inert (dispatch_readOnly enforced readOnly admin)
    · obtain ⟨reason, refused⟩ := dispatch_refused enforced common admin
      exact Server.handle_inert (by rw [refused]; rfl)
    · have sees : (dispatch config server request).seesVeiled (server.receive config request) =
          true := dispatch_seesVeiled enforced common
      have same : (server.receive config request).veiled.settle config outside 12 =
          ((server.receive config request).settle config outside 12).veiled :=
        Server.settle_veiled 12 sees
      have answer : (server.veiled.handle config outside request).rep =
          ((server.handle config outside request).veiled).rep := congrArg Server.rep same
      exact answer

end

/-- A policy of one group, which may run `count` alone. -/
def countOnly : Permissions where
  enforced := true
  defaultGroup := "primary"
  groups := [("primary", ⟨false, false, [fun name => name == "count"]⟩)]
  apiKeys := []

/-- The group adds the plan it may run. -/
theorem access_controlled_add :
    ∃ reached ∈ exec (Server.step .plain) (.initial countOnly false)
        (asks "queue_item_add" countItem 3),
      reached.Controlled .plain .willing ⟨"queue_item_add", countItem⟩ := by
  have adds : ∃ reached ∈ exec (Server.step .plain) (.initial countOnly false)
        (asks "queue_item_add" countItem 3),
      reached.permissions.enforced = true ∧ reached.permissions.isReadOnly
        (reached.permissions.resolveGroup countItem) = false := by
    decide +kernel
  obtain ⟨reached, ran, enforced, writes⟩ := adds
  have condition : ¬ (reached.permissions.isReadOnly
        (reached.permissions.resolveGroup countItem) = true ∧
      reached.permissions.isAdmin (reached.permissions.resolveGroup countItem) = true ∧
      reached.adminActs .plain .willing ⟨"queue_item_add", countItem⟩) ∧
      ¬ reached.updatesUnnamed .plain ⟨"queue_item_add", countItem⟩ := by
    refine ⟨fun breach => ?_, fun breach => absurd breach.1 (by decide)⟩
    rw [writes] at breach
    cases breach.1
  exact ⟨reached, ran, (access_controlled enforced).mpr condition⟩

/-- An update of a pending item that names no plan. -/
def unnamedItem : Json :=
  .object [("item", .object [("item_uid", .string "u")])]

/-- The group puts an item without a name in place of the one it added. -/
theorem access_slips :
    ∃ reached ∈ exec (Server.step .plain) (.initial countOnly false)
        (asks "ping" .null 2 ++ asks "queue_item_add" countItem 3),
      reached.permissions.enforced = true ∧
        ¬ reached.Controlled .plain .willing ⟨"queue_item_update", unnamedItem⟩ := by
  have slips : ∃ reached ∈ exec (Server.step .plain) (.initial countOnly false)
        (asks "ping" .null 2 ++ asks "queue_item_add" countItem 3),
      reached.permissions.enforced = true ∧
        (reached.queue.items.all fun item => item.name == "count") = true ∧
        ((reached.handle .plain .willing ⟨"queue_item_update", unnamedItem⟩).queue.items.any
          fun item => item.name == "") = true ∧
        reached.permissions.allows (reached.permissions.resolveGroup unnamedItem) "" = false := by
    decide +kernel
  obtain ⟨reached, ran, enforced, named, unnamed, denied⟩ := slips
  refine ⟨reached, ran, enforced, fun controlled => ?_⟩
  obtain ⟨item, member, empty⟩ := List.any_eq_true.mp unnamed
  have nameless : item.name = "" := by simpa using empty
  rcases controlled.pending item member with before | allowed
  · have count := List.all_eq_true.mp named item before
    rw [nameless] at count
    exact absurd count (by decide)
  · rw [nameless, denied] at allowed
    cases allowed

end Bsrs.Qs
