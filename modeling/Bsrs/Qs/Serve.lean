import Bsrs.Qs.Dispatch
import Bsrs.Library.Run

namespace Bsrs.Qs

open Bsrs.Core (Json)
open Bsrs.Library (exec)

/-- What the world outside answers at a step of the rep thread: whether the environment hook
accepts, or the engine reports itself idle; what a failed hook says; what a reload reads. -/
structure Outside where
  accepts : Bool
  reason : String
  file : Except String Permissions

/-- Where the rep thread goes after an autostart. -/
def After.rep : After → Rep
  | .reply answered => .answer answered
  | .receive => .receive

/-- Where a start that is refused, or done, leaves the rep thread. -/
def Purpose.refused (purpose : Purpose) (msg : String) : Rep :=
  match purpose with
  | .start | .execute _ => .answer (.err msg)
  | .autostart after => after.rep

def Purpose.started : Purpose → Rep
  | .start => .answer (.ok [])
  | .execute item => .handle (.executeReply item)
  | .autostart after => after.rep

def Purpose.verb : Purpose → String
  | .start | .autostart _ => "start"
  | .execute _ => "execute item"

/-- What a worker spawned for the purpose begins with. -/
def Purpose.code : Purpose → WorkerCode
  | .start | .autostart _ => .unpolled none
  | .execute item => .unpolled (some item)

/-- `LockInfo` under the key: a lock in place yields to its own key alone. -/
def keyMatches (config : Config) (lock : LockInfo) (key : String) : Bool :=
  !lock.isLocked || lock.keyHash = some (config.hashKey key)

def busyMsg : String :=
  "cannot close the environment while a plan or the queue is running " ++
    "(use environment_destroy to force)"

/-- The body of a `task_result` reply. -/
def resultFields (uid status : String) (outcome : Option EvalResult) (stdout : String) :
    List (String × Json) :=
  [("status", .string status),
    ("result", .object [
      ("return_value",
        ((outcome.bind EvalResult.returnValue).map Json.string).getD .null),
      ("traceback", .string ((outcome.bind EvalResult.error).getD "")),
      ("stdout", .string stdout), ("msg", .string ""),
      ("success", .bool ((outcome.map EvalResult.isSuccess).getD true)),
      ("task_uid", .string uid)])]

/-- One stretch of a request handler. -/
def Server.advance (config : Config) (outside : Outside) (server : Server) :
    Handler → Server × Rep
  | .reply reply => (server, .answer reply)
  | .edit edit autostarts =>
      let (queue, reply) := edit.run server.queue
      ({ server with queue },
        if autostarts && reply.success then .handle (.autostart (.reply reply)) else .answer reply)
  | .resolve uid pos =>
      (server, .handle (.edit (.moveTo uid (resolvePos pos server.queue)) false))
  -- `maybe_autostart`
  | .autostart after =>
      (server,
        if !server.manager.queueAutostartEnabled || server.queue.items.isEmpty then after.rep
        else .handle (.startEngine (.autostart after)))
  -- `queue_start` and `queue_item_execute`
  | .startEngine purpose =>
      (server, if server.engine then .handle (.startState purpose)
        else purpose.refused "environment not open")
  | .startState purpose =>
      (server, if server.manager.state = .idle then .handle (.startClaim purpose)
        else purpose.refused
          s!"cannot {purpose.verb} in state Some({server.manager.state.debug})")
  | .startClaim purpose =>
      match server.crew.claim with
      | some (crew, generation) => ({ server with crew }, .handle (.startSpawn purpose generation))
      | none => (server, purpose.refused s!"cannot {purpose.verb}: a queue worker is already running")
  | .startSpawn purpose generation =>
      ({ server with crew := server.crew.spawn generation purpose.code },
        .handle (.startRegister purpose server.crew.workers.length generation))
  | .startRegister purpose task generation =>
      ({ server with crew := server.crew.register task generation }, purpose.started)
  | .executeReply item =>
      (server, .answer (.ok [("qsize", size server.queue.items.length), ("item", item.toJson)]))
  -- `env_open`
  | .openSlot =>
      (server, if server.engine then .answer (.err "environment already open")
        else .handle .openCreating)
  | .openCreating => (server.setState .creatingEnvironment, .handle .openHook)
  | .openHook => (server, .handle (if outside.accepts then .openInstall else .openFailed))
  | .openFailed =>
      (server.setState .environmentClosed,
        .answer (.err s!"environment hook failed: {outside.reason}"))
  | .openInstall => ({ server with engine := true }, .handle .openIdle)
  | .openIdle => (server.setState .idle, .handle (.autostart (.reply (.ok []))))
  -- `env_close`
  | .closeEngine =>
      (server,
        if !server.engine then .answer (.err "no environment")
        else if outside.accepts then .handle .closeActive
        else .answer (.err busyMsg))
  | .closeActive =>
      (server, if server.crew.slot.isActive then .answer (.err busyMsg) else .handle .closeClosing)
  | .closeClosing => (server.setState .closingEnvironment, .handle .closeDrop)
  | .closeDrop => ({ server with engine := false }, .handle .closeClosed)
  | .closeClosed => (server.setState .environmentClosed, .answer (.ok []))
  -- `env_destroy`
  | .destroySlot =>
      (server, if server.engine then .handle .destroyTake else .answer (.err "no environment"))
  | .destroyTake =>
      ({ server with crew := server.crew.take }, .handle (.destroyAbort server.crew.slot.take.2))
  | .destroyAbort task =>
      ({ server with crew := (task.map server.crew.abort).getD server.crew },
        .handle .destroyDestroying)
  | .destroyDestroying => (server.setState .destroyingEnvironment, .handle .destroyDrop)
  | .destroyDrop => ({ server with engine := false }, .handle .destroyClosed)
  | .destroyClosed => (server.setState .environmentClosed, .answer (.ok []))
  -- `manager_stop`
  | .stopTake =>
      ({ server with crew := server.crew.take }, .handle (.stopAbort server.crew.slot.take.2))
  | .stopAbort task =>
      ({ server with crew := (task.map server.crew.abort).getD server.crew }, .handle .stopRequest)
  | .stopRequest => ({ server with stopRequested := true }, .answer (.ok []))
  | .setStop pending =>
      ({ server with manager := { server.manager with queueStopPending := pending } },
        .answer (.ok []))
  | .setAutostart enable =>
      ({ server with manager := { server.manager with queueAutostartEnabled := enable } },
        if enable then .handle (.autostart (.reply (.ok []))) else .answer (.ok []))
  | .setMode mode =>
      ({ server with manager := { server.manager with queueMode := mode } }, .answer (.ok []))
  | .pauseCall defer =>
      if !server.engine then (server, .answer (.err "no environment"))
      else if outside.accepts then (server, .answer (.err "re_pause: no plan is running"))
      else (server.call (.pause defer), .handle .pausePending)
  | .pausePending =>
      ({ server with manager := { server.manager with pausePending := true } }, .answer (.ok []))
  | .clearPause call =>
      ({ server with manager := { server.manager with pausePending := false } },
        .handle (.control call))
  | .control call =>
      if server.engine then (server.call call, .answer (.ok []))
      else (server, .answer (.err "no environment"))
  | .metadata metadata =>
      if server.engine then
        ((metadata.map fun fields => server.call (.mdReplace fields)).getD server, .answer (.ok []))
      else (server, .answer (.err "no environment"))
  | .lockApply environment queue user note key =>
      if keyMatches config server.manager.lock key then
        let lock := server.manager.lock.lock environment queue user note (config.hashKey key)
        ({ server with manager := { server.manager with lock } }, .answer (.ok []))
      else (server, .answer (.err "subsystem already locked"))
  | .lockRelease key =>
      if keyMatches config server.manager.lock key then
        let lock := server.manager.lock.clear
        ({ server with manager := { server.manager with lock } }, .answer (.ok []))
      else (server, .answer (.err "lock_key does not match"))
  -- `lua_eval` and `function_execute`, from the task's registration on
  | .evaluate method _ item =>
      let uid := config.uuid server.minted
      ({ server with tasks := server.tasks.start uid method, minted := server.minted + 1 },
        .handle (.evaluateSpawn uid item))
  | .evaluateSpawn uid item =>
      let manager :=
        { server.manager with workerBackgroundTasks := server.manager.workerBackgroundTasks + 1 }
      ({ server with manager, evaluating := uid :: server.evaluating },
        .answer (.ok ((item.map fun item => ("item", item)).toList ++ [("task_uid", .string uid)])))
  -- `task_status` and `task_result`
  | .taskAccess group uid full =>
      (server,
        match server.tasks.sourceMethod uid with
        | none => .handle (.taskStatus uid full)
        | some source =>
            if classify source = .admin ∧ !server.permissions.isAdmin group then
              .answer (.err (s!"RBAC: task {uid.quote} originated from admin-class method " ++
                s!"'{source}'; non-admin caller cannot poll its status / result"))
            else .handle (.taskStatus uid full))
  | .taskStatus uid full =>
      let status := (server.tasks.status uid).getD "completed"
      (server,
        if full then .handle (.taskOutcome uid status)
        else .answer (.ok [("status", .string status), ("task_uid", .string uid)]))
  | .taskOutcome uid status =>
      (server, .handle (.taskStdout uid status (server.tasks.result uid)))
  | .taskStdout uid status outcome =>
      let stdout := ((server.tasks.result uid).map EvalResult.stdout).getD ""
      (server, .answer (.ok (resultFields uid status outcome stdout)))
  | .reload =>
      match outside.file with
      | .ok permissions =>
          let reloaded : Reply := ⟨true, "permissions reloaded", []⟩
          ({ server with permissions }, .answer reloaded)
      | .error reason => (server, .answer (.err s!"permissions_reload: {reason}"))

/-- One stretch of the rep thread; `none` where it waits for a request or has ended. -/
def Server.serve (config : Config) (outside : Outside) (server : Server) : Option Server :=
  match server.rep with
  | .turn => some { server with rep := if server.down then .closing else .poll }
  | .poll =>
      let polled := server.crew.slot.takeWorkerFinished
      some { server with
        crew := { server.crew with slot := polled.1 }
        rep := if polled.2 then .handle (.autostart .receive) else .receive }
  | .receive => none
  | .handle handler =>
      let (next, rep) := server.advance config outside handler
      some { next with rep }
  | .answer _ =>
      some (if server.stopRequested then { server with down := true, rep := .closing }
        else { server with rep := .turn })
  | .closing =>
      some { server with
        crew := server.crew.take
        rep := .closingAbort server.crew.slot.take.2 }
  | .closingAbort task =>
      some { server with crew := (task.map server.crew.abort).getD server.crew, rep := .gone }
  | .gone => none

/-- Who moves next: a client's request, a receive timeout, the rep thread, a worker at one of its
stretches, the runtime at a worker's await, an evaluation, a shutdown handle. -/
inductive Label where
  | request (request : Request)
  | timeout
  | rep (outside : Outside)
  | work (task : TaskId)
  | park (task : TaskId)
  | wake (task : TaskId)
  | complete (task : TaskId) (outcome : RunOutcome)
  | land (task : TaskId)
  | evaluated (uid : String) (result : EvalResult)
  | reported (uid : String)
  | shutdown
  | shutdownTake
  | shutdownAbort (task : TaskId)

/-- The worker under a task id while its future is alive. -/
def Server.live? (server : Server) (task : TaskId) : Option (Worker WorkerCode) :=
  (server.crew.workers[task]?).filter fun worker => !worker.finished

/-- One step of the whole server. The runtime polls no task that was aborted before the poll, and
an abort lands where a poll would begin: before the first one, or at the await. -/
def Server.step (config : Config) (server : Server) : Label → Option Server
  | .request request =>
      match server.rep with
      | .receive =>
          some { server with
            rep := .handle (dispatch config server request)
            minted := server.minted + mintedBy request.params }
      | _ => none
  | .timeout =>
      match server.rep with
      | .receive => some { server with rep := .turn }
      | _ => none
  | .rep outside => server.serve config outside
  | .work task =>
      (server.live? task).bind fun worker =>
        match worker.code with
        | .run _ _ _ => none
        | .unpolled single =>
            if worker.aborted then none else some (server.work config task (.unpolled single))
        | code => some (server.work config task code)
  | .park task =>
      (server.live? task).bind fun worker =>
        match worker.code with
        | .run job item false => some (server.goto task (.run job item true))
        | _ => none
  | .wake task =>
      (server.live? task).bind fun worker =>
        match worker.code with
        | .run job item true =>
            if worker.aborted then none else some (server.goto task (.run job item false))
        | _ => none
  | .complete task outcome =>
      (server.live? task).bind fun worker =>
        match worker.code with
        | .run job item false => some (server.goto task (.book job item outcome))
        | _ => none
  | .land task =>
      (server.live? task).bind fun worker =>
        match worker.code, worker.aborted with
        | .run _ _ true, true | .unpolled _, true =>
            some { server with crew := server.crew.exit task }
        | _, _ => none
  | .evaluated uid result =>
      if uid ∈ server.evaluating then
        some { server with
          tasks := server.tasks.complete uid result
          evaluating := server.evaluating.erase uid
          reporting := uid :: server.reporting }
      else none
  | .reported uid =>
      if uid ∈ server.reporting then
        let manager :=
          { server.manager with workerBackgroundTasks := server.manager.workerBackgroundTasks - 1 }
        some { server with manager, reporting := server.reporting.erase uid }
      else none
  | .shutdown => some { server with down := true }
  | .shutdownTake =>
      if server.down then some { server with crew := server.crew.take } else none
  | .shutdownAbort task =>
      if server.down ∧ task ∈ server.crew.taken then
        some { server with crew := server.crew.abort task }
      else none

/-- A server every plan name of which builds, with uuids told apart by their length. -/
def Config.plain : Config where
  plan _ := some fun _ => .ok ()
  uuid := {
    toFun := fun count => String.ofList (List.replicate count 'u')
    inj' := by
      intro left right same
      simpa using congrArg String.length same }
  hashKey key := if key = "key" then 1 else 0
  luaEvaluator := true

/-- The outside that lets everything pass. -/
def Outside.willing : Outside where
  accepts := true
  reason := ""
  file := .error "no source file"

/-- A request and the stretches of its handler, with those of the turn before it. -/
def asks (method : String) (params : Json) (stretches : Nat) : List Label :=
  [.rep .willing, .rep .willing, .request ⟨method, params⟩] ++
    List.replicate stretches (.rep .willing)

theorem Server.live?_eq_some {server : Server} {task : TaskId} {worker : Worker WorkerCode} :
    server.live? task = some worker ↔
      server.crew.workers[task]? = some worker ∧ worker.finished = false := by
  simp [live?, Option.filter_eq_some_iff]

/-- A worker moves neither the rep thread nor the count of what was minted. -/
theorem Server.work_rep (config : Config) (server : Server) (task : TaskId) (code : WorkerCode) :
    (server.work config task code).rep = server.rep ∧
      (server.work config task code).minted = server.minted := by
  cases code with
  | unpolled single => cases single <;> exact ⟨rfl, rfl⟩
  | pop =>
      simp only [Server.work]
      split <;> exact ⟨rfl, rfl⟩
  | _ => exact ⟨rfl, rfl⟩

/-- Everything a step can be, with the state of the party that makes it. -/
inductive Server.Moved (config : Config) (server : Server) : Label → Server → Prop where
  | request (waits : server.rep = .receive) (request : Request) :
      Moved config server (.request request)
        { server with
          rep := .handle (dispatch config server request)
          minted := server.minted + mintedBy request.params }
  | timeout (waits : server.rep = .receive) : Moved config server .timeout { server with rep := .turn }
  | rep {next : Server} (outside : Outside) (served : server.serve config outside = some next) :
      Moved config server (.rep outside) next
  | work (task : TaskId) {worker : Worker WorkerCode} (found : server.live? task = some worker)
      (outside : ∀ job item parked, worker.code ≠ .run job item parked)
      (polled : ∀ single, worker.code = .unpolled single → worker.aborted = false) :
      Moved config server (.work task) (server.work config task worker.code)
  | park (task : TaskId) {worker : Worker WorkerCode} {job : Job} {item : QueuedItem}
      (found : server.live? task = some worker) (awaits : worker.code = .run job item false) :
      Moved config server (.park task) (server.goto task (.run job item true))
  | wake (task : TaskId) {worker : Worker WorkerCode} {job : Job} {item : QueuedItem}
      (found : server.live? task = some worker) (awaits : worker.code = .run job item true)
      (polled : worker.aborted = false) :
      Moved config server (.wake task) (server.goto task (.run job item false))
  | complete (task : TaskId) (outcome : RunOutcome) {worker : Worker WorkerCode} {job : Job}
      {item : QueuedItem} (found : server.live? task = some worker)
      (awaits : worker.code = .run job item false) :
      Moved config server (.complete task outcome) (server.goto task (.book job item outcome))
  | land (task : TaskId) {worker : Worker WorkerCode} (found : server.live? task = some worker)
      (aborted : worker.aborted = true)
      (stands : (∃ job item, worker.code = .run job item true) ∨
        ∃ single, worker.code = .unpolled single) :
      Moved config server (.land task) { server with crew := server.crew.exit task }
  | evaluated (uid : String) (result : EvalResult) (running : uid ∈ server.evaluating) :
      Moved config server (.evaluated uid result)
        { server with
          tasks := server.tasks.complete uid result
          evaluating := server.evaluating.erase uid
          reporting := uid :: server.reporting }
  | reported (uid : String) (counted : uid ∈ server.reporting) :
      Moved config server (.reported uid)
        { server with
          manager :=
            { server.manager with workerBackgroundTasks := server.manager.workerBackgroundTasks - 1 }
          reporting := server.reporting.erase uid }
  | shutdown : Moved config server .shutdown { server with down := true }
  | shutdownTake (down : server.down = true) :
      Moved config server .shutdownTake { server with crew := server.crew.take }
  | shutdownAbort (task : TaskId) (down : server.down = true) (taken : task ∈ server.crew.taken) :
      Moved config server (.shutdownAbort task) { server with crew := server.crew.abort task }

theorem Server.moved {config : Config} {server next : Server} {label : Label}
    (stepped : server.step config label = some next) : server.Moved config label next := by
  cases label with
  | request request =>
      cases waits : server.rep <;> simp only [step, waits, reduceCtorEq, Option.some.injEq] at stepped
      cases stepped
      exact .request waits request
  | timeout =>
      cases waits : server.rep <;> simp only [step, waits, reduceCtorEq, Option.some.injEq] at stepped
      cases stepped
      exact .timeout waits
  | rep outside => exact .rep outside stepped
  | work task =>
      obtain ⟨worker, found, moved⟩ := Option.bind_eq_some_iff.mp stepped
      cases code : worker.code with
      | run job item parked => simp [code] at moved
      | unpolled single =>
          simp only [code, Option.ite_none_left_eq_some, Bool.not_eq_true] at moved
          obtain ⟨polled, same⟩ := moved
          cases same
          rw [← code]
          refine .work task found ?_ fun _ _ => polled
          simp [code]
      | _ =>
          simp only [code, Option.some.injEq] at moved
          cases moved
          rw [← code]
          refine .work task found ?_ ?_ <;> simp [code]
  | park task =>
      obtain ⟨worker, found, moved⟩ := Option.bind_eq_some_iff.mp stepped
      split at moved
      · next job item awaits =>
          cases moved
          exact .park task found awaits
      · cases moved
  | wake task =>
      obtain ⟨worker, found, moved⟩ := Option.bind_eq_some_iff.mp stepped
      split at moved
      · next job item awaits =>
          simp only [Option.ite_none_left_eq_some, Bool.not_eq_true] at moved
          obtain ⟨polled, same⟩ := moved
          cases same
          exact .wake task found awaits polled
      · cases moved
  | complete task outcome =>
      obtain ⟨worker, found, moved⟩ := Option.bind_eq_some_iff.mp stepped
      split at moved
      · next job item awaits =>
          cases moved
          exact .complete task outcome found awaits
      · cases moved
  | land task =>
      obtain ⟨worker, found, moved⟩ := Option.bind_eq_some_iff.mp stepped
      split at moved
      · next job item awaits aborted =>
          cases moved
          exact .land task found aborted (Or.inl ⟨job, item, awaits⟩)
      · next single awaits aborted =>
          cases moved
          exact .land task found aborted (Or.inr ⟨single, awaits⟩)
      · cases moved
  | evaluated uid result =>
      simp only [step, Option.ite_none_right_eq_some] at stepped
      obtain ⟨running, same⟩ := stepped
      cases same
      exact .evaluated uid result running
  | reported uid =>
      simp only [step, Option.ite_none_right_eq_some] at stepped
      obtain ⟨counted, same⟩ := stepped
      cases same
      exact .reported uid counted
  | shutdown =>
      cases stepped
      exact .shutdown
  | shutdownTake =>
      simp only [step, Option.ite_none_right_eq_some] at stepped
      obtain ⟨down, same⟩ := stepped
      cases same
      exact .shutdownTake down
  | shutdownAbort task =>
      simp only [step, Option.ite_none_right_eq_some] at stepped
      obtain ⟨⟨down, taken⟩, same⟩ := stepped
      cases same
      exact .shutdownAbort task down taken

end Bsrs.Qs
