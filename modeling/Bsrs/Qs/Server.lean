import Mathlib.Logic.Embedding.Basic
import Bsrs.Qs.Crew
import Bsrs.Qs.Edit
import Bsrs.Qs.Permissions
import Bsrs.Qs.State
import Bsrs.Qs.Tasks

namespace Bsrs.Qs

open Bsrs.Core (Json)

/-- What the server is built with: the registered plan factories, the uuids it will mint, the hash
of a lock key, and whether a Lua evaluator is wired. -/
structure Config where
  plan : String → Option (Json → Except String Unit)
  uuid : Nat ↪ String
  hashKey : String → Nat
  luaEvaluator : Bool

/-- What `run_plan_item` reads off a run of the engine. -/
structure RunOutcome where
  exitStatus : String
  runUid : Option String
  reason : String
  deriving Repr, DecidableEq

/-- `item_completed`. -/
def itemCompleted (exitStatus : String) : Bool :=
  exitStatus == "success" || exitStatus == "no-run"

/-- Which of the two worker functions runs an item. -/
inductive Job where
  | queue
  | single
  deriving Repr, DecidableEq

/-- Where a worker stands: one constructor for each stretch of `execute_queue_loop`,
`run_plan_item` and `execute_single_item` under one hold of a lock. -/
inductive WorkerCode where
  /-- Spawned and not yet polled; a single item to execute, or the queue. -/
  | unpolled (single : Option QueuedItem)
  | checkStop
  | clearStop
  | pop
  | archiveStop (item : QueuedItem)
  | setStop
  | countFailed (item : QueuedItem) (reason : String)
  | archiveFail (item : QueuedItem) (reason : String)
  | publish (job : Job) (item : QueuedItem)
  /-- At the one await: `parked` when the run's future returned `Pending`. -/
  | run (job : Job) (item : QueuedItem) (parked : Bool)
  | book (job : Job) (item : QueuedItem) (outcome : RunOutcome)
  | archive (job : Job) (item : QueuedItem) (outcome : RunOutcome)
  | readMode (item : QueuedItem) (completed : Bool)
  | requeue (item : QueuedItem) (completed : Bool)
  | idleOut (disableAutostart : Bool)
  /-- About to return, which drops the claim. -/
  | leave

/-- What a start is for: a `queue_start` request, an autostart with what the rep thread does after
it, or a `queue_item_execute` request. -/
inductive After where
  | reply (reply : Reply)
  | receive

inductive Purpose where
  | start
  | autostart (after : After)
  | execute (item : QueuedItem)

/-- A call of a handler on the open engine. -/
inductive EngineCall where
  | pause (defer : Bool)
  | resume
  | abort (reason : String)
  | halt (reason : String)
  | stop
  | mdReplace (metadata : List (String × Json))

/-- Where a request handler stands: one constructor for each stretch under one hold of a lock. -/
inductive Handler where
  | reply (reply : Reply)
  | edit (edit : QueueEdit) (autostarts : Bool)
  | resolve (uid : String) (pos : Option Json)
  | autostart (after : After)
  | startEngine (purpose : Purpose)
  | startState (purpose : Purpose)
  | startClaim (purpose : Purpose)
  | startSpawn (purpose : Purpose) (generation : Nat)
  | startRegister (purpose : Purpose) (task : TaskId) (generation : Nat)
  | executeReply (item : QueuedItem)
  | openSlot
  | openCreating
  | openHook
  | openFailed
  | openInstall
  | openIdle
  | closeEngine
  | closeActive
  | closeClosing
  | closeDrop
  | closeClosed
  | destroySlot
  | destroyTake
  | destroyAbort (task : Option TaskId)
  | destroyDestroying
  | destroyDrop
  | destroyClosed
  | stopTake
  | stopAbort (task : Option TaskId)
  | stopRequest
  | setStop (pending : Bool)
  | setAutostart (enable : Bool)
  | setMode (mode : List (String × Json))
  | pauseCall (defer : Bool)
  | pausePending
  | clearPause (call : EngineCall)
  | control (call : EngineCall)
  | metadata (metadata : Option (List (String × Json)))
  | lockApply (environment queue : Bool) (user note : Option String) (key : String)
  | lockRelease (key : String)
  | evaluate (method source : String) (item : Option Json)
  | evaluateSpawn (uid : String) (item : Option Json)
  | taskAccess (group uid : String) (full : Bool)
  | taskStatus (uid : String) (full : Bool)
  | taskOutcome (uid status : String)
  | taskStdout (uid status : String) (outcome : Option EvalResult)
  | reload

/-- The rep thread: a turn of `rep_loop`, a request in hand, the exit of the loop. -/
inductive Rep where
  | turn
  | poll
  | receive
  | handle (handler : Handler)
  | answer (reply : Reply)
  | closing
  | closingAbort (task : Option TaskId)
  | gone

/-- The server: what the rep thread, the workers and the shutdown handles share, and where each
of them stands. -/
structure Server where
  queue : PlanQueue
  manager : EngineState
  /-- Whether the engine slot holds an engine. -/
  engine : Bool
  crew : Crew WorkerCode
  rep : Rep
  permissions : Permissions
  tasks : TaskTracker
  /-- Evaluations whose result is still to come, and those reported but still counted. -/
  evaluating : List String
  reporting : List String
  engineCalls : List EngineCall
  stopRequested : Bool
  /-- The socket was shut down. -/
  down : Bool
  minted : Nat

namespace Server

/-- A server as built; `seeded` when the caller pre-opened the engine and marked it idle. -/
def initial (permissions : Permissions) (seeded : Bool) : Server where
  queue := .new
  manager := { EngineState.initial with state := if seeded then .idle else .environmentClosed }
  engine := seeded
  crew := .new
  rep := .turn
  permissions
  tasks := .new
  evaluating := []
  reporting := []
  engineCalls := []
  stopRequested := false
  down := false
  minted := 0

def setState (server : Server) (state : EState) : Server :=
  { server with manager := { server.manager with state } }

/-- Move a worker on. -/
def goto (server : Server) (task : TaskId) (code : WorkerCode) : Server :=
  { server with crew := server.crew.modify task fun worker => { worker with code } }

@[simp]
theorem goto_queue (server : Server) (task : TaskId) (code : WorkerCode) :
    (server.goto task code).queue = server.queue := rfl

@[simp]
theorem goto_manager (server : Server) (task : TaskId) (code : WorkerCode) :
    (server.goto task code).manager = server.manager := rfl

def call (server : Server) (call : EngineCall) : Server :=
  { server with engineCalls := server.engineCalls ++ [call] }

end Server

/-- The result an item that could not start is archived with. -/
def failResult (reason : String) : Json :=
  .object [("exit_status", .string "fail"), ("reason", .string reason)]

/-- The result an item that ran is archived with. -/
def runResult (outcome : RunOutcome) : Json :=
  .object [("exit_status", .string outcome.exitStatus),
    ("run_uid", (outcome.runUid.map Json.string).getD .null), ("reason", .string outcome.reason)]

/-- What `execute_queue_loop` does with the item it popped. -/
def itemCode (config : Config) (item : QueuedItem) : WorkerCode :=
  if item.itemType = "instruction" then
    if item.name = "queue_stop" then .archiveStop item
    else .archiveFail item s!"unknown instruction: {item.name}"
  else
    match config.plan item.name with
    | none => .countFailed item "unknown plan"
    | some factory =>
        match factory item.planArgs with
        | .error reason => .countFailed item s!"plan build failed: {reason}"
        | .ok () => .publish .queue item

/-- After the archive: the queue worker looks at the loop mode, `execute_single_item` idles out. -/
def afterArchive (job : Job) (item : QueuedItem) (completed : Bool) : WorkerCode :=
  match job with
  | .queue => .readMode item completed
  | .single => .idleOut !completed

/-- The end of a turn of `execute_queue_loop`. -/
def nextTurn (completed : Bool) : WorkerCode :=
  if completed then .checkStop else .idleOut true

/-- One stretch of a worker, outside its await. -/
def Server.work (config : Config) (server : Server) (task : TaskId) : WorkerCode → Server
  | .unpolled none => server.goto task .checkStop
  | .unpolled (some item) => server.goto task (.publish .single item)
  | .checkStop => server.goto task (if server.manager.queueStopPending then .clearStop else .pop)
  | .clearStop =>
      { server with manager := { server.manager with queueStopPending := false } }.goto task
        (.idleOut true)
  | .pop =>
      match server.queue.popFront with
      | some (item, queue) => { server with queue }.goto task (itemCode config item)
      | none => server.goto task (.idleOut false)
  | .archiveStop item =>
      let archived := item.withResult (.object [("exit_status", .string "completed")])
      { server with queue := server.queue.pushHistory archived }.goto task .setStop
  | .setStop =>
      { server with manager := { server.manager with queueStopPending := true } }.goto task
        .checkStop
  | .countFailed item reason =>
      { server with
        manager := { server.manager with plansFailed := server.manager.plansFailed + 1 } }.goto task
          (.archiveFail item reason)
  | .archiveFail item reason =>
      { server with queue := server.queue.pushHistory (item.withResult (failResult reason)) }.goto
        task (.idleOut true)
  | .publish job item =>
      { server with manager := server.manager.publish item }.goto task (.run job item false)
  | .run _ _ _ => server
  | .book job item outcome =>
      { server with manager := server.manager.book outcome.exitStatus outcome.runUid }.goto task
        (.archive job item outcome)
  | .archive job item outcome =>
      { server with queue := server.queue.pushHistory (item.withResult (runResult outcome)) }.goto
        task (afterArchive job item (itemCompleted outcome.exitStatus))
  | .readMode item completed =>
      server.goto task (if server.manager.loops then .requeue item completed else nextTurn completed)
  | .requeue item completed =>
      { server with queue := server.queue.pushBack item }.goto task (nextTurn completed)
  | .idleOut disableAutostart =>
      { server with manager := server.manager.idleOut disableAutostart }.goto task .leave
  | .leave => { server with crew := server.crew.exit task }

end Bsrs.Qs
