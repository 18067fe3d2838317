import Bsrs.Qs.Queue

namespace Bsrs.Qs

open Bsrs.Core (Json)

/-- `EState`, the public manager state. -/
inductive EState where
  | environmentClosed
  | idle
  | executingQueue
  | paused
  | aborting
  | creatingEnvironment
  | closingEnvironment
  | destroyingEnvironment
  deriving Repr, DecidableEq

/-- The name `Debug` prints. -/
def EState.debug : EState → String
  | .environmentClosed => "EnvironmentClosed"
  | .idle => "Idle"
  | .executingQueue => "ExecutingQueue"
  | .paused => "Paused"
  | .aborting => "Aborting"
  | .creatingEnvironment => "CreatingEnvironment"
  | .closingEnvironment => "ClosingEnvironment"
  | .destroyingEnvironment => "DestroyingEnvironment"

/-- `LockInfo`; `revision` stands for the uid that every change bumps. -/
structure LockInfo where
  queue : Bool
  environment : Bool
  user : Option String
  note : Option String
  keyHash : Option Nat
  revision : Nat
  deriving Repr, DecidableEq

namespace LockInfo

def unlocked : LockInfo where
  queue := false
  environment := false
  user := none
  note := none
  keyHash := none
  revision := 0

def lock (info : LockInfo) (environment queue : Bool) (user note : Option String) (keyHash : Nat) :
    LockInfo where
  queue
  environment
  user
  note
  keyHash := some keyHash
  revision := info.revision + 1

def clear (info : LockInfo) : LockInfo :=
  { unlocked with revision := info.revision + 1 }

def isLocked (info : LockInfo) : Bool :=
  info.environment || info.queue

end LockInfo

/-- `EngineState`, what the handlers and the worker share under one lock. -/
structure EngineState where
  state : EState
  currentRunUid : Option String
  currentItem : Option QueuedItem
  plansRun : Nat
  plansFailed : Nat
  /-- Recent runs as (uid, is_open) pairs, most recent last. -/
  reRuns : List (String × Bool)
  queueStopPending : Bool
  pausePending : Bool
  workerBackgroundTasks : Nat
  queueAutostartEnabled : Bool
  queueMode : List (String × Json)
  lock : LockInfo

namespace EngineState

/-- `EngineState::initial`. -/
def initial : EngineState where
  state := .environmentClosed
  currentRunUid := none
  currentItem := none
  plansRun := 0
  plansFailed := 0
  reRuns := []
  queueStopPending := false
  pausePending := false
  workerBackgroundTasks := 0
  queueAutostartEnabled := false
  queueMode := [("loop", .bool false)]
  lock := .unlocked

/-- Whether the queue mode has `loop` on. -/
def loops (manager : EngineState) : Bool :=
  ((manager.queueMode.lookup "loop").bind Json.asBool).getD false

/-- `idle_out`. -/
def idleOut (manager : EngineState) (disableAutostart : Bool) : EngineState :=
  { manager with
    state := .idle
    pausePending := false
    currentItem := none
    queueAutostartEnabled := manager.queueAutostartEnabled && !disableAutostart }

/-- The running item goes public: the start of `run_plan_item`. -/
def publish (manager : EngineState) (item : QueuedItem) : EngineState :=
  { manager with state := .executingQueue, currentItem := some item }

/-- A run is entered among the recent ones, of which the last 64 are kept. -/
def recordRun (runs : List (String × Bool)) (runUid : String) : List (String × Bool) :=
  let closed := runs.map fun run => if run.1 == runUid then (run.1, false) else run
  let grown := closed ++ [(runUid, false)]
  grown.drop (grown.length - 64)

/-- The bookkeeping of `run_plan_item` after the run. -/
def book (manager : EngineState) (exitStatus : String) (runUid : Option String) : EngineState :=
  { manager with
    plansRun := manager.plansRun + 1
    currentRunUid := runUid
    currentItem := none
    reRuns := match runUid with
      | some uid => recordRun manager.reRuns uid
      | none => manager.reRuns
    plansFailed :=
      if exitStatus = "abort" ∨ exitStatus = "fail" ∨ exitStatus = "halt" then
        manager.plansFailed + 1
      else manager.plansFailed }

end EngineState

end Bsrs.Qs
