import Bsrs.Core.Json

namespace Bsrs.Qs

/-- `EvalResult`. -/
structure EvalResult where
  stdout : String
  returnValue : Option String
  error : Option String
  deriving Repr, DecidableEq

def EvalResult.isSuccess (result : EvalResult) : Bool :=
  result.error.isNone

/-- `TaskEntry`; `outcome` is `none` while the task is running. -/
structure TaskEntry where
  outcome : Option EvalResult
  sourceMethod : String
  deriving Repr, DecidableEq

/-- `TaskTracker`: the entries by uid, and the uids oldest first. -/
structure TaskTracker where
  entries : List (String × TaskEntry)
  order : List String
  deriving Repr, DecidableEq

namespace TaskTracker

def maxTasks : Nat := 256

def new : TaskTracker where
  entries := []
  order := []

/-- `start`, which evicts the oldest entry at capacity. -/
def start (tracker : TaskTracker) (uid sourceMethod : String) : TaskTracker :=
  let kept : TaskTracker :=
    if maxTasks ≤ tracker.entries.length then
      match tracker.order with
      | old :: rest =>
          { entries := tracker.entries.filter fun entry => entry.1 != old, order := rest }
      | [] => tracker
    else tracker
  { entries := (uid, ⟨none, sourceMethod⟩) :: kept.entries.filter fun entry => entry.1 != uid
    order := kept.order ++ [uid] }

def sourceMethod (tracker : TaskTracker) (uid : String) : Option String :=
  (tracker.entries.lookup uid).map TaskEntry.sourceMethod

/-- `complete`: no effect on an unknown uid. -/
def complete (tracker : TaskTracker) (uid : String) (result : EvalResult) : TaskTracker :=
  { tracker with
    entries := tracker.entries.map fun entry =>
      if entry.1 == uid then (entry.1, { entry.2 with outcome := some result }) else entry }

def status (tracker : TaskTracker) (uid : String) : Option String :=
  (tracker.entries.lookup uid).map fun entry =>
    match entry.outcome with
    | none => "running"
    | some result => if result.isSuccess then "completed" else "failed"

def result (tracker : TaskTracker) (uid : String) : Option EvalResult :=
  (tracker.entries.lookup uid).bind TaskEntry.outcome

end TaskTracker

end Bsrs.Qs
