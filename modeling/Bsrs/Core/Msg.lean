import Bsrs.Core.Error

namespace Bsrs.Core

open Bsrs.Library (Table)
open Bsrs.EventModel (Value Uid Document)

/-- The run a message is routed to; `none` is the default run. -/
abbrev RunKey := Option String

abbrev GroupId := String

abbrev SubscriptionId := Nat

/-- A contingency sink, by its place in the table of sinks a call created. -/
abbrev SinkId := Nat

/-- A device behind one of the object traits: its identity and the capabilities the engine asks. -/
structure Obj where
  ptr : Nat
  name : String
  hintFields : Option (List String)
  configurable : Bool
  collectable : Bool
  writesExternalAssets : Bool
  deriving Repr, DecidableEq

structure RunMetadata where
  scanId : Option Nat
  extra : Table String Value
  planName : Option String
  deriving DecidableEq

/-- The objects a `DeclareStream` is described from. -/
inductive StreamObjs where
  | readable (objs : List Obj)
  | collectable (objs : List Obj)
  deriving Repr, DecidableEq

/-- `Msg`: the commands a plan can issue. -/
inductive Msg where
  | openRun (metadata : RunMetadata)
  | closeRun (exitStatus : String) (reason : Option String)
  | inRun (run : String) (inner : Msg)
  | create (streamName : String)
  | save
  | drop
  | declareStream (streamName : String) (objs : StreamObjs)
  | read (obj : Obj)
  | set (obj : Obj) (value : Value) (group : Option GroupId)
  | trigger (obj : Obj) (group : Option GroupId)
  | stage (obj : Obj)
  | unstage (obj : Obj)
  | stop (obj : Obj) (success : Bool)
  | kickoff (obj : Obj) (group : Option GroupId)
  | complete (obj : Obj) (group : Option GroupId)
  | collect (obj : Obj) (streamName : Option String)
  | locate (obj : Obj)
  | monitor (obj : Obj) (name : Option String)
  | unmonitor (obj : Obj)
  | wait (group : GroupId) (errorOnTimeout : Bool) (timeout : Option String)
  | sleep (duration : String)
  | checkpoint
  | clearCheckpoint
  | pause (defer : Bool)
  | configure (obj : Obj) (args : Value)
  | prepare (obj : Obj) (value : Value) (group : Option GroupId)
  | waitFor (factories : List Nat) (timeout : Option String)
  | registerPausable (obj : Obj)
  | unregisterPausable (obj : Obj)
  | input (prompt : String)
  | reClass
  | subscribe (callback : Nat)
  | unsubscribe (id : SubscriptionId)
  | fail (reason : String)
  | raise (thrown : Thrown)
  | resume
  | installSuspender (id : Nat) (suspender : Option String)
  | removeSuspender (id : Nat)
  | rewindable (on : Bool)
  | custom (name : String) (payload : Value)
  | publish (doc : Document)
  | pushContingency (sink : SinkId)
  | popContingency
  | null
  deriving DecidableEq

def Msg.isRaise : Msg → Bool
  | .raise _ => true
  | _ => false

/-- `Msg::is_cacheable`: whether a rewindable region remembers the message for its replay. -/
@[simp]
def Msg.isCacheable : Msg → Bool
  | .inRun _ inner => inner.isCacheable
  | .openRun _ | .closeRun _ _ | .pause _ | .resume | .checkpoint | .clearCheckpoint
  | .monitor _ _ | .unmonitor _ | .installSuspender _ _ | .removeSuspender _
  | .registerPausable _ | .unregisterPausable _ | .rewindable _ | .custom _ _ | .publish _
  | .locate _ | .input _ | .reClass | .subscribe _ | .unsubscribe _ | .fail _ | .raise _
  | .pushContingency _ | .popContingency | .null => false
  | _ => true

/-- One field's reading. -/
structure ReadingValue where
  value : Value
  timestamp : Value
  deriving Repr, DecidableEq

/-- `MsgResult`: what the engine hands back for the message it handled last. -/
inductive MsgResult where
  | none
  | openRun (uid : Uid)
  | status (group : GroupId)
  | waitComplete (done : Bool)
  | reading (data : Table String ReadingValue)
  | location (setpoint readback : Value)
  | closeRun (exitStatus : String)
  | input (text : String)
  | engineClass (name : String)
  | subscriptionId (id : SubscriptionId)
  deriving DecidableEq

/-- `PlanItem`: a message, and whether the plan waits for its result. -/
inductive PlanItem where
  | bare (msg : Msg)
  | respond (msg : Msg)
  deriving DecidableEq

def PlanItem.msg : PlanItem → Msg
  | .bare msg => msg
  | .respond msg => msg

end Bsrs.Core
