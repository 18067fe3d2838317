import Bsrs.Library.Table

namespace Bsrs.EventModel

open Bsrs.Library (Table)

/-- A JSON value, by its text; the engine only hands values on. -/
abbrev Value := String

/-- A document uid: the n-th one the process minted. -/
abbrev Uid := Nat

/-- `RunStop.exit_status`, as the event-model schema constrains it. -/
inductive ExitStatus where
  | success
  | abort
  | fail
  deriving Repr, DecidableEq

/-- `ExitStatus::from_str`. -/
def ExitStatus.parse : String → Option ExitStatus
  | "success" => some .success
  | "abort" => some .abort
  | "fail" => some .fail
  | _ => none

/-- One data key; `schema` is the text of the fields nothing here reads. -/
structure DataKey where
  schema : String
  external : Option String
  objectName : Option String
  deriving Repr, DecidableEq

structure Configuration where
  data : Table String Value
  dataKeys : Table String DataKey
  timestamps : Table String Value
  deriving DecidableEq

def Configuration.empty : Configuration where
  data := ∅
  dataKeys := ∅
  timestamps := ∅

structure PerObjectHint where
  fields : Option (List String)
  deriving Repr, DecidableEq

structure RunStart where
  uid : Uid
  scanId : Option Nat
  extra : Table String Value
  deriving DecidableEq

structure EventDescriptor where
  uid : Uid
  runStart : Uid
  dataKeys : Table String DataKey
  configuration : Table String Configuration
  name : Option String
  hints : Option (Table String PerObjectHint)
  objectKeys : Table String (List String)
  deriving DecidableEq

structure Event where
  uid : Uid
  descriptor : Uid
  seqNum : Nat
  data : Table String Value
  timestamps : Table String Value
  deriving DecidableEq

structure EventPage where
  uid : List Uid
  descriptor : Uid
  seqNum : List Nat
  deriving Repr, DecidableEq

structure RunStop where
  uid : Uid
  runStart : Uid
  exitStatus : ExitStatus
  reason : Option String
  numEvents : Table String Nat
  deriving DecidableEq

/-- A half-open range `[start, stop)`. -/
structure StreamRange where
  start : Nat
  stop : Nat
  deriving Repr, DecidableEq

structure StreamResource where
  uid : String
  dataKey : String
  runStart : Option Uid
  deriving Repr, DecidableEq

structure StreamDatum where
  uid : String
  streamResource : String
  descriptor : Uid
  indices : StreamRange
  seqNums : StreamRange
  deriving Repr, DecidableEq

/-- `Document`; the legacy asset documents are carried by their text. -/
inductive Document where
  | start (doc : RunStart)
  | descriptor (doc : EventDescriptor)
  | event (doc : Event)
  | eventPage (doc : EventPage)
  | resource (text : String)
  | datum (text : String)
  | datumPage (text : String)
  | streamResource (doc : StreamResource)
  | streamDatum (doc : StreamDatum)
  | stop (doc : RunStop)
  deriving DecidableEq

def Document.isDescriptor : Document → Bool
  | .descriptor _ => true
  | _ => false

def Document.isStreamDatum : Document → Bool
  | .streamDatum _ => true
  | _ => false

end Bsrs.EventModel
