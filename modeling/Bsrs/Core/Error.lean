import Bsrs.EventModel.Documents

namespace Bsrs.Core

open Bsrs.EventModel (Uid)

/-- The message sequences and payloads the engine rejects with `BsrsError::Plan`, one per text. -/
inductive PlanError where
  | inRunNested
  | closeRunWithoutOpenRun
  | createNoOpenRun
  | createBundleOpen
  | saveNoOpenRun
  | saveNoOpenBundle
  | saveUnknownStream
  | saveUnanchoredDatum
  | saveLostRun
  | dropNoOpenRun
  | dropNoOpenBundle
  | declareStreamNoOpenRun
  | declareStreamMismatch (object stream : String) (got : List String)
  | readNoOpenBundle
  | readCollision (key : String)
  | kickoffNoOpenRun
  | collectNoOpenRun
  | collectUndeclared (stream object : String)
  | collectSeveralStreams (object : String) (streams : List String)
  | collectDescriptorLost
  | collectLostRun
  | collectNoCounter (stream : String)
  | collectLostRunMidProcess
  | collectUnknownStream
  | monitorNoOpenRun
  | monitorAlreadyMonitored (object : String)
  | monitorStartNoOpenRun
  | monitorKeyUndeclared (object key : String)
  | unmonitorNotMonitored (object : String)
  | checkpointInBundle
  | configureInBundle
  | suspenderPayload
  | noInputHandler
  | unknownCommand (name : String)
  | raiseRouted
  | openRunWhileOpen
  | resourceTwice (uid : String)
  | resourceUnknownKey (dataKey : String) (external : List String)
  | datumPrefilled (uid : String) (start stop : Nat)
  | datumUnknownResource (resource : String)
  | datumWidth (uid : String) (width other : Nat)
  | datumCoverage (received external : List String)
  | planFailed (reason : String)
  deriving Repr, DecidableEq

/-- `StatusError`. -/
inductive StatusError where
  | cancelled
  | timeout
  | failed (reason : String)
  deriving Repr, DecidableEq

/-- `BsrsError`, with what devices and hooks fail with under `other`; `panicked` is a panic
unwinding out of the handler. -/
inductive BsrsError where
  | backend (reason : String)
  | timeout (after : String)
  | cancelled
  | plan (error : PlanError)
  | status (error : StatusError)
  | other (text : String)
  | panicked
  deriving Repr, DecidableEq

/-- `Interrupt`: a request thrown into the plan. -/
inductive Interrupt where
  | stop
  | abort
  deriving Repr, DecidableEq

def Interrupt.exitStatus : Interrupt → String
  | .stop => "success"
  | .abort => "abort"

/-- `Thrown`: what the engine throws into the plan at a `yield`. -/
inductive Thrown where
  | error (error : BsrsError)
  | interrupt (kind : Interrupt) (reason : Option String)
  deriving Repr, DecidableEq

private def quoted (texts : List String) : String :=
  "[" ++ String.intercalate ", " (texts.map fun text => "\"" ++ text ++ "\"") ++ "]"

private def braced (texts : List String) : String :=
  "\x7b" ++ String.intercalate ", " (texts.map fun text => "\"" ++ text ++ "\"") ++ "\x7d"

/-- The message each rejection carries. -/
def PlanError.text : PlanError → String
  | .inRunNested => "InRun cannot be nested"
  | .closeRunWithoutOpenRun => "CloseRun without an open run"
  | .createNoOpenRun => "Create with no open run"
  | .createBundleOpen => "create called while a previous bundle is still open"
  | .saveNoOpenRun => "Save with no open run"
  | .saveNoOpenBundle => "save with no open bundle"
  | .saveUnknownStream => "event for unknown stream"
  | .saveUnanchoredDatum =>
      "Save drained StreamDatum documents but composed no Event to anchor their seq_nums"
  | .saveLostRun => "Save lost open run before stream docs"
  | .dropNoOpenRun => "Drop with no open run"
  | .dropNoOpenBundle => "drop with no open bundle"
  | .declareStreamNoOpenRun => "DeclareStream with no open run"
  | .declareStreamMismatch object stream got =>
      "declare_stream: expected " ++ object ++ " to collect into the single stream \"" ++ stream ++
        "\", got " ++ quoted got
  | .readNoOpenBundle => "read with no open bundle"
  | .readCollision key => "Data keys (field names) collide in the open event: '" ++ key ++ "'"
  | .kickoffNoOpenRun => "Kickoff sent but no run is open"
  | .collectNoOpenRun => "A 'collect' message was sent but no run is open"
  | .collectUndeclared stream object =>
      "collect: stream \"" ++ stream ++ "\" was given for " ++ object ++
        " but declare_stream was not called for it first"
  | .collectSeveralStreams object streams =>
      "collect: " ++ object ++ " has several declared streams " ++ braced streams ++
        "; pass the stream name"
  | .collectDescriptorLost => "Collect with no open run"
  | .collectLostRun => "Collect lost open run before stream docs"
  | .collectNoCounter stream =>
      "Collect stream " ++ stream ++ " has a descriptor but no sequence counter"
  | .collectLostRunMidProcess =>
      "Collect lost open run mid-process (bundler cleared while collect_dyn was awaiting)"
  | .collectUnknownStream => "event for unknown stream"
  | .monitorNoOpenRun => "A 'monitor' message was sent but no run is open"
  | .monitorAlreadyMonitored object =>
      "A 'monitor' message was sent for " ++ object ++ " which is already monitored"
  | .monitorStartNoOpenRun => "Monitor with no open run"
  | .monitorKeyUndeclared object key =>
      "Monitor: " ++ object ++ " streams data key \"" ++ key ++
        "\", which its describe() does not declare"
  | .unmonitorNotMonitored object =>
      "Cannot 'unmonitor' " ++ object ++ "; it is not being monitored"
  | .checkpointInBundle => "Cannot 'checkpoint' after 'create' and before 'save'"
  | .configureInBundle => "Cannot configure after 'create' but before 'save'"
  | .suspenderPayload => "InstallSuspender payload was not Arc<dyn Suspender>"
  | .noInputHandler => "Msg::Input issued but no input handler installed"
  | .unknownCommand name => "unknown custom command: " ++ name
  | .raiseRouted => "Raise cannot be routed to a run"
  | .openRunWhileOpen => "OpenRun while a previous run is still open"
  | .resourceTwice uid => "Received stream_resource with uid " ++ uid ++ " twice"
  | .resourceUnknownKey dataKey external =>
      "Received a stream_resource with data_key " ++ dataKey ++
        " that is not in the descriptor 'STREAM:' data_keys " ++ quoted external
  | .datumPrefilled uid start stop =>
      "StreamDatum " ++ uid ++ " arrived with pre-filled seq_nums [" ++ toString start ++ ", " ++
        toString stop ++
        "); the run engine owns the sequence counter and writers must emit seq_nums \x7b0, 0\x7d"
  | .datumUnknownResource resource =>
      "Received a stream_datum referring to an unknown stream resource " ++ resource
  | .datumWidth uid width other =>
      "StreamDatum " ++ uid ++ " spans " ++ toString width ++
        " indices but another datum in the same drain spans " ++ toString other ++
        "; every detector in a stream must advance by the same number of indices"
  | .datumCoverage received external =>
      "Received stream_datum for the data keys " ++ braced received ++
        ", but the descriptor's 'STREAM:' data keys are " ++ quoted external ++
        "; every external data key must receive a stream_datum in the same drain"
  | .planFailed reason => reason

/-- `StatusError`'s display text. -/
def StatusError.text : StatusError → String
  | .cancelled => "cancelled"
  | .timeout => "timed out"
  | .failed reason => reason

/-- `BsrsError`'s display text. -/
def BsrsError.text : BsrsError → String
  | .backend reason => "backend error: " ++ reason
  | .timeout after => "timeout after " ++ after
  | .cancelled => "cancelled"
  | .plan error => "plan logic error: " ++ error.text
  | .status error => "status: " ++ error.text
  | .other text => text
  | .panicked => "panicked"

end Bsrs.Core
